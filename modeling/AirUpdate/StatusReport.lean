/-
  Air updates — status reports.

  A notification of the status characteristic is a code, followed by a
  fragment id if the code carries one (`Status.carriesId`).  `toBytes` writes
  a report and `ofBytes` reads one; reading looks only at the bytes that the
  status defines and ignores what follows them.
-/
import AirUpdate.Bytes
import AirUpdate.Status

namespace AirUpdate

/-- A report on the status characteristic. -/
structure StatusReport where
  status : Status
  /-- where the device stands, for the statuses that carry it -/
  fragmentId : Option UInt8
  deriving DecidableEq, Repr

/-- Why a notification is no report. -/
inductive ReportError where
  | empty
  /-- the first byte is no known code -/
  | unknownStatus (code : UInt8)
  /-- the status carries a fragment id and there is none -/
  | missingFragmentId (status : Status)
  deriving DecidableEq, Repr

def ReportError.message : ReportError → String
  | .empty => "empty status notification"
  | .unknownStatus code => "unknown status code 0x" ++ String.ofList (hexByte code)
  | .missingFragmentId status => status.label ++ " report is missing its fragment id"

namespace StatusReport

/-- A report on the wire: its code, then its id if it has one. -/
def toBytes (r : StatusReport) : Bytes :=
  r.status.toByte :: r.fragmentId.toList

/-- The report in a notification. -/
def ofBytes : Bytes → Except ReportError StatusReport
  | [] => .error .empty
  | code :: rest =>
    match Status.ofByte? code with
    | none => .error (.unknownStatus code)
    | some status =>
      if status.carriesId then
        match rest with
        | [] => .error (.missingFragmentId status)
        | id :: _ => .ok ⟨status, some id⟩
      else .ok ⟨status, none⟩

end StatusReport

end AirUpdate
