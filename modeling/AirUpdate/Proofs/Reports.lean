/-
  Air updates — reading and writing status reports.

  A byte string begins with a report if its first byte is the code of a status and,
  should the status carry one, a fragment id follows (`BeginsWith`).  That is what
  reading finds (`ofBytes_eq_ok_iff`), and each of its errors has one cause
  (`ofBytes_eq_empty_iff`, `ofBytes_eq_unknownStatus_iff`,
  `ofBytes_eq_missingFragmentId_iff`).  Writing is less strict than reading: it also
  writes an id that the status does not carry, which is not read back, and leaves out
  one that it does carry (`codec`).
-/
import AirUpdate.Proofs.Steering

namespace AirUpdate

namespace Status
variable {code : UInt8} {status : Status}

/-- The codes that a fragment id follows. -/
def flowCodes : List UInt8 := [0x02, 0x03, 0x04]

theorem toByte_mem_flowCodes : status.toByte ∈ flowCodes ↔ status.carriesId = true := by
  cases status <;> decide

theorem toByte_le (status : Status) : status.toByte ≤ 0x0b := by
  cases status <;> decide

theorem ofByte?_eq_none_iff : ofByte? code = none ↔ 0x0b < code := by
  rw [ofByte?, List.getElem?_eq_none_iff, UInt8.lt_iff_toNat_lt]
  exact Iff.rfl

theorem exists_toByte_iff : (∃ status : Status, code = status.toByte) ↔ code ≤ 0x0b := by
  constructor
  · rintro ⟨status, rfl⟩
    exact status.toByte_le
  · intro hle
    cases hstatus : ofByte? code with
    | none => exact absurd (ofByte?_eq_none_iff.1 hstatus) (UInt8.not_lt.2 hle)
    | some status => exact ⟨status, ofByte?_eq_some_iff.1 hstatus⟩

end Status

namespace StatusReport

/-- The byte string begins with the report. -/
inductive BeginsWith : Bytes → StatusReport → Prop
  | plain {status rest} : status.carriesId = false →
      BeginsWith (status.toByte :: rest) ⟨status, none⟩
  | located {status id rest} : status.carriesId = true →
      BeginsWith (status.toByte :: id :: rest) ⟨status, some id⟩

/-- What reading comes to: every byte string falls under one of these. -/
inductive Reading : Bytes → Except ReportError StatusReport → Prop
  | empty : Reading [] (.error .empty)
  | unknown {code rest} : 0x0b < code → Reading (code :: rest) (.error (.unknownStatus code))
  | missing {status : Status} : status.carriesId = true →
      Reading [status.toByte] (.error (.missingFragmentId status))
  | read {bs r} : BeginsWith bs r → Reading bs (.ok r)

variable {bs : Bytes} {r : StatusReport} {code : UInt8} {status : Status}

/-! ## What reading comes to -/

theorem ofBytes_of_not_carriesId (h : status.carriesId = false) (rest : Bytes) :
    ofBytes (status.toByte :: rest) = .ok ⟨status, none⟩ := by
  simp [ofBytes, h]

theorem ofBytes_of_carriesId (h : status.carriesId = true) (id : UInt8) (rest : Bytes) :
    ofBytes (status.toByte :: id :: rest) = .ok ⟨status, some id⟩ := by
  simp [ofBytes, h]

theorem ofBytes_code (h : status.carriesId = true) :
    ofBytes [status.toByte] = .error (.missingFragmentId status) := by
  simp [ofBytes, h]

theorem ofBytes_of_lt (h : 0x0b < code) (rest : Bytes) :
    ofBytes (code :: rest) = .error (.unknownStatus code) := by
  simp [ofBytes, Status.ofByte?_eq_none_iff.2 h]

theorem reading_ofBytes (bs : Bytes) : Reading bs (ofBytes bs) := by
  cases bs with
  | nil => exact .empty
  | cons code rest =>
    cases hcode : Status.ofByte? code with
    | none =>
      have hlt := Status.ofByte?_eq_none_iff.1 hcode
      rw [ofBytes_of_lt hlt]
      exact .unknown hlt
    | some status =>
      obtain rfl := Status.ofByte?_eq_some_iff.1 hcode
      cases hcarries : status.carriesId with
      | false =>
        rw [ofBytes_of_not_carriesId hcarries]
        exact .read (.plain hcarries)
      | true =>
        cases rest with
        | nil =>
          rw [ofBytes_code hcarries]
          exact .missing hcarries
        | cons id rest =>
          rw [ofBytes_of_carriesId hcarries]
          exact .read (.located hcarries)

/-- **Reading finds the report** that a byte string begins with. -/
theorem ofBytes_eq_ok_iff : ofBytes bs = .ok r ↔ BeginsWith bs r := by
  constructor
  · intro h
    have hreading := reading_ofBytes bs
    rw [h] at hreading
    cases hreading with
    | read hbegins => exact hbegins
  · intro h
    cases h with
    | plain hcarries => exact ofBytes_of_not_carriesId hcarries _
    | located hcarries => exact ofBytes_of_carriesId hcarries _ _

theorem ofBytes_eq_empty_iff : ofBytes bs = .error .empty ↔ bs = [] := by
  refine ⟨fun h => ?_, fun h => h ▸ rfl⟩
  have hreading := reading_ofBytes bs
  rw [h] at hreading
  cases hreading
  rfl

theorem ofBytes_eq_unknownStatus_iff :
    ofBytes bs = .error (.unknownStatus code) ↔ 0x0b < code ∧ ∃ rest, bs = code :: rest := by
  constructor
  · intro h
    have hreading := reading_ofBytes bs
    rw [h] at hreading
    cases hreading with
    | unknown hlt => exact ⟨hlt, _, rfl⟩
  · rintro ⟨hlt, rest, rfl⟩
    exact ofBytes_of_lt hlt rest

theorem ofBytes_eq_missingFragmentId_iff : ofBytes bs = .error (.missingFragmentId status) ↔
    status.carriesId = true ∧ bs = [status.toByte] := by
  constructor
  · intro h
    have hreading := reading_ofBytes bs
    rw [h] at hreading
    cases hreading with
    | missing hcarries => exact ⟨hcarries, rfl⟩
  · rintro ⟨hcarries, rfl⟩
    exact ofBytes_code hcarries

/-! ## What a byte string begins with -/

/-- There is a report if the code is known, and an id where the code asks for one. -/
theorem exists_beginsWith_iff : (∃ r, BeginsWith bs r) ↔ ∃ code rest,
    bs = code :: rest ∧ code ≤ 0x0b ∧ (code ∈ Status.flowCodes → rest ≠ []) := by
  constructor
  · rintro ⟨r, h⟩
    cases h with
    | @plain status rest hcarries =>
      refine ⟨_, _, rfl, status.toByte_le, fun hflow => ?_⟩
      rw [Status.toByte_mem_flowCodes, hcarries] at hflow
      cases hflow
    | @located status id rest hcarries =>
      exact ⟨_, _, rfl, status.toByte_le, fun _ => List.cons_ne_nil id rest⟩
  · rintro ⟨code, rest, rfl, hle, hflow⟩
    obtain ⟨status, rfl⟩ := Status.exists_toByte_iff.2 hle
    rw [Status.toByte_mem_flowCodes] at hflow
    cases hcarries : status.carriesId with
    | false => exact ⟨_, .plain hcarries⟩
    | true =>
      obtain ⟨id, rest, rfl⟩ := List.exists_cons_of_ne_nil (hflow hcarries)
      exact ⟨_, .located hcarries⟩

theorem BeginsWith.append (h : BeginsWith bs r) (more : Bytes) : BeginsWith (bs ++ more) r := by
  cases h with
  | plain hcarries => exact .plain hcarries
  | located hcarries => exact .located hcarries

/-- The report stands at the beginning just as it is written. -/
theorem BeginsWith.written (h : BeginsWith bs r) : r.toBytes <+: bs := by
  cases h with
  | plain => exact ⟨_, rfl⟩
  | located => exact ⟨_, rfl⟩

/-! ## The codec -/

/-- How reports are read and written. -/
structure Codec : Prop where
  reads_iff : ∀ bs, (∃ r, ofBytes bs = .ok r) ↔ ∃ code rest,
    bs = code :: rest ∧ code ≤ 0x0b ∧ (code ∈ Status.flowCodes → rest ≠ [])
  empty_iff : ∀ bs, ofBytes bs = .error .empty ↔ bs = []
  unknown_iff : ∀ bs code,
    ofBytes bs = .error (.unknownStatus code) ↔ 0x0b < code ∧ ∃ rest, bs = code :: rest
  missing_iff : ∀ bs status, ofBytes bs = .error (.missingFragmentId status) ↔
    status.toByte ∈ Status.flowCodes ∧ bs = [status.toByte]
  /-- what follows a report does not matter -/
  reads_append : ∀ bs r, ofBytes bs = .ok r → ∀ more, ofBytes (bs ++ more) = .ok r
  /-- what was read stands at the beginning, and is read again from there alone -/
  writes_back : ∀ bs r, ofBytes bs = .ok r → r.toBytes <+: bs ∧ ofBytes r.toBytes = .ok r
  /-- of all reports, those are read back that have an id just if their status carries one -/
  restores_iff : ∀ r, ofBytes r.toBytes = .ok r ↔
    (r.fragmentId.isSome = true ↔ r.status.carriesId = true)

/-- **Reading and writing reports** agree on the reports that fit their status. -/
theorem codec : Codec := by
  constructor
  case reads_iff =>
    intro bs
    simp only [ofBytes_eq_ok_iff]
    exact exists_beginsWith_iff
  case empty_iff => exact fun bs => ofBytes_eq_empty_iff
  case unknown_iff => exact fun bs code => ofBytes_eq_unknownStatus_iff
  case missing_iff =>
    intro bs status
    rw [Status.toByte_mem_flowCodes]
    exact ofBytes_eq_missingFragmentId_iff
  case reads_append =>
    intro bs r h more
    exact ofBytes_eq_ok_iff.2 ((ofBytes_eq_ok_iff.1 h).append more)
  case writes_back =>
    intro bs r h
    exact ⟨(ofBytes_eq_ok_iff.1 h).written, ofBytes_toBytes (isSome_of_ofBytes h)⟩
  case restores_iff =>
    intro r
    rw [← Bool.eq_iff_iff]
    exact ⟨isSome_of_ofBytes, ofBytes_toBytes⟩

/-- SYNC_LOST with its id and two bytes more is read as without them; an id is written behind
    OK too, but it is not read back. -/
theorem codec_of_syncLost : ofBytes ([0x04, 0xff] ++ [0, 7]) = .ok ⟨.syncLost, some 0xff⟩ ∧
    ofBytes (StatusReport.toBytes ⟨.ok, some 7⟩) ≠ .ok ⟨.ok, some 7⟩ := by
  constructor
  · exact codec.reads_append _ _ rfl [0, 7]
  · rw [Ne, codec.restores_iff]
    decide

end StatusReport

end AirUpdate
