/-
  Air updates — what a stream reports.

  A report counts the rounds of its stream (`TransferReport.counting`): one that
  sends, one that gives a write up, and one that finds the stream held anew.
  A stream that comes to its end reports all of its rounds and no others
  (`report_of_stream`, `report_of_transfer`), and so the writes that a bench
  device has written down meanwhile (`report_of_writes`).
-/
import AirUpdate.Proofs.BenchLog
import Mathlib.Algebra.GroupWithZero.Nat

namespace AirUpdate

variable {D A : Type}

/-- Whether the notification in the mailbox holds a stream that was going on. -/
def Session.toHold (s : Session D A) : Bool :=
  match s.world.mailbox.latest.map StatusReport.ofBytes with
  | some (.ok r) => s.flow.holds r
  | _ => false

/-- The report with these rounds counted as well. -/
def TransferReport.counting (r : TransferReport) (xs : List (Round D A)) : TransferReport where
  fragmentsSent := r.fragmentsSent + (xs.filterMap Round.completed?).length
  bytesSent := r.bytesSent + ((xs.filterMap Round.completed?).map fun f => f.payload.length).sum
  writeTimeouts := r.writeTimeouts + (xs.filterMap Round.givenUp?).length
  pauses := r.pauses + xs.countP fun x => x.before.toHold
  elapsed := r.elapsed

namespace TransferReport

theorem counting_append (r : TransferReport) (xs ys : List (Round D A)) :
    r.counting (xs ++ ys) = (r.counting xs).counting ys := by
  simp only [counting, List.filterMap_append, List.length_append, List.map_append,
    List.sum_append, List.countP_append, Nat.add_assoc]

end TransferReport

namespace Session

theorem noted_eq (s : Session D A) (report : TransferReport) :
    s.noted report =
      { report with pauses := report.pauses + if s.toHold then 1 else 0 } := by
  unfold noted toHold
  cases s.world.mailbox.latest.map StatusReport.ofBytes with
  | none => rfl
  | some parsed =>
    cases parsed with
    | error _ => rfl
    | ok r =>
      cases hholds : s.flow.holds r with
      | false => simp [hholds]
      | true => simp [hholds]

variable [Peer D A] {link : Link D A} {s s' : Session D A} {report report' : TransferReport}
  {t : Turn}

/-- A turn that comes to its end counts itself. -/
theorem Turned.report_eq {x : Round D A} (h : Turned link x.before report t report' x.after)
    (ht : x.turn = some t) : report' = report.counting [x] := by
  have hattempt : x.attempt? = _ := h.attempt?_eq
  have hcompleted : x.completed? = if t.sends then x.attempt? else none := by
    rw [Round.completed?, ht, Option.any_some]
  have hgivenUp : x.givenUp? = if t = .stalled then x.attempt? else none := by
    simp only [Round.givenUp?, ht, Option.some.injEq]
  have hnoted := noted_eq x.before report
  unfold TransferReport.counting
  generalize x.after = s' at h
  cases h with
  | held | drained => simp [hcompleted, hgivenUp, hnoted, Turn.sends, List.countP_singleton]
  | sent _ _ _ _ _ ht =>
    have hsends : t.sends = true := by rw [ht]; split <;> rfl
    have hmoves : ¬ (t = .held ∨ t = .drained) ∧ t ≠ .stalled := by rw [ht]; split <;> simp
    rw [if_neg hmoves.1] at hattempt
    simp [hcompleted, hgivenUp, hattempt, hnoted, hsends, hmoves.2, List.countP_singleton]
  | stalled =>
    simp [hcompleted, hgivenUp, hattempt, hnoted, Turn.sends, List.countP_singleton]

/-- **A stream reports its rounds.** -/
theorem report_of_stream {turns : Nat} (h : stream link turns report s = .ok report' s') :
    report' = report.counting (rounds link turns report s) := by
  induction turns generalizing report s with
  | zero => cases h
  | succ turns ih =>
    obtain ⟨⟨t, report₁⟩, s₁, hturn, h⟩ := bind_eq_ok.1 h
    have hcounted := Turned.report_eq (x := ⟨s, some t, s₁⟩) (turned_of_turn hturn) rfl
    unfold rounds
    rw [hturn]
    simp only at h ⊢
    split at h
    · next hlast =>
      cases h
      rw [if_pos hlast]
      exact hcounted
    · next hlast =>
      rw [if_neg hlast, ← List.singleton_append, TransferReport.counting_append, ← hcounted]
      exact ih h

theorem report_of_transfer {turns : Nat} (h : transfer link turns s = .ok report s') :
    report = { TransferReport.empty.counting (transferRounds link turns s) with
      elapsed := s'.world.now - s.world.now } := by
  obtain ⟨hphase, report₁, s₁, hstream, rfl, rfl⟩ := transfer_eq_ok h
  rw [report_of_stream hstream, transferRounds, if_pos hphase]

/-- In a transfer that comes to its end, so does every turn. -/
theorem exists_turn_of_transfer {turns : Nat} (h : transfer link turns s = .ok report s') :
    ∀ x ∈ transferRounds link turns s, ∃ t, x.turn = some t := by
  obtain ⟨hphase, report₁, s₁, hstream, -, -⟩ := transfer_eq_ok h
  obtain ⟨pre, x, t, hrounds, ht, -, -⟩ := stream_eq_ok hstream
  have hruns : Runs link .empty s (rounds link turns .empty s) := runs_rounds turns .empty s
  rw [hrounds] at hruns
  rw [transferRounds, if_pos hphase, hrounds]
  exact hruns.exists_turn ht

section
variable {s s' : Session Bench Bytes} {report : TransferReport} {xs : List (Round Bench Bytes)}

/-- Where a turn comes to its end, the device writes down what it sends. -/
theorem Runs.data_of_written {x : Round Bench Bytes} (h : Runs Bench.link report s xs)
    (hx : x ∈ xs) (hturn : ∃ t, x.turn = some t) :
    x.written?.map BenchWrite.data = x.completed?.map Fragment.toBytes := by
  obtain ⟨t, ht⟩ := hturn
  rcases h.written?_mem hx with ⟨⟨m, hwritten, -⟩, -, hsends⟩ | ⟨⟨hwritten, -⟩, hsends⟩
  · obtain ⟨_, _, hturned⟩ := h.turned_mem hx ht
    rw [ht, Option.all_some] at hsends
    have hattempt : x.attempt? = some x.before.heeded.next := hturned.attempt?_of_sends hsends
    rw [hwritten, Round.completed?, ht, Option.any_some, if_pos hsends, hattempt]
    rfl
  · rw [hwritten, Round.completed?, hsends]
    rfl

theorem Runs.written_eq_completed (h : Runs Bench.link report s xs)
    (hturns : ∀ x ∈ xs, ∃ t, x.turn = some t) :
    (xs.filterMap Round.written?).map BenchWrite.data =
      (xs.filterMap Round.completed?).map Fragment.toBytes := by
  rw [List.map_filterMap, List.map_filterMap]
  exact List.filterMap_congr fun x hx => h.data_of_written hx (hturns x hx)

/-- **A transfer that comes to its end reports its own writes**, and the payloads in
    them. -/
theorem report_of_writes {turns : Nat} (h : transfer Bench.link turns s = .ok report s') :
    ∃ new, s'.world.device.writes = s.world.device.writes ++ new ∧
      report.fragmentsSent = new.length ∧
      report.bytesSent = (new.map fun w => w.data.length - 1).sum := by
  have hwrites := writes_transfer turns s
  rw [h] at hwrites
  have hdata := (runs_transferRounds turns s).written_eq_completed (exists_turn_of_transfer h)
  have hlength := congrArg List.length hdata
  have hsizes := congrArg (List.map fun data : Bytes => data.length - 1) hdata
  rw [List.map_map, List.map_map] at hsizes
  rw [List.length_map, List.length_map] at hlength
  refine ⟨_, hwrites, ?_, ?_⟩
  · rw [report_of_transfer h, hlength]
    exact Nat.zero_add _
  · rw [report_of_transfer h]
    show 0 + _ = _
    rw [Nat.zero_add]
    exact congrArg List.sum hsizes.symm

end

end Session

end AirUpdate
