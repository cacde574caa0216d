/-
  Air updates — how long a stream takes.

  Every turn of a stream takes a time of its own (`SessionConfig.turnTime`,
  `Turned.now_eq`): a fragment is followed by the pacing pause, a write that
  hangs takes the time that a write may take and then the back-off, and a held
  stream waits for the time of a poll.  Nothing else takes time, so the rounds of
  a stream say when it writes (`Runs.moment_of_next`) and when it ends
  (`Runs.spent`), and the report of a transfer agrees with what a bench device has
  written down and let hang (`accounted_transfer`).
-/
import AirUpdate.Proofs.BenchWrites
import AirUpdate.Proofs.Lifecycle
import AirUpdate.Proofs.Pauses
import AirUpdate.Proofs.Quiet

namespace AirUpdate

/-- How many writes are going to hang in all. -/
def Stalls.total (s : Stalls) : Nat := (s.map Prod.snd).sum

/-- A write that hangs is one less to hang. -/
theorem Stalls.total_use {s : Stalls} {id : UInt8} (h : 0 < s.left id) :
    s.total = (s.use id).total + 1 := by
  induction s with
  | nil => cases h
  | cons e rest ih =>
    obtain ⟨key, n⟩ := e
    by_cases hkey : key = id
    · simp only [left, hkey, if_true] at h
      simp only [total, use, hkey, if_true, List.map_cons, List.sum_cons]
      omega
    · simp only [left, hkey, if_false] at h
      have hrest := ih h
      simp only [total] at hrest
      simp only [total, use, hkey, if_false, List.map_cons, List.sum_cons, hrest]
      omega

/-- The payload of a write to the stream: all but the id. -/
def BenchWrite.payload (w : BenchWrite) : Bytes := w.data.tail

namespace Session
variable {s s' : Session Bench Bytes} {report report' : TransferReport} {t : Turn}
  {w : World Bench Bytes}

/-- Whether the device lets a write of the next fragment hang. -/
def hangs (s : Session Bench Bytes) : Bool := s.world.device.hangs .binaryStream s.next.toBytes

theorem hangs_iff (s : Session Bench Bytes) :
    s.hangs = true ↔ 0 < s.world.device.stalls.left s.next.id := by
  unfold hangs Bench.hangs
  rw [Stalls.onWrite_fragment]
  split <;> simp_all

/-- What the device knows of writes to hang after a write of the next fragment. -/
theorem stalls_onWrite (s : Session Bench Bytes) :
    (s.world.device.onWrite .binaryStream s.next.toBytes).stalls =
      if s.hangs then s.world.device.stalls.use s.next.id else s.world.device.stalls := by
  unfold hangs Bench.hangs Bench.onWrite
  rw [Stalls.onWrite_fragment]
  split <;> simp

/-- A write of the next fragment that comes to its end in time does so at once. -/
theorem writeNext_eq_some (htimeout : s.config.writeTimeout.toNat < stallTime)
    (h : s.writeNext Bench.link s.world = .ok (some ()) w) :
    s.hangs = false ∧ w.now = s.world.now ∧
      w.device.log = s.entry s.world.now :: s.world.device.log ∧
      w.device.stalls = s.world.device.stalls := by
  obtain ⟨l, w₁, hl, hwrite, hw⟩ := World.within_eq_some h
  obtain ⟨w₂, hhung, hnow, hlog, hstalls⟩ := Bench.write_eq_ok hwrite
  have hknown := stalls_onWrite s
  cases hhangs : s.hangs with
  | true =>
    rw [show s.world.device.hangs _ _ = true from hhangs, if_pos rfl] at hhung
    have hend : s.world.now + stallTime ≤ l := World.le_limit_of_sleep hhung (by decide)
    omega
  | false =>
    rw [show s.world.device.hangs _ _ = false from hhangs, if_neg Bool.false_ne_true] at hhung
    rw [hhangs, if_neg Bool.false_ne_true] at hknown
    cases hhung
    rw [hw]
    exact ⟨rfl, hnow, hlog, hstalls.trans hknown⟩

/-- A write of the next fragment that is given up hangs, for as long as it may. -/
theorem writeNext_eq_none (h : s.writeNext Bench.link s.world = .ok none w) :
    s.hangs = true ∧ w.now = s.world.now + s.config.writeTimeout.toNat ∧
      w.device.stalls = s.world.device.stalls.use s.next.id := by
  obtain ⟨w₁, hcut, hw⟩ := World.within_eq_none h
  obtain ⟨hhangs, hslept⟩ := Bench.write_eq_cut hcut
  have hknown := stalls_onWrite s
  rw [show s.hangs = true from hhangs, if_pos rfl] at hknown
  have hnow : w₁.now = s.world.now + s.config.writeTimeout.toNat :=
    World.now_of_sleep_cut hslept (by decide) (Nat.le_add_right _ _)
  have hdevice := Bench.device_of_sleep_error hslept
  have hback : w.now = w₁.now ∧ w.device = w₁.device := by
    rcases hw with rfl | ⟨-, hblink⟩
    · exact ⟨rfl, rfl⟩
    · have hnow := World.now_of_blink hblink
      have hdevice := Bench.device_of_blink hblink
      exact ⟨hnow, hdevice⟩
  rw [hback.1, hback.2, hdevice]
  exact ⟨hhangs, hnow, hknown⟩

end Session

/-! ## Turns -/

/-- How long a turn takes that comes to this. -/
def SessionConfig.turnTime (c : SessionConfig) : Turn → Nat
  | .held => c.pausePoll.toNat
  | .sent | .sentLast => c.pacing.toNat
  | .stalled => c.writeTimeout.toNat + c.writeBackoff.toNat
  | .drained => 0

theorem SessionConfig.turnTime_of_sends (c : SessionConfig) {t : Turn} (h : t.sends = true) :
    c.turnTime t = c.pacing.toNat := by
  cases t <;> first | rfl | cases h

namespace Session
variable {s s' : Session Bench Bytes} {report report' : TransferReport} {t : Turn}

/-- **A turn takes its time**, if a write that hangs is given up. -/
theorem Turned.now_eq (h : Turned Bench.link s report t report' s')
    (htimeout : s.config.writeTimeout.toNat < stallTime) :
    s'.world.now = s.world.now + s.config.turnTime t := by
  cases h with
  | held _ _ hslept =>
    have hnow := World.now_of_sleep hslept
    exact hnow
  | drained => rfl
  | sent _ _ _ hwritten hslept ht =>
    have hsends : t.sends = true := by rw [ht]; split <;> rfl
    obtain ⟨-, hnow, -⟩ := writeNext_eq_some (s := s.heeded) htimeout hwritten
    rw [s.config.turnTime_of_sends hsends]
    have hslept := World.now_of_sleep hslept
    rw [hnow] at hslept
    exact hslept
  | stalled _ _ _ hwritten hslept =>
    obtain ⟨-, hnow, -⟩ := writeNext_eq_none hwritten
    have hslept := World.now_of_sleep hslept
    rw [hnow, Nat.add_assoc] at hslept
    exact hslept

/-- A turn gives a write up exactly if the device lets the write hang. -/
theorem Turned.stalled_iff (h : Turned Bench.link s report t report' s')
    (htimeout : s.config.writeTimeout.toNat < stallTime) :
    t = .stalled ↔ s.attempt?.isSome ∧ s.heeded.hangs = true := by
  have hattempt := h.attempt?_eq
  cases h with
  | held | drained => simp [hattempt]
  | sent _ _ _ hwritten _ ht =>
    have hstalled : t ≠ .stalled := by rw [ht]; split <;> simp
    obtain ⟨hhangs, -⟩ := writeNext_eq_some (s := s.heeded) htimeout hwritten
    simp [hstalled, hhangs]
  | stalled _ _ _ hwritten =>
    obtain ⟨hhangs, -⟩ := writeNext_eq_none hwritten
    simp [hattempt, hhangs]

/-- Of the writes that are going to hang a turn takes the one that it gives up. -/
theorem Turned.total_eq (h : Turned Bench.link s report t report' s')
    (htimeout : s.config.writeTimeout.toNat < stallTime) :
    s.world.device.stalls.total =
      s'.world.device.stalls.total + if t = .stalled then 1 else 0 := by
  cases h with
  | held _ _ hslept =>
    show s.heeded.world.device.stalls.total = _
    rw [← Bench.device_of_sleep hslept]
    rfl
  | drained => rfl
  | sent _ _ _ hwritten hslept ht =>
    have hstalled : t ≠ .stalled := by rw [ht]; split <;> simp
    obtain ⟨-, -, -, hstalls⟩ := writeNext_eq_some (s := s.heeded) htimeout hwritten
    rw [if_neg hstalled, Nat.add_zero]
    show s.heeded.world.device.stalls.total = _
    rw [← hstalls, ← Bench.device_of_sleep hslept]
  | stalled _ _ _ hwritten hslept =>
    obtain ⟨hhangs, -, hstalls⟩ := writeNext_eq_none hwritten
    rw [if_pos rfl]
    show s.heeded.world.device.stalls.total = _
    rw [Stalls.total_use (s.heeded.hangs_iff.1 hhangs), ← hstalls, ← Bench.device_of_sleep hslept]

/-- A turn that sends writes at the moment at which it begins. -/
theorem Turned.log_of_sends (h : Turned Bench.link s report t report' s')
    (htimeout : s.config.writeTimeout.toNat < stallTime) (ht : t.sends = true) :
    s'.world.device.log = s.heeded.entry s.world.now :: s.world.device.log := by
  cases h with
  | held | drained | stalled => cases ht
  | sent _ _ _ hwritten hslept =>
    obtain ⟨-, -, hlog, -⟩ := writeNext_eq_some (s := s.heeded) htimeout hwritten
    exact (log_of_sleep hslept).trans hlog

end Session

/-! ## Rounds -/

/-- How long a stream takes with so many fragments sent, so many writes given up and so
    many looks that find it held. -/
def SessionConfig.timeOf (c : SessionConfig) (sent stalled held : Nat) : Nat :=
  c.streamTime sent stalled + held * c.pausePoll.toNat

namespace Round

/-- Whether a write began in the round that the device let hang. -/
def hung (x : Round Bench Bytes) : Bool := x.attempt?.isSome && x.before.heeded.hangs

/-- Whether the round found the stream held. -/
def isHeld {D A : Type} (x : Round D A) : Bool := x.before.heeded.flow.held

end Round

/-- How long the rounds take. -/
def roundsTime (c : SessionConfig) (xs : List (Round Bench Bytes)) : Nat :=
  c.timeOf (xs.countP fun x => x.completed?.isSome) (xs.countP Round.hung) (xs.countP Round.isHeld)

theorem roundsTime_append (c : SessionConfig) (xs ys : List (Round Bench Bytes)) :
    roundsTime c (xs ++ ys) = roundsTime c xs + roundsTime c ys := by
  simp only [roundsTime, SessionConfig.timeOf, SessionConfig.streamTime, List.countP_append,
    Nat.add_mul]
  omega

namespace Session
variable {s s' : Session Bench Bytes} {report report' : TransferReport} {t : Turn}
  {xs pre mid post : List (Round Bench Bytes)} {x y : Round Bench Bytes}

/-- A round takes the time of its turn. -/
theorem Turned.roundsTime_eq (h : Turned Bench.link x.before report t report' x.after)
    (ht : x.turn = some t) (htimeout : x.before.config.writeTimeout.toNat < stallTime) :
    roundsTime x.before.config [x] = x.before.config.turnTime t := by
  have hattempt : x.attempt? = _ := h.attempt?_eq
  have hhung : x.hung = decide (t = .stalled) := by
    rw [Bool.eq_iff_iff, decide_eq_true_iff, h.stalled_iff htimeout, Round.hung, Bool.and_eq_true]
    rfl
  have hheld : x.isHeld = decide (t = .held) := by
    rw [Bool.eq_iff_iff, decide_eq_true_iff, ← h.held_iff]
    rfl
  have hcompleted : x.completed?.isSome = t.sends := by
    rw [Round.completed?, ht, hattempt]
    cases t <;> rfl
  simp only [roundsTime, List.countP_singleton, hhung, hheld, hcompleted, SessionConfig.timeOf,
    SessionConfig.streamTime]
  cases t <;> simp [Turn.sends, SessionConfig.turnTime]

/-- What a session has spent in these rounds: their time, and the writes that hung. -/
structure Spent (s : Session Bench Bytes) (xs : List (Round Bench Bytes))
    (s' : Session Bench Bytes) : Prop where
  config_eq : s'.config = s.config
  now_eq : s'.world.now = s.world.now + roundsTime s.config xs
  total_eq : s.world.device.stalls.total = s'.world.device.stalls.total + xs.countP Round.hung

theorem Spent.nil (s : Session Bench Bytes) : Spent s [] s := by
  refine ⟨rfl, ?_, rfl⟩
  simp [roundsTime, SessionConfig.timeOf, SessionConfig.streamTime]

theorem Spent.turned (h : Spent s xs x.before) (htimeout : s.config.writeTimeout.toNat < stallTime)
    (ht : x.turn = some t) (hturned : Turned Bench.link x.before report t report' x.after) :
    Spent s (xs ++ [x]) x.after := by
  rw [← h.config_eq] at htimeout
  have hhung : [x].countP Round.hung = if t = .stalled then 1 else 0 := by
    rw [List.countP_singleton]
    refine if_congr ?_ rfl rfl
    rw [hturned.stalled_iff htimeout, Round.hung, Bool.and_eq_true]
    rfl
  refine ⟨hturned.config_eq.trans h.config_eq, ?_, ?_⟩
  · rw [hturned.now_eq htimeout, ← hturned.roundsTime_eq ht htimeout, h.now_eq, h.config_eq,
      roundsTime_append, Nat.add_assoc]
  · rw [h.total_eq, hturned.total_eq htimeout, List.countP_append, hhung]
    omega

/-- **The rounds of a stream say what it has spent** before each of them and behind it. -/
theorem Runs.spent (h : Runs Bench.link report s (pre ++ x :: post))
    (htimeout : s.config.writeTimeout.toNat < stallTime) :
    Spent s pre x.before ∧ ∀ t, x.turn = some t → Spent s (pre ++ [x]) x.after := by
  obtain ⟨report', hbefore, hturned⟩ := h.history (H := fun xs _ s' => Spent s xs s')
    (fun xs x _ _ _ hspent ht _ hturned => hspent.turned htimeout ht hturned) (.nil s)
  refine ⟨hbefore, fun t ht => ?_⟩
  obtain ⟨_, hturned⟩ := hturned t ht
  exact hbefore.turned htimeout ht hturned

/-- A round that came to its end has written at the moment at which it began. -/
theorem Runs.moment_of_written {w : BenchWrite} (h : Runs Bench.link report s xs) (hx : x ∈ xs)
    (htimeout : s.config.writeTimeout.toNat < stallTime) (hturn : ∃ t, x.turn = some t)
    (hw : x.written? = some w) : w.moment = x.before.world.now := by
  obtain ⟨t, ht⟩ := hturn
  obtain ⟨_, _, hturned⟩ := h.turned_mem hx ht
  rw [← (h.image_eq hx).2] at htimeout
  rcases h.written?_mem hx with ⟨-, -, hsends⟩ | ⟨⟨hnone, -⟩, -⟩
  · rw [ht, Option.all_some] at hsends
    have hwritten := Round.written?_of_log_cons (hturned.log_of_sends htimeout hsends)
    rw [hw] at hwritten
    cases hwritten
    rfl
  · rw [hw] at hnone
    cases hnone

/-- A round that came to its end has sent its fragment exactly if it has written. -/
theorem Runs.isSome_completed? (h : Runs Bench.link report s xs) (hx : x ∈ xs)
    (hturn : ∃ t, x.turn = some t) : x.completed?.isSome = x.written?.isSome := by
  rw [← Option.isSome_map, ← h.data_of_written hx hturn, Option.isSome_map]

/-- A round that has written takes the pacing pause. -/
theorem Runs.roundsTime_of_written {w : BenchWrite} (h : Runs Bench.link report s xs) (hx : x ∈ xs)
    (htimeout : s.config.writeTimeout.toNat < stallTime) (hturn : ∃ t, x.turn = some t)
    (hw : x.written? = some w) : roundsTime s.config [x] = s.config.pacing.toNat := by
  have hcompleted : x.completed?.isSome = true := by
    rw [h.isSome_completed? hx hturn, hw]
    rfl
  obtain ⟨f, hf⟩ := Option.isSome_iff_exists.1 hcompleted
  obtain ⟨t, ht, hsends, -⟩ := Round.completed?_eq_some.1 hf
  obtain ⟨_, _, hturned⟩ := h.turned_mem hx ht
  rw [← (h.image_eq hx).2] at htimeout ⊢
  rw [hturned.roundsTime_eq ht htimeout, SessionConfig.turnTime_of_sends _ hsends]

/-- **Two writes in a row** are as far apart as the rounds from the first up to the second
    take. -/
theorem Runs.moment_of_next {w w' : BenchWrite}
    (h : Runs Bench.link report s (pre ++ x :: mid ++ y :: post))
    (htimeout : s.config.writeTimeout.toNat < stallTime)
    (hturns : ∀ z ∈ pre ++ x :: mid ++ y :: post, ∃ t, z.turn = some t)
    (hx : x.written? = some w) (hy : y.written? = some w') (hmid : ∀ z ∈ mid, z.written? = none) :
    w'.moment = w.moment + (s.config.pacing.toNat +
      mid.countP Round.hung * (s.config.writeTimeout.toNat + s.config.writeBackoff.toNat) +
      mid.countP Round.isHeld * s.config.pausePoll.toNat) := by
  have hxmem : x ∈ pre ++ x :: mid ++ y :: post := by simp
  have hymem : y ∈ pre ++ x :: mid ++ y :: post := by simp
  -- the first round has sent its fragment, and those between have sent none
  have hfirst := h.roundsTime_of_written hxmem htimeout (hturns x hxmem) hx
  have hrest : (mid.countP fun z => z.completed?.isSome) = 0 := by
    rw [List.countP_eq_zero]
    intro z hz
    have hzmem : z ∈ pre ++ x :: mid ++ y :: post := by simp [hz]
    rw [h.isSome_completed? hzmem (hturns z hzmem), hmid z hz]
    exact Bool.false_ne_true
  rw [h.moment_of_written hymem htimeout (hturns y hymem) hy,
    h.moment_of_written hxmem htimeout (hturns x hxmem) hx]
  rw [← (h.image_eq hxmem).2] at htimeout hfirst ⊢
  rw [List.append_assoc] at h
  obtain ⟨_, hruns⟩ := h.of_append
  have hspent : Spent x.before (x :: mid) y.before := (hruns.spent htimeout).1
  have hnow := hspent.now_eq
  rw [← List.singleton_append, roundsTime_append, hfirst, roundsTime, hrest] at hnow
  rw [hnow, SessionConfig.timeOf, SessionConfig.streamTime]
  omega

/-! ## The account of a transfer -/

/-- How a transfer that comes to its end accounts for its writes and its time. -/
structure Accounted (turns : Nat) (s s' : Session Bench Bytes) (report : TransferReport)
    (new : List BenchWrite) : Prop where
  /-- the device has written down these writes meanwhile -/
  writes_eq : s'.world.device.writes = s.world.device.writes ++ new
  on_stream : ∀ w ∈ new, w.characteristic = .binaryStream
  sent : report.fragmentsSent = new.length
  bytes : report.bytesSent = (new.map fun w => w.payload.length).sum
  /-- the writes given up are those that the device let hang -/
  timeouts : report.writeTimeouts = (transferRounds Bench.link turns s).countP Round.hung
  hung : s.world.device.stalls.total = s'.world.device.stalls.total + report.writeTimeouts
  elapsed : report.elapsed = report.fragmentsSent * s.config.pacing.toNat +
    report.writeTimeouts * (s.config.writeTimeout.toNat + s.config.writeBackoff.toNat) +
    (transferRounds Bench.link turns s).countP Round.isHeld * s.config.pausePoll.toNat
  now_eq : s'.world.now = s.world.now + report.elapsed
  /-- between two writes in a row lie the pacing pause, the writes that hung and the looks
      that found the stream held -/
  spaced : ∀ {before w w' behind}, new = before ++ w :: w' :: behind →
    ∃ pre x mid y post, transferRounds Bench.link turns s = pre ++ x :: mid ++ y :: post ∧
      x.written? = some w ∧ y.written? = some w' ∧ (∀ z ∈ mid, z.written? = none) ∧
      w'.moment = w.moment + (s.config.pacing.toNat +
        mid.countP Round.hung * (s.config.writeTimeout.toNat + s.config.writeBackoff.toNat) +
        mid.countP Round.isHeld * s.config.pausePoll.toNat) ∧
      w.moment + s.config.pacing.toNat ≤ w'.moment

/-- Two writes in a row come from two rounds with none that writes between them. -/
theorem exists_rounds_of_writes {w w' : BenchWrite} {before behind : List BenchWrite}
    (h : xs.filterMap Round.written? = before ++ w :: w' :: behind) :
    ∃ pre x mid y post, xs = pre ++ x :: mid ++ y :: post ∧ x.written? = some w ∧
      y.written? = some w' ∧ ∀ z ∈ mid, z.written? = none := by
  obtain ⟨pre₁, rest, rfl, -, hrest⟩ := List.filterMap_eq_append_iff.1 h
  obtain ⟨pre₂, x, rest, rfl, -, hx, hrest⟩ := List.filterMap_eq_cons_iff.1 hrest
  obtain ⟨mid, y, post, rfl, hmid, hy, -⟩ := List.filterMap_eq_cons_iff.1 hrest
  exact ⟨pre₁ ++ pre₂, x, mid, y, post, by simp, hx, hy, hmid⟩

/-- In a round that came to its end, a write is given up exactly if the device let it hang. -/
theorem Runs.isSome_givenUp? (h : Runs Bench.link report s xs) (hx : x ∈ xs)
    (htimeout : s.config.writeTimeout.toNat < stallTime) (hturn : ∃ t, x.turn = some t) :
    x.givenUp?.isSome = x.hung := by
  obtain ⟨t, ht⟩ := hturn
  obtain ⟨_, _, hturned⟩ := h.turned_mem hx ht
  rw [← (h.image_eq hx).2] at htimeout
  have hstalled := hturned.stalled_iff htimeout
  have hgivenUp : x.givenUp? = if t = .stalled then x.attempt? else none := by
    simp only [Round.givenUp?, ht, Option.some.injEq]
  rw [Bool.eq_iff_iff, Round.hung, Bool.and_eq_true, hgivenUp]
  constructor
  · intro hsome
    split at hsome
    · next hst => exact hstalled.1 hst
    · cases hsome
  · intro hhung
    rw [if_pos (hstalled.2 hhung)]
    exact hhung.1

/-- What a transfer that comes to its end has spent in its rounds. -/
theorem spent_of_transfer {turns : Nat} (h : transfer Bench.link turns s = .ok report s')
    (htimeout : s.config.writeTimeout.toNat < stallTime) :
    Spent s (transferRounds Bench.link turns s) s' := by
  obtain ⟨hphase, report₁, s₁, hstream, -, rfl⟩ := transfer_eq_ok h
  obtain ⟨pre, x, t, hrounds, ht, -, rfl⟩ := stream_eq_ok hstream
  have hruns : Runs Bench.link .empty s (rounds Bench.link turns .empty s) :=
    runs_rounds turns .empty s
  rw [transferRounds, if_pos hphase, hrounds]
  rw [hrounds] at hruns
  have hspent := (hruns.spent htimeout).2 t ht
  exact ⟨hspent.config_eq, hspent.now_eq, hspent.total_eq⟩

/-- The writes that a transfer reports to be given up are those that hung. -/
theorem timeouts_of_transfer {turns : Nat} (h : transfer Bench.link turns s = .ok report s')
    (htimeout : s.config.writeTimeout.toNat < stallTime) :
    report.writeTimeouts = (transferRounds Bench.link turns s).countP Round.hung := by
  have hruns : Runs Bench.link .empty s (transferRounds Bench.link turns s) :=
    runs_transferRounds turns s
  have hreport : report.writeTimeouts =
      0 + ((transferRounds Bench.link turns s).filterMap Round.givenUp?).length := by
    rw [report_of_transfer h]
    rfl
  rw [hreport, Nat.zero_add, List.length_filterMap_eq_countP]
  refine List.countP_congr fun x hx => ?_
  rw [hruns.isSome_givenUp? hx htimeout (exists_turn_of_transfer h x hx)]

/-- The time that a transfer reports is the time of its rounds. -/
theorem elapsed_of_transfer {turns : Nat} (h : transfer Bench.link turns s = .ok report s')
    (htimeout : s.config.writeTimeout.toNat < stallTime) :
    report.elapsed = roundsTime s.config (transferRounds Bench.link turns s) := by
  have hreport : report.elapsed = s'.world.now - s.world.now := by
    rw [report_of_transfer h]
  rw [hreport, (spent_of_transfer h htimeout).now_eq, Nat.add_sub_cancel_left]

/-- **A transfer accounts for its writes and its time**, if a write that hangs is given up. -/
theorem accounted_transfer {turns : Nat} (htimeout : s.config.writeTimeout.toNat < stallTime)
    (h : transfer Bench.link turns s = .ok report s') :
    ∃ new, Accounted turns s s' report new := by
  have hruns : Runs Bench.link .empty s (transferRounds Bench.link turns s) :=
    runs_transferRounds turns s
  have hturns := exists_turn_of_transfer h
  have hspent := spent_of_transfer h htimeout
  obtain ⟨new, hwrites, hsent, hbytes⟩ := report_of_writes h
  have hgrown := writes_transfer turns s
  rw [h] at hgrown
  have hnew : (transferRounds Bench.link turns s).filterMap Round.written? = new :=
    List.append_cancel_left (hgrown.symm.trans hwrites)
  have htimeouts := timeouts_of_transfer h htimeout
  have helapsed := elapsed_of_transfer h htimeout
  have hcompleted : report.fragmentsSent =
      (transferRounds Bench.link turns s).countP fun x => x.completed?.isSome := by
    rw [hsent, ← hnew, List.length_filterMap_eq_countP]
    refine List.countP_congr fun x hx => ?_
    rw [hruns.isSome_completed? hx (hturns x hx)]
  refine ⟨new, hwrites, ?_, hsent, ?_, htimeouts, ?_, ?_, ?_, ?_⟩
  · rw [← hnew]
    exact fun w hw => onStream_of_mem hw
  · rw [hbytes]
    refine congrArg List.sum (List.map_congr_left fun w _ => ?_)
    rw [BenchWrite.payload, List.length_tail]
  · rw [htimeouts, hspent.total_eq]
  · rw [helapsed, roundsTime, ← hcompleted, ← htimeouts]
    rfl
  · rw [hspent.now_eq, helapsed]
  · intro before w w' behind hsplit
    rw [← hnew] at hsplit
    obtain ⟨pre, x, mid, y, post, hrounds, hx, hy, hmid⟩ := exists_rounds_of_writes hsplit
    rw [hrounds] at hruns hturns
    have hmoment := hruns.moment_of_next htimeout hturns hx hy hmid
    refine ⟨pre, x, mid, y, post, hrounds, hx, hy, hmid, hmoment, ?_⟩
    rw [hmoment, Nat.add_assoc]
    exact Nat.add_le_add_left (Nat.le_add_right _ _) _

end Session

namespace Bench

/-- A session that streams three bytes, one in a fragment, to a device that lets the
    second write hang, answers the second byte with XOFF and takes the next 90 ms later. -/
def limping : Session Bench Bytes :=
  { Session.idle [7, 8, 9] { SessionConfig.default with fragmentSize := 1, pausePoll := 10 }
      (.initial 60000 { quiet with
        subscribed := true
        stalls := [(1, 1)]
        script := [⟨.fragment 1, 0, 1, [(0, StatusReport.toBytes ⟨.xoff, some 2⟩),
          (90, StatusReport.toBytes ⟨.xon, some 2⟩)], 0⟩] }) with
    phase := .streaming }

/-- Three fragments, one write that hung and two looks that found the stream held. -/
theorem limping_accounted :
    ∃ report s', Session.transfer link 16 limping = .ok report s' ∧
      report.elapsed = 3 * 75 + 1 * (25 + 100) + 2 * 10 ∧
      s'.world.device.writes.map BenchWrite.moment = [0, 200, 295] := by
  have hsome : (result? (Session.transfer link 16 limping)).isSome = true := by decide +kernel
  obtain ⟨report, hreport⟩ := Option.isSome_iff_exists.1 hsome
  have htransfer := eq_ok_of_result? hreport
  obtain ⟨new, haccounted⟩ := Session.accounted_transfer (by decide) htransfer
  refine ⟨report, _, htransfer, ?_, by decide +kernel⟩
  have hlength : new.length = 3 := by
    have hwrites := congrArg List.length haccounted.writes_eq
    rw [List.length_append] at hwrites
    have hall : (endState (Session.transfer link 16 limping)).world.device.writes.length = 3 := by
      decide +kernel
    rw [hall] at hwrites
    exact (Nat.zero_add new.length ▸ hwrites).symm
  have htimeouts : report.writeTimeouts = 1 := by
    rw [haccounted.timeouts]
    decide +kernel
  have hheld : (Session.transferRounds link 16 limping).countP Round.isHeld = 2 := by
    decide +kernel
  rw [haccounted.elapsed, haccounted.sent, hlength, htimeouts, hheld]
  rfl

end Bench

end AirUpdate
