/-
  Air updates — a stream that is cancelled and taken up again.

  A stream that hears no steering report goes on from each fragment to the next;
  only if it is cut in the pause behind a write, that fragment is still the next
  (`Steady`).  A call that is cancelled leaves the session streaming, and the
  stream of the next call goes on from there (`Resumes`).  So the writes of all
  calls together go through the image, from the first fragment to the last
  (`transfer_of_interrupted`).
-/
import AirUpdate.Proofs.Accounting
import AirUpdate.Proofs.Calls
import AirUpdate.Proofs.Coverage
import AirUpdate.Proofs.WriteLog
import Mathlib.Data.List.Chain

namespace AirUpdate

/-- The rounds in which the device wrote a fragment down. -/
def writing (xs : List (Round Bench Bytes)) : List (Round Bench Bytes) :=
  xs.filter fun x => x.written?.isSome

/-- The rounds go on from fragment to fragment: number `n` is next before them, and
    number `m` behind them. -/
inductive Steady : Nat → List (Round Bench Bytes) → Nat → Prop
  | nil {n} : Steady n [] n
  | idle {n m x xs} : x.written? = none → Steady n xs m → Steady n (x :: xs) m
  | sent {n m x xs} : x.written?.isSome = true → x.index = n →
      Steady (n + 1) xs m → Steady n (x :: xs) m
  | kept {n m x xs} : x.written?.isSome = true → x.index = n →
      x.before.CutBehindWrite Bench.link x.after → Steady n xs m → Steady n (x :: xs) m

/-- The fragment of the second round comes next behind that of the first, or is the
    same because the stream was cut in the pause behind its write. -/
def Round.Continues (x y : Round Bench Bytes) : Prop :=
  y.index = x.index + 1 ∨ y.index = x.index ∧ x.before.CutBehindWrite Bench.link x.after

section
variable {x : Round Bench Bytes} {xs ys : List (Round Bench Bytes)} {n k m : Nat}

theorem writing_cons_of_none (h : x.written? = none) : writing (x :: xs) = writing xs := by
  simp [writing, h]

theorem writing_cons_of_isSome (h : x.written?.isSome = true) :
    writing (x :: xs) = x :: writing xs := by
  simp [writing, h]

theorem filterMap_writing (xs : List (Round Bench Bytes)) :
    (writing xs).filterMap Round.written? = xs.filterMap Round.written? := by
  unfold writing
  rw [List.filterMap_filter]
  refine List.filterMap_congr fun x _ => ?_
  cases x.written? <;> rfl

namespace Steady

theorem append (h : Steady n xs k) (h' : Steady k ys m) : Steady n (xs ++ ys) m := by
  induction h with
  | nil => exact h'
  | idle hx _ ih => exact .idle hx (ih h')
  | sent hx hindex _ ih => exact .sent hx hindex (ih h')
  | kept hx hindex hcut _ ih => exact .kept hx hindex hcut (ih h')

theorem head (h : Steady n xs m) : ∀ x ∈ (writing xs).head?, x.index = n := by
  induction h with
  | nil => simp [writing]
  | idle hx _ ih => rwa [writing_cons_of_none hx]
  | sent hx hindex | kept hx hindex =>
    rw [writing_cons_of_isSome hx]
    rintro _ ⟨⟩
    exact hindex

theorem isChain (h : Steady n xs m) : (writing xs).IsChain Round.Continues := by
  induction h with
  | nil => exact .nil
  | idle hx _ ih => rwa [writing_cons_of_none hx]
  | sent hx hindex hrest ih =>
    rw [writing_cons_of_isSome hx]
    refine ih.cons fun y hy => Or.inl ?_
    rw [hrest.head y hy, hindex]
  | kept hx hindex hcut hrest ih =>
    rw [writing_cons_of_isSome hx]
    refine ih.cons fun y hy => Or.inr ⟨?_, hcut⟩
    rw [hrest.head y hy, hindex]

theorem eq_of_nil (h : Steady n xs m) (hnil : writing xs = []) : m = n := by
  induction h with
  | nil => rfl
  | idle hx _ ih => exact ih (writing_cons_of_none hx ▸ hnil)
  | sent hx | kept hx =>
    rw [writing_cons_of_isSome hx] at hnil
    cases hnil

theorem last (h : Steady n xs m) :
    ∀ x ∈ (writing xs).getLast?, m = x.index + 1 ∨ m = x.index := by
  -- the last write is that of the first round here, or a later one
  have hcons : ∀ {x : Round Bench Bytes} {xs : List (Round Bench Bytes)} {m : Nat},
      x.written?.isSome = true → (writing xs = [] → m = x.index + 1 ∨ m = x.index) →
      (∀ y ∈ (writing xs).getLast?, m = y.index + 1 ∨ m = y.index) →
      ∀ y ∈ (writing (x :: xs)).getLast?, m = y.index + 1 ∨ m = y.index := by
    intro x xs m hx hnil hlater y hy
    rw [writing_cons_of_isSome hx, List.getLast?_cons] at hy
    cases hlast : (writing xs).getLast? with
    | none =>
      rw [hlast] at hy
      cases hy
      exact hnil (List.getLast?_eq_none_iff.1 hlast)
    | some z =>
      rw [hlast] at hy
      cases hy
      exact hlater z hlast
  induction h with
  | nil => simp [writing]
  | idle hx _ ih => rwa [writing_cons_of_none hx]
  | sent hx hindex hrest ih =>
    exact hcons hx (fun hnil => Or.inl (by rw [hrest.eq_of_nil hnil, hindex])) ih
  | kept hx hindex _ hrest ih =>
    exact hcons hx (fun hnil => Or.inr (by rw [hrest.eq_of_nil hnil, hindex])) ih

/-- Rounds that reach the number of fragments, and write none from there on, go through
    all of them. -/
theorem ends (h : Steady 0 xs m) {count : Nat} (hcount : 0 < count) (hm : count ≤ m)
    (hlt : ∀ x ∈ writing xs, x.index < count) :
    (writing xs).head?.map Round.index = some 0 ∧
      (writing xs).getLast?.map Round.index = some (count - 1) := by
  have hne : writing xs ≠ [] := by
    intro hnil
    rw [h.eq_of_nil hnil] at hm
    omega
  obtain ⟨first, hfirst⟩ := Option.isSome_iff_exists.1 (List.isSome_head?.2 hne)
  obtain ⟨final, hfinal⟩ := Option.isSome_iff_exists.1 (List.getLast?_isSome.2 hne)
  rw [hfirst, hfinal, Option.map_some, Option.map_some, Option.some.injEq, Option.some.injEq]
  have hbelow := hlt final (List.mem_of_getLast? hfinal)
  refine ⟨h.head first hfirst, ?_⟩
  rcases h.last final hfinal with hm' | hm' <;> omega

end Steady

end

namespace Session
variable {s : Session Bench Bytes} {report : TransferReport} {xs : List (Round Bench Bytes)}
  {x : Made Bench Bytes}

/-- A round that hears no steering report goes on steadily. -/
theorem Runs.steady_round {z : Round Bench Bytes} (h : Runs Bench.link report s xs) (hz : z ∈ xs)
    (hquiet : z.steering? = none) : z.after.flow.held = z.before.flow.held ∧
      ∀ {ys m}, Steady z.after.flow.sequencer.index ys m →
        Steady z.before.flow.sequencer.index (z :: ys) m := by
  have hheeded : z.before.heeded.flow = z.before.flow := heeded_flow_of_none hquiet
  have hindex : z.index = z.before.flow.sequencer.index := by rw [← hheeded]; rfl
  cases ht : z.turn with
  | none =>
    obtain ⟨e, hhalted⟩ := h.halted_mem hz ht
    have hafter : z.after.flow = z.before.flow := by rw [hhalted.eq_heeded, ← hheeded]
    rw [hafter]
    refine ⟨rfl, fun hsteady => ?_⟩
    cases hwritten : z.written? with
    | none => exact .idle hwritten hsteady
    | some w =>
      have hsome : z.written?.isSome = true := by rw [hwritten]; rfl
      exact .kept hsome hindex (h.cutBehindWrite hz ht hsome) hsteady
  | some t =>
    obtain ⟨_, _, hturned⟩ := h.turned_mem hz ht
    have hafter := hturned.flow_eq
    rw [hheeded] at hafter
    rcases h.written?_mem hz with ⟨⟨m, hwritten, -⟩, -, hsends⟩ | ⟨⟨hwritten, -⟩, hsends⟩
    · rw [ht, Option.all_some] at hsends
      rw [hafter, if_pos hsends]
      refine ⟨rfl, fun hsteady => .sent (by rw [hwritten]; rfl) hindex ?_⟩
      rwa [Flow.advance, Sequencer.index_advance] at hsteady
    · rw [ht, Option.any_some] at hsends
      rw [hafter, hsends]
      exact ⟨rfl, fun hsteady => .idle hwritten hsteady⟩

/-- **A stream that hears no steering report** goes on steadily. -/
theorem Runs.steady (h : Runs Bench.link report s xs) (hquiet : ∀ z ∈ xs, z.steering? = none) :
    (xs.getLast?.elim s Round.after).flow.held = s.flow.held ∧
      Steady s.flow.sequencer.index xs
        (xs.getLast?.elim s Round.after).flow.sequencer.index := by
  induction h with
  | nil => exact ⟨rfl, .nil⟩
  | @halted report s e s' hturn =>
    have hz := List.mem_singleton_self (⟨s, none, s'⟩ : Round Bench Bytes)
    obtain ⟨hheld, hsteady⟩ := (Runs.halted hturn).steady_round hz (hquiet _ hz)
    exact ⟨hheld, hsteady .nil⟩
  | @ended report s t report' s' xs hturn hlast hruns ih =>
    have hz : (⟨s, some t, s'⟩ : Round Bench Bytes) ∈ ⟨s, some t, s'⟩ :: xs := List.mem_cons_self
    obtain ⟨hheld, hsteady⟩ := (Runs.ended hturn hlast hruns).steady_round hz (hquiet _ hz)
    obtain ⟨hheld', hsteady'⟩ := ih fun z hz => hquiet z (List.mem_cons_of_mem _ hz)
    rw [getLast?_elim_cons]
    exact ⟨hheld'.trans hheld, hsteady hsteady'⟩

/-- The call is a transfer and hears no report that steers it. -/
def Made.Unsteered (y : Made Bench Bytes) : Prop :=
  y.call = .transfer ∧ ∀ z ∈ y.rounds Bench.link, z.steering? = none

instance (y : Made Bench Bytes) : Decidable y.Unsteered :=
  inferInstanceAs (Decidable (_ ∧ _))

/-- Unsteered calls have taken the session on so, from `s` to `s'`. -/
structure Resumes (s : Session Bench Bytes) (xs : List (Made Bench Bytes))
    (s' : Session Bench Bytes) : Prop where
  image_eq : s'.image = s.image
  config_eq : s'.config = s.config
  steady : Steady s.flow.sequencer.index (xs.flatMap (Made.rounds Bench.link))
    s'.flow.sequencer.index
  writes_eq : s'.world.device.writes =
    s.world.device.writes ++ (xs.flatMap (Made.rounds Bench.link)).filterMap Round.written?
  carries : ∀ z ∈ xs.flatMap (Made.rounds Bench.link), ∀ w, z.written? = some w →
    w.Carries s.image s.config.payloadSize z.index

variable {s' : Session Bench Bytes} {ys : List (Made Bench Bytes)}

theorem Resumes.refl (s : Session Bench Bytes) : Resumes s [] s where
  image_eq := rfl
  config_eq := rfl
  steady := .nil
  writes_eq := (List.append_nil _).symm
  carries := by simp

theorem Resumes.called (h : Resumes s ys s') (pause limit : Nat) :
    Resumes s ys (s'.called pause limit) where
  image_eq := h.image_eq
  config_eq := h.config_eq
  steady := h.steady
  writes_eq := by
    rw [← h.writes_eq]
    unfold Bench.writes
    rw [log_called]
  carries := h.carries

theorem Resumes.made (h : Resumes s ys x.before) (hd : s.image.length < wordSpan)
    (hx : x.Genuine Bench.link) (hunsteered : x.Unsteered) :
    Resumes s (ys ++ [x]) x.after := by
  obtain ⟨hcall, hquiet⟩ := hunsteered
  have hrounds : x.rounds Bench.link = transferRounds Bench.link x.turns x.before := by
    unfold Made.rounds
    rw [hcall]
  have hruns : Runs Bench.link .empty x.before (x.rounds Bench.link) :=
    hrounds ▸ runs_transferRounds x.turns x.before
  have hwrites := writes_transfer x.turns x.before
  obtain ⟨phase, hend⟩ := endState_transfer (A := Bytes) x.turns x.before
  rw [← hx.after_eq hcall, ← hrounds] at hwrites hend
  have hflat : (ys ++ [x]).flatMap (Made.rounds Bench.link) =
      ys.flatMap (Made.rounds Bench.link) ++ x.rounds Bench.link := by simp
  constructor
  case image_eq => rw [hend]; exact hruns.image_end.1.trans h.image_eq
  case config_eq => rw [hend]; exact hruns.image_end.2.trans h.config_eq
  case steady =>
    rw [hflat, hend]
    exact h.steady.append (hruns.steady hquiet).2
  case writes_eq => rw [hflat, hwrites, h.writes_eq, List.filterMap_append, List.append_assoc]
  case carries =>
    intro z hz w hw
    rw [hflat] at hz
    rcases List.mem_append.1 hz with hz | hz
    · exact h.carries z hz w hw
    · rw [← h.image_eq, ← h.config_eq]
      exact hruns.carries hz (h.image_eq ▸ hd) hw

/-- The rounds of the calls in which the device wrote a fragment down, in order. -/
def writingRounds (ys : List (Made Bench Bytes)) : List (Round Bench Bytes) :=
  writing (ys.flatMap (Made.rounds Bench.link))

/-- A transfer that was cancelled leaves the session streaming. -/
theorem Made.Genuine.phase_of_cut (hx : x.Genuine Bench.link) (hcall : x.call = .transfer)
    (hcut : x.halt? = some .cut) : x.before.phase = .streaming ∧ x.after.phase = .streaming := by
  rcases hx.transfer_eq hcall with ⟨report, hok, -⟩ | ⟨e, hhalt, htransfer⟩
  · rw [Made.result_of_halt? hcut] at hok
    cases hok
  rw [hcut] at hhalt
  cases hhalt
  rcases transfer_eq_error htransfer with ⟨-, he, -⟩ | ⟨hphase, s₁, hstream, hafter⟩
  · cases he
  have hkept : (endState (stream Bench.link x.turns .empty x.before)).phase = x.before.phase :=
    phase_stream x.turns .empty x.before
  rw [hstream] at hkept
  rw [hafter]
  exact ⟨hphase, hkept.trans hphase⟩

/-- A transfer that comes to its end leaves no fragment to send. -/
theorem chunkCount_le_of_transfer {turns : Nat} (h : transfer Bench.link turns s = .ok report s')
    (hd : s.image.length < wordSpan) :
    chunkCount s.image s.config.payloadSize ≤ s'.flow.sequencer.index := by
  obtain ⟨-, report₁, s₁, hstream, -, rfl⟩ := transfer_eq_ok h
  obtain ⟨pre, z, t, hrounds, ht, hlast, rfl⟩ := stream_eq_ok hstream
  have hruns : Runs Bench.link .empty s (rounds Bench.link turns .empty s) :=
    runs_rounds turns .empty s
  have hz : z ∈ rounds Bench.link turns .empty s := by rw [hrounds]; simp
  obtain ⟨_, _, hturned⟩ := hruns.turned_mem hz ht
  obtain ⟨himage, hconfig⟩ := hruns.image_eq hz
  have hreach := hturned.chunkCount_le (himage ▸ hd) hlast
  rwa [himage, hconfig] at hreach

theorem resumes_of_history {attempts : List Attempt} {pre post : List (Made Bench Bytes)}
    (hd : s.image.length < wordSpan) (hx : history Bench.link attempts s = pre ++ x :: post)
    (hunsteered : ∀ y ∈ pre ++ [x], y.Unsteered) :
    Resumes s pre x.before ∧ Resumes s (pre ++ [x]) x.after := by
  obtain ⟨hbefore, hafter, -⟩ := history_inv
    (G := fun ys s' => (∀ y ∈ ys, y.Unsteered) → Resumes s ys s')
    (H := fun ys s' => (∀ y ∈ ys, y.Unsteered) → Resumes s ys s')
    (fun ys s' pause limit h hys => (h hys).called pause limit)
    (fun ys y h hy hys => (h fun z hz => hys z (by simp [hz])).made hd hy (hys y (by simp)))
    (fun _ => Resumes.refl s) hx
  exact ⟨hbefore fun y hy => hunsteered y (by simp [hy]), hafter hunsteered⟩

/-- **A stream that is cancelled and taken up again loses no fragment.**  If the device
    reports nothing that steers the stream, and all transfers are cancelled but the
    last, which comes to its end, then the session goes on streaming in between, and
    the writes of all transfers go through the image: from the first fragment to the
    last, each followed by the next, or by itself if the transfer was cancelled in
    the pause behind its write.  The report of the last transfer is about its own
    writes. -/
theorem transfer_of_interrupted {attempts : List Attempt} {pre : List (Made Bench Bytes)}
    (hd : s.image.length < wordSpan) (hfirst : s.flow = .initial)
    (hx : history Bench.link attempts s = pre ++ [x])
    (hunsteered : ∀ y ∈ pre ++ [x], y.Unsteered)
    (hcut : ∀ y ∈ pre, y.halt? = some .cut) (hok : x.result = .ok (some report) x.after) :
    (∀ y ∈ pre, y.before.phase = .streaming ∧ y.after.phase = .streaming) ∧
      x.after.world.device.writes =
        s.world.device.writes ++ (writingRounds (pre ++ [x])).filterMap Round.written? ∧
      (∀ z ∈ writingRounds (pre ++ [x]), ∃ w, z.written? = some w ∧
        w.Carries s.image s.config.payloadSize z.index) ∧
      (s.image ≠ [] →
        (writingRounds (pre ++ [x])).head?.map Round.index = some 0 ∧
        (writingRounds (pre ++ [x])).getLast?.map Round.index =
          some (chunkCount s.image s.config.payloadSize - 1)) ∧
      (writingRounds (pre ++ [x])).IsChain Round.Continues ∧
      ∃ own, x.after.world.device.writes = x.before.world.device.writes ++ own ∧
        report.fragmentsSent = own.length ∧
        report.bytesSent = (own.map fun w => w.data.length - 1).sum := by
  obtain ⟨hbefore, hafter⟩ := resumes_of_history hd hx hunsteered
  have hcarries : ∀ z ∈ writingRounds (pre ++ [x]), ∃ w, z.written? = some w ∧
      w.Carries s.image s.config.payloadSize z.index := by
    intro z hz
    obtain ⟨hz, hwritten⟩ := List.mem_filter.1 hz
    obtain ⟨w, hw⟩ := Option.isSome_iff_exists.1 hwritten
    exact ⟨w, hw, hafter.carries z hz w hw⟩
  have htransfer : transfer Bench.link x.turns x.before = .ok report x.after := by
    have hx' : x ∈ history Bench.link attempts s := by rw [hx]; simp
    obtain ⟨hcall, -⟩ := hunsteered x (by simp)
    rcases (genuine_of_mem hx').transfer_eq hcall with ⟨report', hok', htransfer⟩ | ⟨e, hhalt, -⟩
    · rw [hok] at hok'
      cases hok'
      exact htransfer
    · rw [Made.result_of_halt? hhalt] at hok
      cases hok
  refine ⟨fun y hy => ?_, ?_, hcarries, fun hne => ?_, hafter.steady.isChain, ?_⟩
  · have hy' : y ∈ history Bench.link attempts s := by rw [hx]; simp [hy]
    obtain ⟨hcall, -⟩ := hunsteered y (by simp [hy])
    exact (genuine_of_mem hy').phase_of_cut hcall (hcut y hy)
  · rw [hafter.writes_eq, writingRounds, filterMap_writing]
  · have hreach := chunkCount_le_of_transfer htransfer (hbefore.image_eq ▸ hd)
    rw [hbefore.image_eq, hbefore.config_eq] at hreach
    have hsome : 0 < chunkCount s.image s.config.payloadSize := by
      rw [lt_chunkCount_iff (payloadSize_pos s.config), Nat.mul_zero]
      exact List.length_pos_of_ne_nil hne
    have hsteady := hafter.steady
    rw [hfirst] at hsteady
    refine Steady.ends hsteady hsome hreach fun z hz => ?_
    obtain ⟨w, -, hw⟩ := hcarries z hz
    exact hw.lt_count
  · exact report_of_writes htransfer

end Session

namespace Bench

open Session

/-- A stream of three bytes, one in a fragment, to a device that lets the second write
    hang. -/
def hanging : Session Bench Bytes where
  image := [7, 8, 9]
  config := { SessionConfig.default with fragmentSize := 1 }
  flow := .initial
  phase := .streaming
  world := .initial 0 { quiet with subscribed := true, stalls := [(1, 1)] }

/-- Cancelled in the pause behind the first write, then in the write that hangs. -/
def hangingAttempts : List Attempt :=
  [⟨0, .transfer, 40, 16⟩, ⟨10, .transfer, 160, 16⟩, ⟨0, .transfer, 60000, 16⟩]

/-- The first byte goes out twice, and the last call reports the other two. -/
theorem hanging_transfer_of_interrupted :
    ∃ pre x, history link hangingAttempts hanging = pre ++ [x] ∧
      pre.map Made.halt? = [some .cut, some .cut] ∧ (∀ y ∈ pre, y.after.phase = .streaming) ∧
      (writingRounds (pre ++ [x])).map Round.index = [0, 0, 1, 2] ∧
      (writingRounds (pre ++ [x])).IsChain Round.Continues ∧
      ∃ own, x.after.world.device.writes = x.before.world.device.writes ++ own ∧
        own.length = 2 := by
  have hunsteered : ∀ y ∈ history link hangingAttempts hanging, y.Unsteered := by decide +kernel
  have hindices : (writingRounds (history link hangingAttempts hanging)).map Round.index =
      [0, 0, 1, 2] := by decide +kernel
  have hcut : (history link hangingAttempts hanging).dropLast.map Made.halt? =
      [some .cut, some .cut] := by decide +kernel
  have hlast : (history link hangingAttempts hanging).getLast?.map (fun x => result? x.result) =
      some (some (some ⟨2, 2, 0, 0, 150⟩)) := by decide +kernel
  obtain ⟨x, hx, hresult⟩ := Option.map_eq_some_iff.1 hlast
  obtain ⟨pre, hsplit⟩ := List.getLast?_eq_some_iff.1 hx
  rw [hsplit] at hunsteered hindices
  rw [hsplit, List.dropLast_concat] at hcut
  have hcut' : ∀ y ∈ pre, y.halt? = some .cut := by
    intro y hy
    have hhalt := List.mem_map_of_mem hy (f := Made.halt?)
    rw [hcut] at hhalt
    simpa using hhalt
  obtain ⟨hphase, -, -, -, hchain, own, hown, hsent, -⟩ :=
    transfer_of_interrupted (by decide) rfl hsplit hunsteered hcut' (eq_ok_of_result? hresult)
  exact ⟨pre, x, hsplit, hcut, fun y hy => (hphase y hy).2, hindices, hchain, own, hown,
    hsent.symm⟩

end Bench

end AirUpdate
