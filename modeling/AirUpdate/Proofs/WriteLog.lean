/-
  Air updates — which writes a transfer makes.

  What concerns the fragments in a transfer is a list of events: reports that
  steer the stream, writes that came to their end and writes that were given
  up.  Each event takes the number of the next fragment on to another
  (`StreamEvent.move`), and every write is of the fragment with the number to
  which the events before it lead (`Coherent`).  The log of a bench device
  grows by the writes among the events (`writes_cohere`).
-/
import AirUpdate.Proofs.BenchLog

namespace AirUpdate

namespace Sequencer

/-- The sequencer of which the fragment with this number is next. -/
def ofIndex (n : Nat) : Sequencer := ⟨UInt8.ofNat n, n / 256⟩

theorem ofIndex_index (q : Sequencer) : ofIndex q.index = q := by
  obtain ⟨id, rollover⟩ := q
  have hid := id.toNat_lt
  rw [ofIndex, ← id_eq_ofNat, index_eq]
  congr 1
  show (256 * rollover + id.toNat) / 256 = rollover
  omega

end Sequencer

/-- What happens to the fragments of a stream. -/
inductive StreamEvent where
  /-- a report that steers the stream was taken, with this id -/
  | report (id : UInt8)
  /-- a write came to its end -/
  | written (w : BenchWrite)
  /-- a write of this fragment was given up -/
  | givenUp (f : Fragment)
  deriving DecidableEq, Repr

namespace StreamEvent

/-- The write, if the event is one that came to its end. -/
def written? : StreamEvent → Option BenchWrite
  | written w => some w
  | report _ | givenUp _ => none

/-- The number of the next fragment after an event, from that before it. -/
def move (n : Nat) : StreamEvent → Nat
  | report id => ((Sequencer.ofIndex n).resync id).index
  | written _ => n + 1
  | givenUp _ => n

end StreamEvent

/-- The write is that of fragment number `j`: in full, unless that is the last one,
    and not to be answered. -/
structure BenchWrite.Carries (image : Bytes) (size j : Nat) (w : BenchWrite) : Prop where
  lt_count : j < chunkCount image size
  on_stream : w.characteristic = .binaryStream
  unanswered : w.mode = .command
  data_eq : w.data = UInt8.ofNat j :: chunk image size j
  not_empty : chunk image size j ≠ []
  full : j + 1 < chunkCount image size → (chunk image size j).length = size

/-- The event fits a stream in which fragment number `n` is next. -/
def StreamEvent.Fits (image : Bytes) (size n : Nat) : StreamEvent → Prop
  | report _ => True
  | written w => w.Carries image size n
  | givenUp f => f = fragmentAt image size n

/-- Each event fits where those before it lead. -/
def Coherent (image : Bytes) (size : Nat) : Nat → List StreamEvent → Prop
  | _, [] => True
  | n, e :: es => e.Fits image size n ∧ Coherent image size (e.move n) es

section
variable {image : Bytes} {size n : Nat} {es es' pre mid post : List StreamEvent} {e : StreamEvent}

theorem coherent_append : Coherent image size n (es ++ es') ↔
    Coherent image size n es ∧ Coherent image size (es.foldl StreamEvent.move n) es' := by
  induction es generalizing n with
  | nil => simp [Coherent]
  | cons e es ih => simp [Coherent, ih, and_assoc]

theorem coherent_reports (ids : List UInt8) :
    Coherent image size n (ids.map StreamEvent.report) := by
  induction ids generalizing n with
  | nil => trivial
  | cons id ids ih => exact ⟨trivial, ih⟩

theorem Coherent.fits (h : Coherent image size n (pre ++ e :: post)) :
    e.Fits image size (pre.foldl StreamEvent.move n) :=
  (coherent_append.1 h).2.1

theorem move_of_givenUp (h : ∀ e ∈ mid, ∃ f, e = .givenUp f) :
    mid.foldl StreamEvent.move n = n := by
  induction mid with
  | nil => rfl
  | cons e mid ih =>
    obtain ⟨f, rfl⟩ := h e (by simp)
    exact ih fun e he => h e (by simp [he])

end

namespace Round

/-- What happens to the fragments in the round, in order. -/
def events (x : Round Bench Bytes) : List StreamEvent :=
  (x.steering?.bind StatusReport.fragmentId).toList.map .report ++
    (x.givenUp?.toList.map .givenUp ++ x.written?.toList.map .written)

theorem filterMap_events (x : Round Bench Bytes) :
    x.events.filterMap StreamEvent.written? = x.written?.toList := by
  unfold events
  cases x.steering?.bind StatusReport.fragmentId <;> cases x.givenUp? <;> cases x.written? <;> rfl

end Round

namespace Session
variable {s : Session Bench Bytes} {report : TransferReport} {xs : List (Round Bench Bytes)}
  {x : Round Bench Bytes}

/-- A steering report takes the next fragment where `StreamEvent.move` says. -/
theorem move_reports (x : Round Bench Bytes) :
    ((x.steering?.bind StatusReport.fragmentId).toList.map StreamEvent.report).foldl
      StreamEvent.move x.before.flow.sequencer.index = x.index := by
  unfold Round.index
  cases hr : x.steering? with
  | none =>
    rw [heeded_flow_of_none hr]
    rfl
  | some r =>
    obtain ⟨status, id, rfl, hcarries⟩ := exists_id_of_steering hr
    rw [heeded_flow_of_some hr, Flow.sequencer_absorb hcarries]
    show ((Sequencer.ofIndex x.before.flow.sequencer.index).resync id).index = _
    rw [Sequencer.ofIndex_index]

theorem carries_entry (hd : s.image.length < wordSpan) (hne : s.heeded.next.payload ≠ [])
    (moment : Nat) :
    (s.heeded.entry moment).Carries s.image s.config.payloadSize
      s.heeded.flow.sequencer.index := by
  have hsize := payloadSize_pos s.config
  rw [payload_heeded] at hne
  refine ⟨?_, rfl, rfl, ?_, hne, fun hnext => ?_⟩
  · rwa [← Nat.not_le, ← chunk_eq_nil_iff hd hsize]
  · show s.heeded.next.toBytes = _
    rw [next_eq]
    rfl
  · by_contra hshort
    have hlength : (chunk s.image s.config.payloadSize s.heeded.flow.sequencer.index).length =
        min s.config.payloadSize _ := length_chunk hd
    have hlt : (chunk s.image s.config.payloadSize s.heeded.flow.sequencer.index).length <
        s.config.payloadSize := by omega
    have hlast := succ_eq_chunkCount hd hsize hne hlt
    omega

/-- A turn that came to its end leaves the fragment next that its events lead to. -/
theorem Runs.index_after (h : Runs Bench.link report s xs) (hx : x ∈ xs) (ht : x.turn ≠ none) :
    x.after.flow.sequencer.index = x.index + if x.turn.any Turn.sends then 1 else 0 := by
  obtain ⟨t, ht⟩ := Option.ne_none_iff_exists'.1 ht
  obtain ⟨_, _, hturned⟩ := h.turned_mem hx ht
  rw [hturned.flow_eq, ht, Option.any_some]
  unfold Round.index
  split
  · exact Sequencer.index_advance _
  · rfl

/-- The write of a round carries the fragment that is next there. -/
theorem Runs.carries (h : Runs Bench.link report s xs) (hx : x ∈ xs)
    (hd : s.image.length < wordSpan) {w : BenchWrite} (hw : x.written? = some w) :
    w.Carries s.image s.config.payloadSize x.index := by
  obtain ⟨himage, hconfig⟩ := h.image_eq hx
  rcases h.written?_mem hx with ⟨⟨m, hwritten, -⟩, hne, -⟩ | ⟨⟨hnone, -⟩, -⟩
  · rw [hw] at hwritten
    cases hwritten
    rw [← himage, ← hconfig]
    exact carries_entry (himage ▸ hd) hne m
  · rw [hw] at hnone
    cases hnone

/-- The events of a round fit where it begins, and lead to where it ends unless it
    halts. -/
theorem Runs.coherent_events (h : Runs Bench.link report s xs) (hx : x ∈ xs)
    (hd : s.image.length < wordSpan) :
    Coherent s.image s.config.payloadSize x.before.flow.sequencer.index x.events ∧
      (x.turn ≠ none → x.events.foldl StreamEvent.move x.before.flow.sequencer.index =
        x.after.flow.sequencer.index) := by
  obtain ⟨himage, hconfig⟩ := h.image_eq hx
  unfold Round.events
  rw [coherent_append, List.foldl_append, move_reports]
  rcases h.written?_mem hx with ⟨⟨m, hwritten, -⟩, -, hsends⟩ | ⟨⟨hwritten, -⟩, hsends⟩
  · have hkept : x.givenUp? = none := by
      unfold Round.givenUp?
      refine if_neg fun ht => ?_
      rw [ht] at hsends
      cases hsends
    rw [hwritten, hkept]
    refine ⟨⟨coherent_reports _, ?_, trivial⟩, fun ht => ?_⟩
    · exact h.carries hx hd hwritten
    · obtain ⟨t, ht'⟩ := Option.ne_none_iff_exists'.1 ht
      rw [h.index_after hx ht, ht', Option.any_some]
      rw [ht', Option.all_some] at hsends
      rw [if_pos hsends]
      rfl
  · rw [hwritten]
    refine ⟨⟨coherent_reports _, ?_⟩, fun ht => ?_⟩
    · cases hgiven : x.givenUp? with
      | none => trivial
      | some f =>
        refine ⟨?_, trivial⟩
        unfold Round.givenUp? at hgiven
        split at hgiven
        · rw [← himage, ← hconfig]
          exact Round.eq_of_attempt? hgiven
        · cases hgiven
    · rw [h.index_after hx ht, hsends]
      cases x.givenUp? <;> rfl

theorem Runs.coherent (h : Runs Bench.link report s xs) (hd : s.image.length < wordSpan) :
    Coherent s.image s.config.payloadSize s.flow.sequencer.index (xs.flatMap Round.events) := by
  induction h with
  | nil => trivial
  | @halted report s e s' hturn =>
    have hx := (Runs.halted hturn).coherent_events (List.mem_singleton_self _) hd
    simpa using hx.1
  | @ended report s t report' s' xs hturn hlast hruns ih =>
    have hx := (Runs.ended hturn hlast hruns).coherent_events List.mem_cons_self hd
    have hturned := turned_of_turn hturn
    rw [hturned.image_eq, hturned.config_eq] at ih
    rw [List.flatMap_cons, coherent_append, hx.2 nofun]
    exact ⟨hx.1, ih hd⟩

def events (turns : Nat) (s : Session Bench Bytes) : List StreamEvent :=
  (transferRounds Bench.link turns s).flatMap Round.events

theorem filterMap_events (turns : Nat) (s : Session Bench Bytes) :
    (events turns s).filterMap StreamEvent.written? =
      (transferRounds Bench.link turns s).filterMap Round.written? := by
  unfold events
  rw [List.filterMap_flatMap, List.filterMap_eq_flatMap_toList Round.written?]
  simp only [Round.filterMap_events]

/-- **The write log of a transfer.**  However the transfer ends, the log grows by the
    writes among its events, in order.  Each write carries the fragment with the
    number to which the events before it lead, from the one that was next at the
    start: a write moves on by one, and a steering report as `Sequencer.resync`
    does.  A write that was given up changes nothing: with no report in between,
    the next that comes to its end is of the same fragment. -/
theorem writes_cohere (hd : s.image.length < wordSpan) (turns : Nat) :
    (endState (transfer Bench.link turns s)).world.device.writes =
        s.world.device.writes ++ (events turns s).filterMap StreamEvent.written? ∧
      (∀ pre w post, events turns s = pre ++ .written w :: post →
        w.Carries s.image s.config.payloadSize
          (pre.foldl StreamEvent.move s.flow.sequencer.index)) ∧
      ∀ pre f mid w post, events turns s = pre ++ .givenUp f :: mid ++ .written w :: post →
        (∀ e ∈ mid, ∃ g, e = .givenUp g) → w.data = f.toBytes := by
  have hcoherent : Coherent s.image s.config.payloadSize s.flow.sequencer.index
      (events turns s) := (runs_transferRounds turns s).coherent hd
  refine ⟨?_, fun pre w post hsplit => ?_, fun pre f mid w post hsplit hmid => ?_⟩
  · rw [filterMap_events, writes_transfer]
  · rw [hsplit] at hcoherent
    exact hcoherent.fits
  · rw [hsplit] at hcoherent
    have hw := hcoherent.fits
    rw [List.append_assoc] at hcoherent
    have hf : f = fragmentAt s.image s.config.payloadSize _ := hcoherent.fits
    rw [List.foldl_append, List.foldl_cons, move_of_givenUp hmid] at hw
    rw [hf]
    exact hw.data_eq

end Session

namespace Bench

/-- A stream of three bytes, one in a fragment, to a device that lets the second
    write hang, and asks for the first byte again once it has the second. -/
def stumbling : Session Bench Bytes where
  image := [7, 8, 9]
  config := { SessionConfig.default with fragmentSize := 1 }
  flow := .initial
  phase := .streaming
  world := .initial 60000 { quiet with
    subscribed := true
    stalls := [(1, 1)]
    script := [⟨.fragment 1, 0, 1, [(0, StatusReport.toBytes ⟨.syncLost, some 0⟩)], 0⟩] }

/-- The second byte goes out behind a write given up, and the first one goes out again. -/
theorem stumbling_writes_cohere :
    ∃ w₀ w₁ w₂ w₃ w₄, Session.events 16 stumbling =
      [.written w₀, .givenUp ⟨1, [8]⟩, .written w₁, .report 0, .written w₂, .written w₃,
        .written w₄] ∧
      w₁.data = [1, 8] ∧ w₂.Carries [7, 8, 9] 1 0 := by
  have hevents : Session.events 16 stumbling =
      [.written ⟨0, .binaryStream, [0, 7], .command⟩, .givenUp ⟨1, [8]⟩,
        .written ⟨200, .binaryStream, [1, 8], .command⟩, .report 0,
        .written ⟨275, .binaryStream, [0, 7], .command⟩,
        .written ⟨350, .binaryStream, [1, 8], .command⟩,
        .written ⟨425, .binaryStream, [2, 9], .command⟩] := by decide +kernel
  obtain ⟨-, hcarries, hretried⟩ :=
    Session.writes_cohere (s := stumbling) (by decide) 16
  refine ⟨_, _, _, _, _, hevents, ?_, ?_⟩
  · exact hretried [_] ⟨1, [8]⟩ [] _ _ hevents (by simp)
  · exact hcarries [_, _, _, _] _ _ hevents

end Bench

end AirUpdate
