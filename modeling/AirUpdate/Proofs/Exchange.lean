/-
  Air updates — notifications that a session makes nothing of.

  A notification is inert if it is no report that steers the stream, nor one of a
  failure where the session fails on those (`Inert`).  Inert notifications may
  be exchanged for each other, at the moments at which they arrive: the
  transfer goes likewise (`likewise_transfer`), and so it ends the same way, with
  the same writes at the same moments.  A failure on which the session fails
  ends the transfer, and nothing is written afterwards
  (`transfer_of_exchanged`).
-/
import AirUpdate.Proofs.BenchLog
import AirUpdate.Proofs.Likeness

namespace AirUpdate

/-! ## Notifications -/

/-- A session makes nothing of the notification: it is no report that steers the stream,
    nor that of a failure if the session fails on failures. -/
def Inert (fails : Bool) (value : Bytes) : Prop :=
  ∀ r, StatusReport.ofBytes value = .ok r →
    r.status.carriesId = false ∧ (fails = true → r.status.isFailure = false)

/-- The one notification may stand for the other. -/
def Exchangeable (fails : Bool) (value value' : Bytes) : Prop :=
  value = value' ∨ Inert fails value ∧ Inert fails value'

theorem Exchangeable.refl (fails : Bool) (value : Bytes) : Exchangeable fails value value :=
  Or.inl rfl

/-! ## Answers -/

/-- The answers are due at the same moments, and related. -/
abbrev AnswersAlike (V : Bytes → Bytes → Prop) : List (Nat × Bytes) → List (Nat × Bytes) → Prop :=
  List.Forall₂ fun a a' => a.1 = a'.1 ∧ V a.2 a'.2

/-- The rules wait for the same writes, and answer them alike. -/
structure Rule.Alike (V : Bytes → Bytes → Prop) (r r' : Rule Bytes) : Prop where
  trigger_eq : r.trigger = r'.trigger
  skip_eq : r.skip = r'.skip
  times_eq : r.times = r'.times
  count_eq : r.count = r'.count
  answer : AnswersAlike V r.answer r'.answer

theorem Rule.Alike.react {V : Bytes → Bytes → Prop} {r r' : Rule Bytes} (h : r.Alike V r')
    (characteristic : Uuid) (data : Bytes) :
    AnswersAlike V (r.react characteristic data).1 (r'.react characteristic data).1 ∧
      (r.react characteristic data).2.Alike V (r'.react characteristic data).2 := by
  have hanswers : ∀ n, r.answers n = r'.answers n := fun n => by
    simp only [answers, h.skip_eq, h.times_eq]
  simp only [Rule.react, h.trigger_eq, h.count_eq, hanswers]
  split
  · refine ⟨?_, rfl, h.skip_eq, h.times_eq, rfl, h.answer⟩
    split
    · exact h.answer
    · exact .nil
  · exact ⟨.nil, h⟩

namespace Script
variable {V : Bytes → Bytes → Prop} {script script' : Script Bytes}

/-- The script after these writes. -/
def behind (script : Script Bytes) (writes : List (Uuid × Bytes)) : Script Bytes :=
  writes.foldl (fun script w => (script.react w.1 w.2).2) script

/-- The scripts answer alike, whatever was written before. -/
def Alike (V : Bytes → Bytes → Prop) (script script' : Script Bytes) : Prop :=
  ∀ writes characteristic data, AnswersAlike V ((script.behind writes).react characteristic data).1
    ((script'.behind writes).react characteristic data).1

theorem Alike.react (h : script.Alike V script') (characteristic : Uuid) (data : Bytes) :
    AnswersAlike V (script.react characteristic data).1 (script'.react characteristic data).1 ∧
      (script.react characteristic data).2.Alike V (script'.react characteristic data).2 :=
  ⟨h [] characteristic data, fun writes => h ((characteristic, data) :: writes)⟩

/-- Scripts with rules that are alike one by one are alike. -/
theorem alike_of_rules (h : List.Forall₂ (Rule.Alike V) script script') :
    script.Alike V script' := by
  intro writes characteristic data
  induction writes generalizing script script' with
  | nil => exact List.rel_flatMap h fun _ _ hr => (hr.react characteristic data).1
  | cons w writes ih => exact ih (List.rel_map (fun _ _ hr => (hr.react w.1 w.2).2) h)

end Script

namespace Bench
variable {V : Bytes → Bytes → Prop} {characteristic : Uuid} {data : Bytes} {mode : WriteMode}

/-- The devices differ in the notifications of their scripts only. -/
structure Alike (V : Bytes → Bytes → Prop) (d d' : Bench) : Prop where
  eq : d' = { d with script := d'.script }
  script : d.script.Alike V d'.script

/-- The devices differ in their notifications only, with those in the mailboxes. -/
def Sides (V : Bytes → Bytes → Prop) (d : Bench) (m : Mailbox) (d' : Bench) (m' : Mailbox) : Prop :=
  d.Alike V d' ∧ Option.Rel V m.latest m'.latest

theorem Alike.subscribed_eq {d d' : Bench} (h : d.Alike V d') : d.subscribed = d'.subscribed := by
  rw [h.eq]

theorem likens_sides : Peer.Likens V (Sides V) where
  settle h := h
  perform {a a' d m d' m'} ha h := by
    simp only [Peer.perform, h.1.subscribed_eq]
    split
    · exact ⟨h.1, .some ha⟩
    · exact h

/-- The worlds of two such devices. -/
abbrev WorldsAlike (V : Bytes → Bytes → Prop) : World Bench Bytes → World Bench Bytes → Prop :=
  World.Alike V (Sides V)

theorem likewise_permit :
    Likewise (WorldsAlike V) Eq (permit characteristic data) (permit characteristic data) := by
  unfold permit
  split
  · next operation _ =>
    intro w w' hw
    have hrefusal : w.device.refusal? operation = w'.device.refusal? operation := by
      rw [hw.sides.1.eq]
      rfl
    simp only [allow, hrefusal]
    split
    · exact .error hw
    · exact .ok rfl hw
  · exact likewise_pure rfl

theorem likewise_hang :
    Likewise (WorldsAlike V) Eq (hang characteristic data) (hang characteristic data) := by
  refine Likewise.bind_eq (World.likewise_seen fun d m d' m' h => by rw [h.1.eq]) fun found => ?_
  refine Likewise.bind_eq (World.likewise_onDevice fun d m d' m' h => ?_) fun _ => ?_
  · exact ⟨⟨by rw [h.1.eq], h.1.script⟩, h.2⟩
  split
  · exact World.likewise_sleep likens_sides stallTime
  · exact likewise_pure rfl

theorem likewise_complete (hV : ∀ value, V value value) :
    Likewise (WorldsAlike V) Eq (complete characteristic data mode)
      (complete characteristic data mode) := by
  intro w w' hw
  obtain ⟨⟨heq, hscript⟩, hmail⟩ := hw.sides
  obtain ⟨hanswers, hbehind⟩ := hscript.react characteristic data
  have hstart : w.device.answersStart = w'.device.answersStart := by rw [heq]
  have hlog : w.device.log = w'.device.log := by rw [heq]
  refine .ok rfl (World.Alike.react likens_sides (List.rel_append ?_ hanswers) ?_)
  · rw [hstart]
    exact List.forall₂_same.2 fun _ _ => ⟨rfl, hV _⟩
  · refine ⟨hw.now_eq, hw.limit_eq, hw.credit_eq, hw.agenda, ⟨?_, hbehind⟩, hmail⟩
    rw [heq, hw.now_eq]

theorem likewise_finish (hV : ∀ value, V value value) :
    Likewise (WorldsAlike V) Eq (finish characteristic data mode)
      (finish characteristic data mode) := by
  refine Likewise.bind_eq (World.likewise_seen fun d m d' m' h => by rw [h.1.eq]) fun broken => ?_
  split
  · exact likewise_throw _
  · exact likewise_complete hV

/-- **A write goes likewise.** -/
theorem likewise_write (hV : ∀ value, V value value) :
    Likewise (WorldsAlike V) Eq (link.write characteristic data mode)
      (link.write characteristic data mode) := by
  show Likewise _ Eq (write characteristic data mode) (write characteristic data mode)
  rw [write_eq]
  exact likewise_permit.bind_eq fun _ => likewise_hang.bind_eq fun _ => likewise_finish hV

end Bench

namespace Session

/-! ## Two sessions -/

/-- An inert notification is passed over. -/
theorem heed_of_inert {D A : Type} {s : Session D A} {value : Bytes} (report : TransferReport)
    (h : Inert s.config.failOnDeviceError value) : heed report (some value) s = .ok report s := by
  simp only [heed]
  cases hvalue : StatusReport.ofBytes value with
  | error e => rfl
  | ok r =>
    obtain ⟨hcarries, hfailure⟩ := h r hvalue
    have habsorb := Flow.absorb_of_not_carriesId (f := s.flow) hcarries
    have hgoes : ¬ (r.status.isFailure = true ∧ s.config.failOnDeviceError = true) := by
      rintro ⟨hstatus, hfails⟩
      rw [hfailure hfails] at hstatus
      cases hstatus
    refine bind_eq_ok.2 ⟨s, s, rfl, ?_⟩
    simp only [if_neg hgoes]
    refine bind_eq_ok.2 ⟨(), s, ?_, ?_⟩
    · show EStateM.Result.ok () { s with flow := s.flow.absorb r } = _
      rw [habsorb]
    · simp [Flow.holds, habsorb]
      rfl

variable {fails : Bool} {α β : Type}

/-- The sessions differ only in notifications that may be exchanged: in those that the
    device is going to send, and in the one in the mailbox. -/
structure Exchanged (fails : Bool) (s s' : Session Bench Bytes) : Prop where
  image_eq : s.image = s'.image
  config_eq : s.config = s'.config
  flow_eq : s.flow = s'.flow
  phase_eq : s.phase = s'.phase
  fails_eq : s.config.failOnDeviceError = fails
  world : Bench.WorldsAlike (Exchangeable fails) s.world s'.world

theorem likewise_onWorld {Q : α → β → Prop} {act : Act Bench Bytes α} {act' : Act Bench Bytes β}
    (h : Likewise (Bench.WorldsAlike (Exchangeable fails)) Q act act') :
    Likewise (Exchanged fails) Q (onWorld act) (onWorld act') := by
  intro s s' hs
  have hact := h _ _ hs.world
  unfold onWorld
  generalize act s.world = r at hact
  generalize act' s'.world = r' at hact
  cases hact with
  | ok hab hw =>
    exact .ok hab ⟨hs.image_eq, hs.config_eq, hs.flow_eq, hs.phase_eq, hs.fails_eq, hw⟩
  | error hw =>
    exact .error ⟨hs.image_eq, hs.config_eq, hs.flow_eq, hs.phase_eq, hs.fails_eq, hw⟩

theorem likewise_enter (phase : Phase) :
    Likewise (Exchanged fails) Eq (enter phase) (enter phase) :=
  fun _ _ hs => .ok rfl ⟨hs.image_eq, hs.config_eq, hs.flow_eq, rfl, hs.fails_eq, hs.world⟩

theorem likewise_moveFlow (f : Flow → Flow) :
    Likewise (Exchanged fails) Eq (moveFlow f) (moveFlow f) :=
  fun _ _ hs => .ok rfl
    ⟨hs.image_eq, hs.config_eq, congrArg f hs.flow_eq, hs.phase_eq, hs.fails_eq, hs.world⟩

theorem likewise_expect (phase : Phase) :
    Likewise (Exchanged fails) Eq (expect phase) (expect phase) := by
  intro s s' hs
  unfold expect
  rw [hs.phase_eq]
  split
  · exact .ok rfl hs
  · exact .error hs

theorem likewise_settling {step step' : Step Bench Bytes α}
    (h : Likewise (Exchanged fails) Eq step step') :
    Likewise (Exchanged fails) Eq (settling step) (settling step') := by
  intro s s' hs
  have hstep := h s s' hs
  unfold settling
  generalize step s = r at hstep
  generalize step' s' = r' at hstep
  cases hstep with
  | ok hab hs => exact .ok hab hs
  | @error e t t' ht =>
    cases e with
    | failed error =>
      exact .error ⟨ht.image_eq, ht.config_eq, ht.flow_eq, rfl, ht.fails_eq, ht.world⟩
    | cut | exhausted => exact .error ht

theorem likewise_heed (report : TransferReport) {value value' : Option Bytes}
    (h : Option.Rel (Exchangeable fails) value value') :
    Likewise (Exchanged fails) Eq (heed report value) (heed report value') := by
  cases h with
  | none => exact likewise_pure rfl
  | @some value value' hvalue =>
    rcases hvalue with rfl | ⟨hinert, hinert'⟩
    · simp only [heed]
      split
      · exact likewise_pure rfl
      · refine likewise_get.bind fun s s' hs => ?_
        simp only [hs.config_eq, hs.flow_eq]
        split
        · exact likewise_throw _
        · exact (likewise_moveFlow _).bind_eq fun _ => likewise_pure rfl
    · intro s s' hs
      rw [heed_of_inert report (hs.fails_eq ▸ hinert),
        heed_of_inert report (hs.config_eq ▸ hs.fails_eq ▸ hinert')]
      exact .ok rfl hs

theorem likewise_send (fragment : Fragment) :
    Likewise (Exchanged fails) Eq (send Bench.link fragment) (send Bench.link fragment) := by
  refine likewise_get.bind fun s s' hs => ?_
  simp only [hs.config_eq]
  refine Likewise.bind_eq (likewise_onWorld ?_) fun _ => likewise_pure rfl
  exact World.likewise_within Bench.likens_sides (Bench.likewise_write (Exchangeable.refl fails)) _

theorem likewise_sleep (milliseconds : Nat) :
    Likewise (Exchanged fails) Eq (onWorld (World.sleep milliseconds))
      (onWorld (World.sleep milliseconds)) :=
  likewise_onWorld (World.likewise_sleep Bench.likens_sides milliseconds)

/-- **A turn goes likewise.** -/
theorem likewise_turn (report : TransferReport) :
    Likewise (Exchanged fails) Eq (turn Bench.link report) (turn Bench.link report) := by
  have hpoll : Likewise (Exchanged fails) (Option.Rel (Exchangeable fails)) (onWorld World.poll)
      (onWorld World.poll) :=
    likewise_onWorld (World.likewise_poll fun _ _ _ _ h => ⟨h.2, h.1, .none⟩)
  refine hpoll.bind fun value value' hvalue => (likewise_heed report hvalue).bind_eq fun report => ?_
  refine likewise_get.bind fun s s' hs => ?_
  simp only [hs.config_eq, hs.flow_eq, hs.image_eq]
  split
  · exact (likewise_sleep _).bind_eq fun _ => likewise_pure rfl
  · split
    · exact likewise_pure rfl
    · refine (likewise_send _).bind_eq fun written => ?_
      cases written with
      | true =>
        exact (likewise_sleep _).bind_eq fun _ => (likewise_moveFlow _).bind_eq fun _ =>
          likewise_pure rfl
      | false => exact (likewise_sleep _).bind_eq fun _ => likewise_pure rfl

theorem likewise_stream (turns : Nat) (report : TransferReport) :
    Likewise (Exchanged fails) Eq (stream Bench.link turns report)
      (stream Bench.link turns report) := by
  induction turns generalizing report with
  | zero => exact likewise_throw _
  | succ turns ih =>
    refine (likewise_turn report).bind_eq fun result => ?_
    obtain ⟨t, report'⟩ := result
    simp only
    split
    · exact likewise_pure rfl
    · exact ih report'

/-- **A transfer goes likewise**, with notifications exchanged. -/
theorem likewise_transfer (turns : Nat) :
    Likewise (Exchanged fails) Eq (transfer Bench.link turns) (transfer Bench.link turns) := by
  have hmoment : Likewise (Exchanged fails) Eq (onWorld World.moment) (onWorld World.moment) :=
    likewise_onWorld World.likewise_moment
  refine (likewise_expect _).bind_eq fun _ => ?_
  refine Likewise.bind_eq (likewise_settling ?_) fun report =>
    (likewise_enter _).bind_eq fun _ => likewise_pure rfl
  exact hmoment.bind_eq fun started => (likewise_stream turns .empty).bind_eq fun report =>
    hmoment.bind_eq fun ended => likewise_pure rfl

/-! ## Failures -/

variable {s s' : Session Bench Bytes}

/-- On a session that has failed nothing is written. -/
theorem log_of_failed {attempts : List Attempt} {y : Made Bench Bytes}
    (h : ∃ f, s.phase = .failed f) (hy : y ∈ history Bench.link attempts s) :
    y.after.world.device.log = s.world.device.log := by
  induction attempts generalizing s with
  | nil => cases hy
  | cons a attempts ih =>
    have hfailed : ∃ f, (s.called a.pause a.limit).phase = .failed f := h
    have hafter : (make Bench.link a.turns a.call _).after = _ :=
      after_make_of_ne (phase_ne_due hfailed a.call)
    rw [← log_called s a.pause a.limit]
    rcases List.mem_cons.1 hy with rfl | hy
    · rw [hafter]
    · rw [hafter] at hy
      exact ih hfailed hy

/-- A round that fails on its notification ends with what the device had written down
    when it began. -/
theorem Halted.log_of_refusal {e : Halt} {status : Status} (h : Halted Bench.link s e s')
    (hs : s.refusal? = some status) : s'.world.device.log = s.world.device.log := by
  cases h with
  | refused => rfl
  | held hrefusal | unwritten hrefusal | sent hrefusal | stalled hrefusal =>
    rw [hs] at hrefusal
    cases hrefusal

/-- **A failure on which the session fails** ends the transfer and the session, and
    nothing is written any more. -/
theorem transfer_of_failure {turns : Nat} {pre post : List (Round Bench Bytes)}
    {x : Round Bench Bytes} {value : Bytes} {r : StatusReport}
    (hfails : s.config.failOnDeviceError = true)
    (hrounds : transferRounds Bench.link turns s = pre ++ x :: post)
    (hheard : x.heard = some value) (hvalue : StatusReport.ofBytes value = .ok r)
    (hfailure : r.status.isFailure = true) :
    post = [] ∧ ∃ s', transfer Bench.link turns s = .error (.failed (.deviceStatus r.status)) s' ∧
      s'.phase = .failed (.deviceStatus r.status) ∧
      s'.world.device.log = x.before.world.device.log ∧
      ∀ attempts, ∀ y ∈ history Bench.link attempts s',
        y.after.world.device.log = s'.world.device.log := by
  have hruns : Runs Bench.link .empty s (transferRounds Bench.link turns s) :=
    runs_transferRounds turns s
  have hconfig := (hruns.image_eq (x := x) (by simp [hrounds])).2
  have hrefusal : x.before.refusal? = some r.status := by
    have hlatest : x.before.world.mailbox.latest = some value := hheard
    simp [refusal?, hlatest, hvalue, hfailure, hconfig, hfails]
  have hphase : s.phase = .streaming := by
    by_contra hphase
    simp [transferRounds, hphase] at hrounds
  have hmem : x ∈ transferRounds Bench.link turns s := by simp [hrounds]
  obtain ⟨_, hhalted⟩ := hruns.halted_mem hmem (hruns.turn_of_refusal hmem hrefusal)
  have hlog := hhalted.log_of_refusal hrefusal
  rw [transferRounds, if_pos hphase] at hrounds
  obtain ⟨hlast, hstream⟩ := stream_of_refusal hrounds hrefusal
  have htransfer := transfer_of_stream_error hphase hstream
  exact ⟨hlast, _, htransfer, rfl, hlog, fun attempts y hy => log_of_failed ⟨_, rfl⟩ hy⟩

/-- The transfers ended the same way: with the same result, writes and session, but for
    the notifications. -/
structure SameEnd (r r' : EStateM.Result Halt (Session Bench Bytes) TransferReport) : Prop where
  outcome_eq : outcome r = outcome r'
  log_eq : (endState r).world.device.log = (endState r').world.device.log
  phase_eq : (endState r).phase = (endState r').phase
  flow_eq : (endState r).flow = (endState r').flow
  now_eq : (endState r).world.now = (endState r').world.now

/-- **Inert notifications may be exchanged**: the transfer ends the same way, with the
    same writes at the same moments.  If the session fails on failures, the first
    one that it takes ends the transfer, and nothing is written any more. -/
theorem transfer_of_exchanged (turns : Nat) (s : Session Bench Bytes) :
    (∀ s', s.Exchanged s.config.failOnDeviceError s' →
      SameEnd (transfer Bench.link turns s) (transfer Bench.link turns s')) ∧
    ∀ pre x post value r, s.config.failOnDeviceError = true →
      transferRounds Bench.link turns s = pre ++ x :: post → x.heard = some value →
      StatusReport.ofBytes value = .ok r → r.status.isFailure = true →
      post = [] ∧ ∃ s', transfer Bench.link turns s = .error (.failed (.deviceStatus r.status)) s' ∧
        s'.phase = .failed (.deviceStatus r.status) ∧
        s'.world.device.log = x.before.world.device.log ∧
        ∀ attempts, ∀ y ∈ history Bench.link attempts s',
          y.after.world.device.log = s'.world.device.log := by
  constructor
  · intro s' hs
    have hagree := likewise_transfer turns s s' hs
    have hend := hagree.endState
    refine ⟨hagree.outcome_eq, ?_, hend.phase_eq, hend.flow_eq, hend.world.now_eq⟩
    rw [hend.world.sides.1.eq]
  · intro pre x post value r hfails hrounds hheard hvalue hfailure
    exact transfer_of_failure hfails hrounds hheard hvalue hfailure

end Session

namespace Bench

/-- A session that fails on failures and streams three bytes, one in a fragment, to a
    device that answers the first of them with this notification and the second
    with a failure. -/
def chattering (value : Bytes) : Session Bench Bytes :=
  { Session.idle [7, 8, 9]
      { SessionConfig.default with fragmentSize := 1, failOnDeviceError := true }
      (.initial 60000 { quiet with
        subscribed := true
        script := [⟨.fragment 0, 0, 1, [(0, value)], 0⟩,
          ⟨.fragment 1, 0, 1, [(0, StatusReport.toBytes ⟨.hardwareError, none⟩)], 0⟩] }) with
    phase := .streaming }

/-- An unknown code and XOFF without its id may stand for each other; the failure ends
    the transfer. -/
theorem chattering_ends_same :
    Session.SameEnd (Session.transfer link 16 (chattering [0x7f]))
      (Session.transfer link 16 (chattering [2])) ∧
    ∃ s', Session.transfer link 16 (chattering [0x7f]) =
        .error (.failed (.deviceStatus .hardwareError)) s' ∧
      s'.phase = .failed (.deviceStatus .hardwareError) ∧
      ∀ attempts, ∀ y ∈ Session.history link attempts s',
        y.after.world.device.log = s'.world.device.log := by
  obtain ⟨hexchange, hfailure⟩ := Session.transfer_of_exchanged 16 (chattering [0x7f])
  constructor
  · refine hexchange _ ⟨rfl, rfl, rfl, rfl, rfl, rfl, rfl, rfl, .nil, ⟨rfl, ?_⟩, .none⟩
    have hinert : Exchangeable true [0x7f] [2] := Or.inr ⟨nofun, nofun⟩
    refine Script.alike_of_rules (.cons ⟨rfl, rfl, rfl, rfl, ?_⟩ (.cons ⟨rfl, rfl, rfl, rfl, ?_⟩ .nil))
    · exact .cons ⟨rfl, hinert⟩ .nil
    · exact .cons ⟨rfl, Exchangeable.refl _ _⟩ .nil
  · have hheard : (Session.transferRounds link 16 (chattering [0x7f])).map Round.heard =
        [none, some [0x7f], some [0x0a]] := by decide +kernel
    obtain ⟨w, rest, hws, -, hrest⟩ := List.map_eq_cons_iff.1 hheard
    obtain ⟨y, rest, rfl, -, hrest⟩ := List.map_eq_cons_iff.1 hrest
    obtain ⟨x, rest, rfl, hx, hrest⟩ := List.map_eq_cons_iff.1 hrest
    obtain ⟨-, s', htransfer, hphase, -, hlater⟩ :=
      hfailure [w, y] x rest [0x0a] ⟨.hardwareError, none⟩ rfl hws hx rfl rfl
    exact ⟨s', htransfer, hphase, hlater⟩

end Bench

end AirUpdate
