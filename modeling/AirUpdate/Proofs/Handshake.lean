/-
  Air updates — the outcome of a handshake.

  Behind START a session waits for XON.  A wait that finds another notification
  is followed by the next, and so is one that times out, until as many have done
  so as the settings allow.  Of the waits in a row (`World.waits`) either one
  opens the session before that (`Grants`, `awaitXon_eq_ok_iff`), or one is the
  last that may time out (`Expires`, `awaitXon_eq_failed_iff`).  START leaves a
  schedule of notifications behind (`Bench.knock_eq_ok`), so the waits come to an
  end (`awaitXon_halts`).  `opening_of_knock` gathers what is known of a
  session that has written START.
-/
import AirUpdate.Proofs.Malformed
import AirUpdate.Proofs.Pacing
import AirUpdate.Proofs.Waits

namespace AirUpdate

/-- How many waits for the answer to START may time out; the last of them ends the handshake. -/
def SessionConfig.allowedTimeouts (c : SessionConfig) : Nat := max 1 c.startAttempts.toNat

theorem SessionConfig.allowedTimeouts_pos (c : SessionConfig) : 0 < c.allowedTimeouts := by
  unfold allowedTimeouts
  omega

theorem SessionConfig.allowedTimeouts_le_iff {c : SessionConfig} {n : Nat} :
    c.startAttempts.toNat ≤ n + 1 ↔ c.allowedTimeouts - (n + 1) = 0 := by
  unfold allowedTimeouts
  omega

/-- A wait for a notification halts only where it is cut. -/
theorem World.receiveWithin_eq_error {D A : Type} [Peer D A] {milliseconds : Nat} {w w' : World D A}
    {e : Halt} (h : receiveWithin milliseconds w = .error e w') : e = .cut :=
  ((ends_receiveWithin (P := fun _ _ => True) ⟨fun _ _ _ _ => trivial, fun _ _ _ => trivial⟩
    fun _ _ _ => trivial) w trivial).2 e w' h |>.1

namespace Wait
variable {D A : Type} {budget : Nat} {pre : List (Wait D A)} {x : Wait D A} {w w' : World D A}
  {found : Option Bytes} {value : Bytes}

/-- The wait finds what opens a session. -/
def Opens (x : Wait D A) : Prop := ∃ value, x.found = some value ∧ AirUpdate.Opens value

/-- The wait `x` is the first that opens the session, and fewer than `budget` of those before
    have timed out. -/
@[mk_iff]
structure Grants (budget : Nat) (pre : List (Wait D A)) (x : Wait D A) : Prop where
  opens : x.Opens
  unopened : ∀ y ∈ pre, ¬ y.Opens
  timeouts_lt : timeouts pre < budget

/-- With the wait `x` it is `budget` that have timed out, and none has opened the session. -/
@[mk_iff]
structure Expires (budget : Nat) (pre : List (Wait D A)) (x : Wait D A) : Prop where
  found_eq : x.found = none
  unopened : ∀ y ∈ pre, ¬ y.Opens
  timeouts_eq : timeouts pre + 1 = budget

theorem opens_some : Opens ⟨w, some value, w'⟩ ↔ AirUpdate.Opens value :=
  ⟨fun ⟨_, hfound, h⟩ => by cases hfound; exact h, fun h => ⟨value, rfl, h⟩⟩

theorem not_opens_none : ¬ Opens ⟨w, none, w'⟩ := nofun

/-- Of reports, XON opens a session, and nothing else does. -/
theorem opens_iff_xon (h : ∀ value, x.found = some value → ¬ Malformed value) : x.Opens ↔
    ∃ value id, x.found = some value ∧ StatusReport.ofBytes value = .ok ⟨.xon, some id⟩ := by
  constructor
  · rintro ⟨value, hfound, hopens⟩
    rcases report_of_opens hopens with ⟨id, hid⟩ | rfl
    · exact ⟨value, id, hfound, hid⟩
    · exact absurd ⟨_, rfl⟩ (h _ hfound)
  · rintro ⟨value, id, hfound, hid⟩
    exact ⟨value, hfound, opens_of_report hid⟩

/-! ## Waits in a row -/

theorem grants_nil : Grants budget [] ⟨w, found, w'⟩ ↔ Opens ⟨w, found, w'⟩ ∧ 0 < budget :=
  ⟨fun h => ⟨h.opens, h.timeouts_lt⟩, fun h => ⟨h.1, List.forall_mem_nil _, h.2⟩⟩

theorem expires_nil : Expires budget [] ⟨w, found, w'⟩ ↔ found = none ∧ 1 = budget :=
  ⟨fun h => ⟨h.found_eq, h.timeouts_eq⟩, fun h => ⟨h.1, List.forall_mem_nil _, h.2⟩⟩

theorem unopened_some : (∀ y ∈ ⟨w, some value, w'⟩ :: pre, ¬ y.Opens) ↔
    ¬ AirUpdate.Opens value ∧ ∀ y ∈ pre, ¬ y.Opens := by
  rw [List.forall_mem_cons, opens_some]

theorem unopened_none : (∀ y ∈ ⟨w, none, w'⟩ :: pre, ¬ y.Opens) ↔ ∀ y ∈ pre, ¬ y.Opens := by
  rw [List.forall_mem_cons, and_iff_right not_opens_none]

theorem grants_some : Grants budget (⟨w, some value, w'⟩ :: pre) x ↔
    ¬ AirUpdate.Opens value ∧ Grants budget pre x := by
  rw [grants_iff, grants_iff, unopened_some, timeouts_some, and_assoc, and_left_comm]

theorem expires_some : Expires budget (⟨w, some value, w'⟩ :: pre) x ↔
    ¬ AirUpdate.Opens value ∧ Expires budget pre x := by
  rw [expires_iff, expires_iff, unopened_some, timeouts_some, and_assoc, and_left_comm]

theorem grants_none : Grants (budget + 1) (⟨w, none, w'⟩ :: pre) x ↔ Grants budget pre x := by
  rw [grants_iff, grants_iff, unopened_none, timeouts_none, Nat.add_lt_add_iff_right]

theorem expires_none : Expires (budget + 1) (⟨w, none, w'⟩ :: pre) x ↔ Expires budget pre x := by
  rw [expires_iff, expires_iff, unopened_none, timeouts_none, Nat.add_right_cancel_iff]

theorem not_grants_zero : ¬ Grants 0 pre x := fun h => Nat.not_lt_zero _ h.timeouts_lt

theorem not_expires_zero : ¬ Expires 0 pre x := fun h => Nat.succ_ne_zero _ h.timeouts_eq

theorem Expires.timeouts_concat (h : Expires budget pre x) : timeouts (pre ++ [x]) = budget := by
  rw [← h.timeouts_eq, timeouts, List.countP_append, List.countP_singleton, h.found_eq]
  rfl

theorem Expires.answeredTime_concat (h : Expires budget pre x) :
    answeredTime (pre ++ [x]) = answeredTime pre := by
  simp [answeredTime, h.found_eq]

/-- A place in a list is its beginning or one in the rest. -/
theorem exists_split_cons {α : Type} {P : List α → α → Prop} {y : α} {ys : List α} :
    (∃ pre x post, y :: ys = pre ++ x :: post ∧ P pre x) ↔
      P [] y ∨ ∃ pre x post, ys = pre ++ x :: post ∧ P (y :: pre) x := by
  constructor
  · rintro ⟨pre, x, post, hsplit, h⟩
    rcases List.cons_eq_append_iff.1 hsplit with ⟨rfl, hx⟩ | ⟨pre', rfl, hrest⟩
    · cases hx
      exact Or.inl h
    · exact Or.inr ⟨pre', x, post, hrest, h⟩
  · rintro (h | ⟨pre, x, post, rfl, h⟩)
    · exact ⟨[], y, ys, rfl, h⟩
    · exact ⟨y :: pre, x, post, rfl, h⟩

end Wait

namespace Session

/-! ## Waiting for XON -/

section
variable {D A : Type} [Peer D A] {s s' : Session D A} {n timeouts : Nat}

/-- The waits behind START, in a row. -/
def startWaits (n : Nat) (s : Session D A) : List (Wait D A) :=
  World.waits s.config.startTimeout.toNat n s.world

/-- A wait that times out is the last that may, or the next wait follows. -/
theorem awaitXon_of_timeout {w : World D A}
    (h : World.receiveWithin s.config.startTimeout.toNat s.world = .ok none w) :
    awaitXon (n + 1) timeouts s =
      if s.config.startAttempts.toNat ≤ timeouts + 1 then
        .error (.failed (.handshakeTimeout s.config.startAttempts.toNat)) { s with world := w }
      else awaitXon n (timeouts + 1) { s with world := w } := by
  have hconfig : (get : Step D A (Session D A)) s = .ok s s := rfl
  have hreceived : onWorld (World.receiveWithin s.config.startTimeout.toNat) s =
      .ok none { s with world := w } := onWorld_eq_ok.2 ⟨w, h, rfl⟩
  rw [awaitXon, bind_of_ok hconfig, bind_of_ok hreceived]
  by_cases hlast : s.config.startAttempts.toNat ≤ timeouts + 1
  · simp only [if_pos hlast]
    rfl
  · simp only [if_neg hlast]

theorem awaitXon_of_error {e : Halt} {w : World D A}
    (h : World.receiveWithin s.config.startTimeout.toNat s.world = .error e w) :
    awaitXon (n + 1) timeouts s = .error e { s with world := w } :=
  bind_eq_error.2 (Or.inr ⟨s, s, rfl, bind_eq_error.2 (Or.inl (onWorld_eq_error.2 ⟨w, h, rfl⟩))⟩)

/-- **Waiting for XON comes to its end** exactly if one of the waits opens the session before the
    budget of timeouts is used up, and with that wait. -/
theorem awaitXon_eq_ok_iff (h : timeouts < s.config.allowedTimeouts) :
    awaitXon n timeouts s = .ok () s' ↔ ∃ pre x post, s.startWaits n = pre ++ x :: post ∧
      Wait.Grants (s.config.allowedTimeouts - timeouts) pre x ∧
      s' = { s with world := x.after } := by
  induction n generalizing timeouts s with
  | zero =>
    have hnone : awaitXon 0 timeouts s = .error .exhausted s := rfl
    simp [hnone, startWaits, World.waits]
  | succ n ih =>
    have hbudget : 0 < s.config.allowedTimeouts - timeouts := Nat.sub_pos_of_lt h
    unfold startWaits World.waits
    cases hwait : World.receiveWithin s.config.startTimeout.toNat s.world with
    | error e w =>
      rw [awaitXon_of_error hwait]
      simp
    | ok found w =>
      simp only
      rw [Wait.exists_split_cons (P := fun pre x =>
        Wait.Grants (s.config.allowedTimeouts - timeouts) pre x ∧ s' = { s with world := x.after })]
      cases found with
      | some value =>
        rw [awaitXon_of_received hwait]
        simp only [Wait.grants_nil, Wait.opens_some, Wait.grants_some, hbudget, and_true]
        by_cases hopens : Opens value
        · simp only [hopens, not_true, false_and, and_false, exists_false, or_false, if_true,
            true_and]
          exact ⟨fun h => by cases h; rfl, fun h => by rw [h]⟩
        · simp only [hopens, not_false_iff, true_and, false_and, false_or, if_false]
          exact ih h
      | none =>
        -- this timeout is one of the budget
        have hspent : s.config.allowedTimeouts - timeouts =
            s.config.allowedTimeouts - (timeouts + 1) + 1 := by omega
        rw [awaitXon_of_timeout hwait]
        simp only [Wait.grants_nil, Wait.not_opens_none, hspent, Wait.grants_none,
          SessionConfig.allowedTimeouts_le_iff, false_and, false_or]
        by_cases hlast : s.config.allowedTimeouts - (timeouts + 1) = 0
        · simp [hlast, Wait.not_grants_zero]
        · rw [if_neg hlast]
          exact ih (Nat.lt_of_sub_ne_zero hlast)

/-- **Waiting for XON fails** exactly if the budget of timeouts is used up before one of the waits
    opens the session, and with the last of the timeouts. -/
theorem awaitXon_eq_failed_iff {error : UpdateError} (h : timeouts < s.config.allowedTimeouts) :
    awaitXon n timeouts s = .error (.failed error) s' ↔
      ∃ pre x post, s.startWaits n = pre ++ x :: post ∧
        Wait.Expires (s.config.allowedTimeouts - timeouts) pre x ∧
        error = .handshakeTimeout s.config.startAttempts.toNat ∧
        s' = { s with world := x.after } := by
  induction n generalizing timeouts s with
  | zero =>
    have hnone : awaitXon 0 timeouts s = .error .exhausted s := rfl
    simp [hnone, startWaits, World.waits]
  | succ n ih =>
    unfold startWaits World.waits
    cases hwait : World.receiveWithin s.config.startTimeout.toNat s.world with
    | error e w =>
      obtain rfl := World.receiveWithin_eq_error hwait
      rw [awaitXon_of_error hwait]
      simp
    | ok found w =>
      simp only
      rw [Wait.exists_split_cons (P := fun pre x =>
        Wait.Expires (s.config.allowedTimeouts - timeouts) pre x ∧
        error = .handshakeTimeout s.config.startAttempts.toNat ∧ s' = { s with world := x.after })]
      cases found with
      | some value =>
        rw [awaitXon_of_received hwait]
        simp only [Wait.expires_nil, Wait.expires_some, reduceCtorEq, false_and, false_or]
        by_cases hopens : Opens value
        · simp [hopens]
        · simp only [hopens, not_false_iff, true_and, if_false]
          exact ih h
      | none =>
        have hspent : s.config.allowedTimeouts - timeouts =
            s.config.allowedTimeouts - (timeouts + 1) + 1 := by omega
        rw [awaitXon_of_timeout hwait]
        simp only [Wait.expires_nil, hspent, Wait.expires_none,
          SessionConfig.allowedTimeouts_le_iff, true_and]
        by_cases hlast : s.config.allowedTimeouts - (timeouts + 1) = 0
        · simp only [hlast, Wait.not_expires_zero, false_and, and_false, exists_false, or_false,
            if_true, Nat.zero_add, true_and]
          constructor
          · intro hfailed
            cases hfailed
            exact ⟨rfl, rfl⟩
          · rintro ⟨rfl, rfl⟩
            rfl
        · have hmore : 1 ≠ s.config.allowedTimeouts - (timeouts + 1) + 1 := by omega
          simp only [if_neg hlast, hmore, false_and, false_or]
          exact ih (Nat.lt_of_sub_ne_zero hlast)

end

/-! ## Waits that come to an end -/

section
variable {D : Type} [Peer D Bytes] {s s' : Session D Bytes} {n timeouts : Nat} {P : Bytes → Prop}
  {e : Halt}

/-- Waiting for XON is given up only at the limit, and never without end: behind a schedule there
    are no more waits than timeouts that are left and notifications to come. -/
theorem awaitXon_halts (h : timeouts < s.config.allowedTimeouts) (hscheduled : s.world.Scheduled P)
    (hposts : Peer.Posts s.world.device) (hhalt : awaitXon n timeouts s = .error e s')
    (he : ∀ error, e ≠ .failed error) :
    e = .cut ∧ s.world.limit ≤ s'.world.now ∨
      e = .exhausted ∧ n < s.config.allowedTimeouts - timeouts + s.world.outstanding := by
  induction n generalizing timeouts s with
  | zero =>
    cases hhalt
    exact Or.inr ⟨rfl, by omega⟩
  | succ n ih =>
    cases hwait : World.receiveWithin s.config.startTimeout.toNat s.world with
    | error e' w =>
      rw [awaitXon_of_error hwait] at hhalt
      cases hhalt
      obtain ⟨hcut, -, hlimit⟩ := World.cut_of_receiveWithin hscheduled hposts hwait
      exact Or.inl ⟨hcut, hlimit⟩
    | ok found w =>
      have hwaited := World.waited_of_receiveWithin hscheduled hposts hwait
      have hrest : ∀ {k}, k < s.config.allowedTimeouts →
          awaitXon n k { s with world := w } = .error e s' →
          e = .cut ∧ s.world.limit ≤ s'.world.now ∨
            e = .exhausted ∧ n < s.config.allowedTimeouts - k + w.outstanding := by
        intro k hk hhalt
        have hhalts := ih (s := { s with world := w }) hk (hwaited.scheduled hscheduled)
          (hwaited.device_eq ▸ hposts) hhalt
        rwa [hwaited.limit_eq] at hhalts
      cases found with
      | some value =>
        rw [awaitXon_of_received hwait] at hhalt
        split at hhalt
        · cases hhalt
        · have hlt := hwaited.outstanding_lt
          exact (hrest h hhalt).imp_right fun ⟨he, hn⟩ => ⟨he, by omega⟩
      | none =>
        rw [awaitXon_of_timeout hwait] at hhalt
        split at hhalt
        · cases hhalt
          exact absurd rfl (he _)
        · next hmore =>
          rw [SessionConfig.allowedTimeouts_le_iff] at hmore
          have heq := hwaited.outstanding_of_none
          exact (hrest (Nat.lt_of_sub_ne_zero hmore) hhalt).imp_right
            fun ⟨he, hn⟩ => ⟨he, by omega⟩

end

/-! ## START -/

section
variable {D A : Type} [Peer D A] {link : Link D A} {s s' s₁ : Session D A} {n : Nat} {e : Halt}

theorem handshake_of_knock (h : knock link s = .ok () s₁) :
    handshake link n s = awaitXon n 0 s₁ := by
  obtain ⟨_, s₂, hsubscribe, hwrite⟩ := bind_eq_ok.1 h
  unfold handshake
  rw [bind_of_ok hsubscribe, bind_of_ok hwrite]

/-- A session that has written START comes as far as the waits for XON do. -/
theorem start_of_knock (hidle : s.phase = .idle)
    (h : knock link { s with phase := .starting } = .ok () s₁) :
    start link n s = (do settling (awaitXon n 0); enter .streaming : Step D A Unit) s₁ := by
  have hexpect : expect .idle s = .ok () s := if_pos hidle
  have henter : enter .starting s = .ok () { s with phase := .starting } := rfl
  have hsettling : settling (handshake link n) { s with phase := .starting } =
      settling (awaitXon n 0) s₁ := by
    unfold settling
    rw [handshake_of_knock h]
  unfold start
  rw [bind_of_ok hexpect, bind_of_ok henter]
  show EStateM.bind _ _ _ = EStateM.bind _ _ _
  unfold EStateM.bind
  rw [hsettling]

theorem start_eq_ok_of_knock (hidle : s.phase = .idle)
    (h : knock link { s with phase := .starting } = .ok () s₁) :
    start link n s = .ok () s' ↔
      ∃ s₂, awaitXon n 0 s₁ = .ok () s₂ ∧ s' = { s₂ with phase := .streaming } := by
  rw [start_of_knock hidle h]
  constructor
  · intro hstart
    obtain ⟨_, s₂, hawait, henter⟩ := bind_eq_ok.1 hstart
    cases henter
    exact ⟨s₂, settling_eq_ok.1 hawait, rfl⟩
  · rintro ⟨s₂, hawait, rfl⟩
    exact bind_eq_ok.2 ⟨(), s₂, settling_eq_ok.2 hawait, rfl⟩

theorem start_eq_error_of_knock (hidle : s.phase = .idle)
    (h : knock link { s with phase := .starting } = .ok () s₁) :
    start link n s = .error e s' ↔
      ∃ s₂, awaitXon n 0 s₁ = .error e s₂ ∧ s' = s₂.settled e := by
  rw [start_of_knock hidle h]
  constructor
  · intro hstart
    rcases bind_eq_error.1 hstart with hawait | ⟨_, _, -, henter⟩
    · exact settling_eq_error.1 hawait
    · cases henter
  · intro hawait
    exact bind_eq_error.2 (Or.inl (settling_eq_error.2 hawait))

/-- Behind START the session is opened exactly if one of the waits opens it in time. -/
theorem start_opened_iff (hidle : s.phase = .idle)
    (h : knock link { s with phase := .starting } = .ok () s₁) :
    start link n s = .ok () s' ↔ ∃ pre x post, s₁.startWaits n = pre ++ x :: post ∧
      Wait.Grants s₁.config.allowedTimeouts pre x ∧
      s' = { s₁ with phase := .streaming, world := x.after } := by
  rw [start_eq_ok_of_knock hidle h]
  simp only [awaitXon_eq_ok_iff s₁.config.allowedTimeouts_pos, Nat.sub_zero]
  constructor
  · rintro ⟨s₂, ⟨pre, x, post, hsplit, hgrants, rfl⟩, rfl⟩
    exact ⟨pre, x, post, hsplit, hgrants, rfl⟩
  · rintro ⟨pre, x, post, hsplit, hgrants, rfl⟩
    exact ⟨_, ⟨pre, x, post, hsplit, hgrants, rfl⟩, rfl⟩

/-- Behind START the session fails exactly if the budget of timeouts is used up before. -/
theorem start_failed_iff {error : UpdateError} (hidle : s.phase = .idle)
    (h : knock link { s with phase := .starting } = .ok () s₁) :
    start link n s = .error (.failed error) s' ↔
      ∃ pre x post, s₁.startWaits n = pre ++ x :: post ∧
        Wait.Expires s₁.config.allowedTimeouts pre x ∧
        error = .handshakeTimeout s₁.config.startAttempts.toNat ∧
        s' = { s₁ with phase := .failed .handshakeTimeout, world := x.after } := by
  rw [start_eq_error_of_knock hidle h]
  simp only [awaitXon_eq_failed_iff s₁.config.allowedTimeouts_pos, Nat.sub_zero]
  constructor
  · rintro ⟨s₂, ⟨pre, x, post, hsplit, hexpires, rfl, rfl⟩, rfl⟩
    exact ⟨pre, x, post, hsplit, hexpires, rfl, rfl⟩
  · rintro ⟨pre, x, post, hsplit, hexpires, rfl, rfl⟩
    exact ⟨_, ⟨pre, x, post, hsplit, hexpires, rfl, rfl⟩, rfl⟩

end

end Session

namespace Bench
variable {s s₁ : Session Bench Bytes} {P : Bytes → Prop}

/-- A device that somebody has subscribed to posts. -/
theorem posts_of_subscribed {d : Bench} (h : d.subscribed = true) : Peer.Posts d where
  perform value m := by
    simp only [Peer.perform]
    rw [if_pos h]
  settle _ := rfl

/-- START as the device writes it down. -/
def startWrite (moment : Nat) : BenchWrite := ⟨moment, .control, [Control.start.toByte], .request⟩

/-- What the device may answer to a write: with XON, or by its script. -/
def MayAnswer (d : Bench) (value : Bytes) : Prop :=
  value = StatusReport.toBytes ⟨.xon, some 0⟩ ∨ ∃ rule ∈ d.script, ∃ a ∈ rule.answer, a.2 = value

theorem mayAnswer_of_react {d : Bench} {characteristic : Uuid} {data : Bytes} {a : Nat × Bytes}
    (h : a ∈ (d.script.react characteristic data).1) : d.MayAnswer a.2 := by
  obtain ⟨rule, hrule, ha⟩ := List.mem_flatMap.1 h
  refine Or.inr ⟨rule, hrule, a, ?_, rfl⟩
  unfold Rule.react at ha
  split at ha
  · simp only at ha
    split at ha
    · exact ha
    · cases ha
  · cases ha

/-- **Behind START** the device has written it down at once, and has answered. -/
theorem knock_eq_ok (h : Session.knock link s = .ok () s₁) :
    ∃ d answers, s₁ = { s with world := World.react answers { s.world with device := d } } ∧
      d.subscribed = true ∧ d.log = startWrite s.world.now :: s.world.device.log ∧
      ∀ a ∈ answers, s.world.device.MayAnswer a.2 := by
  obtain ⟨_, s₂, hsub, hstart⟩ := bind_eq_ok.1 h
  obtain ⟨w₁, hsubscribed, rfl⟩ := Session.onWorld_eq_ok.1 hsub
  obtain ⟨w₂, hwritten, rfl⟩ := Session.onWorld_eq_ok.1 hstart
  obtain ⟨_, w₃, hallow, hdone⟩ := bind_eq_ok.1 hsubscribed
  obtain rfl := allow_eq_ok hallow
  cases hdone
  change write .control [Control.start.toByte] .request _ = _ at hwritten
  rw [write_eq] at hwritten
  obtain ⟨_, w₄, hpermit, hrest⟩ := bind_eq_ok.1 hwritten
  obtain rfl := permit_eq_ok hpermit
  obtain ⟨_, w₅, hhang, hfinish⟩ := bind_eq_ok.1 hrest
  -- only fragments hang
  cases hhang
  obtain ⟨broken, w₆, hseen, hcomplete⟩ := bind_eq_ok.1 hfinish
  cases hseen
  split at hcomplete
  · cases hcomplete
  cases hcomplete
  refine ⟨_, _, rfl, rfl, rfl, fun a ha => ?_⟩
  rcases List.mem_append.1 ha with ha | ha
  · split at ha
    · rw [List.mem_singleton] at ha
      rw [ha]
      exact Or.inl rfl
    · cases ha
  · exact mayAnswer_of_react (d := s.world.device) ha

end Bench

/-! ## Opening a session -/

namespace Session
variable {s s₁ : Session Bench Bytes} {turns : Nat}

/-- All that there is for the session to hear is reports: what the device has on its schedule, and
    what it answers by its script. -/
structure Reporting (s : Session Bench Bytes) : Prop where
  scheduled : s.world.Scheduled fun value => ¬ Malformed value
  answers : ∀ rule ∈ s.world.device.script, ∀ a ∈ rule.answer, ¬ Malformed a.2

/-- The session has subscribed and written START, and is `s₁` then. -/
structure Knocked (s s₁ : Session Bench Bytes) : Prop where
  eq : s₁ = { s with phase := .starting, world := s₁.world }
  now_eq : s₁.world.now = s.world.now
  log_eq : s₁.world.device.log = Bench.startWrite s.world.now :: s.world.device.log
  posts : Peer.Posts s₁.world.device
  scheduled : s₁.world.Scheduled fun value => ¬ Malformed value

/-- START leaves a schedule of reports behind. -/
theorem knocked_of_knock (hreporting : s.Reporting)
    (h : knock Bench.link { s with phase := .starting } = .ok () s₁) : Knocked s s₁ := by
  obtain ⟨d, answers, rfl, hsubscribed, hlog, hanswers⟩ := Bench.knock_eq_ok h
  have hposts := Bench.posts_of_subscribed hsubscribed
  have hbefore : World.Scheduled (fun value => ¬ Malformed value) { s.world with device := d } :=
    { hreporting.scheduled with }
  have hgood : ∀ a ∈ answers, ¬ Malformed a.2 := by
    intro a ha
    rcases hanswers a ha with hxon | ⟨rule, hrule, a', ha', heq⟩
    · rw [hxon]
      rintro ⟨e, he⟩
      cases he
    · rw [← heq]
      exact hreporting.answers rule hrule a' ha'
  obtain ⟨hscheduled, hdevice⟩ := hbefore.react hposts hgood
  exact ⟨rfl, World.now_react _ _, hdevice ▸ hlog, hdevice ▸ hposts, hscheduled⟩

/-- Behind START nothing is written. -/
theorem Knocked.log_start (h : Knocked s s₁) (hidle : s.phase = .idle)
    (hknock : knock Bench.link { s with phase := .starting } = .ok () s₁) (turns : Nat) :
    (endState (start Bench.link turns s)).world.device.log =
      Bench.startWrite s.world.now :: s.world.device.log := by
  obtain ⟨hok, herror⟩ := ends_awaitXon turns 0 s₁ ⟨rfl, h.log_eq⟩
  cases hstart : start Bench.link turns s with
  | ok _ s' =>
    obtain ⟨s₂, hawait, rfl⟩ := (start_eq_ok_of_knock hidle hknock).1 hstart
    exact (hok () s₂ hawait).2
  | error e s' =>
    obtain ⟨s₂, hawait, rfl⟩ := (start_eq_error_of_knock hidle hknock).1 hstart
    show (s₂.settled e).world.device.log = _
    rw [world_settled]
    exact (herror e s₂ hawait).2.2

/-- How a session is opened that has subscribed and written START, which is `s₁`. -/
structure Opening (turns : Nat) (s s₁ : Session Bench Bytes) : Prop where
  /-- START takes no time -/
  now_eq : s₁.world.now = s.world.now
  /-- each wait takes what is there, or what comes first, or all of its time -/
  waited : ∀ x ∈ s₁.startWaits turns,
    World.Waited s.config.startTimeout.toNat x.before x.found x.after
  /-- what a wait finds is there since START, or is due at the moment at which the wait ends -/
  arrives : ∀ x ∈ s₁.startWaits turns, ∀ value, x.found = some value →
    s₁.world.mailbox.latest = some value ∧ x.after.now = s.world.now ∨
      ⟨x.after.now, value⟩ ∈ s₁.world.agenda
  /-- a wait that finds XON opens the session, and no other does -/
  opens_iff : ∀ x ∈ s₁.startWaits turns, x.Opens ↔
    ∃ value id, x.found = some value ∧ StatusReport.ofBytes value = .ok ⟨.xon, some id⟩
  opened_iff : ∀ s', start Bench.link turns s = .ok () s' ↔
    ∃ pre x post, s₁.startWaits turns = pre ++ x :: post ∧
      Wait.Grants s.config.allowedTimeouts pre x ∧
      s' = { s with phase := .streaming, world := x.after }
  failed_iff : ∀ error s', start Bench.link turns s = .error (.failed error) s' ↔
    ∃ pre x post, s₁.startWaits turns = pre ++ x :: post ∧
      Wait.Expires s.config.allowedTimeouts pre x ∧
      error = .handshakeTimeout s.config.startAttempts.toNat ∧
      s' = { s with phase := .failed .handshakeTimeout, world := x.after }
  /-- it is given up only at the limit, and never for want of turns if there are enough for the
      timeouts and the notifications to come -/
  halted : ∀ e s', start Bench.link turns s = .error e s' → (∀ error, e ≠ .failed error) →
    e = .cut ∧ s₁.world.limit ≤ s'.world.now ∨
      e = .exhausted ∧ turns < s.config.allowedTimeouts + s₁.world.outstanding
  /-- at that point the timeouts have taken all of their time since START, and the waits that were
      answered have taken theirs -/
  elapsed : ∀ pre x post, s₁.startWaits turns = pre ++ x :: post →
    Wait.Expires s.config.allowedTimeouts pre x →
    x.after.now = s.world.now + s.config.allowedTimeouts * s.config.startTimeout.toNat +
      Wait.answeredTime pre
  /-- START is the only write -/
  written : (endState (start Bench.link turns s)).world.device.writes =
    s.world.device.writes ++ [Bench.startWrite s.world.now]
  /-- XON that is there since START opens the session at once -/
  greeted : ∀ value id, s₁.world.mailbox.latest = some value →
    StatusReport.ofBytes value = .ok ⟨.xon, some id⟩ → 0 < turns →
    start Bench.link turns s =
      .ok () { s with phase := .streaming, world := { s₁.world with mailbox := .empty } }

/-- **The opening of a session** behind START, whatever the device reports, and whenever. -/
theorem opening_of_knock (hidle : s.phase = .idle) (hreporting : s.Reporting)
    (hknock : knock Bench.link { s with phase := .starting } = .ok () s₁) :
    Opening turns s s₁ := by
  have hknocked := knocked_of_knock hreporting hknock
  have hconfig : s₁.config = s.config := by rw [hknocked.eq]
  have hrest : ∀ (phase : Phase) (w : World Bench Bytes),
      ({ s₁ with phase := phase, world := w } : Session Bench Bytes) =
        { s with phase := phase, world := w } := by
    intro phase w
    rw [hknocked.eq]
  have hallowed : s₁.config.allowedTimeouts = s.config.allowedTimeouts := by rw [hconfig]
  have hattempts : s₁.config.startAttempts = s.config.startAttempts := by rw [hconfig]
  have hbudget := s₁.config.allowedTimeouts_pos
  constructor
  case now_eq => exact hknocked.now_eq
  case waited =>
    intro x hx
    rw [← hconfig]
    exact (World.waited_of_mem_waits hknocked.scheduled hknocked.posts hx).1
  case arrives =>
    intro x hx value hfound
    rw [← hknocked.now_eq]
    exact (World.arrives_of_mem_waits hknocked.scheduled hknocked.posts hx hfound).1
  case opens_iff =>
    intro x hx
    exact Wait.opens_iff_xon fun value hfound =>
      (World.arrives_of_mem_waits hknocked.scheduled hknocked.posts hx hfound).2
  case opened_iff =>
    intro s'
    rw [start_opened_iff hidle hknock, hallowed]
    simp only [hrest]
  case failed_iff =>
    intro error s'
    rw [start_failed_iff hidle hknock, hallowed, hattempts]
    simp only [hrest]
  case halted =>
    intro e s' hstart he
    obtain ⟨s₂, hawait, rfl⟩ := (start_eq_error_of_knock hidle hknock).1 hstart
    rw [world_settled, ← hconfig]
    exact awaitXon_halts hbudget hknocked.scheduled hknocked.posts hawait he
  case elapsed =>
    intro pre x post hsplit hexpires
    have hnow := World.now_of_waits hknocked.scheduled hknocked.posts hsplit
    rw [hexpires.timeouts_concat, hexpires.answeredTime_concat] at hnow
    rw [hnow, hknocked.now_eq, hconfig]
  case written =>
    unfold Bench.writes
    rw [hknocked.log_start hidle hknock turns, List.reverse_cons]
  case greeted =>
    intro value id hvalue hreport hturns
    obtain ⟨n, rfl⟩ := Nat.exists_eq_succ_of_ne_zero (Nat.ne_of_gt hturns)
    rw [start_eq_ok_of_knock hidle hknock,
      awaitXon_of_received (World.receiveWithin_of_pending _ hvalue),
      if_pos (opens_of_report hreport)]
    exact ⟨_, rfl, (hrest _ _).symm⟩

end Session

namespace Bench

open Session

/-- A session with two timeouts of 10 ms to spare, and a device that answers START with these
    notifications, each after so many milliseconds. -/
def musing (answers : List (Nat × StatusReport)) : Session Bench Bytes :=
  idle [7, 8, 9] { SessionConfig.default with startTimeout := 10, startAttempts := 2 }
    (.initial 60000 { quiet with
      answersStart := false
      script := [⟨.control Control.start.toByte, 0, 1,
        answers.map fun a => (a.1, a.2.toBytes), 0⟩] })

/-- OK after 4 ms, XOFF after 16, and XON. -/
def musings (xon : Nat) : List (Nat × StatusReport) :=
  [(4, ⟨.ok, none⟩), (16, ⟨.xoff, some 0⟩), (xon, ⟨.xon, some 0⟩)]

theorem reporting_musing (xon : Nat) : (musing (musings xon)).Reporting where
  scheduled := ⟨.nil, nofun, nofun, nofun⟩
  answers := by
    intro rule hrule a ha
    obtain rfl := List.mem_singleton.1 hrule
    obtain ⟨r, hr, rfl⟩ := List.mem_map.1 ha
    have hfits : r.2.fragmentId.isSome = r.2.status.carriesId := by
      simp only [musings, List.mem_cons, List.not_mem_nil, or_false] at hr
      rcases hr with rfl | rfl | rfl <;> rfl
    rintro ⟨e, he⟩
    rw [StatusReport.ofBytes_toBytes hfits] at he
    cases he

/-- OK and XOFF are passed over, and neither counts as a timeout nor takes one back: XON after
    20 ms comes before the second timeout, and after 30 ms it is too late. -/
theorem musing_opening :
    (∃ s₁ s' : Session Bench Bytes,
      start link 16 (musing (musings 20)) = .ok () s' ∧ s'.world.now = 20 ∧
      ∃ pre x post, startWaits 16 s₁ = pre ++ x :: post ∧ Wait.Grants 2 pre x ∧
        s'.world = x.after) ∧
    ∃ s₁ s' : Session Bench Bytes,
      start link 16 (musing (musings 30)) = .error (.failed (.handshakeTimeout 2)) s' ∧
      s'.world.device.writes = [startWrite 0] ∧
      ∃ pre x post, startWaits 16 s₁ = pre ++ x :: post ∧ Wait.Expires 2 pre x ∧
        26 = 0 + 2 * 10 + Wait.answeredTime pre := by
  have hknock : ∀ xon, ∃ s₁ : Session Bench Bytes,
      knock link { musing (musings xon) with phase := .starting } = .ok () s₁ := fun _ => ⟨_, rfl⟩
  obtain ⟨s₁, hsoon⟩ := hknock 20
  obtain ⟨s₂, hlate⟩ := hknock 30
  have hopening : Opening 16 _ s₁ := opening_of_knock rfl (reporting_musing 20) hsoon
  have hfailing : Opening 16 _ s₂ := opening_of_knock rfl (reporting_musing 30) hlate
  have hopened : result? (start link 16 (musing (musings 20))) = some () := by decide +kernel
  have hfailed : halt? (start link 16 (musing (musings 30))) =
      some (.failed (.handshakeTimeout 2)) := by decide +kernel
  constructor
  · obtain ⟨pre, x, post, hsplit, hgrants, hend⟩ :=
      (hopening.opened_iff _).1 (eq_ok_of_result? hopened)
    exact ⟨s₁, _, eq_ok_of_result? hopened, by decide +kernel, pre, x, post, hsplit, hgrants,
      congrArg Session.world hend⟩
  · obtain ⟨pre, x, post, hsplit, hexpires, -, hend⟩ :=
      (hfailing.failed_iff _ _).1 (eq_error_of_halt? hfailed)
    have hnow : (endState (start link 16 (musing (musings 30)))).world.now = 26 := by
      decide +kernel
    have helapsed := hfailing.elapsed pre x post hsplit hexpires
    rw [hend] at hnow
    exact ⟨s₂, _, eq_error_of_halt? hfailed, hfailing.written, pre, x, post, hsplit, hexpires,
      hnow.symm.trans helapsed⟩

end Bench

end AirUpdate
