/-
  Air updates — writes behind XOFF.

  A round that begins a write behind XOFF does so because XON has arrived since,
  or because something else arrived before the session looked, and took the place
  of XOFF in the mailbox (`xon_or_displaced_of_attempt`).  The second does happen
  (`not_held_until_xon`).
-/
import AirUpdate.Proofs.Deliveries

namespace AirUpdate

variable {D A : Type}

/-- Behind arrivals the mailbox holds the last of them. -/
theorem Mailbox.deliverAll_of_arrivals (m : Mailbox) {es : List (MailEvent D A)}
    (h : ∀ e ∈ es, e.IsArrival) :
    es = [] ∨ ∃ moment value, es.getLast? = some (.arrived moment value) ∧
      m.deliverAll es = ⟨some value⟩ := by
  rcases List.eq_nil_or_concat es with rfl | ⟨es, e, rfl⟩
  · exact Or.inl rfl
  · obtain ⟨moment, value, rfl⟩ := h e (by simp)
    refine Or.inr ⟨moment, value, by simp, ?_⟩
    simp only [deliverAll, List.concat_eq_append, List.foldl_append]
    rfl

/-- Some event is the first look at the mailbox. -/
theorem MailEvent.exists_first_poll (es : List (MailEvent D A)) (z : Round D A) :
    ∃ arrivals x rest, es ++ [polled z] = arrivals ++ polled x :: rest ∧
      (∀ e ∈ arrivals, e.IsArrival) ∧ (rest = [] ∧ x = z ∧ arrivals = es ∨
        ∃ mid, rest = mid ++ [polled z] ∧ es = arrivals ++ polled x :: mid) := by
  induction es with
  | nil => exact ⟨[], z, [], rfl, by simp, Or.inl ⟨rfl, rfl, rfl⟩⟩
  | cons e es ih =>
    cases e with
    | polled x => exact ⟨[], x, es ++ [polled z], rfl, by simp, Or.inr ⟨es, rfl, rfl⟩⟩
    | arrived moment value =>
      obtain ⟨arrivals, x, rest, hsplit, harrivals, hrest⟩ := ih
      refine ⟨arrived moment value :: arrivals, x, rest, by rw [List.cons_append, hsplit]; rfl,
        ?_, ?_⟩
      · intro e he
        rcases List.mem_cons.1 he with rfl | he
        · exact ⟨moment, value, rfl⟩
        · exact harrivals e he
      · rcases hrest with ⟨hrest, hx, rfl⟩ | ⟨mid, hrest, rfl⟩
        · exact Or.inl ⟨hrest, hx, rfl⟩
        · exact Or.inr ⟨mid, hrest, rfl⟩

namespace Accounts
variable {m : Mailbox} {es fs mid post : List (MailEvent D A)} {xs : List (Round D A)}
  {x z : Round D A} {held : Bool}

theorem of_append (h : Accounts m (es ++ fs) xs) :
    ∃ ys zs, xs = ys ++ zs ∧ Accounts m es ys ∧ Accounts (m.deliverAll es) fs zs := by
  induction es generalizing m xs with
  | nil => exact ⟨[], xs, rfl, .nil, h⟩
  | cons e es ih =>
    cases h with
    | arrived hrest =>
      obtain ⟨ys, zs, hxs, hes, hfs⟩ := ih hrest
      exact ⟨ys, zs, hxs, .arrived hes, hfs⟩
    | polled hmailbox hrest =>
      obtain ⟨ys, zs, rfl, hes, hfs⟩ := ih hrest
      exact ⟨_ :: ys, zs, rfl, .polled hmailbox hes, hfs⟩

/-- Arrivals alone account for no round. -/
theorem eq_nil_of_arrivals (h : Accounts m es xs) (hes : ∀ e ∈ es, e.IsArrival) : xs = [] := by
  induction h with
  | nil => rfl
  | arrived _ ih => exact ih fun e he => hes e (List.mem_cons_of_mem _ he)
  | @polled _ x _ _ _ _ _ =>
    obtain ⟨moment, value, he⟩ := hes (.polled x) List.mem_cons_self
    cases he

/-- Of two looks with only arrivals between, the second finds the last of these. -/
theorem of_arrived_last {moment : Nat} {value : Bytes} {y : Round D A}
    (h : Accounts m (es ++ .polled x :: mid ++ .arrived moment value :: .polled y :: post) xs)
    (hmid : ∀ e ∈ mid, e.IsArrival) :
    (∃ ys zs, xs = ys ++ x :: y :: zs) ∧ y.before.world.mailbox = ⟨some value⟩ := by
  rw [List.append_assoc] at h
  obtain ⟨ys, zs, rfl, -, hlooked⟩ := h.of_append
  cases hlooked with
  | polled _ hbehind =>
    obtain ⟨ws, us, rfl, hnone, harrived⟩ := Accounts.of_append hbehind
    obtain rfl := hnone.eq_nil_of_arrivals hmid
    cases harrived with
    | arrived hagain =>
      cases hagain with
      | polled hmailbox _ => exact ⟨⟨ys, _, rfl⟩, hmailbox⟩

/-- The rounds of the events are among those that they account for. -/
theorem mem_rounds (h : Accounts m es xs) (hz : .polled z ∈ es) : z ∈ xs := by
  induction h with
  | nil => cases hz
  | arrived _ ih =>
    rcases List.mem_cons.1 hz with hz | hz
    · cases hz
    · exact ih hz
  | polled _ _ ih =>
    rcases List.mem_cons.1 hz with hz | hz
    · cases hz
      exact List.mem_cons_self
    · exact List.mem_cons_of_mem _ (ih hz)

/-- **Without XON a held stream stays held**: as long as none arrives, no round begins
    a write. -/
theorem attempt?_of_no_xon (h : Accounts m (mid ++ .polled z :: post) xs) (hlinked : Linked true xs)
    (hm : m.latest.bind holding? ≠ some false)
    (hmid : ∀ moment value, .arrived moment value ∈ mid → holding? value ≠ some false) :
    z.attempt? = none := by
  induction mid generalizing m xs with
  | nil =>
    cases h with
    | polled hmailbox _ =>
      rw [← hmailbox] at hm
      exact Session.attempt?_of_held (Session.heeded_held_of_held hlinked.of_cons.1 hm)
  | cons e mid ih =>
    have hrest' : ∀ moment value, .arrived moment value ∈ mid → holding? value ≠ some false :=
      fun moment value hv => hmid moment value (List.mem_cons_of_mem _ hv)
    cases h with
    | arrived hrest => exact ih hrest hlinked (hmid _ _ List.mem_cons_self) hrest'
    | polled hmailbox hrest =>
      rw [← hmailbox] at hm
      obtain ⟨hheld, -, hlinked⟩ := hlinked.of_cons
      rw [Session.heeded_held_of_held hheld hm] at hlinked
      exact ih hrest hlinked (by simp [Mailbox.empty]) hrest'

/-- A round that finds the stream held, or fails, begins no write, nor does a later one
    as long as no XON arrives. -/
theorem attempt?_of_stuck (h : Accounts .empty (mid ++ post) xs) (hlinked : Linked held (x :: xs))
    (hstuck : x.before.heeded.flow.held = true ∨ x.before.refusal? ≠ none)
    (hz : mid = [] ∧ x = z ∨ ∃ later, mid = later ++ [.polled z] ∧
      ∀ moment value, .arrived moment value ∈ later → holding? value ≠ some false) :
    z.attempt? = none := by
  obtain ⟨-, hrefused, hlinked⟩ := hlinked.of_cons
  rcases hz with ⟨-, rfl⟩ | ⟨later, rfl, hlater⟩
  · rcases hstuck with hheld | hrefusal
    · exact Session.attempt?_of_held hheld
    · exact Session.attempt?_of_refusal hrefusal
  · rcases hstuck with hheld | hrefusal
    · rw [hheld] at hlinked
      rw [List.append_assoc] at h
      exact h.attempt?_of_no_xon hlinked (by simp [Mailbox.empty]) hlater
    · have hmem := h.mem_rounds (z := z) (by simp)
      rw [hrefused hrefusal] at hmem
      cases hmem

end Accounts

/-- XOFF was displaced: what arrived last before the session looked is neither XOFF nor
    XON, and the session was not held already, nor did it fail on that. -/
def Displaced (es : List (MailEvent D A)) : Prop :=
  ∃ arrivals x rest moment value, es = arrivals ++ .polled x :: rest ∧
    (∀ e ∈ arrivals, e.IsArrival) ∧ arrivals.getLast? = some (.arrived moment value) ∧
    holding? value = none ∧ x.before.flow.held = false ∧ x.before.refusal? = none

/-- A write behind XOFF is begun behind XON as well, or XOFF was displaced. -/
theorem Accounts.xon_or_displaced {m : Mailbox} {mid post : List (MailEvent D A)} {moment : Nat}
    {value : Bytes} {xs : List (Round D A)} {z : Round D A} {held : Bool}
    (h : Accounts m (.arrived moment value :: mid ++ .polled z :: post) xs)
    (hlinked : Linked held xs) (hxoff : holding? value = some true) (hz : z.attempt? ≠ none) :
    (∃ moment v, .arrived moment v ∈ mid ∧ holding? v = some false) ∨
      Displaced (mid ++ [.polled z]) := by
  by_cases hxon : ∃ moment v, .arrived moment v ∈ mid ∧ holding? v = some false
  · exact Or.inl hxon
  refine Or.inr ?_
  have hnoxon : ∀ moment v, .arrived moment v ∈ mid → holding? v ≠ some false :=
    fun moment v hv hfalse => hxon ⟨moment, v, hv, hfalse⟩
  -- `x` is the first round that looks, and `xs` are the rounds behind it
  obtain ⟨arrivals, x, rest, hsplit, harrivals, hrest⟩ := MailEvent.exists_first_poll mid z
  have hevents : .arrived moment value :: mid ++ .polled z :: post =
      (.arrived moment value :: arrivals) ++ .polled x :: (rest ++ post) := by
    simpa using congrArg (· ++ post) hsplit
  rw [hevents] at h
  obtain ⟨ys, zs, rfl, -, hlooked⟩ := h.of_append
  obtain ⟨_, hlinked⟩ := hlinked.of_append
  cases hlooked with
  | @polled _ _ _ xs hmailbox hlater =>
    have harrived : ∀ e ∈ arrivals, e ∈ mid := by
      rcases hrest with ⟨-, -, rfl⟩ | ⟨later, -, rfl⟩
      · exact fun e he => he
      · exact fun e he => List.mem_append_left _ he
    have hstuck : ¬ (x.before.heeded.flow.held = true ∨ x.before.refusal? ≠ none) := by
      refine fun hstuck => hz (hlater.attempt?_of_stuck hlinked hstuck ?_)
      rcases hrest with ⟨hrest, hx, -⟩ | ⟨later, hrest, rfl⟩
      · exact Or.inl ⟨hrest, hx⟩
      · exact Or.inr ⟨later, hrest, fun moment v hv => hnoxon moment v (by simp [hv])⟩
    simp only [not_or, Bool.not_eq_true, ne_eq, Decidable.not_not] at hstuck
    obtain ⟨hheld, hrefusal⟩ := hstuck
    have htaken : x.before.hold? =
        ((m.deliver value).deliverAll arrivals).latest.bind holding? := by
      rw [Session.hold?, hmailbox]
      rfl
    rw [Session.heeded_held, htaken] at hheld
    rcases Mailbox.deliverAll_of_arrivals (m.deliver value) harrivals with
      rfl | ⟨moment, v, hlast, hmail⟩
    · simp [Mailbox.deliverAll, Mailbox.deliver, hxoff] at hheld
    · rw [hmail, Option.bind_some] at hheld
      cases hv : holding? v with
      | none =>
        rw [hv] at hheld
        exact ⟨arrivals, x, rest, moment, v, hsplit, harrivals, hlast, hv, hheld, hrefusal⟩
      | some b =>
        rw [hv] at hheld
        have hb : b = false := hheld
        rw [hb] at hv
        exact absurd hv (hnoxon moment v (harrived _ (List.mem_of_getLast? hlast)))

namespace Session
variable [Peer D A]

/-- **Behind XOFF** a session begins no write from its next look at the mailbox on,
    until XON arrives, unless XOFF was displaced before that look. -/
theorem xon_or_displaced_of_attempt (link : Link D A) (attempts : List Attempt) (s : Session D A)
    {es pre mid post : List (MailEvent D A)} {moment : Nat} {value : Bytes} {id : UInt8}
    {z : Round D A} (h : Accounts s.world.mailbox es (historyRounds link attempts s))
    (hes : es = pre ++ .arrived moment value :: mid ++ .polled z :: post)
    (hxoff : StatusReport.ofBytes value = .ok ⟨.xoff, some id⟩) (hz : z.attempt? ≠ none) :
    (∃ moment v id, .arrived moment v ∈ mid ∧ StatusReport.ofBytes v = .ok ⟨.xon, some id⟩) ∨
      Displaced (mid ++ [.polled z]) := by
  have hlinked : Linked s.flow.held (historyRounds link attempts s) := linked_history attempts s
  rw [hes, List.append_assoc] at h
  obtain ⟨ys, zs, hrounds, -, haccounts⟩ := h.of_append
  rw [hrounds] at hlinked
  obtain ⟨_, hlinked⟩ := hlinked.of_append
  have hholds : holding? value = some true := holding?_eq_some_iff.2 ⟨id, hxoff⟩
  rcases haccounts.xon_or_displaced hlinked hholds hz with ⟨moment, v, hv, hxon⟩ | hdisplaced
  · obtain ⟨id, hid⟩ := holding?_eq_some_iff.1 hxon
    exact Or.inl ⟨moment, v, id, hv, hid⟩
  · exact Or.inr hdisplaced

end Session

namespace Bench

/-- A session that streams three bytes, one in a fragment, to a device that answers the
    first of them with XOFF and, at once, with OK. -/
def forgetful : Session Bench Bytes :=
  { Session.idle [7, 8, 9] { SessionConfig.default with fragmentSize := 1 }
      (.initial 60000 { quiet with
        subscribed := true
        script := [⟨.fragment 0, 0, 1, [(0, StatusReport.toBytes ⟨.xoff, some 1⟩),
          (0, StatusReport.toBytes ⟨.ok, none⟩)], 0⟩] }) with
    phase := .streaming }

/-- OK displaces XOFF, and the second write begins. -/
theorem forgetful_displaced :
    let attempts : List Session.Attempt := [⟨0, .transfer, 60000, 2⟩]
    ∃ x y, Session.historyRounds link attempts forgetful = [x, y] ∧
      Session.historyEvents attempts forgetful =
        [.polled x, .arrived 0 [2, 1], .arrived 0 [0], .polled y] ∧
      y.attempt? = some ⟨1, [8]⟩ ∧ Displaced [.arrived 0 [0], .polled y] := by
  intro attempts
  have hrounds : (Session.historyRounds link attempts forgetful).map
      (fun x => (x.attempt?, x.before.world.device.arrivals x.before.duringRound)) =
      [(some ⟨0, [7]⟩, [(0, [2, 1]), (0, [0])]), (some ⟨1, [8]⟩, [])] := by decide +kernel
  have hall : Session.historyEvents attempts forgetful =
      (Session.historyRounds link attempts forgetful).flatMap Round.mailEvents := by
    have hpause : Session.pauseEvents 0 forgetful = [] := rfl
    rw [Session.historyEvents_cons, Session.historyRounds_cons, hpause, List.flatMap_append]
    rfl
  have haccounts := Session.accounts_history attempts (s := forgetful) nofun
  obtain ⟨x, rest, hxs, hx, hrest⟩ := List.map_eq_cons_iff.1 hrounds
  obtain ⟨y, more, rfl, hy, hmore⟩ := List.map_eq_cons_iff.1 hrest
  obtain rfl := List.map_eq_nil_iff.1 hmore
  obtain ⟨-, hxarrivals⟩ := Prod.mk.inj hx
  obtain ⟨hattempt, hyarrivals⟩ := Prod.mk.inj hy
  have hevents : Session.historyEvents attempts forgetful =
      [.polled x] ++ .arrived 0 [2, 1] :: [.arrived 0 [0]] ++ .polled y :: [] := by
    rw [hall, hxs]
    simp [Round.mailEvents, posts, hxarrivals, hyarrivals]
  have hxoff : StatusReport.ofBytes [2, 1] = .ok ⟨.xoff, some 1⟩ := rfl
  refine ⟨x, y, hxs, hevents, hattempt, ?_⟩
  have hwhy := Session.xon_or_displaced_of_attempt link attempts forgetful haccounts hevents hxoff
    (by rw [hattempt]; simp)
  rcases hwhy with ⟨moment, v, id, hv, hxon⟩ | hdisplaced
  · cases List.mem_singleton.1 hv
    cases hxon
  · exact hdisplaced

/-- XOFF does not always hold the stream until XON: the device answers a write with
    XOFF and never sends XON, and still another write begins. -/
theorem not_held_until_xon :
    ¬ ∀ (turns : Nat) (s : Session Bench Bytes) (pre post : List (Round Bench Bytes))
      (x : Round Bench Bytes) (f : Fragment) (id : UInt8),
      s.world.device.subscribed = true → s.world.mailbox = .empty → s.world.agenda = [] →
      (∀ r ∈ s.world.device.script, ∀ a ∈ r.answer, ∀ id,
        StatusReport.ofBytes a.2 ≠ .ok ⟨.xon, some id⟩) →
      Session.rounds link turns .empty s = pre ++ x :: post → x.completed? = some f →
      (0, StatusReport.toBytes ⟨.xoff, some id⟩) ∈
        (x.before.world.device.script.react .binaryStream f.toBytes).1 →
      ∀ z ∈ post, z.attempt? = none := by
  intro h
  have hrounds : (Session.rounds link 2 .empty forgetful).map
      (fun x => (x.completed?, (x.before.world.device.script.react .binaryStream [0, 7]).1)) =
      [(some ⟨0, [7]⟩, [(0, [2, 1]), (0, [0])]), (some ⟨1, [8]⟩, [])] := by decide +kernel
  obtain ⟨x, rest, hxs, hx, hrest⟩ := List.map_eq_cons_iff.1 hrounds
  obtain ⟨y, more, rfl, hy, -⟩ := List.map_eq_cons_iff.1 hrest
  obtain ⟨hcompleted, hanswers⟩ := Prod.mk.inj hx
  obtain ⟨hwritten, -⟩ := Prod.mk.inj hy
  have hnoxon : ∀ r ∈ forgetful.world.device.script, ∀ a ∈ r.answer, holding? a.2 ≠ some false := by
    decide
  have hxoff : (0, StatusReport.toBytes ⟨.xoff, some 1⟩) ∈
      (x.before.world.device.script.react .binaryStream (Fragment.toBytes ⟨0, [7]⟩)).1 := by
    rw [show Fragment.toBytes ⟨0, [7]⟩ = [0, 7] from rfl, hanswers]
    decide
  have hnone := h 2 forgetful [] _ x ⟨0, [7]⟩ 1 rfl rfl rfl
    (fun r hr a ha id hid => hnoxon r hr a ha (holding?_eq_some_iff.2 ⟨id, hid⟩))
    hxs hcompleted hxoff y (by simp)
  rw [Round.completed?_of_attempt? hnone] at hwritten
  cases hwritten

end Bench

end AirUpdate
