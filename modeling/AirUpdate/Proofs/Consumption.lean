/-
  Air updates — what a consumer of notifications gets.

  A consumer goes on its errands, one after the other, while its feed notifies.
  It is told of a notification exactly if one was sent since it got the last one,
  and it gets the latest of them (`Visit.Serves`).  Every notification that it gets
  was sent just before, so it gets part of what was sent, in order and none twice
  (`consumption`).
-/
import AirUpdate.Proofs.Listening
import AirUpdate.Proofs.Wakeups

namespace AirUpdate

open World

namespace Feed
variable {w w' u : World Feed Bytes} {looks : Nat} {tale : List Event}

/-! ## Time that passes -/

/-- What was due has happened, and no more. -/
structure Elapsed (due : Agenda Bytes) (w u : World Feed Bytes) : Prop where
  agenda_eq : w.agenda = due ++ u.agenda
  by_now : ∀ x ∈ due, x.due ≤ u.now
  sent_eq : u.device.sent = w.device.sent ++ due.map (·.action)
  free_eq : u.device.bell.isFree = w.device.bell.isFree
  latest_eq : u.mailbox.latest = (due.map (·.action)).getLast?.or w.mailbox.latest

theorem elapsed_nil (hagenda : u.agenda = w.agenda) (hdevice : u.device = w.device)
    (hmailbox : u.mailbox = w.mailbox) : Elapsed [] w u where
  agenda_eq := hagenda.symm
  by_now := by simp
  sent_eq := by simp [hdevice]
  free_eq := by rw [hdevice]
  latest_eq := by simp [hmailbox]

/-- The actions of a moment, or of more, one after the other. -/
theorem elapsed_of_performAll {due : Agenda Bytes} (hagenda : w.agenda = due ++ u.agenda)
    (hnow : ∀ x ∈ due, x.due ≤ u.now) (hdevice : u.device = (w'.performAll due).device)
    (hmailbox : u.mailbox = (w'.performAll due).mailbox) (hdevice' : w'.device = w.device)
    (hmailbox' : w'.mailbox = w.mailbox) : Elapsed due w u := by
  rcases List.eq_nil_or_concat' due with rfl | ⟨same, e, rfl⟩
  · exact elapsed_nil hagenda.symm (hdevice.trans hdevice') (hmailbox.trans hmailbox')
  · obtain ⟨d, hperformed, hsent, hfree, -⟩ := performAll_concat same e w'
    rw [hperformed] at hdevice hmailbox
    refine ⟨hagenda, hnow, ?_, ?_, ?_⟩
    · rw [hdevice, hsent, hdevice', List.map_append]
      rfl
    · rw [hdevice, hfree, hdevice']
    · rw [hmailbox, List.map_append, List.map_singleton, List.getLast?_concat]
      rfl

theorem playAgenda_never_eq (moment : Nat) (agenda : Agenda Bytes) (w : World Feed Bytes) :
    (playAgenda (fun _ => false) moment agenda w).2 =
      { w.performAll (agenda.takeWhile (·.due < moment)) with
        now := moment
        agenda := agenda.dropWhile (·.due < moment) } := by
  induction agenda generalizing w with
  | nil => rfl
  | cons first rest ih =>
    by_cases hdue : first.due < moment
    · simp only [playAgenda, hdue, if_true, Bool.false_eq_true, if_false, settle_eq,
        List.takeWhile_cons_of_pos, List.dropWhile_cons_of_pos, decide_true, ite_self]
      exact ih _
    · simp [playAgenda, hdue, performAll]

/-- A sleep comes to its end, and what is due meanwhile happens. -/
theorem exists_elapsed_of_sleep (h : w.OnTime) (ms : Nat) : ∃ u due,
    World.sleep ms { w with limit := w.now + ms + 1 } = .ok () u ∧ Elapsed due w u ∧ u.OnTime := by
  have hlimited : World.OnTime { w with limit := w.now + ms + 1 } := ⟨h.sorted, h.due⟩
  suffices hslept : ∃ u due,
      World.sleep ms { w with limit := w.now + ms + 1 } = .ok () u ∧ Elapsed due w u by
    obtain ⟨u, due, hslept, helapsed⟩ := hslept
    exact ⟨u, due, hslept, helapsed, hlimited.sleep hslept⟩
  cases ms with
  | zero =>
    by_cases hcredit : w.credit = 0
    · have hgive : World.sleep 0 { w with limit := w.now + 0 + 1 } =
          .ok () (giveWay { w with limit := w.now + 0 + 1 }).charged := by
        simp [World.sleep, blink, hcredit]
      rw [hgive, giveWay_eq]
      refine ⟨_, w.agenda.takeWhile (·.due ≤ w.now), rfl, ?_⟩
      refine elapsed_of_performAll ?_ ?_ rfl rfl rfl rfl
      · simp [refreshed, charged, settle_eq]
      · intro x hx
        have hx : x.due ≤ w.now := by simpa using List.mem_takeWhile_imp hx
        simpa [refreshed, charged, settle_eq] using hx
    · have hpass : World.sleep 0 { w with limit := w.now + 0 + 1 } =
          .ok () (charged { w with limit := w.now + 0 + 1 }) := if_pos (Nat.pos_of_ne_zero hcredit)
      exact ⟨_, [], hpass, elapsed_nil rfl rfl rfl⟩
  | succ n =>
    have hpass : World.sleep (n + 1) { w with limit := w.now + (n + 1) + 1 } =
        .ok () (World.pass (w.now + (n + 1))
          { w with limit := w.now + (n + 1) + 1 }).refreshed.charged := by
      simp [World.sleep]
    rw [hpass]
    simp only [World.pass, play, settle_eq, playAgenda_never_eq]
    refine ⟨_, w.agenda.takeWhile (·.due < w.now + (n + 1)), rfl, ?_⟩
    refine elapsed_of_performAll ?_ ?_ rfl rfl rfl rfl
    · simp [refreshed, charged]
    · intro x hx
      have hx : x.due < w.now + (n + 1) := by simpa using List.mem_takeWhile_imp hx
      exact Nat.le_of_lt hx

/-! ## Errands -/

/-- What the consumer gets. -/
def Finding.gained : Finding → Option Bytes
  | .taken value => value
  | .received value => some value
  | .done | .pending _ | .timedOut | .abandoned => none

/-- A wait gains what it has received, and nothing if it ends otherwise. -/
theorem gained_of_received {found : Option Bytes} {finding otherwise : Finding}
    (h : finding = (found.map .received).getD otherwise) (hnothing : otherwise.gained = none) :
    finding.gained = found := by
  subst h
  cases found with
  | none => exact hnothing
  | some value => rfl

/-- An errand of the consumer. -/
structure Visit where
  before : World Feed Bytes
  errand : Errand
  finding : Finding
  after : World Feed Bytes

def visit (looks : Nat) (w : World Feed Bytes) (errand : Errand) : Visit where
  before := w
  errand := errand
  finding := (perform looks w errand).1
  after := (perform looks w errand).2

/-- The errands, one after the other. -/
def visits (looks : Nat) : World Feed Bytes → List Errand → List Visit
  | _, [] => []
  | w, errand :: errands => visit looks w errand :: visits looks (visit looks w errand).after errands

namespace Visit

/-- The notifications that were sent on the errand. -/
def news (v : Visit) : List Bytes := v.after.device.sent.drop v.before.device.sent.length

/-- What is sent is got behind that. -/
def events (v : Visit) : List Event :=
  v.news.map .sent ++ v.finding.gained.toList.map .got

/-- What the consumer finds, if the notifications of `unread` were sent since it got one. -/
def Finds (unread : List Bytes) (v : Visit) : Prop :=
  match v.errand with
  | .notify delay value =>
    if delay = 0 then v.news = [value] ∧ v.after.agenda = v.before.agenda
    else v.news = [] ∧ v.after.agenda = v.before.agenda.insert ⟨v.before.now + delay, value⟩
  | .take => v.finding = .taken unread.getLast?
  | .look => v.finding = .pending (!unread.isEmpty)
  | .sleep ms => v.finding = .done ∧ v.after.now = v.before.now + ms
  | .wait ms => ∃ found, v.finding = (found.map Finding.received).getD .timedOut ∧
      Wakes (horizon v.before ms) (v.before.now + ms) v.before found v.after
  | .abandon ms false => ∃ found, v.finding = (found.map Finding.received).getD .abandoned ∧
      Wakes (v.before.now + ms) (v.before.now + ms) v.before found v.after
  | .abandon ms true => ∃ found, v.finding = (found.map Finding.received).getD .abandoned ∧
      (found ≠ none ∧ Wakes (v.before.now + ms) (v.before.now + ms) v.before found v.after ∨
        found = none ∧ Forsaken (v.before.now + ms) v.before v.after)

/-- What an errand comes to, if the notifications of `unread` were sent since one was got. -/
structure Serves (unread : List Bytes) (v : Visit) : Prop where
  /-- the mailbox has the latest of them -/
  slot : v.before.mailbox.latest = unread.getLast?
  finds : v.Finds unread
  /-- nothing is left where something was got -/
  emptied : v.finding.gained ≠ none → v.after.mailbox = .empty
  /-- what is not going to be notified any more was sent, in order, and nothing else was -/
  due : (∀ delay value, v.errand ≠ .notify delay value) → ∃ due,
    v.before.agenda = due ++ v.after.agenda ∧ v.news = due.map (·.action) ∧
      ∀ x ∈ due, x.due ≤ v.after.now
  /-- and nothing is overdue -/
  onTime : v.after.OnTime

end Visit

/-- What all errands so far have told. -/
def story (vs : List Visit) : List Event := vs.flatMap Visit.events

/-- What holds between two errands. -/
structure Settled (tale : List Event) (w : World Feed Bytes) : Prop where
  onTime : w.OnTime
  idle : Idle w.device
  orderly : Orderly tale
  latest : w.mailbox.latest = (unread tale).getLast?

/-- An errand in which what was due is sent, and the last one of what is there then may be got. -/
structure Comes (due : Agenda Bytes) (found : Option Bytes) (w u : World Feed Bytes) : Prop where
  agenda_eq : w.agenda = due ++ u.agenda
  by_now : ∀ x ∈ due, x.due ≤ u.now
  sent_eq : u.device.sent = w.device.sent ++ due.map (·.action)
  found_eq : found ≠ none → found = (due.map (·.action)).getLast?.or w.mailbox.latest
  latest_eq : u.mailbox.latest =
    if found = none then (due.map (·.action)).getLast?.or w.mailbox.latest else none
  onTime : u.OnTime
  idle : Idle u.device

theorem Settled.start (limit : Nat) : Settled [] (World.initial limit Feed.fresh) where
  onTime := ⟨.nil, by simp [World.initial]⟩
  idle := rfl
  orderly := .nil
  latest := rfl

section
variable {due : Agenda Bytes} {found : Option Bytes}

theorem getLast?_unread (tale : List Event) (values : List Bytes) :
    (unread (tale ++ values.map .sent)).getLast? =
      values.getLast?.or (unread tale).getLast? := by
  rw [unread_sents, List.getLast?_append]

/-- Such an errand goes on from where the last one has ended. -/
theorem Settled.comes (h : Settled tale w) (hcomes : Comes due found w u) :
    Settled (tale ++ ((due.map (·.action)).map .sent ++ found.toList.map .got)) u := by
  obtain ⟨honTime, hidle, horderly, hlatest⟩ := h
  have hlast := getLast?_unread tale (due.map (·.action))
  rw [← hlatest] at hlast
  rw [← List.append_assoc]
  cases found with
  | none =>
    simp only [Option.toList_none, List.map_nil, List.append_nil]
    exact ⟨hcomes.onTime, hcomes.idle, horderly.sents _, hcomes.latest_eq.trans hlast.symm⟩
  | some value =>
    have hvalue := hlast.trans (hcomes.found_eq (by simp)).symm
    simp only [Option.toList_some, List.map_cons, List.map_nil]
    refine ⟨hcomes.onTime, hcomes.idle, (horderly.sents _).get hvalue, ?_⟩
    rw [unread_got]
    exact hcomes.latest_eq

theorem Elapsed.comes (h : Elapsed due w u) (hidle : Idle w.device) (honTime : u.OnTime) :
    Comes due none w u :=
  ⟨h.agenda_eq, h.by_now, h.sent_eq, by simp, by simpa using h.latest_eq, honTime,
    h.free_eq.trans hidle⟩

/-- What is there is got, and nothing happens. -/
theorem comes_of_got (h : w.OnTime) (hfound : found = w.mailbox.latest)
    (hnow : u.now = w.now) (hagenda : u.agenda = w.agenda) (hsent : u.device.sent = w.device.sent)
    (hmailbox : u.mailbox = .empty) (hidle' : Idle u.device) : Comes [] found w u where
  agenda_eq := by simp [hagenda]
  by_now := by simp
  sent_eq := by simp [hsent]
  found_eq _ := by simp [hfound]
  latest_eq := by
    rw [hmailbox]
    split
    · next hnone => exact hnone.symm.trans hfound
    · rfl
  onTime := ⟨by simpa [hagenda] using h.sorted, by simpa [hagenda, hnow] using h.due⟩
  idle := hidle'

theorem Wakes.comes {horizon deadline : Nat} (h : Wakes horizon deadline w found u)
    (honTime : w.OnTime) (hhorizon : deadline ≤ horizon) (hidle : Idle u.device) : ∃ due, Comes due found w u := by
  cases h with
  | pending hvalue left =>
    exact ⟨[], comes_of_got honTime hvalue.symm left.now_eq left.agenda_eq
      (by simpa using left.sent_eq) left.mailbox_eq hidle⟩
  | @arrived first rest x u hempty hsplit hnext hdue left =>
    have hsorted := honTime.sorted
    rw [hsplit] at hsorted
    refine ⟨first ++ [x], ?_, ?_, ?_, ?_, ?_, ?_, hidle⟩
    · rw [left.agenda_eq, hsplit, List.append_assoc]
      rfl
    · rw [left.now_eq]
      intro y hy
      rcases List.mem_append.1 hy with hy | hy
      · exact (List.pairwise_append.1 hsorted).2.2 y hy x (by simp)
      · rw [List.mem_singleton.1 hy]
    · rw [left.sent_eq, List.map_append]
      rfl
    · intro _
      simp
    · rw [left.mailbox_eq]
      rfl
    · exact honTime.next hnext left.agenda_eq left.now_eq
  | passed hempty hlate left =>
    refine ⟨[], ?_, by simp, by simpa using left.sent_eq, by simp, ?_, ?_, hidle⟩
    · simp [left.agenda_eq]
    · rw [left.mailbox_eq, hempty]
      rfl
    · refine ⟨by simpa [left.agenda_eq] using honTime.sorted, fun x hx => ?_⟩
      rw [left.agenda_eq] at hx
      rw [left.now_eq]
      exact Nat.le_trans hhorizon (hlate x hx)

theorem Forsaken.comes {moment : Nat} (h : Forsaken moment w u) (honTime : w.OnTime)
    (hidle : Idle u.device) : ∃ due, Comes due none w u := by
  obtain ⟨due, hsplit, hdue, hsent, hlatest⟩ := h.exists_due
  have hsorted := honTime.sorted
  rw [hsplit] at hsorted
  refine ⟨due, hsplit, ?_, hsent, by simp, ?_, ?_, hidle⟩
  · intro x hx
    rw [h.now_eq, hdue x hx]
  · rw [hlatest, h.nothing]
    simp [Mailbox.empty]
  · refine ⟨(List.pairwise_append.1 hsorted).2.1, fun x hx => ?_⟩
    rw [h.now_eq]
    exact Nat.le_of_lt (h.later x hx)

end

/-! ## All errands -/

section
variable {v : Visit} {due : Agenda Bytes}

theorem news_of_comes (hcomes : Comes due v.finding.gained v.before v.after) :
    v.news = due.map (·.action) := by
  rw [Visit.news, hcomes.sent_eq]
  exact List.drop_left' rfl

/-- An errand in which nothing but the clock and the consumer acts. -/
theorem Settled.serves (h : Settled tale v.before) (hfinds : v.Finds (unread tale))
    (hcomes : Comes due v.finding.gained v.before v.after) :
    v.Serves (unread tale) ∧ Settled (tale ++ v.events) v.after := by
  have hnews := news_of_comes hcomes
  refine ⟨⟨h.latest, hfinds, ?_, ?_, hcomes.onTime⟩, ?_⟩
  · intro hgained
    have hnone := hcomes.latest_eq
    rw [if_neg hgained] at hnone
    exact congrArg Mailbox.mk hnone
  · exact fun _ => ⟨due, hcomes.agenda_eq, hnews, hcomes.by_now⟩
  · rw [Visit.events, hnews]
    exact h.comes hcomes

end

/-- A notification that is sent at once, or later. -/
theorem Settled.notify (h : Settled tale w) (delay : Nat) (value : Bytes) :
    (visit looks w (.notify delay value)).Serves (unread tale) ∧
      Settled (tale ++ (visit looks w (.notify delay value)).events)
        (visit looks w (.notify delay value)).after := by
  have honTime : (w.after delay value).OnTime := h.onTime.after
  by_cases hdelay : delay = 0
  · have hafter : w.after delay value = w.perform value := if_pos hdelay
    have hnews : (visit looks w (.notify delay value)).news = [value] := by
      simp [Visit.news, visit, perform, hafter, World.perform]
    have hevents : (visit looks w (.notify delay value)).events = [.sent value] := by
      rw [Visit.events, hnews]
      rfl
    refine ⟨⟨h.latest, ?_, absurd rfl, fun hnot => absurd rfl (hnot delay value), honTime⟩, ?_⟩
    · simp only [Visit.Finds, visit, if_pos hdelay]
      refine ⟨hnews, ?_⟩
      simp only [perform, hafter]
      rfl
    · rw [hevents]
      refine ⟨honTime, ?_, h.orderly.sent value, ?_⟩
      · simp only [visit, perform, hafter]
        exact (Bell.isFree_ring _).trans h.idle
      · simp only [visit, perform, hafter]
        simp [World.perform, Peer.perform, Mailbox.deliver]
  · have hafter : w.after delay value =
        { w with agenda := w.agenda.insert ⟨w.now + delay, value⟩ } := if_neg hdelay
    have hnews : (visit looks w (.notify delay value)).news = [] := by
      simp [Visit.news, visit, perform, hafter]
    have hevents : (visit looks w (.notify delay value)).events = [] := by
      rw [Visit.events, hnews]
      rfl
    refine ⟨⟨h.latest, ?_, absurd rfl, fun hnot => absurd rfl (hnot delay value), honTime⟩, ?_⟩
    · simp only [Visit.Finds, visit, if_neg hdelay]
      refine ⟨hnews, ?_⟩
      simp only [perform, hafter]
    · rw [hevents, List.append_nil]
      refine ⟨honTime, ?_, h.orderly, ?_⟩
      · simp only [visit, perform, hafter]
        exact h.idle
      · simp only [visit, perform, hafter]
        exact h.latest

/-- **Each errand** comes to what the ones before it have left. -/
theorem Settled.goesOn (h : Settled tale w) (hlooks : 3 ≤ looks) (errand : Errand) :
    (visit looks w errand).Serves (unread tale) ∧
      Settled (tale ++ (visit looks w errand).events) (visit looks w errand).after := by
  cases errand with
  | notify delay value => exact h.notify delay value
  | take =>
    have hcomes : Comes [] w.mailbox.latest w { w with mailbox := .empty } :=
      comes_of_got h.onTime rfl rfl rfl rfl rfl h.idle
    exact serves (v := visit looks w .take) h (congrArg Finding.taken h.latest) hcomes
  | look =>
    have hcomes : Comes [] none w w := (elapsed_nil rfl rfl rfl).comes h.idle h.onTime
    refine serves (v := visit looks w .look) h ?_ hcomes
    refine congrArg Finding.pending ?_
    rw [Mailbox.hasPending, h.latest]
    cases unread tale <;> simp
  | sleep ms =>
    obtain ⟨u, due, hslept, helapsed, honTime⟩ := exists_elapsed_of_sleep h.onTime ms
    have hspent : perform looks w (.sleep ms) = (.done, { u with limit := w.limit }) := by
      simp only [perform, spend, bind_of_ok hslept]
      rfl
    have hcomes : Comes due none w { u with limit := w.limit } :=
      { helapsed.comes h.idle honTime with onTime := ⟨honTime.sorted, honTime.due⟩ }
    have hnow : u.now = w.now + ms := (now_of_sleep hslept :)
    have hfinds : (visit looks w (.sleep ms)).Finds (unread tale) := by
      simp [Visit.Finds, Feed.visit, hspent, hnow]
    refine serves (v := visit looks w (.sleep ms)) h hfinds (?_ : Comes due _ _ _)
    simp only [Feed.visit, hspent]
    exact hcomes
  | wait ms =>
    obtain ⟨found, hfound, hwakes, hidle⟩ := wakes_of_wait h.onTime h.idle hlooks ms
    obtain ⟨due, hcomes⟩ := hwakes.comes h.onTime (by unfold horizon; split <;> omega) hidle
    have hgained := gained_of_received hfound rfl
    exact serves (v := visit looks w (.wait ms)) h ⟨found, hfound, hwakes⟩ (hgained.symm ▸ hcomes)
  | abandon ms late =>
    cases late with
    | false =>
      obtain ⟨found, hfound, hwakes, hidle⟩ := wakes_of_abandon h.onTime h.idle hlooks ms
      obtain ⟨due, hcomes⟩ := hwakes.comes h.onTime (Nat.le_refl _) hidle
      have hgained := gained_of_received hfound rfl
      exact serves (v := visit looks w (.abandon ms false)) h ⟨found, hfound, hwakes⟩
        (hgained.symm ▸ hcomes)
    | true =>
      obtain ⟨found, hfound, hends, hidle⟩ := forsaken_of_abandon h.onTime h.idle hlooks ms
      have hgained := gained_of_received hfound rfl
      have hcomes : ∃ due, Comes due found w (perform looks w (.abandon ms true)).2 := by
        rcases hends with ⟨-, hwakes⟩ | ⟨rfl, hforsaken⟩
        · exact hwakes.comes h.onTime (Nat.le_refl _) hidle
        · exact hforsaken.comes h.onTime hidle
      obtain ⟨due, hcomes⟩ := hcomes
      exact serves (v := visit looks w (.abandon ms true)) h ⟨found, hfound, hends⟩
        (hgained.symm ▸ hcomes)

/-- Each of all errands, one after the other. -/
theorem Settled.visits (h : Settled tale w) (hlooks : 3 ≤ looks) (errands : List Errand)
    {past rest : List Visit} {v : Visit} (hvisit : visits looks w errands = past ++ v :: rest) :
    v.Serves (unread (tale ++ story past)) := by
  induction errands generalizing tale w past with
  | nil => simp [visits] at hvisit
  | cons errand errands ih =>
    obtain ⟨hserves, hsettled⟩ := h.goesOn hlooks errand
    cases past with
    | nil =>
      obtain rfl := (List.cons.inj hvisit).1
      simpa [story] using hserves
    | cons first past =>
      obtain ⟨rfl, hrest⟩ := List.cons.inj hvisit
      have hlater := ih hsettled hrest
      simpa [story, List.append_assoc] using hlater

theorem Settled.orderly_story (h : Settled tale w) (hlooks : 3 ≤ looks) (errands : List Errand) :
    Orderly (tale ++ story (Feed.visits looks w errands)) := by
  induction errands generalizing tale w with
  | nil => simpa [Feed.visits, story] using h.orderly
  | cons errand errands ih =>
    have hlater := ih (h.goesOn hlooks errand).2
    simpa [Feed.visits, story, List.append_assoc] using hlater

/-- **What a consumer of notifications gets.**  Whatever its errands are: each of them comes to what
    `Visit.Serves` says of the notifications that were sent since one was got; whatever is got was
    sent just before; so what is got is part of what was sent, in order and none twice.  However the
    steps of the two fall together, the mailbox has the last notification that was not got, and a
    consumer that waits while one is there gets it. -/
theorem consumption (looks : Nat) (hlooks : 3 ≤ looks) (limit : Nat) (errands : List Errand) :
    (∀ past v rest, visits looks (World.initial limit fresh) errands = past ++ v :: rest →
      v.Serves (unread (story past))) ∧
    (∀ older value newer,
      story (visits looks (World.initial limit fresh) errands) = older ++ .got value :: newer →
      ∃ oldest, older = oldest ++ [.sent value]) ∧
    ((story (visits looks (World.initial limit fresh) errands)).filterMap Event.got?).Sublist
      ((story (visits looks (World.initial limit fresh) errands)).filterMap Event.sent?) ∧
    ∀ tale s, Reaches tale s → Sound tale s ∧
      ∀ value, s.mailbox.latest = some value → s.place ≠ .away →
        ∃ s₁ s₂, Relation.ReflTransGen Quiet s s₁ ∧ Moves s₁ [.got value] s₂ := by
  have hstart := Settled.start limit
  have horderly : Orderly (story (visits looks (World.initial limit fresh) errands)) := by
    simpa using hstart.orderly_story hlooks errands
  refine ⟨?_, ?_, horderly.sublist, ?_⟩
  · intro past v rest hvisit
    simpa using hstart.visits hlooks errands hvisit
  · exact fun older value newer hsplit => horderly.behind hsplit
  · exact fun tale s hreaches => ⟨hreaches.sound, fun value => hreaches.exists_got⟩

/-- Two notifications at one moment, a look, and a wait that is given up. -/
theorem consumption_of_two :
    3 ≤ 3 ∧ (visits 3 (World.initial 0 fresh)
      [.notify 17 [0xd2], .notify 17 [0xbe], .wait 38, .look, .abandon 5 true]).map Visit.finding =
        [.done, .done, .received [0xbe], .pending false, .abandoned] ∧
    ((story (visits 3 (World.initial 0 fresh)
      [.notify 17 [0xd2], .notify 17 [0xbe], .wait 38, .look, .abandon 5 true])).filterMap
        Event.got?).Sublist [[0xd2], [0xbe]] := by
  refine ⟨by decide, by decide, ?_⟩
  exact (consumption 3 (by decide) 0
    [.notify 17 [0xd2], .notify 17 [0xbe], .wait 38, .look, .abandon 5 true]).2.2.1

/-- A wait does not always find the first notification that is sent meanwhile. -/
theorem not_first_found : ¬ ∀ errands past v rest,
    visits 3 (World.initial 0 fresh) errands = past ++ v :: rest →
    ∀ ms value, v.errand = .wait ms → v.before.mailbox = .empty → v.finding = .received value →
      v.news.head? = some value := by
  intro h
  let first := visit 3 (World.initial 0 fresh) (.notify 17 [0xd2])
  let second := visit 3 first.after (.notify 17 [0xbe])
  have hfirst := h [.notify 17 [0xd2], .notify 17 [0xbe], .wait 38] [first, second]
    (visit 3 second.after (.wait 38)) [] rfl 38 [0xbe] rfl rfl rfl
  exact absurd hfirst (by decide)

end Feed

end AirUpdate
