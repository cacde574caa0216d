/-
  Air updates — what forwarders hand on.

  A forwarder gets what its peripheral notifies of its characteristic from the
  subscription on, until the forwarders are taken away or the link goes down
  (`heard`), and hands it on in order.  A `Desk` has the forwarders with their
  numbers, in the order of the subscriptions, and what each of them has handed on.
  If what peripherals do is handed on before the next step of the program (`Prompt`),
  each forwarder has handed on just what it was to hear (`received_eq_heard`); and
  the deeds of a program that lets the forwarders have their turn behind each of
  them are prompt, whatever they come to (`forwarded`).  What they bring about can be
  computed from the agenda and the scripts of the peripherals (`Deed.duringAll`).
-/
import AirUpdate.Proofs.Meanwhile

namespace AirUpdate

/-- A forwarder when a peripheral acts. -/
def Forwarder.meet (f : Forwarder) (a : RadioAction) : Forwarder :=
  match a.action with
  | .notify characteristic value => f.hear a.peripheral characteristic value
  | .drop => f.close a.peripheral
  | .announce _ | .endEvents => f

namespace Radio

/-! ## The desk -/

/-- The forwarders with their numbers, how many were set up, and what was handed on by which. -/
structure Desk where
  held : List (Nat × Forwarder)
  opened : Nat
  handed : List (Nat × Bytes)
  mailbox : Mailbox

namespace Desk

/-- What is waiting to be handed on. -/
def waiting (d : Desk) : List (Nat × Bytes) := d.held.flatMap fun x => x.2.queue.map (x.1, ·)

def after (d : Desk) : Occurrence → Desk
  | .acts a => { d with held := d.held.map fun x => (x.1, x.2.meet a) }
  | .handsOn =>
    { d with
      held := d.held.filterMap fun x => x.2.drained?.map (x.1, ·)
      handed := d.handed ++ d.waiting
      mailbox := (d.waiting.map (·.2)).foldl Mailbox.deliver d.mailbox }
  | .opens i c =>
    { d with
      held := d.held ++ [(d.opened, ⟨i, c, [], true⟩)]
      opened := d.opened + 1 }
  | .stops => { d with held := [] }
  | .takes => { d with mailbox := .empty }
  | .follows _ => d

/-- The desk of a program that has no forwarders yet. -/
def start (m : Mailbox) : Desk := ⟨[], 0, [], m⟩

/-- The desk after all that has happened. -/
def run (d : Desk) (os : List Occurrence) : Desk := os.foldl after d

/-- What one of the forwarders has handed on. -/
def received (d : Desk) (k : Nat) : List Bytes := (d.handed.filter (·.1 = k)).map (·.2)

end Desk

section
variable {r q : Radio} {m n : Mailbox} {os : List Occurrence}

/-- The forwarders of the radio are those of the desk, and the mailbox has what they handed on. -/
theorem desk_of_occurs (hoccurs : Occurs r m os q n) (hnone : r.forwarders = []) :
    q.forwarders = ((Desk.start m).run os).held.map (·.2) ∧ n = ((Desk.start m).run os).mailbox := by
  induction hoccurs with
  | start => exact ⟨hnone, rfl⟩
  | aside _ halike ih => exact ⟨halike.forwarders.trans ih.1, ih.2⟩
  | @next os q n o hoccurs ih =>
    obtain ⟨hforwarders, hmailbox⟩ := ih
    have hrun : (Desk.start m).run (os ++ [o]) = ((Desk.start m).run os).after o := by
      simp [Desk.run]
    rw [hrun]
    generalize (Desk.start m).run os = d at hforwarders hmailbox
    subst hmailbox
    cases o with
    | acts a =>
      obtain ⟨j, action⟩ := a
      cases action with
      | notify c v => simp [Desk.after, after, perform, notify, hforwarders, Forwarder.meet]
      | drop =>
        simp [Desk.after, after, perform, drop, announce, onPeripheral, hforwarders, Forwarder.meet]
      | announce e => simp [Desk.after, after, perform, announce, hforwarders, Forwarder.meet]
      | endEvents => simp [Desk.after, after, perform, endEvents, hforwarders, Forwarder.meet]
    | handsOn =>
      constructor
      · simp only [Desk.after, after, settle, hforwarders, List.filterMap_map, List.map_filterMap,
          Option.map_map]
        refine congrArg (fun f => d.held.filterMap f) (funext fun x => ?_)
        cases hdrained : x.2.drained? <;> simp [hdrained]
      · have hwaiting : q.undelivered = d.waiting.map (·.2) := by
          simp [undelivered, Desk.waiting, hforwarders, List.flatMap_map, List.map_flatMap,
            Function.comp_def]
        simp only [Desk.after, after, settle, hwaiting]
    | opens i c => simp [Desk.after, after, hforwarders]
    | stops => simp [Desk.after, after, stopForwarding]
    | takes => simp [Desk.after, after, hforwarders]
    | follows address => simp [Desk.after, after, hforwarders]

end

/-! ## One forwarder -/

/-- The notification of the characteristic by the peripheral, if the occurrence is one. -/
def notified? (i : Nat) (c : Uuid) : Occurrence → Option Bytes
  | .acts a =>
    match a.action with
    | .notify c' value => if a.peripheral = i ∧ c' = c then some value else none
    | .drop | .announce _ | .endEvents => none
  | .handsOn | .opens _ _ | .stops | .takes | .follows _ => none

/-- The forwarders are taken away, or the link of the peripheral goes down. -/
def ends (i : Nat) : Occurrence → Bool
  | .acts a =>
    match a.action with
    | .drop => a.peripheral = i
    | .notify _ _ | .announce _ | .endEvents => false
  | .stops => true
  | .handsOn | .opens _ _ | .takes | .follows _ => false

/-- What a forwarder is to hear from the moment on at which it is set up. -/
def heard (i : Nat) (c : Uuid) (os : List Occurrence) : List Bytes :=
  (os.takeWhile fun o => !ends i o).filterMap (notified? i c)

theorem heard_cons (i : Nat) (c : Uuid) (o : Occurrence) (os : List Occurrence) :
    heard i c (o :: os) = if ends i o then [] else (notified? i c o).toList ++ heard i c os := by
  unfold heard
  cases hends : ends i o with
  | true => simp [hends]
  | false =>
    rw [List.takeWhile_cons_of_pos (by simp [hends]), List.filterMap_cons]
    cases notified? i c o <;> rfl

/-- What peripherals do is handed on before the next step of the program, and before the end;
    `waits` says whether something may be waiting for that. -/
def Prompt : Bool → List Occurrence → Prop
  | waits, [] => waits = false
  | _, .acts _ :: rest => Prompt true rest
  | _, .handsOn :: rest => Prompt false rest
  | waits, .opens _ _ :: rest | waits, .stops :: rest | waits, .takes :: rest
  | waits, .follows _ :: rest => waits = false ∧ Prompt false rest

/-- A forwarder that is held or not, and what it has handed on. -/
structure Seat where
  forwarder : Option Forwarder
  received : List Bytes

/-- The seat of a forwarder after what has happened. -/
def Seat.after (s : Seat) : Occurrence → Seat
  | .acts a => { s with forwarder := s.forwarder.map (·.meet a) }
  | .handsOn =>
    ⟨s.forwarder.bind (·.drained?), s.received ++ ((s.forwarder.map (·.queue)).getD [])⟩
  | .stops => { s with forwarder := none }
  | .opens _ _ | .takes | .follows _ => s

namespace Seat
variable {i : Nat} {c : Uuid} {os : List Occurrence} {waits : Bool}

/-- A seat that is empty stays so. -/
theorem received_of_none (os : List Occurrence) (received : List Bytes) :
    (os.foldl after ⟨none, received⟩).received = received := by
  induction os generalizing received with
  | nil => rfl
  | cons o os ih =>
    cases o with
    | handsOn =>
      have hnothing : after ⟨none, received⟩ .handsOn = ⟨none, received⟩ := by simp [after]
      rw [List.foldl_cons, hnothing]
      exact ih received
    | acts _ | opens _ _ | stops | takes | follows _ => exact ih received

/-- A forwarder to which nothing more comes hands on what it has. -/
theorem received_of_closed (queue received : List Bytes) (hprompt : Prompt waits os)
    (hqueue : waits = false → queue = []) :
    (os.foldl after ⟨some ⟨i, c, queue, false⟩, received⟩).received = received ++ queue := by
  induction os generalizing waits queue received with
  | nil => simp [hqueue hprompt]
  | cons o os ih =>
    cases o with
    | acts a =>
      have hmeet : (Forwarder.mk i c queue false).meet a = ⟨i, c, queue, false⟩ := by
        obtain ⟨j, action⟩ := a
        cases action <;> simp [Forwarder.meet, Forwarder.hear, Forwarder.close]
      simp only [List.foldl_cons, after, Option.map_some, hmeet]
      exact ih queue received hprompt nofun
    | handsOn => simpa [after, Forwarder.drained?] using received_of_none os (received ++ queue)
    | stops =>
      simp only [List.foldl_cons, after, received_of_none, hqueue hprompt.1, List.append_nil]
    | opens _ _ | takes | follows _ => exact ih queue received hprompt.2 fun _ => hqueue hprompt.1

/-- An open forwarder when a peripheral acts. -/
theorem meet_eq (queue : List Bytes) (a : RadioAction) :
    (Forwarder.mk i c queue true).meet a =
      ⟨i, c, queue ++ (notified? i c (.acts a)).toList, !ends i (.acts a)⟩ := by
  obtain ⟨j, action⟩ := a
  cases action with
  | notify c' value =>
    by_cases hme : i = j ∧ c = c'
    · simp [Forwarder.meet, Forwarder.hear, notified?, ends, hme]
    · have hme' : ¬ (j = i ∧ c' = c) := fun h => hme ⟨h.1.symm, h.2.symm⟩
      simp [Forwarder.meet, Forwarder.hear, notified?, ends, hme, hme']
  | drop =>
    by_cases hme : i = j
    · simp [Forwarder.meet, Forwarder.close, notified?, ends, hme]
    · simp [Forwarder.meet, Forwarder.close, notified?, ends, hme, Ne.symm hme]
  | announce _ | endEvents => simp [Forwarder.meet, notified?, ends]

/-- **A forwarder hands on what it is to hear**, in order. -/
theorem received_of_open (queue received : List Bytes) (hprompt : Prompt waits os)
    (hqueue : waits = false → queue = []) :
    (os.foldl after ⟨some ⟨i, c, queue, true⟩, received⟩).received =
      received ++ queue ++ heard i c os := by
  induction os generalizing waits queue received with
  | nil => simp [hqueue hprompt, heard]
  | cons o os ih =>
    rw [heard_cons]
    cases o with
    | acts a =>
      simp only [List.foldl_cons, after, Option.map_some, meet_eq]
      cases hends : ends i (.acts a) with
      | true =>
        have hnone : notified? i c (.acts a) = none := by
          obtain ⟨j, action⟩ := a
          cases action <;> simp_all [ends, notified?]
        have hrest : Prompt true os := hprompt
        simpa [hnone] using received_of_closed queue received hrest nofun
      | false => simpa using ih (queue ++ (notified? i c (.acts a)).toList) received hprompt nofun
    | handsOn =>
      have hrest := ih [] (received ++ queue) hprompt fun _ => rfl
      simpa [after, Forwarder.drained?, ends, notified?] using hrest
    | stops => simp [after, received_of_none, hqueue hprompt.1, ends]
    | opens _ _ | takes | follows _ => exact ih queue received hprompt.2 fun _ => hqueue hprompt.1

end Seat

/-! ## All of them -/

namespace Desk
variable {d : Desk} {k : Nat} {s : Seat} {os : List Occurrence}

/-- No number is used that was not given. -/
structure Numbered (d : Desk) : Prop where
  held : ∀ x ∈ d.held, x.1 < d.opened
  handed : ∀ x ∈ d.handed, x.1 < d.opened

theorem mem_waiting {x : Nat × Bytes} (h : x ∈ d.waiting) : ∃ f, (x.1, f) ∈ d.held := by
  obtain ⟨⟨n, f⟩, hf, hx⟩ := List.mem_flatMap.1 h
  obtain ⟨value, -, rfl⟩ := List.mem_map.1 hx
  exact ⟨f, hf⟩

theorem Numbered.after (h : d.Numbered) (o : Occurrence) : (d.after o).Numbered := by
  cases o with
  | acts a =>
    refine ⟨fun x hx => ?_, h.handed⟩
    obtain ⟨y, hy, rfl⟩ := List.mem_map.1 hx
    exact h.held y hy
  | handsOn =>
    constructor
    · intro x hx
      obtain ⟨y, hy, hx⟩ := List.mem_filterMap.1 hx
      obtain ⟨f, -, rfl⟩ := Option.map_eq_some_iff.1 hx
      exact h.held y hy
    · intro x hx
      rcases List.mem_append.1 hx with hx | hx
      · exact h.handed x hx
      · obtain ⟨f, hf⟩ := mem_waiting hx
        exact h.held _ hf
  | opens i c =>
    constructor
    · intro x hx
      rcases List.mem_append.1 hx with hx | hx
      · exact Nat.lt_succ_of_lt (h.held x hx)
      · rw [List.mem_singleton.1 hx]
        exact Nat.lt_succ_self _
    · exact fun x hx => Nat.lt_succ_of_lt (h.handed x hx)
  | stops => exact ⟨by simp [Desk.after], h.handed⟩
  | takes | follows _ => exact ⟨h.held, h.handed⟩

theorem Numbered.run (h : d.Numbered) (os : List Occurrence) : (d.run os).Numbered := by
  induction os generalizing d with
  | nil => exact h
  | cons o os ih => exact ih (h.after o)

/-! What is done for each number can be looked at for one of them. -/

theorem filter_map_held (f : Forwarder → Forwarder) (held : List (Nat × Forwarder)) (k : Nat) :
    (held.map fun x => (x.1, f x.2)).filter (·.1 = k) =
      (held.filter (·.1 = k)).map fun x => (x.1, f x.2) :=
  List.filter_map

theorem filter_filterMap_held (f : Forwarder → Option Forwarder) (held : List (Nat × Forwarder))
    (k : Nat) :
    (held.filterMap fun x => (f x.2).map (x.1, ·)).filter (·.1 = k) =
      (held.filter (·.1 = k)).filterMap fun x => (f x.2).map (x.1, ·) := by
  induction held with
  | nil => rfl
  | cons x held ih =>
    by_cases hx : x.1 = k
    · cases hf : f x.2 <;> simp [hx, hf, ih]
    · cases hf : f x.2 <;> simp [hx, hf, ih]

theorem filter_flatMap_held (held : List (Nat × Forwarder)) (k : Nat) :
    (held.flatMap fun x => x.2.queue.map (x.1, ·)).filter (·.1 = k) =
      (held.filter (·.1 = k)).flatMap fun x => x.2.queue.map (x.1, ·) := by
  induction held with
  | nil => rfl
  | cons x held ih =>
    rw [List.flatMap_cons, List.filter_append, ih]
    by_cases hx : x.1 = k
    · have hall : (x.2.queue.map (x.1, ·)).filter (·.1 = k) = x.2.queue.map (x.1, ·) :=
        List.filter_eq_self.2 (by simp [hx])
      rw [hall, List.filter_cons_of_pos (by simpa using hx), List.flatMap_cons]
    · have hnone : (x.2.queue.map (x.1, ·)).filter (·.1 = k) = [] :=
        List.filter_eq_nil_iff.2 (by simp [hx])
      rw [hnone, List.filter_cons_of_neg (by simpa using hx), List.nil_append]

/-- The seat of the forwarder with a number. -/
structure HasSeat (d : Desk) (k : Nat) (s : Seat) : Prop where
  held : d.held.filter (·.1 = k) = (s.forwarder.map (k, ·)).toList
  received : d.received k = s.received
  lt : k < d.opened

theorem HasSeat.after (h : d.HasSeat k s) (o : Occurrence) : (d.after o).HasSeat k (s.after o) := by
  obtain ⟨hheld, hreceived, hlt⟩ := h
  cases o with
  | acts a =>
    refine ⟨?_, hreceived, hlt⟩
    refine (filter_map_held (·.meet a) d.held k).trans ?_
    rw [hheld]
    simp only [Seat.after]
    cases s.forwarder <;> rfl
  | handsOn =>
    refine ⟨?_, ?_, hlt⟩
    · refine (filter_filterMap_held (·.drained?) d.held k).trans ?_
      rw [hheld]
      simp only [Seat.after]
      cases s.forwarder with
      | none => rfl
      | some f => cases hdrained : f.drained? <;> simp [hdrained]
    · simp only [Desk.received, Desk.after, Seat.after, List.filter_append, List.map_append]
      rw [← hreceived, waiting, filter_flatMap_held, hheld]
      cases s.forwarder <;> simp [Desk.received, Function.comp_def]
  | opens i c =>
    have hne : d.opened ≠ k := by omega
    refine ⟨?_, hreceived, Nat.lt_succ_of_lt hlt⟩
    simp only [Desk.after, Seat.after, List.filter_append, hheld]
    simp [hne]
  | stops => exact ⟨by simp [Desk.after, Seat.after], hreceived, hlt⟩
  | takes | follows _ => exact ⟨hheld, hreceived, hlt⟩

theorem HasSeat.run (h : d.HasSeat k s) (os : List Occurrence) :
    (d.run os).HasSeat k (os.foldl Seat.after s) := by
  induction os generalizing d s with
  | nil => exact h
  | cons o os ih => exact ih (h.after o)

/-- A forwarder that is just set up. -/
theorem Numbered.hasSeat (h : d.Numbered) (i : Nat) (c : Uuid) :
    (d.after (.opens i c)).HasSeat d.opened ⟨some ⟨i, c, [], true⟩, []⟩ := by
  have hheld : d.held.filter (·.1 = d.opened) = [] :=
    List.filter_eq_nil_iff.2 fun x hx => by simpa using Nat.ne_of_lt (h.held x hx)
  have hhanded : d.handed.filter (·.1 = d.opened) = [] :=
    List.filter_eq_nil_iff.2 fun x hx => by simpa using Nat.ne_of_lt (h.handed x hx)
  refine ⟨?_, ?_, Nat.lt_succ_self _⟩
  · simp [Desk.after, List.filter_append, hheld]
  · simp [Desk.after, Desk.received, hhanded]

/-- **Each forwarder has handed on what it was to hear**, if what peripherals do is handed on before
    the next step of the program. -/
theorem received_eq_heard {m : Mailbox} {before behind : List Occurrence} {i : Nat} {c : Uuid}
    (hprompt : Prompt false behind) :
    ((start m).run (before ++ .opens i c :: behind)).received ((start m).run before).opened =
      heard i c behind := by
  have hstart : (start m).Numbered := ⟨by simp [start], by simp [start]⟩
  have hseat := ((hstart.run before).hasSeat i c).run behind
  have hrun : (start m).run (before ++ .opens i c :: behind) =
      (((start m).run before).after (.opens i c)).run behind := by
    simp [run]
  rw [hrun, hseat.received]
  simpa using Seat.received_of_open [] [] hprompt fun _ => rfl

/-- Without forwarders nothing is handed on. -/
theorem handed_of_no_opens (h : d.held = []) (hno : ∀ i c, .opens i c ∉ os) :
    (d.run os).handed = d.handed := by
  induction os generalizing d with
  | nil => rfl
  | cons o os ih =>
    have hrest : ∀ i c, .opens i c ∉ os := fun i c hmem => hno i c (List.mem_cons_of_mem _ hmem)
    have hone : (d.after o).held = [] ∧ (d.after o).handed = d.handed := by
      cases o with
      | opens i c => exact absurd List.mem_cons_self (hno i c)
      | acts _ | handsOn | stops | takes | follows _ => simp [Desk.after, waiting, h]
    exact (ih hone.1 hrest).trans hone.2

end Desk

/-! ## What a program does -/

/-- What a program does with a peripheral that it is connected to. -/
inductive Deed where
  | subscribe (characteristic : Uuid)
  | write (characteristic : Uuid) (data : Bytes) (mode : WriteMode)
  | read (service characteristic : Uuid)
  | readDescriptor (service characteristic descriptor : Uuid)
  | pause (milliseconds : Nat)
  /-- takes a notification out of the mailbox -/
  | take
  | disconnect
  /-- gives the connection out of hand -/
  | release
  deriving DecidableEq, Repr

namespace Deed

def act (i : Nat) : Deed → Use Unit
  | .subscribe c => Radio.subscribe i c
  | .write c data mode => Radio.write i c data mode
  | .read service c => do let _ ← Radio.read i service c
  | .readDescriptor service c descriptor => do let _ ← Radio.readDescriptor i service c descriptor
  | .pause ms => World.sleep ms
  | .take => do let _ ← World.poll
  | .disconnect => Radio.disconnect i
  | .release => World.onDevice stopForwarding

/-- The world after a deed, whatever it has come to, and after the forwarders have had their turn. -/
def done (i : Nat) (deed : Deed) (w : World Radio RadioAction) : World Radio RadioAction :=
  (endState (deed.act i w)).settle

/-- What a deed brings about: a forwarder only if it is a subscription that comes to its end, and
    their end if it is a disconnect, also one that is refused, or a release. -/
def Brings (i : Nat) (w : World Radio RadioAction) (os : List Occurrence) : Deed → Prop
  | .subscribe c => os = if (result? (Radio.subscribe i c w)).isSome then [.opens i c] else []
  | .disconnect => os = if (result? (Radio.disconnect i w)).isSome then [.stops, .acts ⟨i, .drop⟩]
      else [.stops]
  | .release => os = [.stops]
  | .take => os = [.takes]
  | .write _ _ _ | .read _ _ | .readDescriptor _ _ _ | .pause _ => ∀ o ∈ os, o.isOutside = true

/-- What a deed brings about, by the agenda and the script of the peripheral. -/
def during (i : Nat) (w : World Radio RadioAction) : Deed → List Occurrence
  | .subscribe c => if (result? (Radio.subscribe i c w)).isSome then [.opens i c] else []
  | .disconnect =>
    if (result? (Radio.disconnect i w)).isSome then [.stops, .acts ⟨i, .drop⟩] else [.stops]
  | .release => [.stops]
  | .take => [.takes]
  | .write c data mode => duringWrite i c data mode w
  | .pause ms => Radio.during ms w
  | .read _ _ | .readDescriptor _ _ _ => []

theorem brings_during (i : Nat) (deed : Deed) (w : World Radio RadioAction) :
    deed.Brings i w (deed.during i w) := by
  cases deed with
  | subscribe _ | disconnect | release | take => rfl
  | write c data mode => exact isOutside_duringWrite
  | pause ms => exact isOutside_during
  | read _ _ | readDescriptor _ _ _ => exact nofun

/-- **What a deed brings about**: in a pause and within a write, what is on the agenda and in the
    script. -/
theorem occurs_during (i : Nat) (deed : Deed) (w : World Radio RadioAction) :
    Occurs w.device w.mailbox (deed.during i w ++ [.handsOn])
      (deed.done i w).device (deed.done i w).mailbox := by
  suffices hoccurs : Occurs w.device w.mailbox (deed.during i w)
      (endState (deed.act i w)).device (endState (deed.act i w)).mailbox from hoccurs.next .handsOn
  have hbears : Bears [.read, .readDescriptor] (Occurs w.device w.mailbox []) := bears_occurs _
  cases deed with
  | subscribe c =>
    have hopened := occurs_of_subscribe i c w
    simp only [Deed.act, Deed.during]
    cases hact : Radio.subscribe i c w with
    | ok u w' => exact hopened.1 w' hact
    | error e w' => exact hopened.2 e w' hact
  | disconnect =>
    have hstopped := occurs_of_disconnect (i := i) (w := w)
    simp only [Deed.act, Deed.during]
    cases hact : Radio.disconnect i w with
    | ok u w' => exact hstopped.1 w' hact
    | error e w' => exact hstopped.2 e w' hact
  | release => exact .single .stops rfl rfl
  | take => exact .single .takes rfl rfl
  | write c data mode => exact occurs_of_write i c data mode w
  | pause ms => exact occurs_of_sleep ms .start
  | read service c =>
    exact World.keeps_bind (hbears.keeps_read (by decide)) (fun _ => World.keeps_pure ()) w .start
  | readDescriptor service c descriptor =>
    exact World.keeps_bind (hbears.keeps_readDescriptor (by decide)) (fun _ => World.keeps_pure ()) w
      .start

/-- What deeds bring about, one after the other, each with what is handed on behind it. -/
def duringAll (i : Nat) : List Deed → World Radio RadioAction → List Occurrence
  | [], _ => []
  | deed :: deeds, w => deed.during i w ++ .handsOn :: duringAll i deeds (deed.done i w)

end Deed

/-- Deeds one after the other, and what occurs meanwhile. -/
inductive Unfolds (i : Nat) : World Radio RadioAction → List Deed → List Occurrence →
    World Radio RadioAction → Prop
  | nil {w} : Unfolds i w [] [] w
  | cons {w deed deeds os rest w'} : deed.Brings i w os →
      Occurs w.device w.mailbox (os ++ [.handsOn]) (deed.done i w).device (deed.done i w).mailbox →
      Unfolds i (deed.done i w) deeds rest w' →
      Unfolds i w (deed :: deeds) (os ++ .handsOn :: rest) w'

/-- **Deeds unfold** as the agenda and the script say. -/
theorem unfolds_duringAll (i : Nat) (deeds : List Deed) (w : World Radio RadioAction) :
    Unfolds i w deeds (Deed.duringAll i deeds w) (deeds.foldl (fun w deed => deed.done i w) w) := by
  induction deeds generalizing w with
  | nil => exact .nil
  | cons deed deeds ih =>
    exact .cons (deed.brings_during i w) (deed.occurs_during i w) (ih (deed.done i w))

section
variable {i : Nat} {w w' : World Radio RadioAction} {deed : Deed} {deeds : List Deed}
  {os rest before behind : List Occurrence} {waits : Bool}

theorem Unfolds.occurs (h : Unfolds i w deeds os w') :
    Occurs w.device w.mailbox os w'.device w'.mailbox := by
  induction h with
  | nil => exact .start
  | cons _ hoccurs _ ih =>
    rw [List.append_cons]
    exact hoccurs.trans ih

/-- What peripherals do is handed on at the end of it. -/
theorem prompt_of_outside (hos : ∀ o ∈ os, o.isOutside = true) (hrest : Prompt false rest) :
    Prompt waits (os ++ .handsOn :: rest) := by
  induction os generalizing waits with
  | nil => exact hrest
  | cons o os ih =>
    have hlater : ∀ waits, Prompt waits (os ++ .handsOn :: rest) := fun _ =>
      ih fun x hx => hos x (List.mem_cons_of_mem _ hx)
    cases o with
    | acts a => exact hlater true
    | handsOn => exact hlater false
    | opens _ _ | stops | takes | follows _ => cases hos _ List.mem_cons_self

theorem prompt_of_brings (hbrings : deed.Brings i w os) (hrest : Prompt false rest) :
    Prompt false (os ++ .handsOn :: rest) := by
  cases deed with
  | subscribe c =>
    obtain rfl := hbrings
    split
    · exact ⟨rfl, hrest⟩
    · exact hrest
  | disconnect =>
    obtain rfl := hbrings
    split
    · exact ⟨rfl, hrest⟩
    · exact ⟨rfl, hrest⟩
  | release | take =>
    obtain rfl := hbrings
    exact ⟨rfl, hrest⟩
  | write _ _ _ | read _ _ | readDescriptor _ _ _ | pause _ => exact prompt_of_outside hbrings hrest

theorem Unfolds.prompt (h : Unfolds i w deeds os w') : Prompt false os := by
  induction h with
  | nil => rfl
  | cons hbrings _ _ ih => exact prompt_of_brings hbrings ih

/-- The program goes on when all is handed on. -/
theorem Prompt.behind_opens {j : Nat} {c : Uuid} (h : Prompt waits (before ++ .opens j c :: behind)) :
    Prompt false behind := by
  induction before generalizing waits with
  | nil => exact h.2
  | cons o before ih =>
    cases o with
    | acts _ | handsOn => exact ih h
    | opens _ _ | stops | takes | follows _ => exact ih h.2

end

/-- **What a program's forwarders hand on.**  Whatever the program does with a peripheral, what
    happens meanwhile is what the agenda and the scripts say; and then each forwarder has handed on
    what its peripheral notified of its characteristic from the subscription on until the forwarders
    were taken away or the link went down, in order and unchanged; nothing else was handed on, and
    nothing behind a disconnect, even one that is refused, until there is a subscription again.  The
    mailbox has what was handed on. -/
theorem forwarded (i : Nat) (deeds : List Deed) (w : World Radio RadioAction)
    (hnone : w.device.forwarders = []) :
    Unfolds i w deeds (Deed.duringAll i deeds w) (deeds.foldl (fun w deed => deed.done i w) w) ∧
    ∀ os w', Unfolds i w deeds os w' →
      w'.mailbox = ((Desk.start w.mailbox).run os).mailbox ∧
      w'.device.forwarders = ((Desk.start w.mailbox).run os).held.map (·.2) ∧
      (∀ before j c behind, os = before ++ .opens j c :: behind →
        ((Desk.start w.mailbox).run os).received ((Desk.start w.mailbox).run before).opened =
          heard j c behind) ∧
      (∀ x ∈ ((Desk.start w.mailbox).run os).handed, x.1 < ((Desk.start w.mailbox).run os).opened) ∧
      ∀ before behind, os = before ++ .stops :: behind → (∀ j c, .opens j c ∉ behind) →
        ((Desk.start w.mailbox).run os).handed = ((Desk.start w.mailbox).run before).handed := by
  refine ⟨unfolds_duringAll i deeds w, fun os w' hunfolds => ?_⟩
  obtain ⟨hforwarders, hmailbox⟩ := desk_of_occurs hunfolds.occurs hnone
  refine ⟨hmailbox, hforwarders, ?_, ?_, ?_⟩
  · rintro before j c behind rfl
    exact Desk.received_eq_heard hunfolds.prompt.behind_opens
  · have hstart : (Desk.start w.mailbox).Numbered := ⟨by simp [Desk.start], by simp [Desk.start]⟩
    exact (hstart.run os).handed
  · rintro before behind rfl hno
    have hrun : (Desk.start w.mailbox).run (before ++ .stops :: behind) =
        (((Desk.start w.mailbox).run before).after .stops).run behind := by
      simp [Desk.run]
    rw [hrun]
    exact Desk.handed_of_no_opens rfl hno

/-- A peripheral that answers a write at once and for some time after it, once with another
    characteristic. -/
def talker : Peripheral := { Peripheral.absent with
  gatt := [⟨.fotaService, [⟨.control, [], []⟩, ⟨.status, [], []⟩]⟩]
  script := [⟨.control 1, 0, 1, [(0, .notify .control [7]), (0, .notify .status [3]),
    (2, .notify .status [4]), (8, .notify .status [5])], 0⟩]
  linked := true
  discovered := true }

/-- A subscription, a write that is answered, and a disconnect that is refused, before the last
    answer. -/
theorem forwarded_of_talker :
    let w : World Radio RadioAction :=
      .initial 9 (unused 1 [talker] [⟨.disconnect, none, .notConnected⟩])
    let deeds :=
      [Deed.subscribe .status, .write .control [1] .request, .pause 5, .disconnect, .pause 5]
    let os : List Occurrence := [.opens 0 .status, .handsOn, .acts ⟨0, .notify .control [7]⟩,
      .acts ⟨0, .notify .status [3]⟩, .handsOn, .handsOn, .acts ⟨0, .notify .status [4]⟩, .handsOn,
      .handsOn, .stops, .handsOn, .handsOn, .acts ⟨0, .notify .status [5]⟩, .handsOn, .handsOn]
    ∃ w', Unfolds 0 w deeds os w' ∧ w'.mailbox = ((Desk.start .empty).run os).mailbox ∧
      ((Desk.start .empty).run os).received 0 = [[3], [4]] := by
  intro w deeds os
  obtain ⟨hunfolds, hforwarded⟩ := forwarded 0 deeds w rfl
  have hos : Deed.duringAll 0 deeds w = os := by decide +kernel
  rw [hos] at hunfolds
  obtain ⟨hmailbox, -, hreceived, -⟩ := hforwarded os _ hunfolds
  exact ⟨_, hunfolds, hmailbox, hreceived [] 0 .status os.tail rfl⟩

end Radio

end AirUpdate
