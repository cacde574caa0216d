/-
  Air updates — what happens at a radio.

  While a program uses a radio, peripherals act, forwarders hand on what has come
  in, and the program sets forwarders up and takes them away, takes a notification
  out of the mailbox, or begins to follow the events.  These are the occurrences.
  They alone decide what the forwarders, the mailbox and the watch are
  (`Occurs`); everything else that an operation does leaves them alone (`Alike`).

  * Reading brings about nothing (`bears_occurs`).
  * Writing and waiting bring about nothing of the program's own, only what
    peripherals do and what is handed on (`endures_occurs`).
  * A subscription that succeeds sets one forwarder up, and one that fails none
    (`occurs_of_subscribe`).
  * A disconnect takes the forwarders away before all else, and also if the radio
    refuses it (`occurs_of_disconnect`).
-/
import AirUpdate.Proofs.Happenings
import AirUpdate.Proofs.Operations

namespace AirUpdate

namespace Radio
variable {r r' q : Radio} {m n : Mailbox}

inductive Occurrence where
  | acts (a : RadioAction)
  /-- the forwarders hand on what has come in -/
  | handsOn
  /-- a forwarder is set up -/
  | opens (peripheral : Nat) (characteristic : Uuid)
  /-- all forwarders are taken away -/
  | stops
  /-- a notification is taken, or a new mailbox is used -/
  | takes
  /-- the program follows the events from now on -/
  | follows (address : String)
  deriving DecidableEq, Repr

/-- The forwarders, the watch and the addresses are the same. -/
structure Alike (r r' : Radio) : Prop where
  forwarders : r'.forwarders = r.forwarders
  watch : r'.watch = r.watch
  address : ∀ i, (r'.peripheral i).address = (r.peripheral i).address

theorem Alike.refl (r : Radio) : Alike r r := ⟨rfl, rfl, fun _ => rfl⟩

theorem alike_onPeripheral {f : Peripheral → Peripheral} (hf : ∀ p, (f p).address = p.address)
    (r : Radio) (i : Nat) : Alike r (r.onPeripheral i f) :=
  ⟨rfl, rfl, fun j => address_onPeripheral hf i j r⟩

/-- A call is only written down. -/
theorem alike_of_call {c : Call} (w : World Radio RadioAction) :
    Alike w.device (endState (call c w)).device ∧ (endState (call c w)).mailbox = w.mailbox := by
  unfold call
  split <;> exact ⟨⟨rfl, rfl, fun _ => rfl⟩, rfl⟩

/-- The radio and the mailbox after what has happened. -/
def after (r : Radio) (m : Mailbox) : Occurrence → Radio × Mailbox
  | .acts a => (r.perform a, m)
  | .handsOn => r.settle m
  | .opens i c => ({ r with forwarders := r.forwarders ++ [⟨i, c, [], true⟩] }, m)
  | .stops => (r.stopForwarding, m)
  | .takes => (r, .empty)
  | .follows address => ({ r with watch := some ⟨address, false⟩ }, m)

/-- What happens at a device, as an occurrence. -/
def ofHappening : Happening RadioAction → Occurrence
  | .acts _ a => .acts a
  | .settles => .handsOn

/-- What has happened on the way from one radio and its mailbox to another, up to what leaves both
    alone. -/
inductive Occurs (r : Radio) (m : Mailbox) : List Occurrence → Radio → Mailbox → Prop
  | start : Occurs r m [] r m
  | next {os : List Occurrence} {q : Radio} {n : Mailbox} (o : Occurrence) :
      Occurs r m os q n → Occurs r m (os ++ [o]) (q.after n o).1 (q.after n o).2
  | aside {os : List Occurrence} {q q' : Radio} {n : Mailbox} :
      Occurs r m os q n → Alike q q' → Occurs r m os q' n

namespace Occurs
variable {os os' : List Occurrence}

theorem trans (h : Occurs r m os q n) {q' : Radio} {n' : Mailbox} (h' : Occurs q n os' q' n') :
    Occurs r m (os ++ os') q' n' := by
  induction h' with
  | start => simpa using h
  | next o _ ih =>
    rw [← List.append_assoc]
    exact ih.next o
  | aside _ halike ih => exact ih.aside halike

theorem single (o : Occurrence) (hq : q = (r.after m o).1) (hn : n = (r.after m o).2) :
    Occurs r m [o] q n := by
  subst hq hn
  exact Occurs.start.next o

theorem address_eq (h : Occurs r m os q n) (i : Nat) :
    (q.peripheral i).address = (r.peripheral i).address := by
  induction h with
  | start => rfl
  | aside _ halike ih => exact (halike.address i).trans ih
  | next o _ ih =>
    refine Eq.trans ?_ ih
    cases o with
    | acts a =>
      obtain ⟨j, action⟩ := a
      cases action with
      | drop =>
        exact address_onPeripheral (f := fun p => { p with linked := false }) (fun _ => rfl) j i _
      | notify _ _ | announce _ | endEvents => rfl
    | handsOn | opens _ _ | stops | takes | follows _ => rfl

theorem happenings (h : Occurs r m os q n) (hs : List (Happening RadioAction)) :
    Occurs r m (os ++ hs.map ofHappening) (hs.foldl Happening.after (q, n)).1
      (hs.foldl Happening.after (q, n)).2 := by
  induction hs generalizing os q n with
  | nil => simpa using h
  | cons x hs ih =>
    have hnext : Occurs r m (os ++ [ofHappening x]) (x.after (q, n)).1 (x.after (q, n)).2 := by
      cases x with
      | acts moment a => exact h.next (.acts a)
      | settles => exact h.next .handsOn
    simpa using ih hnext

end Occurs

/-! ## Calls, and what comes behind them -/

section
variable {os : List Occurrence} {o : Occurrence} {w w' : World Radio RadioAction} {i : Nat}
  {characteristic : Uuid} {e : Halt}

theorem keeps_call (c : Call) : World.ActKeeps (Occurs r m os) (call c) := by
  intro w h
  obtain ⟨halike, hmailbox⟩ := alike_of_call (c := c) w
  unfold World.Has
  rw [hmailbox]
  exact h.aside halike

/-- Reading brings about nothing. -/
theorem bears_occurs (kinds : List CallKind) : Bears kinds (Occurs r m os) where
  peripheral hslight h := h.aside (alike_onPeripheral hslight.address _ _)
  call _ := keeps_call _

/-- What is done to the radio once an activity has come to its end that brings about nothing. -/
theorem occurs_of_onDevice {act : Use Unit} {f : Radio → Radio}
    (hact : World.ActKeeps (Occurs r m os) act) (hw : Occurs r m os w.device w.mailbox)
    (hf : ∀ q n, (f q, n) = q.after n o) :
    (∀ w', (do act; World.onDevice f) w = .ok () w' →
      Occurs r m (os ++ [o]) w'.device w'.mailbox) ∧
    ∀ e w', (do act; World.onDevice f) w = .error e w' → Occurs r m os w'.device w'.mailbox := by
  constructor
  · intro w' h
    obtain ⟨u, w₁, hdone, h⟩ := bind_eq_ok.1 h
    cases h
    have hafter := (hact.ok hw hdone).next o
    rw [← hf] at hafter
    exact hafter
  · intro e w' h
    rcases bind_eq_error.1 h with h | ⟨u, w₁, -, h⟩
    · exact hact.error hw h
    · cases h

theorem subscribe_eq : subscribe i characteristic w =
    match (w.device.peripheral i).known.owner? characteristic with
    | none => lacks characteristic w
    | some service => (do
        call (.notifications (w.device.peripheral i).address)
        call (.subscribe service characteristic)
        needLink i
        World.onDevice fun r : Radio =>
          { r with forwarders := r.forwarders ++ [⟨i, characteristic, [], true⟩] } : Use Unit) w := by
  unfold subscribe
  rw [World.seen_bind]
  cases (w.device.peripheral i).known.owner? characteristic <;> rfl

theorem keeps_opening (i : Nat) (characteristic service : Uuid) (address : String) :
    World.ActKeeps (Occurs r m os) (do
      call (.notifications address)
      call (.subscribe service characteristic)
      needLink i : Use Unit) :=
  World.keeps_bind (keeps_call _) fun _ =>
    World.keeps_bind (keeps_call _) fun _ => keeps_needLink i

/-- **A subscription** sets a forwarder up, unless it fails. -/
theorem occurs_of_subscribe (i : Nat) (characteristic : Uuid) (w : World Radio RadioAction) :
    (∀ w', subscribe i characteristic w = .ok () w' →
      Occurs w.device w.mailbox [.opens i characteristic] w'.device w'.mailbox) ∧
    ∀ e w', subscribe i characteristic w = .error e w' →
      Occurs w.device w.mailbox [] w'.device w'.mailbox := by
  rw [subscribe_eq]
  cases (w.device.peripheral i).known.owner? characteristic with
  | none =>
    constructor
    · intro w' h
      cases h
    · intro e w' h
      cases h
      exact .start
  | some service =>
    have hbehind := occurs_of_onDevice (o := .opens i characteristic)
      (keeps_opening i characteristic service (w.device.peripheral i).address)
      (Occurs.start (r := w.device) (m := w.mailbox)) fun _ _ => rfl
    simpa only [bind_assoc, List.nil_append] using hbehind

/-- **A disconnect** takes the forwarders away before it asks for anything, and so also if the radio
    refuses it. -/
theorem occurs_of_disconnect :
    (∀ w', disconnect i w = .ok () w' →
      Occurs w.device w.mailbox [.stops, .acts ⟨i, .drop⟩] w'.device w'.mailbox) ∧
    ∀ e w', disconnect i w = .error e w' →
      Occurs w.device w.mailbox [.stops] w'.device w'.mailbox := by
  have hstopped : Occurs w.device w.mailbox [.stops] w.device.stopForwarding w.mailbox :=
    .single .stops rfl rfl
  exact occurs_of_onDevice (w := { w with device := w.device.stopForwarding })
    (o := .acts ⟨i, .drop⟩) (keeps_call (.disconnect (w.device.peripheral i).address)) hstopped
    fun _ _ => rfl

/-! ## A write -/

/-- What a peripheral does at once when it takes a write. -/
def immediate (i : Nat) (answers : List (Nat × PeripheralAction)) : List Occurrence :=
  (answers.filter (·.1 = 0)).map fun a => .acts ⟨i, a.2⟩

theorem occurs_of_react (answers : List (Nat × PeripheralAction))
    (h : Occurs r m os w.device w.mailbox) :
    Occurs r m (os ++ immediate i answers)
      (World.react (answers.map fun a => (a.1, ⟨i, a.2⟩)) w).device
      (World.react (answers.map fun a => (a.1, ⟨i, a.2⟩)) w).mailbox := by
  let reactions : List (Nat × RadioAction) := answers.map fun a => (a.1, ⟨i, a.2⟩)
  have honce : (w.atOnce reactions).map ofHappening = immediate i answers := by
    simp [reactions, World.atOnce, immediate, List.filter_map, ofHappening, Function.comp_def]
  have hhappened := h.happenings (w.atOnce reactions)
  rw [honce, ← World.side, ← World.side_react] at hhappened
  exact hhappened

/-- **What a peripheral does at once** when it takes a write happens within the write. -/
theorem occurs_of_complete {data : Bytes} (h : Occurs r m os w.device w.mailbox)
    (hdone : complete i characteristic data w = .ok () w') :
    Occurs r m
      (os ++ immediate i ((w.device.peripheral i).script.react characteristic data).1)
      w'.device w'.mailbox := by
  cases hdone
  refine occurs_of_react (w := { w with device := _ }) _ (h.aside ?_)
  exact alike_onPeripheral (f := fun p =>
    { p with script := ((w.device.peripheral i).script.react characteristic data).2 })
    (fun _ => rfl) _ i

end

/-- A property of what has happened, as one of the radio and the mailbox. -/
def Witnessed (r : Radio) (m : Mailbox) (P : Occurrence → Prop) (q : Radio) (n : Mailbox) : Prop :=
  ∃ os, Occurs r m os q n ∧ ∀ o ∈ os, P o

section
variable {P : Occurrence → Prop}

theorem Witnessed.start : Witnessed r m P r m := ⟨[], .start, by simp⟩

theorem Witnessed.next (h : Witnessed r m P q n) {o : Occurrence} (ho : P o) :
    Witnessed r m P (q.after n o).1 (q.after n o).2 := by
  obtain ⟨os, hoccurs, hP⟩ := h
  refine ⟨os ++ [o], hoccurs.next o, fun x hx => ?_⟩
  rcases List.mem_append.1 hx with hx | hx
  · exact hP x hx
  · rw [List.mem_singleton.1 hx]
    exact ho

theorem Witnessed.aside (h : Witnessed r m P q n) {q' : Radio} (halike : Alike q q') :
    Witnessed r m P q' n := by
  obtain ⟨os, hoccurs, hP⟩ := h
  exact ⟨os, hoccurs.aside halike, hP⟩

end

/-- What happens without the program. -/
def Occurrence.isOutside : Occurrence → Bool
  | .acts _ | .handsOn => true
  | .opens _ _ | .stops | .takes | .follows _ => false

/-- What peripherals do, and every operation that leaves the forwarders alone, brings about only what
    happens without the program. -/
theorem endures_occurs (kinds : List CallKind) (r : Radio) (m : Mailbox) {P : Occurrence → Prop}
    (hP : ∀ o : Occurrence, o.isOutside → P o) : Endures kinds (Witnessed r m P) where
  alone :=
    { settle := fun _ _ h => h.next (o := .handsOn) (hP _ rfl)
      perform := fun a _ _ h => h.next (o := .acts a) (hP _ rfl) }
  peripheral hslight := fun ⟨os, h, hos⟩ => ⟨os, (bears_occurs kinds).peripheral hslight h, hos⟩
  call hc w := fun ⟨os, h, hos⟩ => ⟨os, (bears_occurs kinds).call hc w h, hos⟩

/-- What happens in a session: it sets forwarders up, and uses a mailbox. -/
def Occurrence.isOfSession : Occurrence → Bool
  | .acts _ | .handsOn | .opens _ _ | .takes => true
  | .stops | .follows _ => false

theorem Occurrence.isOfSession_of_isOutside {o : Occurrence} (h : o.isOutside = true) :
    o.isOfSession = true := by
  cases o with
  | acts _ | handsOn => rfl
  | opens _ _ | stops | takes | follows _ => cases h

section
variable {P : Occurrence → Prop} {i : Nat}

theorem keeps_subscribe_witnessed {characteristic : Uuid}
    (hP : ∀ i c, P (.opens i c)) : World.ActKeeps (Witnessed r m P) (subscribe i characteristic) := by
  intro w h
  have hopened := occurs_of_subscribe i characteristic w
  obtain ⟨os, hoccurs, hos⟩ := h
  cases hact : subscribe i characteristic w with
  | ok u w' =>
    refine ⟨os ++ [.opens i characteristic], hoccurs.trans (hopened.1 w' hact), fun o ho => ?_⟩
    rcases List.mem_append.1 ho with ho | ho
    · exact hos o ho
    · rw [List.mem_singleton.1 ho]
      exact hP i characteristic
  | error e w' =>
    have hnothing := hoccurs.trans (hopened.2 e w' hact)
    rw [List.append_nil] at hnothing
    exact ⟨os, hnothing, hos⟩

/-- **A session** over the radio brings about no more than that. -/
theorem keeping_occurs (i : Nat) (r : Radio) (m : Mailbox) :
    Session.Keeping (link i) (Witnessed r m (·.isOfSession = true)) := by
  have hendures := endures_occurs sessionKinds r m (P := (·.isOfSession = true)) fun _ ho =>
    Occurrence.isOfSession_of_isOutside ho
  exact
    { alone := hendures.alone
      empty := fun q n h => h.next (o := .takes) rfl
      write := fun _ _ _ => hendures.keeps_write (by decide)
      subscribe := fun _ => keeps_subscribe_witnessed fun _ _ => rfl }

end

end Radio

end AirUpdate
