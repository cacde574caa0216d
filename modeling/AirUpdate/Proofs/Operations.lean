/-
  Air updates — what the operations on a peripheral keep.

  Reading, writing and subscribing make calls, look whether the link is up, note
  what a peripheral has used up, open forwarders, and may wait.  A property of the
  radio that bears the calls of certain kinds (`Bears`) is kept by reading and by
  asking for the services of a peripheral, whatever they come to; if it endures what
  the peripherals do as well (`Endures`), also by writing and by finding one.  One
  that survives a change of the forwarders too (`Survives`) is also kept by
  subscribing and by letting go, and so by a whole session over the radio
  (`Survives.keeping`).
-/
import AirUpdate.Proofs.Upkeep
import AirUpdate.Update

namespace AirUpdate

namespace World
variable {D A α β : Type} {P : D → Mailbox → Prop}

theorem seen_bind (f : D → α) (g : α → Act D A β) (w : World D A) :
    (seen f >>= g) w = g (f w.device) w := rfl

theorem caught_of_ok {act : Act D A α} {a : α} {w w' : World D A} (h : act w = .ok a w') :
    caught act w = .ok (.ok a) w' := by
  unfold caught
  rw [h]

theorem caught_of_failed {act : Act D A α} {error : UpdateError} {w w' : World D A}
    (h : act w = .error (.failed error) w') : caught act w = .ok (.error error) w' := by
  unfold caught
  rw [h]

/-- What was caught is the result or the failure of the activity. -/
theorem caught_eq_ok {act : Act D A α} {tried : Except UpdateError α} {w w' : World D A}
    (h : caught act w = .ok tried w') :
    (∃ a, tried = .ok a ∧ act w = .ok a w') ∨
      ∃ error, tried = .error error ∧ act w = .error (.failed error) w' := by
  cases hact : act w with
  | ok a w₁ =>
    rw [caught_of_ok hact] at h
    cases h
    exact Or.inl ⟨a, rfl, rfl⟩
  | error e w₁ =>
    cases e with
    | failed error =>
      rw [caught_of_failed hact] at h
      cases h
      exact Or.inr ⟨error, rfl, rfl⟩
    | cut | exhausted =>
      unfold caught at h
      rw [hact] at h
      cases h

/-- What is caught does not fail any more. -/
theorem caught_ne_failed {act : Act D A α} {error : UpdateError} {w w' : World D A} :
    caught act w ≠ .error (.failed error) w' := by
  intro h
  cases hact : act w with
  | ok a w₁ =>
    rw [caught_of_ok hact] at h
    cases h
  | error e w₁ =>
    cases e with
    | failed error =>
      rw [caught_of_failed hact] at h
      cases h
    | cut | exhausted =>
      unfold caught at h
      rw [hact] at h
      cases h

theorem keeps_seen (f : D → α) : ActKeeps P (seen f : Act D A α) := fun _ h => h

theorem keeps_fail (error : UpdateError) : ActKeeps P (fail error : Act D A α) := fun _ h => h

theorem keeps_onDevice {f : D → D} (hf : ∀ d m, P d m → P (f d) m) :
    ActKeeps P (onDevice f : Act D A Unit) :=
  fun w h => hf w.device w.mailbox h

theorem keeps_caught {act : Act D A α} (h : ActKeeps P act) : ActKeeps P (caught act) := by
  intro w hw
  cases hact : act w with
  | ok a w₁ =>
    rw [caught_of_ok hact]
    exact h.ok hw hact
  | error e w₁ =>
    have hw₁ := h.error hw hact
    cases e with
    | failed error =>
      rw [caught_of_failed hact]
      exact hw₁
    | cut | exhausted =>
      unfold caught
      rw [hact]
      exact hw₁

theorem keeps_ofExcept (tried : Except UpdateError α) :
    ActKeeps P (ofExcept tried : Act D A α) := by
  cases tried with
  | ok a => exact keeps_pure a
  | error error => exact keeps_fail error

end World

namespace Radio
variable {kinds : List CallKind} {P : Radio → Mailbox → Prop} {i : Nat}
  {service characteristic descriptor : Uuid} {data : Bytes} {mode : WriteMode}

/-- The change to a peripheral keeps its address, and brings up no link. -/
structure Slight (f : Peripheral → Peripheral) : Prop where
  address : ∀ p, (f p).address = p.address
  linked : ∀ p, (f p).linked = true → p.linked = true

/-- What a change to a peripheral keeps of it stays the same for all of them. -/
theorem onPeripheral_congr {α : Type} (g : Peripheral → α) {f : Peripheral → Peripheral}
    (hf : ∀ p, g (f p) = g p) (i j : Nat) (r : Radio) :
    g ((r.onPeripheral i f).peripheral j) = g (r.peripheral j) := by
  unfold onPeripheral peripheral
  rw [List.getD_eq_getElem?_getD, List.getD_eq_getElem?_getD, List.getElem?_modify]
  cases r.peripherals[j]? with
  | none => simp
  | some p =>
    simp only [Option.getD_some]
    split
    · exact hf p
    · rfl

theorem address_onPeripheral {f : Peripheral → Peripheral} (hf : ∀ p, (f p).address = p.address)
    (i j : Nat) (r : Radio) :
    ((r.onPeripheral i f).peripheral j).address = (r.peripheral j).address :=
  onPeripheral_congr (·.address) hf i j r

/-- What a program does with one of the peripherals does not break the property, as long as its calls
    are of these kinds and it neither writes nor waits nor touches the forwarders. -/
structure Bears (kinds : List CallKind) (P : Radio → Mailbox → Prop) : Prop where
  peripheral : ∀ {i f r m}, Slight f → P r m → P (r.onPeripheral i f) m
  call : ∀ {c}, c.kind ∈ kinds → World.ActKeeps P (call c)

/-- Nor does what the peripherals do, so that it may write and wait. -/
structure Endures (kinds : List CallKind) (P : Radio → Mailbox → Prop) : Prop
    extends Bears kinds P where
  alone : Peer.Keeps (A := RadioAction) P

/-- Nor does it matter which forwarders there are. -/
structure Survives (kinds : List CallKind) (P : Radio → Mailbox → Prop) : Prop
    extends Endures kinds P where
  forwarders : ∀ {fs r m}, P r m → P { r with forwarders := fs } m

theorem keeps_needLink (i : Nat) : World.ActKeeps P (needLink i) := by
  refine World.keeps_bind (World.keeps_seen _) fun linked => ?_
  split
  · exact World.keeps_pure ()
  · exact World.keeps_fail _

/-- What a write does once the radio has taken the call. -/
def carryOut (i : Nat) (characteristic : Uuid) (data : Bytes) : Use Unit := do
  needLink i
  let found ← World.seen fun r : Radio => (r.peripheral i).stalls.onWrite characteristic data
  World.onDevice (onPeripheral i fun p => { p with stalls := found.2 })
  if found.1 then World.sleep stallTime else pure ()
  complete i characteristic data

theorem write_eq : write i characteristic data mode = (do
    match ← World.seen fun r : Radio => (r.peripheral i).known.owner? characteristic with
    | none => lacks characteristic
    | some service => do
      call (.write service characteristic data mode)
      carryOut i characteristic data) := by
  unfold write carryOut
  refine congrArg _ (funext fun owner => ?_)
  cases owner with
  | none => rfl
  | some service =>
    refine congrArg _ (funext fun _ => congrArg _ (funext fun _ => congrArg _ ?_))
    refine funext fun found => congrArg _ (funext fun _ => ?_)
    split
    · rfl

namespace Bears
variable (h : Bears kinds P)
include h

theorem keeps_read (hread : .read ∈ kinds) :
    World.ActKeeps P (read i service characteristic) := by
  refine World.keeps_bind (World.keeps_seen _) fun found => ?_
  cases found with
  | none => exact World.keeps_fail _
  | some found =>
    refine World.keeps_bind (h.call hread) fun _ => World.keeps_bind (keeps_needLink i) fun _ => ?_
    refine World.keeps_bind (World.keeps_seen _) fun value => ?_
    refine World.keeps_bind (World.keeps_onDevice fun r m hr => h.peripheral ?_ hr) fun _ => ?_
    · exact ⟨fun _ => rfl, fun _ h => h⟩
    · exact World.keeps_pure _

theorem keeps_readDescriptor (hread : .readDescriptor ∈ kinds) :
    World.ActKeeps P (readDescriptor i service characteristic descriptor) := by
  refine World.keeps_bind (World.keeps_seen _) fun found => ?_
  cases found with
  | none => exact World.keeps_fail _
  | some found =>
    simp only
    split
    · refine World.keeps_bind (h.call hread) fun _ => ?_
      exact World.keeps_bind (keeps_needLink i) fun _ => World.keeps_seen _
    · exact World.keeps_pure _

theorem keeps_revision (hread : .read ∈ kinds) (hdescribe : .readDescriptor ∈ kinds) :
    World.ActKeeps P (Revision.read (link i)) := by
  refine World.keeps_bind (World.keeps_seen _) fun has => ?_
  split
  · refine World.keeps_bind (h.keeps_read hread) fun value => ?_
    exact World.keeps_bind (h.keeps_readDescriptor hdescribe) fun _ => World.keeps_pure _
  · refine World.keeps_bind (World.keeps_seen _) fun has => ?_
    split
    · exact World.keeps_bind (h.keeps_read hread) fun _ => World.keeps_pure _
    · exact World.keeps_fail _

theorem keeps_firstMeant (target : String) (hlook : .properties ∈ kinds) (inSight : List Nat) :
    World.ActKeeps P (Discovery.firstMeant target inSight) := by
  induction inSight with
  | nil => exact World.keeps_pure none
  | cons i rest ih =>
    have hadvertised : World.ActKeeps P (advertisementOf i) :=
      World.keeps_bind (World.keeps_seen _) fun address =>
        World.keeps_bind (h.call hlook) fun _ => World.keeps_seen _
    refine World.keeps_bind hadvertised fun advertisement => ?_
    refine World.keeps_bind (World.keeps_seen _) fun address => ?_
    split
    · exact World.keeps_pure (some i)
    · exact ih

theorem keeps_learnServices (hlearn : .discoverServices ∈ kinds) :
    World.ActKeeps P (Discovery.learnServices i) := by
  refine World.keeps_bind (World.keeps_seen _) fun address => ?_
  refine World.keeps_bind (h.call hlearn) fun _ => World.keeps_bind (keeps_needLink i) fun _ => ?_
  refine World.keeps_onDevice fun r m hr => h.peripheral ?_ hr
  exact ⟨fun _ => rfl, fun _ h => h⟩

end Bears

namespace Endures
variable (h : Endures kinds P)
include h

theorem keeps_complete : World.ActKeeps P (complete i characteristic data) := by
  intro w hw
  refine World.has_react h.alone _ (h.peripheral ?_ hw)
  exact ⟨fun _ => rfl, fun _ h => h⟩

theorem keeps_carryOut : World.ActKeeps P (carryOut i characteristic data) := by
  refine World.keeps_bind (keeps_needLink i) fun _ => ?_
  refine World.keeps_bind (World.keeps_seen _) fun found => ?_
  refine World.keeps_bind (World.keeps_onDevice fun r m hr => h.peripheral ?_ hr) fun _ => ?_
  · exact ⟨fun _ => rfl, fun _ h => h⟩
  · split
    · exact World.keeps_bind (World.keeps_sleep h.alone _) fun _ => h.keeps_complete
    · exact World.keeps_bind (World.keeps_pure ()) fun _ => h.keeps_complete

theorem keeps_write (hwrite : .write ∈ kinds) :
    World.ActKeeps P (write i characteristic data mode) := by
  rw [write_eq]
  refine World.keeps_bind (World.keeps_seen _) fun owner => ?_
  cases owner with
  | none => exact World.keeps_fail _
  | some service => exact World.keeps_bind (h.call hwrite) fun _ => h.keeps_carryOut

/-! ## Finding a peripheral -/

theorem keeps_look (milliseconds : Nat) (hstart : .startScan ∈ kinds)
    (hlist : .peripherals ∈ kinds) : World.ActKeeps P (look milliseconds) := by
  refine World.keeps_bind (h.call hstart) fun _ => ?_
  refine World.keeps_bind (World.keeps_sleep h.alone _) fun _ => ?_
  refine World.keeps_bind (World.keeps_seen _) fun earlier => ?_
  exact World.keeps_bind (h.call hlist) fun _ => World.keeps_seen _

theorem keeps_find (target : String) (milliseconds : Nat)
    (hkinds : [.startScan, .peripherals, .properties, .stopScan] ⊆ kinds) :
    World.ActKeeps P (Discovery.find target milliseconds) := by
  have hlook := h.keeps_look milliseconds (hkinds (by decide)) (hkinds (by decide))
  refine World.keeps_bind hlook fun inSight => ?_
  refine World.keeps_bind (h.keeps_firstMeant _ (hkinds (by decide)) _) fun found => ?_
  refine World.keeps_bind (h.call (hkinds (by decide))) fun _ => ?_
  cases found with
  | none => exact World.keeps_fail _
  | some i => exact World.keeps_pure i

end Endures

namespace Survives
variable (h : Survives kinds P)
include h

theorem keeps_subscribe (hopen : .notifications ∈ kinds) (hsubscribe : .subscribe ∈ kinds) :
    World.ActKeeps P (subscribe i characteristic) := by
  refine World.keeps_bind (World.keeps_seen _) fun owner => ?_
  cases owner with
  | none => exact World.keeps_fail _
  | some service =>
    refine World.keeps_bind (World.keeps_seen _) fun address => ?_
    refine World.keeps_bind (h.call hopen) fun _ => World.keeps_bind (h.call hsubscribe) fun _ => ?_
    refine World.keeps_bind (keeps_needLink i) fun _ => ?_
    exact World.keeps_onDevice fun _ _ hr => h.forwarders hr

theorem keeps_letGo (hdisconnect : .disconnect ∈ kinds) : World.ActKeeps P (letGo i) := by
  refine World.keeps_bind (World.keeps_caught ?_) fun _ => World.keeps_pure ()
  refine World.keeps_bind (World.keeps_onDevice fun _ _ hr => h.forwarders hr) fun _ => ?_
  refine World.keeps_bind (World.keeps_seen _) fun address => ?_
  refine World.keeps_bind (h.call hdisconnect) fun _ => World.keeps_onDevice fun r m hr => ?_
  -- the link goes down just as if the peripheral took it down
  exact h.alone.perform ⟨i, .drop⟩ r m hr

end Survives

theorem Survives.mono {kinds' : List CallKind} (h : Survives kinds' P) (hkinds : kinds ⊆ kinds') :
    Survives kinds P :=
  ⟨⟨⟨h.peripheral, fun hc => h.call (hkinds hc)⟩, h.alone⟩, h.forwarders⟩

/-- The kinds of calls that a session makes. -/
def sessionKinds : List CallKind := [.notifications, .subscribe, .write]

/-- **A session over the radio keeps what survives it.** -/
theorem Survives.keeping (h : Survives sessionKinds P) (hempty : ∀ r m, P r m → P r .empty) :
    Session.Keeping (link i) P where
  alone := h.alone
  empty := hempty
  write _ _ _ := h.keeps_write (by decide)
  subscribe _ := h.keeps_subscribe (by decide) (by decide)

end Radio

end AirUpdate
