/-
  Air updates — what happens at a radio while the program waits or writes.

  A wait brings about what is due on the agenda before its end (`occurs_of_sleep`).
  A write first asks the radio, may hang then, and is taken by the peripheral at
  its end (`write_stages`).  So what happens within it is what is due while it
  hangs, and then what the script of the peripheral does at once (`duringWrite`,
  `occurs_of_write`).
-/
import AirUpdate.Proofs.Occurrences

namespace AirUpdate

namespace Radio

/-- What happens while the program waits. -/
def during (milliseconds : Nat) (w : World Radio RadioAction) : List Occurrence :=
  (w.duringSleep milliseconds).map ofHappening

@[simp] theorem during_device (milliseconds : Nat) (w : World Radio RadioAction) (d : Radio) :
    during milliseconds { w with device := d } = during milliseconds w :=
  rfl

variable {r q : Radio} {m n : Mailbox} {os : List Occurrence} {i : Nat} {characteristic : Uuid}
  {data : Bytes} {mode : WriteMode} {e : Halt} {w w' : World Radio RadioAction}

theorem isOutside_ofHappening (h : Happening RadioAction) : (ofHappening h).isOutside = true := by
  cases h <;> rfl

theorem isOutside_during {milliseconds : Nat} :
    ∀ o ∈ during milliseconds w, o.isOutside = true := by
  rintro o ho
  obtain ⟨h, -, rfl⟩ := List.mem_map.1 ho
  exact isOutside_ofHappening h

/-- **A wait** brings about what is due before its end or the limit. -/
theorem occurs_of_sleep (milliseconds : Nat) (h : Occurs r m os w.device w.mailbox) :
    Occurs r m (os ++ during milliseconds w) (endState (World.sleep milliseconds w)).device
      (endState (World.sleep milliseconds w)).mailbox := by
  have hside := World.side_sleep milliseconds w
  have hhappened := h.happenings (w.duringSleep milliseconds)
  rw [← World.side, ← hside] at hhappened
  exact hhappened

/-! ## The stages of a write -/

/-- Asks the radio for a write. -/
def ask (i : Nat) (characteristic : Uuid) (data : Bytes) (mode : WriteMode) : Use Unit := do
  match ← World.seen fun r : Radio => (r.peripheral i).known.owner? characteristic with
  | none => lacks characteristic
  | some service => do
    call (.write service characteristic data mode)
    needLink i

/-- The write hangs for a while, if the peripheral lets it. -/
def hang (i : Nat) (characteristic : Uuid) (data : Bytes) : Use Unit := do
  let found ← World.seen fun r : Radio => (r.peripheral i).stalls.onWrite characteristic data
  World.onDevice (onPeripheral i fun p => { p with stalls := found.2 })
  if found.1 then World.sleep stallTime else pure ()

theorem write_stages : write i characteristic data mode = (do
    ask i characteristic data mode
    hang i characteristic data
    complete i characteristic data) := by
  rw [write_eq]
  unfold ask carryOut hang
  rw [bind_assoc]
  refine congrArg _ (funext fun owner => ?_)
  cases owner with
  | none => rfl
  | some service =>
    simp only [bind_assoc]
    refine congrArg _ (funext fun _ => congrArg _ (funext fun _ => congrArg _ ?_))
    refine funext fun found => congrArg _ (funext fun _ => ?_)
    split
    · rfl
    · rw [pure_bind]

/-- The activity only writes calls down, and does not halt but by failing. -/
def Asks (act : Use Unit) : Prop :=
  ∀ w, (∃ log, endState (act w) = { w with device := { w.device with log := log } }) ∧
    ∀ e, halt? (act w) = some e → ∃ error, e = .failed error

theorem asks_call (c : Call) : Asks (call c) := by
  intro w
  unfold call
  cases w.device.fault? c with
  | none => exact ⟨⟨_, rfl⟩, nofun⟩
  | some f => exact ⟨⟨_, rfl⟩, fun e h => ⟨_, (Option.some.inj h).symm⟩⟩

theorem asks_needLink (i : Nat) : Asks (needLink i) := by
  intro w
  unfold needLink
  rw [World.seen_bind]
  split
  · exact ⟨⟨w.device.log, rfl⟩, nofun⟩
  · exact ⟨⟨w.device.log, rfl⟩, fun e h => ⟨_, (Option.some.inj h).symm⟩⟩

theorem Asks.bind {first second : Use Unit} (hfirst : Asks first) (hsecond : Asks second) :
    Asks (do first; second) := by
  intro w
  obtain ⟨⟨log, hlog⟩, hfailed⟩ := hfirst w
  cases hact : first w with
  | ok u w₁ =>
    rw [hact] at hlog
    obtain rfl : w₁ = { w with device := { w.device with log := log } } := hlog
    rw [bind_of_ok hact]
    exact hsecond _
  | error e w₁ =>
    rw [hact] at hlog hfailed
    rw [bind_eq_error.2 (Or.inl hact)]
    exact ⟨⟨log, hlog⟩, hfailed⟩

theorem asks_ask (i : Nat) (characteristic : Uuid) (data : Bytes) (mode : WriteMode) :
    Asks (ask i characteristic data mode) := by
  intro w
  unfold ask
  rw [World.seen_bind]
  cases (w.device.peripheral i).known.owner? characteristic with
  | none => exact ⟨⟨w.device.log, rfl⟩, fun e h => ⟨_, (Option.some.inj h).symm⟩⟩
  | some service => exact (asks_call _).bind (asks_needLink i) w

/-- To ask brings about nothing. -/
theorem occurs_of_ask (i : Nat) (characteristic : Uuid) (data : Bytes) (mode : WriteMode)
    (w : World Radio RadioAction) :
    Occurs w.device w.mailbox [] (endState (ask i characteristic data mode w)).device
      (endState (ask i characteristic data mode w)).mailbox := by
  obtain ⟨⟨log, hlog⟩, -⟩ := asks_ask i characteristic data mode w
  rw [hlog]
  exact Occurs.start.aside ⟨rfl, rfl, fun _ => rfl⟩

/-- The radio has noted what a write to a peripheral used up. -/
def noted (i : Nat) (characteristic : Uuid) (data : Bytes) (r : Radio) : Radio :=
  r.onPeripheral i fun p =>
    { p with stalls := ((r.peripheral i).stalls.onWrite characteristic data).2 }

theorem alike_noted (r : Radio) : Alike r (r.noted i characteristic data) :=
  alike_onPeripheral (f := fun p =>
    { p with stalls := ((r.peripheral i).stalls.onWrite characteristic data).2 }) (fun _ => rfl) r i

theorem script_noted (r : Radio) :
    ((r.noted i characteristic data).peripheral i).script = (r.peripheral i).script :=
  onPeripheral_congr (·.script)
    (f := fun p =>
      { p with stalls := ((r.peripheral i).stalls.onWrite characteristic data).2 })
    (fun _ => rfl) i i r

theorem hang_eq (w : World Radio RadioAction) : hang i characteristic data w =
    (if ((w.device.peripheral i).stalls.onWrite characteristic data).1 then World.sleep stallTime
      else pure () : Use Unit) { w with device := w.device.noted i characteristic data } :=
  rfl

/-- A hanging write does not fail by itself. -/
theorem cut_of_hang (h : hang i characteristic data w = .error e w') : e = .cut := by
  rw [hang_eq] at h
  split at h
  · exact World.sleep_eq_error h
  · cases h

/-- What happens while a write hangs, if it does. -/
def hung (i : Nat) (characteristic : Uuid) (data : Bytes) (w : World Radio RadioAction) :
    List Occurrence :=
  if ((w.device.peripheral i).stalls.onWrite characteristic data).1 then during stallTime w else []

/-- What the radio has written down does not matter to that. -/
theorem hung_log (w : World Radio RadioAction) (log : List CallEntry) :
    hung i characteristic data { w with device := { w.device with log := log } } =
      hung i characteristic data w := by
  unfold hung
  rw [during_device]
  exact if_congr Iff.rfl rfl rfl

theorem occurs_of_hang (i : Nat) (characteristic : Uuid) (data : Bytes)
    (h : Occurs r m os w.device w.mailbox) :
    Occurs r m (os ++ hung i characteristic data w)
      (endState (hang i characteristic data w)).device
      (endState (hang i characteristic data w)).mailbox := by
  have hnoted : Occurs r m os (w.device.noted i characteristic data) w.mailbox :=
    h.aside (alike_noted w.device)
  rw [hang_eq]
  unfold hung
  split
  · have hslept := occurs_of_sleep (w := { w with device := w.device.noted i characteristic data })
      stallTime hnoted
    rw [during_device] at hslept
    exact hslept
  · rw [List.append_nil]
    exact hnoted

/-- The peripheral has the same script to answer by. -/
theorem keeps_script (i : Nat) (script : Script PeripheralAction) :
    Peer.Keeps (A := RadioAction) fun (r : Radio) (_ : Mailbox) =>
      (r.peripheral i).script = script where
  settle _ _ h := h
  perform a r m h := by
    obtain ⟨j, action⟩ := a
    cases action with
    | drop => exact (onPeripheral_congr (·.script) (f := fun p => { p with linked := false })
        (fun _ => rfl) j i r).trans h
    | notify _ _ | announce _ | endEvents => exact h

theorem script_of_sleep (milliseconds i : Nat) (w : World Radio RadioAction) :
    ((endState (World.sleep milliseconds w)).device.peripheral i).script =
      (w.device.peripheral i).script :=
  World.keeps_sleep (keeps_script i _) milliseconds w rfl

theorem script_of_hang (i : Nat) (characteristic : Uuid) (data : Bytes)
    (w : World Radio RadioAction) :
    ((endState (hang i characteristic data w)).device.peripheral i).script =
      (w.device.peripheral i).script := by
  rw [hang_eq]
  split
  · rw [script_of_sleep]
    exact script_noted w.device
  · exact script_noted w.device

/-- **What happens within a write**: what is due while it hangs, and, if it comes to its end, what
    the script of the peripheral does at once. -/
def duringWrite (i : Nat) (characteristic : Uuid) (data : Bytes) (mode : WriteMode)
    (w : World Radio RadioAction) : List Occurrence :=
  match write i characteristic data mode w with
  | .ok _ _ =>
    hung i characteristic data w ++
      immediate i ((w.device.peripheral i).script.react characteristic data).1
  | .error .cut _ => hung i characteristic data w
  | .error _ _ => []

theorem isOutside_hung : ∀ o ∈ hung i characteristic data w, o.isOutside = true := by
  unfold hung
  split
  · exact isOutside_during
  · exact nofun

/-- **A write that comes to its end** is taken by the peripheral at its end, and what is done before
    that is nothing of the program's own. -/
theorem complete_of_write (h : write i characteristic data mode w = .ok () w') :
    ∃ w₁, Witnessed w.device w.mailbox (·.isOutside = true) w₁.device w₁.mailbox ∧
      complete i characteristic data w₁ = .ok () w' := by
  rw [write_stages] at h
  obtain ⟨_, w₁, hask, h⟩ := bind_eq_ok.1 h
  obtain ⟨_, w₂, hhang, h⟩ := bind_eq_ok.1 h
  have hasked := occurs_of_ask i characteristic data mode w
  rw [hask] at hasked
  have hhung := occurs_of_hang (w := w₁) i characteristic data hasked
  rw [hhang] at hhung
  exact ⟨w₂, ⟨_, hhung, isOutside_hung⟩, h⟩

/-- Nothing of the program's own happens within a write. -/
theorem isOutside_duringWrite :
    ∀ o ∈ duringWrite i characteristic data mode w, o.isOutside = true := by
  intro o ho
  unfold duringWrite at ho
  split at ho
  · rcases List.mem_append.1 ho with ho | ho
    · exact isOutside_hung o ho
    · obtain ⟨a, -, rfl⟩ := List.mem_map.1 ho
      rfl
  · exact isOutside_hung o ho
  · cases ho

theorem occurs_of_write (i : Nat) (characteristic : Uuid) (data : Bytes) (mode : WriteMode)
    (w : World Radio RadioAction) :
    Occurs w.device w.mailbox (duringWrite i characteristic data mode w)
      (endState (write i characteristic data mode w)).device
      (endState (write i characteristic data mode w)).mailbox := by
  obtain ⟨⟨log, hlog⟩, hfailed⟩ := asks_ask i characteristic data mode w
  have hasked := occurs_of_ask i characteristic data mode w
  rw [hlog] at hasked
  unfold duringWrite
  rw [write_stages]
  cases hask : ask i characteristic data mode w with
  | error e w₁ =>
    rw [hask] at hlog hfailed
    obtain rfl : w₁ = { w with device := { w.device with log := log } } := hlog
    obtain ⟨error, rfl⟩ := hfailed e rfl
    rw [bind_eq_error.2 (Or.inl hask)]
    exact hasked
  | ok u w₁ =>
    rw [hask] at hlog
    obtain rfl : w₁ = { w with device := { w.device with log := log } } := hlog
    rw [bind_of_ok hask]
    have hhung := occurs_of_hang (w := { w with device := { w.device with log := log } }) i
      characteristic data hasked
    rw [hung_log] at hhung
    have hscript := script_of_hang i characteristic data
      { w with device := { w.device with log := log } }
    cases hhang : hang i characteristic data { w with device := { w.device with log := log } } with
    | error e w₂ =>
      obtain rfl := cut_of_hang hhang
      rw [hhang] at hhung
      rw [bind_eq_error.2 (Or.inl hhang)]
      exact hhung
    | ok u w₂ =>
      rw [hhang] at hhung hscript
      rw [bind_of_ok hhang]
      have htaken := occurs_of_complete hhung
        (rfl : complete i characteristic data w₂ = .ok () _)
      rw [hscript] at htaken
      exact htaken

end Radio

end AirUpdate
