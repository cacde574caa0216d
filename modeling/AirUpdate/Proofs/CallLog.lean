/-
  Air updates — what a program tells the radio.

  The radio writes every call down, and whether it refused it (`Radio.told`).
  `w.Tells new w'` says that a program has made the calls `new` on the way from
  one world to the other; a peripheral makes none by itself (`keeps_record`), and
  never changes its address.  So an operation that comes to its end has made the
  calls that it is made of (`tells_of_call`, `tells_of_revision`, `tells_of_write`
  and so on), and one that does not has at least made no others (`Only`).
-/
import AirUpdate.Proofs.Operations
import Mathlib.Data.List.Basic

namespace AirUpdate

/-- A call that the radio took. -/
abbrev Call.done (c : Call) : Call × Bool := (c, false)

/-- A call that the radio refused. -/
abbrev Call.refused (c : Call) : Call × Bool := (c, true)

namespace Radio

/-- The calls that were made, in order, and whether the radio refused them. -/
def told (r : Radio) : List (Call × Bool) := r.calls.map fun entry => (entry.call, entry.refused)

theorem told_cons (r : Radio) (entry : CallEntry) :
    { r with log := entry :: r.log }.told = r.told ++ [(entry.call, entry.refused)] := by
  simp [told, calls]

/-- What the radio was told between the two, at which no peripheral changed its address. -/
structure Since (r : Radio) (new : List (Call × Bool)) (r' : Radio) : Prop where
  told_eq : r'.told = r.told ++ new
  address_eq : ∀ i, (r'.peripheral i).address = (r.peripheral i).address

theorem Since.refl (r : Radio) : r.Since [] r := ⟨(List.append_nil _).symm, fun _ => rfl⟩

theorem Since.trans {r r' r'' : Radio} {new new' : List (Call × Bool)} (h : r.Since new r')
    (h' : r'.Since new' r'') : r.Since (new ++ new') r'' :=
  ⟨by rw [h'.told_eq, h.told_eq, List.append_assoc],
    fun i => (h'.address_eq i).trans (h.address_eq i)⟩

/-- What the radio was told in all says what it was told since. -/
theorem Since.eq_of_told_eq {r r' : Radio} {new new' : List (Call × Bool)} (h : r.Since new r')
    (htold : r'.told = r.told ++ new') : new = new' :=
  List.append_cancel_left (h.told_eq.symm.trans htold)

/-! ## What makes no calls -/

/-- The radio was told the same, and its peripherals have the same addresses. -/
def SameRecord (r r' : Radio) (_ : Mailbox) : Prop :=
  r'.told = r.told ∧ ∀ i, (r'.peripheral i).address = (r.peripheral i).address

theorem SameRecord.refl (r : Radio) (m : Mailbox) : SameRecord r r m := ⟨rfl, fun _ => rfl⟩

/-- Where the record stays the same, no calls were made. -/
theorem SameRecord.since {r r' : Radio} {m : Mailbox} (h : SameRecord r r' m) : r.Since [] r' :=
  ⟨by rw [h.1, List.append_nil], h.2⟩

theorem SameRecord.onPeripheral {r r' : Radio} {m : Mailbox} {f : Peripheral → Peripheral}
    (hf : ∀ p, (f p).address = p.address) (i : Nat) (h : SameRecord r r' m) :
    SameRecord r (r'.onPeripheral i f) m :=
  ⟨h.1, fun j => (address_onPeripheral hf i j r').trans (h.2 j)⟩

/-- What is noted with a peripheral is no call. -/
theorem since_onPeripheral {f : Peripheral → Peripheral} (hf : ∀ p, (f p).address = p.address)
    (i : Nat) (r : Radio) : r.Since [] (r.onPeripheral i f) :=
  ((SameRecord.refl r .empty).onPeripheral hf i).since

theorem SameRecord.drop {r r' : Radio} {m : Mailbox} (i : Nat) (h : SameRecord r r' m) :
    SameRecord r (r'.drop i) m := by
  have hsevered : SameRecord r (r'.onPeripheral i fun p => { p with linked := false }) m := by
    refine h.onPeripheral ?_ i
    exact fun _ => rfl
  exact hsevered

/-- **Peripherals make no calls** by themselves, and keep their addresses. -/
theorem keeps_record (r : Radio) : Peer.Keeps (A := RadioAction) (SameRecord r) where
  settle _ _ h := h
  perform a _ _ h := by
    simp only [Peer.perform, Radio.perform]
    split
    · exact h
    · exact h.drop a.peripheral
    · exact h
    · exact h

theorem survives_record (r : Radio) : Survives [] (SameRecord r) where
  alone := keeps_record r
  peripheral hf h := h.onPeripheral hf.address _
  forwarders h := h
  call hc := by cases hc

end Radio

namespace World

/-- The program has made these calls on the way from one world to the other. -/
abbrev Tells (w : World Radio RadioAction) (new : List (Call × Bool))
    (w' : World Radio RadioAction) : Prop :=
  w.device.Since new w'.device

theorem tells_nil {w w' : World Radio RadioAction} (h : w'.Has (Radio.SameRecord w.device)) :
    w.Tells [] w' := h.since

variable {w w' : World Radio RadioAction} {milliseconds : Nat} {e : Halt}

theorem sameRecord (w : World Radio RadioAction) : w.Has (Radio.SameRecord w.device) :=
  ⟨rfl, fun _ => rfl⟩

theorem tells_of_sleep (h : sleep milliseconds w = .ok () w') : w.Tells [] w' :=
  tells_nil ((keeps_sleep (Radio.keeps_record w.device) milliseconds).ok w.sameRecord h)

theorem tells_of_sleep_error (h : sleep milliseconds w = .error e w') : w.Tells [] w' :=
  tells_nil ((keeps_sleep (Radio.keeps_record w.device) milliseconds).error w.sameRecord h)

theorem tells_of_blink (h : blink w = .ok () w') : w.Tells [] w' :=
  tells_nil ((keeps_blink (Radio.keeps_record w.device)).ok w.sameRecord h)

theorem tells_of_awaitUntil {ready : World Radio RadioAction → Bool}
    (h : awaitUntil ready w = .ok () w') : w.Tells [] w' :=
  tells_nil ((keeps_awaitUntil (Radio.keeps_record w.device) ready).ok w.sameRecord h)

theorem tells_of_receiveWithin {value : Option Bytes}
    (h : receiveWithin milliseconds w = .ok value w') : w.Tells [] w' :=
  tells_nil ((keeps_receiveWithin (Radio.keeps_record w.device) (fun _ _ h => h) _).ok
    w.sameRecord h)

end World

namespace Radio
variable {w w' : World Radio RadioAction} {c : Call} {e : Halt} {i : Nat} {r : Radio}
  {service characteristic descriptor : Uuid} {data : Bytes} {mode : WriteMode}

/-! ## Calls -/

theorem tells_of_call (h : call c w = .ok () w') : w.Tells [c.done] w' := by
  unfold call at h
  split at h
  · cases h
  · cases h
    exact ⟨told_cons _ _, fun _ => rfl⟩

/-- A call that fails was refused. -/
theorem tells_of_call_error (h : call c w = .error e w') :
    (∃ error, e = .failed error) ∧ w.Tells [c.refused] w' := by
  unfold call at h
  split at h
  · cases h
    exact ⟨⟨_, rfl⟩, told_cons _ _, fun _ => rfl⟩
  · cases h

/-- A call is made, whatever it comes to. -/
theorem exists_tells_call (c : Call) (w : World Radio RadioAction) :
    ∃ refused, w.Tells [(c, refused)] (endState (call c w)) := by
  cases h : call c w with
  | ok _ w' => exact ⟨false, tells_of_call h⟩
  | error e w' => exact ⟨true, (tells_of_call_error h).2⟩

theorem needLink_eq_ok (h : needLink i w = .ok () w') : w' = w := by
  unfold needLink at h
  simp only [World.seen_bind] at h
  split at h
  · cases h; rfl
  · cases h

theorem needLink_eq_error (h : needLink i w = .error e w') :
    (∃ error, e = .failed error) ∧ w' = w := by
  unfold needLink at h
  simp only [World.seen_bind] at h
  split at h
  · cases h
  · cases h; exact ⟨⟨_, rfl⟩, rfl⟩

/-- Since then, all calls were of these kinds. -/
def Only (kinds : List CallKind) (r r' : Radio) (_ : Mailbox) : Prop :=
  ∃ new, (∀ c ∈ new, c.1.kind ∈ kinds) ∧ r.Since new r'

theorem only_refl (kinds : List CallKind) (w : World Radio RadioAction) :
    w.Has (Only kinds w.device) :=
  ⟨[], nofun, .refl _⟩

section
variable {kinds : List CallKind}

theorem Only.same {d d' : Radio} {m m' : Mailbox} (h : Only kinds r d m)
    (hd : SameRecord d d' m') : Only kinds r d' m' := by
  obtain ⟨new, hnew, hsince⟩ := h
  exact ⟨new, hnew, by rw [hd.1, hsince.told_eq], fun i => (hd.2 i).trans (hsince.address_eq i)⟩

theorem keeps_only (kinds : List CallKind) (r : Radio) :
    Peer.Keeps (A := RadioAction) (Only kinds r) where
  settle d m h := h.same ((keeps_record d).settle d m (.refl d m))
  perform a d m h := h.same ((keeps_record d).perform a d m (.refl d m))

theorem keeps_only_call (hc : c.kind ∈ kinds) : World.ActKeeps (Only kinds r) (call c) := by
  rintro w ⟨new, hnew, hsince⟩
  obtain ⟨refused, htells⟩ := exists_tells_call c w
  refine ⟨new ++ [(c, refused)], fun c' hc' => ?_, hsince.trans htells⟩
  rcases List.mem_append.1 hc' with hc' | hc'
  · exact hnew c' hc'
  · rw [List.mem_singleton.1 hc']
    exact hc

/-- **Operations make only the calls that they are made of.** -/
theorem survives_only (kinds : List CallKind) (r : Radio) : Survives kinds (Only kinds r) where
  alone := keeps_only kinds r
  peripheral {_ _ d m} hf h := h.same ((SameRecord.refl d m).onPeripheral hf.address _)
  forwarders {_ d m} h := h.same (SameRecord.refl d m)
  call hc := keeps_only_call hc

end

/-! ## Reading -/

theorem tells_of_read {value : Bytes} (h : read i service characteristic w = .ok value w') :
    w.Tells [(Call.read service characteristic).done] w' := by
  unfold read at h
  simp only [World.seen_bind] at h
  generalize (w.device.peripheral i).known.find? service characteristic = found at h
  cases found with
  | none => cases h
  | some found =>
    obtain ⟨_, w₁, hcall, h⟩ := bind_eq_ok.1 h
    obtain ⟨_, w₂, hlink, h⟩ := bind_eq_ok.1 h
    obtain ⟨value', w₃, hvalue, h⟩ := bind_eq_ok.1 h
    obtain ⟨_, w₄, hgatt, h⟩ := bind_eq_ok.1 h
    cases needLink_eq_ok hlink
    cases hvalue
    cases hgatt
    cases h
    exact (tells_of_call hcall).trans (since_onPeripheral (by intro; rfl) i _)

/-- A descriptor is asked for only if the characteristic has it. -/
theorem tells_of_readDescriptor {value : Option Bytes}
    (h : readDescriptor i service characteristic descriptor w = .ok value w') :
    w.Tells [] w' ∨
      w.Tells [(Call.readDescriptor service characteristic descriptor).done] w' := by
  unfold readDescriptor at h
  simp only [World.seen_bind] at h
  generalize (w.device.peripheral i).known.find? service characteristic = found at h
  cases found with
  | none => cases h
  | some found =>
    simp only at h
    split at h
    · obtain ⟨_, w₁, hcall, h⟩ := bind_eq_ok.1 h
      obtain ⟨_, w₂, hlink, h⟩ := bind_eq_ok.1 h
      cases needLink_eq_ok hlink
      cases h
      exact Or.inr (tells_of_call hcall)
    · cases h
      exact Or.inl (.refl _)

/-- The calls of a revision that is read: of the update service, and of its description
    if there is one, or else of the device information service. -/
inductive Reading : List (Call × Bool) → Prop
  | plain : Reading [(Call.read .fotaService .firmwareRevision).done]
  | described : Reading [(Call.read .fotaService .firmwareRevision).done,
      (Call.readDescriptor .fotaService .firmwareRevision .userDescription).done]
  | information : Reading [(Call.read .deviceInformation .firmwareRevision).done]

theorem tells_of_revision {revision : Revision} (h : Revision.read (link i) w = .ok revision w') :
    ∃ new, Reading new ∧ w.Tells new w' := by
  unfold Revision.read at h
  simp only [World.seen_bind] at h
  split at h
  · obtain ⟨value, w₁, hread, h⟩ := bind_eq_ok.1 h
    obtain ⟨description, w₂, hdescribed, h⟩ := bind_eq_ok.1 h
    cases h
    rcases tells_of_readDescriptor hdescribed with htells | htells
    · exact ⟨_, .plain, (tells_of_read hread).trans htells⟩
    · exact ⟨_, .described, (tells_of_read hread).trans htells⟩
  · simp only [World.seen_bind] at h
    split at h
    · obtain ⟨value, w₁, hread, h⟩ := bind_eq_ok.1 h
      cases h
      exact ⟨_, .information, tells_of_read hread⟩
    · cases h

/-- Reading takes no time, and so is never cut. -/
theorem failed_of_read (h : read i service characteristic w = .error e w') :
    ∃ error, e = .failed error := by
  unfold read at h
  simp only [World.seen_bind] at h
  generalize (w.device.peripheral i).known.find? service characteristic = found at h
  cases found with
  | none => cases h; exact ⟨_, rfl⟩
  | some found =>
    rcases bind_eq_error.1 h with hcall | ⟨_, w₁, -, h⟩
    · exact (tells_of_call_error hcall).1
    rcases bind_eq_error.1 h with hlink | ⟨_, w₂, -, h⟩
    · exact (needLink_eq_error hlink).1
    · cases h

theorem failed_of_readDescriptor
    (h : readDescriptor i service characteristic descriptor w = .error e w') :
    ∃ error, e = .failed error := by
  unfold readDescriptor at h
  simp only [World.seen_bind] at h
  generalize (w.device.peripheral i).known.find? service characteristic = found at h
  cases found with
  | none => cases h; exact ⟨_, rfl⟩
  | some found =>
    simp only at h
    split at h
    · rcases bind_eq_error.1 h with hcall | ⟨_, w₁, -, h⟩
      · exact (tells_of_call_error hcall).1
      rcases bind_eq_error.1 h with hlink | ⟨_, w₂, -, h⟩
      · exact (needLink_eq_error hlink).1
      · cases h
    · cases h

/-- **A revision is read, or that fails**: it is never cut. -/
theorem failed_of_revision (h : Revision.read (link i) w = .error e w') :
    ∃ error, e = .failed error := by
  unfold Revision.read at h
  simp only [World.seen_bind] at h
  split at h
  · rcases bind_eq_error.1 h with hread | ⟨value, w₁, -, h⟩
    · exact failed_of_read hread
    rcases bind_eq_error.1 h with hdescribed | ⟨description, w₂, -, h⟩
    · exact failed_of_readDescriptor hdescribed
    · cases h
  · simp only [World.seen_bind] at h
    split at h
    · rcases bind_eq_error.1 h with hread | ⟨value, w₁, -, h⟩
      · exact failed_of_read hread
      · cases h
    · cases h; exact ⟨_, rfl⟩

/-! ## Writing and subscribing -/

theorem tells_of_write (h : write i characteristic data mode w = .ok () w') :
    ∃ service, w.Tells [(Call.write service characteristic data mode).done] w' := by
  rw [write_eq] at h
  simp only [World.seen_bind] at h
  generalize (w.device.peripheral i).known.owner? characteristic = owner at h
  cases owner with
  | none => cases h
  | some service =>
    obtain ⟨_, w₁, hcall, h⟩ := bind_eq_ok.1 h
    have hrest := World.tells_nil ((survives_record _).keeps_carryOut.ok w₁.sameRecord h)
    exact ⟨service, (tells_of_call hcall).trans hrest⟩

/-- A write that is cut has made its call. -/
theorem tells_of_write_cut (h : write i characteristic data mode w = .error .cut w') :
    ∃ service, w.Tells [(Call.write service characteristic data mode).done] w' := by
  rw [write_eq] at h
  simp only [World.seen_bind] at h
  generalize (w.device.peripheral i).known.owner? characteristic = owner at h
  cases owner with
  | none => cases h
  | some service =>
    rcases bind_eq_error.1 h with hcall | ⟨_, w₁, hcall, h⟩
    · obtain ⟨⟨error, herror⟩, -⟩ := tells_of_call_error hcall
      cases herror
    · have hrest := World.tells_nil ((survives_record _).keeps_carryOut.error w₁.sameRecord h)
      exact ⟨service, (tells_of_call hcall).trans hrest⟩

theorem tells_of_subscribe (h : subscribe i characteristic w = .ok () w') :
    ∃ service, w.Tells [(Call.notifications (w.device.peripheral i).address).done,
      (Call.subscribe service characteristic).done] w' := by
  unfold subscribe at h
  simp only [World.seen_bind] at h
  generalize (w.device.peripheral i).known.owner? characteristic = owner at h
  cases owner with
  | none => cases h
  | some service =>
    obtain ⟨address, _, haddress, h⟩ := bind_eq_ok.1 h
    cases haddress
    obtain ⟨_, w₁, hopened, h⟩ := bind_eq_ok.1 h
    obtain ⟨_, w₂, hsubscribed, h⟩ := bind_eq_ok.1 h
    obtain ⟨_, w₃, hlink, h⟩ := bind_eq_ok.1 h
    cases needLink_eq_ok hlink
    have hafter : w₂.Tells [] w' := by
      cases h
      exact World.tells_nil w₂.sameRecord
    exact ⟨service, ((tells_of_call hopened).trans (tells_of_call hsubscribed)).trans hafter⟩

/-! ## Following and letting go -/

/-- Following opens a watch of the peripheral that is not over. -/
theorem follow_eq_ok (h : follow i w = .ok () w') :
    w.Tells [Call.events.done] w' ∧
      w'.device.watch = some ⟨(w.device.peripheral i).address, false⟩ := by
  obtain ⟨address, _, haddress, h⟩ := bind_eq_ok.1 h
  cases haddress
  obtain ⟨_, w₁, hcall, h⟩ := bind_eq_ok.1 h
  have hafter : w₁.Tells [] w' := by
    cases h
    exact World.tells_nil w₁.sameRecord
  refine ⟨(tells_of_call hcall).trans hafter, ?_⟩
  cases h
  rfl

theorem keeps_follow {kinds : List CallKind} (hfollow : .events ∈ kinds) :
    World.ActKeeps (Only kinds r) (follow i) := by
  refine World.keeps_bind (World.keeps_seen _) fun address => ?_
  refine World.keeps_bind (keeps_only_call hfollow) fun _ => ?_
  exact World.keeps_onDevice fun d m h => h.same (SameRecord.refl d m)

/-- **Letting go asks for one disconnect** and goes on, whatever the radio says. -/
theorem letGo_eq (i : Nat) (w : World Radio RadioAction) :
    ∃ refused w', letGo i w = .ok () w' ∧
      w.Tells [(.disconnect (w.device.peripheral i).address, refused)] w' := by
  have hstopped : w.Tells [] { w with device := w.device.stopForwarding } :=
    World.tells_nil w.sameRecord
  cases hcall : call (.disconnect (w.device.peripheral i).address)
      { w with device := w.device.stopForwarding } with
  | ok _ w₁ =>
    have hgone : disconnect i w = .ok () { w₁ with device := w₁.device.drop i } :=
      bind_eq_ok.2 ⟨(), _, rfl, bind_eq_ok.2 ⟨_, _, rfl, bind_eq_ok.2 ⟨(), w₁, hcall, rfl⟩⟩⟩
    have hdropped : w₁.Tells [] { w₁ with device := w₁.device.drop i } :=
      World.tells_nil (SameRecord.drop i w₁.sameRecord)
    refine ⟨false, _, ?_, (hstopped.trans (tells_of_call hcall)).trans hdropped⟩
    unfold letGo
    exact bind_eq_ok.2 ⟨_, _, World.caught_of_ok hgone, rfl⟩
  | error e w₁ =>
    obtain ⟨⟨error, rfl⟩, htells⟩ := tells_of_call_error hcall
    have hstays : disconnect i w = .error (.failed error) w₁ :=
      bind_eq_error.2 (Or.inr ⟨(), _, rfl, bind_eq_error.2 (Or.inr ⟨_, _, rfl,
        bind_eq_error.2 (Or.inl hcall)⟩)⟩)
    refine ⟨true, w₁, ?_, hstopped.trans htells⟩
    unfold letGo
    exact bind_eq_ok.2 ⟨_, _, World.caught_of_failed hstays, rfl⟩

end Radio

end AirUpdate
