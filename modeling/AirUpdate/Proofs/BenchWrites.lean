/-
  Air updates — writes to a bench device.

  By itself a bench device only notifies (`Bench.keeps_self`).  A write that it
  lets pass hangs first, if it is one of those that do (`Bench.hang_of_device`); if
  it comes to its end, it is written down at the moment of that
  (`Bench.write_eq_ok`), and if it is cut, it hung (`Bench.write_eq_cut`).
-/
import AirUpdate.Proofs.Calm

namespace AirUpdate

namespace Bench
variable {characteristic : Uuid} {data : Bytes} {mode : WriteMode} {w w' : World Bench Bytes}

/-- By itself the device only notifies, and stays as it is. -/
theorem keeps_self (d : Bench) : Peer.Keeps (A := Bytes) (fun d' _ => d' = d) where
  settle _ _ h := h
  perform a d' m h := by
    simp only [Peer.perform]
    split
    · exact h
    · exact h

theorem device_of_sleep {milliseconds : Nat} (h : World.sleep milliseconds w = .ok () w') :
    w'.device = w.device :=
  (World.keeps_sleep (keeps_self w.device) milliseconds).ok rfl h

theorem device_of_sleep_error {milliseconds : Nat} {e : Halt}
    (h : World.sleep milliseconds w = .error e w') : w'.device = w.device :=
  (World.keeps_sleep (keeps_self w.device) milliseconds).error rfl h

theorem device_of_blink (h : World.blink w = .ok () w') : w'.device = w.device :=
  (World.keeps_blink (keeps_self w.device)).ok rfl h

/-- The device knows of a write that hangs. -/
def onWrite (characteristic : Uuid) (data : Bytes) (d : Bench) : Bench :=
  { d with stalls := (d.stalls.onWrite characteristic data).2 }

/-- Whether the device lets the write hang. -/
def hangs (characteristic : Uuid) (data : Bytes) (d : Bench) : Bool :=
  (d.stalls.onWrite characteristic data).1

theorem hang_of_device : hang characteristic data w =
    (if w.device.hangs characteristic data then World.sleep stallTime else pure ())
      { w with device := w.device.onWrite characteristic data } :=
  hang_eq rfl

theorem allow_eq_ok {operation : BenchOperation} (h : allow operation w = .ok () w') : w = w' := by
  unfold allow at h
  split at h
  · cases h
  · cases h; rfl

/-- To permit a write, or to refuse it, changes nothing. -/
theorem endState_permit (characteristic : Uuid) (data : Bytes) (w : World Bench Bytes) :
    endState (permit characteristic data w) = w := by
  unfold permit
  generalize operation? characteristic data = found
  cases found with
  | none => rfl
  | some operation =>
    simp only [allow]
    split <;> rfl

theorem permit_eq_ok (h : permit characteristic data w = .ok () w') : w = w' := by
  have hsame := endState_permit characteristic data w
  rw [h] at hsame
  exact hsame.symm

theorem permit_ne_cut : permit characteristic data w ≠ .error .cut w' := by
  intro h
  unfold permit at h
  generalize operation? characteristic data = found at h
  cases found with
  | none => cases h
  | some operation =>
    simp only [allow] at h
    split at h
    · cases h
    · cases h

theorem finish_eq_ok (h : finish characteristic data mode w = .ok () w') :
    w'.now = w.now ∧
      w'.device.log = ⟨w.now, characteristic, data, mode⟩ :: w.device.log ∧
      w'.device.stalls = w.device.stalls := by
  obtain ⟨broken, w₁, hseen, h⟩ := bind_eq_ok.1 h
  cases hseen
  split at h
  · cases h
  · cases h
    have hreacted : ∀ reactions (w : World Bench Bytes), (w.react reactions).device = w.device :=
      fun reactions w => World.has_react (keeps_self w.device) reactions rfl
    refine ⟨World.now_react _ _, ?_, ?_⟩
    · rw [hreacted]
    · rw [hreacted]

theorem finish_ne_cut : finish characteristic data mode w ≠ .error .cut w' := by
  intro h
  rcases bind_eq_error.1 h with h | ⟨_, _, hseen, h⟩
  · cases h
  · cases hseen
    split at h
    · cases h
    · cases h

/-- **A write that comes to its end** has hung first, if it was to, and is written down
    at the moment at which it ends. -/
theorem write_eq_ok (h : link.write characteristic data mode w = .ok () w') :
    ∃ w₁, (if w.device.hangs characteristic data then World.sleep stallTime else pure ())
        { w with device := w.device.onWrite characteristic data } = .ok () w₁ ∧
      w'.now = w₁.now ∧
      w'.device.log = ⟨w₁.now, characteristic, data, mode⟩ :: w₁.device.log ∧
      w'.device.stalls = w₁.device.stalls := by
  change write characteristic data mode w = _ at h
  rw [write_eq] at h
  obtain ⟨_, w₁, hpermit, h⟩ := bind_eq_ok.1 h
  obtain rfl := permit_eq_ok hpermit
  obtain ⟨_, w₁, hhang, h⟩ := bind_eq_ok.1 h
  rw [hang_of_device] at hhang
  exact ⟨w₁, hhang, finish_eq_ok h⟩

/-- A write that is cut is one that hangs. -/
theorem write_eq_cut (h : link.write characteristic data mode w = .error .cut w') :
    w.device.hangs characteristic data = true ∧
      World.sleep stallTime { w with device := w.device.onWrite characteristic data } =
        .error .cut w' := by
  change write characteristic data mode w = _ at h
  rw [write_eq] at h
  rcases bind_eq_error.1 h with hpermit | ⟨_, w₁, hpermit, h⟩
  · exact absurd hpermit permit_ne_cut
  obtain rfl := permit_eq_ok hpermit
  rcases bind_eq_error.1 h with hhang | ⟨_, w₁, -, hfinish⟩
  · rw [hang_of_device] at hhang
    split at hhang
    · next hhangs => exact ⟨hhangs, hhang⟩
    · cases hhang
  · exact absurd hfinish finish_ne_cut

end Bench

end AirUpdate
