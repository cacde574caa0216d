/-
  Air updates — finding a device and connecting to it, call by call.

  To connect to a device is to ask for the link again and again until the radio
  takes the call, and then for the services (`tells_of_connect`).  Before that the
  device is looked for by a scan (`tells_of_connectDevice`).  Where connecting
  fails, either no connection came about (`Fruitless`), or the radio did not tell
  the services of the device right after it did
  (`tells_of_connectDevice_error`).
-/
import AirUpdate.Proofs.Scanning

namespace AirUpdate

/-- The connection attempts that fail, and the one that does not. -/
def attempts (address : String) (refusals : Nat) : List (Call × Bool) :=
  List.replicate refusals (Call.connect address).refused ++ [(Call.connect address).done]

/-- None of the calls brought a connection about, or was to end one. -/
def Fruitless (new : List (Call × Bool)) : Prop :=
  ∀ c ∈ new, c.1.kind ≠ .disconnect ∧ ∀ a, c ≠ (Call.connect a).done

/-- How connecting fails: without a connection, or at the services of a device that was
    connected just before. -/
inductive Unconnected : List (Call × Bool) → Prop
  | fruitless {new} : Fruitless new → Unconnected new
  | unlearned {pre a refused} : Fruitless pre →
      Unconnected (pre ++ [(Call.connect a).done, (.discoverServices a, refused)])

theorem Fruitless.append {xs ys : List (Call × Bool)} (hx : Fruitless xs) (hy : Fruitless ys) :
    Fruitless (xs ++ ys) := fun c hc => (List.mem_append.1 hc).elim (hx c) (hy c)

/-- The calls of a scan are fruitless. -/
theorem fruitless_of_kind {new : List (Call × Bool)}
    (h : ∀ c ∈ new, c.1.kind ∈ [.startScan, .peripherals, .properties, .stopScan]) :
    Fruitless new := by
  intro c hc
  have hkind := h c hc
  refine ⟨fun hdisconnect => ?_, ?_⟩
  · rw [hdisconnect] at hkind
    simp at hkind
  · rintro a rfl
    simp [Call.kind] at hkind

theorem fruitless_replicate (a : String) (n : Nat) :
    Fruitless (List.replicate n (Call.connect a).refused) := by
  intro c hc
  rw [List.eq_of_mem_replicate hc]
  simp [Call.kind]

theorem Unconnected.prepend {xs ys : List (Call × Bool)} (hx : Fruitless xs) (hy : Unconnected ys) :
    Unconnected (xs ++ ys) := by
  cases hy with
  | fruitless hy => exact .fruitless (hx.append hy)
  | unlearned hpre =>
    rw [← List.append_assoc]
    exact .unlearned (hx.append hpre)

namespace Discovery
variable {w w' : World Radio RadioAction} {e : Halt} {i : Nat}

/-! ## Connecting -/

/-- The attempt that is not refused brings the link up. -/
theorem bringUp_of_done {n : Nat}
    (h : Radio.call (.connect (w.device.peripheral i).address) w = .ok () w') :
    bringUp i (n + 1) w = .ok true
      { w' with device := w'.device.onPeripheral i fun p => { p with linked := true } } := by
  unfold bringUp Radio.addressOf
  simp only [World.seen_bind]
  rw [bind_of_ok (World.caught_of_ok h)]
  rfl

/-- After a refused attempt come the others. -/
theorem bringUp_of_refused {n : Nat}
    (h : Radio.call (.connect (w.device.peripheral i).address) w = .error e w') :
    bringUp i (n + 1) w = bringUp i n w' := by
  obtain ⟨⟨error, rfl⟩, -⟩ := Radio.tells_of_call_error h
  conv_lhs => unfold bringUp Radio.addressOf
  simp only [World.seen_bind]
  rw [bind_of_ok (World.caught_of_failed h)]

/-- The link is up after the first attempt that the radio does not refuse. -/
theorem tells_of_bringUp {n : Nat} {up : Bool} (h : bringUp i n w = .ok up w') :
    ∃ refusals, w.Tells (List.replicate refusals
        (Call.connect (w.device.peripheral i).address).refused ++
      if up then [(Call.connect (w.device.peripheral i).address).done] else []) w' := by
  induction n generalizing w with
  | zero =>
    cases h
    exact ⟨0, .refl _⟩
  | succ n ih =>
    cases hcall : Radio.call (.connect (w.device.peripheral i).address) w with
    | ok _ w₁ =>
      rw [bringUp_of_done hcall] at h
      cases h
      exact ⟨0, (Radio.tells_of_call hcall).trans (Radio.since_onPeripheral (by intro; rfl) i _)⟩
    | error e w₁ =>
      rw [bringUp_of_refused hcall] at h
      obtain ⟨-, hrefused⟩ := Radio.tells_of_call_error hcall
      obtain ⟨refusals, htells⟩ := ih h
      rw [hrefused.address_eq i] at htells
      exact ⟨refusals + 1, hrefused.trans htells⟩

/-- Bringing the link up never fails. -/
theorem bringUp_ne_error {n : Nat} : bringUp i n w ≠ .error e w' := by
  induction n generalizing w with
  | zero => exact nofun
  | succ n ih =>
    intro h
    cases hcall : Radio.call (.connect (w.device.peripheral i).address) w with
    | ok _ w₁ =>
      rw [bringUp_of_done hcall] at h
      cases h
    | error e w₁ =>
      rw [bringUp_of_refused hcall] at h
      exact ih h

theorem tells_of_learnServices (h : learnServices i w = .ok () w') :
    w.Tells [(Call.discoverServices (w.device.peripheral i).address).done] w' := by
  unfold learnServices Radio.addressOf at h
  simp only [World.seen_bind] at h
  obtain ⟨_, w₁, hcall, h⟩ := bind_eq_ok.1 h
  obtain ⟨_, w₂, hlink, h⟩ := bind_eq_ok.1 h
  cases Radio.needLink_eq_ok hlink
  cases h
  exact (Radio.tells_of_call hcall).trans (Radio.since_onPeripheral (by intro; rfl) i _)

theorem tells_of_learnServices_error (h : learnServices i w = .error e w') :
    (∃ error, e = .failed error) ∧
      ∃ refused, w.Tells [(.discoverServices (w.device.peripheral i).address, refused)] w' := by
  unfold learnServices Radio.addressOf at h
  simp only [World.seen_bind] at h
  rcases bind_eq_error.1 h with hcall | ⟨_, w₁, hcall, h⟩
  · obtain ⟨hfailed, htells⟩ := Radio.tells_of_call_error hcall
    exact ⟨hfailed, true, htells⟩
  rcases bind_eq_error.1 h with hlink | ⟨_, w₂, hlink, h⟩
  · obtain ⟨hfailed, rfl⟩ := Radio.needLink_eq_error hlink
    exact ⟨hfailed, false, Radio.tells_of_call hcall⟩
  · cases h

/-- **A device is connected** by the attempt that is not refused, and tells its services. -/
theorem tells_of_connect {n : Nat} (h : connect i n w = .ok () w') :
    ∃ refusals, w.Tells (attempts (w.device.peripheral i).address refusals ++
      [(Call.discoverServices (w.device.peripheral i).address).done]) w' := by
  obtain ⟨up, w₁, hup, h⟩ := bind_eq_ok.1 h
  obtain ⟨refusals, htells⟩ := tells_of_bringUp hup
  cases up with
  | false => cases h
  | true =>
    have hlearned := tells_of_learnServices h
    rw [htells.address_eq i] at hlearned
    exact ⟨refusals, htells.trans hlearned⟩

/-- Connecting to a device fails without a connection, or at its services. -/
theorem tells_of_connect_error {n : Nat} (h : connect i n w = .error e w') :
    (∃ error, e = .failed error) ∧ ∃ new, Unconnected new ∧ w.Tells new w' := by
  rcases bind_eq_error.1 h with hup | ⟨up, w₁, hup, h⟩
  · exact absurd hup bringUp_ne_error
  obtain ⟨refusals, htells⟩ := tells_of_bringUp hup
  cases up with
  | false =>
    cases h
    rw [if_neg Bool.false_ne_true, List.append_nil] at htells
    exact ⟨⟨_, rfl⟩, _, .fruitless (fruitless_replicate _ refusals), htells⟩
  | true =>
    obtain ⟨hfailed, refused, hlearned⟩ := tells_of_learnServices_error h
    rw [htells.address_eq i] at hlearned
    have hall := htells.trans hlearned
    rw [if_pos rfl, List.append_assoc] at hall
    exact ⟨hfailed, _, .unlearned (fruitless_replicate _ refusals), hall⟩

/-! ## Finding and connecting -/

/-- The calls of a device that is found and connected. -/
def connecting (addresses : List String) (address : String) (refusals : Nat) :
    List (Call × Bool) :=
  scanned addresses ++ Call.stopScan.done :: attempts address refusals ++
    [(Call.discoverServices address).done]

theorem looks_fruitless (addresses : List String) : Fruitless (scanned addresses) := by
  refine fruitless_of_kind fun c hc => ?_
  rcases List.mem_cons.1 hc with rfl | hc
  · simp [Call.kind]
  rcases List.mem_cons.1 hc with rfl | hc
  · simp [Call.kind]
  obtain ⟨a, rfl⟩ := mem_looked hc
  simp [Call.kind]

theorem Broken.fruitless {new : List (Call × Bool)} (h : Broken e new) : Fruitless new := by
  cases h with
  | unbegun => exact fruitless_of_kind (by simp [Call.kind])
  | cut => exact fruitless_of_kind (by simp [Call.kind])
  | blind => exact fruitless_of_kind (by simp [Call.kind])
  | blinded => exact (looks_fruitless _).append (fruitless_of_kind (by simp [Call.kind]))
  | stuck => exact (looks_fruitless _).append (fruitless_of_kind (by simp [Call.kind]))
  | concluded => exact (looks_fruitless _).append (fruitless_of_kind (by simp [Call.kind]))

theorem tells_of_find {target : String} {milliseconds : Nat}
    (h : find target milliseconds w = .ok i w') :
    ∃ addresses, w.Tells (scanned addresses ++ [Call.stopScan.done]) w' := by
  rw [find_eq] at h
  exact tells_of_scanning (looks_firstMeant target) h

theorem tells_of_find_error {target : String} {milliseconds : Nat}
    (h : find target milliseconds w = .error e w') : ∃ new, Broken e new ∧ w.Tells new w' := by
  rw [find_eq] at h
  exact tells_of_scanning_error (looks_firstMeant target) h

end Discovery

namespace Update
open Discovery
variable {w w' : World Radio RadioAction} {e : Halt} {i : Nat} {config : UpdateConfig}

/-- **A device is found and connected** by a scan that is ended, and then by an attempt that is
    not refused. -/
theorem tells_of_connectDevice (h : connectDevice config w = .ok i w') :
    ∃ addresses refusals,
      w.Tells (connecting addresses (w.device.peripheral i).address refusals) w' := by
  obtain ⟨j, w₁, hfound, h⟩ := bind_eq_ok.1 h
  obtain ⟨_, w₂, hconnected, h⟩ := bind_eq_ok.1 h
  cases h
  obtain ⟨addresses, hscanned⟩ := tells_of_find hfound
  obtain ⟨refusals, htells⟩ := tells_of_connect hconnected
  rw [hscanned.address_eq i] at htells
  have hall := hscanned.trans htells
  exact ⟨addresses, refusals, by simpa [connecting, List.append_assoc] using hall⟩

/-- Where that fails, no connection came about, or the device did not tell its services. -/
theorem tells_of_connectDevice_error (h : connectDevice config w = .error e w') :
    ∃ new, Unconnected new ∧ w.Tells new w' := by
  rcases bind_eq_error.1 h with hfound | ⟨j, w₁, hfound, h⟩
  · obtain ⟨new, hbroken, htells⟩ := tells_of_find_error hfound
    exact ⟨new, .fruitless hbroken.fruitless, htells⟩
  obtain ⟨addresses, hscanned⟩ := tells_of_find hfound
  have hfruitless : Fruitless (scanned addresses ++ [Call.stopScan.done]) :=
    (looks_fruitless addresses).append (fruitless_of_kind (by simp [Call.kind]))
  rcases bind_eq_error.1 h with hconnected | ⟨_, w₂, hconnected, h⟩
  · obtain ⟨-, new, hunconnected, htells⟩ := tells_of_connect_error hconnected
    exact ⟨_, hunconnected.prepend hfruitless, hscanned.trans htells⟩
  · cases h

end Update

end AirUpdate
