/-
  Air updates — what becomes of the connection when an update fails.

  A link that is up was up before or has been connected since (`UpFrom`), and a
  probe or an update that fails ends with a disconnect of what it has connected
  last, or at its services (`Ending`, `Concluded`).  So a device whose link is up
  still has been asked to disconnect, but for two exceptions (`disconnects_unless`):
  the radio did not tell its services right after it was connected, or an update
  that verifies has taken the link for lost while it was up.  Both of them occur
  (`not_always_disconnects`, `not_only_unlearned`).
-/
import AirUpdate.Proofs.Course

namespace AirUpdate

namespace Radio
variable {w w' : World Radio RadioAction} {i j n : Nat} {r d d' : Radio} {m m' : Mailbox}

/-! ## Links that are up -/

/-- If the link of the peripheral is up, it was so before or has been connected since. -/
def UpFrom (j : Nat) (r r' : Radio) (_ : Mailbox) : Prop :=
  ∃ new, r.Since new r' ∧ ((r'.peripheral j).linked = true →
    (r.peripheral j).linked = true ∨ (Call.connect (r.peripheral j).address).done ∈ new)

theorem upFrom_refl (j : Nat) (w : World Radio RadioAction) : w.Has (UpFrom j w.device) :=
  ⟨[], .refl _, Or.inl⟩

theorem UpFrom.step {new : List (Call × Bool)} (h : UpFrom j r d m) (hd : d.Since new d')
    (hup : (d'.peripheral j).linked = true → (d.peripheral j).linked = true) :
    UpFrom j r d' m' := by
  obtain ⟨old, hold, hlinked⟩ := h
  refine ⟨old ++ new, hold.trans hd, fun hj => ?_⟩
  exact (hlinked (hup hj)).imp id (List.mem_append_left new)

theorem peripheral_onPeripheral_of_ne {f : Peripheral → Peripheral} (hij : i ≠ j) :
    (r.onPeripheral i f).peripheral j = r.peripheral j := by
  simp only [onPeripheral, peripheral, List.getD_eq_getElem?_getD, List.getElem?_modify_ne _ _ hij]

theorem linked_onPeripheral {f : Peripheral → Peripheral}
    (hf : ∀ p, (f p).linked = true → p.linked = true)
    (h : ((r.onPeripheral i f).peripheral j).linked = true) : (r.peripheral j).linked = true := by
  by_cases hij : i = j
  · subst hij
    unfold onPeripheral peripheral at h
    unfold peripheral
    rw [List.getD_eq_getElem?_getD, List.getElem?_modify_eq] at h
    rw [List.getD_eq_getElem?_getD]
    cases hp : r.peripherals[i]? with
    | none => rw [hp] at h; exact h
    | some p => rw [hp] at h; exact hf p h
  · rwa [peripheral_onPeripheral_of_ne hij] at h

theorem peripheral_of_call (c : Call) (w : World Radio RadioAction) (j : Nat) :
    (endState (call c w)).device.peripheral j = w.device.peripheral j := by
  unfold call
  split <;> rfl

/-- **No link is brought up** but by connecting. -/
theorem survives_upFrom (kinds : List CallKind) (j : Nat) (r : Radio) :
    Survives kinds (UpFrom j r) where
  alone :=
    { settle := fun d m h => h.step ((keeps_record d).settle d m (.refl d m)).since id
      perform := fun a d m h => by
        refine h.step ((keeps_record d).perform a d m (.refl d m)).since ?_
        simp only [Peer.perform, perform]
        split
        · exact id
        · exact linked_onPeripheral fun _ h => by cases h
        · exact id
        · exact id }
  peripheral {i _ d _} hf h :=
    h.step (since_onPeripheral hf.address i d) (linked_onPeripheral hf.linked)
  forwarders {fs d m} h := by
    have hrecord : SameRecord d { d with forwarders := fs } m := .refl d m
    exact h.step hrecord.since id
  call {c} _ w h := by
    obtain ⟨refused, htells⟩ := exists_tells_call c w
    exact h.step htells fun hj => (peripheral_of_call c w j) ▸ hj

/-- The attempt that is not refused connects the peripheral. -/
theorem UpFrom.connected (h : w.Has (UpFrom j r))
    (hcall : call (.connect (w.device.peripheral i).address) w = .ok () w') :
    UpFrom j r (w'.device.onPeripheral i fun p => { p with linked := true }) w'.mailbox := by
  obtain ⟨old, hold, hlinked⟩ := h
  refine ⟨_, (hold.trans (tells_of_call hcall)).trans (since_onPeripheral (by intro; rfl) i _),
    fun hj => ?_⟩
  by_cases hij : i = j
  · subst hij
    rw [hold.address_eq]
    exact Or.inr (by simp)
  · have hcalled : w'.device.peripheral j = w.device.peripheral j := by
      have h := peripheral_of_call (.connect (w.device.peripheral i).address) w j
      rwa [hcall] at h
    rw [peripheral_onPeripheral_of_ne hij, hcalled] at hj
    exact (hlinked hj).imp id fun hmem => by simp [hmem]

theorem keeps_bringUp (j : Nat) (r : Radio) :
    World.ActKeeps (UpFrom j r) (Discovery.bringUp i n) := by
  induction n with
  | zero => exact World.keeps_pure _
  | succ n ih =>
    intro w hw
    cases hcall : call (.connect (w.device.peripheral i).address) w with
    | ok _ w₁ =>
      rw [Discovery.bringUp_of_done hcall]
      exact UpFrom.connected hw hcall
    | error e w₁ =>
      rw [Discovery.bringUp_of_refused hcall]
      have hsurvives := survives_upFrom [.connect] j r
      exact ih w₁ ((hsurvives.call (List.mem_singleton.2 rfl)).error hw hcall)

/-- A probe brings no link up but by connecting. -/
theorem keeps_probe (config : UpdateConfig) (j : Nat) (r : Radio) :
    World.ActKeeps (UpFrom j r) (Update.probe config) := by
  have hall := survives_upFrom [.startScan, .peripherals, .properties, .stopScan, .discoverServices,
    .read, .readDescriptor, .disconnect] j r
  have hconnect : ∀ i n, World.ActKeeps (UpFrom j r) (Discovery.connect i n) := by
    intro i n
    refine World.keeps_bind (keeps_bringUp j r) fun up => ?_
    split
    · exact hall.keeps_learnServices (by decide)
    · exact World.keeps_bind (World.keeps_seen _) fun _ => World.keeps_fail _
  have hconnectDevice : World.ActKeeps (UpFrom j r) (Update.connectDevice config) := by
    refine World.keeps_bind (hall.keeps_find _ _ (by decide)) fun i => ?_
    exact World.keeps_bind (hconnect i _) fun _ => World.keeps_pure i
  refine World.keeps_bind hconnectDevice fun i => ?_
  have hread : World.ActKeeps (UpFrom j r) (Revision.read (link i)) :=
    hall.keeps_revision (by decide) (by decide)
  refine World.keeps_bind (World.keeps_caught hread) fun _ => ?_
  exact World.keeps_bind (hall.keeps_letGo (by decide)) fun _ => World.keeps_ofExcept _

end Radio

/-! ## How a failing activity ends -/

/-- The last that is asked of a peripheral that was connected: to disconnect, or for its
    services, of which the program does not learn. -/
inductive Ending (a : String) : List (Call × Bool) → Prop
  | disconnect {before refused} : Ending a (before ++ [(.disconnect a, refused)])
  | services {before refused} : (∀ c ∈ before, c.1.kind ≠ .disconnect) →
      Ending a (before ++ [(Call.connect a).done, (.discoverServices a, refused)])

/-- The calls end with the connection of a peripheral and the question for its services. -/
def EndsUnlearned (a : String) (new : List (Call × Bool)) : Prop :=
  ∃ before refused, new = before ++ [(Call.connect a).done, (.discoverServices a, refused)]

theorem Ending.prepend {a : String} {xs ys : List (Call × Bool)}
    (hxs : ∀ c ∈ xs, c.1.kind ≠ .disconnect) (h : Ending a ys) : Ending a (xs ++ ys) := by
  cases h with
  | disconnect =>
    rw [← List.append_assoc]
    exact .disconnect
  | services hbefore =>
    rw [← List.append_assoc]
    exact .services fun c hc => (List.mem_append.1 hc).elim (hxs c) (hbefore c)

/-- What ends a list comes behind whatever else is in it. -/
theorem mem_of_append_cons_eq {β : Type} {before after xs : List β} {b c : β}
    (h : before ++ b :: after = xs ++ [c]) (hbc : b ≠ c) : c ∈ after := by
  rcases List.eq_nil_or_concat after with rfl | ⟨init, d, rfl⟩
  · exact absurd (List.append_inj_right' h rfl) (by simpa using hbc)
  · rw [List.concat_eq_append, ← List.cons_append, ← List.append_assoc] at h
    have hd : [d] = [c] := List.append_inj_right' h rfl
    simp [List.singleton_inj.1 hd]

/-- **Behind each connection there is a disconnect** exactly if the calls do not end with it and
    the services. -/
theorem Ending.disconnect_iff {a : String} {new before after : List (Call × Bool)}
    (h : Ending a new) (hnew : new = before ++ (Call.connect a).done :: after) :
    (∃ refused, (.disconnect a, refused) ∈ after) ↔ ¬ EndsUnlearned a new := by
  cases h with
  | @disconnect xs refused =>
    refine iff_of_true ⟨refused, mem_of_append_cons_eq hnew.symm (by simp)⟩ ?_
    rintro ⟨pre, refused', heq⟩
    have hlast := congrArg List.getLast? heq
    simp at hlast
  | @services xs refused hxs =>
    refine iff_of_false ?_ (not_not_intro ⟨xs, refused, rfl⟩)
    rintro ⟨refused', hmem⟩
    have hall : (Call.disconnect a, refused') ∈
        xs ++ [(Call.connect a).done, (.discoverServices a, refused)] := by
      rw [hnew]
      simp [hmem]
    rcases List.mem_append.1 hall with hmem | hmem
    · exact hxs _ hmem rfl
    · simp at hmem

namespace Update
open Discovery
variable {α : Type} {w w' w₁ w₂ : World Radio RadioAction} {i k turns : Nat} {image : Image}
  {config : UpdateConfig} {verify : Bool} {error : UpdateError} {m : Mailbox} {e : Halt}

/-- Whatever was connected on the way was asked last to disconnect, or for its services; and
    nothing else was asked to disconnect. -/
def Concluded (w w' : World Radio RadioAction) : Prop :=
  ∃ new, w.Tells new w' ∧ (∀ a, (Call.connect a).done ∈ new → Ending a new) ∧
    ∀ a refused, (.disconnect a, refused) ∈ new → (Call.connect a).done ∈ new

/-- What has connected a device and lets it go ends with the disconnect. -/
theorem concluded_of_letsGo {kinds : List CallKind} (hconnected : connectDevice config w = .ok i w₁)
    (honly : Radio.Only kinds w₁.device w₂.device m)
    (hkinds : .connect ∉ kinds ∧ .disconnect ∉ kinds) (hgone : LetsGo i w₂ w') :
    Concluded w w' := by
  obtain ⟨old, htells, hnone, hold⟩ := tells_of_connected hconnected honly hkinds
  obtain ⟨refused, hgone⟩ := hgone
  rw [htells.address_eq i] at hgone
  refine ⟨_, htells.trans hgone, fun a ha => ?_, fun a refused' ha => ?_⟩
  · rcases List.mem_append.1 ha with ha | ha
    · rw [(hold a).1 ha]
      exact .disconnect
    · simp at ha
  · rcases List.mem_append.1 ha with ha | ha
    · exact absurd rfl (hnone _ ha)
    · have haddress : a = (w.device.peripheral i).address := by
        cases List.mem_singleton.1 ha
        rfl
      exact List.mem_append_left _ ((hold a).2 haddress)

/-- What fails to connect ends at the services of what was connected, if anything was. -/
theorem concluded_of_unconnected {new : List (Call × Bool)} (h : Unconnected new)
    (htells : w.Tells new w') : Concluded w w' := by
  refine ⟨new, htells, ?_⟩
  cases h with
  | fruitless h =>
    exact ⟨fun a ha => absurd rfl ((h _ ha).2 a), fun a refused ha => absurd rfl (h _ ha).1⟩
  | @unlearned pre b refused hpre =>
    refine ⟨fun a ha => ?_, fun a refused' ha => ?_⟩
    · rcases List.mem_append.1 ha with ha | ha
      · exact absurd rfl ((hpre _ ha).2 a)
      · have hab : a = b := by simpa using ha
        rw [hab]
        exact .services fun c hc => (hpre c hc).1
    · rcases List.mem_append.1 ha with ha | ha
      · exact absurd rfl (hpre _ ha).1
      · simp at ha

theorem concluded_of_connect {n : Nat} (h : connect i n w = .error e w') : Concluded w w' := by
  obtain ⟨-, new, hunconnected, htells⟩ := tells_of_connect_error h
  exact concluded_of_unconnected hunconnected htells

theorem concluded_of_connectDevice (h : connectDevice config w = .error e w') :
    Concluded w w' := by
  obtain ⟨new, hunconnected, htells⟩ := tells_of_connectDevice_error h
  exact concluded_of_unconnected hunconnected htells

theorem concluded_of_probe (h : probe config w = .error (.failed error) w') : Concluded w w' := by
  rcases bind_eq_error.1 h with hconnected | ⟨i, w₁, hconnected, -⟩
  · exact concluded_of_connectDevice hconnected
  obtain ⟨revision, w₂, w₃, hread, honly, hgone, hprobe⟩ := probe_eq_of_connected hconnected
  rw [hprobe] at h
  have hw : w₃ = w' := by
    cases revision with
    | ok revision => cases h
    | error error => cases h; rfl
  rw [← hw]
  exact concluded_of_letsGo hconnected honly (by decide) hgone

/-- The transfer on the first connection, which is to this peripheral, comes to its end. -/
def Transferred (image : Image) (config : UpdateConfig) (turns : Nat) (w : World Radio RadioAction)
    (k : Nat) (w₂ : World Radio RadioAction) : Prop :=
  ∃ w₁ outcome, connectDevice config w = .ok k w₁ ∧
    transfer k image config turns w₁ = .ok outcome w₂

theorem Transferred.tells (h : Transferred image config turns w k w₂) :
    ∃ new, w.Tells new w₂ ∧ (∀ c ∈ new, c.1.kind ≠ .disconnect) ∧
      ∀ a, (Call.connect a).done ∈ new ↔ a = (w.device.peripheral k).address := by
  obtain ⟨w₁, outcome, hconnected, htransfer⟩ := h
  have honly := (only_of_transfer w₁.device).ok (Radio.only_refl _ w₁) htransfer
  exact tells_of_connected hconnected honly (by decide)

/-- An update that fails on its first connection is concluded as well. -/
theorem concluded_of_run (h : run image config verify turns w = .error (.failed error) w')
    (hnone : ¬ ∃ k w₂, Transferred image config turns w k w₂) : Concluded w w' := by
  rcases bind_eq_error.1 h with hconnected | ⟨k, w₁, hconnected, hrest⟩
  · exact concluded_of_connectDevice hconnected
  rcases bind_eq_error.1 hrest with htried | ⟨tried, w₂, htried, hrest⟩
  · exact absurd htried World.caught_ne_failed
  rcases World.caught_eq_ok htried with ⟨outcome, rfl, htransfer⟩ | ⟨error', rfl, htransfer⟩
  · exact absurd ⟨k, w₂, w₁, outcome, hconnected, htransfer⟩ hnone
  · obtain ⟨honly, w₃, hgone, hrun : run image config verify turns w = _⟩ :=
      run_eq_of_breaks hconnected (transfer_eq_failed_iff.1 htransfer)
    rw [h] at hrun
    cases hrun
    exact concluded_of_letsGo hconnected honly (by decide) hgone

/-- One that fails later was to be verified, and fails in the probe. -/
theorem probe_of_run (h : run image config verify turns w = .error (.failed error) w')
    (htransferred : Transferred image config turns w k w₂) :
    verify = true ∧ ∃ w₃, w₂.Tells [] w₃ ∧ (∀ i, w₃.Has (Radio.UpFrom i w₂.device)) ∧
      probe config w₃ = .error (.failed error) w' := by
  obtain ⟨w₁, ⟨before, report⟩, hconnected, htransfer⟩ := htransferred
  unfold run at h
  rw [bind_of_ok hconnected, bind_of_ok (World.caught_of_ok htransfer)] at h
  cases verify with
  | false =>
    obtain ⟨refused, w₃, hletGo, -⟩ := Radio.letGo_eq k w₂
    simp only [Bool.false_eq_true, if_false] at h
    rw [bind_of_ok hletGo] at h
    cases h
  | true =>
    simp only [if_true] at h
    have hquiet : w₂.Tells [] { w₂ with device := w₂.device.stopForwarding } :=
      World.tells_nil w₂.sameRecord
    rcases bind_eq_error.1 h with hstopped | ⟨_, w₃, hstopped, h⟩
    · cases hstopped
    cases hstopped
    rcases bind_eq_error.1 h with hslept | ⟨_, w₄, hslept, h⟩
    · cases World.sleep_eq_error hslept
    rcases bind_eq_error.1 h with hprobe | ⟨_, w₅, -, h⟩
    · refine ⟨rfl, w₄, hquiet.trans (World.tells_of_sleep hslept), fun i => ?_, hprobe⟩
      have hsurvives := Radio.survives_upFrom [] i w₂.device
      have hup : { w₂ with device := w₂.device.stopForwarding }.Has (Radio.UpFrom i w₂.device) :=
        hsurvives.forwarders (Radio.upFrom_refl i w₂)
      exact (World.keeps_sleep hsurvives.alone _).ok hup hslept
    · cases h

theorem Transferred.unique {k' : Nat} {w₂' : World Radio RadioAction}
    (h : Transferred image config turns w k w₂) (h' : Transferred image config turns w k' w₂') :
    w₂' = w₂ := by
  obtain ⟨w₁, outcome, hconnected, htransfer⟩ := h
  obtain ⟨w₁', outcome', hconnected', htransfer'⟩ := h'
  rw [hconnected] at hconnected'
  cases hconnected'
  rw [htransfer] at htransfer'
  cases htransfer'
  rfl

/-! ## Disconnecting -/

/-- The activity fails after it has connected the peripheral, and the link is up still; these
    are the calls since. -/
def FailsConnected (act : Radio.Use α) (w : World Radio RadioAction) (i : Nat)
    (after : List (Call × Bool)) : Prop :=
  ∃ error w' before, act w = .error (.failed error) w' ∧
    w'.device.told = w.device.told ++
      (before ++ (Call.connect (w.device.peripheral i).address).done :: after) ∧
    (w'.device.peripheral i).linked = true

/-- An activity that fails has asked every peripheral to disconnect that it has connected and
    whose link is up still. -/
def Disconnects (act : Radio.Use α) : Prop :=
  ∀ w i after, FailsConnected act w i after →
    ∃ refused, (.disconnect (w.device.peripheral i).address, refused) ∈ after

/-- It has done so exactly where nothing excuses it. -/
def DisconnectsUnless (excuse : World Radio RadioAction → Nat → Prop) (act : Radio.Use α) : Prop :=
  ∀ w i after, FailsConnected act w i after →
    ((∃ refused, (.disconnect (w.device.peripheral i).address, refused) ∈ after) ↔ ¬ excuse w i)

/-- The last that the activity does is to connect the peripheral and to ask for its services. -/
def Unlearned (act : Radio.Use α) (w : World Radio RadioAction) (i : Nat) : Prop :=
  ∃ new, (endState (act w)).device.told = w.device.told ++ new ∧
    EndsUnlearned (w.device.peripheral i).address new

/-- The transfer to the peripheral has come to its end while the link was up, so that it was
    taken for lost; and the update has not connected the peripheral again. -/
def Mistaken (image : Image) (config : UpdateConfig) (verify : Bool) (turns : Nat)
    (w : World Radio RadioAction) (i : Nat) : Prop :=
  ∃ k w₂ rest, Transferred image config turns w k w₂ ∧
    (w.device.peripheral k).address = (w.device.peripheral i).address ∧
    (w₂.device.peripheral i).linked = true ∧
    w₂.Tells rest (endState (run image config verify turns w)) ∧
    (Call.connect (w.device.peripheral i).address).done ∉ rest

section
variable {act : Radio.Use α} {new before after : List (Call × Bool)}

theorem unlearned_iff (hact : act w = .error e w') (htells : w.Tells new w') :
    Unlearned act w i ↔ EndsUnlearned (w.device.peripheral i).address new := by
  constructor
  · rintro ⟨new', htold, hends⟩
    rw [hact] at htold
    rwa [htells.eq_of_told_eq htold]
  · intro hends
    refine ⟨new, ?_, hends⟩
    rw [hact]
    exact htells.told_eq

theorem Unlearned.getLast? (h : Unlearned act w i) :
    ∃ refused, (endState (act w)).device.told.getLast? =
      some (.discoverServices (w.device.peripheral i).address, refused) := by
  obtain ⟨new, htold, before, refused, rfl⟩ := h
  exact ⟨refused, by simp [htold]⟩

theorem disconnect_iff_of_concluded (hact : act w = .error e w') (h : Concluded w w')
    (htold : w'.device.told = w.device.told ++
      (before ++ (Call.connect (w.device.peripheral i).address).done :: after)) :
    (∃ refused, (.disconnect (w.device.peripheral i).address, refused) ∈ after) ↔
      ¬ Unlearned act w i := by
  obtain ⟨new, htells, hending, -⟩ := h
  have hnew := htells.eq_of_told_eq htold
  rw [unlearned_iff hact htells]
  exact (hending _ (by simp [hnew])).disconnect_iff hnew

theorem disconnectsUnless_of_concluded
    (h : ∀ {w error w'}, act w = .error (.failed error) w' → Concluded w w') :
    DisconnectsUnless (Unlearned act) act := by
  rintro w i after ⟨error, w', before, hact, htold, -⟩
  exact disconnect_iff_of_concluded hact (h hact) htold

/-- A link that is up behind a probe that has not connected it was up before. -/
theorem linked_of_probe {w₃ : World Radio RadioAction} (h : probe config w₃ = .error e w')
    (hw₃ : w₃.Has (Radio.UpFrom i w₂.device)) (htells : w₂.Tells new w')
    (hup : (w'.device.peripheral i).linked = true)
    (hother : (Call.connect (w₂.device.peripheral i).address).done ∉ new) :
    (w₂.device.peripheral i).linked = true := by
  obtain ⟨since, hsince, hlinked⟩ := (Radio.keeps_probe config i w₂.device).error hw₃ h
  rw [hsince.eq_of_told_eq htells.told_eq] at hlinked
  exact (hlinked hup).resolve_right hother

/-- What was connected at first, and not again, is not asked to disconnect. -/
theorem not_disconnect_of_first {a : String} {first second : List (Call × Bool)}
    (hnew : first ++ second = before ++ (Call.connect a).done :: after)
    (hfirst : ∀ c ∈ first, c.1.kind ≠ .disconnect)
    (hsecond : ∀ a refused, (.disconnect a, refused) ∈ second → (Call.connect a).done ∈ second)
    (hother : (Call.connect a).done ∉ second) :
    (Call.connect a).done ∈ first ∧ ¬ ∃ refused, (.disconnect a, refused) ∈ after := by
  constructor
  · have hmem : (Call.connect a).done ∈ first ++ second := by simp [hnew]
    exact (List.mem_append.1 hmem).resolve_right hother
  · rintro ⟨refused, hafter⟩
    have hmem : (Call.disconnect a, refused) ∈ first ++ second := by simp [hnew, hafter]
    rcases List.mem_append.1 hmem with hmem | hmem
    · exact hfirst _ hmem rfl
    · exact hother (hsecond _ _ hmem)

end

/-- **An update that fails asks what it has connected to disconnect**, unless it does not learn
    the services or takes the link for lost. -/
theorem disconnectsUnless_run (image : Image) (config : UpdateConfig) (verify : Bool)
    (turns : Nat) : DisconnectsUnless
      (fun w i => Unlearned (run image config verify turns) w i ∨
        verify = true ∧ Mistaken image config verify turns w i)
      (run image config verify turns) := by
  rintro w i after ⟨error, w', before, hrun, htold, hup⟩
  beta_reduce
  by_cases htransferred : ∃ k w₂, Transferred image config turns w k w₂
  swap
  · have hunmistaken : ¬ (verify = true ∧ Mistaken image config verify turns w i) := by
      rintro ⟨-, k, w₂, -, h, -⟩
      exact htransferred ⟨k, w₂, h⟩
    rw [or_iff_left hunmistaken]
    exact disconnect_iff_of_concluded hrun (concluded_of_run hrun htransferred) htold
  obtain ⟨k, w₂, htransferred⟩ := htransferred
  obtain ⟨rfl, w₃, hquiet, hupFrom, hprobe⟩ := probe_of_run hrun htransferred
  -- the calls of the first connection, and those of the probe that fails
  obtain ⟨first, hfirst, hnone, honly⟩ := htransferred.tells
  obtain ⟨second, hsecond, hending, hasked⟩ := concluded_of_probe hprobe
  have hrest : w₂.Tells second w' := hquiet.trans hsecond
  have hall := hfirst.trans hrest
  have hnew := hall.eq_of_told_eq htold
  by_cases hagain : (Call.connect (w.device.peripheral i).address).done ∈ second
  · have hunmistaken : ¬ (true = true ∧ Mistaken image config true turns w i) := by
      rintro ⟨-, k', w₂', rest, h, -, -, htells, hother⟩
      cases htransferred.unique h
      rw [hrun] at htells
      rw [← hrest.eq_of_told_eq htells.told_eq] at hother
      exact hother hagain
    rw [or_iff_left hunmistaken, unlearned_iff hrun hall]
    exact ((hending _ hagain).prepend hnone).disconnect_iff hnew
  · obtain ⟨hmem, hunasked⟩ := not_disconnect_of_first hnew hnone hasked hagain
    rw [← hfirst.address_eq] at hagain
    have hstill := linked_of_probe hprobe (hupFrom i) hrest hup hagain
    rw [hfirst.address_eq] at hagain
    have hmistaken : Mistaken image config true turns w i := by
      refine ⟨k, w₂, second, htransferred, ((honly _).1 hmem).symm, hstill, ?_, hagain⟩
      rw [hrun]
      exact hrest
    exact iff_of_false hunasked (not_not_intro (Or.inr ⟨rfl, hmistaken⟩))

/-- **A device that was connected is asked to disconnect before an update fails** while its link
    is up.  What excuses it, and nothing else does, is that the radio did not tell its services
    right after it was connected, or that an update that verifies has taken the link for lost. -/
theorem disconnects_unless (k n : Nat) (image : Image) (config : UpdateConfig) (verify : Bool)
    (turns : Nat) :
    DisconnectsUnless (Unlearned (connect k n)) (connect k n) ∧
    DisconnectsUnless (Unlearned (probe config)) (probe config) ∧
    DisconnectsUnless
      (fun w i => Unlearned (run image config verify turns) w i ∨
        verify = true ∧ Mistaken image config verify turns w i)
      (run image config verify turns) :=
  ⟨disconnectsUnless_of_concluded concluded_of_connect,
    disconnectsUnless_of_concluded concluded_of_probe,
    disconnectsUnless_run image config verify turns⟩

/-- An update that cannot read the revision asks for the disconnect, though the radio refuses
    that too. -/
theorem deaf_disconnects : ∃ after,
    FailsConnected (run ⟨[7]⟩ .default false 16) (nearby deaf) 0 after ∧
    ∃ refused, (.disconnect "C0:01", refused) ∈ after := by
  have hhalt : halt? (run ⟨[7]⟩ .default false 16 (nearby deaf)) =
      some (.failed (.link (.radio .notConnected))) := by decide +kernel
  have htold : (endState (run ⟨[7]⟩ .default false 16 (nearby deaf))).device.told =
      (nearby deaf).device.told ++ (scanned ["C0:01"] ++ [Call.stopScan.done] ++
        (Call.connect ((nearby deaf).device.peripheral 0).address).done ::
        [(Call.discoverServices "C0:01").done, (Call.read .fotaService .firmwareRevision).refused,
          (Call.disconnect "C0:01").refused]) := by decide +kernel
  have hup : ((endState (run ⟨[7]⟩ .default false 16 (nearby deaf))).device.peripheral 0).linked =
      true := by decide +kernel
  have hfails : FailsConnected (run ⟨[7]⟩ .default false 16) (nearby deaf) 0 _ :=
    ⟨_, _, _, eq_error_of_halt? hhalt, htold, hup⟩
  refine ⟨_, hfails, ((disconnects_unless 0 1 ⟨[7]⟩ .default false 16).2.2 _ _ _ hfails).2 ?_⟩
  rintro (hunlearned | ⟨hverify, -⟩)
  · obtain ⟨refused, hlast⟩ := hunlearned.getLast?
    rw [htold] at hlast
    cases hlast
  · cases hverify

/-- The services are refused. -/
def mute : List Fault := [⟨.discoverServices, none, .notConnected⟩]

/-- A device whose services are refused stays connected. -/
theorem not_always_disconnects : ¬ ∀ k n image config verify turns,
    Disconnects (connect k n) ∧ Disconnects (probe config) ∧
    Disconnects (run image config verify turns) := by
  intro h
  have hhalt : halt? (probe .default (nearby mute)) =
      some (.failed (.link (.radio .notConnected))) := by decide +kernel
  have htold : (endState (probe .default (nearby mute))).device.told =
      (nearby mute).device.told ++ (scanned ["C0:01"] ++ [Call.stopScan.done] ++
        (Call.connect ((nearby mute).device.peripheral 0).address).done ::
        [(Call.discoverServices "C0:01").refused]) := by decide +kernel
  have hup : ((endState (probe .default (nearby mute))).device.peripheral 0).linked = true := by
    decide +kernel
  obtain ⟨refused, hmem⟩ := (h 0 1 ⟨[7]⟩ .default false 16).2.1 (nearby mute) 0 _
    ⟨_, _, _, eq_error_of_halt? hhalt, htold, hup⟩
  simp at hmem

/-- The gadget on a radio that ends the events half a second after COMMIT, and then refuses to
    scan again. -/
def astray : World Radio RadioAction :=
  .initial 600000 (.unused 1 [{ gadget with script := gadget.script.take 1 ++
    [⟨.control Control.commit.toByte, 0, 1, [(500, .endEvents)], 0⟩] }]
      [⟨.startScan, some 2, .notConnected⟩])

/-- A device whose link is taken for lost stays connected when its update is verified in vain. -/
theorem not_only_unlearned : ¬ ∀ image config verify turns, DisconnectsUnless
    (Unlearned (run image config verify turns)) (run image config verify turns) := by
  intro h
  have hhalt : halt? (run ⟨[7]⟩ .default true 16 astray) =
      some (.failed (.link (.radio .notConnected))) := by decide +kernel
  have htold : ∃ after, (endState (run ⟨[7]⟩ .default true 16 astray)).device.told =
      astray.device.told ++ (scanned ["C0:01"] ++ [Call.stopScan.done] ++
        (Call.connect (astray.device.peripheral 0).address).done ::
        (after ++ [Call.startScan.refused])) ∧ ∀ c ∈ after, c.1.kind ≠ .disconnect := by
    refine ⟨((endState (run ⟨[7]⟩ .default true 16 astray)).device.told.drop 5).dropLast, ?_, ?_⟩
    · decide +kernel
    · decide +kernel
  have hup : ((endState (run ⟨[7]⟩ .default true 16 astray)).device.peripheral 0).linked =
      true := by decide +kernel
  obtain ⟨after, htold, hafter⟩ := htold
  have hlearned : ¬ Unlearned (run ⟨[7]⟩ .default true 16) astray 0 := by
    intro hunlearned
    obtain ⟨refused, hlast⟩ := hunlearned.getLast?
    simp [htold, List.getLast?_cons] at hlast
  obtain ⟨refused, hmem⟩ := (h ⟨[7]⟩ .default true 16 astray 0 _
    ⟨_, _, _, eq_error_of_halt? hhalt, htold, hup⟩).2 hlearned
  rcases List.mem_append.1 hmem with hmem | hmem
  · exact hafter _ hmem rfl
  · cases List.mem_singleton.1 hmem

end Update

end AirUpdate
