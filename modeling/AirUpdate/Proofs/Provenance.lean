/-
  Air updates — where a revision comes from.

  A program looks for the revision in the update service, then in the device
  information service, and asks the first of the two in which a lookup sees one
  (`sourced`).  What it asks for is refused by a fault, or fails as the link is down,
  or is answered (`obstacle?`, `request_of_clear`, `request_of_obstacle`); an enquiry
  ends with the first request that fails, with its error (`Enquiry`).

  A lookup sees one service of an identifier only.  So of several update services the
  first one settles the matter: if it exposes no revision, that of another one is not
  read (`not_always_read`).  Where there is one update service, a lookup sees what it
  exposes (`sees_iff_of_sole`).
-/
import AirUpdate.Proofs.Lookups
import AirUpdate.Proofs.Seeking

namespace AirUpdate

namespace Radio
variable {w w' : World Radio RadioAction} {i : Nat} {service u d : Uuid} {c : Call}
  {found : Characteristic} {e : RadioError}

/-! ## Requests -/

/-- The error that a request to a peripheral meets: that of the fault which refuses the call, or
    else that the link is down. -/
def obstacle? (r : Radio) (i : Nat) (c : Call) : Option RadioError :=
  match r.fault? c with
  | some f => some f.error
  | none => if (r.peripheral i).linked then none else some .notConnected

/-- The call, and whether a fault refuses it. -/
def entered (r : Radio) (c : Call) : Call × Bool := (c, (r.fault? c).isSome)

/-- A call to a peripheral that needs its link. -/
def request (i : Nat) (c : Call) : Use Unit := do
  call c
  needLink i

theorem needLink_of_not_linked (h : ¬ (w.device.peripheral i).linked = true) :
    needLink i w = .error (.failed (.link (.radio .notConnected))) w := by
  unfold needLink
  rw [World.seen_bind, if_neg h]
  rfl

theorem request_of_clear (h : w.device.obstacle? i c = none) :
    request i c w = .ok () (w.noted c false) := by
  cases hfault : w.device.fault? c with
  | some f =>
    simp only [obstacle?, hfault] at h
    cases h
  | none =>
    simp only [obstacle?, hfault] at h
    split at h
    · next hlinked =>
      rw [request, bind_of_ok (World.call_of_none hfault)]
      exact needLink_of_linked hlinked
    · cases h

theorem request_of_obstacle (h : w.device.obstacle? i c = some e) : ∃ w',
    request i c w = .error (.failed (.link (.radio e))) w' ∧ w.Tells [w.device.entered c] w' := by
  cases hfault : w.device.fault? c with
  | some f =>
    simp only [obstacle?, hfault] at h
    cases h
    refine ⟨_, bind_eq_error.2 (Or.inl (World.call_of_fault hfault)), ?_⟩
    rw [entered, hfault]
    exact (World.proceeds_noted c true w).tells
  | none =>
    simp only [obstacle?, hfault] at h
    split at h
    · cases h
    · next hlinked =>
      cases h
      refine ⟨w.noted c false, ?_, ?_⟩
      · rw [request, bind_of_ok (World.call_of_none hfault)]
        exact needLink_of_not_linked hlinked
      · rw [entered, hfault]
        exact (World.proceeds_noted c false w).tells

/-! ## Reading what was found -/

/-- What a read does once nothing stands in its way. -/
def takeValue (i : Nat) (service u : Uuid) : Use Bytes := do
  let value ← World.seen fun r : Radio => (r.peripheral i).gatt.value service u
  World.onDevice (onPeripheral i fun p => { p with gatt := p.gatt.afterRead service u })
  pure value

/-- The world after a characteristic was read. -/
def afterRead (i : Nat) (service u : Uuid) (w : World Radio RadioAction) :
    World Radio RadioAction :=
  { w.noted (.read service u) false with
    device := (w.noted (.read service u) false).device.onPeripheral i fun p =>
      { p with gatt := p.gatt.afterRead service u } }

theorem fault?_afterRead (hc : c.kind ≠ .read) :
    (afterRead i service u w).device.fault? c = w.device.fault? c := by
  have hcount : (afterRead i service u w).device.callCount c.kind = w.device.callCount c.kind :=
    List.countP_cons_of_neg fun h => hc (of_decide_eq_true h).symm
  unfold fault?
  rw [hcount]
  rfl

section
variable (hfound : (w.device.peripheral i).known.find? service u = some found)
include hfound

theorem read_of_found :
    read i service u w = (request i (.read service u) >>= fun _ => takeValue i service u) w := by
  unfold read request takeValue
  rw [World.seen_bind, hfound, bind_assoc]

theorem read_of_clear (h : w.device.obstacle? i (.read service u) = none) :
    read i service u w = .ok ((w.device.peripheral i).gatt.value service u)
      (afterRead i service u w) := by
  rw [read_of_found hfound, bind_of_ok (request_of_clear h)]
  rfl

theorem read_of_obstacle (h : w.device.obstacle? i (.read service u) = some e) : ∃ w',
    read i service u w = .error (.failed (.link (.radio e))) w' ∧
      w.Tells [w.device.entered (.read service u)] w' := by
  obtain ⟨w', hrequest, htells⟩ := request_of_obstacle h
  rw [read_of_found hfound]
  exact ⟨w', bind_eq_error.2 (Or.inl hrequest), htells⟩

theorem readDescriptor_of_found (hd : found.HasDescriptor d) :
    readDescriptor i service u d w = (request i (.readDescriptor service u d) >>= fun _ =>
      World.seen fun r : Radio => (r.peripheral i).gatt.descriptor? service u d) w := by
  unfold readDescriptor request
  rw [World.seen_bind, hfound, bind_assoc]
  simp only [Characteristic.hasDescriptor_iff_any.1 hd, if_pos]

/-- A descriptor that the characteristic does not have is not asked for. -/
theorem readDescriptor_of_not (hd : ¬ found.HasDescriptor d) :
    readDescriptor i service u d w = .ok none w := by
  unfold readDescriptor
  rw [World.seen_bind, hfound]
  simp only
  rw [if_neg (mt Characteristic.hasDescriptor_iff_any.2 hd)]
  rfl

theorem readDescriptor_of_clear (hd : found.HasDescriptor d)
    (h : w.device.obstacle? i (.readDescriptor service u d) = none) :
    readDescriptor i service u d w =
      .ok ((w.device.peripheral i).gatt.descriptor? service u d)
        (w.noted (.readDescriptor service u d) false) := by
  rw [readDescriptor_of_found hfound hd, bind_of_ok (request_of_clear h)]
  rfl

theorem readDescriptor_of_obstacle (hd : found.HasDescriptor d)
    (h : w.device.obstacle? i (.readDescriptor service u d) = some e) : ∃ w',
    readDescriptor i service u d w = .error (.failed (.link (.radio e))) w' ∧
      w.Tells [w.device.entered (.readDescriptor service u d)] w' := by
  obtain ⟨w', hrequest, htells⟩ := request_of_obstacle h
  rw [readDescriptor_of_found hfound hd]
  exact ⟨w', bind_eq_error.2 (Or.inl hrequest), htells⟩

/-- Only a peripheral in range has services. -/
theorem lt_length_of_found : i < w.device.peripherals.length := by
  by_contra hout
  have habsent : w.device.peripheral i = .absent := by
    rw [peripheral, List.getD_eq_getElem?_getD, List.getElem?_eq_none (Nat.le_of_not_lt hout)]
    rfl
  rw [habsent] at hfound
  cases hfound

theorem peripheral_afterRead : (afterRead i service u w).device.peripheral i =
    { w.device.peripheral i with gatt := (w.device.peripheral i).gatt.afterRead service u } :=
  peripheral_onPeripheral (lt_length_of_found hfound)

/-- A read leaves what stands in the way of requests of other kinds. -/
theorem obstacle?_afterRead (hc : c.kind ≠ .read) :
    (afterRead i service u w).device.obstacle? i c = w.device.obstacle? i c := by
  unfold obstacle?
  rw [fault?_afterRead hc, peripheral_afterRead hfound]

/-- What is found behind a read has the same descriptors. -/
theorem find?_afterRead : ∃ again,
    ((afterRead i service u w).device.peripheral i).known.find? service u = some again ∧
      again.descriptors = found.descriptors := by
  have hknown : ((afterRead i service u w).device.peripheral i).known =
      (w.device.peripheral i).known.afterRead service u := by
    rw [peripheral_afterRead hfound]
    unfold Peripheral.known
    simp only
    split
    · rfl
    · rfl
  have hsame : (((w.device.peripheral i).known.afterRead service u).find? service u).map
      (·.descriptors) = ((w.device.peripheral i).known.find? service u).map (·.descriptors) :=
    Gatt.find?_afterRead service u
  rw [hfound, ← hknown] at hsame
  exact Option.map_eq_some_iff.1 hsame

theorem descriptor?_afterRead :
    ((afterRead i service u w).device.peripheral i).gatt.descriptor? service u d =
      (w.device.peripheral i).gatt.descriptor? service u d := by
  rw [peripheral_afterRead hfound]
  exact Gatt.descriptor?_afterRead service u

/-- The peripheral answers for a descriptor of what was found. -/
theorem exists_descriptor?_of_found (hd : found.HasDescriptor d) :
    ∃ value, (w.device.peripheral i).gatt.descriptor? service u d = some value := by
  have hknown : (w.device.peripheral i).known = (w.device.peripheral i).gatt := by
    unfold Peripheral.known at hfound ⊢
    split
    · rfl
    · next hunknown =>
      rw [if_neg hunknown] at hfound
      cases hfound
  rw [hknown] at hfound
  exact Gatt.exists_descriptor? hfound hd

/-! ## Describing what was read -/

/-- Behind a read, a lookup sees the same descriptors. -/
theorem hasDescriptor_afterRead : ∃ again,
    ((afterRead i service u w).device.peripheral i).known.find? service u = some again ∧
      (again.HasDescriptor d ↔ found.HasDescriptor d) := by
  obtain ⟨again, hagain, hsame⟩ := find?_afterRead hfound
  refine ⟨again, hagain, ?_⟩
  rw [Characteristic.HasDescriptor, hsame, ← Characteristic.HasDescriptor]

theorem readDescriptor_afterRead_of_not (hd : ¬ found.HasDescriptor d) :
    readDescriptor i service u d (afterRead i service u w) =
      .ok none (afterRead i service u w) := by
  obtain ⟨again, hagain, hiff⟩ := hasDescriptor_afterRead hfound
  exact readDescriptor_of_not hagain (mt hiff.1 hd)

theorem readDescriptor_afterRead_of_obstacle (hd : found.HasDescriptor d)
    (h : w.device.obstacle? i (.readDescriptor service u d) = some e) : ∃ w',
    readDescriptor i service u d (afterRead i service u w) =
        .error (.failed (.link (.radio e))) w' ∧
      (afterRead i service u w).Tells [w.device.entered (.readDescriptor service u d)] w' := by
  obtain ⟨again, hagain, hiff⟩ := hasDescriptor_afterRead hfound
  have hkind : (Call.readDescriptor service u d).kind ≠ .read := by simp [Call.kind]
  rw [entered, ← fault?_afterRead hkind, ← entered]
  exact readDescriptor_of_obstacle hagain (hiff.2 hd) ((obstacle?_afterRead hfound hkind).trans h)

theorem readDescriptor_afterRead_of_clear (hd : found.HasDescriptor d)
    (h : w.device.obstacle? i (.readDescriptor service u d) = none) : ∃ text w',
    (w.device.peripheral i).gatt.descriptor? service u d = some text ∧
      readDescriptor i service u d (afterRead i service u w) = .ok (some text) w' ∧
      (afterRead i service u w).Tells [(Call.readDescriptor service u d).done] w' := by
  obtain ⟨again, hagain, hiff⟩ := hasDescriptor_afterRead hfound
  obtain ⟨text, htext⟩ := exists_descriptor?_of_found hfound hd
  have hkind : (Call.readDescriptor service u d).kind ≠ .read := by simp [Call.kind]
  have hdone := readDescriptor_of_clear hagain (hiff.2 hd)
    ((obstacle?_afterRead hfound hkind).trans h)
  rw [descriptor?_afterRead hfound, htext] at hdone
  exact ⟨text, _, htext, hdone, (World.proceeds_noted _ _ _).tells⟩

end

/-! ## Outcomes -/

section
variable {α : Type} {act act' : Use α} {a : α} {error : UpdateError}
  {new : List (Call × Bool)} {outcome : Except UpdateError α}

/-- The activity makes these calls and comes to this outcome. -/
def AmountsTo (act : Use α) (w : World Radio RadioAction) (new : List (Call × Bool))
    (outcome : Except UpdateError α) : Prop :=
  ∃ w', World.caught act w = .ok outcome w' ∧ w.Tells new w'

theorem amountsTo_ok (h : act w = .ok a w') (htells : w.Tells new w') :
    AmountsTo act w new (.ok a) :=
  ⟨w', World.caught_of_ok h, htells⟩

theorem amountsTo_error (h : act w = .error (.failed error) w') (htells : w.Tells new w') :
    AmountsTo act w new (.error error) :=
  ⟨w', World.caught_of_failed h, htells⟩

namespace AmountsTo
variable (h : AmountsTo act w new outcome)
include h

theorem of_eq (hact : act' w = act w) : AmountsTo act' w new outcome := by
  obtain ⟨w', hcaught, htells⟩ := h
  refine ⟨w', ?_, htells⟩
  unfold World.caught at hcaught ⊢
  rwa [hact]

theorem tells : w.Tells new (endState (act w)) := by
  obtain ⟨w', hcaught, htells⟩ := h
  rcases World.caught_eq_ok hcaught with ⟨a, -, hact⟩ | ⟨error, -, hact⟩
  · rw [hact]
    exact htells
  · rw [hact]
    exact htells

theorem eq_ok (hact : act w = .ok a w') : outcome = .ok a := by
  obtain ⟨w₁, hcaught, -⟩ := h
  cases (World.caught_of_ok hact).symm.trans hcaught
  rfl

theorem eq_error (hact : act w = .error (.failed error) w') : outcome = .error error := by
  obtain ⟨w₁, hcaught, -⟩ := h
  cases (World.caught_of_failed hact).symm.trans hcaught
  rfl

end AmountsTo

end

/-! ## Enquiries -/

/-- An enquiry of a service after the revision, which is described or not: the calls that are
    made, and what comes of them. -/
inductive Enquiry (i : Nat) (w : World Radio RadioAction) (service : Uuid) (described : Prop) :
    List (Call × Bool) → Except UpdateError Revision → Prop
  /-- the revision is not told -/
  | refused {e : RadioError} : w.device.obstacle? i (.read service .firmwareRevision) = some e →
      Enquiry i w service described [w.device.entered (.read service .firmwareRevision)]
        (.error (.link (.radio e)))
  /-- nothing else is asked for -/
  | plain : w.device.obstacle? i (.read service .firmwareRevision) = none → ¬ described →
      Enquiry i w service described [(Call.read service .firmwareRevision).done]
        (.ok ⟨Revision.decode ((w.device.peripheral i).gatt.value service .firmwareRevision), none⟩)
  /-- the revision is told, its description is not -/
  | withheld {e : RadioError} : w.device.obstacle? i (.read service .firmwareRevision) = none →
      described →
      w.device.obstacle? i (.readDescriptor service .firmwareRevision .userDescription) = some e →
      Enquiry i w service described [(Call.read service .firmwareRevision).done,
          w.device.entered (.readDescriptor service .firmwareRevision .userDescription)]
        (.error (.link (.radio e)))
  | full {text : Bytes} : w.device.obstacle? i (.read service .firmwareRevision) = none →
      described →
      w.device.obstacle? i (.readDescriptor service .firmwareRevision .userDescription) = none →
      (w.device.peripheral i).gatt.descriptor? service .firmwareRevision .userDescription =
        some text →
      Enquiry i w service described [(Call.read service .firmwareRevision).done,
          (Call.readDescriptor service .firmwareRevision .userDescription).done]
        (.ok ⟨Revision.decode ((w.device.peripheral i).gatt.value service .firmwareRevision),
          some (Revision.decode text)⟩)

section
variable {new : List (Call × Bool)} {outcome : Except UpdateError Revision} {described : Prop}
  {r : Revision} {error : UpdateError}

/-- An enquiry reads the revision of its own service, and no other. -/
theorem Enquiry.reads_iff (h : Enquiry i w service described new outcome) :
    (∃ refused, (Call.read u .firmwareRevision, refused) ∈ new) ↔ u = service := by
  cases h <;> simp [entered]

theorem Enquiry.description_iff (h : Enquiry i w service described new (.ok r)) :
    r.description.isSome ↔ described := by
  cases h with
  | plain _ hplain => simpa using hplain
  | full _ hdescribed => simpa using hdescribed

/-- The error of an enquiry is one of the radio. -/
theorem Enquiry.eq_radio (h : Enquiry i w service described new (.error error)) :
    ∃ e, error = .link (.radio e) := by
  cases h with
  | refused | withheld => exact ⟨_, rfl⟩

/-- The revision of the update service. -/
def readOwn (i : Nat) : Use Revision := do
  let value ← read i .fotaService .firmwareRevision
  let text ← readDescriptor i .fotaService .firmwareRevision .userDescription
  pure ⟨Revision.decode value, text.map Revision.decode⟩

/-- The revision of the device information service. -/
def readInformation (i : Nat) : Use Revision := do
  let value ← read i .deviceInformation .firmwareRevision
  pure ⟨Revision.decode value, none⟩

theorem enquiry_own
    (hfound : (w.device.peripheral i).known.find? .fotaService .firmwareRevision = some found) :
    ∃ new outcome, Enquiry i w .fotaService (found.HasDescriptor .userDescription) new outcome ∧
      AmountsTo (readOwn i) w new outcome := by
  cases hread : w.device.obstacle? i (.read .fotaService .firmwareRevision) with
  | some e =>
    obtain ⟨w', hfails, htells⟩ := read_of_obstacle hfound hread
    exact ⟨_, _, .refused hread, amountsTo_error (bind_eq_error.2 (Or.inl hfails)) htells⟩
  | none =>
    have hvalue := read_of_clear hfound hread
    have htold := tells_of_read hvalue
    by_cases hdescribed : found.HasDescriptor .userDescription
    · cases htext : w.device.obstacle? i
          (.readDescriptor .fotaService .firmwareRevision .userDescription) with
      | some e =>
        obtain ⟨w', hfails, htells⟩ :=
          readDescriptor_afterRead_of_obstacle hfound hdescribed htext
        refine ⟨_, _, .withheld hread hdescribed htext, amountsTo_error ?_ (htold.trans htells)⟩
        rw [readOwn, bind_of_ok hvalue]
        exact bind_eq_error.2 (Or.inl hfails)
      | none =>
        obtain ⟨text, w', hgiven, hdone, htells⟩ :=
          readDescriptor_afterRead_of_clear hfound hdescribed htext
        refine ⟨_, _, .full hread hdescribed htext hgiven, amountsTo_ok ?_ (htold.trans htells)⟩
        rw [readOwn, bind_of_ok hvalue, bind_of_ok hdone]
        rfl
    · have hdone := readDescriptor_afterRead_of_not hfound hdescribed
      refine ⟨_, _, .plain hread hdescribed, amountsTo_ok ?_ htold⟩
      rw [readOwn, bind_of_ok hvalue, bind_of_ok hdone]
      rfl

theorem enquiry_information
    (hfound : (w.device.peripheral i).known.find? .deviceInformation .firmwareRevision =
      some found) :
    ∃ new outcome, Enquiry i w .deviceInformation False new outcome ∧
      AmountsTo (readInformation i) w new outcome := by
  cases hread : w.device.obstacle? i (.read .deviceInformation .firmwareRevision) with
  | some e =>
    obtain ⟨w', hfails, htells⟩ := read_of_obstacle hfound hread
    exact ⟨_, _, .refused hread, amountsTo_error (bind_eq_error.2 (Or.inl hfails)) htells⟩
  | none =>
    have hvalue := read_of_clear hfound hread
    refine ⟨_, _, .plain hread not_false, amountsTo_ok ?_ (tells_of_read hvalue)⟩
    rw [readInformation, bind_of_ok hvalue]
    rfl

/-! ## Sources -/

/-- A lookup of the revision in the service sees one. -/
def ShowsRevision (i : Nat) (service : Uuid) (w : World Radio RadioAction) : Prop :=
  (w.device.peripheral i).known.Sees service .firmwareRevision

theorem has_iff_showsRevision :
    (link i).has service .firmwareRevision w.device = true ↔ ShowsRevision i service w :=
  Gatt.isSome_find?_iff

theorem revision_of_own (h : ShowsRevision i .fotaService w) :
    Revision.read (link i) w = readOwn i w := by
  unfold Revision.read
  rw [World.seen_bind, if_pos (has_iff_showsRevision.2 h)]
  rfl

theorem revision_of_information (h : ¬ ShowsRevision i .fotaService w)
    (hinformation : ShowsRevision i .deviceInformation w) :
    Revision.read (link i) w = readInformation i w := by
  unfold Revision.read
  rw [World.seen_bind, if_neg (mt has_iff_showsRevision.1 h), World.seen_bind,
    if_pos (has_iff_showsRevision.2 hinformation)]
  rfl

theorem revision_of_nowhere (h : ¬ ShowsRevision i .fotaService w)
    (hinformation : ¬ ShowsRevision i .deviceInformation w) :
    Revision.read (link i) w = .error (.failed .revisionNotFound) w := by
  unfold Revision.read
  rw [World.seen_bind, if_neg (mt has_iff_showsRevision.1 h), World.seen_bind,
    if_neg (mt has_iff_showsRevision.1 hinformation)]
  rfl

/-- The source of the revision, and what comes of the enquiry. -/
inductive Sourced (i : Nat) (w : World Radio RadioAction) : Prop
  /-- the first update service exposes it; its first characteristic may describe it -/
  | own {s : Service} {found : Characteristic} {new : List (Call × Bool)}
      {outcome : Except UpdateError Revision} :
      (w.device.peripheral i).known.FirstOf .fotaService s → s.FirstIn .firmwareRevision found →
      Enquiry i w .fotaService (found.HasDescriptor .userDescription) new outcome →
      AmountsTo (Revision.read (link i)) w new outcome → Sourced i w
  /-- that of the device information service is read without a description -/
  | information {new : List (Call × Bool)} {outcome : Except UpdateError Revision} :
      ¬ ShowsRevision i .fotaService w → ShowsRevision i .deviceInformation w →
      Enquiry i w .deviceInformation False new outcome →
      AmountsTo (Revision.read (link i)) w new outcome → Sourced i w
  /-- there is none, and nothing is asked for -/
  | nowhere : ¬ ShowsRevision i .fotaService w → ¬ ShowsRevision i .deviceInformation w →
      Revision.read (link i) w = .error (.failed .revisionNotFound) w → Sourced i w

/-- **A revision has one source**, and an enquiry of that source is all there is. -/
theorem sourced (i : Nat) (w : World Radio RadioAction) : Sourced i w := by
  by_cases hown : ShowsRevision i .fotaService w
  · obtain ⟨found, hfound⟩ := hown.exists_find?
    obtain ⟨s, hs, hfirst⟩ := Gatt.exists_firstIn_of_find? hfound
    obtain ⟨new, outcome, henquiry, hamounts⟩ := enquiry_own hfound
    exact .own hs hfirst henquiry (hamounts.of_eq (revision_of_own hown))
  by_cases hinformation : ShowsRevision i .deviceInformation w
  · obtain ⟨found, hfound⟩ := hinformation.exists_find?
    obtain ⟨new, outcome, henquiry, hamounts⟩ := enquiry_information hfound
    exact .information hown hinformation henquiry
      (hamounts.of_eq (revision_of_information hown hinformation))
  · exact .nowhere hown hinformation (revision_of_nowhere hown hinformation)

/-- The reading of the revision makes the call, whatever comes of it. -/
def AsksFor (i : Nat) (w : World Radio RadioAction) (c : Call) : Prop :=
  ∃ new refused, w.Tells new (endState (Revision.read (link i) w)) ∧ (c, refused) ∈ new

theorem asksFor_iff (htells : w.Tells new (endState (Revision.read (link i) w))) :
    AsksFor i w c ↔ ∃ refused, (c, refused) ∈ new := by
  constructor
  · rintro ⟨new', refused, htells', hmem⟩
    rw [htells'.eq_of_told_eq htells.told_eq] at hmem
    exact ⟨refused, hmem⟩
  · rintro ⟨refused, hmem⟩
    exact ⟨new, refused, htells, hmem⟩

theorem showsRevision_of_firstIn {s : Service}
    (hs : (w.device.peripheral i).known.FirstOf service s)
    (hfound : s.FirstIn .firmwareRevision found) : ShowsRevision i service w :=
  ⟨s, hs, Service.exposes_iff.2 ⟨found, hfound.mem, hfound.uuid_eq⟩⟩

/-- The revision of a service is asked for exactly if the enquiry is of this service. -/
theorem Enquiry.asksFor_iff (h : Enquiry i w service described new outcome)
    (hamounts : AmountsTo (Revision.read (link i)) w new outcome) :
    AsksFor i w (.read u .firmwareRevision) ↔ u = service := by
  rw [Radio.asksFor_iff hamounts.tells, h.reads_iff]

/-- An enquiry fails with nothing but an error of the radio. -/
theorem Enquiry.failed_radio (h : Enquiry i w service described new outcome)
    (hamounts : AmountsTo (Revision.read (link i)) w new outcome)
    (hread : Revision.read (link i) w = .error (.failed error) w') :
    ∃ e, error = .link (.radio e) := by
  rw [hamounts.eq_error hread] at h
  exact h.eq_radio

theorem not_asksFor_of_nowhere
    (h : Revision.read (link i) w = .error (.failed .revisionNotFound) w) : ¬ AsksFor i w c := by
  have htells : w.Tells [] (endState (Revision.read (link i) w)) := by
    rw [h]
    exact .refl _
  rw [asksFor_iff htells]
  rintro ⟨refused, hmem⟩
  cases hmem

theorem fotaService_ne_deviceInformation : Uuid.fotaService ≠ .deviceInformation := by decide

theorem asksFor_own_iff :
    AsksFor i w (.read .fotaService .firmwareRevision) ↔ ShowsRevision i .fotaService w := by
  rcases sourced i w with ⟨hs, hfirst, henquiry, hamounts⟩ | ⟨hown, -, henquiry, hamounts⟩ |
    ⟨hown, -, hread⟩
  · exact iff_of_true ((henquiry.asksFor_iff hamounts).2 rfl) (showsRevision_of_firstIn hs hfirst)
  · exact iff_of_false
      (mt (henquiry.asksFor_iff hamounts).1 fotaService_ne_deviceInformation) hown
  · exact iff_of_false (not_asksFor_of_nowhere hread) hown

theorem asksFor_information_iff : AsksFor i w (.read .deviceInformation .firmwareRevision) ↔
    ¬ ShowsRevision i .fotaService w ∧ ShowsRevision i .deviceInformation w := by
  rcases sourced i w with ⟨hs, hfirst, henquiry, hamounts⟩ |
    ⟨hown, hinformation, henquiry, hamounts⟩ | ⟨-, hinformation, hread⟩
  · refine iff_of_false ?_ fun h => h.1 (showsRevision_of_firstIn hs hfirst)
    exact mt (henquiry.asksFor_iff hamounts).1 fotaService_ne_deviceInformation.symm
  · exact iff_of_true ((henquiry.asksFor_iff hamounts).2 rfl) ⟨hown, hinformation⟩
  · exact iff_of_false (not_asksFor_of_nowhere hread) fun h => hinformation h.2

theorem notFound_iff : (∃ w', Revision.read (link i) w = .error (.failed .revisionNotFound) w') ↔
    ¬ ShowsRevision i .fotaService w ∧ ¬ ShowsRevision i .deviceInformation w := by
  constructor
  · rintro ⟨w', hfails⟩
    rcases sourced i w with ⟨-, -, henquiry, hamounts⟩ | ⟨-, -, henquiry, hamounts⟩ |
      ⟨hown, hinformation, -⟩
    · obtain ⟨e, he⟩ := henquiry.failed_radio hamounts hfails
      cases he
    · obtain ⟨e, he⟩ := henquiry.failed_radio hamounts hfails
      cases he
    · exact ⟨hown, hinformation⟩
  · rintro ⟨hown, hinformation⟩
    exact ⟨w, revision_of_nowhere hown hinformation⟩

theorem ne_characteristicNotFound (u : Uuid) (w' : World Radio RadioAction) :
    Revision.read (link i) w ≠ .error (.failed (.link (.characteristicNotFound u))) w' := by
  intro hfails
  rcases sourced i w with ⟨-, -, henquiry, hamounts⟩ | ⟨-, -, henquiry, hamounts⟩ | ⟨-, -, hread⟩
  · obtain ⟨e, he⟩ := henquiry.failed_radio hamounts hfails
    cases he
  · obtain ⟨e, he⟩ := henquiry.failed_radio hamounts hfails
    cases he
  · cases hread.symm.trans hfails

theorem description_iff (hread : Revision.read (link i) w = .ok r w') : r.description.isSome ↔
    ∃ s found, (w.device.peripheral i).known.FirstOf .fotaService s ∧
      s.FirstIn .firmwareRevision found ∧ found.HasDescriptor .userDescription := by
  rcases sourced i w with ⟨hs, hfirst, henquiry, hamounts⟩ | ⟨hown, -, henquiry, hamounts⟩ |
    ⟨-, -, hnowhere⟩
  · rw [hamounts.eq_ok hread] at henquiry
    rw [henquiry.description_iff]
    constructor
    · exact fun hdescribed => ⟨_, _, hs, hfirst, hdescribed⟩
    · rintro ⟨t, other, ht, hother, hdescribed⟩
      exact (hfirst.hasDescriptor_iff hother (hs.outline_eq ht)).2 hdescribed
  · rw [hamounts.eq_ok hread] at henquiry
    rw [henquiry.description_iff]
    refine iff_of_false not_false ?_
    rintro ⟨t, other, ht, hother, -⟩
    exact hown (showsRevision_of_firstIn ht hother)
  · cases hnowhere.symm.trans hread

end

/-- Where the revision of a peripheral comes from, and what becomes of a failure. -/
structure Provenance (i : Nat) (w : World Radio RadioAction) : Prop where
  /-- one source is asked, and what it comes to is the outcome -/
  sourced : Sourced i w
  /-- the update service's is read exactly if a lookup sees it, whatever comes of it -/
  own_iff : AsksFor i w (.read .fotaService .firmwareRevision) ↔ ShowsRevision i .fotaService w
  /-- the device information service's, exactly if a lookup sees no other -/
  information_iff : AsksFor i w (.read .deviceInformation .firmwareRevision) ↔
    ¬ ShowsRevision i .fotaService w ∧ ShowsRevision i .deviceInformation w
  notFound_iff : (∃ w', Revision.read (link i) w = .error (.failed .revisionNotFound) w') ↔
    ¬ ShowsRevision i .fotaService w ∧ ¬ ShowsRevision i .deviceInformation w
  /-- what was seen when it was looked for is found when it is read -/
  ne_characteristicNotFound : ∀ u w',
    Revision.read (link i) w ≠ .error (.failed (.link (.characteristicNotFound u))) w'
  /-- a revision that is read is described exactly if it is the update service's own, of a
      characteristic with a description -/
  description_iff : ∀ r w', Revision.read (link i) w = .ok r w' → (r.description.isSome ↔
    ∃ s found, (w.device.peripheral i).known.FirstOf .fotaService s ∧
      s.FirstIn .firmwareRevision found ∧ found.HasDescriptor .userDescription)
  /-- a characteristic that is alone with its identifiers answers for itself -/
  alone : ∀ service found, (w.device.peripheral i).gatt.all service .firmwareRevision = [found] →
    (w.device.peripheral i).gatt.value service .firmwareRevision = found.value ∧
      (w.device.peripheral i).gatt.descriptor? service .firmwareRevision .userDescription =
        found.descriptors.lookup .userDescription
  /-- where no other service has its identifier, a service shows a revision if it exposes one -/
  sole : ∀ service, (∀ s ∈ (w.device.peripheral i).known, ∀ t ∈ (w.device.peripheral i).known,
      s.uuid = service → t.uuid = service → s = t) →
    (ShowsRevision i service w ↔ ∃ s ∈ (w.device.peripheral i).known,
      s.uuid = service ∧ s.exposes .firmwareRevision)

/-- **The revision is the update service's** if a lookup sees one there, else the device
    information service's. -/
theorem provenance (i : Nat) (w : World Radio RadioAction) : Provenance i w where
  sourced := sourced i w
  own_iff := asksFor_own_iff
  information_iff := asksFor_information_iff
  notFound_iff := notFound_iff
  ne_characteristicNotFound := ne_characteristicNotFound
  description_iff _ _ := description_iff
  alone _ _ h := ⟨Gatt.value_of_alone h, Gatt.descriptor?_of_alone h⟩
  sole _ h := Gatt.sees_iff_of_sole h

/-- A peripheral that tells its revision in both services and describes it, and does not let the
    description be read. -/
def grudging : World Radio RadioAction :=
  .initial 600000 (.unused 1 [{ Peripheral.absent with
    linked := true
    discovered := true
    gatt := [⟨.deviceInformation, [⟨.firmwareRevision, [[0x30]], []⟩]⟩,
      ⟨.fotaService, [⟨.firmwareRevision, [[0x31]], [(.userDescription, [0x61])]⟩]⟩] }]
    [⟨.readDescriptor, none, .permissionDenied⟩])

/-- There the failure is the outcome: the other service is not asked. -/
theorem provenance_of_grudging :
    AsksFor 0 grudging (.read .fotaService .firmwareRevision) ∧
      ¬ AsksFor 0 grudging (.read .deviceInformation .firmwareRevision) ∧
      ∃ w', Revision.read (link 0) grudging =
        .error (.failed (.link (.radio .permissionDenied))) w' := by
  have hshows : ShowsRevision 0 .fotaService grudging := has_iff_showsRevision.1 (by decide)
  refine ⟨(provenance 0 grudging).own_iff.2 hshows, fun hasks => ?_, _, rfl⟩
  exact ((provenance 0 grudging).information_iff.1 hasks).1 hshows

/-- A peripheral with two update services, of which the one that tells its revision comes
    second. -/
def paired : World Radio RadioAction :=
  .initial 600000 (.unused 1 [{ Peripheral.absent with
    linked := true
    discovered := true
    gatt := [⟨.fotaService, [⟨.ofAssigned 0x2a24, [], []⟩, ⟨.binaryStream, [], []⟩,
        ⟨.control, [], []⟩, ⟨.status, [], []⟩]⟩,
      ⟨.fotaService, [⟨.firmwareRevision, [[0x31]], [(.userDescription, [0x61])]⟩,
        ⟨.binaryStream, [], []⟩, ⟨.control, [], []⟩, ⟨.status, [], []⟩]⟩] }] [])

theorem read_paired : Revision.read (link 0) paired = .error (.failed .revisionNotFound) paired := by
  rfl

/-- What the update service exposes is not always read, and is not always found. -/
theorem not_always_read :
    (¬ ∀ w i, Offers i .firmwareRevision w →
      AsksFor i w (.read .fotaService .firmwareRevision)) ∧
    ¬ ∀ w i w', Revision.read (link i) w = .error (.failed .revisionNotFound) w' →
      ¬ Offers i .firmwareRevision w := by
  have hoffers : Offers 0 .firmwareRevision paired := by decide
  constructor
  · exact fun h => not_asksFor_of_nowhere read_paired (h paired 0 hoffers)
  · exact fun h => h paired 0 paired read_paired hoffers

end Radio

end AirUpdate
