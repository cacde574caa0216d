/-
  Air updates — what a lookup finds, and what a read leaves of it.

  A lookup of a characteristic in a service goes to the service whose outline comes
  first, and there to the characteristic whose outline comes first
  (`exists_firstIn_of_find?`).  Those that come first may be several, but they have
  the same descriptors (`FirstIn.hasDescriptor_iff`), and so no later lookup can
  contradict an earlier one.

  A read takes a value off, and no more.  It changes no identifier and no outline,
  so a lookup behind it finds the same descriptors (`find?_afterRead`), and the
  peripheral answers for the same ones (`descriptor?_afterRead`).
-/
import AirUpdate.Proofs.Destinations

namespace AirUpdate

/-- A change that keeps the keys changes the pick, and makes no other. -/
theorem leastBy?_map {α κ : Type} [LT κ] [DecidableLT κ] {key : α → κ} {f : α → α}
    (hf : ∀ a, key (f a) = key a) (as : List α) :
    leastBy? key (as.map f) = (leastBy? key as).map f := by
  induction as with
  | nil => rfl
  | cons a rest ih =>
    rw [List.map_cons, leastBy?, leastBy?, ih]
    cases leastBy? key rest with
    | none => rfl
    | some b =>
      simp only [Option.map_some, hf]
      split
      · rfl
      · rfl

/-! ## Characteristics and their descriptors -/

namespace Characteristic
variable {c : Characteristic} {d : Uuid}

/-- The characteristic has a descriptor with the identifier. -/
def HasDescriptor (c : Characteristic) (d : Uuid) : Prop := ∃ e ∈ c.descriptors, e.1 = d

instance : Decidable (c.HasDescriptor d) := inferInstanceAs (Decidable (∃ e ∈ _, _))

theorem hasDescriptor_iff_any : c.HasDescriptor d ↔ c.descriptors.any (·.1 = d) := by
  simp [HasDescriptor]

theorem hasDescriptor_iff_outline : c.HasDescriptor d ↔ d.bits.toNat ∈ c.outline.tail := by
  unfold HasDescriptor outline
  rw [List.tail_cons, mem_ascending, List.mem_map]
  constructor
  · rintro ⟨e, he, rfl⟩
    exact ⟨e, he, rfl⟩
  · rintro ⟨e, he, hbits⟩
    exact ⟨e, he, Uuid.eq_of_toNat_eq hbits⟩

@[simp] theorem uuid_afterRead : c.afterRead.uuid = c.uuid := by
  unfold afterRead
  split <;> rfl

@[simp] theorem descriptors_afterRead : c.afterRead.descriptors = c.descriptors := by
  unfold afterRead
  split <;> rfl

/-- The characteristic after one with an identifier was read. -/
def afterReadOf (u : Uuid) (c : Characteristic) : Characteristic :=
  if c.uuid = u then c.afterRead else c

@[simp] theorem uuid_afterReadOf (u : Uuid) : (c.afterReadOf u).uuid = c.uuid := by
  unfold afterReadOf
  split <;> simp

@[simp] theorem descriptors_afterReadOf (u : Uuid) :
    (c.afterReadOf u).descriptors = c.descriptors := by
  unfold afterReadOf
  split <;> simp

theorem outline_afterReadOf (u : Uuid) (c : Characteristic) :
    (c.afterReadOf u).outline = c.outline := by
  simp [outline]

end Characteristic

/-! ## The first characteristic of a service -/

namespace Service
variable {s t : Service} {u d : Uuid} {c e : Characteristic}

/-- Of the service's characteristics with an identifier, this is one whose outline no other
    one precedes. -/
structure FirstIn (s : Service) (u : Uuid) (c : Characteristic) : Prop where
  mem : c ∈ s.characteristics
  uuid_eq : c.uuid = u
  not_preceded : ∀ e ∈ s.characteristics, e.uuid = u → ¬ e.outline < c.outline

theorem firstIn_of_find? (h : s.find? u = some c) : s.FirstIn u c := by
  have hleast : ∀ e ∈ s.characteristics.filter (·.uuid = u), ¬ e.outline < c.outline :=
    not_lt_of_leastBy? h
  obtain ⟨hmem, huuid⟩ := List.mem_filter.1 (mem_of_leastBy? h)
  refine ⟨hmem, of_decide_eq_true huuid, fun e he hu => ?_⟩
  exact hleast e (List.mem_filter.2 ⟨he, decide_eq_true hu⟩)

/-- Of two services with one outline, the first one of neither precedes that of the other. -/
theorem FirstIn.not_outline_lt (hs : s.FirstIn u c) (ht : t.FirstIn u e)
    (hsame : s.outline = t.outline) : ¬ c.outline < e.outline := by
  have hmem : c.outline ∈ t.outline := by
    rw [← hsame]
    exact mem_ascending.2 (List.mem_map_of_mem hs.mem)
  obtain ⟨c', hc', houtline⟩ := List.mem_map.1 (mem_ascending.1 hmem)
  have huuid : c'.uuid = c.uuid := Uuid.eq_of_toNat_eq (List.cons.inj houtline).1
  rw [← houtline]
  exact ht.not_preceded c' hc' (huuid.trans hs.uuid_eq)

theorem FirstIn.hasDescriptor_iff (hs : s.FirstIn u c) (ht : t.FirstIn u e)
    (hsame : s.outline = t.outline) : c.HasDescriptor d ↔ e.HasDescriptor d := by
  have houtline : c.outline = e.outline :=
    le_antisymm (not_lt.1 (ht.not_outline_lt hs hsame.symm))
      (not_lt.1 (hs.not_outline_lt ht hsame))
  rw [Characteristic.hasDescriptor_iff_outline, houtline,
    ← Characteristic.hasDescriptor_iff_outline]

/-- The service after a characteristic of the service with an identifier was read. -/
def afterRead (service u : Uuid) (s : Service) : Service :=
  if s.uuid = service then
    { s with characteristics := s.characteristics.map (Characteristic.afterReadOf u) }
  else s

@[simp] theorem uuid_afterRead (service : Uuid) : (s.afterRead service u).uuid = s.uuid := by
  unfold afterRead
  split <;> rfl

theorem outline_afterRead (service : Uuid) : (s.afterRead service u).outline = s.outline := by
  unfold afterRead
  split
  · simp only [outline, List.map_map, Function.comp_def, Characteristic.outline_afterReadOf]
  · rfl

/-- A read leaves the descriptors of what is looked up. -/
theorem find?_afterRead (service v : Uuid) :
    ((s.afterRead service v).find? u).map (·.descriptors) =
      (s.find? u).map (·.descriptors) := by
  unfold afterRead
  split
  · rw [find?, find?, List.filter_map, leastBy?_map (Characteristic.outline_afterReadOf v)]
    simp [Function.comp_def]
  · rfl

theorem descriptors_afterRead (service v : Uuid) :
    ((s.afterRead service v).characteristics.filter (·.uuid = u)).map (·.descriptors) =
      (s.characteristics.filter (·.uuid = u)).map (·.descriptors) := by
  unfold afterRead
  split
  · rw [List.filter_map, List.map_map]
    simp [Function.comp_def]
  · rfl

end Service

/-! ## Lookups -/

namespace Gatt
variable {g : Gatt} {service u d : Uuid} {c : Characteristic}

/-- A lookup sees the characteristic: it goes to a service that exposes it. -/
def Sees (g : Gatt) (service u : Uuid) : Prop := ∃ s, g.FirstOf service s ∧ s.exposes u

theorem afterRead_eq : g.afterRead service u = g.map (Service.afterRead service u) := rfl

theorem find?_afterRead (service' u' : Uuid) :
    ((g.afterRead service' u').find? service u).map (·.descriptors) =
      (g.find? service u).map (·.descriptors) := by
  have hservice : (g.afterRead service' u').service? service =
      (g.service? service).map (Service.afterRead service' u') := by
    rw [afterRead_eq, service?, service?, List.filter_map,
      leastBy?_map fun _ => Service.outline_afterRead service']
    simp [Function.comp_def]
  rw [find?, find?, hservice]
  cases g.service? service with
  | none => rfl
  | some s => exact Service.find?_afterRead service' u'

/-- A read leaves the descriptors that the peripheral answers for. -/
theorem descriptor?_afterRead (service' u' : Uuid) :
    (g.afterRead service' u').descriptor? service u d = g.descriptor? service u d := by
  have hall : ((g.afterRead service' u').all service u).map (·.descriptors) =
      (g.all service u).map (·.descriptors) := by
    unfold all
    rw [afterRead_eq, List.filter_map, List.flatMap_map, List.map_flatMap, List.map_flatMap]
    simp only [Function.comp_def, Service.uuid_afterRead, Service.descriptors_afterRead]
  have hread := congrArg (List.findSome? (List.lookup d)) hall
  rw [List.findSome?_map, List.findSome?_map] at hread
  exact hread

/-- What a lookup finds comes first in the service that comes first. -/
theorem exists_firstIn_of_find? (h : g.find? service u = some c) :
    ∃ s, g.FirstOf service s ∧ s.FirstIn u c := by
  obtain ⟨s, hs, hc⟩ := Option.bind_eq_some_iff.1 h
  exact ⟨s, firstOf_of_service? hs, Service.firstIn_of_find? hc⟩

theorem Sees.exists_find? (h : g.Sees service u) : ∃ c, g.find? service u = some c :=
  Option.isSome_iff_exists.1 (isSome_find?_iff.2 h)

/-- The peripheral answers for a descriptor of what a lookup finds. -/
theorem exists_descriptor? (h : g.find? service u = some c) (hd : c.HasDescriptor d) :
    ∃ value, g.descriptor? service u d = some value := by
  obtain ⟨s, hs, hc⟩ := exists_firstIn_of_find? h
  have hmem : c ∈ g.all service u := by
    refine List.mem_flatMap.2 ⟨s, ?_, ?_⟩
    · exact List.mem_filter.2 ⟨hs.mem, decide_eq_true hs.uuid_eq⟩
    · exact List.mem_filter.2 ⟨hc.mem, decide_eq_true hc.uuid_eq⟩
  obtain ⟨e, he, rfl⟩ := hd
  have hlookup : (c.descriptors.lookup e.1).isSome :=
    List.lookup_isSome_iff.2 ⟨e, he, beq_self_eq_true e.1⟩
  exact Option.isSome_iff_exists.1 (List.findSome?_isSome_iff.2 ⟨c, hmem, hlookup⟩)

/-- A characteristic that is alone with its identifiers answers for itself. -/
theorem value_of_alone (h : g.all service u = [c]) : g.value service u = c.value := by
  simp [value, h]

theorem descriptor?_of_alone (h : g.all service u = [c]) :
    g.descriptor? service u d = c.descriptors.lookup d := by
  simp [descriptor?, h]

/-- If there is only one service with the identifier, a lookup sees what it exposes. -/
theorem sees_iff_of_sole (hsole : ∀ s ∈ g, ∀ t ∈ g, s.uuid = service → t.uuid = service → s = t) :
    g.Sees service u ↔ ∃ s ∈ g, s.uuid = service ∧ s.exposes u := by
  constructor
  · rintro ⟨s, hs, hexposes⟩
    exact ⟨s, hs.mem, hs.uuid_eq, hexposes⟩
  · rintro ⟨s, hs, huuid, hexposes⟩
    refine ⟨s, ⟨hs, huuid, fun t ht ht' => ?_⟩, hexposes⟩
    rw [hsole t ht s hs ht' huuid]
    exact lt_irrefl _

end Gatt

end AirUpdate
