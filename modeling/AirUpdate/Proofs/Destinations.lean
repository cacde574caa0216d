/-
  Air updates — where writes and subscriptions go.

  A write names its characteristic only.  It goes to the service that has the
  least identifier of all that expose the characteristic (`owner?_eq_some_iff`),
  and so does a subscription (`goesTo_of_owner?`).  A lookup names its service as
  well; of several services with one identifier it sees the one whose outline
  comes first (`isSome_find?_iff`).

  Hence what is meant for the update service reaches it exactly if no service with
  a smaller identifier exposes the same characteristic (`destination`), and there
  are peripherals where it does not (`not_always_own`).
-/
import AirUpdate.Proofs.CallLog
import Mathlib.Data.List.Lex
import Mathlib.Order.Lattice

namespace AirUpdate

/-! ## The least of several things -/

/-- Nothing comes before the least. -/
theorem not_lt_of_leastBy? {α κ : Type} [LinearOrder κ] [DecidableLT κ] {key : α → κ}
    {as : List α} {a : α} (h : leastBy? key as = some a) : ∀ b ∈ as, ¬ key b < key a := by
  induction as generalizing a with
  | nil => cases h
  | cons c rest ih =>
    intro b hb
    simp only [leastBy?] at h
    cases hrest : leastBy? key rest with
    | none =>
      have hempty : rest = [] := by
        have hsome : (leastBy? key rest).isSome = false := by rw [hrest]; rfl
        rw [isSome_leastBy?, Bool.not_eq_false'] at hsome
        exact List.isEmpty_iff.1 hsome
      rw [hrest] at h
      cases h
      rw [hempty, List.mem_singleton] at hb
      rw [hb]
      exact lt_irrefl _
    | some d =>
      have hd := ih hrest
      rw [hrest] at h
      simp only at h
      split at h
      · next hlt =>
        cases h
        rcases List.mem_cons.1 hb with rfl | hb
        · exact lt_asymm hlt
        · exact hd b hb
      · next hle =>
        cases h
        rcases List.mem_cons.1 hb with rfl | hb
        · exact lt_irrefl _
        · exact fun hlt => hd b hb (hlt.trans_le (not_lt.1 hle))

theorem exists_leastBy? {α κ : Type} [LT κ] [DecidableLT κ] (key : α → κ) {as : List α} {a : α}
    (h : a ∈ as) : ∃ b, leastBy? key as = some b := by
  have hsome : (leastBy? key as).isSome := by
    rw [isSome_leastBy?]
    simpa using List.ne_nil_of_mem h
  exact Option.isSome_iff_exists.1 hsome

theorem Uuid.eq_of_toNat_eq {a b : Uuid} (h : a.bits.toNat = b.bits.toNat) : a = b :=
  congrArg Uuid.mk (BitVec.eq_of_toNat_eq h)

theorem Uuid.eq_of_le {a b : Uuid} (hab : a.le b) (hba : b.le a) : a = b := by
  simp only [Uuid.le, decide_eq_true_eq] at hab hba
  exact eq_of_toNat_eq (Nat.le_antisymm hab hba)

/-! ## Services that expose a characteristic -/

theorem Service.exposes_iff {s : Service} {u : Uuid} :
    s.exposes u ↔ ∃ c ∈ s.characteristics, c.uuid = u := by
  simp [Service.exposes]

/-- The outline of a service tells which characteristics it exposes. -/
theorem Service.exposes_iff_outline {s : Service} {u : Uuid} :
    s.exposes u ↔ ∃ word ∈ s.outline, word.head? = some u.bits.toNat := by
  rw [Service.exposes_iff]
  constructor
  · rintro ⟨c, hc, rfl⟩
    exact ⟨c.outline, mem_ascending.2 (List.mem_map_of_mem hc), rfl⟩
  · rintro ⟨word, hword, hhead⟩
    obtain ⟨c, hc, rfl⟩ := List.mem_map.1 (mem_ascending.1 hword)
    exact ⟨c, hc, Uuid.eq_of_toNat_eq (Option.some.inj hhead)⟩

namespace Gatt
variable {g : Gatt} {service u : Uuid}

/-- Of the services that expose a characteristic, this is the one with the least identifier. -/
structure LeastExposing (g : Gatt) (u : Uuid) (s : Service) : Prop where
  mem : s ∈ g
  exposes : s.exposes u
  le : ∀ t ∈ g, t.exposes u → s.uuid.le t.uuid

theorem LeastExposing.unique {s t : Service} (hs : g.LeastExposing u s)
    (ht : g.LeastExposing u t) : s.uuid = t.uuid :=
  Uuid.eq_of_le (hs.le t ht.mem ht.exposes) (ht.le s hs.mem hs.exposes)

/-- **Writes go to the least identifier.** -/
theorem owner?_eq_some_iff :
    g.owner? u = some service ↔ ∃ s, g.LeastExposing u s ∧ s.uuid = service := by
  have hleast : ∀ s, leastBy? (·.uuid.bits.toNat) (g.filter (·.exposes u)) = some s →
      g.LeastExposing u s := by
    intro s hs
    obtain ⟨hmem, hexposes⟩ := List.mem_filter.1 (mem_of_leastBy? hs)
    refine ⟨hmem, hexposes, fun t ht htu => ?_⟩
    have hnot := not_lt_of_leastBy? hs t (List.mem_filter.2 ⟨ht, htu⟩)
    simpa [Uuid.le] using hnot
  constructor
  · intro h
    obtain ⟨s, hs, rfl⟩ := Option.map_eq_some_iff.1 h
    exact ⟨s, hleast s hs, rfl⟩
  · rintro ⟨s, hs, rfl⟩
    have hmem : s ∈ g.filter (·.exposes u) := List.mem_filter.2 ⟨hs.mem, hs.exposes⟩
    obtain ⟨t, ht⟩ := exists_leastBy? (·.uuid.bits.toNat) hmem
    refine Option.map_eq_some_iff.2 ⟨t, ht, ?_⟩
    exact (hleast t ht).unique hs

/-- A characteristic that some service exposes has an owner. -/
theorem exists_leastExposing {s : Service} (hs : s ∈ g) (hexposes : s.exposes u) :
    ∃ t, g.LeastExposing u t := by
  have hmem : s ∈ g.filter (·.exposes u) := List.mem_filter.2 ⟨hs, hexposes⟩
  obtain ⟨t, ht⟩ := exists_leastBy? (·.uuid.bits.toNat) hmem
  obtain ⟨t', ht', -⟩ := owner?_eq_some_iff.1 (Option.map_eq_some_iff.2 ⟨t, ht, rfl⟩)
  exact ⟨t', ht'⟩

/-- Of the services with an identifier, this is one whose outline no other one precedes. -/
structure FirstOf (g : Gatt) (service : Uuid) (s : Service) : Prop where
  mem : s ∈ g
  uuid_eq : s.uuid = service
  not_preceded : ∀ t ∈ g, t.uuid = service → ¬ t.outline < s.outline

theorem firstOf_of_service? {s : Service} (h : g.service? service = some s) :
    g.FirstOf service s := by
  have hleast : ∀ t ∈ g.filter (·.uuid = service), ¬ t.outline < s.outline :=
    not_lt_of_leastBy? h
  obtain ⟨hmem, huuid⟩ := List.mem_filter.1 (mem_of_leastBy? h)
  refine ⟨hmem, of_decide_eq_true huuid, fun t ht hservice => ?_⟩
  exact hleast t (List.mem_filter.2 ⟨ht, decide_eq_true hservice⟩)

theorem exists_service? {s : Service} (hs : s ∈ g) (huuid : s.uuid = service) :
    ∃ t, g.service? service = some t :=
  exists_leastBy? Service.outline (List.mem_filter.2 ⟨hs, decide_eq_true huuid⟩)

/-- Two of which none precedes the other have one outline. -/
theorem FirstOf.outline_eq {s t : Service} (hs : g.FirstOf service s) (ht : g.FirstOf service t) :
    s.outline = t.outline :=
  le_antisymm (not_lt.1 (hs.not_preceded t ht.mem ht.uuid_eq))
    (not_lt.1 (ht.not_preceded s hs.mem hs.uuid_eq))

/-- And so they expose the same. -/
theorem FirstOf.exposes_iff {s t : Service} (hs : g.FirstOf service s) (ht : g.FirstOf service t) :
    s.exposes u ↔ t.exposes u := by
  rw [Service.exposes_iff_outline, hs.outline_eq ht, ← Service.exposes_iff_outline]

/-- **A lookup sees one service of an identifier**, the one whose outline comes first. -/
theorem isSome_find?_iff :
    (g.find? service u).isSome ↔ ∃ s, g.FirstOf service s ∧ s.exposes u := by
  constructor
  · intro h
    obtain ⟨c, hc⟩ := Option.isSome_iff_exists.1 h
    obtain ⟨s, hs, hfound⟩ := Option.bind_eq_some_iff.1 hc
    refine ⟨s, firstOf_of_service? hs, ?_⟩
    rw [← Service.isSome_find?, hfound]
    rfl
  · rintro ⟨s, hs, hexposes⟩
    obtain ⟨t, ht⟩ := exists_service? hs.mem hs.uuid_eq
    have hfind : g.find? service u = t.find? u := by
      unfold find?
      rw [ht]
      rfl
    rw [hfind, Service.isSome_find?]
    exact (hs.exposes_iff (firstOf_of_service? ht)).1 hexposes

end Gatt

/-! ## Destinations -/

namespace Radio
variable {w : World Radio RadioAction} {i : Nat} {u service : Uuid}

/-- The calls of a subscription to a characteristic of a service. -/
inductive Subscribing (address : String) (service u : Uuid) : List (Call × Bool) → Prop
  /-- the radio does not open a stream of notifications -/
  | unopened : Subscribing address service u [(Call.notifications address).refused]
  | opened {refused} : Subscribing address service u
      [(Call.notifications address).done, (Call.subscribe service u, refused)]

/-- What is written to the characteristic goes to this service, whatever it is and however it
    ends, and so does a subscription. -/
structure GoesTo (i : Nat) (u service : Uuid) (w : World Radio RadioAction) : Prop where
  write : ∀ data mode, ∃ refused,
    w.Tells [(.write service u data mode, refused)] (endState ((link i).write u data mode w))
  subscribe : ∃ new, Subscribing (w.device.peripheral i).address service u new ∧
    w.Tells new (endState ((link i).subscribe u w))

/-- A write has one destination. -/
theorem GoesTo.unique {other : Uuid} (h : GoesTo i u service w) (h' : GoesTo i u other w) :
    service = other := by
  obtain ⟨refused, htells⟩ := h.write [] .request
  obtain ⟨refused', htells'⟩ := h'.write [] .request
  have hcall := htells.eq_of_told_eq htells'.told_eq
  simpa using congrArg (List.map Prod.fst) hcall

theorem write_goes (howner : (w.device.peripheral i).known.owner? u = some service)
    (data : Bytes) (mode : WriteMode) : ∃ refused,
      w.Tells [(.write service u data mode, refused)] (endState (write i u data mode w)) := by
  rw [write_eq]
  simp only [World.seen_bind]
  rw [howner]
  simp only
  cases hcall : call (.write service u data mode) w with
  | ok _ w₁ =>
    rw [bind_of_ok hcall]
    have hrest : World.ActKeeps (SameRecord w₁.device) (carryOut i u data) :=
      (survives_record w₁.device).keeps_carryOut
    exact ⟨false, (tells_of_call hcall).trans (World.tells_nil (hrest w₁ w₁.sameRecord))⟩
  | error e w₁ =>
    rw [bind_eq_error.2 (Or.inl hcall)]
    exact ⟨true, (tells_of_call_error hcall).2⟩

theorem subscribe_goes (howner : (w.device.peripheral i).known.owner? u = some service) :
    ∃ new, Subscribing (w.device.peripheral i).address service u new ∧
      w.Tells new (endState (subscribe i u w)) := by
  unfold subscribe
  simp only [World.seen_bind]
  rw [howner]
  simp only [World.seen_bind]
  cases hopened : call (.notifications (w.device.peripheral i).address) w with
  | error e w₁ =>
    rw [bind_eq_error.2 (Or.inl hopened)]
    exact ⟨_, .unopened, (tells_of_call_error hopened).2⟩
  | ok _ w₁ =>
    rw [bind_of_ok hopened]
    cases hcall : call (.subscribe service u) w₁ with
    | error e w₂ =>
      rw [bind_eq_error.2 (Or.inl hcall)]
      exact ⟨_, .opened, (tells_of_call hopened).trans (tells_of_call_error hcall).2⟩
    | ok _ w₂ =>
      rw [bind_of_ok hcall]
      have hrest : World.ActKeeps (SameRecord w₂.device) (do
          needLink i
          World.onDevice fun r : Radio =>
            { r with forwarders := r.forwarders ++ [⟨i, u, [], true⟩] }) :=
        World.keeps_bind (keeps_needLink i) fun _ => World.keeps_onDevice fun _ _ h => h
      exact ⟨_, .opened, ((tells_of_call hopened).trans (tells_of_call hcall)).trans
        (World.tells_nil (hrest w₂ w₂.sameRecord))⟩

/-- **Writes and subscriptions go to the owner** of the characteristic. -/
theorem goesTo_of_owner? (howner : (w.device.peripheral i).known.owner? u = some service) :
    GoesTo i u service w :=
  ⟨write_goes howner, subscribe_goes howner⟩

/-- The update service of the peripheral exposes the characteristic. -/
def Offers (i : Nat) (u : Uuid) (w : World Radio RadioAction) : Prop :=
  ∃ s ∈ (w.device.peripheral i).known, s.uuid = .fotaService ∧ s.exposes u

instance : Decidable (Offers i u w) := inferInstanceAs (Decidable (∃ s ∈ _, _))

/-- Where a characteristic is written to and subscribed to, and whether it is reported. -/
structure Destination (i : Nat) (u : Uuid) (w : World Radio RadioAction) : Prop where
  /-- it is at the exposing service with the least identifier -/
  goes : ∃ s, (w.device.peripheral i).known.LeastExposing u s ∧ GoesTo i u s.uuid w
  /-- that is the update service exactly if no other one has a smaller identifier -/
  own_iff : GoesTo i u .fotaService w ↔
    ∀ s ∈ (w.device.peripheral i).known, s.exposes u → Uuid.fotaService.le s.uuid
  /-- the update service is reported to have it exactly if the first one of them has it -/
  has_iff : (link i).has .fotaService u w.device ↔
    ∃ s, (w.device.peripheral i).known.FirstOf .fotaService s ∧ s.exposes u

/-- **Where the writes and the subscriptions go** to a characteristic that the update service
    exposes. -/
theorem destination (h : Offers i u w) : Destination i u w := by
  obtain ⟨own, hown, hservice, hexposes⟩ := h
  obtain ⟨s, hs⟩ := Gatt.exists_leastExposing hown hexposes
  have hgoes : GoesTo i u s.uuid w :=
    goesTo_of_owner? (Gatt.owner?_eq_some_iff.2 ⟨s, hs, rfl⟩)
  refine ⟨⟨s, hs, hgoes⟩, ⟨fun hfota => ?_, fun hleast => ?_⟩, Gatt.isSome_find?_iff⟩
  · rw [hfota.unique hgoes]
    exact hs.le
  · have hfota : s.uuid = .fotaService :=
      Uuid.eq_of_le (hservice ▸ hs.le own hown hexposes) (hleast s hs.mem hs.exposes)
    rw [← hfota]
    exact hgoes

/-- A peripheral whose device information service exposes what is the update service's own, and
    which has two update services. -/
def crowded : World Radio RadioAction :=
  .initial 600000 (.unused 1 [{ Peripheral.absent with
    linked := true
    discovered := true
    gatt := [⟨.deviceInformation, [⟨.binaryStream, [], []⟩, ⟨.control, [], []⟩]⟩,
      ⟨.fotaService, [⟨.binaryStream, [], []⟩, ⟨.status, [], []⟩]⟩,
      ⟨.fotaService, [⟨.control, [], []⟩]⟩] }] [])

/-- There the status reports are the update service's own, the fragments are not. -/
theorem destination_of_crowded : Offers 0 .status crowded ∧ Offers 0 .binaryStream crowded ∧
    GoesTo 0 .status .fotaService crowded ∧ ¬ GoesTo 0 .binaryStream .fotaService crowded := by
  have hstatus : Offers 0 .status crowded := by decide
  have hstream : Offers 0 .binaryStream crowded := by decide
  refine ⟨hstatus, hstream, (destination hstatus).own_iff.2 (by decide), fun hfota => ?_⟩
  have hleast := (destination hstream).own_iff.1 hfota
  exact absurd hleast (by decide)

/-- What the update service exposes is neither always its own, nor always reported. -/
theorem not_always_own :
    (¬ ∀ w i, ∀ u ∈ [Uuid.binaryStream, .control, .status], Offers i u w →
      GoesTo i u .fotaService w) ∧
    ¬ ∀ w i, ∀ u ∈ [Uuid.binaryStream, .control, .status], Offers i u w →
      (link i).has .fotaService u w.device := by
  constructor
  · intro h
    have hfota := h crowded 0 .binaryStream (by simp) (by decide)
    have hother : GoesTo 0 .binaryStream .deviceInformation crowded :=
      goesTo_of_owner? (by decide)
    exact absurd (hfota.unique hother) (by decide)
  · intro h
    have hreported := h crowded 0 .control (by simp) (by decide)
    exact absurd hreported (by decide)

end Radio

end AirUpdate
