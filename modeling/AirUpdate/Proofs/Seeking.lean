/-
  Air updates — the search for a device and the attempts to connect to it.

  The search takes the first peripheral in sight that is meant (`FirstMeant`), and
  the attempts end with the first one that the radio takes (`firstTaken`).  Both
  look at things that neither the peripherals nor the calls on the way change
  (`Unmoved`, `Proceeds`).  `Yields` says what an activity comes to unless the
  radio refuses it something else (`Hindered`).

  What the two loops do is proved by induction on the list of the peripherals
  (`firstMeant_of_none`, `firstMeant_of_first`) and on the number of the attempts
  (`bringUp_of_all_refused`, `bringUp_of_taken`); `search_of_none`,
  `search_of_first`, `connect_of_all_refused` and `connect_of_taken` are what
  comes of it.
-/
import AirUpdate.Proofs.Releases
import Mathlib.Data.ENat.Lattice

namespace AirUpdate

/-! ## What is sought -/

/-- The texts are the same but for the case of ASCII letters. -/
def SameButCase (s t : String) : Prop := s.toList.map Char.toLower = t.toList.map Char.toLower

namespace Peripheral
variable {p q : Peripheral} {target : String}

/-- The peripheral advertises something, and its local name is the target or its address is, in
    either case. -/
def IsMeant (target : String) (p : Peripheral) : Prop :=
  ∃ a, p.advertisement = some a ∧ (a.name = some target ∨ SameButCase p.address target)

theorem isMeant_iff :
    p.IsMeant target ↔ p.advertisement.any (Discovery.isMeant target p.address) := by
  simp [IsMeant, Discovery.isMeant, SameButCase, Option.any_eq_true]

/-- What the peripheral shows of itself, be it connected or not. -/
def face (p : Peripheral) : String × Option Advertisement × List Bool :=
  (p.address, p.advertisement, p.sightings)

theorem isMeant_of_face (h : p.face = q.face) : p.IsMeant target ↔ q.IsMeant target := by
  obtain ⟨haddress, hadvertisement, -⟩ : p.address = q.address ∧
      p.advertisement = q.advertisement ∧ p.sightings = q.sightings := by simpa [face] using h
  rw [IsMeant, IsMeant, haddress, hadvertisement]

theorem isSighted_of_face (h : p.face = q.face) (n : Nat) : p.isSighted n = q.isSighted n := by
  have hsightings : p.sightings = q.sightings := congrArg (·.2.2) h
  rw [isSighted, isSighted, hsightings]

end Peripheral

namespace Radio
variable {r r' r'' : Radio} {i j m n : Nat} {target : String}

/-- The peripherals that the radio lists when it is asked next, in order. -/
def inSight (r : Radio) : List Nat :=
  (List.range r.peripherals.length).filter fun i =>
    (r.peripheral i).isSighted (r.callCount .peripherals)

/-- In sight, the peripheral comes right behind these, and it is the first that is meant. -/
structure FirstBehind (target : String) (r : Radio) (pre : List Nat) (i : Nat) : Prop where
  meant : (r.peripheral i).IsMeant target
  not_before : ∀ j ∈ pre, ¬ (r.peripheral j).IsMeant target
  inSight : ∃ post, r.inSight = pre ++ i :: post

/-- The first of the peripherals in sight that is meant. -/
def FirstMeant (target : String) (r : Radio) (i : Nat) : Prop := ∃ pre, r.FirstBehind target pre i

open Classical in
theorem firstMeant_iff_find? : r.FirstMeant target i ↔
    r.inSight.find? (fun j => (r.peripheral j).IsMeant target) = some i := by
  simp only [List.find?_eq_some_iff_append, decide_eq_true_eq, Bool.not_eq_true',
    decide_eq_false_iff_not]
  constructor
  · rintro ⟨pre, hmeant, hbefore, post, hsplit⟩
    exact ⟨hmeant, pre, post, hsplit, hbefore⟩
  · rintro ⟨hmeant, pre, post, hsplit, hbefore⟩
    exact ⟨pre, hmeant, hbefore, post, hsplit⟩

theorem FirstMeant.unique (hi : r.FirstMeant target i) (hj : r.FirstMeant target j) : i = j := by
  rw [firstMeant_iff_find?] at hi hj
  exact Option.some.inj (hi.symm.trans hj)

/-- Unless none of them is meant, there is a first one. -/
theorem exists_firstMeant (h : ¬ ∀ i ∈ r.inSight, ¬ (r.peripheral i).IsMeant target) :
    ∃ i, r.FirstMeant target i := by
  simp only [firstMeant_iff_find?]
  rw [← Option.isSome_iff_exists, List.find?_isSome]
  push Not at h
  simpa using h

theorem FirstMeant.mem (h : r.FirstMeant target i) :
    i ∈ r.inSight ∧ (r.peripheral i).IsMeant target := by
  obtain ⟨pre, hmeant, -, post, hsplit⟩ := h
  exact ⟨by simp [hsplit], hmeant⟩

theorem FirstMeant.lt_length (h : r.FirstMeant target i) : i < r.peripherals.length :=
  List.mem_range.1 (List.mem_filter.1 h.mem.1).1

/-! ## What is refused -/

/-- The radio refuses the attempt to connect that comes after so many more. -/
def RefusesAttempt (r : Radio) (m : Nat) : Prop :=
  ∃ f ∈ r.faults, f.kind = .connect ∧ (f.nth = none ∨ f.nth = some (r.callCount .connect + m + 1))

instance (r : Radio) (m : Nat) : Decidable (r.RefusesAttempt m) :=
  inferInstanceAs (Decidable (∃ f ∈ _, _))

/-- The position of the first attempt to connect that the radio takes, counted from one;
    infinite, if it takes none. -/
noncomputable def firstTaken (r : Radio) : ℕ∞ :=
  sInf {k | ∃ m : ℕ, ¬ r.RefusesAttempt m ∧ k = (m + 1 : ℕ)}

/-- The first attempt that is taken comes behind those that are all refused. -/
theorem lt_firstTaken_iff : (n : ℕ∞) < r.firstTaken ↔ ∀ m < n, r.RefusesAttempt m := by
  constructor
  · intro h m hm
    by_contra htaken
    have hle : r.firstTaken ≤ (m + 1 : ℕ) := sInf_le ⟨m, htaken, rfl⟩
    exact absurd (h.trans_le hle) (not_lt.2 (by exact_mod_cast Nat.succ_le_of_lt hm))
  · intro h
    have hle : ((n + 1 : ℕ) : ℕ∞) ≤ r.firstTaken := by
      refine le_sInf ?_
      rintro _ ⟨m, htaken, rfl⟩
      have hnm : n ≤ m := Nat.le_of_not_lt fun hm => htaken (h m hm)
      exact_mod_cast Nat.succ_le_succ hnm
    exact lt_of_lt_of_le (by exact_mod_cast Nat.lt_succ_self n) hle

theorem firstTaken_eq (hbefore : ∀ l < m, r.RefusesAttempt l) (htaken : ¬ r.RefusesAttempt m) :
    r.firstTaken = (m + 1 : ℕ) := by
  refine le_antisymm (sInf_le ⟨m, htaken, rfl⟩) ?_
  have hlt := lt_firstTaken_iff.2 hbefore
  exact_mod_cast Order.add_one_le_of_lt hlt

/-- Unless the first attempts are all refused, there is a first one among them that is taken. -/
theorem exists_firstTaken (h : ¬ ∀ m < n, r.RefusesAttempt m) :
    ∃ m < n, ¬ r.RefusesAttempt m ∧ ∀ l < m, r.RefusesAttempt l := by
  push Not at h
  have hfirst := Nat.find_spec h
  refine ⟨Nat.find h, hfirst.1, hfirst.2, fun l hl => ?_⟩
  by_contra htaken
  exact Nat.find_min h hl ⟨hl.trans hfirst.1, htaken⟩

theorem callCount_eq (r : Radio) (kind : CallKind) :
    r.callCount kind = r.told.countP fun c => c.1.kind = kind := by
  unfold callCount told calls
  rw [List.countP_map, List.countP_reverse]
  rfl

/-! ## What changes and what does not -/

theorem peripheral_onPeripheral {f : Peripheral → Peripheral} (hi : i < r.peripherals.length) :
    (r.onPeripheral i f).peripheral i = f (r.peripheral i) := by
  simp [onPeripheral, peripheral, List.getD_eq_getElem?_getD, hi]

theorem needLink_of_linked {w : World Radio RadioAction}
    (h : (w.device.peripheral i).linked = true) : needLink i w = .ok () w := by
  unfold needLink
  rw [World.seen_bind, if_pos h]
  rfl

/-- The radio has the same faults and its peripherals show the same of themselves; no link has
    come up. -/
structure Unmoved (r r' : Radio) : Prop where
  faults_eq : r'.faults = r.faults
  faces_eq : r'.peripherals.map (·.face) = r.peripherals.map (·.face)
  linked : ∀ j, (r'.peripheral j).linked = true → (r.peripheral j).linked = true

namespace Unmoved

theorem refl (r : Radio) : r.Unmoved r := ⟨rfl, rfl, fun _ => id⟩

theorem trans (h : r.Unmoved r') (h' : r'.Unmoved r'') : r.Unmoved r'' :=
  ⟨h'.faults_eq.trans h.faults_eq, h'.faces_eq.trans h.faces_eq,
    fun j hj => h.linked j (h'.linked j hj)⟩

variable (h : r.Unmoved r')
include h

theorem length_eq : r'.peripherals.length = r.peripherals.length := by
  simpa using congrArg List.length h.faces_eq

theorem face_eq (j : Nat) : (r'.peripheral j).face = (r.peripheral j).face := by
  have hface := congrArg (fun faces => (faces[j]?).getD Peripheral.absent.face) h.faces_eq
  simpa only [peripheral, List.getD_eq_getElem?_getD, List.getElem?_map, Option.getD_map]
    using hface

theorem isMeant_iff (j : Nat) :
    (r'.peripheral j).IsMeant target ↔ (r.peripheral j).IsMeant target :=
  Peripheral.isMeant_of_face (h.face_eq j)

theorem sighted_eq (n : Nat) :
    ((List.range r'.peripherals.length).filter fun i => (r'.peripheral i).isSighted n) =
      (List.range r.peripherals.length).filter fun i => (r.peripheral i).isSighted n := by
  rw [h.length_eq]
  exact List.filter_congr fun i _ => Peripheral.isSighted_of_face (h.face_eq i) n

theorem onPeripheral {f : Peripheral → Peripheral} (hface : ∀ p, (f p).face = p.face)
    (hlinked : ∀ p, (f p).linked = true → p.linked = true) (i : Nat) :
    r.Unmoved (r'.onPeripheral i f) := by
  refine h.trans ⟨rfl, ?_, fun j => linked_onPeripheral hlinked⟩
  refine List.ext_getElem? fun k => ?_
  simp only [Radio.onPeripheral, List.getElem?_map, List.getElem?_modify]
  cases r'.peripherals[k]? with
  | none => rfl
  | some p =>
    split
    · exact congrArg some (hface p)
    · rfl

end Unmoved

/-- **The peripherals change nothing of this** by themselves. -/
theorem keeps_unmoved (r : Radio) :
    Peer.Keeps (A := RadioAction) (fun r' (_ : Mailbox) => r.Unmoved r') where
  settle _ _ h := h.trans ⟨rfl, rfl, fun _ => id⟩
  perform a d m h := by
    have hsevered :
        r.Unmoved (d.onPeripheral a.peripheral fun p => { p with linked := false }) := by
      refine h.onPeripheral (fun _ => ?_) (fun _ hup => ?_) _
      · rfl
      · cases hup
    simp only [Peer.perform, perform]
    split
    · exact h.trans ⟨rfl, rfl, fun _ => id⟩
    · exact hsevered.trans ⟨rfl, rfl, fun _ => id⟩
    · exact h.trans ⟨rfl, rfl, fun _ => id⟩
    · exact h.trans ⟨rfl, rfl, fun _ => id⟩

end Radio

namespace World
variable {α β : Type} {w w' w'' : World Radio RadioAction} {new new' : List (Call × Bool)}
  {c : Call} {milliseconds : Nat}

/-- How many of the calls are attempts to connect. -/
def connects (new : List (Call × Bool)) : Nat := new.countP fun c => c.1.kind = .connect

theorem connects_append (xs ys : List (Call × Bool)) :
    connects (xs ++ ys) = connects xs + connects ys := List.countP_append

@[simp] theorem connects_refused (a : String) (n : Nat) :
    connects (List.replicate n (Call.connect a).refused) = n := by
  rw [connects, List.countP_replicate, if_pos (by simp [Call.kind])]

/-- The program has made these calls, and nothing else has changed that matters for the search
    or the attempts. -/
structure Proceeds (w : World Radio RadioAction) (new : List (Call × Bool))
    (w' : World Radio RadioAction) : Prop where
  tells : w.Tells new w'
  unmoved : w.device.Unmoved w'.device

namespace Proceeds

theorem refl (w : World Radio RadioAction) : w.Proceeds [] w := ⟨.refl _, .refl _⟩

theorem trans (h : w.Proceeds new w') (h' : w'.Proceeds new' w'') :
    w.Proceeds (new ++ new') w'' :=
  ⟨h.tells.trans h'.tells, h.unmoved.trans h'.unmoved⟩

variable (h : w.Proceeds new w')
include h

theorem address_eq (i : Nat) : (w'.device.peripheral i).address = (w.device.peripheral i).address :=
  h.tells.address_eq i

theorem callCount_eq (kind : CallKind) : w'.device.callCount kind =
    w.device.callCount kind + new.countP fun c => c.1.kind = kind := by
  rw [Radio.callCount_eq, Radio.callCount_eq, h.tells.told_eq, List.countP_append]

/-- The attempts so far do not count any more. -/
theorem refusesAttempt_iff (m : Nat) :
    w'.device.RefusesAttempt m ↔ w.device.RefusesAttempt (connects new + m) := by
  unfold Radio.RefusesAttempt
  rw [h.unmoved.faults_eq, h.callCount_eq, Nat.add_assoc (w.device.callCount .connect)]
  rfl

end Proceeds

/-- The world after a call was written down. -/
def noted (c : Call) (refused : Bool) (w : World Radio RadioAction) : World Radio RadioAction :=
  { w with device := { w.device with log := ⟨w.now, c, refused⟩ :: w.device.log } }

theorem proceeds_noted (c : Call) (refused : Bool) (w : World Radio RadioAction) :
    w.Proceeds [(c, refused)] (w.noted c refused) :=
  ⟨⟨Radio.told_cons _ _, fun _ => rfl⟩, ⟨rfl, rfl, fun _ => id⟩⟩

/-- The activity halts at a call that is refused and is no attempt to connect. -/
def Hindered (w : World Radio RadioAction)
    (result : EStateM.Result Halt (World Radio RadioAction) α) : Prop :=
  ∃ e w' before, ∃ c : Call, result = .error e w' ∧ w.Tells (before ++ [c.refused]) w' ∧
    c.kind ≠ .connect

/-- The activity comes to its end with this result and these calls, unless it is hindered. -/
def Yields (act : Radio.Use α) (w : World Radio RadioAction) (a : α) (new : List (Call × Bool)) :
    Prop :=
  (∃ w', act w = .ok a w' ∧ w.Proceeds new w') ∨ w.Hindered (act w)

theorem Hindered.bind {x : Radio.Use α} {f : α → Radio.Use β} (h : w.Hindered (x w)) :
    w.Hindered ((x >>= f) w) := by
  obtain ⟨e, w', before, c, hx, htells, hc⟩ := h
  exact ⟨e, w', before, c, bind_eq_error.2 (Or.inl hx), htells, hc⟩

/-- What is hindered after some other calls is hindered. -/
theorem Hindered.after {result : EStateM.Result Halt (World Radio RadioAction) α}
    (hnew : w.Tells new w') (h : w'.Hindered result) : w.Hindered result := by
  obtain ⟨e, w₁, before, c, hresult, htells, hc⟩ := h
  refine ⟨e, w₁, new ++ before, c, hresult, ?_, hc⟩
  rw [List.append_assoc]
  exact hnew.trans htells

theorem Yields.bind {x : Radio.Use α} {f : α → Radio.Use β} {a : α} {b : β} (h : Yields x w a new)
    (rest : List (Call × Bool))
    (hf : ∀ w₁, x w = .ok a w₁ → w.Proceeds new w₁ → Yields (f a) w₁ b rest) :
    Yields (x >>= f) w b (new ++ rest) := by
  rcases h with ⟨w₁, hx, hnew⟩ | hhindered
  · rw [Yields, bind_of_ok hx]
    rcases hf w₁ hx hnew with ⟨w₂, hresult, hrest⟩ | hhindered
    · exact Or.inl ⟨w₂, hresult, hnew.trans hrest⟩
    · exact Or.inr (hhindered.after hnew.tells)
  · exact Or.inr hhindered.bind

theorem yields_pure (a : α) (w : World Radio RadioAction) : Yields (pure a) w a [] :=
  Or.inl ⟨w, rfl, .refl w⟩

theorem yields_seen (f : Radio → α) (w : World Radio RadioAction) :
    Yields (seen f) w (f w.device) [] :=
  Or.inl ⟨w, rfl, .refl w⟩

theorem eq_noted_of_call (h : Radio.call c w = .ok () w') : w' = w.noted c false := by
  unfold Radio.call at h
  split at h
  · cases h
  · cases h
    rfl

theorem call_of_none (h : w.device.fault? c = none) :
    Radio.call c w = .ok () (w.noted c false) := by
  unfold Radio.call
  rw [h]
  rfl

/-- A call that a fault refuses fails with the error of the fault. -/
theorem call_of_fault {f : Fault} (h : w.device.fault? c = some f) :
    Radio.call c w = .error (.failed (.link (.radio f.error))) (w.noted c true) := by
  unfold Radio.call
  rw [h]
  rfl

/-- What is no attempt to connect is granted, or hinders the program. -/
theorem yields_call (hc : c.kind ≠ .connect) : Yields (Radio.call c) w () [c.done] := by
  cases hcall : Radio.call c w with
  | ok _ w₁ =>
    cases eq_noted_of_call hcall
    exact Or.inl ⟨_, hcall, proceeds_noted c false w⟩
  | error e w₁ => exact Or.inr ⟨e, w₁, [], c, hcall, (Radio.tells_of_call_error hcall).2, hc⟩

/-- A wait that would end before the limit comes to its end. -/
theorem yields_sleep (h : w.now + milliseconds < w.limit) :
    Yields (sleep milliseconds) w () [] := by
  have hslept : ∃ w', sleep milliseconds w = .ok () w' := by
    unfold sleep
    split
    · unfold blink
      split
      · exact ⟨_, rfl⟩
      · rw [if_neg (by omega)]
        exact ⟨_, rfl⟩
    · rw [if_pos h.le]
      exact ⟨_, rfl⟩
  obtain ⟨w', hslept⟩ := hslept
  exact Or.inl ⟨w', hslept, tells_of_sleep hslept,
    (keeps_sleep (Radio.keeps_unmoved w.device) milliseconds).ok (Radio.Unmoved.refl _) hslept⟩

/-- Whether an attempt to connect has a fault against it. -/
theorem isSome_fault?_connect (r : Radio) (a : String) :
    (r.fault? (.connect a)).isSome ↔ r.RefusesAttempt 0 := by
  simp only [Radio.fault?, List.find?_isSome, Fault.refuses, Bool.and_eq_true, Bool.or_eq_true,
    decide_eq_true_eq, Option.isNone_iff_eq_none]
  rfl

theorem connect_eq_ok {a : String} (h : ¬ w.device.RefusesAttempt 0) :
    Radio.call (.connect a) w = .ok () (w.noted (.connect a) false) := by
  have hnone : w.device.fault? (.connect a) = none := by
    rw [← isSome_fault?_connect w.device a] at h
    simpa using h
  exact call_of_none hnone

theorem connect_eq_error {a : String} (h : w.device.RefusesAttempt 0) :
    ∃ e, Radio.call (.connect a) w = .error e (w.noted (.connect a) true) := by
  obtain ⟨f, hf⟩ := Option.isSome_iff_exists.1 ((isSome_fault?_connect w.device a).2 h)
  exact ⟨_, call_of_fault hf⟩

end World

namespace Discovery
open World
variable {w w' : World Radio RadioAction} {i m n milliseconds : Nat} {target : String}
  {pre post : List Nat}

/-! ## The search -/

/-- The addresses of some peripherals. -/
def addresses (r : Radio) (is : List Nat) : List String := is.map fun j => (r.peripheral j).address

/-- The addresses stay the same on the way. -/
theorem addresses_eq {new : List (Call × Bool)} (h : w.Proceeds new w') (is : List Nat) :
    addresses w'.device is = addresses w.device is :=
  List.map_congr_left fun j _ => h.address_eq j

theorem yields_look (htime : w.now + milliseconds < w.limit) :
    Yields (Radio.look milliseconds) w w.device.inSight (scanned []) := by
  refine (yields_call (c := .startScan) (by simp [Call.kind])).bind _ fun w₁ hcall hbegun => ?_
  have htime₁ : w₁.now + milliseconds < w₁.limit := by
    rw [eq_noted_of_call hcall]
    exact htime
  refine (yields_sleep htime₁).bind [Call.peripherals.done] fun w₂ _ hwaited => ?_
  have hlater := hbegun.trans hwaited
  refine (yields_call (c := .peripherals) (by simp [Call.kind])).bind _ fun w₃ _ hlisted => ?_
  have hcount : w₂.device.callCount .peripherals = w.device.callCount .peripherals := by
    simp [hlater.callCount_eq, Call.kind]
  have hsame : w.device.inSight = (List.range w₃.device.peripherals.length).filter fun i =>
      (w₃.device.peripheral i).isSighted (w₂.device.callCount .peripherals) := by
    rw [hcount, (hlater.trans hlisted).unmoved.sighted_eq]
    rfl
  rw [hsame]
  exact yields_seen _ w₃

theorem yields_advertisementOf (i : Nat) (w : World Radio RadioAction) :
    Yields (Radio.advertisementOf i) w (w.device.peripheral i).advertisement
      (looked [(w.device.peripheral i).address]) := by
  refine (yields_call (c := .properties (w.device.peripheral i).address)
    (by simp [Call.kind])).bind _ fun w₁ hcall _ => ?_
  cases eq_noted_of_call hcall
  exact yields_seen (fun r : Radio => (r.peripheral i).advertisement)
    (w.noted (.properties (w.device.peripheral i).address) false)

/-- The search looks at one peripheral and, if it is not meant, at the others. -/
theorem yields_firstMeant_cons {rest is : List Nat} {found : Option Nat}
    (h : ∀ w₁, w.Proceeds (looked [(w.device.peripheral i).address]) w₁ →
      Yields (if (w.device.peripheral i).advertisement.any
          (isMeant target (w.device.peripheral i).address) then pure (some i)
        else firstMeant target rest) w₁ found (looked (addresses w₁.device is))) :
    Yields (firstMeant target (i :: rest)) w found (looked (addresses w.device (i :: is))) := by
  refine (yields_advertisementOf i w).bind (looked (addresses w.device is))
    fun w₁ _ hlooked => ?_
  have hrest := h w₁ hlooked
  rw [← hlooked.address_eq i, addresses_eq hlooked] at hrest
  exact hrest

/-- **Where none is meant**, all are looked at. -/
theorem firstMeant_of_none {is : List Nat}
    (hnone : ∀ j ∈ is, ¬ (w.device.peripheral j).IsMeant target) :
    Yields (firstMeant target is) w none (looked (addresses w.device is)) := by
  induction is generalizing w with
  | nil => exact yields_pure none w
  | cons i rest ih =>
    refine yields_firstMeant_cons fun w₁ hlooked => ?_
    have hi := hnone i List.mem_cons_self
    rw [Peripheral.isMeant_iff] at hi
    rw [if_neg hi]
    exact ih fun j hj => mt (hlooked.unmoved.isMeant_iff j).1 (hnone j (List.mem_cons_of_mem i hj))

/-- **The search ends with the first one** that is meant. -/
theorem firstMeant_of_first (hi : (w.device.peripheral i).IsMeant target)
    (hpre : ∀ j ∈ pre, ¬ (w.device.peripheral j).IsMeant target) :
    Yields (firstMeant target (pre ++ i :: post)) w (some i)
      (looked (addresses w.device (pre ++ [i]))) := by
  -- what is in front of it is left behind, one by one, and shows the same as before
  induction pre generalizing w with
  | nil =>
    refine yields_firstMeant_cons fun w₁ _ => ?_
    rw [Peripheral.isMeant_iff] at hi
    rw [if_pos hi]
    exact yields_pure (some i) w₁
  | cons j pre ih =>
    refine yields_firstMeant_cons fun w₁ hlooked => ?_
    have hj := hpre j List.mem_cons_self
    rw [Peripheral.isMeant_iff] at hj
    rw [if_neg hj]
    exact ih ((hlooked.unmoved.isMeant_iff i).2 hi)
      fun k hk => mt (hlooked.unmoved.isMeant_iff k).1 (hpre k (List.mem_cons_of_mem j hk))

/-- The calls of a search that has looked at these peripherals. -/
def searching (r : Radio) (is : List Nat) : List (Call × Bool) :=
  scanned (addresses r is) ++ [Call.stopScan.done]

theorem kind_of_mem_searching {r : Radio} {is : List Nat} {c : Call × Bool}
    (h : c ∈ searching r is) : c.1.kind ∈ [.startScan, .peripherals, .properties, .stopScan] := by
  rcases List.mem_append.1 h with h | h
  · rcases List.mem_cons.1 h with rfl | h
    · simp [Call.kind]
    rcases List.mem_cons.1 h with rfl | h
    · simp [Call.kind]
    obtain ⟨a, rfl⟩ := mem_looked h
    simp [Call.kind]
  · rw [List.mem_singleton.1 h]
    simp [Call.kind]

@[simp] theorem connects_searching (r : Radio) (is : List Nat) : connects (searching r is) = 0 := by
  refine List.countP_eq_zero.2 fun c hc => ?_
  have hkind := kind_of_mem_searching hc
  simp only [decide_eq_true_eq]
  rintro hconnect
  simp [hconnect] at hkind

/-- The calls of a search and of the attempts to connect that were refused then. -/
def trying (r : Radio) (is : List Nat) (address : String) (refusals : Nat) : List (Call × Bool) :=
  searching r is ++ List.replicate refusals (Call.connect address).refused

section
variable {r : Radio} {is : List Nat} {address : String} {refusals : Nat} {c : Call × Bool}

@[simp] theorem connects_trying : connects (trying r is address refusals) = refusals := by
  rw [trying, connects_append, connects_searching, connects_refused, Nat.zero_add]

theorem eq_connect_of_mem_trying (h : c ∈ trying r is address refusals)
    (hkind : c.1.kind = .connect) : c.1 = .connect address := by
  rcases List.mem_append.1 h with h | h
  · have hsearched := kind_of_mem_searching h
    simp [hkind] at hsearched
  · rw [List.eq_of_mem_replicate h]

/-- Nothing is learned on the way. -/
theorem kind_ne_of_mem_trying (h : c ∈ trying r is address refusals) :
    c.1.kind ≠ .discoverServices := by
  intro hkind
  rcases List.mem_append.1 h with h | h
  · have hsearched := kind_of_mem_searching h
    simp [hkind] at hsearched
  · rw [List.eq_of_mem_replicate h] at hkind
    cases hkind

end

/-- A scan for the first peripheral that is meant. -/
def search (target : String) (milliseconds : Nat) : Radio.Use (Option Nat) :=
  scanning milliseconds (firstMeant target) .ok

/-- Whoever looks for a device goes by what the search has found. -/
theorem find_eq_search (target : String) (milliseconds : Nat) :
    find target milliseconds = search target milliseconds >>= fun found =>
      found.elim (World.fail (.deviceNotFound target)) pure := by
  unfold find search scanning
  simp only [bind_assoc]
  refine congrArg _ (funext fun inSight => congrArg _ (funext fun found => ?_))
  cases found <;> rfl

theorem yields_search {found : Option Nat} {is : List Nat}
    (htime : w.now + milliseconds < w.limit)
    (hfound : ∀ w₁, w.Proceeds (scanned []) w₁ →
      Yields (firstMeant target w.device.inSight) w₁ found (looked (addresses w₁.device is))) :
    Yields (search target milliseconds) w found (searching w.device is) := by
  refine (yields_look htime).bind
    (looked (addresses w.device is) ++ [Call.stopScan.done]) fun w₁ _ hlooked => ?_
  rw [← addresses_eq hlooked]
  refine (hfound w₁ hlooked).bind _ fun w₂ _ _ => ?_
  refine (yields_call (c := .stopScan) (by simp [Call.kind])).bind _ fun w₃ _ _ => ?_
  exact yields_pure found w₃

theorem search_of_none (htime : w.now + milliseconds < w.limit)
    (hnone : ∀ j ∈ w.device.inSight, ¬ (w.device.peripheral j).IsMeant target) :
    Yields (search target milliseconds) w none (searching w.device w.device.inSight) :=
  yields_search htime fun _ hlooked =>
    firstMeant_of_none fun j hj => mt (hlooked.unmoved.isMeant_iff j).1 (hnone j hj)

theorem search_of_first (htime : w.now + milliseconds < w.limit)
    (hi : w.device.FirstBehind target pre i) :
    Yields (search target milliseconds) w (some i) (searching w.device (pre ++ [i])) := by
  obtain ⟨post, hsplit⟩ := hi.inSight
  refine yields_search htime fun w₁ hlooked => ?_
  rw [hsplit]
  exact firstMeant_of_first ((hlooked.unmoved.isMeant_iff i).2 hi.meant)
    fun j hj => mt (hlooked.unmoved.isMeant_iff j).1 (hi.not_before j hj)

/-! ## The attempts -/

/-- A refused attempt uses up one refusal. -/
theorem refusesAttempt_of_refused (a : String) (w : World Radio RadioAction) (m : Nat) :
    (w.noted (.connect a) true).device.RefusesAttempt m ↔ w.device.RefusesAttempt (m + 1) := by
  rw [(proceeds_noted (.connect a) true w).refusesAttempt_iff, Nat.add_comm]
  rfl

/-- **Where all attempts are refused**, all are made. -/
theorem bringUp_of_all_refused (h : ∀ m < n, w.device.RefusesAttempt m) :
    ∃ w', bringUp i n w = .ok false w' ∧ w.Proceeds
      (List.replicate n (Call.connect (w.device.peripheral i).address).refused) w' := by
  induction n generalizing w with
  | zero => exact ⟨w, rfl, .refl w⟩
  | succ n ih =>
    obtain ⟨e, hcall⟩ := connect_eq_error (a := (w.device.peripheral i).address)
      (h 0 n.succ_pos)
    have hnoted := proceeds_noted (.connect (w.device.peripheral i).address) true w
    rw [bringUp_of_refused hcall]
    obtain ⟨w', hrest, htells⟩ := ih (w := w.noted (.connect (w.device.peripheral i).address) true)
      fun m hm => (refusesAttempt_of_refused _ w m).2 (h (m + 1) (Nat.succ_lt_succ hm))
    exact ⟨w', hrest, hnoted.trans htells⟩

/-- **The attempts end with the first one** that is taken. -/
theorem bringUp_of_taken (hm : m < n) (hbefore : ∀ l < m, w.device.RefusesAttempt l)
    (htaken : ¬ w.device.RefusesAttempt m) :
    ∃ w', bringUp i n w = .ok true
        { w' with device := w'.device.onPeripheral i fun p => { p with linked := true } } ∧
      w.Proceeds (attempts (w.device.peripheral i).address m) w' := by
  -- on the position of the attempt, which each refusal brings nearer by one
  induction m generalizing w n with
  | zero =>
    obtain ⟨n, rfl⟩ := Nat.exists_eq_add_of_lt hm
    exact ⟨_, bringUp_of_done (connect_eq_ok htaken), proceeds_noted _ false w⟩
  | succ m ih =>
    obtain ⟨n, rfl⟩ := Nat.exists_eq_add_of_lt hm
    obtain ⟨e, hcall⟩ := connect_eq_error (a := (w.device.peripheral i).address)
      (hbefore 0 m.succ_pos)
    have hnoted := proceeds_noted (.connect (w.device.peripheral i).address) true w
    rw [bringUp_of_refused hcall]
    obtain ⟨w', hrest, htells⟩ := ih (n := m + 1 + n)
      (w := w.noted (.connect (w.device.peripheral i).address) true) (by omega)
      (fun l hl => (refusesAttempt_of_refused _ w l).2 (hbefore (l + 1) (Nat.succ_lt_succ hl)))
      (mt (refusesAttempt_of_refused _ w m).1 htaken)
    exact ⟨w', hrest, hnoted.trans htells⟩

theorem connect_of_all_refused (h : ∀ m < n, w.device.RefusesAttempt m) :
    ∃ w', connect i n w =
        .error (.failed (.connectionFailed (w.device.peripheral i).address n)) w' ∧
      w.Proceeds
        (List.replicate n (Call.connect (w.device.peripheral i).address).refused) w' := by
  obtain ⟨w', hdown, htells⟩ := bringUp_of_all_refused (i := i) h
  refine ⟨w', ?_, htells⟩
  unfold connect Radio.addressOf
  rw [bind_of_ok hdown, if_neg Bool.false_ne_true, World.seen_bind, htells.address_eq]
  rfl

/-- The peripheral is connected and its services are known; no other link has come up. -/
structure Joined (i : Nat) (r r' : Radio) : Prop where
  linked : (r'.peripheral i).linked = true
  discovered : (r'.peripheral i).discovered = true
  others : ∀ j, j ≠ i → (r'.peripheral j).linked = true → (r.peripheral j).linked = true

theorem learnServices_of_linked (hi : i < w.device.peripherals.length)
    (hlinked : (w.device.peripheral i).linked = true) :
    (∃ w', learnServices i w = .ok () w' ∧
      w.Tells [(Call.discoverServices (w.device.peripheral i).address).done] w' ∧
      Joined i w.device w'.device) ∨ w.Hindered (learnServices i w) := by
  have hfirst : learnServices i w = (Radio.call (.discoverServices (w.device.peripheral i).address)
      >>= fun _ => Radio.needLink i >>= fun _ => World.onDevice
        (Radio.onPeripheral i fun p => { p with discovered := true })) w := rfl
  rcases yields_call (w := w) (c := .discoverServices (w.device.peripheral i).address)
      (by simp [Call.kind]) with ⟨w₁, hcall, -⟩ | hhindered
  · cases eq_noted_of_call hcall
    set w₁ := w.noted (.discoverServices (w.device.peripheral i).address) false
    let w₂ : World Radio RadioAction :=
      { w₁ with device := w₁.device.onPeripheral i fun p => { p with discovered := true } }
    have hup : Radio.needLink i w₁ = .ok () w₁ := Radio.needLink_of_linked hlinked
    have hlearned : learnServices i w = .ok () w₂ := by
      rw [hfirst, bind_of_ok hcall, bind_of_ok hup]
      rfl
    have hself : w₂.device.peripheral i = { w.device.peripheral i with discovered := true } :=
      Radio.peripheral_onPeripheral (r := w₁.device) hi
    refine Or.inl ⟨w₂, hlearned, tells_of_learnServices hlearned, ?_, ?_, fun j hj hlinkedj => ?_⟩
    · rw [hself]
      exact hlinked
    · rw [hself]
    · rwa [Radio.peripheral_onPeripheral_of_ne hj.symm] at hlinkedj
  · rw [hfirst]
    exact Or.inr hhindered.bind

/-- A device whose attempt is taken is connected, and tells its services. -/
theorem connect_of_taken (hi : i < w.device.peripherals.length) (hm : m < n)
    (hbefore : ∀ l < m, w.device.RefusesAttempt l) (htaken : ¬ w.device.RefusesAttempt m) :
    (∃ w', connect i n w = .ok () w' ∧
      w.Tells (attempts (w.device.peripheral i).address m ++
        [(Call.discoverServices (w.device.peripheral i).address).done]) w' ∧
      Joined i w.device w'.device) ∨ w.Hindered (connect i n w) := by
  obtain ⟨w₁, hup, htried⟩ := bringUp_of_taken (i := i) hm hbefore htaken
  let w₂ : World Radio RadioAction :=
    { w₁ with device := w₁.device.onPeripheral i fun p => { p with linked := true } }
  have hi₁ : i < w₁.device.peripherals.length := htried.unmoved.length_eq.symm ▸ hi
  have hi₂ : i < w₂.device.peripherals.length := by simpa [w₂, Radio.onPeripheral] using hi₁
  have hlinked : (w₂.device.peripheral i).linked = true := by
    rw [Radio.peripheral_onPeripheral hi₁]
  have htells : w.Tells (attempts (w.device.peripheral i).address m) w₂ := by
    simpa using htried.tells.trans (Radio.since_onPeripheral (by intro; rfl) i _)
  have hconnect : connect i n w = learnServices i w₂ := by
    unfold connect
    rw [bind_of_ok hup, if_pos rfl]
  rw [hconnect]
  rcases learnServices_of_linked hi₂ hlinked with ⟨w₃, hlearned, hlast, hjoined⟩ | hhindered
  · rw [htells.address_eq] at hlast
    refine Or.inl ⟨w₃, hlearned, htells.trans hlast, hjoined.linked, hjoined.discovered,
      fun j hj hlinkedj => ?_⟩
    have hlinked₂ := hjoined.others j hj hlinkedj
    rw [Radio.peripheral_onPeripheral_of_ne hj.symm] at hlinked₂
    exact htried.unmoved.linked j hlinked₂
  · exact Or.inr (hhindered.after htells)

end Discovery

end AirUpdate
