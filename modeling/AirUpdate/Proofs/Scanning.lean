/-
  Air updates — when a scan is ended.

  A scan and a search for a device go the same way (`scanning`): they begin to
  scan, wait, list the peripherals, look at what one after the other advertises,
  and end the scan.  What they tell the radio on the way is known up to the call
  that halts them (`tells_of_scanning`, `tells_of_scanning_error`).  A scan that
  was begun is ended unless the radio refuses the list or what a peripheral
  advertises (`stopped_unless_refused`): from there the program goes back and
  leaves the radio scanning (`not_always_stopped`).
-/
import AirUpdate.Proofs.CallLog

namespace AirUpdate

namespace Discovery
variable {α β : Type} {w w' : World Radio RadioAction} {e : Halt} {milliseconds : Nat}

/-- Looks at what peripherals advertise. -/
def looked (addresses : List String) : List (Call × Bool) :=
  addresses.map fun a => (Call.properties a).done

/-- The calls of a scan that went well so far, and has looked at these peripherals. -/
def scanned (addresses : List String) : List (Call × Bool) :=
  Call.startScan.done :: Call.peripherals.done :: looked addresses

/-- The calls of a scan that halts. -/
inductive Broken : Halt → List (Call × Bool) → Prop
  /-- the radio did not begin to scan -/
  | unbegun {error} : Broken (.failed error) [Call.startScan.refused]
  /-- time was up before the peripherals were listed -/
  | cut : Broken .cut [Call.startScan.done]
  /-- the radio did not list them -/
  | blind {error} : Broken (.failed error) [Call.startScan.done, Call.peripherals.refused]
  /-- it did not tell what one of them advertises -/
  | blinded {error addresses a} :
      Broken (.failed error) (scanned addresses ++ [(Call.properties a).refused])
  /-- it did not end the scan -/
  | stuck {error addresses} : Broken (.failed error) (scanned addresses ++ [Call.stopScan.refused])
  /-- it did, and the program failed then -/
  | concluded {error addresses} :
      Broken (.failed error) (scanned addresses ++ [Call.stopScan.done])

/-! ## Listing peripherals and looking at them -/

theorem tells_of_look {inSight : List Nat} (h : Radio.look milliseconds w = .ok inSight w') :
    w.Tells (scanned []) w' := by
  obtain ⟨_, w₁, hstart, h⟩ := bind_eq_ok.1 h
  obtain ⟨_, w₂, hslept, h⟩ := bind_eq_ok.1 h
  obtain ⟨earlier, _, hseen, h⟩ := bind_eq_ok.1 h
  cases hseen
  obtain ⟨_, w₃, hlisted, h⟩ := bind_eq_ok.1 h
  cases h
  exact ((Radio.tells_of_call hstart).trans (World.tells_of_sleep hslept)).trans
    (Radio.tells_of_call hlisted)

theorem tells_of_look_error (h : Radio.look milliseconds w = .error e w') :
    ∃ new, Broken e new ∧ w.Tells new w' := by
  rcases bind_eq_error.1 h with hstart | ⟨_, w₁, hstart, h⟩
  · obtain ⟨⟨error, rfl⟩, htells⟩ := Radio.tells_of_call_error hstart
    exact ⟨_, .unbegun, htells⟩
  have hbegun := Radio.tells_of_call hstart
  rcases bind_eq_error.1 h with hslept | ⟨_, w₂, hslept, h⟩
  · cases World.sleep_eq_error hslept
    exact ⟨_, .cut, hbegun.trans (World.tells_of_sleep_error hslept)⟩
  have hwaited := hbegun.trans (World.tells_of_sleep hslept)
  rcases bind_eq_error.1 h with h | ⟨earlier, _, hseen, h⟩
  · cases h
  cases hseen
  rcases bind_eq_error.1 h with hlisted | ⟨_, w₃, hlisted, h⟩
  · obtain ⟨⟨error, rfl⟩, htells⟩ := Radio.tells_of_call_error hlisted
    exact ⟨_, .blind, hwaited.trans htells⟩
  · cases h

/-- The activity does nothing but look at what peripherals advertise, one after the other. -/
structure Looks (act : Radio.Use α) : Prop where
  ok : ∀ {w a w'}, act w = .ok a w' → ∃ addresses, w.Tells (looked addresses) w'
  error : ∀ {w e w'}, act w = .error e w' → (∃ error, e = .failed error) ∧
    ∃ addresses a, w.Tells (looked addresses ++ [(Call.properties a).refused]) w'

theorem tells_of_advertisementOf {i : Nat} {a : Option Advertisement}
    (h : Radio.advertisementOf i w = .ok a w') : ∃ address, w.Tells (looked [address]) w' := by
  obtain ⟨address, _, haddress, h⟩ := bind_eq_ok.1 h
  cases haddress
  obtain ⟨_, w₁, hcall, h⟩ := bind_eq_ok.1 h
  cases h
  exact ⟨_, Radio.tells_of_call hcall⟩

theorem tells_of_advertisementOf_error {i : Nat} (h : Radio.advertisementOf i w = .error e w') :
    (∃ error, e = .failed error) ∧ ∃ address, w.Tells [(Call.properties address).refused] w' := by
  rcases bind_eq_error.1 h with h | ⟨address, _, haddress, h⟩
  · cases h
  cases haddress
  rcases bind_eq_error.1 h with hcall | ⟨_, w₁, hcall, h⟩
  · obtain ⟨hfailed, htells⟩ := Radio.tells_of_call_error hcall
    exact ⟨hfailed, _, htells⟩
  · cases h

/-- An activity that looks at one peripheral and then only looks at others. -/
theorem Looks.of_advertisementOf {i : Nat} {f : Option Advertisement → Radio.Use α}
    (hf : ∀ a, Looks (f a)) : Looks (Radio.advertisementOf i >>= f) where
  ok h := by
    obtain ⟨a, w₁, hfirst, h⟩ := bind_eq_ok.1 h
    obtain ⟨address, htells⟩ := tells_of_advertisementOf hfirst
    obtain ⟨addresses, hrest⟩ := (hf a).ok h
    exact ⟨address :: addresses, htells.trans hrest⟩
  error h := by
    rcases bind_eq_error.1 h with hfirst | ⟨a, w₁, hfirst, h⟩
    · obtain ⟨hfailed, address, htells⟩ := tells_of_advertisementOf_error hfirst
      exact ⟨hfailed, [], address, htells⟩
    · obtain ⟨address, htells⟩ := tells_of_advertisementOf hfirst
      obtain ⟨hfailed, addresses, b, hrest⟩ := (hf a).error h
      exact ⟨hfailed, address :: addresses, b, htells.trans hrest⟩

theorem looks_pure (a : α) : Looks (pure a : Radio.Use α) where
  ok h := by
    cases h
    exact ⟨[], .refl _⟩
  error h := by cases h

theorem Looks.map {act : Radio.Use α} (h : Looks act) (f : α → β) :
    Looks (do let a ← act; pure (f a)) where
  ok hact := by
    obtain ⟨a, w₁, hact, hpure⟩ := bind_eq_ok.1 hact
    cases hpure
    exact h.ok hact
  error hact := by
    rcases bind_eq_error.1 hact with hact | ⟨a, w₁, hact, hpure⟩
    · exact h.error hact
    · cases hpure

theorem looks_seen_bind {f : Radio → β} {g : β → Radio.Use α} (h : ∀ b, Looks (g b)) :
    Looks (World.seen f >>= g) where
  ok hact := (h _).ok hact
  error hact := (h _).error hact

theorem looks_describeAll (inSight : List Nat) : Looks (describeAll inSight) := by
  induction inSight with
  | nil => exact looks_pure []
  | cons i rest ih =>
    exact .of_advertisementOf fun a => looks_seen_bind fun address => ih.map _

theorem looks_firstMeant (target : String) (inSight : List Nat) :
    Looks (firstMeant target inSight) := by
  induction inSight with
  | nil => exact looks_pure none
  | cons i rest ih =>
    refine .of_advertisementOf fun a => looks_seen_bind fun address => ?_
    split
    · exact looks_pure _
    · exact ih

/-! ## Scanning -/

/-- Scans for so many milliseconds, looks at the peripherals in sight, and concludes
    something when the scan is ended. -/
def scanning (milliseconds : Nat) (look : List Nat → Radio.Use α)
    (conclude : α → Except UpdateError β) : Radio.Use β := do
  let inSight ← Radio.look milliseconds
  let found ← look inSight
  Radio.call .stopScan
  World.ofExcept (conclude found)

theorem scan_eq (milliseconds : Nat) : scan milliseconds = scanning milliseconds describeAll .ok :=
  rfl

theorem find_eq (target : String) (milliseconds : Nat) : find target milliseconds =
    scanning milliseconds (firstMeant target) fun found =>
      found.elim (.error (.deviceNotFound target)) .ok := by
  unfold find scanning
  refine congrArg _ (funext fun inSight => congrArg _ (funext fun found => ?_))
  cases found <;> rfl

section
variable {look : List Nat → Radio.Use α} {conclude : α → Except UpdateError β}
  (hlook : ∀ inSight, Looks (look inSight))
include hlook

/-- **A scan that comes to its end** has begun, listed, looked and ended it. -/
theorem tells_of_scanning {b : β} (h : scanning milliseconds look conclude w = .ok b w') :
    ∃ addresses, w.Tells (scanned addresses ++ [Call.stopScan.done]) w' := by
  obtain ⟨inSight, w₁, hfirst, h⟩ := bind_eq_ok.1 h
  obtain ⟨found, w₂, hlooked, h⟩ := bind_eq_ok.1 h
  obtain ⟨_, w₃, hstop, h⟩ := bind_eq_ok.1 h
  obtain ⟨addresses, htells⟩ := (hlook inSight).ok hlooked
  have hw : w₃ = w' := by
    cases hconclude : conclude found with
    | ok b => rw [hconclude] at h; cases h; rfl
    | error error => rw [hconclude] at h; cases h
  rw [← hw]
  exact ⟨addresses, ((tells_of_look hfirst).trans htells).trans (Radio.tells_of_call hstop)⟩

/-- A scan that halts has told the radio what `Broken` says. -/
theorem tells_of_scanning_error (h : scanning milliseconds look conclude w = .error e w') :
    ∃ new, Broken e new ∧ w.Tells new w' := by
  rcases bind_eq_error.1 h with hfirst | ⟨inSight, w₁, hfirst, h⟩
  · exact tells_of_look_error hfirst
  have hlisted := tells_of_look hfirst
  rcases bind_eq_error.1 h with hlooked | ⟨found, w₂, hlooked, h⟩
  · obtain ⟨⟨error, rfl⟩, addresses, a, htells⟩ := (hlook inSight).error hlooked
    exact ⟨scanned addresses ++ [(Call.properties a).refused], .blinded, hlisted.trans htells⟩
  obtain ⟨addresses, htells⟩ := (hlook inSight).ok hlooked
  have hseen := hlisted.trans htells
  rcases bind_eq_error.1 h with hstop | ⟨_, w₃, hstop, h⟩
  · obtain ⟨⟨error, rfl⟩, htells⟩ := Radio.tells_of_call_error hstop
    exact ⟨_, .stuck, hseen.trans htells⟩
  · cases hconclude : conclude found with
    | ok b => rw [hconclude] at h; cases h
    | error error =>
      rw [hconclude] at h
      cases h
      exact ⟨_, .concluded, hseen.trans (Radio.tells_of_call hstop)⟩

end

/-! ## Ending a scan -/

/-- An activity that was not cut: it has come to its end, or failed. -/
def Returned {σ : Type} (r : EStateM.Result Halt σ α) : Prop :=
  ∀ e, halt? r = some e → ∃ error, e = .failed error

/-- A scan that was begun is ended before the activity returns. -/
def Stops (act : Radio.Use α) : Prop :=
  ∀ w new, Returned (act w) → (endState (act w)).device.told = w.device.told ++ new →
    Call.startScan.done ∈ new → ∃ refused, (.stopScan, refused) ∈ new

/-- A scan that was begun is ended before the activity returns exactly if the radio has
    refused neither the list of the peripherals nor what one of them advertises. -/
def StopsUnlessRefused (act : Radio.Use α) : Prop :=
  ∀ w new, Returned (act w) → (endState (act w)).device.told = w.device.told ++ new →
    Call.startScan.done ∈ new → ((∃ refused, (.stopScan, refused) ∈ new) ↔
      ∀ c ∈ new, c.1.kind = .peripherals ∨ c.1.kind = .properties → c.2 = false)

theorem mem_looked {addresses : List String} {c : Call × Bool} (h : c ∈ looked addresses) :
    ∃ a, c = (Call.properties a).done := by
  obtain ⟨a, -, rfl⟩ := List.mem_map.1 h
  exact ⟨a, rfl⟩

/-- A scan that went well so far has not been ended, and was refused nothing. -/
theorem of_mem_scanned {addresses : List String} {c : Call × Bool} (h : c ∈ scanned addresses) :
    c.1 ≠ .stopScan ∧ c.2 = false := by
  rcases List.mem_cons.1 h with rfl | h
  · exact ⟨nofun, rfl⟩
  rcases List.mem_cons.1 h with rfl | h
  · exact ⟨nofun, rfl⟩
  obtain ⟨a, rfl⟩ := mem_looked h
  exact ⟨nofun, rfl⟩

/-- A scan that got as far as to be ended was refused nothing before. -/
theorem stopped_iff_of_scanned {addresses : List String} (stopped : Bool) :
    (∃ refused, (.stopScan, refused) ∈ scanned addresses ++ [(.stopScan, stopped)]) ↔
      ∀ c ∈ scanned addresses ++ [(.stopScan, stopped)],
        c.1.kind = .peripherals ∨ c.1.kind = .properties → c.2 = false := by
  refine ⟨fun _ c hc hkind => ?_, fun _ => ⟨stopped, by simp⟩⟩
  rcases List.mem_append.1 hc with hc | hc
  · exact (of_mem_scanned hc).2
  · rw [List.mem_singleton.1 hc] at hkind
    rcases hkind with hkind | hkind <;> cases hkind

/-- A scan that halts and was neither refused at its start nor cut is ended exactly if
    the radio has let the program see. -/
theorem Broken.stopped_iff {error : UpdateError} {new : List (Call × Bool)}
    (h : Broken (.failed error) new) (hbegun : Call.startScan.done ∈ new) :
    (∃ refused, (.stopScan, refused) ∈ new) ↔
      ∀ c ∈ new, c.1.kind = .peripherals ∨ c.1.kind = .properties → c.2 = false := by
  cases h with
  | unbegun => simp at hbegun
  | blind => simp [Call.kind]
  | @blinded _ addresses a =>
    have hunstopped : ¬ ∃ refused, (Call.stopScan, refused) ∈
        scanned addresses ++ [(Call.properties a).refused] := by
      rintro ⟨refused, hstop⟩
      rcases List.mem_append.1 hstop with hstop | hstop
      · exact (of_mem_scanned hstop).1 rfl
      · cases List.mem_singleton.1 hstop
    refine iff_of_false hunstopped fun hnone => ?_
    exact Bool.noConfusion (hnone (Call.properties a).refused (by simp) (Or.inr rfl))
  | stuck => exact stopped_iff_of_scanned true
  | concluded => exact stopped_iff_of_scanned false

theorem stopsUnlessRefused_scanning {look : List Nat → Radio.Use α}
    {conclude : α → Except UpdateError β} (hlook : ∀ inSight, Looks (look inSight)) :
    StopsUnlessRefused (scanning milliseconds look conclude) := by
  intro w new hreturned htold hbegun
  cases hscan : scanning milliseconds look conclude w with
  | ok b w' =>
    obtain ⟨addresses, htells⟩ := tells_of_scanning hlook hscan
    rw [hscan] at htold
    obtain rfl := htells.eq_of_told_eq htold
    exact stopped_iff_of_scanned false
  | error e w' =>
    obtain ⟨error, rfl⟩ := hreturned e (by rw [hscan]; rfl)
    obtain ⟨new', hbroken, htells⟩ := tells_of_scanning_error hlook hscan
    rw [hscan] at htold
    obtain rfl := htells.eq_of_told_eq htold
    exact hbroken.stopped_iff hbegun

/-- **A scan is ended unless the radio refuses to let the program see**: be it to list the
    devices in range or to find one of them. -/
theorem stopped_unless_refused (target : String) (milliseconds : Nat) :
    StopsUnlessRefused (scan milliseconds) ∧ StopsUnlessRefused (find target milliseconds) := by
  rw [scan_eq, find_eq]
  exact ⟨stopsUnlessRefused_scanning looks_describeAll,
    stopsUnlessRefused_scanning (looks_firstMeant target)⟩

/-- A radio with one peripheral in its range. -/
def lone : World Radio RadioAction :=
  .initial 600000 (.unused 1 [{ Peripheral.absent with address := "C0:01" }] [])

/-- The scan that finds the one peripheral is ended. -/
theorem lone_stopped : ∃ new, (endState (scan 5000 lone)).device.told = lone.device.told ++ new ∧
    ∃ refused, (.stopScan, refused) ∈ new := by
  have htold : (endState (scan 5000 lone)).device.told = lone.device.told ++ [Call.startScan.done,
      Call.peripherals.done, (Call.properties "C0:01").done, Call.stopScan.done] := by
    decide +kernel
  have hreturned : Returned (scan 5000 lone) := by
    intro e he
    have hended : halt? (scan 5000 lone) = none := by decide +kernel
    rw [hended] at he
    cases he
  have hstopped := (stopped_unless_refused "" 5000).1 lone _ hreturned htold (by simp)
  exact ⟨_, htold, hstopped.2 (by simp)⟩

/-- A radio that does not list the peripherals. -/
def blind : World Radio RadioAction :=
  .initial 600000 (.unused 1 [] [⟨.peripherals, none, .notConnected⟩])

/-- The radio goes on scanning when the list of the peripherals is refused. -/
theorem not_always_stopped : ¬ ∀ target milliseconds,
    Stops (scan milliseconds) ∧ Stops (find target milliseconds) := by
  intro h
  have htold : (endState (scan 5000 blind)).device.told =
      blind.device.told ++ [Call.startScan.done, Call.peripherals.refused] := by
    decide +kernel
  have hreturned : Returned (scan 5000 blind) := by
    intro e he
    have hfailed : halt? (scan 5000 blind) = some (.failed (.link (.radio .notConnected))) := by
      decide +kernel
    rw [hfailed] at he
    cases he
    exact ⟨_, rfl⟩
  obtain ⟨refused, hstop⟩ := (h "" 5000).1 blind _ hreturned htold (by simp)
  simp at hstop

end Discovery

end AirUpdate
