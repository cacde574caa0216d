/-
  Air updates — how the pursuit of a device comes out.

  Unless the radio refuses something else than attempts to connect, it comes out
  in one of three ways, each with its calls (`Sought`): no device in sight is
  meant, or the first one that is meant is connected by the first attempt that the
  radio takes, or all attempts are refused (`sought_or_hindered`).  `pursued` says
  from this how many attempts are made, to whom, and when each result is given.
-/
import AirUpdate.Proofs.Seeking

namespace AirUpdate

namespace Update
open Discovery World
variable {w : World Radio RadioAction} {config : UpdateConfig} {target : String} {n : Nat}
  {result : EStateM.Result Halt (World Radio RadioAction) Nat}

/-- How the search and the attempts come out. -/
inductive Sought (target : String) (n : Nat) (w : World Radio RadioAction) :
    EStateM.Result Halt (World Radio RadioAction) Nat → Prop
  /-- none of the peripherals in sight is meant -/
  | missing {w'} : (∀ j ∈ w.device.inSight, ¬ (w.device.peripheral j).IsMeant target) →
      w.Proceeds (searching w.device w.device.inSight) w' →
      Sought target n w (.error (.failed (.deviceNotFound target)) w')
  /-- the first one that is meant is connected, after some attempts -/
  | connected {i pre m w'} : w.device.FirstBehind target pre i →
      m < n → (∀ l < m, w.device.RefusesAttempt l) → ¬ w.device.RefusesAttempt m →
      w.Tells (trying w.device (pre ++ [i]) (w.device.peripheral i).address m ++
        [(Call.connect (w.device.peripheral i).address).done,
          (Call.discoverServices (w.device.peripheral i).address).done]) w' →
      Joined i w.device w'.device → Sought target n w (.ok i w')
  /-- it is not, since all attempts are refused -/
  | refused {i pre w'} : w.device.FirstBehind target pre i →
      (∀ m < n, w.device.RefusesAttempt m) →
      w.Proceeds (trying w.device (pre ++ [i]) (w.device.peripheral i).address n) w' →
      Sought target n w
        (.error (.failed (.connectionFailed (w.device.peripheral i).address n)) w')

/-- Where no device is found, that is the result. -/
theorem sought_of_none {w₁ : World Radio RadioAction}
    (hnone : ∀ i ∈ w.device.inSight, ¬ (w.device.peripheral i).IsMeant config.deviceName)
    (hsearch : search config.deviceName config.scanTime w = .ok none w₁)
    (hsearched : w.Proceeds (searching w.device w.device.inSight) w₁) :
    Sought config.deviceName config.connectAttempts.toNat w (connectDevice config w) := by
  have hfind : find config.deviceName config.scanTime w =
      .error (.failed (.deviceNotFound config.deviceName)) w₁ := by
    rw [find_eq_search, bind_of_ok hsearch]
    rfl
  have hresult : connectDevice config w = .error _ w₁ := bind_eq_error.2 (Or.inl hfind)
  rw [hresult]
  exact .missing hnone hsearched

/-- Where one is found, it is tried. -/
theorem sought_of_first {i : Nat} {pre : List Nat} {w₁ : World Radio RadioAction}
    (hi : w.device.FirstBehind config.deviceName pre i)
    (hsearch : search config.deviceName config.scanTime w = .ok (some i) w₁)
    (hsearched : w.Proceeds (searching w.device (pre ++ [i])) w₁) :
    Sought config.deviceName config.connectAttempts.toNat w (connectDevice config w) ∨
      w.Hindered (connectDevice config w) := by
  have hfind : find config.deviceName config.scanTime w = .ok i w₁ := by
    rw [find_eq_search, bind_of_ok hsearch]
    rfl
  have hrest : connectDevice config w =
      (connect i config.connectAttempts.toNat >>= fun _ => pure i) w₁ := bind_of_ok hfind
  have hlater : ∀ m, w₁.device.RefusesAttempt m ↔ w.device.RefusesAttempt m := by
    intro m
    rw [hsearched.refusesAttempt_iff, connects_searching, Nat.zero_add]
  rw [hrest]
  by_cases hall : ∀ m < config.connectAttempts.toNat, w.device.RefusesAttempt m
  · obtain ⟨w₂, hconnect, htried⟩ := connect_of_all_refused (w := w₁) (i := i)
      fun m hm => (hlater m).2 (hall m hm)
    rw [hsearched.address_eq] at hconnect htried
    rw [bind_eq_error.2 (Or.inl hconnect)]
    exact Or.inl (.refused hi hall (hsearched.trans htried))
  · obtain ⟨m, hm, htaken, hbefore⟩ := Radio.exists_firstTaken hall
    have hlength : i < w₁.device.peripherals.length :=
      hsearched.unmoved.length_eq.symm ▸ Radio.FirstMeant.lt_length ⟨pre, hi⟩
    rcases connect_of_taken hlength hm (fun l hl => (hlater l).2 (hbefore l hl))
        (mt (hlater m).1 htaken) with ⟨w₂, hconnect, htried, hjoined⟩ | hhindered
    · rw [hsearched.address_eq] at htried
      have htells := hsearched.tells.trans htried
      rw [attempts, List.append_assoc, ← List.append_assoc (searching _ _)] at htells
      rw [bind_of_ok hconnect]
      refine Or.inl (.connected hi hm hbefore htaken htells
        ⟨hjoined.linked, hjoined.discovered, fun j hj hup => ?_⟩)
      exact hsearched.unmoved.linked j (hjoined.others j hj hup)
    · exact Or.inr (hhindered.bind.after hsearched.tells)

/-- **The search and the attempts come out in one of these ways**, unless they are hindered. -/
theorem sought_or_hindered (htime : w.now + config.scanTime < w.limit) :
    Sought config.deviceName config.connectAttempts.toNat w (connectDevice config w) ∨
      w.Hindered (connectDevice config w) := by
  have hhindered : w.Hindered (search config.deviceName config.scanTime w) →
      w.Hindered (connectDevice config w) := by
    intro h
    unfold connectDevice
    rw [find_eq_search]
    exact h.bind.bind
  by_cases hnone : ∀ i ∈ w.device.inSight, ¬ (w.device.peripheral i).IsMeant config.deviceName
  · rcases search_of_none htime hnone with ⟨w₁, hsearch, hsearched⟩ | h
    · exact Or.inl (sought_of_none hnone hsearch hsearched)
    · exact Or.inr (hhindered h)
  · obtain ⟨i, pre, hi⟩ := Radio.exists_firstMeant hnone
    rcases search_of_first htime hi with ⟨w₁, hsearch, hsearched⟩ | h
    · exact sought_of_first hi hsearch hsearched
    · exact Or.inr (hhindered h)

/-- On the way, the radio refused nothing but attempts to connect. -/
def RefusesOnlyConnects (w w' : World Radio RadioAction) : Prop :=
  ∀ new, w'.device.told = w.device.told ++ new → ∀ c ∈ new, c.2 = true → c.1.kind = .connect

theorem not_hindered (h : RefusesOnlyConnects w (endState result)) : ¬ w.Hindered result := by
  rintro ⟨e, w', before, c, rfl, htells, hc⟩
  exact hc (h _ htells.told_eq c.refused (by simp) rfl)

/-- What comes of the attempts to connect to a peripheral, of which there may be so many. -/
structure Tried (i n : Nat) (w : World Radio RadioAction)
    (result : EStateM.Result Halt (World Radio RadioAction) Nat) (new : List (Call × Bool)) :
    Prop where
  /-- they end with the first that the radio takes -/
  count : (connects new : ℕ∞) = min (n : ℕ∞) w.device.firstTaken
  /-- and are all made to this peripheral -/
  only : ∀ c ∈ new, c.1.kind = .connect → c.1 = .connect (w.device.peripheral i).address
  others : ∀ j, j ≠ i → ((endState result).device.peripheral j).linked = true →
    (w.device.peripheral j).linked = true
  connected_iff : result? result = some i ↔ w.device.firstTaken ≤ n
  /-- the services of a connected peripheral are asked for once, right away -/
  learned : w.device.firstTaken ≤ n →
    ((endState result).device.peripheral i).linked = true ∧
    ((endState result).device.peripheral i).discovered = true ∧
    ∃ before, new = before ++ [(Call.connect (w.device.peripheral i).address).done,
        (Call.discoverServices (w.device.peripheral i).address).done] ∧
      ∀ c ∈ before, c.1.kind ≠ .discoverServices
  unlearned : n < w.device.firstTaken → ∀ c ∈ new, c.1.kind ≠ .discoverServices
  failed_iff : halt? result =
      some (.failed (.connectionFailed (w.device.peripheral i).address n)) ↔
    ∀ m < n, w.device.RefusesAttempt m

/-- What comes of the search for a device, with these calls. -/
structure Pursued (target : String) (n : Nat) (w : World Radio RadioAction)
    (result : EStateM.Result Halt (World Radio RadioAction) Nat) (new : List (Call × Bool)) :
    Prop where
  tells : w.Tells new (endState result)
  missing_iff : halt? result = some (.failed (.deviceNotFound target)) ↔
    ∀ i ∈ w.device.inSight, ¬ (w.device.peripheral i).IsMeant target
  /-- nothing is tried if there is no such device -/
  untried : halt? result = some (.failed (.deviceNotFound target)) → connects new = 0
  tried : ∀ i, w.device.FirstMeant target i → Tried i n w result new

/-- A device that is meant is not missing. -/
theorem pursued_of_firstMeant {i : Nat} {new : List (Call × Bool)}
    (hi : w.device.FirstMeant target i) (htells : w.Tells new (endState result))
    (hfound : halt? result ≠ some (.failed (.deviceNotFound target)))
    (htried : Tried i n w result new) : Pursued target n w result new where
  tells := htells
  missing_iff := iff_of_false hfound fun hnone => hnone i hi.mem.1 hi.mem.2
  untried h := absurd h hfound
  tried _ hj := hj.unique hi ▸ htried

theorem tried_of_connected {i m : Nat} {is : List Nat} {w' : World Radio RadioAction} (hm : m < n)
    (hbefore : ∀ l < m, w.device.RefusesAttempt l) (htaken : ¬ w.device.RefusesAttempt m)
    (hjoined : Joined i w.device w'.device) :
    Tried i n w (.ok i w') (trying w.device is (w.device.peripheral i).address m ++
      [(Call.connect (w.device.peripheral i).address).done,
        (Call.discoverServices (w.device.peripheral i).address).done]) := by
  have hfirst := Radio.firstTaken_eq hbefore htaken
  have hle : w.device.firstTaken ≤ n := by
    rw [hfirst]
    exact_mod_cast Nat.succ_le_of_lt hm
  refine ⟨?count, fun c hc hkind => ?only, hjoined.others, iff_of_true rfl hle,
    fun _ => ⟨hjoined.linked, hjoined.discovered, _, rfl, fun c hc => kind_ne_of_mem_trying hc⟩,
    fun hlt => absurd hle (not_le.2 hlt), iff_of_false ?unfailed fun hall => htaken (hall m hm)⟩
  case count =>
    rw [min_eq_right hle, hfirst, connects_append, connects_trying]
    rfl
  case only =>
    rcases List.mem_append.1 hc with hc | hc
    · exact eq_connect_of_mem_trying hc hkind
    rcases List.mem_pair.1 hc with rfl | rfl
    · rfl
    · cases hkind
  case unfailed => simp [halt?]

theorem tried_of_refused {i : Nat} {is : List Nat} {w' : World Radio RadioAction}
    (hall : ∀ m < n, w.device.RefusesAttempt m) (hunmoved : w.device.Unmoved w'.device) :
    Tried i n w (.error (.failed (.connectionFailed (w.device.peripheral i).address n)) w')
      (trying w.device is (w.device.peripheral i).address n) := by
  have hlt := Radio.lt_firstTaken_iff.2 hall
  refine ⟨?count, fun c hc hkind => eq_connect_of_mem_trying hc hkind,
    fun j _ => hunmoved.linked j, iff_of_false ?unconnected (not_le.2 hlt),
    fun hle => absurd hlt (not_lt.2 hle), fun _ c hc => kind_ne_of_mem_trying hc,
    iff_of_true rfl hall⟩
  case count => rw [min_eq_left hlt.le, connects_trying]
  case unconnected => simp [result?]

theorem Sought.exists_pursued (h : Sought target n w result) :
    ∃ new, Pursued target n w result new := by
  cases h with
  | missing hnone hsearched =>
    refine ⟨_, hsearched.tells, iff_of_true rfl hnone, fun _ => connects_searching _ _, ?_⟩
    exact fun i hi => absurd hi.mem.2 (hnone i hi.mem.1)
  | @connected i pre m w' hi hm hbefore htaken htells hjoined =>
    exact ⟨_, pursued_of_firstMeant ⟨pre, hi⟩ htells (by simp [halt?])
      (tried_of_connected hm hbefore htaken hjoined)⟩
  | @refused i pre w' hi hall htells =>
    exact ⟨_, pursued_of_firstMeant ⟨pre, hi⟩ htells.tells (by simp [halt?])
      (tried_of_refused hall htells.unmoved)⟩

/-- **A device is pursued as it should be**, if nothing is refused but attempts to connect and
    the scan is not cut: the first device in sight that is meant is tried, as often as needed and
    allowed, and nothing else is. -/
theorem pursued (hrefused : RefusesOnlyConnects w (endState (connectDevice config w)))
    (htime : w.now + config.scanTime < w.limit) :
    ∃ new, Pursued config.deviceName config.connectAttempts.toNat w (connectDevice config w) new :=
  ((sought_or_hindered htime).resolve_right (not_hindered hrefused)).exists_pursued

/-- A radio with four devices in its range, that refuses the first two attempts to connect. -/
def hallway : World Radio RadioAction :=
  .initial 600000 (.unused 1
    [{ Peripheral.absent with address := "C0:03" },
      { Peripheral.absent with address := "C0:02", advertisement := some ⟨some "C0:03", none, []⟩ },
      { Peripheral.absent with address := "C0:03", advertisement := some ⟨none, none, []⟩ },
      { Peripheral.absent with address := "C0:04", advertisement := some ⟨some "c0:03", none, []⟩ }]
    [⟨.connect, some 1, .notConnected⟩, ⟨.connect, some 2, .timedOut 1500⟩,
      ⟨.properties, some 4, .notConnected⟩])

/-- Looks for a device by its address, in lower case. -/
def byAddress : UpdateConfig := { UpdateConfig.default with deviceName := "c0:03" }

/-- The third one is the first that is meant: the first does not advertise, and the name of the
    second is not written the same way. -/
theorem hallway_firstMeant : hallway.device.FirstMeant "c0:03" 2 := by
  refine ⟨[0, 1], ?_, ?_, [3], ?_⟩
  · exact ⟨_, rfl, Or.inr (by unfold SameButCase; decide +kernel)⟩
  · simp only [List.forall_mem_cons, Peripheral.isMeant_iff]
    decide +kernel
  · decide +kernel

theorem hallway_refusesOnlyConnects :
    RefusesOnlyConnects hallway (endState (connectDevice byAddress hallway)) := by
  have hall : ∀ c ∈ (endState (connectDevice byAddress hallway)).device.told,
      c.2 = true → c.1.kind = .connect := by decide +kernel
  intro new hnew
  rwa [hnew] at hall

/-- It is connected by the third attempt. -/
theorem hallway_pursued :
    RefusesOnlyConnects hallway (endState (connectDevice byAddress hallway)) ∧
    hallway.now + byAddress.scanTime < hallway.limit ∧
    result? (connectDevice byAddress hallway) = some 2 ∧
    ∃ new, connects new = 3 ∧ hallway.Tells new (endState (connectDevice byAddress hallway)) := by
  have htime : hallway.now + byAddress.scanTime < hallway.limit := by decide
  have htaken : hallway.device.firstTaken = (3 : ℕ) := Radio.firstTaken_eq (by decide) (by decide)
  obtain ⟨new, hpursued⟩ := pursued hallway_refusesOnlyConnects htime
  have htried := hpursued.tried 2 hallway_firstMeant
  refine ⟨hallway_refusesOnlyConnects, htime, htried.connected_iff.2 ?_, new, ?_, hpursued.tells⟩
  · rw [htaken]
    decide
  · have hcount := htried.count
    rw [htaken] at hcount
    have hmin : min ((5 : ℕ) : ℕ∞) (3 : ℕ) = (3 : ℕ) := by decide
    exact_mod_cast hcount.trans hmin

end Update

end AirUpdate
