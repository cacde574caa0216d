/-
  Air updates — a calm world.

  In a calm world nothing is on the agenda and nobody cuts the program: waiting
  takes its time and does nothing else (`World.Calm.sleep`).  A quiet bench
  device keeps the world calm.  It writes down what is written to it
  (`World.Calm.write`), unless the write hangs, which only a time limit ends
  (`World.Calm.write_of_hanging`).
-/
import AirUpdate.Proofs.BenchLog

namespace AirUpdate

/-- Nothing is going on at this moment, and nobody cuts the program before `limit`. -/
structure World.Calm (limit now : Nat) (d : Bench) (w : World Bench Bytes) : Prop where
  now_eq : w.now = now
  limit_eq : w.limit = limit
  agenda_eq : w.agenda = []
  mailbox_eq : w.mailbox = .empty
  device_eq : w.device = d

/-- A notification that is in the mailbox is not waited for. -/
theorem World.receiveWithin_of_pending {D A : Type} [Peer D A] {w : World D A} {value : Bytes}
    (milliseconds : Nat) (h : w.mailbox.latest = some value) :
    receiveWithin milliseconds w = .ok (some value) { w with mailbox := .empty } := by
  have hreceive : ∀ l, (receive : Act D A Bytes) { w with limit := l } =
      .ok value { w with limit := l, mailbox := .empty } := by
    intro l
    have hpending : w.mailbox.hasPending = true := by
      unfold Mailbox.hasPending
      rw [h]
      rfl
    have hready : awaitUntil (fun w : World D A => w.mailbox.hasPending) { w with limit := l } =
        .ok () { w with limit := l } := if_pos hpending
    unfold receive
    rw [bind_of_ok hready]
    refine bind_eq_ok.2 ⟨some value, _, ?_, rfl⟩
    unfold poll Mailbox.take
    rw [h]
  unfold receiveWithin
  refine bind_eq_ok.2 ⟨some value, _, ?_, rfl⟩
  unfold within
  split
  · rw [show receive w = _ from hreceive w.limit]
  · rw [hreceive]

namespace World.Calm
variable {limit now milliseconds : Nat} {d : Bench} {w : World Bench Bytes}

theorem refreshed (h : w.Calm limit now d) : w.refreshed.Calm limit now d := { h with }

theorem charged (h : w.Calm limit now d) : w.charged.Calm limit now d := { h with }

theorem limited (h : w.Calm limit now d) (l : Nat) : Calm l now d { w with limit := l } :=
  { h with limit_eq := rfl }

theorem onDevice (h : w.Calm limit now d) (d' : Bench) :
    Calm limit now d' { w with device := d' } :=
  { h with device_eq := rfl }

theorem pass (h : w.Calm limit now d) (moment : Nat) : (w.pass moment).Calm limit moment d := by
  show Calm limit moment d (World.playAgenda _ moment w.agenda w.settle).2
  rw [h.agenda_eq]
  exact ⟨rfl, h.limit_eq, rfl, h.mailbox_eq, h.device_eq⟩

theorem giveWay (h : w.Calm limit now d) : w.giveWay.Calm limit now d := by
  unfold World.giveWay
  rw [h.agenda_eq]
  exact ⟨h.now_eq, h.limit_eq, rfl, h.mailbox_eq, h.device_eq⟩

theorem blink (h : w.Calm limit now d) (hlimit : now < limit) :
    ∃ w', World.blink w = .ok () w' ∧ w'.Calm limit now d := by
  unfold World.blink
  rw [h.limit_eq, h.now_eq]
  split
  · exact ⟨_, rfl, h.charged⟩
  · rw [if_neg (Nat.not_le.2 hlimit)]
    exact ⟨_, rfl, h.giveWay.charged⟩

/-- In a calm world waiting takes its time and does nothing else. -/
theorem sleep (h : w.Calm limit now d) (hlimit : now + milliseconds < limit) :
    ∃ w', World.sleep milliseconds w = .ok () w' ∧ w'.Calm limit (now + milliseconds) d := by
  unfold World.sleep
  split
  · next hzero =>
    subst hzero
    exact h.blink hlimit
  · rw [h.limit_eq, h.now_eq, if_pos (Nat.le_of_lt hlimit)]
    exact ⟨_, rfl, (h.pass _).refreshed.charged⟩

theorem sleep_of_cut (h : w.Calm limit now d) (hnow : now ≤ limit)
    (hlimit : limit < now + milliseconds) :
    ∃ w', World.sleep milliseconds w = .error .cut w' ∧ w'.Calm limit limit d := by
  unfold World.sleep
  rw [h.limit_eq, h.now_eq, if_neg (by omega), if_neg (by omega)]
  split
  · next hle =>
    have hnow : now = limit := Nat.le_antisymm hnow hle
    exact ⟨w, rfl, hnow ▸ h⟩
  · exact ⟨_, rfl, (h.pass limit).refreshed⟩

end World.Calm

/-! ## Writes to a quiet device -/

/-- A write hangs, or not, and the device knows of it. -/
theorem Bench.hang_eq {characteristic : Uuid} {data : Bytes} {w : World Bench Bytes}
    {hangs : Bool} {stalls : Stalls}
    (h : w.device.stalls.onWrite characteristic data = (hangs, stalls)) :
    hang characteristic data w = (if hangs then World.sleep stallTime else pure ())
      { w with device := { w.device with stalls := stalls } } := by
  have hseen : (World.seen fun d => d.stalls.onWrite characteristic data : Act Bench Bytes _) w =
      .ok (hangs, stalls) w := congrArg (EStateM.Result.ok · w) h
  have hchange : (World.onDevice fun d => { d with stalls := stalls } : Act Bench Bytes Unit) w =
      .ok () { w with device := { w.device with stalls := stalls } } := rfl
  unfold hang
  rw [bind_of_ok hseen, bind_of_ok hchange]

/-- A quiet device with a session that has subscribed. -/
def Bench.quietly (stalls : Stalls) (log : List BenchWrite) : Bench :=
  { quiet with stalls := stalls, subscribed := true, log := log }

namespace World.Calm
variable {limit now milliseconds : Nat} {stalls stalls' : Stalls} {log : List BenchWrite}
  {w : World Bench Bytes} {d d' : Bench} {characteristic : Uuid} {data : Bytes} {mode : WriteMode}
  {α : Type} {a : α} {act : Act Bench Bytes α}

theorem permit (h : w.Calm limit now (Bench.quietly stalls log)) :
    Bench.permit characteristic data w = .ok () w := by
  unfold Bench.permit
  cases Bench.operation? characteristic data with
  | none => rfl
  | some operation =>
    show Bench.allow operation w = _
    unfold Bench.allow Bench.refusal?
    rw [h.device_eq]
    rfl

/-- No fragment is broken, so only an empty write to the binary stream would fail. -/
theorem finish (h : w.Calm limit now (Bench.quietly stalls log)) (hdata : data ≠ [])
    (hstart : ¬ (characteristic = Uuid.control ∧ data = [Control.start.toByte])) :
    ∃ w', Bench.finish characteristic data mode w = .ok () w' ∧
      w'.Calm limit now (Bench.quietly stalls (⟨now, characteristic, data, mode⟩ :: log)) := by
  obtain ⟨_, _, credit, _, _, _⟩ := w
  obtain ⟨rfl, rfl, rfl, rfl, rfl⟩ := h
  refine ⟨⟨_, _, credit, [], .empty,
    Bench.quietly stalls (⟨_, characteristic, data, mode⟩ :: log)⟩, ?_, ⟨rfl, rfl, rfl, rfl, rfl⟩⟩
  unfold Bench.finish
  refine bind_eq_ok.2 ⟨none, _, rfl, ?_⟩
  rw [if_neg (by simp [hdata])]
  simp [Bench.complete, Bench.quietly, Bench.quiet, Script.react, World.react, hstart]

/-- A quiet device writes down what does not hang. -/
theorem write (h : w.Calm limit now (Bench.quietly stalls log))
    (hfree : stalls.onWrite characteristic data = (false, stalls)) (hdata : data ≠ [])
    (hstart : ¬ (characteristic = Uuid.control ∧ data = [Control.start.toByte])) :
    ∃ w', Bench.write characteristic data mode w = .ok () w' ∧
      w'.Calm limit now (Bench.quietly stalls (⟨now, characteristic, data, mode⟩ :: log)) := by
  have hwrite : w.device.stalls.onWrite characteristic data = (false, stalls) := by
    rw [h.device_eq]; exact hfree
  have hhang := Bench.hang_eq hwrite
  rw [h.device_eq] at hhang
  have hcalm := h.onDevice (Bench.quietly stalls log)
  obtain ⟨w', hfinish, h'⟩ : ∃ w', Bench.finish characteristic data mode _ = .ok () w' ∧ _ :=
    hcalm.finish hdata hstart
  refine ⟨w', ?_, h'⟩
  rw [Bench.write_eq, bind_of_ok h.permit, bind_of_ok hhang]
  exact hfinish

/-- A quiet device answers START with XON. -/
theorem write_start (h : w.Calm limit now (Bench.quietly stalls log)) :
    ∃ w', Bench.write .control [Control.start.toByte] .request w = .ok () w' ∧
      w'.mailbox.latest = some (StatusReport.toBytes ⟨.xon, some 0⟩) ∧
      Calm limit now
        (Bench.quietly stalls (⟨now, .control, [Control.start.toByte], .request⟩ :: log))
        { w' with mailbox := .empty } := by
  have hwrite : w.device.stalls.onWrite .control [Control.start.toByte] = (false, stalls) := by
    rw [h.device_eq]; rfl
  have hhang := Bench.hang_eq hwrite
  rw [h.device_eq] at hhang
  rw [Bench.write_eq, bind_of_ok h.permit, bind_of_ok hhang]
  obtain ⟨_, _, credit, _, _, _⟩ := w
  obtain ⟨rfl, rfl, rfl, rfl, rfl⟩ := h
  refine ⟨⟨_, _, credit, [], ⟨some (StatusReport.toBytes ⟨.xon, some 0⟩)⟩,
    Bench.quietly stalls (⟨_, .control, [Control.start.toByte], .request⟩ :: log)⟩, ?_, rfl,
    ⟨rfl, rfl, rfl, rfl, rfl⟩⟩
  rfl

theorem write_commit (h : w.Calm limit now (Bench.quietly stalls log)) :
    ∃ w', Bench.write .control [Control.commit.toByte] .request w = .ok () w' ∧
      w'.Calm limit now
        (Bench.quietly stalls (⟨now, .control, [Control.commit.toByte], .request⟩ :: log)) :=
  h.write rfl (by decide) (by decide)

/-- A write that hangs is cut at a limit that comes before its end. -/
theorem write_of_hanging (h : w.Calm limit now (Bench.quietly stalls log))
    (hhangs : stalls.onWrite characteristic data = (true, stalls')) (hnow : now ≤ limit)
    (hlimit : limit < now + stallTime) :
    ∃ w', Bench.write characteristic data mode w = .error .cut w' ∧
      w'.Calm limit limit (Bench.quietly stalls' log) := by
  have hwrite : w.device.stalls.onWrite characteristic data = (true, stalls') := by
    rw [h.device_eq]; exact hhangs
  have hhang := Bench.hang_eq hwrite
  rw [h.device_eq, if_pos rfl] at hhang
  obtain ⟨w', hslept, h'⟩ :=
    (h.onDevice (Bench.quietly stalls' log)).sleep_of_cut hnow hlimit
  refine ⟨w', ?_, h'⟩
  rw [Bench.write_eq, bind_of_ok h.permit]
  exact bind_eq_error.2 (Or.inl (hhang.trans hslept))

/-- What comes to its end at once does so under a time limit. -/
theorem within_of_ok (h : w.Calm limit now d)
    (hact : ∀ l w₁, w₁.Calm l now d → ∃ w', act w₁ = .ok a w' ∧ w'.Calm l now d') :
    ∃ w', World.within milliseconds act w = .ok (some a) w' ∧ w'.Calm limit now d' := by
  unfold World.within
  split
  · obtain ⟨w', hact, h'⟩ := hact limit w h
    rw [hact]
    exact ⟨w', rfl, h'⟩
  · obtain ⟨w', hact, h'⟩ := hact _ _ (h.limited (w.now + milliseconds))
    rw [hact]
    refine ⟨_, rfl, ?_⟩
    rw [h.limit_eq]
    exact h'.limited limit

/-- What is cut at a time limit leaves no result. -/
theorem within_of_cut (h : w.Calm limit now d) (hlimit : now + milliseconds < limit)
    (hact : ∀ w₁, w₁.Calm (now + milliseconds) now d →
      ∃ w', act w₁ = .error .cut w' ∧ w'.Calm (now + milliseconds) (now + milliseconds) d') :
    ∃ w', World.within milliseconds act w = .ok none w' ∧
      w'.Calm limit (now + milliseconds) d' := by
  obtain ⟨w', hcut, h'⟩ := hact _ (h.limited (now + milliseconds))
  obtain ⟨rfl, rfl, -, -, -⟩ := h
  have hback := h'.limited w.limit
  unfold World.within
  rw [if_neg (Nat.not_lt.2 (Nat.le_of_lt hlimit))]
  simp only [hcut]
  split
  · obtain ⟨w'', hblink, h''⟩ := hback.blink hlimit
    exact ⟨w'', bind_eq_ok.2 ⟨(), w'', hblink, rfl⟩, h''⟩
  · exact ⟨_, rfl, hback.charged⟩

end World.Calm

end AirUpdate
