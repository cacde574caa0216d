/-
  Air updates — a session with a quiet device.

  A quiet bench device answers START and says nothing else; all it may do is
  let writes hang.  Then every turn is known (`turn_of_drained`, `turn_of_free`,
  `turn_of_hanging`): a fragment is written until its writes hang no more, and
  then comes the next.  How many writes hang in all is known as well
  (`Stalls.owed`): a fragment id has its writes hang in the first lap only.
  So is the whole session, from START to COMMIT (`run_of_quiet`).
-/
import AirUpdate.Proofs.Calm
import Mathlib.Algebra.BigOperators.Intervals

namespace AirUpdate

/-! ## Writes that hang -/

namespace Stalls
variable {s : Stalls} {n count : Nat}

/-- How many writes of the fragments from number `n` up to `count` are going to hang.
    Fragments of the same id share what that id has left. -/
def owed (s : Stalls) (n count : Nat) : Nat :=
  ((Finset.Ico n count).image UInt8.ofNat).sum s.left

theorem ids_succ (h : n < count) : (Finset.Ico n count).image UInt8.ofNat =
    insert (UInt8.ofNat n) ((Finset.Ico (n + 1) count).image UInt8.ofNat) := by
  rw [← Finset.insert_Ico_add_one_left_eq_Ico h, Finset.image_insert]

theorem owed_self (s : Stalls) (count : Nat) : s.owed count count = 0 := by
  simp [owed]

theorem owed_of_free (h : n < count) (hfree : s.left (UInt8.ofNat n) = 0) :
    s.owed n count = s.owed (n + 1) count := by
  unfold owed
  rw [ids_succ h, Finset.sum_insert_of_eq_zero_if_notMem fun _ => hfree]

theorem owed_of_hanging (h : n < count) (hleft : 0 < s.left (UInt8.ofNat n)) :
    s.owed n count = (s.use (UInt8.ofNat n)).owed n count + 1 := by
  have hmem : UInt8.ofNat n ∈ (Finset.Ico n count).image UInt8.ofNat :=
    Finset.mem_image_of_mem _ (Finset.left_mem_Ico.2 h)
  unfold owed
  generalize (Finset.Ico n count).image UInt8.ofNat = ids at hmem
  generalize UInt8.ofNat n = hung at hleft hmem
  have hothers : (ids.erase hung).sum (s.use hung).left = (ids.erase hung).sum s.left :=
    Finset.sum_congr rfl fun id hid => left_use_of_ne (Finset.ne_of_mem_erase hid)
  have hbefore : s.left hung + (ids.erase hung).sum s.left = ids.sum s.left :=
    Finset.add_sum_erase ids s.left hmem
  have hafter : (s.use hung).left hung + (ids.erase hung).sum (s.use hung).left =
      ids.sum (s.use hung).left := Finset.add_sum_erase ids (s.use hung).left hmem
  rw [hothers, left_use_self] at hafter
  omega

end Stalls

theorem Stalls.onWrite_fragment (s : Stalls) (f : Fragment) :
    s.onWrite .binaryStream f.toBytes =
      if 0 < s.left f.id then (true, s.use f.id) else (false, s) := by
  simp [Stalls.onWrite, Fragment.toBytes]

/-- A write, whenever it came to its end. -/
def BenchWrite.untimed (w : BenchWrite) : Uuid × Bytes × WriteMode :=
  (w.characteristic, w.data, w.mode)

theorem Bench.fragments_eq (d : Bench) : d.fragments =
    (d.writes.map BenchWrite.untimed).filterMap fun (characteristic, data, _) =>
      if characteristic = Uuid.binaryStream then Fragment.ofBytes? data else none := by
  rw [List.filterMap_map]
  rfl

/-- The write of the fragment with this number. -/
def fragmentWrite (image : Bytes) (size i : Nat) : Uuid × Bytes × WriteMode :=
  (.binaryStream, (fragmentAt image size i).toBytes, .command)

namespace SessionConfig

/-- How long a stream takes that sends so many fragments and gives up so many writes. -/
def streamTime (c : SessionConfig) (fragments timeouts : Nat) : Nat :=
  fragments * c.pacing.toNat + timeouts * (c.writeTimeout.toNat + c.writeBackoff.toNat)

theorem streamTime_zero (c : SessionConfig) : c.streamTime 0 0 = 0 := by
  simp [streamTime]

theorem streamTime_fragment (c : SessionConfig) (f t : Nat) :
    c.streamTime (f + 1) t = c.pacing.toNat + c.streamTime f t := by
  rw [streamTime, streamTime, Nat.succ_mul]
  omega

theorem streamTime_timeout (c : SessionConfig) (f t : Nat) :
    c.streamTime f (t + 1) =
      (c.writeTimeout.toNat + c.writeBackoff.toNat) + c.streamTime f t := by
  rw [streamTime, streamTime, Nat.succ_mul]
  omega

end SessionConfig

/-- The report with so many more fragments, bytes and writes given up. -/
def TransferReport.more (r : TransferReport) (fragments bytes timeouts : Nat) : TransferReport :=
  { r with
    fragmentsSent := r.fragmentsSent + fragments
    bytesSent := r.bytesSent + bytes
    writeTimeouts := r.writeTimeouts + timeouts }

theorem TransferReport.more_more (r : TransferReport) (f b t f' b' t' : Nat) :
    (r.more f b t).more f' b' t' = r.more (f + f') (b + b') (t + t') := by
  simp only [more, Nat.add_assoc]

/-! ## Turns -/

namespace Session
variable {image : Bytes} {config : SessionConfig} {limit n now : Nat} {stalls : Stalls}
  {log : List BenchWrite} {s : Session Bench Bytes} {report : TransferReport}

/-- The session streams this image to a quiet device, and fragment number `n` is next. -/
structure Undisturbed (image : Bytes) (config : SessionConfig) (limit n now : Nat)
    (stalls : Stalls) (log : List BenchWrite) (s : Session Bench Bytes) : Prop where
  image_eq : s.image = image
  config_eq : s.config = config
  held_eq : s.flow.held = false
  index_eq : s.flow.sequencer.index = n
  calm : s.world.Calm limit now (Bench.quietly stalls log)

namespace Undisturbed

theorem heeded (h : Undisturbed image config limit n now stalls log s) :
    Undisturbed image config limit n now stalls log s.heeded ∧ s.refusal? = none ∧
      ∀ report, s.noted report = report := by
  have hlatest : s.world.mailbox.latest = none := by rw [h.calm.mailbox_eq]; rfl
  refine ⟨⟨h.image_eq, h.config_eq, ?_, ?_, { h.calm with mailbox_eq := rfl }⟩, ?_, ?_⟩
  · unfold Session.heeded
    rw [hlatest]
    exact h.held_eq
  · unfold Session.heeded
    rw [hlatest]
    exact h.index_eq
  · unfold refusal?
    rw [hlatest]
    rfl
  · intro report
    unfold noted
    rw [hlatest]
    rfl

theorem next_eq (h : Undisturbed image config limit n now stalls log s) :
    s.next = fragmentAt image config.payloadSize n := by
  rw [Session.next_eq, h.image_eq, h.config_eq, h.index_eq]

/-- Past the end of the image no fragment is left. -/
theorem turn_of_drained (h : Undisturbed image config limit n now stalls log s)
    (hd : image.length < wordSpan) (hn : chunkCount image config.payloadSize ≤ n) :
    ∃ s', turn Bench.link report s = .ok (.drained, report) s' ∧
      Undisturbed image config limit n now stalls log s' := by
  obtain ⟨h', hrefusal, hnoted⟩ := h.heeded
  have hempty : s.heeded.next.payload = [] := by
    rw [h'.next_eq]
    exact (chunk_eq_nil_iff hd (payloadSize_pos config)).2 hn
  have hturned : Turned Bench.link s report .drained (s.noted report) s.heeded :=
    .drained hrefusal h'.held_eq hempty
  rw [hnoted] at hturned
  exact ⟨s.heeded, turn_of_turned hturned, h'⟩

theorem payload_ne_nil (h : Undisturbed image config limit n now stalls log s)
    (hd : image.length < wordSpan) (hn : n < chunkCount image config.payloadSize) :
    s.next.payload ≠ [] := by
  rw [h.next_eq]
  exact fun hempty =>
    Nat.not_le.2 hn ((chunk_eq_nil_iff hd (payloadSize_pos config)).1 hempty)

/-- The write of the next fragment, as a quiet device writes it down. -/
theorem writeNext_of_free (h : Undisturbed image config limit n now stalls log s)
    (hfree : stalls.left (UInt8.ofNat n) = 0) :
    ∃ w', s.writeNext Bench.link s.world = .ok (some ()) w' ∧
      w'.Calm limit now (Bench.quietly stalls (s.entry now :: log)) := by
  have hwrite : stalls.onWrite .binaryStream s.next.toBytes = (false, stalls) := by
    rw [Stalls.onWrite_fragment, h.next_eq]
    exact if_neg (by rw [fragmentAt, hfree]; exact Nat.lt_irrefl 0)
  exact h.calm.within_of_ok fun l w₁ h₁ =>
    h₁.write hwrite (List.cons_ne_nil _ _) fun hstart => absurd hstart.1 (by decide)

theorem writeNext_of_hanging (h : Undisturbed image config limit n now stalls log s)
    (hleft : 0 < stalls.left (UInt8.ofNat n)) (htimeout : config.writeTimeout.toNat < stallTime)
    (hlimit : now + config.writeTimeout.toNat < limit) :
    ∃ w', s.writeNext Bench.link s.world = .ok none w' ∧
      w'.Calm limit (now + config.writeTimeout.toNat)
        (Bench.quietly (stalls.use (UInt8.ofNat n)) log) := by
  have hwrite : stalls.onWrite .binaryStream s.next.toBytes =
      (true, stalls.use (UInt8.ofNat n)) := by
    rw [Stalls.onWrite_fragment, h.next_eq]
    exact if_pos hleft
  unfold writeNext
  rw [h.config_eq]
  exact h.calm.within_of_cut hlimit fun w₁ h₁ =>
    h₁.write_of_hanging hwrite (Nat.le_add_right _ _) (Nat.add_lt_add_left htimeout now)

/-- A fragment whose writes do not hang goes out. -/
theorem turn_of_free (h : Undisturbed image config limit n now stalls log s)
    (hd : image.length < wordSpan) (hn : n < chunkCount image config.payloadSize)
    (hfree : stalls.left (UInt8.ofNat n) = 0) (hlimit : now + config.pacing.toNat < limit) :
    ∃ t s' w, turn Bench.link report s =
        .ok (t, report.more 1 (chunk image config.payloadSize n).length 0) s' ∧
      (t.isLast = true → n + 1 = chunkCount image config.payloadSize) ∧
      w.untimed = fragmentWrite image config.payloadSize n ∧
      Undisturbed image config limit (n + 1) (now + config.pacing.toNat) stalls (w :: log) s' := by
  obtain ⟨h', hrefusal, hnoted⟩ := h.heeded
  have hne := h'.payload_ne_nil hd hn
  obtain ⟨w₁, hwritten, hcalm⟩ := h'.writeNext_of_free hfree
  obtain ⟨w₂, hslept, hcalm⟩ := hcalm.sleep hlimit
  have hpayload : s.heeded.next.payload = chunk image config.payloadSize n := by
    rw [h'.next_eq]
    rfl
  rw [← h'.config_eq] at hslept
  have hturned : Turned Bench.link s report _ _ _ :=
    .sent hrefusal h'.held_eq hne hwritten hslept rfl
  rw [hnoted report, hpayload] at hturned
  refine ⟨_, _, s.heeded.entry now, turn_of_turned hturned, fun hlast => ?_, ?_,
    h'.image_eq, h'.config_eq, h'.held_eq, ?_, hcalm⟩
  · rw [Turn.isLast_sent, decide_eq_true_iff, h.config_eq] at hlast
    rw [hpayload] at hne
    exact succ_eq_chunkCount hd (payloadSize_pos config) hne hlast
  · unfold BenchWrite.untimed entry
    rw [h'.next_eq]
    rfl
  · show s.heeded.flow.sequencer.advance.index = n + 1
    rw [Sequencer.index_advance, h'.index_eq]

/-- A fragment whose writes hang is to be written again, and has one left less to hang. -/
theorem turn_of_hanging (h : Undisturbed image config limit n now stalls log s)
    (hd : image.length < wordSpan) (hn : n < chunkCount image config.payloadSize)
    (hleft : 0 < stalls.left (UInt8.ofNat n)) (htimeout : config.writeTimeout.toNat < stallTime)
    (hlimit : now + (config.writeTimeout.toNat + config.writeBackoff.toNat) < limit) :
    ∃ s', turn Bench.link report s =
        .ok (.stalled, report.more 0 0 1) s' ∧
      Undisturbed image config limit n
        (now + (config.writeTimeout.toNat + config.writeBackoff.toNat))
        (stalls.use (UInt8.ofNat n)) log s' := by
  obtain ⟨h', hrefusal, hnoted⟩ := h.heeded
  have hne := h'.payload_ne_nil hd hn
  rw [← Nat.add_assoc] at hlimit ⊢
  obtain ⟨w₁, hwritten, hcalm⟩ := h'.writeNext_of_hanging hleft htimeout (by omega)
  obtain ⟨w₂, hslept, hcalm⟩ := hcalm.sleep hlimit
  rw [← h'.config_eq] at hslept
  have hturned : Turned Bench.link s report _ _ _ :=
    .stalled hrefusal h'.held_eq hne hwritten hslept
  rw [hnoted report] at hturned
  exact ⟨_, turn_of_turned hturned, h'.image_eq, h'.config_eq, h'.held_eq, h'.index_eq, hcalm⟩

end Undisturbed

/-! ## The stream -/

/-- The bytes from a chunk on are those of the chunk and those from the next chunk on. -/
theorem length_from_chunk (hd : image.length < wordSpan) (size n : Nat) :
    image.length - size * n =
      (chunk image size n).length + (image.length - size * (n + 1)) := by
  rw [length_chunk hd, Nat.mul_succ]
  omega

theorem length_past_chunks (size : Nat) (hs : 0 < size) :
    image.length - size * chunkCount image size = 0 := by
  have hlt : _ ↔ size * chunkCount image size < image.length := lt_chunkCount_iff hs
  omega

/-- **A stream to a quiet device** sends what is left of the image, fragment by fragment. -/
theorem Undisturbed.stream_eq (hd : image.length < wordSpan)
    (htimeout : config.writeTimeout.toNat < stallTime) {turns k owed : Nat}
    (h : Undisturbed image config limit n now stalls log s)
    (hk : n + k = chunkCount image config.payloadSize)
    (howed : stalls.owed n (chunkCount image config.payloadSize) = owed)
    (hturns : k + owed < turns) (hlimit : now + config.streamTime k owed < limit) :
    ∃ (s' : _) (stalls' : Stalls) (new : List BenchWrite),
      stream Bench.link turns report s =
        .ok (report.more k (image.length - config.payloadSize * n) owed) s' ∧
      new.map BenchWrite.untimed =
        (List.range' n k).map (fragmentWrite image config.payloadSize) ∧
      Undisturbed image config limit (n + k) (now + config.streamTime k owed) stalls'
        (new.reverse ++ log) s' := by
  induction turns generalizing n k owed now stalls log report s with
  | zero => omega
  | succ turns ih =>
    cases k with
    | zero =>
      rw [Nat.add_zero] at hk
      obtain ⟨s', hturn, h'⟩ := h.turn_of_drained hd (Nat.le_of_eq hk.symm)
      rw [← hk, Stalls.owed_self] at howed
      subst howed
      refine ⟨s', stalls, [], ?_, rfl, ?_⟩
      · rw [stream_of_last hturn rfl, hk, length_past_chunks _ (payloadSize_pos config)]
        rfl
      · rw [SessionConfig.streamTime_zero]
        exact h'
    | succ k =>
      have hn : n < chunkCount image config.payloadSize := by omega
      rcases Nat.eq_zero_or_pos (stalls.left (UInt8.ofNat n)) with hfree | hleft
      · rw [Stalls.owed_of_free hn hfree] at howed
        rw [SessionConfig.streamTime_fragment, ← Nat.add_assoc now] at hlimit ⊢
        obtain ⟨t, s₁, w, hturn, hlast, hw, h₁⟩ := h.turn_of_free hd hn hfree (by omega)
        rw [length_from_chunk hd]
        cases ht : t.isLast with
        | true =>
          have hlast := hlast ht
          rw [hlast, Stalls.owed_self] at howed
          subst howed
          obtain rfl : k = 0 := by omega
          refine ⟨s₁, stalls, [w], ?_, ?_, ?_⟩
          · rw [stream_of_last hturn ht, hlast, length_past_chunks _ (payloadSize_pos config)]
            rfl
          · rw [List.map_singleton, hw]
            rfl
          · rw [SessionConfig.streamTime_zero]
            exact h₁
        | false =>
          obtain ⟨s', stalls', new, hstream, hnew, h'⟩ := ih h₁ (by omega) howed (by omega) hlimit
          refine ⟨s', stalls', w :: new, ?_, ?_, ?_⟩
          · rw [stream_of_not_last hturn ht, hstream, TransferReport.more_more, Nat.zero_add,
              Nat.add_comm 1]
          · rw [List.map_cons, hw, hnew]
            rfl
          · rw [List.reverse_cons, List.append_assoc, Nat.add_comm k, ← Nat.add_assoc n]
            exact h'
      · rw [Stalls.owed_of_hanging hn hleft] at howed
        subst howed
        rw [SessionConfig.streamTime_timeout, ← Nat.add_assoc now] at hlimit ⊢
        obtain ⟨s₁, hturn, h₁⟩ := h.turn_of_hanging hd hn hleft htimeout (by omega)
        obtain ⟨s', stalls', new, hstream, hnew, h'⟩ := ih h₁ hk rfl (by omega) hlimit
        refine ⟨s', stalls', new, ?_, hnew, h'⟩
        rw [stream_of_not_last hturn rfl, hstream, TransferReport.more_more, Nat.zero_add,
          Nat.zero_add, Nat.add_comm 1]

/-! ## The session -/

/-- The write of an op code. -/
def controlWrite (op : Control) : Uuid × Bytes × WriteMode := (.control, [op.toByte], .request)

/-- A session with a quiet device opens at once. -/
theorem start_eq (image : Bytes) (config : SessionConfig) {w : World Bench Bytes} {turns : Nat}
    (h : w.Calm limit now { Bench.quiet with stalls := stalls }) (hturns : 0 < turns) :
    ∃ s' wr, start Bench.link turns (idle image config w) = .ok () s' ∧
      BenchWrite.untimed wr = controlWrite .start ∧ s'.phase = .streaming ∧
      Undisturbed image config limit 0 now stalls [wr] s' := by
  obtain ⟨turns, rfl⟩ := Nat.exists_eq_succ_of_ne_zero (Nat.pos_iff_ne_zero.1 hturns)
  have hcalm := h.onDevice (Bench.quietly stalls [])
  have hsubscribe : Bench.link.subscribe .status w =
      .ok () { w with device := Bench.quietly stalls [] } := by
    obtain ⟨_, _, credit, _, _, _⟩ := w
    obtain ⟨rfl, rfl, rfl, rfl, rfl⟩ := h
    rfl
  obtain ⟨w', hwrite, hxon, hcalm'⟩ := hcalm.write_start
  have hreceive := World.receiveWithin_of_pending config.startTimeout.toNat hxon
  have hawait : awaitXon (turns + 1) 0 (⟨image, config, .initial, .starting, w'⟩ : Session Bench Bytes)
      = .ok () ⟨image, config, .initial, .starting, { w' with mailbox := .empty }⟩ := by
    refine bind_eq_ok.2 ⟨_, _, rfl, bind_eq_ok.2 ⟨_, _, onWorld_eq_ok.2 ⟨_, hreceive, rfl⟩, ?_⟩⟩
    rfl
  have hshake : handshake Bench.link (turns + 1)
      (⟨image, config, .initial, .starting, w⟩ : Session Bench Bytes) =
      .ok () ⟨image, config, .initial, .starting, { w' with mailbox := .empty }⟩ :=
    bind_eq_ok.2 ⟨(), _, onWorld_eq_ok.2 ⟨_, hsubscribe, rfl⟩,
      bind_eq_ok.2 ⟨(), _, onWorld_eq_ok.2 ⟨_, hwrite, rfl⟩, hawait⟩⟩
  refine ⟨⟨image, config, .initial, .streaming, { w' with mailbox := .empty }⟩, _, ?_, rfl, rfl,
    rfl, rfl, rfl, rfl, hcalm'⟩
  exact bind_eq_ok.2 ⟨(), _, rfl, bind_eq_ok.2 ⟨(), _, rfl,
    bind_eq_ok.2 ⟨(), _, settling_eq_ok.2 hshake, rfl⟩⟩⟩

/-- Behind START and before COMMIT the fragments carry the image. -/
theorem payloads_of_writes (hd : image.length < wordSpan) {d : Bench}
    (h : d.writes.map BenchWrite.untimed = controlWrite .start ::
      (List.range (chunkCount image config.payloadSize)).map
        (fragmentWrite image config.payloadSize) ++ [controlWrite .commit]) :
    (d.fragments.map Fragment.payload).flatten = image := by
  have hfragments : d.fragments = (List.range (chunkCount image config.payloadSize)).map
      (fragmentAt image config.payloadSize) := by
    rw [Bench.fragments_eq, h, List.cons_append, List.filterMap_cons_none rfl,
      List.filterMap_append, List.filterMap_map, ← List.filterMap_eq_map]
    exact List.append_nil _
  rw [hfragments, List.map_map]
  exact flatten_chunks hd (payloadSize_pos config)

/-- **A session with a quiet device**: it comes to its end, has written START, every
    fragment once, in order, and COMMIT, and reports just that, with the writes that hung
    and the time that pauses and given up writes took. -/
theorem run_of_quiet {turns count owed : Nat} (hd : image.length < wordSpan)
    (htimeout : config.writeTimeout.toNat < stallTime)
    (hcount : chunkCount image config.payloadSize = count) (howed : stalls.owed 0 count = owed)
    (hturns : count + owed < turns) (hlimit : config.streamTime count owed < limit) :
    ∃ s', run Bench.link turns
        (idle image config (.initial limit { Bench.quiet with stalls := stalls })) =
          .ok ⟨count, image.length, owed, 0, config.streamTime count owed⟩ s' ∧
      s'.phase = .closed ∧ s'.flow.sequencer.index = count ∧
      s'.world.device.writes.map BenchWrite.untimed =
        controlWrite .start :: (List.range count).map (fragmentWrite image config.payloadSize) ++
          [controlWrite .commit] ∧
      (s'.world.device.fragments.map Fragment.payload).flatten = image := by
  have hinitial : (World.initial limit { Bench.quiet with stalls := stalls } :
      World Bench Bytes).Calm limit 0 { Bench.quiet with stalls := stalls } :=
    ⟨rfl, rfl, rfl, rfl, rfl⟩
  obtain ⟨s₁, first, hstart, hfirst, hphase, h₁⟩ :=
    start_eq image config hinitial (Nat.zero_lt_of_lt hturns)
  subst hcount
  obtain ⟨s₂, stalls', new, hstream, hnew, h₂⟩ : ∃ (s' : _) (stalls' : Stalls)
      (new : List BenchWrite), stream Bench.link turns .empty s₁ = _ ∧ _ ∧ _ :=
    h₁.stream_eq hd htimeout (Nat.zero_add _) howed hturns (by rwa [Nat.zero_add])
  have htransfer := transfer_of_stream hphase hstream
  obtain ⟨w, hwrite, hcalm⟩ := h₂.calm.write_commit
  have hcommit : commit Bench.link { s₂ with phase := .committing } = _ :=
    commit_of_write rfl hwrite
  have hreport : { TransferReport.empty.more (chunkCount image config.payloadSize)
        (image.length - config.payloadSize * 0) owed with
        elapsed := s₂.world.now - s₁.world.now } =
      (⟨chunkCount image config.payloadSize, image.length, owed, 0,
        config.streamTime (chunkCount image config.payloadSize) owed⟩ : TransferReport) := by
    simp [TransferReport.more, TransferReport.empty, h₁.calm.now_eq, h₂.calm.now_eq]
  rw [hreport] at htransfer
  have hwrites : w.device.writes.map BenchWrite.untimed = controlWrite .start ::
      (List.range (chunkCount image config.payloadSize)).map
        (fragmentWrite image config.payloadSize) ++ [controlWrite .commit] := by
    rw [hcalm.device_eq]
    show (List.reverse (_ :: (new.reverse ++ [first]))).map BenchWrite.untimed = _
    rw [List.reverse_cons, List.reverse_append, List.reverse_reverse, List.map_append,
      List.map_append, hnew, List.range_eq_range', List.reverse_singleton, List.map_singleton,
      hfirst]
    rfl
  refine ⟨_, bind_eq_ok.2 ⟨(), s₁, hstart, bind_eq_ok.2 ⟨_, _, htransfer,
    bind_eq_ok.2 ⟨(), _, hcommit, rfl⟩⟩⟩, rfl, ?_, hwrites, ?_⟩
  · exact h₂.index_eq.trans (Nat.zero_add _)
  · exact payloads_of_writes hd hwrites

end Session

namespace Bench

/-- Three bytes, one in a fragment, to a device that lets two writes of the second hang. -/
theorem slow_run_of_quiet :
    ∃ s', Session.run link 16 (.idle [7, 8, 9] { SessionConfig.default with fragmentSize := 1 }
        (.initial 60000 { quiet with stalls := [(1, 2), (9, 4)] })) = .ok ⟨3, 3, 2, 0, 475⟩ s' ∧
      s'.phase = .closed ∧
      (s'.world.device.fragments.map Fragment.payload).flatten = [7, 8, 9] := by
  obtain ⟨s', hrun, hphase, -, -, hpayloads⟩ :=
    @Session.run_of_quiet [7, 8, 9] { SessionConfig.default with fragmentSize := 1 } 60000
      [(1, 2), (9, 4)] 16 3 2 (by decide) (by decide) rfl rfl (by decide) (by decide)
  exact ⟨s', hrun, hphase, hpayloads⟩

end Bench

end AirUpdate
