/-
  Air updates — padding does not count.

  A byte below 0x80 is a character by itself and goes on with none, so whatever it
  stands behind, a truncated character included, is read as if it stood alone
  (`pieces_append_cons`).  NULs at the end of a byte string are such bytes: they add
  nothing but NULs to its text, which drops them again (`decode_append_zeros`).  Of
  byte strings that encode a text, two have the same revision exactly if they are the
  same up to that padding (`decode_eq_iff`), and that is what an update goes by that
  looks whether the revision has changed (`discernment`).
-/
import AirUpdate.Bench
import AirUpdate.Proofs.Course
import AirUpdate.Proofs.Encoding
import Mathlib.Data.List.DropRight

namespace AirUpdate

namespace Utf8
variable {a b : UInt8} {bs : Bytes} {cs ds : List Char}

/-! ## Pieces in front of a character of one byte -/

/-- The bytes that go on with a character are all behind those that are one. -/
theorem le_of_mem_follow (b : UInt8) :
    ∀ lead ∈ Lead.ofByte? b, ∀ range ∈ lead.follow, 0x80 ≤ range.1 := by
  simp only [Lead.ofByte?]
  split_ifs <;> simp [tail] <;> (intros; omega)

theorem readTail_append_cons (ha : a.toNat < 0x80) {ranges : List (Nat × Nat)}
    (hranges : ∀ range ∈ ranges, 0x80 ≤ range.1) (bits : Nat) (bs rest : Bytes) :
    readTail bits ranges (bs ++ a :: rest) =
      ((readTail bits ranges bs).1, (readTail bits ranges bs).2 ++ a :: rest) := by
  induction ranges generalizing bits bs with
  | nil => rfl
  | cons range ranges ih =>
    obtain ⟨lo, hi⟩ := range
    obtain ⟨hlo, hranges⟩ := List.forall_mem_cons.1 hranges
    cases bs with
    | nil =>
      have hstops : ¬ (lo ≤ a.toNat ∧ a.toNat ≤ hi) := by
        simp only at hlo
        omega
      simp only [List.nil_append, readTail, if_neg hstops]
    | cons b bs =>
      rw [List.cons_append, readTail, readTail]
      split
      · exact ih hranges _ bs
      · rfl

theorem firstPiece_append_cons (ha : a.toNat < 0x80) (b : UInt8) (bs rest : Bytes) :
    firstPiece b (bs ++ a :: rest) =
      ((firstPiece b bs).1, (firstPiece b bs).2 ++ a :: rest) := by
  unfold firstPiece
  cases hlead : Lead.ofByte? b with
  | none => rfl
  | some lead => exact readTail_append_cons ha (le_of_mem_follow b lead hlead) _ bs rest

/-- **A character of one byte ends what stands before it**, finished or not. -/
theorem pieces_append_cons (ha : a.toNat < 0x80) (bs rest : Bytes) :
    pieces (bs ++ a :: rest) = pieces bs ++ pieces (a :: rest) := by
  induction bs using pieces.induct with
  | case1 => simp [pieces]
  | case2 b bs ih =>
    rw [List.cons_append, pieces, firstPiece_append_cons ha, ih, pieces.eq_2 b bs]
    rfl

/-! ## NULs -/

/-- The character that pads a text. -/
def nul : Char := Char.ofNat 0

theorem toNat_nul : nul.toNat = 0 := rfl

theorem pieces_zeros (n : Nat) : pieces (List.replicate n 0) = List.replicate n (some nul) := by
  induction n with
  | zero => simp [pieces]
  | succ n ih =>
    rw [List.replicate_succ, pieces, firstPiece_one (by decide), ih]
    rfl

theorem decodeLossy_append_zeros (bs : Bytes) (n : Nat) :
    decodeLossy (bs ++ List.replicate n 0) = decodeLossy bs ++ List.replicate n nul := by
  have hpieces : pieces (bs ++ List.replicate n 0) = pieces bs ++ List.replicate n (some nul) := by
    cases n with
    | zero => simp
    | succ n => rw [List.replicate_succ, pieces_append_cons (by decide), ← List.replicate_succ,
        pieces_zeros]
  simp [decodeLossy, hpieces]

/-! ## Texts and their bytes -/

/-- The byte string encodes a text. -/
def Valid (bs : Bytes) : Prop := ∃ cs, bs = encode cs

theorem decodeLossy_encode (cs : List Char) : decodeLossy (encode cs) = cs := by
  simp [decodeLossy, pieces_encode, Function.comp_def]

theorem encode_inj : encode cs = encode ds ↔ cs = ds := by
  refine ⟨fun h => ?_, congrArg encode⟩
  rw [← decodeLossy_encode cs, h, decodeLossy_encode]

theorem encode_concat (cs : List Char) (c : Char) :
    encode (cs ++ [c]) = encode cs ++ String.utf8EncodeChar c := by
  simp [encode]

theorem ofNat_ne_zero {n : Nat} (h : 0 < n) (hn : n < 256) : UInt8.ofNat n ≠ 0 := by
  intro hzero
  have htoNat := congrArg UInt8.toNat hzero
  simp only [UInt8.toNat_ofNat', UInt8.toNat_zero] at htoNat
  omega

/-- A character other than NUL does not end with a zero. -/
theorem exists_last_of_ne {c : Char} (hc : c.toNat ≠ 0) :
    ∃ init last, String.utf8EncodeChar c = init ++ [last] ∧ last ≠ 0 := by
  rw [String.utf8EncodeChar.eq_1, show c.val.toNat = c.toNat from rfl]
  generalize c.toNat = n at hc ⊢
  split_ifs
  · exact ⟨[], _, rfl, ofNat_ne_zero (by omega) (by omega)⟩
  · exact ⟨[_], _, rfl, ofNat_ne_zero (by omega) (by omega)⟩
  · exact ⟨[_, _], _, rfl, ofNat_ne_zero (by omega) (by omega)⟩
  · exact ⟨[_, _, _], _, rfl, ofNat_ne_zero (by omega) (by omega)⟩

end Utf8

namespace Revision
open Utf8
variable {a b bs raw : Bytes} {cs : List Char}

/-! ## Revisions -/

/-- A byte string without the zeros at its end. -/
def unpadded (bs : Bytes) : Bytes := bs.rdropWhile (· = 0)

theorem unpadded_concat (bs : Bytes) (b : UInt8) :
    unpadded (bs ++ [b]) = if b = 0 then unpadded bs else bs ++ [b] := by
  simp [unpadded, List.rdropWhile_concat]

theorem trimNuls_concat (cs : List Char) (c : Char) :
    trimNuls (cs ++ [c]) = if c.toNat = 0 then trimNuls cs else cs ++ [c] := by
  simp only [trimNuls, List.reverse_append, List.reverse_singleton, List.singleton_append,
    List.dropWhile_cons, decide_eq_true_eq]
  split <;> simp

theorem trimNuls_append_nuls (cs : List Char) (n : Nat) :
    trimNuls (cs ++ List.replicate n nul) = trimNuls cs := by
  induction n with
  | zero => simp
  | succ n ih =>
    rw [List.replicate_succ', ← List.append_assoc, trimNuls_concat, if_pos toNat_nul, ih]

theorem getLast?_trimNuls (cs : List Char) : (trimNuls cs).getLast? ≠ some nul := by
  induction cs using List.reverseRecOn with
  | nil => exact nofun
  | append_singleton cs c ih =>
    rw [trimNuls_concat]
    split
    · exact ih
    · next hc =>
      rw [List.getLast?_concat]
      rintro ⟨⟩
      exact hc rfl

/-- **Padding does not count**, whatever it stands behind. -/
theorem decode_append_zeros (bs : Bytes) (n : Nat) :
    decode (bs ++ List.replicate n 0) = decode bs := by
  rw [decode, decodeLossy_append_zeros, trimNuls_append_nuls, decode]

/-- A text never ends with padding. -/
theorem getLast?_decode (bs : Bytes) : (decode bs).toList.getLast? ≠ some nul := by
  rw [decode, String.toList_ofList]
  exact getLast?_trimNuls _

/-- A byte string is what is left of it, and its padding. -/
theorem exists_unpadded_append (bs : Bytes) : ∃ n, bs = unpadded bs ++ List.replicate n 0 := by
  induction bs using List.reverseRecOn with
  | nil => exact ⟨0, rfl⟩
  | append_singleton bs b ih =>
    rw [unpadded_concat]
    split
    · next hb =>
      obtain ⟨n, hn⟩ := ih
      refine ⟨n + 1, ?_⟩
      rw [List.replicate_succ', ← List.append_assoc, ← hn, hb]
    · exact ⟨0, by simp⟩

theorem decode_unpadded (bs : Bytes) : decode (unpadded bs) = decode bs := by
  obtain ⟨n, hn⟩ := exists_unpadded_append bs
  conv_rhs => rw [hn, decode_append_zeros]

/-- The bytes of a text lose their padding as the text does. -/
theorem unpadded_encode (cs : List Char) : unpadded (encode cs) = encode (trimNuls cs) := by
  induction cs using List.reverseRecOn with
  | nil => rfl
  | append_singleton cs c ih =>
    rw [encode_concat, trimNuls_concat]
    split
    · next hc =>
      have hbytes : String.utf8EncodeChar c = [0] := by
        simp [String.utf8EncodeChar.eq_1, show c.val.toNat = c.toNat from rfl, hc]
      rw [hbytes, unpadded_concat, if_pos rfl, ih]
    · next hc =>
      obtain ⟨init, last, hbytes, hlast⟩ := exists_last_of_ne hc
      rw [hbytes, ← List.append_assoc, unpadded_concat, if_neg hlast, encode_concat, hbytes,
        List.append_assoc]

/-- **Texts are told apart** by their bytes, up to padding. -/
theorem decode_eq_iff (ha : Valid a) (hb : Valid b) :
    decode a = decode b ↔ unpadded a = unpadded b := by
  obtain ⟨cs, rfl⟩ := ha
  obtain ⟨ds, rfl⟩ := hb
  rw [unpadded_encode, unpadded_encode, encode_inj, decode, decode, decodeLossy_encode,
    decodeLossy_encode, String.ofList_inj]

/-! ## Reading a revision -/

section
variable {D A : Type} {link : Link D A} {w w' : World D A} {r : Revision}

/-- The service in which a device tells its revision, if it does. -/
def source? (link : Link D A) (d : D) : Option Uuid :=
  if link.has .fotaService .firmwareRevision d then some .fotaService
  else if link.has .deviceInformation .firmwareRevision d then some .deviceInformation
  else none

/-- The revision was read over the link, which gave these bytes for it. -/
structure ReadAs (link : Link D A) (w : World D A) (raw : Bytes) (r : Revision) : Prop where
  reads : ∃ w', read link w = .ok r w'
  gives : ∃ service w', source? link w.device = some service ∧
    link.read service .firmwareRevision w = .ok raw w'

theorem read_eq_ok (h : read link w = .ok r w') : ∃ service value w₁,
    source? link w.device = some service ∧
      link.read service .firmwareRevision w = .ok value w₁ ∧ r.revision = decode value := by
  unfold read at h
  simp only [World.seen_bind] at h
  split at h
  · next hscoped =>
    obtain ⟨value, w₁, hread, h⟩ := bind_eq_ok.1 h
    obtain ⟨description, w₂, -, h⟩ := bind_eq_ok.1 h
    cases h
    exact ⟨_, value, _, if_pos hscoped, hread, rfl⟩
  · next hscoped =>
    simp only [World.seen_bind] at h
    split at h
    · next hinformation =>
      obtain ⟨value, w₁, hread, h⟩ := bind_eq_ok.1 h
      cases h
      exact ⟨_, value, _, (if_neg hscoped).trans (if_pos hinformation), hread, rfl⟩
    · cases h

theorem exists_readAs (h : read link w = .ok r w') : ∃ raw, ReadAs link w raw r := by
  obtain ⟨service, value, w₁, hsource, hread, -⟩ := read_eq_ok h
  exact ⟨value, ⟨w', h⟩, service, w₁, hsource, hread⟩

theorem ReadAs.revision_eq (h : ReadAs link w raw r) : r.revision = decode raw := by
  obtain ⟨⟨w', hr⟩, service, w₁, hservice, hraw⟩ := h
  obtain ⟨service', value, w₂, hsource, hread, hrevision⟩ := read_eq_ok hr
  cases hservice.symm.trans hsource
  cases hraw.symm.trans hread
  exact hrevision

end

end Revision

/-- Every leg of a course was gone. -/
theorem Update.Course.exists_of_mem {l : Leg} {ls : List Leg} {w w' : World Radio RadioAction}
    (h : Course ls w w') (hl : l ∈ ls) : ∃ v v', l v v' := by
  induction h with
  | nil => cases hl
  | cons hfirst _ ih =>
    rcases List.mem_cons.1 hl with rfl | hl
    · exact ⟨_, _, hfirst⟩
    · exact ih hl

namespace Outcome
open Utf8 Revision
variable {D A : Type} {link link' : Link D A} {w w' : World D A} {a b : Bytes}
  {o : Outcome}

/-- The outcome compares two revisions that were read as these bytes. -/
structure Compares (o : Outcome) (link link' : Link D A) (w w' : World D A) (a b : Bytes) :
    Prop where
  before : ReadAs link w a o.before
  after : ∃ after, o.after = some after ∧ ReadAs link' w' b after

theorem Compares.succeeded_eq (h : o.Compares link link' w w' a b) :
    o.succeeded = some (decide (decode b ≠ decode a)) := by
  obtain ⟨after, hafter, hread⟩ := h.after
  rw [succeeded, hafter, Option.map_some, hread.revision_eq, h.before.revision_eq]

/-- An update that verifies compares what it reads before and after. -/
theorem compares_of_run {image : Image} {config : UpdateConfig} {turns : Nat}
    {w w' : World Radio RadioAction} (h : Update.run image config true turns w = .ok o w') :
    ∃ i j v v' a b, o.Compares (Radio.link i) (Radio.link j) v v' a b := by
  obtain ⟨i, w₁, w₂, hopening, -, -, hcloses⟩ := Update.course_of_run h
  obtain ⟨v, _, hbefore, -⟩ : ∃ v v', Update.Reads i o.before v v' :=
    hopening.exists_of_mem (by simp)
  obtain ⟨a, ha⟩ := exists_readAs hbefore
  generalize hafter : o.after = after at hcloses
  cases hcloses with
  | @verified j after _ _ hclosing =>
    obtain ⟨v', _, hread, -⟩ : ∃ v v', Update.Reads j after v v' :=
      hclosing.exists_of_mem (by simp)
    obtain ⟨b, hb⟩ := exists_readAs hread
    exact ⟨i, j, v, v', a, b, ha, after, hafter, hb⟩

/-! ## What revisions tell -/

/-- What an update can tell from two revisions, and what it cannot. -/
structure Discernment : Prop where
  /-- what ends in the middle of a character is no exception -/
  padded : ∀ bs n, decode (bs ++ List.replicate n 0) = decode bs
  unended : ∀ bs, (decode bs).toList.getLast? ≠ some nul
  texts : ∀ a b, Valid a → Valid b → (decode a = decode b ↔ unpadded a = unpadded b)
  /-- a revision counts as changed by more than padding, if both are texts -/
  changed : ∀ {D A : Type} {link link' : Link D A} {w w' a b o},
    Compares o link link' w w' a b → Valid a → Valid b →
      (o.succeeded = some true ↔ unpadded a ≠ unpadded b)
  /-- and never by padding alone, whatever the bytes are -/
  unchanged : ∀ {D A : Type} {link link' : Link D A} {w w' a b o},
    Compares o link link' w w' a b → unpadded a = unpadded b → o.succeeded = some false
  /-- which is what an update goes by that verifies -/
  compares : ∀ {image config turns w o w'}, Update.run image config true turns w = .ok o w' →
    ∃ i j v v' a b, Compares o (Radio.link i) (Radio.link j) v v' a b

/-- **A revision is discerned** by its bytes but for their padding. -/
theorem discernment : Discernment := by
  constructor
  case padded => exact decode_append_zeros
  case unended => exact getLast?_decode
  case texts => exact fun a b => decode_eq_iff
  case changed =>
    intro D A link link' w w' a b o h ha hb
    rw [h.succeeded_eq, Option.some_inj, decide_eq_true_iff, Ne, decode_eq_iff hb ha, eq_comm]
  case unchanged =>
    intro D A link link' w w' a b o h hpadding
    have hsame : decode b = decode a := by
      rw [← decode_unpadded b, ← hpadding, decode_unpadded]
    rw [h.succeeded_eq, hsame]
    simp
  case compares => exact compares_of_run

/-- A bench device with these bytes for its revision. -/
def telling (raw : Bytes) : World Bench Bytes :=
  .initial 600000 { Bench.quiet with readables := [⟨.fotaService, .firmwareRevision, raw, []⟩] }

theorem readAs_telling (raw : Bytes) :
    ReadAs Bench.link (telling raw) raw ⟨decode raw, none⟩ :=
  ⟨⟨telling raw, rfl⟩, .fotaService, telling raw, rfl, rfl⟩

/-- What an update comes to whose device told these bytes before and after. -/
def told (a b : Bytes) : Outcome := ⟨⟨decode a, none⟩, some ⟨decode b, none⟩, .empty⟩

theorem compares_told (a b : Bytes) :
    (told a b).Compares Bench.link Bench.link (telling a) (telling b) a b :=
  ⟨readAs_telling a, _, rfl, readAs_telling b⟩

/-- The revision `2` is another than `1` padded; two bytes of a character of three are the
    same as ever with padding behind them. -/
theorem discernment_of_told : (told [0x31, 0] [0x32]).succeeded = some true ∧
    (told [0xe2, 0x82] [0xe2, 0x82, 0, 0]).succeeded = some false := by
  constructor
  · have htexts : Valid [0x31, 0] ∧ Valid [0x32] := ⟨⟨['1', nul], rfl⟩, ['2'], rfl⟩
    refine (discernment.changed (compares_told _ _) htexts.1 htexts.2).2 ?_
    decide
  · refine discernment.unchanged (compares_told _ _) ?_
    decide

end Outcome

end AirUpdate
