/-
  Air updates — a text survives its bytes.

  The first byte of a character says how many follow.  For each length of a
  character, its bytes are the first piece of every byte string that starts
  with them (`firstPiece_encodeChar`), and so the pieces of an encoded text are
  its characters.
-/
import AirUpdate.Text.Utf8
import Mathlib.Data.List.Basic

namespace AirUpdate.Utf8

section
variable {a b c d : UInt8}

/-- A byte that goes on with a character. -/
def Continues (b : UInt8) : Prop := 0x80 ≤ b.toNat ∧ b.toNat ≤ 0xbf

theorem firstPiece_one (ha : a.toNat < 0x80) (bs : Bytes) :
    firstPiece a bs = (some a.toNat, bs) := by
  simp [firstPiece, Lead.ofByte?, readTail, ha]

theorem firstPiece_two (h₁ : 0xc2 ≤ a.toNat) (h₂ : a.toNat < 0xe0) (hb : Continues b) (bs : Bytes) :
    firstPiece a (b :: bs) = (some (64 * (a.toNat - 0xc0) + (b.toNat - 0x80)), bs) := by
  have lead : Lead.ofByte? a = some ⟨a.toNat - 0xc0, [tail]⟩ := by
    grind [Lead.ofByte?]
  simp [firstPiece, lead, readTail, tail, hb.1, hb.2]

theorem firstPiece_three (h₁ : 0xe0 ≤ a.toNat) (h₂ : a.toNat < 0xf0) (hb : Continues b)
    (hc : Continues c) (long : a.toNat = 0xe0 → 0xa0 ≤ b.toNat)
    (surrogate : a.toNat = 0xed → b.toNat ≤ 0x9f) (bs : Bytes) :
    firstPiece a (b :: c :: bs) =
      (some (64 * (64 * (a.toNat - 0xe0) + (b.toNat - 0x80)) + (c.toNat - 0x80)), bs) := by
  obtain ⟨lo, hi, lead, range⟩ : ∃ lo hi,
      Lead.ofByte? a = some ⟨a.toNat - 0xe0, [(lo, hi), tail]⟩ ∧ lo ≤ b.toNat ∧ b.toNat ≤ hi := by
    grind [Lead.ofByte?, Continues, tail]
  simp [firstPiece, lead, readTail, tail, range.1, range.2, hc.1, hc.2]

theorem firstPiece_four (h₁ : 0xf0 ≤ a.toNat) (h₂ : a.toNat ≤ 0xf4) (hb : Continues b)
    (hc : Continues c) (hd : Continues d) (long : a.toNat = 0xf0 → 0x90 ≤ b.toNat)
    (large : a.toNat = 0xf4 → b.toNat ≤ 0x8f) (bs : Bytes) :
    firstPiece a (b :: c :: d :: bs) =
      (some (64 * (64 * (64 * (a.toNat - 0xf0) + (b.toNat - 0x80)) + (c.toNat - 0x80)) +
        (d.toNat - 0x80)), bs) := by
  obtain ⟨lo, hi, lead, range⟩ : ∃ lo hi,
      Lead.ofByte? a = some ⟨a.toNat - 0xf0, [(lo, hi), tail, tail]⟩ ∧
        lo ≤ b.toNat ∧ b.toNat ≤ hi := by
    grind [Lead.ofByte?, Continues, tail]
  simp [firstPiece, lead, readTail, tail, range.1, range.2, hc.1, hc.2, hd.1, hd.2]

end

theorem firstPiece_encodeChar (c : Char) (bs : Bytes) :
    ∃ b follow, String.utf8EncodeChar c = b :: follow ∧
      firstPiece b (follow ++ bs) = (some c.toNat, bs) := by
  have valid : c.toNat < 0xd800 ∨ 0xdfff < c.toNat ∧ c.toNat < 0x110000 := c.valid
  rw [String.utf8EncodeChar.eq_1, show c.val.toNat = c.toNat from rfl]
  generalize c.toNat = n at valid ⊢
  split_ifs <;> refine ⟨_, _, rfl, ?_⟩ <;> simp only [List.cons_append, List.nil_append]
  · have toNat : (UInt8.ofNat n).toNat = n := by simp; omega
    rw [firstPiece_one (by omega), toNat]
  · rw [firstPiece_two]
    all_goals simp [Continues]
    all_goals omega
  · rw [firstPiece_three]
    all_goals simp [Continues]
    all_goals omega
  · rw [firstPiece_four]
    all_goals simp [Continues]
    all_goals omega

theorem pieces_encode_append (cs : List Char) (bs : Bytes) :
    pieces (encode cs ++ bs) = cs.map some ++ pieces bs := by
  induction cs with
  | nil => rfl
  | cons c cs ih =>
    obtain ⟨b, follow, bytes, first⟩ := firstPiece_encodeChar c (encode cs ++ bs)
    have split : encode (c :: cs) ++ bs = b :: (follow ++ (encode cs ++ bs)) := by
      simp [encode, bytes]
    rw [split, pieces, first, ih]
    simp

theorem pieces_encode (cs : List Char) : pieces (encode cs) = cs.map some := by
  simpa [pieces] using pieces_encode_append cs []

/-- **Encoding a text loses nothing.** -/
theorem decode?_encode (cs : List Char) : decode? (encode cs) = some cs := by
  rw [decode?, pieces_encode]
  induction cs with
  | nil => rfl
  | cons c cs ih => simp [ih]

end AirUpdate.Utf8
