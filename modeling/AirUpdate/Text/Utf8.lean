/-
  Air updates — reading UTF-8.

  A byte string falls into pieces: a character with all its bytes, or a
  faulty piece, which is the longest start of a character that is there (or
  one byte that starts none).  `pieces` cuts a byte string up.  `decode?`
  accepts a byte string without faulty pieces; `decodeLossy` reads every byte
  string and shows each faulty piece as U+FFFD.
-/
import AirUpdate.Bytes

namespace AirUpdate.Utf8

/-- What the first byte of a character announces: its own bits of the code
    point, and the ranges of the bytes that have to follow. -/
structure Lead where
  bits : Nat
  follow : List (Nat × Nat)
  deriving DecidableEq, Repr

/-- The range of a continuation byte. -/
def tail : Nat × Nat := (0x80, 0xbf)

/-- What a byte announces as the first one of a character.  The ranges of the
    second byte leave out overlong forms, surrogates and code points above
    U+10FFFF. -/
def Lead.ofByte? (b : UInt8) : Option Lead :=
  let n := b.toNat
  if n < 0x80 then some ⟨n, []⟩
  else if n < 0xc2 then none
  else if n < 0xe0 then some ⟨n - 0xc0, [tail]⟩
  else if n = 0xe0 then some ⟨0, [(0xa0, 0xbf), tail]⟩
  else if n = 0xed then some ⟨0xd, [(0x80, 0x9f), tail]⟩
  else if n < 0xf0 then some ⟨n - 0xe0, [tail, tail]⟩
  else if n = 0xf0 then some ⟨0, [(0x90, 0xbf), tail, tail]⟩
  else if n < 0xf4 then some ⟨n - 0xf0, [tail, tail, tail]⟩
  else if n = 0xf4 then some ⟨4, [(0x80, 0x8f), tail, tail]⟩
  else none

/-- Reads the bytes that have to follow, as far as they do: the code point if
    all are there, and the rest of the input. -/
def readTail (bits : Nat) : List (Nat × Nat) → Bytes → Option Nat × Bytes
  | [], bs => (some bits, bs)
  | _ :: _, [] => (none, [])
  | (lo, hi) :: ranges, b :: bs =>
    if lo ≤ b.toNat ∧ b.toNat ≤ hi then readTail (64 * bits + (b.toNat - 0x80)) ranges bs
    else (none, b :: bs)

theorem length_readTail (bits : Nat) (ranges : List (Nat × Nat)) (bs : Bytes) :
    (readTail bits ranges bs).2.length ≤ bs.length := by
  induction ranges generalizing bits bs with
  | nil => simp [readTail]
  | cons r ranges ih =>
    cases bs with
    | nil => simp [readTail]
    | cons b bs =>
      simp only [readTail]
      split
      · exact Nat.le_succ_of_le (ih _ bs)
      · exact Nat.le_refl _

/-- The first piece of a byte string, which starts with `b`: its code point, if
    it is a character, and the rest of the input. -/
def firstPiece (b : UInt8) (bs : Bytes) : Option Nat × Bytes :=
  match Lead.ofByte? b with
  | none => (none, bs)
  | some lead => readTail lead.bits lead.follow bs

theorem length_firstPiece (b : UInt8) (bs : Bytes) : (firstPiece b bs).2.length ≤ bs.length := by
  unfold firstPiece
  split
  · exact Nat.le_refl _
  · exact length_readTail _ _ _

/-- The pieces of a byte string; a faulty piece has no character. -/
def pieces : Bytes → List (Option Char)
  | [] => []
  | b :: bs => (firstPiece b bs).1.map Char.ofNat :: pieces (firstPiece b bs).2
  termination_by bs => bs.length
  decreasing_by exact Nat.lt_succ_of_le (length_firstPiece b bs)

/-- What stands for a faulty piece. -/
def replacement : Char := Char.ofNat 0xfffd

/-- The text of a byte string, with a replacement for each faulty piece. -/
def decodeLossy (bs : Bytes) : List Char :=
  (pieces bs).map (·.getD replacement)

def decode? (bs : Bytes) : Option (List Char) :=
  (pieces bs).mapM id

def encode (cs : List Char) : Bytes :=
  cs.flatMap String.utf8EncodeChar

end AirUpdate.Utf8
