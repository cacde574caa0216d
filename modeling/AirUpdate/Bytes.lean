/-
  Air updates — byte strings and their hexadecimal text.

  A byte string is a list of bytes.  `Bytes.toHex` writes two lowercase
  digits per byte; `Bytes.ofHex?` reads that text back (in either case), and
  `ofHex?_toHex` says that the text determines the bytes.
-/
namespace AirUpdate

/-- A byte string, first byte first. -/
abbrev Bytes := List UInt8

/-- The digit for a value below 16. -/
def hexDigit (n : Nat) : Char :=
  if n < 10 then Char.ofNat (48 + n) else Char.ofNat (87 + n)

/-- The value of a hexadecimal digit, in either case. -/
def hexValue? (c : Char) : Option Nat :=
  if '0' ≤ c ∧ c ≤ '9' then some (c.toNat - 48)
  else if 'a' ≤ c ∧ c ≤ 'f' then some (c.toNat - 87)
  else if 'A' ≤ c ∧ c ≤ 'F' then some (c.toNat - 55)
  else none

def hexByte (b : UInt8) : List Char :=
  [hexDigit (b.toNat / 16), hexDigit (b.toNat % 16)]

namespace Bytes

/-- The text of a byte string: two lowercase digits per byte. -/
def toHex (bs : Bytes) : String :=
  String.ofList (bs.flatMap hexByte)

/-- Reads pairs of digits; a lone digit and any other character are refused. -/
def ofHexChars? : List Char → Option Bytes
  | [] => some []
  | hi :: lo :: rest => do
    let h ← hexValue? hi
    let l ← hexValue? lo
    let bs ← ofHexChars? rest
    pure (UInt8.ofNat (16 * h + l) :: bs)
  | [_] => none

def ofHex? (s : String) : Option Bytes :=
  ofHexChars? s.toList

end Bytes

theorem hexValue?_hexDigit : ∀ n : Fin 16, hexValue? (hexDigit n) = some n.val := by
  decide

namespace Bytes

theorem ofHexChars?_flatMap (bs : Bytes) : ofHexChars? (bs.flatMap hexByte) = some bs := by
  induction bs with
  | nil => rfl
  | cons b bs ih =>
    have hb : b.toNat < 256 := b.toNat_lt
    have hi := hexValue?_hexDigit ⟨b.toNat / 16, by omega⟩
    have lo := hexValue?_hexDigit ⟨b.toNat % 16, by omega⟩
    have hsum : 16 * (b.toNat / 16) + b.toNat % 16 = b.toNat := by omega
    simp only at hi lo
    simp only [List.flatMap_cons, hexByte, List.cons_append, List.nil_append, ofHexChars?, hi, lo, ih]
    show some (UInt8.ofNat (16 * (b.toNat / 16) + b.toNat % 16) :: bs) = some (b :: bs)
    rw [hsum, UInt8.ofNat_toNat]

theorem ofHex?_toHex (bs : Bytes) : ofHex? bs.toHex = some bs := by
  simp [ofHex?, toHex, ofHexChars?_flatMap]

end Bytes

end AirUpdate
