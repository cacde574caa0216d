/-
  Air updates — the texts of JSON values.

  The grammar of JSON does not read: it says which texts a value has.  A value
  has many, since blanks may stand around every value, name, bracket and comma,
  and a string may escape any of its characters.
-/
import AirUpdate.Json.Reader

namespace AirUpdate.Json

/-- Nothing but blanks. -/
def Blank (cs : List Char) : Prop := ∀ c ∈ cs, isBlank c

/-! ## Numbers -/

/-- Digits, at least one. -/
structure Digits (ds : List Char) : Prop where
  some : ds ≠ []
  all : ∀ c ∈ ds, isDecimal c

/-- What stands before the point: zero alone, or digits that do not start with
    zero. -/
inductive Whole : List Char → Prop where
  | zero : Whole ['0']
  | digits {ds} : Digits ds → ds.head? ≠ some '0' → Whole ds

/-- A point and digits, or nothing; and whether there is something. -/
inductive Fraction : Bool → List Char → Prop where
  | none : Fraction false []
  | point {ds} : Digits ds → Fraction true ('.' :: ds)

inductive Sign : List Char → Prop where
  | none : Sign []
  | plus : Sign ['+']
  | minus : Sign ['-']

/-- An exponent, or nothing; and whether there is something. -/
inductive Exponent : Bool → List Char → Prop where
  | none : Exponent false []
  | exponent {e sign ds} : e = 'e' ∨ e = 'E' → Sign sign → Digits ds →
      Exponent true (e :: (sign ++ ds))

/-- A number; and which natural number it is, if it is written as one. -/
inductive Number : Option Nat → List Char → Prop where
  | natural (n) : Number (some n) (Nat.toDigits 10 n)
  | decimal {ds f fs e es} : Whole ds → Fraction f fs → Exponent e es → f ∨ e →
      Number none (ds ++ fs ++ es)
  | negative {ds f fs e es} : Whole ds → Fraction f fs → Exponent e es →
      Number none ('-' :: (ds ++ fs ++ es))

/-! ## Strings -/

/-- The letters of escapes, with the characters that they stand for. -/
def letters : List (Char × Char) :=
  [('\x22', '\x22'), ('\\', '\\'), ('/', '/'), ('b', '\x08'), ('f', '\x0c'), ('n', '\n'),
   ('r', '\r'), ('t', '\t')]

/-- What stands between the quotes of a string, with its pieces. -/
inductive Inside : List Piece → List Char → Prop where
  | nil : Inside [] []
  | plain {c ps t} : 0x20 ≤ c.toNat → c ≠ '\x22' → c ≠ '\\' → Inside ps t →
      Inside (.char c :: ps) (c :: t)
  | letter {e c ps t} : (e, c) ∈ letters → Inside ps t → Inside (.char c :: ps) ('\\' :: e :: t)
  | unit {a b c d i j k l ps t} : hexValue? a = some i → hexValue? b = some j →
      hexValue? c = some k → hexValue? d = some l → Inside ps t →
      Inside (.unit (0x1000 * i + 0x100 * j + 0x10 * k + l) :: ps)
        ('\\' :: 'u' :: a :: b :: c :: d :: t)

/-- The text of pieces, as UTF-16 has it: a unit is a character of its own, or
    two units are one. -/
inductive Denotes : List Piece → List Char → Prop where
  | nil : Denotes [] []
  | char {c ps cs} : Denotes ps cs → Denotes (.char c :: ps) (c :: cs)
  | unit {c ps cs} : c.toNat < 0x10000 → Denotes ps cs → Denotes (.unit c.toNat :: ps) (c :: cs)
  | pair {c h l ps cs} : h < 0x400 → l < 0x400 → c.toNat = 0x10000 + 0x400 * h + l → Denotes ps cs →
      Denotes (.unit (0xd800 + h) :: .unit (0xdc00 + l) :: ps) (c :: cs)

/-- A string; and its text, if its pieces have one. -/
inductive Quoted : Option String → List Char → Prop where
  | text {ps s t} : Inside ps t → Denotes ps s.toList → Quoted (some s) ('\x22' :: (t ++ ['\x22']))
  | textless {ps t} : Inside ps t → (∀ cs, ¬Denotes ps cs) → Quoted none ('\x22' :: (t ++ ['\x22']))

/-! ## Values -/

/-- The name of a member, with the blanks around it. -/
inductive Name : Option String → List Char → Prop where
  | mk {n a t b} : Blank a → Quoted n t → Blank b → Name n (a ++ t ++ b)

mutual

/-- A value, without blanks around it. -/
inductive Bare : Json → List Char → Prop where
  | null : Bare .null ['n', 'u', 'l', 'l']
  | tt : Bare (.bool true) ['t', 'r', 'u', 'e']
  | ff : Bare (.bool false) ['f', 'a', 'l', 's', 'e']
  | number {n t} : Number n t → Bare (.number n) t
  | string {s t} : Quoted s t → Bare (.string s) t
  | noItems {b} : Blank b → Bare (.array []) ('[' :: (b ++ [']']))
  | items {vs t} : Items vs t → Bare (.array vs) ('[' :: (t ++ [']']))
  | noMembers {b} : Blank b → Bare (.object []) ('\x7b' :: (b ++ ['\x7d']))
  | members {ms t} : Members ms t → Bare (.object ms) ('\x7b' :: (t ++ ['\x7d']))

/-- **A JSON text**: a value with blanks around it. -/
inductive Written : Json → List Char → Prop where
  | mk {v a t b} : Blank a → Bare v t → Blank b → Written v (a ++ t ++ b)

/-- The items of an array that has some. -/
inductive Items : List Json → List Char → Prop where
  | last {v t} : Written v t → Items [v] t
  | more {v t vs u} : Written v t → Items vs u → Items (v :: vs) (t ++ ',' :: u)

/-- The members of an object that has some. -/
inductive Members : List (Option String × Json) → List Char → Prop where
  | last {n s v t} : Name n s → Written v t → Members [(n, v)] (s ++ ':' :: t)
  | more {n s v t ms u} : Name n s → Written v t → Members ms u →
      Members ((n, v) :: ms) (s ++ ':' :: (t ++ ',' :: u))

end

end AirUpdate.Json
