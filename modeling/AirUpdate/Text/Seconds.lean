/-
  Air updates — a time in seconds with one decimal.

  A time is rounded twice: its seconds to a binary number of 53 digits, and
  that number to tenths.  Both go to the nearest, and a tie goes to the even
  neighbour (`roundDiv`).  So 0.15 s, whose binary number is a little less,
  shows as 0.1, and so does 0.05 s, whose binary number is a little more;
  0.25 s is a tie and shows as 0.2.
-/
namespace AirUpdate

namespace Text

/-- The whole number nearest to a quotient, the even one of two. -/
def roundDiv (n d : Nat) : Nat :=
  if 2 * (n % d) < d then n / d
  else if d < 2 * (n % d) then n / d + 1
  else n / d + n / d % 2

/-- The nearest whole number is at most half too large. -/
theorem two_mul_roundDiv_mul_le (n d : Nat) : 2 * (roundDiv n d * d) ≤ 2 * n + d := by
  have hn : n / d * d + n % d = n := Nat.div_add_mod' n d
  unfold roundDiv
  split
  · omega
  · split
    · rw [Nat.add_mul]; omega
    · rcases Nat.mod_two_eq_zero_or_one (n / d) with h | h <;> rw [h, Nat.add_mul] <;> omega

/-- The nearest whole number is at most half too small. -/
theorem two_mul_le_roundDiv_mul {n d : Nat} (hd : 0 < d) : 2 * n ≤ 2 * (roundDiv n d * d) + d := by
  have hn : n / d * d + n % d = n := Nat.div_add_mod' n d
  have hr : n % d < d := Nat.mod_lt n hd
  unfold roundDiv
  split
  · omega
  · split
    · rw [Nat.add_mul]; omega
    · rcases Nat.mod_two_eq_zero_or_one (n / d) with h | h <;> rw [h, Nat.add_mul] <;> omega

/-- A tie goes to the even neighbour. -/
theorem roundDiv_tie (n d : Nat) (h : 2 * (n % d) = d) : roundDiv n d % 2 = 0 := by
  unfold roundDiv
  split
  · omega
  · split
    · omega
    · omega

/-- A number over a power of two. -/
structure Binary where
  numerator : Nat
  scale : Nat
  deriving DecidableEq, Repr

namespace Binary

/-- The binary number of 53 digits that is nearest to a quotient. -/
def ofRatio (n d : Nat) : Binary :=
  let scale := 53 + d.log2 - n.log2
  let excess := ((n <<< scale) / d).log2 - 52
  ⟨roundDiv (n <<< scale) (d <<< excess) <<< excess, scale⟩

/-- The nearest binary number of 53 digits to a sum. -/
def add (x y : Binary) : Binary :=
  ofRatio ((x.numerator <<< y.scale) + (y.numerator <<< x.scale)) (1 <<< (x.scale + y.scale))

/-- The nearest number of tenths. -/
def tenths (x : Binary) : Nat := roundDiv (10 * x.numerator) (1 <<< x.scale)

end Binary

/-- The seconds of a time in milliseconds. -/
def seconds (milliseconds : Nat) : Binary :=
  (Binary.ofRatio (milliseconds / 1000) 1).add (Binary.ofRatio (milliseconds % 1000) 1000)

/-- The text of a time in milliseconds: its seconds with one decimal. -/
def secondsText (milliseconds : Nat) : String :=
  let tenths := (seconds milliseconds).tenths
  toString (tenths / 10) ++ "." ++ toString (tenths % 10)

end Text

end AirUpdate
