import CodeAssistant.Number.Rounding

namespace CodeAssistant

/-!
# Arithmetic with 53 significant bits

Ratios of counts are computed in binary floating point: every single operation yields the exact
result rounded to 53 significant bits, and a tie goes to the even significand.  A number is kept as
a significand and the count of its binary places.  All values met here are below one thousand, so a
53-bit number always has at least one binary place and neither overflow nor underflow occurs.
-/

/-- The number `significand / 2 ^ scale`. -/
structure Binary64 where
  significand : Int
  scale : Nat
  deriving DecidableEq

namespace Binary64

/-- How many units of its last binary place make up one, for a number with that many places. -/
def units (scale : Nat) : Nat :=
  Nat.pow 2 scale

/-- The binary places that a positive quotient `p / q` below `2 ^ 53` has room for: with them its
integer part has 53 binary digits. -/
def places (p q : Nat) : Nat :=
  let guess := 52 + q.log2 - p.log2
  if p * units guess < q * units 52 then guess + 1 else guess

/-- The quotient `p / q`, rounded to 53 significant bits. -/
def ofRatio (p : Int) (q : Nat) : Binary64 :=
  let scale := places p.natAbs q
  ⟨nearestInt (p * units scale) q, scale⟩

/-- The product with a small whole number, rounded. -/
def times (x : Binary64) (k : Nat) : Binary64 :=
  ofRatio (x.significand * k) (units x.scale)

/-- The difference between a small whole number and `x`, rounded. -/
def subtractedFrom (k : Nat) (x : Binary64) : Binary64 :=
  ofRatio (k * units x.scale - x.significand) (units x.scale)

/-- The integer nearest to `x`; of two nearest ones, the even one. -/
def toInt (x : Binary64) : Int :=
  nearestInt x.significand (units x.scale)

end Binary64

end CodeAssistant
