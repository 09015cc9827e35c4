namespace CodeAssistant

/-!
# Rounding a quotient to an integer

Scores are quotients of counts.  They are rounded to the nearest integer, and an exact half goes to
the even neighbour, so that halves do not push averages upwards.
-/

/-- The integer nearest to `p / q` for positive `q`; of two nearest ones, the even one. -/
def nearestInt (p : Int) (q : Nat) : Int :=
  let below := p / q
  let excess := 2 * (p % q)
  if excess < q then below
  else if (q : Int) < excess then below + 1
  else if below % 2 = 0 then below
  else below + 1

/-- The rounded quotient is at most one half away from the exact one. -/
theorem nearestInt_near (p : Int) {q : Nat} (positive : 0 < q) :
    2 * (q * nearestInt p q) ≤ 2 * p + q ∧ 2 * p ≤ 2 * (q * nearestInt p q) + q := by
  have split := Int.emod_add_mul_ediv p q
  have low := Int.emod_nonneg p (b := q) (by omega)
  have high := Int.emod_lt_of_pos p (b := q) (by omega)
  have next : (q : Int) * (p / q + 1) = q * (p / q) + q := by rw [Int.mul_add, Int.mul_one]
  simp only [nearestInt]
  split
  · omega
  · split
    · rw [next]; omega
    · split
      · omega
      · rw [next]; omega

/-- An exact half goes to the even neighbour. -/
theorem nearestInt_even {p : Int} {q : Nat} (half : 2 * (p % q) = q) :
    nearestInt p q % 2 = 0 := by
  simp only [nearestInt, half, Int.lt_irrefl, if_false]
  split
  · assumption
  · omega

end CodeAssistant
