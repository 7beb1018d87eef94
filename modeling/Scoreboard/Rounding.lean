/-!
# Rounding quotients

The two roundings of an exact quotient to a whole number: to the nearest one with a half going to the
even neighbour, as binary arithmetic rounds, and to the nearest one with a half going up, as the
display rounds. Both are monotone and keep whole numbers, which bounds pin down.
-/

namespace Scoreboard

/-- The whole number nearest to `num / den`; a half goes to the even neighbour. -/
def roundHalfEven (num den : Nat) : Nat :=
  let quotient := num / den
  let twice := 2 * (num % den)
  if twice < den then quotient
  else if den < twice then quotient + 1
  else quotient + quotient % 2

/-- The whole number nearest to `num / den`; a half goes up. -/
def roundHalfUp (num den : Nat) : Nat := (2 * num + den) / (2 * den)

theorem roundHalfEven_le_succ (num den : Nat) : roundHalfEven num den ≤ num / den + 1 := by
  unfold roundHalfEven
  dsimp only
  split
  · omega
  split <;> omega

theorem roundHalfEven_mul (k : Nat) {den : Nat} (h : 0 < den) : roundHalfEven (k * den) den = k := by
  simp [roundHalfEven, h]

theorem roundHalfEven_le {num den k : Nat} (h : num ≤ k * den) : roundHalfEven num den ≤ k := by
  rcases Nat.eq_zero_or_pos den with rfl | positive
  · have : num = 0 := by omega
    subst this
    simp [roundHalfEven]
  · rcases Nat.eq_or_lt_of_le h with rfl | below
    · exact Nat.le_of_eq (roundHalfEven_mul k positive)
    · have : num / den < k := Nat.div_lt_of_lt_mul (by rwa [Nat.mul_comm])
      have := roundHalfEven_le_succ num den
      omega

theorem le_roundHalfEven {num den k : Nat} (positive : 0 < den) (h : k * den ≤ num) :
    k ≤ roundHalfEven num den := by
  have : k ≤ num / den := (Nat.le_div_iff_mul_le positive).2 h
  unfold roundHalfEven
  dsimp only
  split
  · omega
  split <;> omega

end Scoreboard
