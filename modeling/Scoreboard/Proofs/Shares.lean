import Mathlib
import Scoreboard.Proofs.Contributions
import Scoreboard.Proofs.Nearest

/-!
# Shares

A share is a quotient of doubles where the solved column is kept in machine words, and a rounded
quotient of whole numbers where it is not.  In words it is the stored total that divides, which is
the true one only as long as it does not wrap around.
-/

namespace Scoreboard

/-! ## Doubles nearest to whole numbers -/

/-- The units of the double nearest to a whole number. -/
def doubleUnits (n : Nat) : Nat := Grid.double.round (n * unitsPerOne) 1

theorem doubleUnits_mono {m n : Nat} (h : m ≤ n) : doubleUnits m ≤ doubleUnits n :=
  Grid.double.round_mono Nat.one_pos Nat.one_pos
    (Nat.mul_le_mul_right 1 (Nat.mul_le_mul_right unitsPerOne h))

theorem isPoint_doubleUnits (n : Nat) : Grid.double.IsPoint (doubleUnits n) :=
  Grid.double.isPoint_round _ _

theorem doubleUnits_eq {n : Nat} (h : n ≤ 2 ^ 53) : doubleUnits n = n * unitsPerOne := by
  simpa [doubleUnits] using Grid.double.round_point Nat.one_pos (isPoint_whole h)

theorem unitsPerOne_le_doubleUnits {n : Nat} (h : 0 < n) : unitsPerOne ≤ doubleUnits n := by
  have := doubleUnits_mono (m := 1) (n := n) h
  rwa [doubleUnits_eq (by norm_num), Nat.one_mul] at this

theorem doubleUnits_pos {n : Nat} (h : 0 < n) : 0 < doubleUnits n :=
  unitsPerOne_pos.trans_le (unitsPerOne_le_doubleUnits h)

theorem isPoint_wordSize : Grid.double.IsPoint (Word.size * unitsPerOne) := by
  have hsize : Word.size = 2 ^ 64 := by norm_num [Word.size]
  have : Word.size * unitsPerOne = 1 * 2 ^ (64 + unitDepth) := by
    rw [pow_add, two_pow_unitDepth, Nat.one_mul, hsize]
  rw [this]
  exact Grid.double.isPoint_of_le Nat.one_le_two_pow (Nat.zero_le _)

theorem wordSize_lt_overflow : Word.size * unitsPerOne < overflow :=
  whole_lt_overflow (by decide +kernel)

theorem doubleUnits_le_word {n : Nat} (h : n < Word.size) :
    doubleUnits n ≤ Word.size * unitsPerOne := by
  apply Grid.double.round_le_point Nat.one_pos isPoint_wordSize
  rw [Nat.mul_one]
  exact Nat.mul_le_mul_right _ h.le

theorem ofRatio_word {n : Nat} (h : n < Word.size) :
    ∃ magnitude, Binary64.ofRatio false n 1 = .finite false magnitude ∧
      magnitude.units = doubleUnits n := by
  apply Binary64.nearest_finite false Nat.one_pos isPoint_wordSize wordSize_lt_overflow
  rw [Nat.mul_one]
  exact Nat.mul_le_mul_right _ h.le

namespace Binary64

def IsFraction (x : Binary64) : Prop := ∃ q, x.toRat? = some q ∧ 0 ≤ q ∧ q ≤ 1

def IsPositive (x : Binary64) : Prop := ∃ q, x.toRat? = some q ∧ 0 < q

theorem isFraction_iff {magnitude : Magnitude} :
    (finite false magnitude).IsFraction ↔ magnitude.units ≤ unitsPerOne := by
  have hone : magnitude.value ≤ 1 ↔ magnitude.units ≤ unitsPerOne := by
    simpa using @Magnitude.value_le_iff magnitude 1
  simp [IsFraction, toRat?, exactValue_false, Magnitude.value_nonneg, hone]

theorem isPositive_iff {magnitude : Magnitude} :
    (finite false magnitude).IsPositive ↔ 0 < magnitude.units := by
  simp [IsPositive, toRat?, exactValue_false, Magnitude.value_pos_iff]

theorem isFraction_zero : zero.IsFraction := isFraction_iff.mpr (Nat.zero_le _)

theorem not_isPositive_zero : ¬ zero.IsPositive := by
  simp [zero, isPositive_iff, Magnitude.zero]

end Binary64

namespace Contribution

/-! ## The two ways to divide -/

theorem shareOf_nonpos {storage : Storage} {total : Int} (h : total ≤ 0) (count : Nat) :
    shareOf storage total count = .zero := by
  simp [shareOf, h]

theorem shareOf_objects {total : Int} (hpos : 0 < total) {count : Nat} (h : count ≤ total.toNat) :
    ∃ magnitude, shareOf .objects total count = .finite false magnitude ∧
      magnitude.units = Grid.double.round (count * unitsPerOne) total.toNat ∧
      magnitude.value ≤ 1 ∧ |magnitude.value - count / total.toNat| ≤ 1 / 2 ^ 53 := by
  have hden : 0 < total.toNat := by omega
  have := Binary64.nearest_ratio false hden h
  simpa [shareOf, not_le.mpr hpos, Binary64.ofRatio] using this

theorem shareOf_of_ne_objects {storage : Storage} (h : storage ≠ .objects) {total : Int}
    (hpos : 0 < total) (count : Nat) :
    shareOf storage total count =
      (Binary64.ofRatio false count 1).div (.ofRatio false total.toNat 1) := by
  unfold shareOf
  rw [if_neg (not_le.mpr hpos)]
  cases storage with
  | objects => exact absurd rfl h
  | _ => rfl

theorem shareOf_words {storage : Storage} (h : storage ≠ .objects) {total : Int}
    (hpos : 0 < total) (htotal : total < Word.size) {count : Nat} (hcount : count < Word.size) :
    ∃ magnitude, shareOf storage total count = .finite false magnitude ∧
      magnitude.units = Grid.double.round (doubleUnits count * unitsPerOne)
        (doubleUnits total.toNat) := by
  obtain ⟨a, ha, hua⟩ := ofRatio_word hcount
  obtain ⟨b, hb, hub⟩ := ofRatio_word (n := total.toNat) (by omega)
  have hone : unitsPerOne ≤ b.units := by
    rw [hub]
    exact unitsPerOne_le_doubleUnits (by omega)
  have hdivisor : 0 < b.units := unitsPerOne_pos.trans_le hone
  rw [shareOf_of_ne_objects h hpos, ha, hb]
  simp only [Binary64.div, if_neg hdivisor.ne']
  rw [← hua, ← hub]
  apply Binary64.nearest_finite false hdivisor isPoint_wordSize wordSize_lt_overflow
  have := doubleUnits_le_word hcount
  rw [← hua] at this
  exact Nat.mul_le_mul this hone

/-! ## Totals -/

def trueTotal (rows : List Contribution) : Nat := (rows.map (·.solved)).sum

/-- Counts that are all signed words have a total that is one, and so for unsigned words. -/
structure TotalFits (rows : List Contribution) : Prop where
  signed : (∀ row ∈ rows, row.solved < 2 ^ 63) → trueTotal rows < 2 ^ 63
  unsigned : (∀ row ∈ rows, row.solved < 2 ^ 64) → trueTotal rows < 2 ^ 64

variable {rows : List Contribution}

theorem solved_le_trueTotal {row : Contribution} (h : row ∈ rows) : row.solved ≤ trueTotal rows :=
  List.le_sum_of_mem (List.mem_map.mpr ⟨row, h, rfl⟩)

theorem sum_solvedCounts (rows : List Contribution) :
    (solvedCounts rows).foldr (· + ·) 0 = (trueTotal rows : Int) := by
  induction rows with
  | nil => rfl
  | cons row rows ih => simp_all [solvedCounts, trueTotal]

theorem fitsSigned_natCast (n : Nat) : Word.fitsSigned n = true ↔ n < 2 ^ 63 := by
  unfold Word.fitsSigned Word.size
  rw [Bool.and_eq_true, decide_eq_true_iff, decide_eq_true_iff]
  omega

theorem fitsUnsigned_natCast (n : Nat) : Word.fitsUnsigned n = true ↔ n < 2 ^ 64 := by
  unfold Word.fitsUnsigned Word.size
  rw [Bool.and_eq_true, decide_eq_true_iff, decide_eq_true_iff]
  omega

theorem all_solvedCounts {p : Int → Bool} :
    (solvedCounts rows).all p = true ↔ ∀ row ∈ rows, p row.solved = true := by
  simp [solvedCounts]

theorem storedTotal_cases (rows : List Contribution) :
    (solvedStorage rows = .int64 ∧ (∀ row ∈ rows, row.solved < 2 ^ 63) ∧
      storedTotal rows = Word.wrapSigned (trueTotal rows)) ∨
    (solvedStorage rows = .uint64 ∧ (∀ row ∈ rows, row.solved < 2 ^ 64) ∧
      storedTotal rows = Word.wrapUnsigned (trueTotal rows)) ∨
    (solvedStorage rows = .objects ∧ storedTotal rows = trueTotal rows) := by
  unfold storedTotal
  by_cases hsigned : (solvedCounts rows).all Word.fitsSigned = true
  · have hstorage : solvedStorage rows = .int64 := by
      simp only [solvedStorage, Storage.ofIntegers, hsigned, if_true]
    refine .inl ⟨hstorage, fun row hrow => ?_, ?_⟩
    · exact (fitsSigned_natCast _).mp (all_solvedCounts.mp hsigned row hrow)
    · simp only [hstorage, Storage.sum, sum_solvedCounts]
  by_cases hunsigned : (solvedCounts rows).all Word.fitsUnsigned = true
  · have hstorage : solvedStorage rows = .uint64 := by
      simp only [solvedStorage, Storage.ofIntegers, hsigned, hunsigned, if_true]
      rfl
    refine .inr (.inl ⟨hstorage, fun row hrow => ?_, ?_⟩)
    · exact (fitsUnsigned_natCast _).mp (all_solvedCounts.mp hunsigned row hrow)
    · simp only [hstorage, Storage.sum, sum_solvedCounts]
  · have hstorage : solvedStorage rows = .objects := by
      simp only [solvedStorage, Storage.ofIntegers, hsigned, hunsigned]
      rfl
    refine .inr (.inr ⟨hstorage, ?_⟩)
    simp only [hstorage, Storage.sum, sum_solvedCounts]

theorem storedTotal_of_objects (h : solvedStorage rows = .objects) :
    storedTotal rows = trueTotal rows := by
  rcases storedTotal_cases rows with ⟨hs, -⟩ | ⟨hs, -⟩ | ⟨-, htotal⟩
  · simp [h] at hs
  · simp [h] at hs
  · exact htotal

theorem words_of_ne_objects (h : solvedStorage rows ≠ .objects) :
    storedTotal rows < Word.size ∧ ∀ row ∈ rows, row.solved < Word.size := by
  have hsize : Word.size = 2 ^ 64 := by norm_num [Word.size]
  rcases storedTotal_cases rows with ⟨-, hcounts, htotal⟩ | ⟨-, hcounts, htotal⟩ | ⟨hs, -⟩
  · refine ⟨?_, fun row hrow => by have := hcounts row hrow; omega⟩
    have := Int.bmod_lt (x := trueTotal rows) (m := Word.size) (by decide)
    rw [htotal, Word.wrapSigned]
    omega
  · refine ⟨?_, fun row hrow => by have := hcounts row hrow; omega⟩
    rw [htotal, Word.wrapUnsigned]
    exact Int.emod_lt_of_pos _ (by decide)
  · exact absurd hs h

theorem storedTotal_of_fits (h : TotalFits rows) : storedTotal rows = trueTotal rows := by
  rcases storedTotal_cases rows with ⟨-, hcounts, htotal⟩ | ⟨-, hcounts, htotal⟩ | ⟨-, htotal⟩
  · rw [htotal]
    exact Word.wrapSigned_eq ((fitsSigned_natCast _).mpr (h.signed hcounts))
  · rw [htotal]
    exact Word.wrapUnsigned_eq ((fitsUnsigned_natCast _).mpr (h.unsigned hcounts))
  · exact htotal

end Contribution

end Scoreboard
