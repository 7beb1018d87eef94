import Mathlib
import Scoreboard.Proofs.Shares

/-!
# Shares as fractions

Whether shares are fractions of the whole is decided by the stored total: it has to be positive, no
count may exceed it as a double, and the greatest count may not vanish against it.  A total that
wraps around can fail each of the first two; one that fits its storage meets all three.
-/

namespace Scoreboard

open Contribution

/-- Every share is a fraction, and the first one is positive as soon as anything is solved. -/
structure SharesSound (rows : List Contribution) : Prop where
  fraction : ∀ row ∈ rows, row.share.IsFraction
  positive : (∃ row ∈ rows, 0 < row.solved) → ∃ first ∈ rows.head?, first.share.IsPositive

/-- The stored total serves as the whole of the counts. -/
structure TotalServes (rows : List Contribution) : Prop where
  positive : 0 < storedTotal rows
  covers : ∀ row ∈ rows, doubleUnits row.solved ≤ doubleUnits (storedTotal rows).toNat
  notable : ∀ first ∈ rows.head?, storedTotal rows < 2 * unitsPerOne * first.solved

section Accepted

variable {updated solved : Tally} {rows : List Contribution}
  (h : contributions updated solved = .ok rows)

include h

theorem isFraction_share_iff (hpos : 0 < storedTotal rows) {row : Contribution}
    (hrow : row ∈ rows) :
    row.share.IsFraction ↔ doubleUnits row.solved ≤ doubleUnits (storedTotal rows).toNat := by
  rw [share_of_mem h hrow]
  by_cases hstorage : solvedStorage rows = .objects
  · have hle : row.solved ≤ (storedTotal rows).toNat := by
      rw [storedTotal_of_objects hstorage]
      exact solved_le_trueTotal hrow
    obtain ⟨magnitude, hshare, -, hone, -⟩ := shareOf_objects hpos hle
    rw [hstorage, hshare, Binary64.isFraction_iff]
    have : magnitude.units ≤ unitsPerOne := by
      simpa using Magnitude.value_le_iff (n := 1).mp (by simpa using hone)
    exact iff_of_true this (doubleUnits_mono hle)
  · obtain ⟨htotal, hcounts⟩ := words_of_ne_objects hstorage
    obtain ⟨magnitude, hshare, hunits⟩ := shareOf_words hstorage hpos htotal (hcounts row hrow)
    rw [hshare, Binary64.isFraction_iff, hunits]
    have hdivisor : 0 < doubleUnits (storedTotal rows).toNat := doubleUnits_pos (by omega)
    constructor
    · intro hle
      by_contra hexceeds
      have := one_lt_round_ratio hdivisor (isPoint_doubleUnits _) (isPoint_doubleUnits _)
        (not_le.mp hexceeds)
      omega
    · intro hle
      apply Grid.double.round_le_point hdivisor (by simpa using isPoint_whole (n := 1) (by norm_num))
      rw [Nat.mul_comm]
      exact Nat.mul_le_mul_left _ hle

theorem isPositive_share_iff (hpos : 0 < storedTotal rows) {row : Contribution}
    (hrow : row ∈ rows) :
    row.share.IsPositive ↔ storedTotal rows < 2 * unitsPerOne * row.solved := by
  rw [share_of_mem h hrow]
  by_cases hstorage : solvedStorage rows = .objects
  · have hle : row.solved ≤ (storedTotal rows).toNat := by
      rw [storedTotal_of_objects hstorage]
      exact solved_le_trueTotal hrow
    obtain ⟨magnitude, hshare, hunits, -⟩ := shareOf_objects hpos hle
    rw [hstorage, hshare, Binary64.isPositive_iff, hunits,
      Grid.double.round_pos_iff rfl (by omega)]
    zify
    rw [Int.toNat_of_nonneg hpos.le, mul_comm (row.solved : Int), mul_assoc]
  · obtain ⟨htotal, hcounts⟩ := words_of_ne_objects hstorage
    obtain ⟨magnitude, hshare, hunits⟩ := shareOf_words hstorage hpos htotal (hcounts row hrow)
    have hdivisor : 0 < doubleUnits (storedTotal rows).toNat := doubleUnits_pos (by omega)
    rw [hshare, Binary64.isPositive_iff, hunits, Grid.double.round_pos_iff rfl hdivisor]
    rcases Nat.eq_zero_or_pos row.solved with hzero | hsolved
    · have : doubleUnits row.solved = 0 := by rw [hzero, doubleUnits_eq (by norm_num), Nat.zero_mul]
      rw [this, hzero]
      constructor <;> intro hlt <;> omega
    -- A count of one or more stands against a divisor of at most `2 ^ 64`.
    · have hword := doubleUnits_le_word (n := (storedTotal rows).toNat) (by omega)
      have hcount := unitsPerOne_le_doubleUnits hsolved
      have hlarge : Word.size < 2 * unitsPerOne := by decide +kernel
      apply iff_of_true
      · nlinarith
      · have : (2 * unitsPerOne : Int) * 1 ≤ 2 * unitsPerOne * row.solved := by
          apply mul_le_mul_of_nonneg_left <;> omega
        omega

theorem sharesSound_of_forall_zero (hzero : ∀ row ∈ rows, row.solved = 0) : SharesSound rows := by
  have htrue : trueTotal rows = 0 := by
    simpa [trueTotal, List.sum_eq_zero_iff] using hzero
  have hstored : storedTotal rows = 0 := by
    rw [storedTotal_of_fits ⟨fun _ => by simp [htrue], fun _ => by simp [htrue]⟩, htrue]
    rfl
  constructor
  · intro row hrow
    rw [share_of_mem h hrow, shareOf_nonpos hstored.le]
    exact Binary64.isFraction_zero
  · rintro ⟨row, hrow, hsolved⟩
    have := hzero row hrow
    omega

theorem sharesSound_of_serves (hserves : TotalServes rows) : SharesSound rows := by
  constructor
  · intro row hrow
    exact (isFraction_share_iff h hserves.positive hrow).mpr (hserves.covers row hrow)
  · rintro ⟨row, hrow, -⟩
    cases rows with
    | nil => simp at hrow
    | cons first rest =>
        refine ⟨first, rfl, ?_⟩
        rw [isPositive_share_iff h hserves.positive List.mem_cons_self]
        exact hserves.notable first rfl

theorem totalServes_of_fits (hfits : TotalFits rows) (hpos : 0 < trueTotal rows)
    (hlength : rows.length < 2 * unitsPerOne) : TotalServes rows := by
  have hstored := storedTotal_of_fits hfits
  constructor
  · omega
  · intro row hrow
    rw [hstored]
    exact doubleUnits_mono (solved_le_trueTotal hrow)
  · intro first hfirst
    obtain ⟨rest, rfl⟩ := List.head?_eq_some_iff.mp hfirst
    have hordered := List.pairwise_cons.mp (pairwise_solved h)
    have hbound : trueTotal (first :: rest) ≤ (first :: rest).length * first.solved := by
      have := List.sum_le_card_nsmul ((first :: rest).map (·.solved)) first.solved (by
        intro count hcount
        obtain ⟨row, hrow, rfl⟩ := List.mem_map.mp hcount
        rcases List.mem_cons.mp hrow with rfl | hlater
        · exact le_rfl
        · exact hordered.1 row hlater)
      simpa [trueTotal] using this
    have hsolved : 0 < first.solved := by
      by_contra hzero
      rw [Nat.eq_zero_of_not_pos hzero] at hbound
      omega
    rw [hstored]
    exact_mod_cast hbound.trans_lt (Nat.mul_lt_mul_of_pos_right hlength hsolved)

/-- Shares are sound wherever the total fits, unless there are helpers beyond all measure. -/
theorem sharesSound_of_fits (hfits : TotalFits rows) (hlength : rows.length < 2 * unitsPerOne) :
    SharesSound rows := by
  by_cases hzero : ∀ row ∈ rows, row.solved = 0
  · exact sharesSound_of_forall_zero h hzero
  · have hpos : 0 < trueTotal rows := by
      apply Nat.pos_of_ne_zero
      intro htrue
      apply hzero
      simpa [trueTotal, List.sum_eq_zero_iff] using htrue
    exact sharesSound_of_serves h (totalServes_of_fits h hfits hpos hlength)

/-- Shares are sound exactly when nothing is solved or the stored total serves as the whole. -/
theorem sharesSound_iff :
    SharesSound rows ↔ (∀ row ∈ rows, row.solved = 0) ∨ TotalServes rows := by
  constructor
  · intro hsound
    by_cases hsolved : ∃ row ∈ rows, 0 < row.solved
    · obtain ⟨first, hfirst, hpositive⟩ := hsound.positive hsolved
      have hmem := List.mem_of_mem_head? hfirst
      have hpos : 0 < storedTotal rows := by
        by_contra hnonpos
        rw [share_of_mem h hmem, shareOf_nonpos (not_lt.mp hnonpos)] at hpositive
        exact Binary64.not_isPositive_zero hpositive
      refine .inr ⟨hpos, fun row hrow => ?_, fun other hother => ?_⟩
      · exact (isFraction_share_iff h hpos hrow).mp (hsound.fraction row hrow)
      · obtain rfl : first = other := Option.mem_unique hfirst hother
        exact (isPositive_share_iff h hpos hmem).mp hpositive
    · refine .inl fun row hrow => ?_
      by_contra hne
      exact hsolved ⟨row, hrow, by omega⟩
  · rintro (hzero | hserves)
    · exact sharesSound_of_forall_zero h hzero
    · exact sharesSound_of_serves h hserves

end Accepted

/-- The stored total wraps around to one, far below the counts. -/
theorem sharesSound_iff_of_total_one :
    ∃ rows, contributions .empty (.ofList [(.name ['a'], .int 9223372036854775808),
      (.name ['b'], .int 9223372036854775809)]) = .ok rows ∧ storedTotal rows = 1 ∧
        (SharesSound rows ↔ (∀ row ∈ rows, row.solved = 0) ∨ TotalServes rows) := by
  have hrows : (contributions .empty (.ofList [(.name ['a'], .int 9223372036854775808),
      (.name ['b'], .int 9223372036854775809)])).map storedTotal = .ok 1 := by
    decide +kernel
  obtain ⟨rows, h, htotal⟩ := map_eq_ok.mp hrows
  exact ⟨rows, h, htotal, sharesSound_iff h⟩

/-- Two counts of `2 ^ 62` have a negative stored total, and both shares are zero. -/
theorem not_sharesSound_of_negative_total :
    ∃ rows, contributions .empty (.ofList [(.name ['a'], .int 4611686018427387904),
      (.name ['b'], .int 4611686018427387904)]) = .ok rows ∧ ¬ SharesSound rows := by
  have hrows : (contributions .empty (.ofList [(.name ['a'], .int 4611686018427387904),
      (.name ['b'], .int 4611686018427387904)])).map
        (List.map fun row => (row.solved, row.share)) =
      .ok [(4611686018427387904, .zero), (4611686018427387904, .zero)] := by
    decide +kernel
  obtain ⟨rows, h, hcells⟩ := map_eq_ok.mp hrows
  refine ⟨rows, h, fun hsound => ?_⟩
  obtain ⟨first, rest, rfl, hfirst, -⟩ := List.map_eq_cons_iff.mp hcells
  obtain ⟨hsolved, hshare⟩ := Prod.mk.inj hfirst
  obtain ⟨other, hother, hpositive⟩ :=
    hsound.positive ⟨first, List.mem_cons_self, by omega⟩
  cases hother
  rw [hshare] at hpositive
  exact Binary64.not_isPositive_zero hpositive

end Scoreboard
