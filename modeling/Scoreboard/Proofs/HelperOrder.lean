import Mathlib
import Scoreboard.Proofs.Contributions
import Scoreboard.Proofs.Digits

/-!
# The order of rows

Rows come by solved tiles, the greatest count first, and by their helpers among equal counts.  The
order of helpers is one of their texts alone: texts of decimal digits come before all others, by the
number that they spell and then by code points, and all others by code points.
-/

namespace Scoreboard

/-- One helper's text stands no later than another one's. -/
inductive Text.NoLater : Text → Text → Prop where
  | below {s t : Text} : s.IsDecimal → t.IsDecimal → s.decimalNumber < t.decimalNumber → NoLater s t
  | spelled {s t : Text} :
      s.IsDecimal → t.IsDecimal → s.decimalNumber = t.decimalNumber → s.le t = true → NoLater s t
  | digits {s t : Text} : s.IsDecimal → ¬ t.IsDecimal → NoLater s t
  | others {s t : Text} : ¬ s.IsDecimal → ¬ t.IsDecimal → s.le t = true → NoLater s t

namespace HelperKey

theorem isNumberLike_iff {text : Text} :
    isNumberLike text = true ↔ text ≠ [] ∧ ∀ c ∈ text, isDigitLike c = true := by
  simp [isNumberLike]

/-- A text has a place by number only if its characters are decimal digits, whose number it is. -/
theorem ofText_cases {text : Text} {place : HelperKey} (h : ofText text = .ok place) :
    (text.IsDecimal ∧ place = .number text.decimalNumber text) ∨
      (¬ text.IsDecimal ∧ place = .name text) := by
  unfold ofText at h
  split at h
  · rename_i hlike
    obtain ⟨hne, hlike⟩ := isNumberLike_iff.mp hlike
    obtain ⟨n, hn, hplace⟩ := bind_eq_ok.mp h
    have hdecimal := isDecimal_of_readInteger hne hlike hn
    rw [readInteger_decimal hdecimal] at hn
    split at hn
    · cases hn
    · cases hn
      cases hplace
      exact .inl ⟨hdecimal, rfl⟩
  · rename_i hunlike
    cases h
    refine .inr ⟨fun hdecimal => hunlike (isNumberLike_iff.mpr ⟨hdecimal.1, ?_⟩), rfl⟩
    exact fun c hc => isDigitLike_of_isDecimalDigit (hdecimal.2 c hc)

theorem noLater_of_le {s t : Text} {a b : HelperKey} (ha : ofText s = .ok a)
    (hb : ofText t = .ok b) (hle : a.le b = true) : s.NoLater t := by
  rcases ofText_cases ha with ⟨hs, rfl⟩ | ⟨hs, rfl⟩
  · rcases ofText_cases hb with ⟨ht, rfl⟩ | ⟨ht, rfl⟩
    · rcases le_number.mp hle with hlt | ⟨heq, hle⟩
      · exact .below hs ht hlt
      · exact .spelled hs ht heq hle
    · exact .digits hs ht
  · rcases ofText_cases hb with ⟨ht, rfl⟩ | ⟨ht, rfl⟩
    · cases hle
    · exact .others hs ht hle

end HelperKey

namespace Contribution

variable {updated solved : Tally}

theorem IsRowOf.ofText_helper {id : HelperId} {row : Contribution} {place : HelperKey}
    (h : IsRowOf updated solved id row) (hplace : HelperKey.ofValue id.toValue = .ok place) :
    HelperKey.ofText row.helper = .ok place := by
  obtain ⟨text, htext, hplace⟩ := bind_eq_ok.mp hplace
  have : Except.ok text = .ok row.helper := htext.symm.trans h.helper
  cases this
  exact hplace

theorem pairwise_noLater {ids : List HelperId} {table : List Contribution}
    (hordered : ids.Pairwise HelperId.Precedes)
    (htable : List.Forall₂ (IsRowOf updated solved) ids table) :
    table.Pairwise fun a b => a.helper.NoLater b.helper := by
  induction htable with
  | nil => exact .nil
  | cons hrow hrows ih =>
      obtain ⟨hfirst, hothers⟩ := List.pairwise_cons.mp hordered
      refine List.pairwise_cons.mpr ⟨fun other hother => ?_, ih hothers⟩
      obtain ⟨id, hid, hotherOf⟩ := exists_of_mem_right hrows hother
      obtain ⟨p, q, hp, hq, hle⟩ := hfirst id hid
      exact HelperKey.noLater_of_le (hrow.ofText_helper hp) (hotherOf.ofText_helper hq) hle

end Contribution

/-- Of two rows, the earlier one has the greater count, or the same count and no later a helper. -/
theorem rows_in_order {updated solved : Tally} {rows : List Contribution}
    (h : contributions updated solved = .ok rows) :
    rows.Pairwise fun a b =>
      b.solved < a.solved ∨ (a.solved = b.solved ∧ a.helper.NoLater b.helper) := by
  obtain ⟨ids, table, -, hordered, htable, -, rfl⟩ := contributions_eq_ok h
  exact Contribution.pairwise_bySolved (Contribution.pairwise_noLater hordered htable)

/-- The two greatest counts are one double, and three of the ids spell the number three. -/
theorem rows_in_order_of_equal_doubles :
    ∃ rows, contributions .empty (.ofList [(.name ['x'], .int 18446744073709551616),
        (.name "\u0663".toList, .int 5), (.name ['3'], .int 5), (.name "+3".toList, .int 5),
        (.name "03".toList, .int 5), (.number 10, .int 18446744073709551617),
        (.name ['2'], .int 5)]) = .ok rows ∧
      rows.map (·.helper) = ["10".toList, ['x'], ['2'], "03".toList, ['3'], "\u0663".toList,
        "+3".toList] ∧
      rows.Pairwise fun a b =>
        b.solved < a.solved ∨ (a.solved = b.solved ∧ a.helper.NoLater b.helper) := by
  have hrows : (contributions .empty (.ofList [(.name ['x'], .int 18446744073709551616),
      (.name "\u0663".toList, .int 5), (.name ['3'], .int 5), (.name "+3".toList, .int 5),
      (.name "03".toList, .int 5), (.number 10, .int 18446744073709551617),
      (.name ['2'], .int 5)])).map (List.map Contribution.helper) =
        .ok ["10".toList, ['x'], ['2'], "03".toList, ['3'], "\u0663".toList, "+3".toList] := by
    decide +kernel
  obtain ⟨rows, h, hhelpers⟩ := map_eq_ok.mp hrows
  exact ⟨rows, h, hhelpers, rows_in_order h⟩

end Scoreboard
