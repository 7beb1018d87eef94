import Mathlib
import Scoreboard.Proofs.ArrivalOrder
import Scoreboard.Proofs.HelperOrder
import Scoreboard.Proofs.PlainTexts

/-!
# Helpers without a place

A text that looks like a number has a place in the order of helpers only if it spells one, in no
more digits than the limit allows; and a whole number over the limit has no text at all.  One helper
of either kind leaves all the others without rows.  If there is none, whole counts always make rows.
-/

namespace Scoreboard

/-! ## Places of texts and ids -/

/-- If the text looks like a number, it is made of decimal digits, and not of too many. -/
def Text.HasPlace (text : Text) : Prop :=
  HelperKey.isNumberLike text = true → text.IsDecimal ∧ text.length ≤ digitLimit

def HelperId.HasPlace : HelperId → Prop
  | name text => text.HasPlace
  | number n => ¬ IsLong n
  | flag _ | none => True

theorem Text.hasPlace_of_not_digitLike {c : Char} (h : isDigitLike c = false) (rest : Text) :
    Text.HasPlace (c :: rest) := by
  intro hlike
  have := (HelperKey.isNumberLike_iff.mp hlike).2 c (by simp)
  rw [h] at this
  cases this

theorem Text.hasPlace_ofInt {n : Int} (h : ¬ IsLong n) : (Text.ofInt n).HasPlace := by
  unfold Text.ofInt
  split
  · exact hasPlace_of_not_digitLike (by decide +kernel) _
  · exact fun _ => ⟨isDecimal_ofNat _, length_ofNat_le (by decide) (not_le.mp h)⟩

namespace HelperKey

theorem exists_ofText_iff {text : Text} : (∃ place, ofText text = .ok place) ↔ text.HasPlace := by
  constructor
  · rintro ⟨place, hplace⟩ hlike
    rw [ofText, if_pos hlike] at hplace
    obtain ⟨n, hn, -⟩ := bind_eq_ok.mp hplace
    obtain ⟨hne, hchars⟩ := isNumberLike_iff.mp hlike
    have hdecimal := isDecimal_of_readInteger hne hchars hn
    refine ⟨hdecimal, ?_⟩
    by_contra hlong
    rw [readInteger_decimal hdecimal, if_pos (not_le.mp hlong)] at hn
    cases hn
  · intro h
    unfold ofText
    split
    · obtain ⟨hdecimal, hlength⟩ := h ‹_›
      rw [readInteger_decimal hdecimal, if_neg (not_lt.mpr hlength)]
      exact ⟨_, rfl⟩
    · exact ⟨_, rfl⟩

theorem exists_ofValue_of_text {value : Value} {text : Text} (h : value.plainText = .ok text) :
    (∃ place, ofValue value = .ok place) ↔ text.HasPlace := by
  rw [ofValue, h, ok_bind]
  exact exists_ofText_iff

theorem exists_ofValue_iff (id : HelperId) :
    (∃ place, ofValue id.toValue = .ok place) ↔ id.HasPlace := by
  cases id with
  | name text => exact exists_ofValue_of_text rfl
  | number n =>
      have htext : (Value.int n).plainText = integerText n := Value.plainText_int n
      by_cases hlong : IsLong n
      · rw [HelperId.toValue, ofValue, htext, (failsIf_integerText n).fails hlong]
        exact iff_of_false nofun (not_not.mpr hlong)
      · have hplain : (Value.int n).plainText = .ok (.ofInt n) := htext.trans (if_neg hlong)
        exact (exists_ofValue_of_text hplain).trans (iff_of_true (Text.hasPlace_ofInt hlong) hlong)
  | flag value =>
      refine (exists_ofValue_of_text rfl).trans (iff_of_true ?_ trivial)
      cases value <;> exact Text.hasPlace_of_not_digitLike (by decide +kernel) _
  | none =>
      refine (exists_ofValue_of_text rfl).trans (iff_of_true ?_ trivial)
      exact Text.hasPlace_of_not_digitLike (by decide +kernel) _

theorem exists_keyed_iff {α : Type} {key : α → Except Fault HelperKey} (item : α) :
    (∃ entry, (do return (← key item, item) : Except Fault (HelperKey × α)) = .ok entry) ↔
      ∃ place, key item = .ok place := by
  cases key item <;> simp [pure, Except.pure]

theorem exists_sortItems_iff {α : Type} {key : α → Except Fault HelperKey} {items : List α} :
    (∃ keyed, sortItems key items = .ok keyed) ↔ ∀ item ∈ items, ∃ place, key item = .ok place := by
  simp only [← exists_keyed_iff, ← exists_mapM_ok_iff]
  constructor
  · rintro ⟨keyed, hkeyed⟩
    obtain ⟨arrived, harrived, -⟩ := bind_eq_ok.mp hkeyed
    exact ⟨arrived, harrived⟩
  · rintro ⟨arrived, harrived⟩
    exact ⟨_, bind_eq_ok.mpr ⟨arrived, harrived, rfl⟩⟩

end HelperKey

/-! ## Whole counts -/

/-- Every count is a whole number, and none is negative. -/
def Tally.HasWholeCounts (tally : Tally) : Prop :=
  ∀ entry ∈ tally.entries, ∃ n : Nat, entry.2 = .int n

namespace Tally.HasWholeCounts

variable {tally : Tally} (h : tally.HasWholeCounts)

include h

theorem exists_count (id : HelperId) : ∃ n : Nat, (tally.count id).toInteger = .ok (n : Int) := by
  unfold count
  split
  · next entry hfound =>
      obtain ⟨n, hn⟩ := h entry (List.mem_of_find?_eq_some hfound)
      exact ⟨n, by rw [hn]; rfl⟩
  · exact ⟨0, rfl⟩

theorem exists_countsOf (ids : List HelperId) :
    ∃ counts, Contribution.countsOf tally ids = .ok counts ∧ ∀ count ∈ counts, 0 ≤ count := by
  obtain ⟨counts, hcounts⟩ := exists_forall₂ fun id (_ : id ∈ ids) => h.exists_count id
  refine ⟨counts.map Int.ofNat, ?_, ?_⟩
  · rw [Contribution.countsOf, mapM_eq_ok, List.forall₂_map_right_iff]
    exact hcounts
  · intro count hcount
    obtain ⟨n, -, rfl⟩ := List.mem_map.mp hcount
    exact n.cast_nonneg

end Tally.HasWholeCounts

theorem exists_tabulated {updated solved : Tally} (hupdated : updated.HasWholeCounts)
    (hsolved : solved.HasWholeCounts) (helpers : List (HelperKey × HelperId)) :
    ∃ rows, Contribution.tabulated updated solved helpers = .ok rows := by
  obtain ⟨updatedCounts, hu, hunonneg⟩ := hupdated.exists_countsOf (helpers.map (·.2))
  obtain ⟨solvedCounts, hs, hsnonneg⟩ := hsolved.exists_countsOf (helpers.map (·.2))
  have hnonneg : ¬ (updatedCounts ++ solvedCounts).any (· < 0) = true := by
    rw [List.any_eq_true]
    rintro ⟨count, hcount, hneg⟩
    have hneg := of_decide_eq_true hneg
    rcases List.mem_append.mp hcount with hmem | hmem
    · exact (hunonneg count hmem).not_gt hneg
    · exact (hsnonneg count hmem).not_gt hneg
  simp only [Contribution.tabulated, hu, hs, ok_bind, if_neg hnonneg]
  exact ⟨_, rfl⟩

/-- An id has a key just if it has a place, and whole counts have rows just if all ids have one. -/
theorem exists_contributions_iff {updated solved : Tally} (hupdated : updated.HasWholeCounts)
    (hsolved : solved.HasWholeCounts) :
    (∀ id : HelperId, (∃ place, HelperKey.ofValue id.toValue = .ok place) ↔ id.HasPlace) ∧
      ((∃ rows, contributions updated solved = .ok rows) ↔
        ∀ id ∈ updated.union solved, id.HasPlace) := by
  refine ⟨HelperKey.exists_ofValue_iff, ?_⟩
  simp only [← HelperKey.exists_ofValue_iff, ← HelperKey.exists_sortItems_iff]
  constructor
  · rintro ⟨rows, hrows⟩
    obtain ⟨keyed, hkeyed, -⟩ := bind_eq_ok.mp hrows
    exact ⟨keyed, hkeyed⟩
  · rintro ⟨keyed, hkeyed⟩
    obtain ⟨rows, hrows⟩ := exists_tabulated hupdated hsolved keyed
    exact ⟨rows, bind_eq_ok.mpr ⟨keyed, hkeyed, hrows⟩⟩

/-- Digits of another script are a number, and a superscript within a name is no harm. -/
theorem exists_contributions_iff_of_scripts :
    ∃ rows, contributions (.ofList [(.name ['\u0663'], .int 5)])
      (.ofList [(.name ['x', '\u00B2'], .int 3)]) = .ok rows := by
  have hupdated : (Tally.ofList [(.name ['\u0663'], .int 5)]).HasWholeCounts := by
    intro entry hentry
    obtain rfl := List.mem_singleton.mp hentry
    exact ⟨5, rfl⟩
  have hsolved : (Tally.ofList [(.name ['x', '\u00B2'], .int 3)]).HasWholeCounts := by
    intro entry hentry
    obtain rfl := List.mem_singleton.mp hentry
    exact ⟨3, rfl⟩
  refine (exists_contributions_iff hupdated hsolved).2.mpr fun id hid => ?_
  rcases List.mem_pair.mp hid with rfl | rfl
  · have hdigit : isDecimalDigit '\u0663' = true := by decide +kernel
    exact fun _ => ⟨⟨by simp, by simpa using hdigit⟩, show 1 ≤ digitLimit by norm_num [digitLimit]⟩
  · exact Text.hasPlace_of_not_digitLike (by decide +kernel) _

/-- A superscript looks like a digit and is none. -/
theorem not_exists_contributions_of_superscript :
    ¬ ∃ rows, contributions (.ofList [(.name ['\u00B2'], .int 1)]) .empty = .ok rows := by
  have hfailed :
      (contributions (.ofList [(.name ['\u00B2'], .int 1)]) .empty).isOk = false := by
    decide +kernel
  rintro ⟨rows, hrows⟩
  rw [hrows] at hfailed
  cases hfailed

end Scoreboard
