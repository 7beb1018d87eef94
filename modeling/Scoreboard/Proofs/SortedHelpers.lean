import Mathlib
import Scoreboard.Proofs.HelperPlaces

/-!
# Sorted helpers

Values that all have places can be sorted: they come in the order of their places, and those of one
place as they arrived.  A place is told by the text of its value and tells it, so that the texts come
in one order, however the values arrive.
-/

namespace Scoreboard

/-! ## Texts in order -/

namespace Text

/-- The texts of decimal digits, and the others behind them. -/
structure IsRanked (digits others : List Text) : Prop where
  decimal : ∀ text ∈ digits, text.IsDecimal
  other : ∀ text ∈ others, ¬ text.IsDecimal
  byNumber : digits.Pairwise fun s t => s.decimalNumber ≤ t.decimalNumber

theorem NoLater.isDecimal {s t : Text} (h : s.NoLater t) (ht : t.IsDecimal) : s.IsDecimal := by
  cases h with
  | below hs _ _ => exact hs
  | spelled hs _ _ _ => exact hs
  | digits hs _ => exact hs
  | others _ hother _ => exact absurd ht hother

theorem NoLater.decimalNumber_le {s t : Text} (h : s.NoLater t) (ht : t.IsDecimal) :
    s.decimalNumber ≤ t.decimalNumber := by
  cases h with
  | below _ _ hlt => exact hlt.le
  | spelled _ _ heq _ => exact heq.le
  | digits _ hother => exact absurd ht hother
  | others _ hother _ => exact absurd ht hother

theorem exists_isRanked {texts : List Text} (h : texts.Pairwise NoLater) :
    ∃ digits others, texts = digits ++ others ∧ IsRanked digits others := by
  induction h with
  | nil => exact ⟨[], [], rfl, nofun, nofun, .nil⟩
  | @cons text texts hfirst _ ih =>
      obtain ⟨digits, others, rfl, hranked⟩ := ih
      by_cases htext : text.IsDecimal
      · refine ⟨text :: digits, others, rfl, ?_, hranked.other, ?_⟩
        · exact List.forall_mem_cons.mpr ⟨htext, hranked.decimal⟩
        · refine List.pairwise_cons.mpr ⟨fun other hother => ?_, hranked.byNumber⟩
          have hlater := hfirst other (List.mem_append_left others hother)
          exact hlater.decimalNumber_le (hranked.decimal other hother)
      · -- Nothing of digits alone stands behind a text that is not.
        have hothers : ∀ other ∈ digits ++ others, ¬ other.IsDecimal :=
          fun other hother hdecimal => htext ((hfirst other hother).isDecimal hdecimal)
        exact ⟨[], text :: (digits ++ others), rfl, nofun,
          List.forall_mem_cons.mpr ⟨htext, hothers⟩, .nil⟩

end Text

namespace HelperKey

/-! ## Places and texts -/

variable {a b value : Value} {p q place : HelperKey}

theorem eq_iff_plainText_eq (ha : ofValue a = .ok p) (hb : ofValue b = .ok q) :
    p = q ↔ a.plainText = b.plainText := by
  constructor
  · rintro rfl
    rw [plainText_of_ofValue ha, plainText_of_ofValue hb]
  · intro htext
    have hplaces : ofValue a = ofValue b := by rw [ofValue, ofValue, htext]
    exact Except.ok.inj (ha.symm.trans (hplaces.trans hb))

theorem ofText_text (h : ofValue value = .ok place) : ofText place.text = .ok place := by
  rw [ofValue, plainText_of_ofValue h, ok_bind] at h
  exact h

theorem le_refl (place : HelperKey) : place.le place = true := by
  simpa using le_total place place

/-! ## Items in order -/

variable {α : Type} {key : α → Except Fault HelperKey} {items others : List α}
  {keyed keyed' : List (HelperKey × α)}

/-- The item has this place. -/
def standsAt (key : α → Except Fault HelperKey) (place : HelperKey) (item : α) : Bool :=
  (key item).toOption = some place

theorem map_filter_place (hkeys : ∀ entry ∈ keyed, key entry.2 = .ok entry.1) (place : HelperKey) :
    (keyed.filter (·.1 = place)).map (·.2) = (keyed.map (·.2)).filter (standsAt key place) := by
  rw [List.filter_map]
  congr 1
  apply List.filter_congr
  intro entry hentry
  simp [standsAt, hkeys entry hentry, Except.toOption]

/-- The items of one place stand as they arrived. -/
theorem sortItems_stable (h : sortItems key items = .ok keyed) (place : HelperKey) :
    (keyed.map (·.2)).filter (standsAt key place) = items.filter (standsAt key place) := by
  have hkeys := (sortItems_eq_ok h).2.1
  obtain ⟨arrived, harrived, hsorted⟩ := bind_eq_ok.mp h
  cases hsorted
  obtain ⟨hitems, harrivedKeys⟩ := keyed_eq_ok harrived
  have hordered : (arrived.filter (·.1 = place)).Pairwise fun a b => a.1.le b.1 = true := by
    apply List.pairwise_of_forall_mem_list
    intro a ha b hb
    have haplace : a.1 = place := by simpa using (List.mem_filter.mp ha).2
    have hbplace : b.1 = place := by simpa using (List.mem_filter.mp hb).2
    rw [haplace, hbplace]
    exact le_refl place
  rw [← map_filter_place hkeys, ← hitems, ← map_filter_place harrivedKeys,
    filter_inOrder (fun a b => le_total a.1 b.1) (fun a b c => le_trans a.1 b.1 c.1),
    inOrder_eq_self hordered]

theorem map_key (hkeys : ∀ entry ∈ keyed, key entry.2 = .ok entry.1) :
    (keyed.map (·.2)).map key = (keyed.map (·.1)).map Except.ok := by
  rw [List.map_map, List.map_map]
  exact List.map_congr_left hkeys

/-- The order of arrival does not show in the places. -/
theorem sortItems_places_perm (hperm : others.Perm items) (h : sortItems key items = .ok keyed)
    (hother : sortItems key others = .ok keyed') : keyed'.map (·.1) = keyed.map (·.1) := by
  obtain ⟨hitems, hkeys, hordered⟩ := sortItems_eq_ok h
  obtain ⟨hothers, hkeys', hordered'⟩ := sortItems_eq_ok hother
  have hokInjective : Function.Injective (Except.ok : HelperKey → Except Fault HelperKey) :=
    fun _ _ => Except.ok.inj
  have hplaces : (keyed'.map (·.1)).Perm (keyed.map (·.1)) := by
    rw [← List.map_perm_map_iff hokInjective, ← map_key hkeys, ← map_key hkeys']
    exact ((hothers.trans hperm).trans hitems.symm).map key
  refine hplaces.eq_of_pairwise (fun a b _ _ => le_antisymm a b) ?_ ?_
  · exact List.pairwise_map.mpr hordered'
  · exact List.pairwise_map.mpr hordered

end HelperKey

/-! ## Main result -/

/-- The same values in the order of their places, those of one place as they arrived. -/
structure IsArrangement (values arranged : List Value) : Prop where
  perm : arranged.Perm values
  ordered : arranged.Pairwise fun a b => ∃ p q, HelperKey.ofValue a = .ok p ∧
    HelperKey.ofValue b = .ok q ∧ p.le q = true
  stable : ∀ place, arranged.filter (HelperKey.standsAt HelperKey.ofValue place) =
    values.filter (HelperKey.standsAt HelperKey.ofValue place)

open HelperKey

variable {values : List Value} {keyed : List (HelperKey × Value)}

theorem isArrangement_of_sortItems (h : sortItems ofValue values = .ok keyed) :
    IsArrangement values (keyed.map (·.2)) := by
  obtain ⟨hperm, hkeys, hordered⟩ := sortItems_eq_ok h
  constructor
  case perm => exact hperm
  case ordered => exact pairwise_places hkeys hordered
  case stable => exact fun place => sortItems_stable h place

theorem map_plainText_of_sortItems (h : sortItems ofValue values = .ok keyed) :
    (keyed.map (·.2)).map Value.plainText = ((keyed.map (·.1)).map HelperKey.text).map .ok := by
  rw [List.map_map, List.map_map, List.map_map]
  apply List.map_congr_left
  intro entry hentry
  exact plainText_of_ofValue ((sortItems_eq_ok h).2.1 entry hentry)

theorem pairwise_noLater_of_sortItems (h : sortItems ofValue values = .ok keyed) :
    ((keyed.map (·.1)).map HelperKey.text).Pairwise Text.NoLater := by
  obtain ⟨-, hkeys, hordered⟩ := sortItems_eq_ok h
  rw [List.map_map, List.pairwise_map]
  apply hordered.imp_of_mem
  intro a b ha hb hle
  exact noLater_of_le (ofText_text (hkeys a ha)) (ofText_text (hkeys b hb)) hle

/--
Values with places are arranged by them, and a place is told by the text of its value.  So the texts
come in one order, the numbers in front, in whatever order the values arrive.
-/
theorem exists_texts_sortHelpers
    (h : ∀ value ∈ values, ∃ place, ofValue value = .ok place) :
    (∀ a b p q, ofValue a = .ok p → ofValue b = .ok q → (p = q ↔ a.plainText = b.plainText)) ∧
      ∃ digits others, Text.IsRanked digits others ∧ ∀ arrived : List Value, arrived.Perm values →
        ∃ arranged, sortHelpers arrived = .ok arranged ∧ IsArrangement arrived arranged ∧
          arranged.map Value.plainText = (digits ++ others).map .ok := by
  refine ⟨fun a b p q => eq_iff_plainText_eq, ?_⟩
  obtain ⟨keyed, hkeyed⟩ := exists_sortItems_iff.mpr h
  obtain ⟨digits, others, htexts, hranked⟩ :=
    Text.exists_isRanked (pairwise_noLater_of_sortItems hkeyed)
  refine ⟨digits, others, hranked, fun arrived harrived => ?_⟩
  have hplaces : ∀ value ∈ arrived, ∃ place, ofValue value = .ok place :=
    fun value hvalue => h value (harrived.subset hvalue)
  obtain ⟨keyed', hkeyed'⟩ := exists_sortItems_iff.mpr hplaces
  refine ⟨keyed'.map (·.2), ?_, isArrangement_of_sortItems hkeyed', ?_⟩
  · rw [sortHelpers, hkeyed', ok_bind]
    rfl
  · rw [map_plainText_of_sortItems hkeyed', sortItems_places_perm harrived hkeyed hkeyed', htexts]

/-- Five ids spell two numbers in two scripts, and one text comes up twice. -/
theorem exists_texts_sortHelpers_of_scripts :
    (sortHelpers [.text ['x'], .int 10, .text ['3'], .text "\u0663".toList, .int 3,
        .text "03".toList]).map (List.map Value.plainText) =
      .ok [.ok "03".toList, .ok ['3'], .ok ['3'], .ok "\u0663".toList, .ok "10".toList,
        .ok ['x']] ∧
    (∀ a b p q, ofValue a = .ok p → ofValue b = .ok q → (p = q ↔ a.plainText = b.plainText)) ∧
      ∃ digits others, Text.IsRanked digits others ∧ ∀ arrived : List Value,
        arrived.Perm [.text ['x'], .int 10, .text ['3'], .text "\u0663".toList, .int 3,
          .text "03".toList] →
        ∃ arranged, sortHelpers arrived = .ok arranged ∧ IsArrangement arrived arranged ∧
          arranged.map Value.plainText = (digits ++ others).map .ok := by
  have hplaces : ∀ value ∈ [Value.text ['x'], .int 10, .text ['3'], .text "\u0663".toList, .int 3,
      .text "03".toList], (ofValue value).isOk = true := by
    decide +kernel
  refine ⟨by decide +kernel, exists_texts_sortHelpers fun value hvalue => ?_⟩
  exact exists_eq_ok (hplaces value hvalue)

end Scoreboard
