import Mathlib
import Scoreboard.Proofs.HelperTexts

/-!
# Order of arrival

Neither the order in which tallies list their entries nor the order in which the merged helpers come
up shows in the rows, as long as no two helpers have one text.  Sorting is where the order goes:
helpers whose texts differ have different places, and items in order are determined by what they
are.  Without places for all helpers there are no rows, in whatever order the helpers come up.
-/

namespace Scoreboard

/-- Both computations give the same result, or neither gives one. -/
inductive SameOutcome {α : Type} : Except Fault α → Except Fault α → Prop where
  | results (a : α) : SameOutcome (.ok a) (.ok a)
  | faults (first second : Fault) : SameOutcome (.error first) (.error second)

namespace SameOutcome

variable {α β : Type} {first second : Except Fault α}

theorem of_forall (hforth : ∀ a, first = .ok a → second = .ok a)
    (hback : ∀ a, second = .ok a → first = .ok a) : SameOutcome first second := by
  cases first with
  | ok a =>
      rw [hforth a rfl]
      exact .results a
  | error fault =>
      cases second with
      | ok a => cases hback a rfl
      | error other => exact .faults fault other

theorem eq_ok {a : α} (h : SameOutcome (.ok a) second) : second = .ok a := by
  cases h
  rfl

theorem bind (h : SameOutcome first second) (next : α → Except Fault β) :
    SameOutcome (first >>= next) (second >>= next) := by
  cases h with
  | faults fault other => exact .faults fault other
  | results a =>
      rw [ok_bind]
      exact of_forall (fun _ => id) fun _ => id

end SameOutcome

/-! ## Sorted items -/

theorem mapM_perm {α β : Type} {f : α → Except Fault β} {items others : List α} {results : List β}
    (hperm : others.Perm items) (h : items.mapM f = .ok results) :
    ∃ results', others.mapM f = .ok results' ∧ results'.Perm results := by
  have hcomp : Relation.Comp List.Perm (List.Forall₂ fun item result => f item = .ok result)
      others results := ⟨items, hperm, mapM_eq_ok.mp h⟩
  rw [← List.forall₂_comp_perm_eq_perm_comp_forall₂] at hcomp
  obtain ⟨results', hresults, hsame⟩ := hcomp
  exact ⟨results', mapM_eq_ok.mpr hresults, hsame⟩

theorem HelperKey.sortItems_perm {α : Type} {key : α → Except Fault HelperKey}
    {items others : List α} {keyed : List (HelperKey × α)} (hperm : others.Perm items)
    (hinjective : ∀ a ∈ items, ∀ b ∈ items, ∀ place,
      key a = .ok place → key b = .ok place → a = b)
    (h : sortItems key items = .ok keyed) : sortItems key others = .ok keyed := by
  obtain ⟨arrived, harrived, hsorted⟩ := bind_eq_ok.mp h
  cases hsorted
  obtain ⟨hitems, hkeys⟩ := keyed_eq_ok harrived
  obtain ⟨arrived', harrived', hsame⟩ := mapM_perm hperm harrived
  refine bind_eq_ok.mpr ⟨arrived', harrived', congrArg Except.ok ?_⟩
  refine (inOrder_eq_of_perm (fun a b => le_total a.1 b.1)
    (fun a b c => le_trans a.1 b.1 c.1) ?_ hsame.symm).symm
  -- Two entries that may stand either way have one place, and so one item.
  intro a ha b hb hab hba
  have hplace : a.1 = b.1 := le_antisymm a.1 b.1 hab hba
  have hitem : a.2 = b.2 := by
    apply hinjective a.2 _ b.2 _ a.1 (hkeys a ha)
    · rw [hplace, hkeys b hb]
    · exact hitems ▸ List.mem_map_of_mem ha
    · exact hitems ▸ List.mem_map_of_mem hb
  exact Prod.ext hplace hitem

theorem HelperId.ToldApart.place_injective {ids : List HelperId} (h : ToldApart ids) :
    ∀ a ∈ ids, ∀ b ∈ ids, ∀ place, HelperKey.ofValue a.toValue = .ok place →
      HelperKey.ofValue b.toValue = .ok place → a = b :=
  fun a ha b hb place haplace hbplace =>
    h a ha b hb place.text (HelperKey.text_of_ofValue haplace) (HelperKey.text_of_ofValue hbplace)

/-! ## Entries in any order -/

namespace Tally

variable {tally other : Tally}

theorem count_perm (h : tally.entries.Perm other.entries) : tally.count = other.count := by
  funext id
  by_cases hknown : id.identity ∈ identities tally.entries
  · obtain ⟨entry, hentry, hsame⟩ := List.mem_map.mp hknown
    rw [← count_identity tally, ← count_identity other, ← hsame, count_identity, count_identity,
      count_of_mem hentry, count_of_mem (h.mem_iff.mp hentry)]
  · have hunknown : id.identity ∉ identities other.entries := by
      rwa [identities, ← (h.map _).mem_iff]
    rw [count_of_not_mem hknown, count_of_not_mem hunknown]

theorem contains_perm (h : tally.entries.Perm other.entries) : tally.contains = other.contains := by
  funext id
  rw [Bool.eq_iff_iff, contains_iff, contains_iff]
  exact (h.map _).mem_iff

theorem union_perm {first first' second second' : Tally}
    (hfirst : first.entries.Perm first'.entries) (hsecond : second.entries.Perm second'.entries) :
    (first.union second).Perm (first'.union second') := by
  rw [union, union, contains_perm hfirst]
  exact (hfirst.map _).append ((hsecond.map _).filter _)

end Tally

/-! ## Helpers in any order -/

/-- The rows of helpers that are in order. -/
def Contribution.tabulated (updated solved : Tally) (helpers : List (HelperKey × HelperId)) :
    Except Fault (List Contribution) := do
  let ids := helpers.map (·.2)
  let updatedCounts ← countsOf updated ids
  let solvedCounts ← countsOf solved ids
  if (updatedCounts ++ solvedCounts).any (· < 0) then .error .negativeContribution
  return bySolved <|
    unordered (helpers.map (·.1.text)) (updatedCounts.map Int.toNat) (solvedCounts.map Int.toNat)

open Contribution

/-- The contributions when the merged helpers come up in this order. -/
def contributionsFrom (arrived : List HelperId) (updated solved : Tally) :
    Except Fault (List Contribution) := do
  tabulated updated solved
    (← HelperKey.sortItems (fun id => HelperKey.ofValue id.toValue) arrived)

theorem contributions_eq_from (updated solved : Tally) :
    contributions updated solved = contributionsFrom (updated.union solved) updated solved := rfl

variable {updated updated' solved solved' : Tally}

theorem tabulated_perm (hupdated : updated.entries.Perm updated'.entries)
    (hsolved : solved.entries.Perm solved'.entries) :
    tabulated updated solved = tabulated updated' solved' := by
  funext helpers
  unfold tabulated countsOf
  rw [Tally.count_perm hupdated, Tally.count_perm hsolved]

theorem sameOutcome_from {arrived arrived' : List HelperId}
    (hupdated : updated.entries.Perm updated'.entries)
    (hsolved : solved.entries.Perm solved'.entries) (harrived : arrived.Perm arrived')
    (happart : HelperId.ToldApart arrived) :
    SameOutcome (contributionsFrom arrived updated solved)
      (contributionsFrom arrived' updated' solved') := by
  have happart' : HelperId.ToldApart arrived' :=
    (HelperId.ToldApart.perm_iff harrived).mp happart
  unfold contributionsFrom
  rw [tabulated_perm hupdated hsolved]
  apply SameOutcome.bind
  apply SameOutcome.of_forall
  · exact fun keyed => HelperKey.sortItems_perm harrived.symm happart.place_injective
  · exact fun keyed => HelperKey.sortItems_perm harrived happart'.place_injective

/-- Neither the order of entries nor that of the merged helpers shows in the outcome. -/
theorem contributions_order_free (hupdated : updated.entries.Perm updated'.entries)
    (hsolved : solved.entries.Perm solved'.entries)
    (happart : HelperId.ToldApart (updated.union solved)) :
    SameOutcome (contributions updated solved) (contributions updated' solved') ∧
      ∀ arrived, arrived.Perm (updated.union solved) →
        SameOutcome (contributions updated solved) (contributionsFrom arrived updated solved) := by
  rw [contributions_eq_from, contributions_eq_from]
  constructor
  · exact sameOutcome_from hupdated hsolved (Tally.union_perm hupdated hsolved) happart
  · intro arrived harrived
    exact sameOutcome_from (.refl _) (.refl _) harrived.symm happart

/-- Two ids spell three, and both tallies are listed the other way round. -/
theorem contributions_order_free_of_swapped :
    SameOutcome
      (contributions (.ofList [(.name "03".toList, .int 2), (.name ['x'], .int 5)])
        (.ofList [(.number 3, .int 7), (.number (-1), .text ['7'])]))
      (contributions (.ofList [(.name ['x'], .int 5), (.name "03".toList, .int 2)])
        (.ofList [(.number (-1), .text ['7']), (.number 3, .int 7)])) ∧
    ∀ arrived, arrived.Perm (Tally.union
        (.ofList [(.name "03".toList, .int 2), (.name ['x'], .int 5)])
        (.ofList [(.number 3, .int 7), (.number (-1), .text ['7'])])) →
      SameOutcome
        (contributions (.ofList [(.name "03".toList, .int 2), (.name ['x'], .int 5)])
          (.ofList [(.number 3, .int 7), (.number (-1), .text ['7'])]))
        (contributionsFrom arrived (.ofList [(.name "03".toList, .int 2), (.name ['x'], .int 5)])
          (.ofList [(.number 3, .int 7), (.number (-1), .text ['7'])])) :=
  contributions_order_free (.swap _ _ _) (.swap _ _ _) (by decide +kernel)

end Scoreboard
