import Mathlib
import Scoreboard.Proofs.HelperPlaces

/-!
# Refused tallies

Two tallies have no rows if an id has no place, or else if a count is no whole number, or else if one is
negative.  Ids are looked at as they come up, before any count; the counts of updated tiles before those
of solved tiles, and those of one tally in the order of helpers.  So of several reasons the one that is
told does not depend on the order in which the helpers come up, unless it is an id.
-/

namespace Scoreboard

/-! ## Ids -/

namespace HelperId

/-- Every id has a text, and a text that looks like a number spells one within the limit. -/
structure AllPlaced (ids : List HelperId) : Prop where
  texts : ∀ n, .number n ∈ ids → ¬ IsLong n
  places : ∀ id ∈ ids, ∀ text, id.text = .ok text → text.HasPlace

theorem allPlaced_iff {ids : List HelperId} :
    AllPlaced ids ↔ ∀ id ∈ ids, ∃ place, HelperKey.ofValue id.toValue = .ok place := by
  constructor
  · intro h id hid
    have hshort : ¬ id.toValue.HoldsLong := by
      cases id with
      | number n => exact mt Value.holdsLong_int.mp (h.texts n hid)
      | _ => exact nofun
    obtain ⟨text, htext⟩ := (Value.failsIf_plainText id.toValue).succeeds hshort
    exact (HelperKey.exists_ofValue_of_text htext).mpr (h.places id hid text htext)
  · intro h
    constructor
    · intro n hn
      exact (HelperKey.exists_ofValue_iff (.number n)).mp (h _ hn)
    · intro id hid text htext
      exact (HelperKey.exists_ofValue_of_text htext).mp (h id hid)

theorem AllPlaced.perm {ids others : List HelperId} (h : AllPlaced ids) (hperm : others.Perm ids) :
    AllPlaced others where
  texts n hn := h.texts n (hperm.mem_iff.mp hn)
  places id hid := h.places id (hperm.mem_iff.mp hid)

theorem Precedes.antisymm {ids : List HelperId} (happart : ToldApart ids) {a b : HelperId}
    (ha : a ∈ ids) (hb : b ∈ ids) (hab : a.Precedes b) (hba : b.Precedes a) : a = b := by
  obtain ⟨p, q, hp, hq, hpq⟩ := hab
  obtain ⟨q', p', hq', hp', hqp⟩ := hba
  cases hp.symm.trans hp'
  cases hq.symm.trans hq'
  obtain rfl := HelperKey.le_antisymm p q hpq hqp
  exact happart.place_injective a ha b hb p hp hq

end HelperId

theorem HelperKey.sortItems_eq_error {α : Type} {key : α → Except Fault HelperKey} {items : List α}
    {fault : Fault} : sortItems key items = .error fault ↔
      ∃ before item after, items = before ++ item :: after ∧
        (∀ other ∈ before, ∃ place, key other = .ok place) ∧ key item = .error fault := by
  have hfault (item : α) :
      (do return (← key item, item) : Except Fault (HelperKey × α)) = .error fault ↔
        key item = .error fault := by
    cases key item <;> simp [pure, Except.pure]
  have hsorted : sortItems key items = .error fault ↔
      items.mapM (fun item => do return (← key item, item)) = .error fault :=
    bind_eq_error_iff fun _ => ⟨_, rfl⟩
  simp only [hsorted, mapM_eq_error, exists_keyed_iff, hfault]

/-! ## Counts -/

namespace Tally

theorem forall_count_iff {tally : Tally} {ids : List HelperId}
    (hcovers : ∀ identity ∈ identities tally.entries, identity ∈ ids.map HelperId.identity)
    {p : Value → Prop} (hzero : p (.int 0)) :
    (∀ id ∈ ids, p (tally.count id)) ↔ ∀ entry ∈ tally.entries, p entry.2 := by
  constructor
  · intro h entry hentry
    obtain ⟨id, hid, hsame⟩ := List.mem_map.mp (hcovers _ (List.mem_map_of_mem hentry))
    have := h id hid
    rwa [← count_identity, hsame, count_identity, count_of_mem hentry] at this
  · intro h id _
    unfold count
    split
    · next entry hfound => exact h entry (List.mem_of_find?_eq_some hfound)
    · exact hzero

def Converts (tally : Tally) : Prop := ∀ entry ∈ tally.entries, ∃ n, entry.2.toInteger = .ok n

def HasNegative (tally : Tally) : Prop :=
  ∃ entry ∈ tally.entries, ∃ n, entry.2.toInteger = .ok n ∧ n < 0

/-- The fault of the first helper in order whose count is no whole number. -/
def FailsFirst (tally : Tally) (ids : List HelperId) (fault : Fault) : Prop :=
  ∃ id ∈ ids, (tally.count id).toInteger = .error fault ∧
    ∀ other ∈ ids, (∃ fault, (tally.count other).toInteger = .error fault) → id.Precedes other

section Counts

variable {tally : Tally} {ids : List HelperId}

theorem FailsFirst.perm {others : List HelperId} {fault : Fault} (h : tally.FailsFirst ids fault)
    (hperm : others.Perm ids) : tally.FailsFirst others fault := by
  obtain ⟨id, hid, hfault, hfirst⟩ := h
  exact ⟨id, hperm.mem_iff.mpr hid, hfault, fun other hother => hfirst other (hperm.mem_iff.mp hother)⟩

theorem failsFirst_of_countsOf {fault : Fault} (hplaced : HelperId.AllPlaced ids)
    (hordered : ids.Pairwise HelperId.Precedes)
    (h : Contribution.countsOf tally ids = .error fault) : tally.FailsFirst ids fault := by
  obtain ⟨before, id, after, rfl, hbefore, hfault⟩ := mapM_eq_error.mp h
  refine ⟨id, by simp, hfault, fun other hother hfails => ?_⟩
  rcases List.mem_append.mp hother with hearlier | hlater
  · obtain ⟨n, hn⟩ := hbefore other hearlier
    obtain ⟨fault, hfault⟩ := hfails
    cases hn.symm.trans hfault
  · rcases List.mem_cons.mp hlater with rfl | hafter
    · obtain ⟨place, hplace⟩ := HelperId.allPlaced_iff.mp hplaced other (by simp)
      have hle := HelperKey.le_total place place
      rw [Bool.or_self] at hle
      exact ⟨place, place, hplace, hplace, hle⟩
    · exact (List.pairwise_cons.mp (List.pairwise_append.mp hordered).2.1).1 other hafter

theorem countsOf_eq_error {fault : Fault} (happart : HelperId.ToldApart ids)
    (hplaced : HelperId.AllPlaced ids) (hordered : ids.Pairwise HelperId.Precedes) :
    Contribution.countsOf tally ids = .error fault ↔ tally.FailsFirst ids fault := by
  refine ⟨failsFirst_of_countsOf hplaced hordered, ?_⟩
  rintro ⟨id, hid, hfault, hfirst⟩
  cases hcounts : Contribution.countsOf tally ids with
  | ok counts =>
      obtain ⟨n, hn⟩ := exists_mapM_ok_iff.mp ⟨counts, hcounts⟩ id hid
      cases hn.symm.trans hfault
  | error other =>
      -- Two helpers that both come first are one, so that their faults are the same.
      obtain ⟨id', hid', hfault', hfirst'⟩ := failsFirst_of_countsOf hplaced hordered hcounts
      obtain rfl := HelperId.Precedes.antisymm happart hid hid' (hfirst id' hid' ⟨_, hfault'⟩)
        (hfirst' id hid ⟨_, hfault⟩)
      cases hfault.symm.trans hfault'
      rfl

variable (hcovers : ∀ identity ∈ identities tally.entries, identity ∈ ids.map HelperId.identity)

include hcovers

theorem exists_countsOf_iff :
    (∃ counts, Contribution.countsOf tally ids = .ok counts) ↔ tally.Converts := by
  rw [Contribution.countsOf, exists_mapM_ok_iff]
  exact forall_count_iff (p := fun count => ∃ n, count.toInteger = .ok n) hcovers ⟨0, rfl⟩

theorem exists_negative_iff {counts : List Int}
    (h : Contribution.countsOf tally ids = .ok counts) :
    (∃ count ∈ counts, count < 0) ↔ tally.HasNegative := by
  have hcounts := mapM_eq_ok.mp h
  have hids : (∀ count ∈ counts, 0 ≤ count) ↔
      ∀ id ∈ ids, ∀ n, (tally.count id).toInteger = .ok n → 0 ≤ n := by
    constructor
    · intro hnonneg id hid n hn
      obtain ⟨count, hcount, hid⟩ := exists_of_mem_right hcounts.flip hid
      cases hid.symm.trans hn
      exact hnonneg n hcount
    · intro hnonneg count hcount
      obtain ⟨id, hid, hn⟩ := exists_of_mem_right hcounts hcount
      exact hnonneg id hid count hn
  have hentries := hids.trans (forall_count_iff
    (p := fun count => ∀ n, count.toInteger = .ok n → 0 ≤ n) hcovers (by rintro n ⟨⟩; exact le_rfl))
  unfold HasNegative
  rw [← not_iff_not]
  push Not
  exact hentries

end Counts

end Tally

/-! ## Outcomes -/

open Contribution HelperId

/-- The ids and the counts of the two tallies leave nothing to refuse. -/
structure Accepted (updated solved : Tally) : Prop where
  placed : AllPlaced (updated.union solved)
  convertsUpdated : updated.Converts
  convertsSolved : solved.Converts
  nonneg : ¬ (updated.HasNegative ∨ solved.HasNegative)

/-- The tallies are refused with this fault, if the merged helpers come up in this order. -/
inductive Refused (arrived : List HelperId) (updated solved : Tally) : Fault → Prop where
  | id {before after : List HelperId} {id : HelperId} {fault : Fault} :
      arrived = before ++ id :: after → AllPlaced before →
        HelperKey.ofValue id.toValue = .error fault → Refused arrived updated solved fault
  | updated {fault : Fault} :
      AllPlaced arrived → updated.FailsFirst arrived fault → Refused arrived updated solved fault
  | solved {fault : Fault} :
      AllPlaced arrived → updated.Converts → solved.FailsFirst arrived fault →
        Refused arrived updated solved fault
  | negative :
      AllPlaced arrived → updated.Converts → solved.Converts →
        updated.HasNegative ∨ solved.HasNegative →
          Refused arrived updated solved .negativeContribution

theorem tabulated_of_counts {updated solved : Tally} {helpers : List (HelperKey × HelperId)}
    {updatedCounts solvedCounts : List Int}
    (hupdated : countsOf updated (helpers.map (·.2)) = .ok updatedCounts)
    (hsolved : countsOf solved (helpers.map (·.2)) = .ok solvedCounts) :
    tabulated updated solved helpers =
      if (updatedCounts ++ solvedCounts).any (· < 0) then .error .negativeContribution
      else .ok (bySolved (unordered (helpers.map (·.1.text)) (updatedCounts.map Int.toNat)
        (solvedCounts.map Int.toNat))) := by
  rw [tabulated, hupdated, ok_bind, hsolved, ok_bind]
  split <;> rfl

/-- The merged helpers that came up, told apart and in order. -/
structure AreOrdered (arrived : List HelperId) (updated solved : Tally) (ids : List HelperId) :
    Prop where
  perm : ids.Perm arrived
  merge : Tally.IsMerge updated solved ids
  apart : ToldApart ids
  placed : AllPlaced ids
  ordered : ids.Pairwise Precedes

section Ordered

variable {arrived : List HelperId} {updated solved : Tally}

theorem areOrdered_of_sortItems {helpers : List (HelperKey × HelperId)}
    (harrived : arrived.Perm (updated.union solved)) (happart : ToldApart (updated.union solved))
    (h : HelperKey.sortItems (fun id => HelperKey.ofValue id.toValue) arrived = .ok helpers) :
    AreOrdered arrived updated solved (helpers.map (·.2)) := by
  obtain ⟨hperm, hkeys, hordered⟩ := HelperKey.sortItems_eq_ok h
  have hplaced : AllPlaced arrived := allPlaced_iff.mpr (HelperKey.exists_sortItems_iff.mp ⟨_, h⟩)
  have hids := hperm.trans harrived
  exact ⟨hperm, (Tally.isMerge_union updated solved).perm hids, (ToldApart.perm_iff hids).mpr happart,
    hplaced.perm hperm, HelperKey.pairwise_precedes hkeys hordered⟩

namespace AreOrdered

variable {ids : List HelperId} (h : AreOrdered arrived updated solved ids) {fault : Fault}

include h

theorem countsOf_eq_error {tally : Tally} :
    countsOf tally ids = .error fault ↔ tally.FailsFirst arrived fault := by
  rw [Tally.countsOf_eq_error h.apart h.placed h.ordered]
  exact ⟨fun hfails => hfails.perm h.perm.symm, fun hfails => hfails.perm h.perm⟩

theorem any_negative_iff {updatedCounts solvedCounts : List Int}
    (hupdated : countsOf updated ids = .ok updatedCounts)
    (hsolved : countsOf solved ids = .ok solvedCounts) :
    (updatedCounts ++ solvedCounts).any (· < 0) = true ↔
      updated.HasNegative ∨ solved.HasNegative := by
  rw [← Tally.exists_negative_iff h.merge.identities_first hupdated,
    ← Tally.exists_negative_iff h.merge.identities_second hsolved]
  simp only [List.any_append, Bool.or_eq_true, List.any_eq_true, decide_eq_true_eq]

end AreOrdered

theorem refused_of_tabulated {helpers : List (HelperKey × HelperId)}
    (h : AreOrdered arrived updated solved (helpers.map (·.2))) {fault : Fault}
    (hfault : tabulated updated solved helpers = .error fault) :
    Refused arrived updated solved fault := by
  have hplaced := h.placed.perm h.perm.symm
  cases hupdated : countsOf updated (helpers.map (·.2)) with
  | error other =>
      rw [tabulated, hupdated, error_bind] at hfault
      cases hfault
      exact .updated hplaced (h.countsOf_eq_error.mp hupdated)
  | ok updatedCounts =>
      have hconverts := (Tally.exists_countsOf_iff h.merge.identities_first).mp ⟨_, hupdated⟩
      cases hsolved : countsOf solved (helpers.map (·.2)) with
      | error other =>
          rw [tabulated, hupdated, ok_bind, hsolved, error_bind] at hfault
          cases hfault
          exact .solved hplaced hconverts (h.countsOf_eq_error.mp hsolved)
      | ok solvedCounts =>
          rw [tabulated_of_counts hupdated hsolved] at hfault
          split at hfault
          · next hnegative =>
              cases hfault
              exact .negative hplaced hconverts
                ((Tally.exists_countsOf_iff h.merge.identities_second).mp ⟨_, hsolved⟩)
                ((h.any_negative_iff hupdated hsolved).mp hnegative)
          · cases hfault

theorem tabulated_of_refused {helpers : List (HelperKey × HelperId)}
    (h : AreOrdered arrived updated solved (helpers.map (·.2))) {fault : Fault}
    (hrefused : Refused arrived updated solved fault) :
    tabulated updated solved helpers = .error fault := by
  have hplaced := h.placed.perm h.perm.symm
  have hupdated := Tally.exists_countsOf_iff h.merge.identities_first
  have hsolved := Tally.exists_countsOf_iff h.merge.identities_second
  cases hrefused with
  | @id before after id _ harrived hbefore hfault =>
      obtain ⟨place, hplace⟩ := allPlaced_iff.mp hplaced id (by simp [harrived])
      cases hplace.symm.trans hfault
  | updated _ hfails => rw [tabulated, h.countsOf_eq_error.mpr hfails, error_bind]
  | solved _ hconverts hfails =>
      obtain ⟨updatedCounts, hcounts⟩ := hupdated.mpr hconverts
      rw [tabulated, hcounts, ok_bind, h.countsOf_eq_error.mpr hfails, error_bind]
  | negative _ hconverts hconverts' hnegative =>
      obtain ⟨updatedCounts, hcounts⟩ := hupdated.mpr hconverts
      obtain ⟨solvedCounts, hcounts'⟩ := hsolved.mpr hconverts'
      rw [tabulated_of_counts hcounts hcounts',
        if_pos ((h.any_negative_iff hcounts hcounts').mpr hnegative)]

theorem exists_tabulated_iff {helpers : List (HelperKey × HelperId)}
    (h : AreOrdered arrived updated solved (helpers.map (·.2))) :
    (∃ rows, tabulated updated solved helpers = .ok rows) ↔
      updated.Converts ∧ solved.Converts ∧ ¬ (updated.HasNegative ∨ solved.HasNegative) := by
  rw [← Tally.exists_countsOf_iff h.merge.identities_first,
    ← Tally.exists_countsOf_iff h.merge.identities_second]
  constructor
  · rintro ⟨rows, hrows⟩
    obtain ⟨updatedCounts, hupdated, hrest⟩ := bind_eq_ok.mp hrows
    obtain ⟨solvedCounts, hsolved, -⟩ := bind_eq_ok.mp hrest
    refine ⟨⟨_, hupdated⟩, ⟨_, hsolved⟩, fun hnegative => ?_⟩
    rw [tabulated_of_counts hupdated hsolved,
      if_pos ((h.any_negative_iff hupdated hsolved).mpr hnegative)] at hrows
    cases hrows
  · rintro ⟨⟨updatedCounts, hupdated⟩, ⟨solvedCounts, hsolved⟩, hnonneg⟩
    rw [tabulated_of_counts hupdated hsolved,
      if_neg (mt (h.any_negative_iff hupdated hsolved).mp hnonneg)]
    exact ⟨_, rfl⟩

end Ordered

/-! ## Faults of ids and of counts -/

theorem isConversion_of_ofValue {value : Value} {fault : Fault}
    (h : HelperKey.ofValue value = .error fault) : fault.isConversion = true := by
  rcases bind_eq_error.mp h with htext | ⟨text, -, hplace⟩
  · obtain ⟨rfl, -⟩ := (Value.failsIf_plainText value).eq_error_iff.mp htext
    rfl
  · unfold HelperKey.ofText at hplace
    split at hplace
    · rcases bind_eq_error.mp hplace with hread | ⟨n, -, hpure⟩
      · exact isConversion_of_readNumeral hread
      · cases hpure
    · cases hplace

theorem Tally.FailsFirst.isConversion {tally : Tally} {ids : List HelperId} {fault : Fault}
    (h : tally.FailsFirst ids fault) : fault.isConversion = true := by
  obtain ⟨id, -, hfault, -⟩ := h
  exact Value.isConversion_of_toInteger hfault

theorem Refused.kind_eq {arrived : List HelperId} {updated solved : Tally} {fault : Fault}
    (h : Refused arrived updated solved fault) :
    fault.kind = .type ∨ fault.kind = .value ∨ fault.kind = .overflow := by
  cases h with
  | id _ _ hfault => exact Fault.kind_of_isConversion (isConversion_of_ofValue hfault)
  | updated _ hfails => exact Fault.kind_of_isConversion hfails.isConversion
  | solved _ _ hfails => exact Fault.kind_of_isConversion hfails.isConversion
  | negative _ _ _ _ => exact .inr (.inl rfl)

theorem refused_negative_iff {arrived : List HelperId} {updated solved : Tally} :
    Refused arrived updated solved .negativeContribution ↔
      AllPlaced arrived ∧ updated.Converts ∧ solved.Converts ∧
        (updated.HasNegative ∨ solved.HasNegative) := by
  constructor
  · intro h
    cases h with
    | id _ _ hfault => cases isConversion_of_ofValue hfault
    | updated _ hfails => cases hfails.isConversion
    | solved _ _ hfails => cases hfails.isConversion
    | negative hplaced hupdated hsolved hnegative =>
        exact ⟨hplaced, hupdated, hsolved, hnegative⟩
  · rintro ⟨hplaced, hupdated, hsolved, hnegative⟩
    exact .negative hplaced hupdated hsolved hnegative

/-! ## What becomes of two tallies -/

/-- What the rows of two tallies are, or the fault if there are none. -/
structure IsOutcome (arrived : List HelperId) (updated solved : Tally)
    (outcome : Except Fault (List Contribution)) : Prop where
  accepted : (∃ rows, outcome = .ok rows) ↔ Accepted updated solved
  refused : ∀ fault, outcome = .error fault ↔ Refused arrived updated solved fault
  negative : outcome = .error .negativeContribution ↔ AllPlaced arrived ∧ updated.Converts ∧
    solved.Converts ∧ (updated.HasNegative ∨ solved.HasNegative)
  counts : ∀ rows, outcome = .ok rows → ∀ row ∈ rows,
    ∃ id ∈ updated.union solved, IsRowOf updated solved id row
  nonneg : ∀ rows, outcome = .ok rows → ∀ column ∈ (Frame.ofContributions rows).columns,
    ∀ n : Int, .int n ∈ column.cells → 0 ≤ n

theorem nonneg_of_mem_columns {rows : List Contribution} {column : Column}
    (hcolumn : column ∈ (Frame.ofContributions rows).columns) {n : Int}
    (hn : .int n ∈ column.cells) : 0 ≤ n := by
  simp only [Frame.ofContributions, List.mem_cons, List.not_mem_nil, or_false] at hcolumn
  rcases hcolumn with rfl | rfl | rfl | rfl <;>
    simp [Column.inferred, Column.ofIntegers] at hn <;> obtain ⟨row, -, rfl⟩ := hn <;>
      exact Int.natCast_nonneg _

section Arrived

variable {arrived : List HelperId} {updated solved : Tally}
  (harrived : arrived.Perm (updated.union solved)) (happart : ToldApart (updated.union solved))

include harrived happart

theorem exists_contributionsFrom_iff :
    (∃ rows, contributionsFrom arrived updated solved = .ok rows) ↔ Accepted updated solved := by
  constructor
  · rintro ⟨rows, hrows⟩
    obtain ⟨helpers, hsorted, hrows⟩ := bind_eq_ok.mp hrows
    have hordered := areOrdered_of_sortItems harrived happart hsorted
    obtain ⟨hupdated, hsolved, hnonneg⟩ := (exists_tabulated_iff hordered).mp ⟨rows, hrows⟩
    exact ⟨hordered.placed.perm (harrived.symm.trans hordered.perm.symm), hupdated, hsolved, hnonneg⟩
  · rintro ⟨hplaced, hupdated, hsolved, hnonneg⟩
    obtain ⟨helpers, hsorted⟩ :=
      HelperKey.exists_sortItems_iff.mpr (allPlaced_iff.mp (hplaced.perm harrived))
    obtain ⟨rows, hrows⟩ := (exists_tabulated_iff
      (areOrdered_of_sortItems harrived happart hsorted)).mpr ⟨hupdated, hsolved, hnonneg⟩
    exact ⟨rows, bind_eq_ok.mpr ⟨helpers, hsorted, hrows⟩⟩

theorem contributionsFrom_eq_error_iff {fault : Fault} :
    contributionsFrom arrived updated solved = .error fault ↔
      Refused arrived updated solved fault := by
  constructor
  · intro h
    rcases bind_eq_error.mp h with hsorted | ⟨helpers, hsorted, htable⟩
    · obtain ⟨before, id, after, hlist, hbefore, hfault⟩ := HelperKey.sortItems_eq_error.mp hsorted
      exact .id hlist (allPlaced_iff.mpr hbefore) hfault
    · exact refused_of_tabulated (areOrdered_of_sortItems harrived happart hsorted) htable
  · intro hrefused
    -- Helpers are sorted just if they all have places, and nothing is counted before they are.
    by_cases hplaced : AllPlaced arrived
    · obtain ⟨helpers, hsorted⟩ := HelperKey.exists_sortItems_iff.mpr (allPlaced_iff.mp hplaced)
      rw [contributionsFrom, hsorted, ok_bind]
      exact tabulated_of_refused (areOrdered_of_sortItems harrived happart hsorted) hrefused
    · cases hrefused with
      | id hlist hbefore hfault =>
          have hsorted := HelperKey.sortItems_eq_error.mpr
            ⟨_, _, _, hlist, allPlaced_iff.mp hbefore, hfault⟩
          rw [contributionsFrom, hsorted, error_bind]
      | updated hplaced' => exact absurd hplaced' hplaced
      | solved hplaced' => exact absurd hplaced' hplaced
      | negative hplaced' => exact absurd hplaced' hplaced

theorem contributions_of_from {rows : List Contribution}
    (h : contributionsFrom arrived updated solved = .ok rows) :
    contributions updated solved = .ok rows := by
  have hsame := sameOutcome_from (.refl updated.entries) (.refl solved.entries) harrived
    ((ToldApart.perm_iff harrived).mpr happart)
  rw [h] at hsame
  exact hsame.eq_ok

theorem isOutcome_from :
    IsOutcome arrived updated solved (contributionsFrom arrived updated solved) where
  accepted := exists_contributionsFrom_iff harrived happart
  refused _ := contributionsFrom_eq_error_iff harrived happart
  negative := (contributionsFrom_eq_error_iff harrived happart).trans refused_negative_iff
  counts _ hrows _ := helper_of_mem (contributions_of_from harrived happart hrows)
  nonneg _ _ _ hcolumn _ := nonneg_of_mem_columns hcolumn

end Arrived

/-- Two tallies of helpers with texts of their own have rows just if they are accepted, and the reason if
not is the same in every order of the merged helpers but for the ids. -/
theorem contributions_outcome {updated solved : Tally}
    (happart : ToldApart (updated.union solved)) :
    IsOutcome (updated.union solved) updated solved (contributions updated solved) ∧
      ∀ arrived, arrived.Perm (updated.union solved) →
        IsOutcome arrived updated solved (contributionsFrom arrived updated solved) :=
  ⟨isOutcome_from (.refl _) happart, fun _ harrived => isOutcome_from harrived happart⟩

/-- One updated count is negative, and one of each tally is no whole number. -/
theorem contributions_outcome_of_mixed :
    let updated := Tally.ofList [(.number 10, .text ['x']), (.name ['2'], .int (-1))]
    let solved := Tally.ofList [(.flag true, .missing .none), (.name ['2'], .text ['3'])]
    IsOutcome (updated.union solved) updated solved (contributions updated solved) ∧
      ∀ arrived, arrived.Perm (updated.union solved) →
        IsOutcome arrived updated solved (contributionsFrom arrived updated solved) :=
  contributions_outcome (by decide +kernel)

example : contributions (.ofList [(.number 10, .text ['x']), (.name ['2'], .int (-1))])
    (.ofList [(.flag true, .missing .none), (.name ['2'], .text ['3'])]) =
      .error (.noInteger "'x'".toList) := by
  decide +kernel

end Scoreboard
