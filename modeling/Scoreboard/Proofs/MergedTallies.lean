import Mathlib
import Scoreboard.Proofs.Contributions

/-!
# One row for each helper

Two tallies are merged by helper, not by id: a helper of both goes by its id in the first one.  The
rows are those of the merged helpers, one each, and what a column of counts adds up to is what the
counts of its tally add up to, since a helper that is missing from a tally counts nothing there.
-/

namespace Scoreboard

namespace Tally

/-! ## Helpers of two tallies -/

theorem contains_iff {tally : Tally} {id : HelperId} :
    tally.contains id = true ↔ id.identity ∈ identities tally.entries := by
  simp only [contains, helpers, identities, List.any_map, List.any_eq_true, Function.comp_apply,
    decide_eq_true_eq, List.mem_map]

theorem map_identity_helpers (tally : Tally) :
    tally.helpers.map HelperId.identity = identities tally.entries := by
  simp [helpers, identities]

/-- Each helper of the two tallies once, by its id in the first one if that one knows it. -/
structure IsMerge (first second : Tally) (ids : List HelperId) : Prop where
  mem_iff : ∀ id, id ∈ ids ↔
    id ∈ first.helpers ∨ (id ∈ second.helpers ∧ first.contains id = false)
  distinct : (ids.map HelperId.identity).Nodup

theorem isMerge_union (first second : Tally) : IsMerge first second (first.union second) := by
  constructor
  · simp [union]
  · have hothers : ((second.helpers.filter fun id => !first.contains id).map
        HelperId.identity).Nodup := by
      have hsub := (List.filter_sublist (p := fun id => !first.contains id)
        (l := second.helpers)).map HelperId.identity
      rw [map_identity_helpers] at hsub
      exact second.distinct.sublist hsub
    rw [union, List.map_append, map_identity_helpers, List.nodup_append']
    refine ⟨first.distinct, hothers, ?_⟩
    intro identity hfirst hsecond
    obtain ⟨id, hid, rfl⟩ := List.mem_map.mp hsecond
    have hunknown := (List.mem_filter.mp hid).2
    rw [contains_iff.mpr hfirst] at hunknown
    cases hunknown

theorem IsMerge.perm {first second : Tally} {ids others : List HelperId}
    (h : IsMerge first second ids) (hperm : others.Perm ids) : IsMerge first second others where
  mem_iff id := hperm.mem_iff.trans (h.mem_iff id)
  distinct := (hperm.map HelperId.identity).nodup_iff.mpr h.distinct

variable {first second : Tally} {ids : List HelperId}

theorem IsMerge.identities_first (h : IsMerge first second ids) :
    ∀ identity ∈ identities first.entries, identity ∈ ids.map HelperId.identity := by
  intro identity hidentity
  rw [← map_identity_helpers] at hidentity
  obtain ⟨id, hid, rfl⟩ := List.mem_map.mp hidentity
  exact List.mem_map_of_mem ((h.mem_iff id).mpr (.inl hid))

theorem IsMerge.identities_second (h : IsMerge first second ids) :
    ∀ identity ∈ identities second.entries, identity ∈ ids.map HelperId.identity := by
  intro identity hidentity
  rw [← map_identity_helpers] at hidentity
  obtain ⟨id, hid, rfl⟩ := List.mem_map.mp hidentity
  by_cases hknown : first.contains id = true
  · exact h.identities_first _ (contains_iff.mp hknown)
  · exact List.mem_map_of_mem ((h.mem_iff id).mpr (.inr ⟨hid, by simpa using hknown⟩))

/-! ## Counts that add up -/

/-- The sum of all counts, each as a whole number. -/
def total (tally : Tally) : Except Fault Int := do
  return (← tally.entries.mapM fun entry => entry.2.toInteger).sum

theorem count_identity (tally : Tally) (id : HelperId) : tally.count id.identity = tally.count id := by
  simp only [count, HelperId.identity_identity]

theorem count_of_mem {tally : Tally} {entry : HelperId × Value} (h : entry ∈ tally.entries) :
    tally.count entry.1 = entry.2 := by
  have hunique : ∀ other ∈ tally.entries, other.1.identity = entry.1.identity → other = entry :=
    fun other hother => List.inj_on_of_nodup_map tally.distinct hother h
  unfold count
  split
  · next found hfound =>
      have hsame := List.find?_some hfound
      rw [hunique found (List.mem_of_find?_eq_some hfound) (of_decide_eq_true hsame)]
  · next hnone =>
      have := List.find?_eq_none.mp hnone entry h
      simp at this

theorem count_of_not_mem {tally : Tally} {id : HelperId}
    (h : id.identity ∉ identities tally.entries) : tally.count id = .int 0 := by
  have hnone : tally.entries.find? (fun entry => entry.1.identity = id.identity) = none := by
    rw [List.find?_eq_none]
    intro entry hentry hsame
    exact h (List.mem_map.mpr ⟨entry, hentry, of_decide_eq_true hsame⟩)
  rw [count, hnone]

/-- The count of a helper as a whole number, zero if it is none. -/
def wholeCount (tally : Tally) (id : HelperId) : Int :=
  (tally.count id).toInteger.toOption.getD 0

theorem wholeCount_eq {tally : Tally} {id : HelperId} {count : Int}
    (h : (tally.count id).toInteger = .ok count) : tally.wholeCount id = count := by
  rw [wholeCount, h]
  rfl

theorem map_wholeCount (tally : Tally) (ids : List HelperId) :
    (ids.map HelperId.identity).map tally.wholeCount = ids.map tally.wholeCount := by
  rw [List.map_map]
  apply List.map_congr_left
  intro id _
  rw [Function.comp_apply, wholeCount, count_identity, wholeCount]

theorem sum_wholeCount {tally : Tally} {ids : List HelperId}
    (hdistinct : (ids.map HelperId.identity).Nodup)
    (hcovers : ∀ identity ∈ identities tally.entries, identity ∈ ids.map HelperId.identity) :
    (ids.map tally.wholeCount).sum = (tally.helpers.map tally.wholeCount).sum := by
  rw [← map_wholeCount tally ids, ← map_wholeCount tally tally.helpers, map_identity_helpers,
    ← List.sum_toFinset _ hdistinct, ← List.sum_toFinset _ tally.distinct]
  refine (Finset.sum_subset ?_ ?_).symm
  · intro identity hidentity
    rw [List.mem_toFinset] at hidentity ⊢
    exact hcovers identity hidentity
  · intro identity hidentity hunknown
    obtain ⟨id, -, rfl⟩ := List.mem_map.mp (List.mem_toFinset.mp hidentity)
    rw [List.mem_toFinset, ← id.identity_identity] at hunknown
    exact wholeCount_eq (by rw [count_of_not_mem hunknown]; rfl)

/-- Counts of all helpers of a tally are there just if its own entries have them. -/
theorem toInteger_entry {tally : Tally} {ids : List HelperId} {counts : List Int}
    (hcovers : ∀ identity ∈ identities tally.entries, identity ∈ ids.map HelperId.identity)
    (hcounts : List.Forall₂ (fun id count => (tally.count id).toInteger = .ok count) ids counts) :
    ∀ entry ∈ tally.entries, entry.2.toInteger = .ok (tally.wholeCount entry.1) := by
  intro entry hentry
  obtain ⟨id, hid, hsame⟩ := List.mem_map.mp (hcovers _ (List.mem_map_of_mem hentry))
  obtain ⟨count, -, hcount⟩ := exists_of_mem_right hcounts.flip hid
  have hkept : tally.count id = entry.2 := by
    rw [← count_identity, hsame, count_identity, count_of_mem hentry]
  have hwhole : tally.wholeCount entry.1 = count :=
    wholeCount_eq (by rw [count_of_mem hentry, ← hkept, hcount])
  rw [← hkept, hcount, hwhole]

theorem total_eq {tally : Tally} {ids : List HelperId} {counts : List Int}
    (hdistinct : (ids.map HelperId.identity).Nodup)
    (hcovers : ∀ identity ∈ identities tally.entries, identity ∈ ids.map HelperId.identity)
    (hcounts : List.Forall₂ (fun id count => (tally.count id).toInteger = .ok count) ids counts) :
    tally.total = .ok counts.sum := by
  have hwhole : counts = ids.map tally.wholeCount := by
    rw [← List.forall₂_eq_eq_eq, List.forall₂_map_right_iff]
    exact hcounts.flip.imp fun count id hcount => (wholeCount_eq hcount).symm
  have hmapM := mapM_ok (toInteger_entry hcovers hcounts)
  rw [total, hmapM, hwhole, sum_wholeCount hdistinct hcovers, helpers, List.map_map]
  rfl

end Tally

/-! ## Rows of a frame -/

def Contribution.cells (row : Contribution) : List Value :=
  [.text row.helper, .int row.updated, .int row.solved, .float row.share]

theorem Frame.rows_ofContributions (rows : List Contribution) :
    (Frame.ofContributions rows).rows = rows.map Contribution.cells := by
  apply List.ext_getElem
  · simp [Frame.rows, Frame.height, Frame.ofContributions, Column.inferred]
  · intro i hi hrow
    rw [List.length_map] at hrow
    simp [Frame.rows, Frame.row, Frame.ofContributions, Column.inferred, Column.ofIntegers,
      Contribution.cells, hrow]

open Contribution Tally

theorem exists_merge {updated solved : Tally} {rows : List Contribution}
    (h : contributions updated solved = .ok rows) :
    ∃ ids, IsMerge updated solved ids ∧ List.Forall₂ (IsRowOf updated solved) ids rows := by
  obtain ⟨arrived, table, harrived, -, htable, -, rfl⟩ := contributions_eq_ok h
  obtain ⟨ids, hids, hrows⟩ : Relation.Comp List.Perm (List.Forall₂ (IsRowOf updated solved))
      arrived (bySolved table) := by
    rw [← List.forall₂_comp_perm_eq_perm_comp_forall₂]
    exact ⟨table, htable, (bySolved_perm table).symm⟩
  exact ⟨ids, (isMerge_union updated solved).perm (hids.symm.trans harrived), hrows⟩

/-- Each merged helper has one row, and the columns of counts add up to the totals of the tallies. -/
theorem rows_of_merge {updated solved : Tally} {rows : List Contribution}
    (h : contributions updated solved = .ok rows) :
    (∃ ids, IsMerge updated solved ids ∧ List.Forall₂ (IsRowOf updated solved) ids rows) ∧
      (Frame.ofContributions rows).rows = rows.map Contribution.cells ∧
      updated.total = .ok (rows.map fun row => (row.updated : Int)).sum ∧
      solved.total = .ok (rows.map fun row => (row.solved : Int)).sum := by
  obtain ⟨ids, hmerge, hrows⟩ := exists_merge h
  refine ⟨⟨ids, hmerge, hrows⟩, Frame.rows_ofContributions rows, ?_, ?_⟩
  · apply total_eq hmerge.distinct hmerge.identities_first
    exact List.forall₂_map_right_iff.mpr (hrows.imp fun _ _ hrow => hrow.updated)
  · apply total_eq hmerge.distinct hmerge.identities_second
    exact List.forall₂_map_right_iff.mpr (hrows.imp fun _ _ hrow => hrow.solved)

/-- A truth value and the number it stands for are one helper, a text of that number another one. -/
theorem rows_of_merge_of_flag :
    ∃ rows, contributions (.ofList [(.flag true, .int 2), (.name ['a'], .int 5)])
        (.ofList [(.number 1, .text ['3']), (.name ['1'], .int 4)]) = .ok rows ∧
      rows.map (fun row => (row.helper, row.updated, row.solved)) =
        [(['1'], 0, 4), ("True".toList, 2, 3), (['a'], 5, 0)] ∧
      (∃ ids, IsMerge (.ofList [(.flag true, .int 2), (.name ['a'], .int 5)])
          (.ofList [(.number 1, .text ['3']), (.name ['1'], .int 4)]) ids ∧
        List.Forall₂ (IsRowOf (.ofList [(.flag true, .int 2), (.name ['a'], .int 5)])
          (.ofList [(.number 1, .text ['3']), (.name ['1'], .int 4)])) ids rows) ∧
      (Frame.ofContributions rows).rows = rows.map Contribution.cells ∧
      (Tally.ofList [(.flag true, .int 2), (.name ['a'], .int 5)]).total =
        .ok (rows.map fun row => (row.updated : Int)).sum ∧
      (Tally.ofList [(.number 1, .text ['3']), (.name ['1'], .int 4)]).total =
        .ok (rows.map fun row => (row.solved : Int)).sum := by
  have hrows : (contributions (.ofList [(.flag true, .int 2), (.name ['a'], .int 5)])
      (.ofList [(.number 1, .text ['3']), (.name ['1'], .int 4)])).map
        (List.map fun row => (row.helper, row.updated, row.solved)) =
      .ok [(['1'], 0, 4), ("True".toList, 2, 3), (['a'], 5, 0)] := by
    decide +kernel
  obtain ⟨rows, h, hcells⟩ := map_eq_ok.mp hrows
  exact ⟨rows, h, hcells, rows_of_merge h⟩

end Scoreboard
