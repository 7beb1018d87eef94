import Mathlib
import Scoreboard.Proofs.HelperOrder
import Scoreboard.Proofs.HelperTexts

/-!
# Figures of solved tiles

Two frames with one tally of solved tiles agree on all but the tiles updated: helpers of both have
the same solved count and share, and stand in the same order.  What a tally of updated tiles adds
or takes away are rows of nothing solved, and they change neither the storage of the solved column
nor its total.
-/

namespace Scoreboard

open Contribution

/-- The id is spelled as the helper it stands for, as all ids but truth values are. -/
def HelperId.Plain (id : HelperId) : Prop := id.identity = id

instance (id : HelperId) : Decidable id.Plain := inferInstanceAs (Decidable (_ = _))

theorem Text.NoLater.antisymm {s t : Text} (first : s.NoLater t) (second : t.NoLater s) :
    s = t := by
  cases first with
  | below hs ht hlt =>
      cases second with
      | below | spelled => omega
      | digits | others => contradiction
  | spelled hs ht heq hle =>
      cases second with
      | below => omega
      | spelled _ _ _ hge => exact Text.le_antisymm s t hle hge
      | digits | others => contradiction
  | digits hs ht => cases second <;> contradiction
  | others hs ht hle =>
      cases second with
      | below | spelled | digits => contradiction
      | others _ _ hge => exact Text.le_antisymm s t hle hge

/-- What a row shows of the tally of solved tiles. -/
structure SolvedFigures where
  helper : Text
  solved : Nat
  share : Binary64
  deriving DecidableEq, Repr

def Contribution.solvedFigures (row : Contribution) : SolvedFigures :=
  ⟨row.helper, row.solved, row.share⟩

/-- The greater count comes first, and among equal ones the helper that is no later. -/
def SolvedFigures.Ahead (a b : SolvedFigures) : Prop :=
  b.solved < a.solved ∨ (a.solved = b.solved ∧ a.helper.NoLater b.helper)

theorem SolvedFigures.Ahead.antisymm {a b : SolvedFigures} (first : a.Ahead b)
    (second : b.Ahead a) : a.helper = b.helper := by
  rcases first with hlt | ⟨heq, hle⟩
  · rcases second with hgt | ⟨heq, -⟩ <;> omega
  · rcases second with hgt | ⟨-, hge⟩
    · omega
    · exact hle.antisymm hge

/-! ## The solved column -/

section Accepted

variable {updated solved : Tally} {rows : List Contribution}
  (h : contributions updated solved = .ok rows)

include h

/-- Rows beyond the tally of solved tiles have zeros, which every test of a column lets pass. -/
theorem all_solvedCounts_iff {p : Int → Bool} (hzero : p 0 = true) :
    (solvedCounts rows).all p = true ↔ ∀ id, p (solved.wholeCount id) = true := by
  obtain ⟨ids, hmerge, hrows⟩ := exists_merge h
  simp only [solvedCounts, List.all_map, List.all_eq_true, Function.comp_apply]
  constructor
  · intro hall id
    by_cases hknown : id.identity ∈ Tally.identities solved.entries
    · obtain ⟨other, hother, hsame⟩ :=
        List.mem_map.mp (hmerge.identities_second _ hknown)
      obtain ⟨row, hrow, hrowOf⟩ := exists_of_mem_right hrows.flip hother
      have hrowOf : IsRowOf updated solved other row := hrowOf
      have hcount : (solved.count id).toInteger = .ok (row.solved : Int) := by
        rw [← Tally.count_identity, ← hsame, Tally.count_identity, hrowOf.solved]
      rw [Tally.wholeCount_eq hcount]
      exact hall row hrow
    · have hcount : (solved.count id).toInteger = .ok 0 := by
        rw [Tally.count_of_not_mem hknown]
        rfl
      rw [Tally.wholeCount_eq hcount]
      exact hzero
  · intro hall row hrow
    obtain ⟨id, -, hrowOf⟩ := exists_of_mem_right hrows hrow
    rw [← Tally.wholeCount_eq hrowOf.solved]
    exact hall id

theorem total_solvedCounts : solved.total = .ok (solvedCounts rows).sum := by
  obtain ⟨ids, hmerge, hrows⟩ := exists_merge h
  apply Tally.total_eq hmerge.distinct hmerge.identities_second
  exact List.forall₂_map_right_iff.mpr (hrows.imp fun _ _ hrow => hrow.solved)

theorem pairwise_ahead : rows.Pairwise fun a b => a.solvedFigures.Ahead b.solvedFigures := by
  obtain ⟨ids, table, -, hordered, htable, -, rfl⟩ := contributions_eq_ok h
  exact pairwise_bySolved (pairwise_noLater hordered htable)

end Accepted

section Runs

variable {updated updated' solved : Tally} {rows rows' : List Contribution}
  (h : contributions updated solved = .ok rows) (h' : contributions updated' solved = .ok rows')

include h h'

theorem solvedStorage_eq : solvedStorage rows = solvedStorage rows' := by
  have hall {p : Int → Bool} (hzero : p 0 = true) :
      (solvedCounts rows).all p = (solvedCounts rows').all p := by
    rw [Bool.eq_iff_iff, all_solvedCounts_iff h hzero, all_solvedCounts_iff h' hzero]
  unfold solvedStorage Storage.ofIntegers
  rw [hall (by decide), hall (by decide)]

theorem storedTotal_eq : storedTotal rows = storedTotal rows' := by
  have hsum : (solvedCounts rows).sum = (solvedCounts rows').sum :=
    Except.ok.inj ((total_solvedCounts h).symm.trans (total_solvedCounts h'))
  rw [List.sum_eq_foldr, List.sum_eq_foldr] at hsum
  unfold storedTotal Storage.sum
  rw [solvedStorage_eq h h', hsum]

end Runs

/-! ## Rows with their helpers -/

/-- Each row with the merged helper that it is for. -/
structure Labels (updated solved : Tally) (rows : List Contribution)
    (labelled : List (HelperId × Contribution)) : Prop where
  rows : labelled.map (·.2) = rows
  merge : Tally.IsMerge updated solved (labelled.map (·.1))
  rowOf : ∀ entry ∈ labelled, IsRowOf updated solved entry.1 entry.2

theorem exists_labels {updated solved : Tally} {rows : List Contribution}
    (h : contributions updated solved = .ok rows) :
    ∃ labelled, Labels updated solved rows labelled := by
  obtain ⟨ids, hmerge, hrows⟩ := exists_merge h
  refine ⟨ids.zip rows, ?_, ?_, ?_⟩
  · exact List.map_snd_zip hrows.length_eq.ge
  · rwa [List.map_fst_zip hrows.length_eq.le]
  · exact fun entry hentry => (List.forall₂_iff_zip.mp hrows).2 hentry

/-- The figures of the helpers that have a row among the others too, in order. -/
def sharedFigures (labelled others : List (HelperId × Contribution)) :
    List (HelperId × SolvedFigures) :=
  (labelled.filter fun entry => entry.1 ∈ others.map (·.1)).map fun entry =>
    (entry.1, entry.2.solvedFigures)

/-- Helpers of both frames have the same figures and order, and all others solved nothing. -/
structure AgreeOnSolved (labelled labelled' : List (HelperId × Contribution)) : Prop where
  shared : sharedFigures labelled labelled' = sharedFigures labelled' labelled
  dropped : ∀ entry ∈ labelled, entry.1 ∉ labelled'.map (·.1) → entry.2.solved = 0
  inserted : ∀ entry ∈ labelled', entry.1 ∉ labelled.map (·.1) → entry.2.solved = 0

theorem mem_sharedFigures {labelled others : List (HelperId × Contribution)}
    {figures : HelperId × SolvedFigures} :
    figures ∈ sharedFigures labelled others ↔
      ∃ entry ∈ labelled, entry.1 ∈ others.map (·.1) ∧
        (entry.1, entry.2.solvedFigures) = figures := by
  simp only [sharedFigures, List.mem_map, List.mem_filter, decide_eq_true_eq, and_assoc]

namespace Labels

variable {updated updated' solved : Tally} {rows rows' : List Contribution}
  {labelled labelled' : List (HelperId × Contribution)}

theorem nodup_sharedFigures (hlabels : Labels updated solved rows labelled)
    (others : List (HelperId × Contribution)) : (sharedFigures labelled others).Nodup := by
  have hids : (labelled.map (·.1)).Nodup := hlabels.merge.distinct.of_map
  have hshared : ((sharedFigures labelled others).map (·.1)).Nodup := by
    rw [sharedFigures, List.map_map]
    exact hids.sublist (List.filter_sublist.map _)
  exact hshared.of_map

theorem row_mem (hlabels : Labels updated solved rows labelled) {entry : HelperId × Contribution}
    (hentry : entry ∈ labelled) : entry.2 ∈ rows := by
  rw [← hlabels.rows]
  exact List.mem_map_of_mem hentry

theorem pairwise_sharedFigures (hlabels : Labels updated solved rows labelled)
    (h : contributions updated solved = .ok rows) (others : List (HelperId × Contribution)) :
    (sharedFigures labelled others).Pairwise fun a b => a.2.Ahead b.2 := by
  have hrows := pairwise_ahead h
  rw [← hlabels.rows, List.pairwise_map] at hrows
  rw [sharedFigures, List.pairwise_map]
  exact hrows.sublist List.filter_sublist

section Runs

variable (h : contributions updated solved = .ok rows)
  (h' : contributions updated' solved = .ok rows')
  (hlabels : Labels updated solved rows labelled)
  (hlabels' : Labels updated' solved rows' labelled')

include h h' hlabels hlabels'

theorem solvedFigures_eq {entry entry' : HelperId × Contribution} (hentry : entry ∈ labelled)
    (hentry' : entry' ∈ labelled') (hid : entry.1 = entry'.1) :
    entry.2.solvedFigures = entry'.2.solvedFigures := by
  have hrow := hlabels.rowOf entry hentry
  have hrow' := hlabels'.rowOf entry' hentry'
  rw [← hid] at hrow'
  have hhelper : entry.2.helper = entry'.2.helper :=
    Except.ok.inj (hrow.helper.symm.trans hrow'.helper)
  have hsolved : entry.2.solved = entry'.2.solved :=
    Int.ofNat.inj (Except.ok.inj (hrow.solved.symm.trans hrow'.solved))
  have hshare : entry.2.share = entry'.2.share := by
    rw [share_of_mem h (hlabels.row_mem hentry), share_of_mem h' (hlabels'.row_mem hentry'),
      solvedStorage_eq h h', storedTotal_eq h h', hsolved]
  rw [solvedFigures, solvedFigures, hhelper, hsolved, hshare]

theorem sharedFigures_subset :
    sharedFigures labelled labelled' ⊆ sharedFigures labelled' labelled := by
  intro figures hfigures
  obtain ⟨entry, hentry, hshared, rfl⟩ := mem_sharedFigures.mp hfigures
  obtain ⟨entry', hentry', hid⟩ := List.mem_map.mp hshared
  have heq := hlabels.solvedFigures_eq h h' hlabels' hentry hentry' hid.symm
  refine mem_sharedFigures.mpr ⟨entry', hentry', ?_, ?_⟩
  · rw [hid]
    exact List.mem_map_of_mem hentry
  · rw [hid, heq]

theorem shared_eq {ids : List HelperId} (happart : HelperId.ToldApart ids)
    (hsubset : labelled.map (·.1) ⊆ ids) (hsubset' : labelled'.map (·.1) ⊆ ids) :
    sharedFigures labelled labelled' = sharedFigures labelled' labelled := by
  have hperm : (sharedFigures labelled labelled').Perm (sharedFigures labelled' labelled) := by
    rw [List.perm_ext_iff_of_nodup (hlabels.nodup_sharedFigures _) (hlabels'.nodup_sharedFigures _)]
    intro figures
    constructor
    · exact fun hmem => hlabels.sharedFigures_subset h h' hlabels' hmem
    · exact fun hmem => hlabels'.sharedFigures_subset h' h hlabels hmem
  refine hperm.eq_of_pairwise ?_ (hlabels.pairwise_sharedFigures h _)
    (hlabels'.pairwise_sharedFigures h' _)
  intro a b ha hb hab hba
  obtain ⟨entry, hentry, -, rfl⟩ := mem_sharedFigures.mp ha
  obtain ⟨entry', hentry', -, rfl⟩ := mem_sharedFigures.mp hb
  have hhelper : entry.2.helper = entry'.2.helper := hab.antisymm hba
  have hid : entry.1 = entry'.1 := by
    apply happart entry.1 _ entry'.1 _ entry.2.helper (hlabels.rowOf entry hentry).helper
    · rw [hhelper, (hlabels'.rowOf entry' hentry').helper]
    · exact hsubset (List.mem_map_of_mem hentry)
    · exact hsubset' (List.mem_map_of_mem hentry')
  rw [hid, hlabels.solvedFigures_eq h h' hlabels' hentry hentry' hid]

end Runs

theorem subset_helpers (hlabels : Labels updated solved rows labelled) :
    labelled.map (·.1) ⊆ updated.helpers ++ solved.helpers := by
  intro id hid
  rw [List.mem_append]
  exact ((hlabels.merge.mem_iff id).mp hid).imp_right And.left

/-- A helper that solved something is in the tally that both frames are of. -/
theorem solved_eq_zero (hlabels : Labels updated solved rows labelled)
    (hlabels' : Labels updated' solved rows' labelled')
    (hplain : ∀ id ∈ labelled.map (·.1), id.Plain) (hplain' : ∀ id ∈ labelled'.map (·.1), id.Plain)
    {entry : HelperId × Contribution} (hentry : entry ∈ labelled)
    (hmissing : entry.1 ∉ labelled'.map (·.1)) : entry.2.solved = 0 := by
  have hunknown : entry.1.identity ∉ Tally.identities solved.entries := by
    intro hknown
    obtain ⟨id, hid, hsame⟩ :=
      List.mem_map.mp (hlabels'.merge.identities_second _ hknown)
    have heq : id = entry.1 := by
      rw [← hplain' id hid, hsame, hplain entry.1 (List.mem_map_of_mem hentry)]
    exact hmissing (heq ▸ hid)
  have hcount := (hlabels.rowOf entry hentry).solved
  rw [Tally.count_of_not_mem hunknown] at hcount
  exact (Int.ofNat.inj (Except.ok.inj hcount)).symm

end Labels

/-- What a frame shows of solved tiles does not depend on the tally of updated ones. -/
theorem solvedFigures_independent {updated updated' solved : Tally} {rows rows' : List Contribution}
    (h : contributions updated solved = .ok rows) (h' : contributions updated' solved = .ok rows')
    (hplain : ∀ id ∈ updated.helpers ++ updated'.helpers ++ solved.helpers, id.Plain)
    (happart : HelperId.ToldApart (updated.helpers ++ updated'.helpers ++ solved.helpers)) :
    ∃ labelled labelled', Labels updated solved rows labelled ∧
      Labels updated' solved rows' labelled' ∧ AgreeOnSolved labelled labelled' := by
  obtain ⟨labelled, hlabels⟩ := exists_labels h
  obtain ⟨labelled', hlabels'⟩ := exists_labels h'
  have hsubset : labelled.map (·.1) ⊆ updated.helpers ++ updated'.helpers ++ solved.helpers := by
    apply List.Subset.trans hlabels.subset_helpers
    simp
  have hsubset' : labelled'.map (·.1) ⊆ updated.helpers ++ updated'.helpers ++ solved.helpers := by
    apply List.Subset.trans hlabels'.subset_helpers
    simp
  have hplain₁ : ∀ id ∈ labelled.map (·.1), id.Plain := fun id hid => hplain id (hsubset hid)
  have hplain₂ : ∀ id ∈ labelled'.map (·.1), id.Plain := fun id hid => hplain id (hsubset' hid)
  refine ⟨labelled, labelled', hlabels, hlabels', ?_, ?_, ?_⟩
  · exact hlabels.shared_eq h h' hlabels' happart hsubset hsubset'
  · exact fun entry hentry => hlabels.solved_eq_zero hlabels' hplain₁ hplain₂ hentry
  · exact fun entry hentry => hlabels'.solved_eq_zero hlabels hplain₂ hplain₁ hentry

/-- One helper loses its row and another one gets one, in a column that only unsigned words hold. -/
theorem solvedFigures_independent_of_new_helper :
    ∃ rows rows', contributions (.ofList [(.name ['x'], .int 5), (.number 10, .int 2)])
        (.ofList [(.number 10, .int 4), (.name ['9'], .int 4), (.name ['a'], .int (2 ^ 63))]) =
          .ok rows ∧
      contributions (.ofList [(.name ['b'], .int 7)])
        (.ofList [(.number 10, .int 4), (.name ['9'], .int 4), (.name ['a'], .int (2 ^ 63))]) =
          .ok rows' ∧
      rows.map (·.helper) = [['a'], ['9'], "10".toList, ['x']] ∧
      rows'.map (·.helper) = [['a'], ['9'], "10".toList, ['b']] ∧
      ∃ labelled labelled',
        Labels (.ofList [(.name ['x'], .int 5), (.number 10, .int 2)])
          (.ofList [(.number 10, .int 4), (.name ['9'], .int 4), (.name ['a'], .int (2 ^ 63))])
          rows labelled ∧
        Labels (.ofList [(.name ['b'], .int 7)])
          (.ofList [(.number 10, .int 4), (.name ['9'], .int 4), (.name ['a'], .int (2 ^ 63))])
          rows' labelled' ∧ AgreeOnSolved labelled labelled' := by
  have hrows : (contributions (.ofList [(.name ['x'], .int 5), (.number 10, .int 2)])
      (.ofList [(.number 10, .int 4), (.name ['9'], .int 4), (.name ['a'], .int (2 ^ 63))])).map
        (List.map (·.helper)) = .ok [['a'], ['9'], "10".toList, ['x']] := by
    decide +kernel
  have hrows' : (contributions (.ofList [(.name ['b'], .int 7)])
      (.ofList [(.number 10, .int 4), (.name ['9'], .int 4), (.name ['a'], .int (2 ^ 63))])).map
        (List.map (·.helper)) = .ok [['a'], ['9'], "10".toList, ['b']] := by
    decide +kernel
  obtain ⟨rows, h, hhelpers⟩ := map_eq_ok.mp hrows
  obtain ⟨rows', h', hhelpers'⟩ := map_eq_ok.mp hrows'
  exact ⟨rows, rows', h, h', hhelpers, hhelpers',
    solvedFigures_independent h h' (by decide +kernel) (by decide +kernel)⟩

end Scoreboard
