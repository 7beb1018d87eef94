import Mathlib
import Scoreboard.Contribution
import Scoreboard.Proofs.Outcome

/-!
# Rows of contributions

Contributions that have an outcome are one row for each helper of the two tallies.  A row holds the
text of its helper and the counts of both tallies as whole numbers; its share follows from the
solved counts of all rows alone, whatever their order.
-/

namespace Scoreboard

/-! ## Helpers in order -/

namespace HelperKey

variable {α : Type} {key : α → Except Fault HelperKey} {items : List α}
  {keyed : List (HelperKey × α)}

theorem keyed_eq_ok
    (h : items.mapM (fun item => do return (← key item, item)) = .ok keyed) :
    keyed.map (·.2) = items ∧ ∀ entry ∈ keyed, key entry.2 = .ok entry.1 := by
  induction mapM_eq_ok.mp h with
  | nil => simp
  | cons hentry hentries ih =>
      obtain ⟨place, hplace, heq⟩ := bind_eq_ok.mp hentry
      cases heq
      obtain ⟨hitems, hkeys⟩ := ih (mapM_eq_ok.mpr hentries)
      simp only [List.map_cons, hitems, List.mem_cons, forall_eq_or_imp, true_and]
      exact ⟨hplace, hkeys⟩

theorem sortItems_eq_ok (h : sortItems key items = .ok keyed) :
    (keyed.map (·.2)).Perm items ∧ (∀ entry ∈ keyed, key entry.2 = .ok entry.1) ∧
      keyed.Pairwise fun a b => a.1.le b.1 = true := by
  obtain ⟨arrived, harrived, hsorted⟩ := bind_eq_ok.mp h
  cases hsorted
  obtain ⟨hitems, hkeys⟩ := keyed_eq_ok harrived
  refine ⟨?_, ?_, pairwise_inOrder (fun a b => le_total a.1 b.1)
    (fun a b c => le_trans a.1 b.1 c.1) arrived⟩
  · rw [← hitems]
    exact (inOrder_perm _ arrived).map _
  · intro entry hentry
    exact hkeys entry (mem_inOrder.mp hentry)

theorem pairwise_places (hkeys : ∀ entry ∈ keyed, key entry.2 = .ok entry.1)
    (hordered : keyed.Pairwise fun a b => a.1.le b.1 = true) :
    (keyed.map (·.2)).Pairwise fun a b =>
      ∃ p q, key a = .ok p ∧ key b = .ok q ∧ p.le q = true := by
  rw [List.pairwise_map]
  apply hordered.imp_of_mem
  intro a b ha hb hle
  exact ⟨a.1, b.1, hkeys a ha, hkeys b hb, hle⟩

theorem text_of_ofText {text : Text} {place : HelperKey} (h : ofText text = .ok place) :
    place.text = text := by
  unfold ofText at h
  split at h
  · obtain ⟨n, -, heq⟩ := bind_eq_ok.mp h
    cases heq
    rfl
  · cases h
    rfl

theorem plainText_of_ofValue {value : Value} {place : HelperKey} (h : ofValue value = .ok place) :
    value.plainText = .ok place.text := by
  obtain ⟨text, htext, hplace⟩ := bind_eq_ok.mp h
  rw [text_of_ofText hplace]
  exact htext

theorem text_of_ofValue {id : HelperId} {place : HelperKey}
    (h : ofValue id.toValue = .ok place) : id.text = .ok place.text :=
  plainText_of_ofValue h

end HelperKey

/-- Both helpers have a place, and the first one stands no later. -/
def HelperId.Precedes (a b : HelperId) : Prop :=
  ∃ p q, HelperKey.ofValue a.toValue = .ok p ∧ HelperKey.ofValue b.toValue = .ok q ∧ p.le q = true

theorem HelperKey.pairwise_precedes {helpers : List (HelperKey × HelperId)}
    (hkeys : ∀ entry ∈ helpers, ofValue entry.2.toValue = .ok entry.1)
    (hordered : helpers.Pairwise fun a b => a.1.le b.1 = true) :
    (helpers.map (·.2)).Pairwise HelperId.Precedes :=
  pairwise_places hkeys hordered

namespace Contribution

/-! ## Columns of rows -/

def solvedCounts (rows : List Contribution) : List Int := rows.map fun row => (row.solved : Int)

theorem solvedCounts_eq (rows : List Contribution) :
    solvedCounts rows = (rows.map (·.solved)).map Int.ofNat := by
  simp [solvedCounts]

def solvedStorage (rows : List Contribution) : Storage := .ofIntegers (solvedCounts rows)

/-- The total of the solved column, as its storage adds it up. -/
def storedTotal (rows : List Contribution) : Int := (solvedStorage rows).sum (solvedCounts rows)

/-- The row has the text and the counts of this helper. -/
structure IsRowOf (updated solved : Tally) (id : HelperId) (row : Contribution) : Prop where
  helper : id.text = .ok row.helper
  updated : (updated.count id).toInteger = .ok (row.updated : Int)
  solved : (solved.count id).toInteger = .ok (row.solved : Int)

theorem solvedStorage_perm {rows others : List Contribution} (h : rows.Perm others) :
    solvedStorage rows = solvedStorage others := by
  have hcounts : (solvedCounts rows).Perm (solvedCounts others) := h.map _
  unfold solvedStorage Storage.ofIntegers
  rw [hcounts.all_eq, hcounts.all_eq]

theorem storedTotal_perm {rows others : List Contribution} (h : rows.Perm others) :
    storedTotal rows = storedTotal others := by
  have hcounts : (solvedCounts rows).Perm (solvedCounts others) := h.map _
  have hsum : (solvedCounts rows).foldr (· + ·) 0 = (solvedCounts others).foldr (· + ·) 0 :=
    hcounts.foldr_eq 0
  unfold storedTotal Storage.sum
  rw [solvedStorage_perm h, hsum]

theorem bySolved_perm (rows : List Contribution) : (bySolved rows).Perm rows :=
  inOrder_perm _ rows

/-- Rows with equal counts stand as they arrived. -/
theorem pairwise_bySolved {r : Contribution → Contribution → Prop} {rows : List Contribution}
    (arrived : rows.Pairwise r) :
    (bySolved rows).Pairwise fun a b => b.solved < a.solved ∨ (a.solved = b.solved ∧ r a b) := by
  have hordered : (bySolved rows).Pairwise fun a b =>
      decide (b.solved ≤ a.solved) = true ∧ (decide (a.solved ≤ b.solved) = true → r a b) := by
    apply pairwise_inOrder_stable _ _ arrived
    · intro a b
      simpa using Nat.le_total b.solved a.solved
    · intro a b c hab hbc
      simp only [decide_eq_true_eq] at *
      exact hbc.trans hab
  apply hordered.imp
  rintro a b ⟨hle, hstays⟩
  simp only [decide_eq_true_eq] at hle hstays
  rcases hle.lt_or_eq with hlt | heq
  · exact .inl hlt
  · exact .inr ⟨heq.symm, hstays heq.ge⟩

/-! ## Rows before they are ordered -/

private theorem forall₂_rows {updated solved : Tally} (share : Nat → Binary64)
    {helpers : List (HelperKey × HelperId)} {updatedCounts solvedCounts : List Int}
    (htexts : ∀ entry ∈ helpers, entry.2.text = .ok entry.1.text)
    (hupdated : List.Forall₂ (fun id count => (updated.count id).toInteger = .ok count)
      (helpers.map (·.2)) updatedCounts)
    (hsolved : List.Forall₂ (fun id count => (solved.count id).toInteger = .ok count)
      (helpers.map (·.2)) solvedCounts)
    (hnonneg : ∀ count ∈ updatedCounts ++ solvedCounts, 0 ≤ count) :
    List.Forall₂ (IsRowOf updated solved) (helpers.map (·.2))
      (((helpers.map (·.1.text)).zip ((updatedCounts.map Int.toNat).zip
        (solvedCounts.map Int.toNat))).map fun (helper, updated, solved) =>
          ⟨helper, updated, solved, share solved⟩) := by
  induction helpers generalizing updatedCounts solvedCounts with
  | nil => exact .nil
  | cons entry helpers ih =>
      cases hupdated with
      | cons hu hus =>
          cases hsolved with
          | cons hs hss =>
              refine .cons ⟨htexts entry (by simp), ?_, ?_⟩ (ih ?_ hus hss ?_)
              · rw [hu, Int.toNat_of_nonneg (hnonneg _ (by simp))]
              · rw [hs, Int.toNat_of_nonneg (hnonneg _ (by simp))]
              · exact fun other hother => htexts other (by simp [hother])
              · intro count hcount
                apply hnonneg
                simp only [List.mem_append, List.mem_cons] at hcount ⊢
                tauto

private theorem solved_rows (share : Nat → Binary64) {helpers : List Text}
    {updated solved : List Nat} (hu : helpers.length = updated.length)
    (hs : helpers.length = solved.length) :
    ((helpers.zip (updated.zip solved)).map fun (helper, updated, solved) =>
      (⟨helper, updated, solved, share solved⟩ : Contribution)).map (·.solved) = solved := by
  induction helpers generalizing updated solved with
  | nil => simpa [eq_comm] using hs
  | cons helper helpers ih =>
      cases updated with
      | nil => simp at hu
      | cons u updated =>
          cases solved with
          | nil => simp at hs
          | cons s solved => simpa using ih (by simpa using hu) (by simpa using hs)

end Contribution

open Contribution

theorem contributions_eq_ok {updated solved : Tally} {rows : List Contribution}
    (h : contributions updated solved = .ok rows) :
    ∃ ids table, ids.Perm (updated.union solved) ∧ ids.Pairwise HelperId.Precedes ∧
      List.Forall₂ (IsRowOf updated solved) ids table ∧
      (∀ row ∈ table, row.share = shareOf (solvedStorage table) (storedTotal table) row.solved) ∧
      rows = bySolved table := by
  obtain ⟨helpers, hsorted, h⟩ := bind_eq_ok.mp h
  obtain ⟨updatedCounts, hupdated, h⟩ := bind_eq_ok.mp h
  obtain ⟨counts, hsolved, h⟩ := bind_eq_ok.mp h
  obtain ⟨hperm, hkeys, hordered⟩ := HelperKey.sortItems_eq_ok hsorted
  dsimp only at h
  split at h
  · cases h
  rename_i hnonneg
  cases h
  have hu := mapM_eq_ok.mp hupdated
  have hs := mapM_eq_ok.mp hsolved
  refine ⟨helpers.map (·.2), _, hperm, HelperKey.pairwise_precedes hkeys hordered,
    forall₂_rows _ ?_ hu hs ?_, ?_, rfl⟩
  · exact fun entry hentry => HelperKey.text_of_ofValue (hkeys entry hentry)
  · intro count hcount
    by_contra hneg
    exact hnonneg (List.any_eq_true.mpr ⟨count, hcount, by simpa using hneg⟩)
  · have hcounts : solvedCounts (unordered (helpers.map (·.1.text)) (updatedCounts.map Int.toNat)
        (counts.map Int.toNat)) = (counts.map Int.toNat).map Int.ofNat := by
      have hlength : (helpers.map (·.1.text)).length = (updatedCounts.map Int.toNat).length ∧
          (helpers.map (·.1.text)).length = (counts.map Int.toNat).length := by
        simpa using And.intro hu.length_eq hs.length_eq
      rw [solvedCounts_eq]
      exact congrArg (List.map Int.ofNat) (solved_rows _ hlength.1 hlength.2)
    intro row hrow
    obtain ⟨⟨helper, updated, count⟩, -, rfl⟩ := List.mem_map.mp hrow
    unfold storedTotal solvedStorage
    rw [hcounts]

section Accepted

variable {updated solved : Tally} {rows : List Contribution}
  (h : contributions updated solved = .ok rows)

include h

theorem helper_of_mem {row : Contribution} (hrow : row ∈ rows) :
    ∃ id ∈ updated.union solved, IsRowOf updated solved id row := by
  obtain ⟨ids, table, hids, -, htable, -, rfl⟩ := contributions_eq_ok h
  obtain ⟨id, hid, hrowOf⟩ := exists_of_mem_right htable ((bySolved_perm table).mem_iff.mp hrow)
  exact ⟨id, hids.mem_iff.mp hid, hrowOf⟩

theorem share_of_mem {row : Contribution} (hrow : row ∈ rows) :
    row.share = shareOf (solvedStorage rows) (storedTotal rows) row.solved := by
  obtain ⟨ids, table, -, -, -, hshares, rfl⟩ := contributions_eq_ok h
  rw [solvedStorage_perm (bySolved_perm table), storedTotal_perm (bySolved_perm table)]
  exact hshares row ((bySolved_perm table).mem_iff.mp hrow)

theorem pairwise_solved : rows.Pairwise fun a b => b.solved ≤ a.solved := by
  obtain ⟨ids, table, -, -, -, -, rfl⟩ := contributions_eq_ok h
  have arrived : table.Pairwise fun _ _ => True := List.pairwise_of_forall fun _ _ => trivial
  exact (pairwise_bySolved arrived).imp fun hab => hab.elim le_of_lt fun heq => heq.1.ge

theorem length_rows : rows.length = (updated.union solved).length := by
  obtain ⟨ids, table, hids, -, htable, -, rfl⟩ := contributions_eq_ok h
  rw [(bySolved_perm table).length_eq, ← htable.length_eq, hids.length_eq]

end Accepted

end Scoreboard
