import Mathlib
import Scoreboard.Proofs.MergedTallies

/-!
# Texts of helpers

Helpers are merged by what their ids stand for, and shown by the texts of the ids.  The two differ:
a number and the text that spells it are two helpers of one text.  So the rows show a text twice
exactly when two of the merged ids have it.
-/

namespace Scoreboard

/-- Ids that have one text are one id. -/
def HelperId.ToldApart (ids : List HelperId) : Prop :=
  ∀ a ∈ ids, ∀ b ∈ ids, ∀ text, a.text = .ok text → b.text = .ok text → a = b

namespace HelperId

theorem toldApart_iff {ids : List HelperId} :
    ToldApart ids ↔
      ∀ a ∈ ids, ∀ b ∈ ids, a.text.isOk = true → a.text = b.text → a = b := by
  constructor
  · intro h a ha b hb hok heq
    obtain ⟨text, htext⟩ := exists_eq_ok hok
    exact h a ha b hb text htext (heq ▸ htext)
  · intro h a ha b hb text hatext hbtext
    exact h a ha b hb (by rw [hatext]; rfl) (hatext.trans hbtext.symm)

instance (ids : List HelperId) : Decidable (ToldApart ids) := decidable_of_iff _ toldApart_iff.symm

namespace ToldApart

variable {ids others : List HelperId}

theorem subset (h : ToldApart ids) (hsubset : others ⊆ ids) : ToldApart others :=
  fun a ha b hb => h a (hsubset ha) b (hsubset hb)

theorem perm_iff (hperm : others.Perm ids) : ToldApart others ↔ ToldApart ids :=
  ⟨fun h => h.subset hperm.symm.subset, fun h => h.subset hperm.subset⟩

end ToldApart

end HelperId

open Contribution

theorem map_text_of_forall₂ {updated solved : Tally} {ids : List HelperId}
    {rows : List Contribution} (h : List.Forall₂ (IsRowOf updated solved) ids rows) :
    ids.map HelperId.text = (rows.map (·.helper)).map Except.ok := by
  rw [← List.forall₂_eq_eq_eq, List.map_map, List.forall₂_map_left_iff, List.forall₂_map_right_iff]
  exact h.imp fun _ _ hrow => hrow.helper

/-- The rows show different texts exactly when different ids have different texts. -/
theorem nodup_helpers_iff {updated solved : Tally} {rows : List Contribution}
    (h : contributions updated solved = .ok rows) :
    (rows.map (·.helper)).Nodup ↔ HelperId.ToldApart (updated.union solved) := by
  obtain ⟨ids, hmerge, hrows⟩ := exists_merge h
  have htexts := map_text_of_forall₂ hrows
  have hmem (id : HelperId) : id ∈ ids ↔ id ∈ updated.union solved :=
    (hmerge.mem_iff id).trans ((Tally.isMerge_union updated solved).mem_iff id).symm
  have hokInjective : Function.Injective (Except.ok : Text → Except Fault Text) :=
    fun _ _ => Except.ok.inj
  rw [← List.nodup_map_iff hokInjective, ← htexts,
    List.nodup_map_iff_inj_on hmerge.distinct.of_map]
  constructor
  · intro hinjective a ha b hb text hatext hbtext
    exact hinjective a ((hmem a).mpr ha) b ((hmem b).mpr hb) (hatext.trans hbtext.symm)
  · intro happart a ha b hb heq
    obtain ⟨row, -, hrow⟩ := exists_of_mem_right hrows.flip ha
    have hatext : a.text = .ok row.helper := hrow.helper
    exact happart a ((hmem a).mp ha) b ((hmem b).mp hb) _ hatext (heq ▸ hatext)

/-- A truth value and the text of the number it stands for have different texts. -/
theorem nodup_helpers_iff_of_flag :
    ∃ rows, contributions (.ofList [(.flag true, .int 2)])
        (.ofList [(.number 1, .int 3), (.name ['1'], .int 4)]) = .ok rows ∧
      (rows.map (·.helper)).Nodup ∧
      ((rows.map (·.helper)).Nodup ↔ HelperId.ToldApart
        (Tally.union (.ofList [(.flag true, .int 2)])
          (.ofList [(.number 1, .int 3), (.name ['1'], .int 4)]))) := by
  have hrows : (contributions (.ofList [(.flag true, .int 2)])
      (.ofList [(.number 1, .int 3), (.name ['1'], .int 4)])).map (List.map (·.helper)) =
        .ok [['1'], "True".toList] := by
    decide +kernel
  obtain ⟨rows, h, hhelpers⟩ := map_eq_ok.mp hrows
  exact ⟨rows, h, by rw [hhelpers]; decide, nodup_helpers_iff h⟩

/-- A number in one tally and its text in the other one make two rows of one text. -/
theorem not_nodup_helpers_of_spelled_number :
    ∃ rows, contributions (.ofList [(.number 1, .int 2)]) (.ofList [(.name ['1'], .int 3)]) =
        .ok rows ∧ ¬ (rows.map (·.helper)).Nodup := by
  have hrows : (contributions (.ofList [(.number 1, .int 2)])
      (.ofList [(.name ['1'], .int 3)])).map (List.map (·.helper)) = .ok [['1'], ['1']] := by
    decide +kernel
  obtain ⟨rows, h, hhelpers⟩ := map_eq_ok.mp hrows
  exact ⟨rows, h, by rw [hhelpers]; decide⟩

end Scoreboard
