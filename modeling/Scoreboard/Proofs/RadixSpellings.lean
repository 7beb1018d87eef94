import Mathlib
import Scoreboard.Proofs.Refusals

/-!
# Radix spellings

A radix spelling has digits of the radix behind its mark, with any zeros before them and in letters
of either case.  It is read as the whole number it spells, and no other text is read in a radix.
-/

namespace Scoreboard

theorem eq_or_toUpper_of_toLower {c d : Char} (h : c.toLower = d) : c = d ∨ c = d.toUpper := by
  subst h
  by_cases hletter : 65 ≤ c.toNat ∧ c.toNat ≤ 90
  · obtain ⟨hlow, hhigh⟩ := hletter
    right
    rw [← Char.ofNat_toNat c]
    interval_cases c.toNat <;> rfl
  · left
    have : ¬ (c.val ≥ 'A'.val ∧ c.val ≤ 'Z'.val) := by
      simpa [UInt32.le_iff_toNat_le] using hletter
    rw [Char.toLower, dif_neg this]

theorem radixValue?_of_toLower {radix d : Nat} {c : Char} (hradix : radix ≤ 16) (h : d < radix)
    (hc : c.toLower = Nat.digitChar d) : radixValue? radix c = some d := by
  have hd : d < 16 := by omega
  rcases eq_or_toUpper_of_toLower hc with rfl | rfl
  · interval_cases d <;> exact if_pos h
  · interval_cases d <;> exact if_pos h

theorem exists_digits_toDigits {radix : Nat} (hradix : 1 < radix) (n : Nat) :
    ∃ digits, Nat.toDigits radix n = digits.map Nat.digitChar ∧ (∀ d ∈ digits, d < radix) ∧
      ofDigits radix digits = n := by
  induction n using Nat.strong_induction_on with
  | h n ih =>
      rcases Nat.lt_or_ge n radix with hlt | hge
      · exact ⟨[n], by simp [Nat.toDigits_of_lt_base hlt], by simpa using hlt, by simp [ofDigits]⟩
      · obtain ⟨digits, htext, hdigits, hnumber⟩ :=
          ih (n / radix) (Nat.div_lt_self (by omega) hradix)
        refine ⟨digits ++ [n % radix], ?_, ?_, ?_⟩
        · rw [Nat.toDigits_of_base_le hradix hge, htext]
          simp
        · intro d hd
          rcases List.mem_append.mp hd with hfirst | hlast
          · exact hdigits d hfirst
          · rw [List.mem_singleton.mp hlast]
            exact Nat.mod_lt _ (by omega)
        · unfold ofDigits at hnumber ⊢
          rw [List.foldl_append, hnumber]
          exact Nat.div_add_mod n radix

/-- Digits are those of the number they spell, with some zeros before them. -/
theorem exists_toDigits_ofDigits {radix : Nat} (hradix : 1 < radix) {digits : List Nat}
    (hdigits : ∀ d ∈ digits, d < radix) (hne : digits ≠ []) :
    ∃ zeros, digits.map Nat.digitChar =
      List.replicate zeros '0' ++ Nat.toDigits radix (ofDigits radix digits) := by
  induction digits using List.reverseRecOn with
  | nil => exact absurd rfl hne
  | append_singleton digits d ih =>
      obtain ⟨hbefore, hlast⟩ := List.forall_mem_append.mp hdigits
      have hd : d < radix := hlast d (by simp)
      have hnumber : ofDigits radix (digits ++ [d]) = radix * ofDigits radix digits + d := by
        simp [ofDigits]
      rw [hnumber, List.map_append]
      by_cases hnil : digits = []
      · subst hnil
        exact ⟨0, by simp [ofDigits, Nat.toDigits_of_lt_base hd]⟩
      · obtain ⟨zeros, hzeros⟩ := ih hbefore hnil
        rcases Nat.eq_zero_or_pos (ofDigits radix digits) with hzero | hpos
        · refine ⟨zeros + 1, ?_⟩
          rw [hzeros, hzero, Nat.mul_zero, Nat.zero_add, Nat.toDigits_of_lt_base hd,
            List.replicate_succ', Nat.toDigits_zero]
          rfl
        · refine ⟨zeros, ?_⟩
          rw [hzeros, ← Nat.toDigits_append_toDigits hradix hpos hd, Nat.toDigits_of_lt_base hd]
          simp

/-- Digits of a radix behind its mark, with any zeros before them and in letters of either case. -/
def IsRadixSpelling (n : Nat) (text : Text) : Prop :=
  ∃ mark radix zeros, (mark, radix) ∈ [('x', 16), ('o', 8), ('b', 2)] ∧
    text.map Char.toLower = '0' :: mark :: (List.replicate zeros '0' ++ Nat.toDigits radix n)

theorem mapM_radixValue? {radix : Nat} (hradix : radix ≤ 16) {digits : List Nat} {text : Text}
    (hdigits : ∀ d ∈ digits, d < radix) (h : text.map Char.toLower = digits.map Nat.digitChar) :
    text.mapM (radixValue? radix) = some digits := by
  induction digits generalizing text with
  | nil =>
      rw [List.map_nil, List.map_eq_nil_iff] at h
      rw [h]
      rfl
  | cons d digits ih =>
      obtain ⟨c, rest, rfl, hc, hrest⟩ := List.map_eq_cons_iff.mp h
      have hvalue := radixValue?_of_toLower hradix (hdigits d (by simp)) hc
      have hvalues := ih (fun e he => hdigits e (by simp [he])) hrest
      simp [hvalue, hvalues]

theorem ofDigits_leadingZeros (radix zeros : Nat) (digits : List Nat) :
    ofDigits radix (List.replicate zeros 0 ++ digits) = ofDigits radix digits := by
  induction zeros with
  | zero => rfl
  | succ zeros ih => simpa [List.replicate_succ, ofDigits] using ih

theorem isBlank_of_toLower {d : Nat} {c : Char} (h : d < 16) (hc : c.toLower = Nat.digitChar d) :
    isBlank c = false := by
  rcases eq_or_toUpper_of_toLower hc with rfl | rfl
  · interval_cases d <;> decide
  · interval_cases d <;> decide

namespace IsRadixSpelling

variable {n : Nat} {text : Text} (h : IsRadixSpelling n text)

include h

theorem exists_digits :
    ∃ mark radix digits rest, radixOf? mark = some radix ∧ radix ≤ 16 ∧
      (∀ d ∈ digits, d < radix) ∧ digits ≠ [] ∧ ofDigits radix digits = n ∧
        text = '0' :: mark :: rest ∧ rest.map Char.toLower = digits.map Nat.digitChar := by
  obtain ⟨small, radix, zeros, hmark, htext⟩ := h
  obtain ⟨c, others, rfl, hc, hothers⟩ := List.map_eq_cons_iff.mp htext
  obtain ⟨mark, rest, rfl, hlower, hrest⟩ := List.map_eq_cons_iff.mp hothers
  have hzero : c = '0' := by
    rcases eq_or_toUpper_of_toLower hc with rfl | rfl <;> rfl
  have hradix : radixOf? mark = some radix ∧ 1 < radix ∧ radix ≤ 16 := by
    simp only [List.mem_cons, Prod.mk.injEq, List.not_mem_nil, or_false] at hmark
    rcases hmark with ⟨rfl, rfl⟩ | ⟨rfl, rfl⟩ | ⟨rfl, rfl⟩ <;>
      rcases eq_or_toUpper_of_toLower hlower with rfl | rfl <;> decide
  obtain ⟨digits, hdigits, hbound, hnumber⟩ := exists_digits_toDigits hradix.2.1 n
  refine ⟨mark, radix, List.replicate zeros 0 ++ digits, rest, hradix.1, hradix.2.2, ?_, ?_, ?_,
    by rw [hzero], ?_⟩
  · intro d hd
    rcases List.mem_append.mp hd with hleading | hdigit
    · rw [List.eq_of_mem_replicate hleading]
      omega
    · exact hbound d hdigit
  · rintro hnil
    have hne : Nat.toDigits radix n ≠ [] := Nat.toDigits_ne_nil
    rw [hdigits, (List.append_eq_nil_iff.mp hnil).2] at hne
    exact hne rfl
  · rw [ofDigits_leadingZeros, hnumber]
  · rw [hrest, hdigits, List.map_append, List.map_replicate]
    rfl

theorem readRadixLiteral?_eq : readRadixLiteral? text = some n := by
  obtain ⟨mark, radix, digits, rest, hmark, hradix, hbound, hne, hnumber, rfl, hrest⟩ :=
    h.exists_digits
  have hvalues := mapM_radixValue? hradix hbound hrest
  cases rest with
  | nil => exact absurd (List.map_eq_nil_iff.mp hrest.symm) hne
  | cons d rest =>
      simp only [readRadixLiteral?, hmark, hvalues, hnumber, Option.bind_eq_bind, Option.bind_some,
        Option.pure_def]

theorem trimmed_eq : text.trimmed = text := by
  obtain ⟨mark, radix, digits, rest, -, hradix, hbound, hne, -, rfl, hrest⟩ := h.exists_digits
  apply Text.stripped_eq_self
  · rintro c ⟨⟩
    decide
  · intro c hc
    have hlast : c ∈ rest.getLast? := by
      cases rest with
      | nil => exact absurd (List.map_eq_nil_iff.mp hrest.symm) hne
      | cons d rest => simpa using hc
    have hmem := List.mem_map_of_mem (f := Char.toLower) (List.mem_of_mem_getLast? hlast)
    rw [hrest] at hmem
    obtain ⟨d, hd, hlower⟩ := List.mem_map.mp hmem
    have := hbound d hd
    exact isBlank_of_toLower (by omega) hlower.symm

theorem readNumber_eq :
    readNumber text = (Binary64.ofInt? n).elim (.error .beyondDouble) .ok := by
  apply readNumber_radix
  rw [h.trimmed_eq, h.readRadixLiteral?_eq]

end IsRadixSpelling

/-! ## The texts that are read -/

theorem toLower_of_radixValue? {radix v : Nat} {c : Char} (h : radixValue? radix c = some v) :
    c.toLower = Nat.digitChar v ∧ v < radix := by
  unfold radixValue? at h
  extract_lets value at h
  have hlt : value < radix := by
    by_contra hge
    rw [if_neg hge] at h
    cases h
  rw [if_pos hlt] at h
  obtain rfl : value = v := Option.some.inj h
  refine ⟨?_, hlt⟩
  have hletter : c.toLower = Nat.digitChar value ∨ value = radix := by
    simp only [value]
    split_ifs with hdigit hsmall hcapital
    · obtain ⟨hlow, hhigh⟩ : 48 ≤ c.toNat ∧ c.toNat ≤ 57 := hdigit
      left
      rw [← Char.ofNat_toNat c]
      interval_cases c.toNat <;> rfl
    · obtain ⟨hlow, hhigh⟩ : 97 ≤ c.toNat ∧ c.toNat ≤ 102 := hsmall
      left
      rw [← Char.ofNat_toNat c]
      interval_cases c.toNat <;> rfl
    · obtain ⟨hlow, hhigh⟩ : 65 ≤ c.toNat ∧ c.toNat ≤ 70 := hcapital
      left
      rw [← Char.ofNat_toNat c]
      interval_cases c.toNat <;> rfl
    · exact .inr rfl
  exact hletter.resolve_right hlt.ne

theorem map_toLower_of_mapM {radix : Nat} {text : Text} {digits : List Nat}
    (h : text.mapM (radixValue? radix) = some digits) :
    text.map Char.toLower = digits.map Nat.digitChar ∧ ∀ d ∈ digits, d < radix := by
  induction text generalizing digits with
  | nil =>
      obtain rfl : [] = digits := Option.some.inj h
      exact ⟨rfl, nofun⟩
  | cons c text ih =>
      rw [List.mapM_cons] at h
      obtain ⟨d, hd, hrest⟩ := Option.bind_eq_some_iff.mp h
      obtain ⟨values, hvalues, hcons⟩ := Option.bind_eq_some_iff.mp hrest
      obtain rfl : d :: values = digits := Option.some.inj hcons
      obtain ⟨hlower, hlt⟩ := toLower_of_radixValue? hd
      obtain ⟨hmap, hbound⟩ := ih hvalues
      exact ⟨by simp [hlower, hmap], List.forall_mem_cons.mpr ⟨hlt, hbound⟩⟩

theorem radixOf?_eq_some {mark : Char} {radix : Nat} (h : radixOf? mark = some radix) :
    (mark.toLower, radix) ∈ [('x', 16), ('o', 8), ('b', 2)] := by
  unfold radixOf? at h
  split_ifs at h with hx ho hb
  · obtain rfl := Option.some.inj h
    rcases hx with rfl | rfl <;> decide
  · obtain rfl := Option.some.inj h
    rcases ho with rfl | rfl <;> decide
  · obtain rfl := Option.some.inj h
    rcases hb with rfl | rfl <;> decide

theorem isRadixSpelling_of_read {n : Nat} {text : Text} (h : readRadixLiteral? text = some n) :
    IsRadixSpelling n text := by
  unfold readRadixLiteral? at h
  split at h
  · next mark c rest =>
      obtain ⟨radix, hradix, hrest⟩ := Option.bind_eq_some_iff.mp h
      obtain ⟨digits, hdigits, hnumber⟩ := Option.bind_eq_some_iff.mp hrest
      obtain rfl : ofDigits radix digits = n := Option.some.inj hnumber
      obtain ⟨hlower, hbound⟩ := map_toLower_of_mapM hdigits
      have hmark := radixOf?_eq_some hradix
      have hone : 1 < radix := by
        simp only [List.mem_cons, Prod.mk.injEq, List.not_mem_nil, or_false] at hmark
        omega
      have hne : digits ≠ [] := by
        rintro rfl
        cases hlower
      obtain ⟨zeros, hzeros⟩ := exists_toDigits_ofDigits hone hbound hne
      refine ⟨mark.toLower, radix, zeros, hmark, ?_⟩
      rw [List.map_cons, List.map_cons, hlower, hzeros]
      rfl
  · cases h

/-- The radix spellings are all the texts that are read in a radix. -/
theorem readRadixLiteral?_eq_some_iff {n : Nat} {text : Text} :
    readRadixLiteral? text = some n ↔ IsRadixSpelling n text :=
  ⟨isRadixSpelling_of_read, IsRadixSpelling.readRadixLiteral?_eq⟩

theorem readRadixLiteral?_eq_none_iff {text : Text} :
    readRadixLiteral? text = none ↔ ∀ n, ¬ IsRadixSpelling n text := by
  simp only [Option.eq_none_iff_forall_ne_some, ne_eq, readRadixLiteral?_eq_some_iff]

end Scoreboard
