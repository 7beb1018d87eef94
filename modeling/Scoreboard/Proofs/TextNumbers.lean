import Mathlib
import Scoreboard.Proofs.HalfEven
import Scoreboard.Proofs.RadixSpellings

/-!
# Texts as numbers

The grammar of the texts that stand for a number, and the number of each: without the blanks around
it, a text is empty, a signed infinity, a radix spelling, a decimal literal, or stands for no number.
Spelled numbers are rounded once, a half to even.  A decimal literal beyond the doubles is infinite,
where a radix spelling is refused.
-/

namespace Scoreboard

/-! ## Blanks around a text -/

structure IsTrimming (text body : Text) : Prop where
  around : ∃ before after, text = before ++ body ++ after ∧ ∀ c ∈ before ++ after, isBlank c = true
  first : ∀ c ∈ body.head?, isBlank c = false
  last : ∀ c ∈ body.getLast?, isBlank c = false

theorem not_blank_of_head?_dropWhile {text : Text} {c : Char}
    (h : c ∈ (text.dropWhile isBlank).head?) : isBlank c = false := by
  have := List.head?_dropWhile_not isBlank text
  rwa [Option.mem_def.mp h] at this

theorem isTrimming_trimmed (text : Text) : IsTrimming text text.trimmed := by
  set kept := text.dropWhile isBlank with hkept
  set after := (kept.reverse.takeWhile isBlank).reverse with hafter
  have hback : text.trimmed ++ after = kept := by
    rw [hafter, Text.trimmed, Text.stripped, ← List.reverse_append, ← hkept,
      List.takeWhile_append_dropWhile, List.reverse_reverse]
  refine ⟨⟨text.takeWhile isBlank, after, ?_, ?_⟩, ?_, ?_⟩
  · rw [List.append_assoc, hback, hkept, List.takeWhile_append_dropWhile]
  · simp only [hafter, List.mem_append, List.mem_reverse]
    rintro c (hbefore | hlater)
    · exact List.mem_takeWhile_imp hbefore
    · exact List.mem_takeWhile_imp hlater
  · intro c hc
    have hfirst : c ∈ kept.head? := hback ▸ List.mem_head?_append_of_mem_head? hc
    exact not_blank_of_head?_dropWhile hfirst
  · intro c hc
    rw [Text.trimmed, Text.stripped, List.getLast?_reverse] at hc
    exact not_blank_of_head?_dropWhile hc

/-! ## The grammar -/

/-- What a text without blanks around it stands for. -/
inductive Reads : Text → Except Fault Binary64 → Prop where
  | empty : Reads [] (.ok .zero)
  | infinity (sign : Sign) : Reads (sign.text ++ infinityWord) (.ok (.infinite sign.isNegative))
  | radix {n : Nat} {text : Text} {magnitude : Magnitude} :
      IsRadixSpelling n text → Binary64.IsRounding false n (.finite false magnitude) →
        Reads text (.ok (.finite false magnitude))
  | beyond {n : Nat} {text : Text} :
      IsRadixSpelling n text → Binary64.IsRounding false n (.infinite false) →
        Reads text (.error .beyondDouble)
  | decimal {x : Binary64} (parts : LiteralParts decimalValue?) :
      Binary64.IsRounding parts.sign.isNegative |parts.value| x → Reads parts.text (.ok x)
  | other {text : Text} :
      text ≠ [] → (∀ sign : Sign, text ≠ sign.text ++ infinityWord) →
        (∀ n, ¬ IsRadixSpelling n text) → (∀ parts : LiteralParts decimalValue?, text ≠ parts.text) →
          Reads text (.ok .nan)

theorem Reads.kind_eq {text : Text} {fault : Fault} (h : Reads text (.error fault)) :
    fault.kind = .overflow := by
  cases h
  rfl

/-! ## Reading a text -/

theorem isRounding_iff_toBinary64 (parts : LiteralParts decimalValue?) {x : Binary64} :
    Binary64.IsRounding parts.sign.isNegative |parts.value| x ↔ parts.literal.toBinary64 = x := by
  rw [parts.value_eq, Literal.abs_value_eq_zpow, Binary64.isRounding_scientific_iff]
  rfl

theorem reads_radix {text : Text} {n : Nat} (h : IsRadixSpelling n text.trimmed) :
    Reads text.trimmed (readNumber text) := by
  rw [readNumber_radix (readRadixLiteral?_eq_some_iff.mpr h)]
  rcases Binary64.ofInt?_natCast n with ⟨magnitude, hint, hround⟩ | ⟨hint, hround⟩
  · rw [hint]
    exact .radix h hround
  · rw [hint]
    exact .beyond h hround

theorem reads_readNumber (text : Text) : Reads text.trimmed (readNumber text) := by
  have hmarks := sparesMarks_decimal
  by_cases hempty : text.trimmed = []
  · rw [readNumber_empty hempty, hempty]
    exact .empty
  cases hinfinity : infinity? text.trimmed with
  | some x =>
      rw [readNumber_infinity hinfinity]
      obtain ⟨sign, htext, rfl⟩ := infinity?_eq_some_iff.mp hinfinity
      rw [htext]
      exact .infinity sign
  | none =>
  cases hradix : readRadixLiteral? text.trimmed with
  | some n => exact reads_radix (readRadixLiteral?_eq_some_iff.mp hradix)
  | none =>
  cases hdecimal : Literal.read? decimalValue? text.trimmed with
  | some literal =>
      rw [readNumber_decimal hdecimal]
      obtain ⟨parts, htext, rfl⟩ := (LiteralParts.read?_eq_some_iff hmarks).mp hdecimal
      rw [← htext]
      exact .decimal parts ((isRounding_iff_toBinary64 parts).mpr rfl)
  | none =>
      rw [readNumber_other hempty hinfinity hradix hdecimal]
      exact .other hempty (infinity?_eq_none_iff.mp hinfinity)
        (readRadixLiteral?_eq_none_iff.mp hradix)
        ((LiteralParts.read?_eq_none_iff hmarks).mp hdecimal)

theorem Reads.readNumber_eq {text : Text} {outcome : Except Fault Binary64}
    (h : Reads text.trimmed outcome) : readNumber text = outcome := by
  have hmarks := sparesMarks_decimal
  generalize hbody : text.trimmed = body at h
  cases h with
  | empty => exact readNumber_empty hbody
  | infinity sign => exact readNumber_infinity (infinity?_eq_some_iff.mpr ⟨sign, hbody, rfl⟩)
  | @radix n _ magnitude hspelling hround =>
      rw [readNumber_radix (hbody ▸ readRadixLiteral?_eq_some_iff.mpr hspelling)]
      rcases Binary64.ofInt?_natCast n with ⟨other, hint, hother⟩ | ⟨-, hinfinite⟩
      · rw [hint, hround.unique hother]
        rfl
      · cases hround.unique hinfinite
  | @beyond n _ hspelling hround =>
      rw [readNumber_radix (hbody ▸ readRadixLiteral?_eq_some_iff.mpr hspelling)]
      rcases Binary64.ofInt?_natCast n with ⟨magnitude, -, hfinite⟩ | ⟨hint, -⟩
      · cases hround.unique hfinite
      · rw [hint]
        rfl
  | decimal parts hround =>
      rw [← (isRounding_iff_toBinary64 parts).mp hround]
      exact readNumber_decimal ((LiteralParts.read?_eq_some_iff hmarks).mpr ⟨parts, hbody.symm, rfl⟩)
  | other hne hinfinity hradix hdecimal =>
      subst hbody
      exact readNumber_other hne (infinity?_eq_none_iff.mpr hinfinity)
        (readRadixLiteral?_eq_none_iff.mpr hradix)
        ((LiteralParts.read?_eq_none_iff hmarks).mpr hdecimal)

/-- A text stands for what the grammar says of the text without the blanks around it. -/
theorem toNumber_text_iff (text : Text) : IsTrimming text text.trimmed ∧
    ∀ outcome, (Value.text text).toNumber.outcome = outcome ↔ Reads text.trimmed outcome := by
  refine ⟨isTrimming_trimmed text, fun outcome => ?_⟩
  rw [Value.toNumber_text]
  constructor
  · rintro rfl
    exact reads_readNumber text
  · exact Reads.readNumber_eq

/-- Digits of two scripts and blanks around them. -/
example : (Value.text "\u2003-٣.5e1\n".toList).toNumber.outcome = .ok (.ofRatio true 35 1) := by
  decide +kernel

end Scoreboard
