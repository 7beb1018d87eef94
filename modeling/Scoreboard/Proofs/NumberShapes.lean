import Mathlib
import Scoreboard.Proofs.Literals
import Scoreboard.Value.Number

/-!
# Shapes of numerals

A text stands for a number if it is empty, a signed infinity, a radix literal or a decimal literal once
the blanks around it are gone.  No text has two of these shapes, so that each shape alone decides what
number the text stands for, and their order does not matter.
-/

namespace Scoreboard

/-! ## Infinities -/

def infinityWord : Text := "Infinity".toList

theorem infinity?_eq_some_iff {text : Text} {x : Binary64} : infinity? text = some x ↔
    ∃ sign : Sign, text = sign.text ++ infinityWord ∧ x = .infinite sign.isNegative := by
  constructor
  · intro h
    unfold infinity? at h
    split_ifs at h with hpositive hnegative
    · obtain rfl := Option.some.inj h
      rcases hpositive with rfl | rfl
      · exact ⟨.none, rfl, rfl⟩
      · exact ⟨.plus, rfl, rfl⟩
    · obtain rfl := Option.some.inj h
      subst hnegative
      exact ⟨.minus, rfl, rfl⟩
  · rintro ⟨sign, rfl, rfl⟩
    cases sign <;> rfl

theorem infinity?_eq_none_iff {text : Text} :
    infinity? text = none ↔ ∀ sign : Sign, text ≠ sign.text ++ infinityWord := by
  rw [Option.eq_none_iff_forall_ne_some]
  constructor
  · intro h sign hsign
    exact h _ (infinity?_eq_some_iff.mpr ⟨sign, hsign, rfl⟩)
  · intro h x hx
    obtain ⟨sign, htext, -⟩ := infinity?_eq_some_iff.mp hx
    exact h sign htext

/-! ## Shapes that exclude each other -/

theorem infinity?_ne_nil {x : Binary64} {text : Text} (h : infinity? text = some x) : text ≠ [] := by
  rintro rfl
  cases h

theorem infinity?_of_radix {text : Text} {n : Nat} (h : readRadixLiteral? text = some n) :
    text ≠ [] ∧ infinity? text = none := by
  unfold readRadixLiteral? at h
  split at h
  · exact ⟨by simp, rfl⟩
  · cases h

theorem Literal.read?_marked {mark : Char} {radix : Nat} (h : radixOf? mark = some radix)
    (rest : Text) : Literal.read? decimalValue? ('0' :: mark :: rest) = none := by
  have hzero : decimalValue? '0' = some 0 := by decide
  have hmark : decimalValue? mark = none ∧ mark ≠ '.' ∧ mark ≠ 'e' ∧ mark ≠ 'E' := by
    unfold radixOf? at h
    split_ifs at h with hx ho hb
    · rcases hx with rfl | rfl <;> decide
    · rcases ho with rfl | rfl <;> decide
    · rcases hb with rfl | rfl <;> decide
  obtain ⟨hvalue, hpoint, he, hE⟩ := hmark
  simp [Literal.read?, splitSign, digitRun, hzero, hvalue, Literal.fractionPart, hpoint,
    Literal.exponentPart?, he, hE]

theorem Literal.read?_of_radix {text : Text} {n : Nat} (h : readRadixLiteral? text = some n) :
    Literal.read? decimalValue? text = none := by
  unfold readRadixLiteral? at h
  split at h
  · next mark c rest =>
      obtain ⟨radix, hradix, -⟩ := Option.bind_eq_some_iff.mp h
      exact Literal.read?_marked hradix (c :: rest)
  · cases h

theorem Literal.read?_of_infinity {text : Text} {x : Binary64} (h : infinity? text = some x) :
    Literal.read? decimalValue? text = none := by
  obtain ⟨sign, rfl, -⟩ := infinity?_eq_some_iff.mp h
  cases sign <;> decide

/-! ## The number of each shape -/

section Equations

variable {text : Text}

theorem readNumber_empty (h : text.trimmed = []) : readNumber text = .ok .zero := by
  simp only [readNumber, if_pos h]

theorem readNumber_infinity {x : Binary64} (h : infinity? text.trimmed = some x) :
    readNumber text = .ok x := by
  simp only [readNumber, if_neg (infinity?_ne_nil h), h]

theorem readNumber_radix {n : Nat} (h : readRadixLiteral? text.trimmed = some n) :
    readNumber text = (Binary64.ofInt? n).elim (.error .beyondDouble) .ok := by
  obtain ⟨hne, hinfinity⟩ := infinity?_of_radix h
  simp only [readNumber, if_neg hne, hinfinity, h]

theorem readNumber_decimal {literal : Literal}
    (h : Literal.read? decimalValue? text.trimmed = some literal) :
    readNumber text = .ok literal.toBinary64 := by
  have hne : text.trimmed ≠ [] := by
    intro hnil
    rw [hnil] at h
    cases h
  have hinfinity : infinity? text.trimmed = none := by
    by_contra hsome
    obtain ⟨x, hx⟩ := Option.ne_none_iff_exists'.mp hsome
    rw [Literal.read?_of_infinity hx] at h
    cases h
  have hradix : readRadixLiteral? text.trimmed = none := by
    by_contra hsome
    obtain ⟨n, hn⟩ := Option.ne_none_iff_exists'.mp hsome
    rw [Literal.read?_of_radix hn] at h
    cases h
  simp only [readNumber, if_neg hne, hinfinity, hradix, h]

theorem readNumber_other (hne : text.trimmed ≠ []) (hinfinity : infinity? text.trimmed = none)
    (hradix : readRadixLiteral? text.trimmed = none)
    (hdecimal : Literal.read? decimalValue? text.trimmed = none) : readNumber text = .ok .nan := by
  simp only [readNumber, if_neg hne, hinfinity, hradix, hdecimal]

/-- Only a radix literal is refused. -/
theorem exists_readNumber (h : readRadixLiteral? text.trimmed = none) :
    ∃ x, readNumber text = .ok x := by
  by_cases hempty : text.trimmed = []
  · exact ⟨_, readNumber_empty hempty⟩
  cases hinfinity : infinity? text.trimmed with
  | some x => exact ⟨x, readNumber_infinity hinfinity⟩
  | none =>
      cases hdecimal : Literal.read? decimalValue? text.trimmed with
      | some literal => exact ⟨_, readNumber_decimal hdecimal⟩
      | none => exact ⟨_, readNumber_other hempty hinfinity h hdecimal⟩

end Equations

end Scoreboard
