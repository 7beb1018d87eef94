import Mathlib
import Scoreboard.Proofs.Displayed
import Scoreboard.Proofs.NumberShapes
import Scoreboard.Proofs.PlainTexts

/-!
# Values that cannot be shown

Every value stands for a number or for `nan` and is shown, but for two kinds.  A radix literal is
refused if no double is near to its number, unlike all other numerals and the whole number itself; and
so is a sequence of one item that holds a whole number over the digit limit, as the text by which
the item counts cannot be written.  Both may stand inside any number of sequences of one.
-/

namespace Scoreboard

open Display

/-! ## Whole numbers beyond the doubles -/

/-- Half a spacing below `2 ^ 1024`, where whole numbers are no longer rounded to a double. -/
def doubleLimit : Nat := 2 ^ 1024 - 2 ^ 970

theorem ofInt?_eq_none_iff {n : Int} : Binary64.ofInt? n = none ↔ doubleLimit ≤ n.natAbs := by
  have hmono {m k : Nat} (h : m ≤ k) :
      Grid.double.round (m * unitsPerOne) 1 ≤ Grid.double.round (k * unitsPerOne) 1 :=
    Grid.double.round_mono Nat.one_pos Nat.one_pos
      (Nat.mul_le_mul_right 1 (Nat.mul_le_mul_right unitsPerOne h))
  have hlimit : overflow ≤ Grid.double.round (doubleLimit * unitsPerOne) 1 := by decide +kernel
  have hbelow : Grid.double.round ((doubleLimit - 1) * unitsPerOne) 1 < overflow := by
    decide +kernel
  have hpos : 0 < doubleLimit := by decide +kernel
  have hnone : Binary64.ofInt? n = none ↔
      overflow ≤ Grid.double.round (n.natAbs * unitsPerOne) 1 := by
    simp [Binary64.ofInt?, Magnitude.nearest?]
  rw [hnone]
  constructor
  · intro hoverflow
    by_contra hlt
    have := hmono (show n.natAbs ≤ doubleLimit - 1 by omega)
    omega
  · exact fun hle => hlimit.trans (hmono hle)

/-! ## Numbers that are refused -/

/-- The text is a radix literal of a number that no double is near to. -/
def IsBeyondDouble (text : Text) : Prop :=
  ∃ n, readRadixLiteral? text.trimmed = some n ∧ doubleLimit ≤ n

theorem failsIf_readNumber (text : Text) :
    FailsIf (IsBeyondDouble text) .beyondDouble (readNumber text) := by
  cases hradix : readRadixLiteral? text.trimmed with
  | none =>
      have hnot : ¬ IsBeyondDouble text := by
        rintro ⟨n, hn, -⟩
        rw [hradix] at hn
        cases hn
      obtain ⟨x, hx⟩ := exists_readNumber hradix
      rw [hx]
      exact .ok x hnot
  | some n =>
      have hbeyond : IsBeyondDouble text ↔ Binary64.ofInt? n = none := by
        simp [IsBeyondDouble, hradix, ofInt?_eq_none_iff]
      rw [readNumber_radix hradix]
      refine FailsIf.congr ?_ hbeyond.symm
      cases Binary64.ofInt? n with
      | none => exact ⟨fun _ => rfl, fun h => absurd rfl h⟩
      | some x => exact .ok x nofun

namespace Value

/-- No number is made of the value, for the reason that the fault names. -/
inductive Refused : Value → Fault → Prop where
  | radix {content : Text} : IsBeyondDouble content → Refused (.text content) .beyondDouble
  | unwritable {kind : SequenceKind} {item : Value} :
      item.isOpen = false → item.HoldsLong → Refused (.sequence kind [item]) .unwritableInteger
  | inside {kind : SequenceKind} {item : Value} {fault : Fault} :
      item.isOpen = true → Refused item fault → Refused (.sequence kind [item]) fault

variable {value item : Value} {fault : Fault}

theorem not_refused_of_closed (h : value.isOpen = false) : ¬ value.Refused fault := by
  rintro (_ | _ | _) <;> cases h

theorem refused_single (kind : SequenceKind) :
    (Value.sequence kind [item]).Refused fault ↔
      if item.isOpen then item.Refused fault else fault = .unwritableInteger ∧ item.HoldsLong := by
  constructor
  · rintro (_ | ⟨hclosed, hlong⟩ | ⟨hopen, hinner⟩)
    · simp [hclosed, hlong]
    · simp [hopen, hinner]
  · intro h
    cases hopen : item.isOpen with
    | true => exact .inside hopen (by simpa [hopen] using h)
    | false =>
        obtain ⟨rfl, hlong⟩ : fault = .unwritableInteger ∧ item.HoldsLong := by
          simpa [hopen] using h
        exact .unwritable hopen hlong

theorem Refused.kind_eq (h : value.Refused fault) :
    fault.kind = .overflow ∨ fault.kind = .value := by
  induction h with
  | radix _ => exact .inl rfl
  | unwritable _ _ => exact .inr rfl
  | inside _ _ ih => exact ih

/-! ## Numbers of values -/

@[simp] theorem outcome_reported (value : Value) (x : Binary64) :
    (value.reported x).outcome = .ok x := by
  unfold reported
  split <;> rfl

theorem toNumber_closed (h : value.isOpen = false) :
    value.toNumber.outcome = .ok (value.nearestDouble?.getD .nan) := by
  apply Display.toNumber_other
  · rintro content rfl
    cases h
  · rintro kind items rfl
    cases h

/-- A conversion to a double fails with faults of three kinds alone, and is then reported as `nan`. -/
theorem toNumber_of_toDouble (h : value.isOpen = false) :
    (∃ x, value.toDouble = .ok x ∧ value.toNumber = pure x) ∨
      ∃ fault, value.toDouble = .error fault ∧
        (fault.kind = .type ∨ fault.kind = .value ∨ fault.kind = .overflow) ∧
          value.toNumber = value.reported .nan := by
  have hdouble : value.toDouble = value.nearestDouble?.elim (.error value.doubleFault) .ok := by
    cases value with
    | text content => cases h
    | _ => rfl
  rw [hdouble, toNumber]
  · cases value.nearestDouble? with
    | some x => exact .inl ⟨x, rfl, rfl⟩
    | none =>
        have hkind := Fault.kind_of_isConversion (isConversion_doubleFault value)
        exact .inr ⟨_, rfl, hkind, rfl⟩
  · rintro content rfl
    cases h
  · rintro kind items rfl
    cases h

theorem toNumber_text (content : Text) :
    (Value.text content).toNumber.outcome = readNumber content := by
  rw [toNumber, Traced.outcome_bind]
  cases readNumber content <;> simp

theorem toNumber_sequence (kind : SequenceKind) (items : List Value) :
    (Value.sequence kind items).toNumber.outcome = (soleNumber items).outcome := by
  rw [toNumber, Traced.outcome_bind]
  cases (soleNumber items).outcome <;> simp

theorem soleNumber_open (h : item.isOpen = true) : soleNumber [item] = item.toNumber := by
  cases item with
  | text content => rw [soleNumber]
  | sequence kind items => rw [soleNumber]
  | _ => cases h

theorem outcome_soleNumber (h : item.isOpen = false) (hnone : item ≠ .missing .none) :
    (soleNumber [item]).outcome = item.plainText >>= readNumber := by
  rw [soleNumber]
  · rw [Traced.outcome_bind]
    rfl
  · exact hnone
  · rintro content rfl
    cases h
  · rintro kind items rfl
    cases h

theorem failsIf_soleNumber (h : item.isOpen = false) :
    FailsIf item.HoldsLong .unwritableInteger (soleNumber [item]).outcome := by
  by_cases hnone : item = .missing .none
  · rw [hnone, soleNumber]
    exact .ok _ nofun
  · rw [outcome_soleNumber h hnone]
    constructor
    · intro hlong
      rw [(failsIf_plainText item).fails hlong, error_bind]
    · intro hshort
      obtain ⟨text, htext⟩ := (failsIf_plainText item).succeeds hshort
      rw [htext, ok_bind]
      apply (failsIf_readNumber text).succeeds
      rintro ⟨n, hn, -⟩
      rw [(noRadixLiteral_plainText h htext).readRadixLiteral?] at hn
      cases hn

/-- Making a number of a value fails exactly if it is refused, with the fault of the refusal. -/
theorem toNumber_eq_error_iff : (value : Value) → ∀ {fault : Fault},
    value.toNumber.outcome = .error fault ↔ value.Refused fault
  | .text content, fault => by
      rw [toNumber_text, (failsIf_readNumber content).eq_error_iff]
      constructor
      · rintro ⟨rfl, hbeyond⟩
        exact .radix hbeyond
      · rintro (hbeyond | _)
        exact ⟨rfl, hbeyond⟩
  | .sequence kind [], fault => by
      rw [toNumber_sequence, soleNumber]
      exact iff_of_false nofun nofun
  | .sequence kind [item], fault => by
      rw [toNumber_sequence, refused_single]
      cases hopen : item.isOpen with
      | true =>
          rw [soleNumber_open hopen, toNumber_eq_error_iff item]
          simp
      | false =>
          rw [(failsIf_soleNumber hopen).eq_error_iff]
          simp
  | .sequence kind (_ :: _ :: _), fault => by
      rw [toNumber_sequence, soleNumber]
      exact iff_of_false nofun nofun
  | .missing _, fault | .bool _, fault | .int _, fault | .float _, fault | .decimal _, fault
  | .fraction _, fault | .complex _ _, fault | .scalar _, fault | .bytes _, fault
  | .mapping _, fault | .object _, fault => by
      rw [toNumber_closed rfl]
      exact iff_of_false nofun (not_refused_of_closed rfl)

/-! ## Values as they are shown -/

theorem integer_eq_error_iff (value : Value) {fault : Fault} :
    (integer value).outcome = .error fault ↔ value.Refused fault := by
  cases habsent : value.isAbsent with
  | true =>
      have hclosed : value.isOpen = false := by
        cases value with
        | missing marker => rfl
        | _ => cases habsent
      have hshown : (integer value).outcome = .ok placeholder := by
        rw [integer, habsent]
        rfl
      rw [hshown]
      exact iff_of_false (by simp) (not_refused_of_closed hclosed)
  | false =>
      rw [outcome_integer_of_present habsent,
        bind_eq_error_iff (exists_invariantFixed fits_integerDecimals), toNumber_eq_error_iff]

/-- Whether a value counts as nothing can always be told, and what counts as nothing is not refused. -/
theorem exists_isFalsy (value : Value) :
    ∃ falsy, value.isFalsy.outcome = .ok falsy ∧
      (falsy = true → ∀ fault, ¬ value.Refused fault) := by
  cases value with
  | text content =>
      refine ⟨content.isEmpty, rfl, fun hempty fault => ?_⟩
      rw [List.isEmpty_iff.mp hempty]
      rintro (⟨n, hn, -⟩ | _)
      cases hn
  | sequence kind items => exact ⟨false, rfl, nofun⟩
  | bytes content => exact ⟨false, rfl, nofun⟩
  | mapping entries => exact ⟨false, rfl, nofun⟩
  | object address => exact ⟨false, rfl, nofun⟩
  | missing marker => exact ⟨true, rfl, fun _ _ => not_refused_of_closed rfl⟩
  | _ => exact ⟨_, outcome_isFalsy_of_numeric rfl, fun _ _ => not_refused_of_closed rfl⟩

theorem percent_eq_error_iff (value : Value) {fault : Fault} :
    (percent value).outcome = .error fault ↔ value.Refused fault := by
  obtain ⟨falsy, hfalsy, hkept⟩ := exists_isFalsy value
  rw [outcome_percent_of_isFalsy hfalsy]
  split
  · exact iff_of_false nofun (hkept ‹_› fault)
  · have hshown : ∀ x : Binary64, ∃ text, (invariantFixed (x.mul percentScale) percentDecimals).map
        (· ++ percentSuffix) = .ok text := by
      intro x
      obtain ⟨text, htext⟩ := exists_invariantFixed fits_percentDecimals (x.mul percentScale)
      exact ⟨_, by rw [htext]; rfl⟩
    rw [bind_eq_error_iff hshown, toNumber_eq_error_iff]

/-- The value stands for a number or for `nan`, and is shown as a whole number and as a percentage. -/
structure Formats (value : Value) : Prop where
  number : ∃ x, value.toNumber.outcome = .ok x
  integer : ∃ text, (integer value).outcome = .ok text
  percent : ∃ text, (percent value).outcome = .ok text

/-- All values format but the refused ones, whose fault is that of each of the three functions. -/
theorem formats_or_refused (value : Value) :
    (value.Formats ↔ ∀ fault, ¬ value.Refused fault) ∧
      ∀ fault, value.Refused fault → value.toNumber.outcome = .error fault ∧
        (integer value).outcome = .error fault ∧ (percent value).outcome = .error fault := by
  refine ⟨⟨?_, ?_⟩, ?_⟩
  · rintro ⟨⟨x, hx⟩, -, -⟩ fault hrefused
    rw [toNumber_eq_error_iff value |>.mpr hrefused] at hx
    cases hx
  · intro h
    constructor
    · exact exists_ok_iff.mpr fun fault hfault => h fault (value.toNumber_eq_error_iff.mp hfault)
    · exact exists_ok_iff.mpr fun fault hfault => h fault (value.integer_eq_error_iff.mp hfault)
    · exact exists_ok_iff.mpr fun fault hfault => h fault (value.percent_eq_error_iff.mp hfault)
  · intro fault hrefused
    exact ⟨value.toNumber_eq_error_iff.mpr hrefused, value.integer_eq_error_iff.mpr hrefused,
      value.percent_eq_error_iff.mpr hrefused⟩

/-- A radix literal of `2 ^ 1024 - 1`, and a list of one whole number of 4301 digits. -/
theorem not_formats_of_large :
    ¬ (Value.text ('0' :: 'x' :: List.replicate 256 'f')).Formats ∧
      ¬ (Value.sequence .list [.int (10 ^ digitLimit)]).Formats := by
  have hradix : (Value.text ('0' :: 'x' :: List.replicate 256 'f')).toNumber.outcome =
      .error .beyondDouble := by
    decide +kernel
  have hlong : (Value.sequence .list [.int (10 ^ digitLimit)]).toNumber.outcome =
      .error .unwritableInteger := by
    decide +kernel
  constructor
  · rintro ⟨⟨x, hx⟩, -, -⟩
    cases hradix.symm.trans hx
  · rintro ⟨⟨x, hx⟩, -, -⟩
    cases hlong.symm.trans hx

end Value

end Scoreboard
