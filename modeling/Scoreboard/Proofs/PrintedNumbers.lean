import Mathlib
import Scoreboard.Proofs.DecimalSpellings
import Scoreboard.Proofs.ShortestDecimals
import Scoreboard.Proofs.TextNumbers

/-!
# Printed numbers

Every layout that a number is printed in is digits with a point among them or before them, and
perhaps an exponent.  Such a text is a decimal spelling of the number that its digits stand for, so
that decimal numbers are read back exactly, and doubles if the digits chosen for them round back.
-/

namespace Scoreboard

namespace Sign

def ofNegative (negative : Bool) : Sign := if negative then .minus else .none

@[simp] theorem text_ofNegative (negative : Bool) :
    (ofNegative negative).text = Binary64.signText negative := by
  cases negative <;> rfl

@[simp] theorem isNegative_ofNegative (negative : Bool) :
    (ofNegative negative).isNegative = negative := by
  cases negative <;> rfl

end Sign

theorem digitsNumber_zeros_append (n : Nat) (digits : Text) :
    digitsNumber (List.replicate n '0' ++ digits) = digitsNumber digits := by
  rw [digitsNumber, Nat.ofDigitChars_append, Nat.ofDigitChars_replicate_zero, Nat.mul_zero,
    digitsNumber]

theorem digitsNumber_append_zeros (digits : Text) (n : Nat) :
    digitsNumber (digits ++ List.replicate n '0') = digitsNumber digits * 10 ^ n := by
  rw [digitsNumber, Nat.ofDigitChars_append, Nat.ofDigitChars_replicate_zero, Nat.mul_comm,
    digitsNumber]

theorem allDigits_zeros (n : Nat) : AllDigits (List.replicate n '0') := by
  intro c hc
  rw [List.eq_of_mem_replicate hc]
  rfl

theorem AllDigits.append {s t : Text} (hs : AllDigits s) (ht : AllDigits t) : AllDigits (s ++ t) :=
  List.forall_mem_append.mpr ⟨hs, ht⟩

/-! ## Digits with a point -/

section Parts

variable (digits : Text) (position : Int)

/-- The digits before the point, which are none if the point stands before all of them. -/
def pointedWhole : Text := if position ≤ 0 then ['0'] else digits.take position.toNat

def pointedFraction : Option Text :=
  if position ≤ 0 then some (List.replicate (-position).toNat '0' ++ digits)
  else if digits.length ≤ position.toNat then none
  else some (digits.drop position.toNat)

theorem pointed_eq : Decimal.pointed digits position =
    pointedWhole digits position ++ (pointedFraction digits position).elim [] ('.' :: ·) := by
  unfold Decimal.pointed pointedWhole pointedFraction
  split
  · rfl
  · split
    · rw [List.take_of_length_le ‹_›]
      exact (List.append_nil digits).symm
    · rfl

theorem digitsNumber_parts :
    digitsNumber (pointedWhole digits position ++ (pointedFraction digits position).getD []) =
      digitsNumber digits := by
  unfold pointedWhole pointedFraction
  split
  · rw [Option.getD_some, List.singleton_append, ← List.cons_append, ← List.replicate_succ]
    exact digitsNumber_zeros_append _ digits
  · split
    · rw [List.take_of_length_le ‹_›, Option.getD_none, List.append_nil]
    · rw [Option.getD_some, List.take_append_drop]

variable {digits position}

theorem length_pointedFraction (h : position ≤ digits.length) :
    (((pointedFraction digits position).getD []).length : Int) = digits.length - position := by
  unfold pointedFraction
  split_ifs <;> simp <;> omega

theorem allDigits_pointedWhole (h : AllDigits digits) : AllDigits (pointedWhole digits position) := by
  unfold pointedWhole
  split
  · exact allDigits_zeros 1
  · exact fun c hc => h c (List.mem_of_mem_take hc)

theorem allDigits_pointedFraction (h : AllDigits digits) :
    AllDigits ((pointedFraction digits position).getD []) := by
  unfold pointedFraction
  split_ifs
  · exact (allDigits_zeros _).append h
  · exact nofun
  · exact fun c hc => h c (List.mem_of_mem_drop hc)

theorem pointedParts_ne_nil (h : digits ≠ []) :
    pointedWhole digits position ++ (pointedFraction digits position).getD [] ≠ [] := by
  unfold pointedWhole pointedFraction
  split_ifs
  · exact List.cons_ne_nil _ _
  · rw [List.take_of_length_le ‹_›]
    simpa using h
  · simpa using h

end Parts

/-! ## Spelled numbers -/

/-- The text is a decimal spelling of the number of this sign and magnitude. -/
def Spells (text : Text) (negative : Bool) (q : Rat) : Prop :=
  ∃ spelling : DecimalSpelling,
    spelling.text = text ∧ spelling.sign.isNegative = negative ∧ |spelling.value| = q

theorem Spells.readNumber_eq {text : Text} {negative : Bool} {q : Rat} {x : Binary64}
    (h : Spells text negative q) : readNumber text = .ok x ↔ Binary64.IsRounding negative q x := by
  obtain ⟨spelling, rfl, rfl, rfl⟩ := h
  have hparts := isRounding_iff_toBinary64 (spelling.parts DecimalSpelling.readsAscii_decimal) (x := x)
  rw [DecimalSpelling.value_parts, DecimalSpelling.literal_parts] at hparts
  rw [DecimalSpelling.readNumber_text, Except.ok.injEq, ← hparts]
  rfl

theorem spells_pointed (negative : Bool) {digits : Text} (hdigits : AllDigits digits)
    (hne : digits ≠ []) {position : Int} (hposition : position ≤ digits.length)
    (exponent : Option ExponentPart) :
    Spells (Binary64.signText negative ++
        (Decimal.pointed digits position ++ exponent.elim [] ExponentPart.text)) negative
      (digitsNumber digits *
        10 ^ (exponent.elim 0 ExponentPart.number + (position - digits.length))) := by
  let spelling : DecimalSpelling :=
    { sign := .ofNegative negative
      whole := pointedWhole digits position
      fraction := pointedFraction digits position
      exponent := exponent
      whole_digits := allDigits_pointedWhole hdigits
      fraction_digits := allDigits_pointedFraction hdigits
      digits_ne_nil := pointedParts_ne_nil hne }
  have hliteral : spelling.literal = ⟨negative, digitsNumber digits,
      exponent.elim 0 ExponentPart.number + (position - digits.length)⟩ := by
    have hnumber : digitsNumber (spelling.whole ++ spelling.fractionDigits) = digitsNumber digits :=
      digitsNumber_parts digits position
    have hlength : (spelling.fractionDigits.length : Int) = digits.length - position :=
      length_pointedFraction hposition
    have hexponent : spelling.exponentNumber = exponent.elim 0 ExponentPart.number := rfl
    rw [DecimalSpelling.literal, hnumber, hlength, hexponent, Sign.isNegative_ofNegative]
    congr 1
    omega
  refine ⟨spelling, ?_, Sign.isNegative_ofNegative negative, ?_⟩
  · rw [pointed_eq, List.append_assoc, ← Sign.text_ofNegative]
    rfl
  · rw [DecimalSpelling.value_eq, Literal.abs_value_eq_zpow, hliteral]

/-! ## Whole numbers and decimal numbers -/

theorem digitsNumber_ofNat (n : Nat) : digitsNumber (.ofNat n) = n := ofDigitChars_ofNat n

theorem signText_eq (negative : Bool) : Decimal.signText negative = Binary64.signText negative := rfl

theorem spells_digits (negative : Bool) {digits : Text} (hdigits : AllDigits digits)
    (hne : digits ≠ []) :
    Spells (Binary64.signText negative ++ digits) negative (digitsNumber digits) := by
  have hlength : 0 < digits.length := List.length_pos_iff.mpr hne
  have hpointed : Decimal.pointed digits digits.length = digits := by
    unfold Decimal.pointed
    rw [if_neg (by omega), if_pos (by omega)]
  have := spells_pointed negative hdigits hne le_rfl none
  simpa [hpointed] using this

theorem ofInt_eq (n : Int) : Text.ofInt n = Binary64.signText (n < 0) ++ .ofNat n.natAbs := by
  unfold Text.ofInt Binary64.signText
  by_cases hneg : n < 0 <;> simp [hneg]

theorem spells_ofInt (n : Int) : Spells (.ofInt n) (n < 0) |(n : Rat)| := by
  have := spells_digits (n < 0) (allDigits_ofNat n.natAbs) (ofNat_ne_nil _)
  rw [ofInt_eq]
  simpa [digitsNumber_ofNat, Nat.cast_natAbs] using this

/-- One digit before the point, and an exponent with a sign. -/
theorem spells_exponential (negative : Bool) {digits shown : Text} (hdigits : AllDigits digits)
    (hne : digits ≠ []) {mark : Char} (hmark : mark = 'e' ∨ mark = 'E') {exponent : Int}
    (hshown : AllDigits shown) (hshownNe : shown ≠ [])
    (hnumber : digitsNumber shown = exponent.natAbs) :
    Spells (Binary64.signText negative ++ (Decimal.pointed digits 1 ++
        mark :: (if exponent < 0 then '-' else '+') :: shown)) negative
      (digitsNumber digits * 10 ^ (exponent + (1 - digits.length))) := by
  let part : ExponentPart :=
    ⟨mark, if exponent < 0 then .minus else .plus, shown, hmark, hshown, hshownNe⟩
  have htext : part.text = mark :: (if exponent < 0 then '-' else '+') :: shown := by
    change mark :: ((if exponent < 0 then Sign.minus else Sign.plus).text ++ shown) = _
    split <;> rfl
  have hpart : part.number = exponent := by
    change signedNumber (if exponent < 0 then Sign.minus else Sign.plus).isNegative
      (digitsNumber shown) = exponent
    rw [hnumber]
    split
    · exact (Int.eq_neg_natAbs_of_nonpos (by omega)).symm
    · exact Int.natAbs_of_nonneg (by omega)
  have hlength : 0 < digits.length := List.length_pos_iff.mpr hne
  have hfirst : (1 : Int) ≤ digits.length := by omega
  have := spells_pointed negative hdigits hne hfirst (some part)
  rwa [Option.elim_some, Option.elim_some, htext, hpart] at this

theorem spells_decimal (negative : Bool) (coefficient : Nat) (exponent : Int) :
    Spells (Decimal.finite negative coefficient exponent).text negative
      (coefficient * 10 ^ exponent) := by
  have hdigits := allDigits_ofNat coefficient
  have hne := ofNat_ne_nil coefficient
  rw [Decimal.text, signText_eq, Decimal.finiteText]
  split
  · next hplain =>
      have hposition : (Text.ofNat coefficient).length + exponent ≤
          (Text.ofNat coefficient).length := by omega
      have := spells_pointed negative hdigits hne hposition none
      simpa [digitsNumber_ofNat] using this
  · have := spells_exponential negative hdigits hne (.inr rfl)
      (allDigits_ofNat ((Text.ofNat coefficient).length + exponent - 1).natAbs) (ofNat_ne_nil _)
      (digitsNumber_ofNat _)
    rw [digitsNumber_ofNat] at this
    convert this using 2
    congr 1
    omega

/-! ## Doubles -/

namespace Binary64

theorem exists_withoutTrailingZeros (digits : Text) :
    ∃ n, digits = withoutTrailingZeros digits ++ List.replicate n '0' := by
  set zeros := digits.reverse.takeWhile (· = '0') with hzeros
  have hreplicate : zeros = List.replicate zeros.length '0' :=
    List.eq_replicate_of_mem fun c hc => by simpa using List.mem_takeWhile_imp hc
  refine ⟨zeros.length, ?_⟩
  rw [← List.reverse_replicate, ← hreplicate, withoutTrailingZeros, ← List.reverse_append, hzeros,
    List.takeWhile_append_dropWhile, List.reverse_reverse]

theorem allDigits_withoutTrailingZeros {digits : Text} (h : AllDigits digits) :
    AllDigits (withoutTrailingZeros digits) := by
  intro c hc
  have := (List.dropWhile_sublist _).subset (List.mem_reverse.mp hc)
  exact h c (List.mem_reverse.mp this)

/-- A positional text is that of the digits with zeros up to the first decimal. -/
theorem positional_eq {digits : Text} (hne : digits ≠ []) (position : Int) :
    positional digits position ['.', '0'] =
      Decimal.pointed (digits ++ List.replicate (position.toNat + 1 - digits.length) '0')
        position := by
  have hlength : 0 < digits.length := List.length_pos_iff.mpr hne
  unfold positional Decimal.pointed
  rcases lt_or_ge 0 position with hpos | hnonpos
  · simp only [if_neg (not_le.mpr hpos)]
    rcases Nat.lt_or_ge position.toNat digits.length with hinside | hbehind
    · have hnone : position.toNat + 1 - digits.length = 0 := by omega
      rw [if_neg (not_le.mpr hinside), hnone, List.replicate_zero, List.append_nil,
        if_neg (not_le.mpr hinside)]
    · obtain ⟨n, hn⟩ := Nat.exists_eq_add_of_le hbehind
      have hzeros : digits.length + n + 1 - digits.length = n + 1 := by omega
      rw [if_pos hbehind, hn, hzeros, Nat.add_sub_cancel_left,
        if_neg (by rw [List.length_append, List.length_replicate]; omega),
        List.take_length_add_append, List.drop_length_add_append]
      simp
  · have hnone : position.toNat + 1 - digits.length = 0 := by omega
    rw [if_pos hnonpos, if_pos hnonpos, hnone, List.replicate_zero, List.append_nil]

theorem exponential_eq {digits : Text} (hne : digits ≠ []) (exponent : Int) :
    exponential digits exponent = Decimal.pointed digits 1 ++ 'e' :: exponentText exponent := by
  cases digits with
  | nil => exact absurd rfl hne
  | cons d rest => cases rest <;> rfl

theorem spells_positional (negative : Bool) {digits : Text} (hdigits : AllDigits digits)
    (hne : digits ≠ []) (position : Int) :
    Spells (signText negative ++ positional digits position ['.', '0']) negative
      (digitsNumber digits * 10 ^ (position - digits.length)) := by
  have hlength : 0 < digits.length := List.length_pos_iff.mpr hne
  set n := position.toNat + 1 - digits.length with hn
  have hposition : position ≤ (digits ++ List.replicate n '0').length := by
    rw [List.length_append, List.length_replicate]
    omega
  have := spells_pointed negative (hdigits.append (allDigits_zeros n))
    (List.append_ne_nil_of_left_ne_nil hne _) hposition none
  rw [Option.elim_none, List.append_nil, ← positional_eq hne, digitsNumber_append_zeros] at this
  convert this using 1
  rw [Option.elim_none, List.length_append, List.length_replicate]
  push_cast
  rw [mul_assoc, ← zpow_natCast, ← zpow_add₀ (by norm_num)]
  congr 2
  omega

theorem spells_exponentialText (negative : Bool) {digits : Text} (hdigits : AllDigits digits)
    (hne : digits ≠ []) (exponent : Int) :
    Spells (signText negative ++ exponential digits exponent) negative
      (digitsNumber digits * 10 ^ (exponent + (1 - digits.length))) := by
  obtain ⟨n, hn⟩ : ∃ n, exponentText exponent = (if exponent < 0 then '-' else '+') ::
      (List.replicate n '0' ++ Text.ofNat exponent.natAbs) := by
    unfold exponentText
    by_cases hshort : (Text.ofNat exponent.natAbs).length < 2
    · exact ⟨1, by simp [hshort]⟩
    · exact ⟨0, by simp [hshort]⟩
  rw [exponential_eq hne, hn]
  apply spells_exponential negative hdigits hne (.inl rfl)
  · exact (allDigits_zeros n).append (allDigits_ofNat _)
  · exact List.append_ne_nil_of_right_ne_nil _ (ofNat_ne_nil _)
  · rw [digitsNumber_zeros_append, digitsNumber_ofNat]

/-- The text of a decimal spells it, in either layout. -/
theorem spells_pointText (negative : Bool) {point : DecimalPoint} (hpos : point.coefficient ≠ 0)
    (width units : Nat) :
    Spells (signText negative ++ pointText point width units ['.', '0']) negative point.value := by
  have hwritten := allDigits_withoutTrailingZeros (allDigits_ofNat point.coefficient)
  obtain ⟨n, hn⟩ := exists_withoutTrailingZeros (Text.ofNat point.coefficient)
  have hnumber : point.coefficient =
      digitsNumber (withoutTrailingZeros (Text.ofNat point.coefficient)) * 10 ^ n := by
    rw [← digitsNumber_append_zeros, ← hn, digitsNumber_ofNat]
  have hlength := congrArg List.length hn
  rw [List.length_append, List.length_replicate] at hlength
  have hne : withoutTrailingZeros (Text.ofNat point.coefficient) ≠ [] := by
    intro hnil
    rw [hnil] at hnumber
    exact hpos (by simpa [digitsNumber] using hnumber)
  have hvalue : point.value = digitsNumber (withoutTrailingZeros (Text.ofNat point.coefficient)) *
      10 ^ (n + point.exponent) := by
    conv_lhs => rw [DecimalPoint.value, hnumber]
    push_cast
    rw [mul_assoc, ← zpow_natCast, ← zpow_add₀ (by norm_num)]
  rw [pointText, hvalue]
  split
  · convert spells_positional negative hwritten hne _ using 2
    congr 1
    omega
  · convert spells_exponentialText negative hwritten hne _ using 2
    congr 1
    omega

theorem spells_zero (negative : Bool) :
    Spells (signText negative ++ ['0', '.', '0']) negative 0 := by
  have hzero : ['0'] ≠ [] := List.cons_ne_nil '0' []
  have hnumber : digitsNumber ['0'] = 0 := rfl
  have := spells_positional negative (allDigits_zeros 1) hzero 1
  simpa [positional, hnumber] using this

/-- A finite number is spelled by the text with any decimal for it that is zero only if it is. -/
theorem spells_textWith {shortest : Magnitude → DecimalPoint} {magnitude : Magnitude}
    (h : 0 < magnitude.units → (shortest magnitude).coefficient ≠ 0) (width : Nat) (negative : Bool) :
    Spells (textWith shortest width ['.', '0'] (.finite negative magnitude)) negative
      (if magnitude.units = 0 then 0 else (shortest magnitude).value) := by
  rw [textWith]
  split
  · exact spells_zero negative
  · exact spells_pointText negative (h (Nat.pos_of_ne_zero ‹_›)) _ _

/-- The text of a finite double spells a decimal with the fewest digits that reads back as it. -/
theorem exists_isShortest_text (negative : Bool) (magnitude : Magnitude) :
    ∃ point, magnitude.IsShortest point ∧
      Spells (text (.finite negative magnitude)) negative point.value := by
  have hspells : Spells (text (.finite negative magnitude)) negative
      (if magnitude.units = 0 then 0 else (shortest magnitude).value) :=
    spells_textWith shortest_ne_zero positionalWidth negative
  rcases Nat.eq_zero_or_pos magnitude.units with hzero | hpos
  · refine ⟨_, Magnitude.isShortest_zero hzero, ?_⟩
    simpa [hzero, DecimalPoint.value] using hspells
  · refine ⟨_, Magnitude.isShortest_shortest hpos, ?_⟩
    simpa [hpos.ne'] using hspells

end Binary64

end Scoreboard
