import Mathlib
import Scoreboard.Display.Fixed
import Scoreboard.Numeral.Literal
import Scoreboard.Value.Integer

/-!
# Reading numbers back

The text of a whole number is a run of digits that spell it.  Deleting the commas of a number with
a fixed count of decimals leaves the digits of the scaled number with a point among them, and a
whole number is read back from its own digits.
-/

namespace Scoreboard

/-! ## Runs of digits -/

def digitValue (c : Char) : Nat := c.toNat - 48

def AllDigits (text : Text) : Prop := ∀ c ∈ text, c.isDigit = true

theorem asciiDecimalValue?_digit {c : Char} (h : c.isDigit = true) :
    asciiDecimalValue? c = some (digitValue c) := by
  have hbounds : 48 ≤ c.toNat ∧ c.toNat ≤ 57 := by
    simpa [Char.isDigit, UInt32.le_iff_toNat_le] using h
  simp only [asciiDecimalValue?, digitValue]
  rw [if_pos (by omega)]

theorem decimalValue?_digit {c : Char} (h : c.isDigit = true) :
    decimalValue? c = some (digitValue c) :=
  decimalValue?_of_ascii (asciiDecimalValue?_digit h)

theorem ofDigits_map (digits : Text) :
    ofDigits 10 (digits.map digitValue) = Nat.ofDigitChars 10 digits 0 := by
  rw [Nat.ofDigitChars_eq_foldl, ofDigits, List.foldl_map]
  rfl

theorem allDigits_ofNat (n : Nat) : AllDigits (Text.ofNat n) := by
  intro c hc
  exact Nat.isDigit_of_mem_toDigits (by norm_num) (by norm_num) hc

theorem ofNat_ne_nil (n : Nat) : Text.ofNat n ≠ [] := Nat.toDigits_ne_nil

theorem ofDigitChars_ofNat (n : Nat) : Nat.ofDigitChars 10 (Text.ofNat n) 0 = n :=
  Nat.ofDigitChars_ten_toDigits

theorem length_ofNat_le {n k : Nat} (hk : 0 < k) (h : n < 10 ^ k) :
    (Text.ofNat n).length ≤ k :=
  (Nat.length_toDigits_le_iff (by norm_num) hk).mpr h

theorem ofDigits_ofNat (n : Nat) : ofDigits 10 ((Text.ofNat n).map digitValue) = n := by
  rw [ofDigits_map, ofDigitChars_ofNat]

/-! ## Numbers with a fixed count of decimals -/

def withoutCommas (text : Text) : Text := text.filter (· ≠ ',')

@[simp] theorem withoutCommas_append (s t : Text) :
    withoutCommas (s ++ t) = withoutCommas s ++ withoutCommas t :=
  List.filter_append ..

theorem eq_comma_or_mem_withoutCommas {text : Text} {c : Char} (h : c ∈ text) :
    c = ',' ∨ c ∈ withoutCommas text := by
  by_cases hcomma : c = ','
  · exact .inl hcomma
  · exact .inr (List.mem_filter.mpr ⟨h, by simpa using hcomma⟩)

theorem withoutCommas_digits {digits : Text} (h : AllDigits digits) :
    withoutCommas digits = digits := by
  unfold withoutCommas
  rw [List.filter_eq_self]
  intro c hc
  have := h c hc
  rw [decide_eq_true_iff]
  rintro rfl
  exact absurd this (by decide)

namespace Display

theorem withoutCommas_groupedFromLast (digits : Text) :
    withoutCommas (groupedFromLast digits) = withoutCommas digits := by
  induction digits using groupedFromLast.induct with
  | case1 a b c d rest ih =>
      have hcomma : withoutCommas [a, b, c, ','] = withoutCommas [a, b, c] := by
        simp [withoutCommas, List.filter_cons]
      change withoutCommas ([a, b, c, ','] ++ groupedFromLast (d :: rest)) =
        withoutCommas ([a, b, c] ++ d :: rest)
      rw [withoutCommas_append, withoutCommas_append, ih, hcomma]
  | case2 digits h =>
      rw [groupedFromLast]
      exact h

theorem withoutCommas_grouped (digits : Text) :
    withoutCommas (grouped digits) = withoutCommas digits := by
  have := withoutCommas_groupedFromLast digits.reverse
  unfold withoutCommas at this
  simp only [grouped, withoutCommas, List.filter_reverse, this, List.reverse_reverse]

theorem allDigits_padded {width : Nat} {digits : Text} (h : AllDigits digits) :
    AllDigits (padded width digits) := by
  intro c hc
  rcases List.mem_append.mp hc with hzero | hdigit
  · rw [List.eq_of_mem_replicate hzero]
    rfl
  · exact h c hdigit

theorem length_padded {width : Nat} {digits : Text} (h : digits.length ≤ width) :
    (padded width digits).length = width := by
  simp [padded]
  omega

theorem ofDigitChars_padded (width : Nat) (digits : Text) (start : Nat) :
    Nat.ofDigitChars 10 (padded width digits) start =
      Nat.ofDigitChars 10 digits (10 ^ (width - digits.length) * start) := by
  rw [padded, Nat.ofDigitChars_append, Nat.ofDigitChars_replicate_zero]

def decimalsText (scaled decimals : Nat) : Text :=
  if decimals = 0 then [] else '.' :: padded decimals (.ofNat (scaled % 10 ^ decimals))

theorem withoutCommas_unsignedText (scaled decimals : Nat) :
    withoutCommas (unsignedText scaled decimals) =
      .ofNat (scaled / 10 ^ decimals) ++ decimalsText scaled decimals := by
  have hwhole := withoutCommas_digits (allDigits_ofNat (scaled / 10 ^ decimals))
  rw [unsignedText, withoutCommas_append, withoutCommas_grouped, hwhole]
  congr 1
  unfold decimalsText
  split
  · rfl
  · have hpadded : AllDigits (padded decimals (.ofNat (scaled % 10 ^ decimals))) :=
      allDigits_padded (allDigits_ofNat _)
    have := withoutCommas_digits hpadded
    simpa [withoutCommas] using this

theorem withoutCommas_signed (negative : Bool) (text : Text) :
    withoutCommas (Binary64.signText negative ++ text) =
      Binary64.signText negative ++ withoutCommas text := by
  cases negative <;> rfl

theorem length_fraction {n decimals : Nat} (h : decimals ≠ 0) :
    (padded decimals (.ofNat (n % 10 ^ decimals))).length = decimals :=
  length_padded (length_ofNat_le (by omega) (Nat.mod_lt _ (by positivity)))

theorem ofDigitChars_fixed {scaled decimals : Nat} (h : decimals ≠ 0) :
    Nat.ofDigitChars 10 (Text.ofNat (scaled / 10 ^ decimals) ++
      padded decimals (.ofNat (scaled % 10 ^ decimals))) 0 = scaled := by
  have hlength : (Text.ofNat (scaled % 10 ^ decimals)).length ≤ decimals :=
    length_ofNat_le (by omega) (Nat.mod_lt _ (by positivity))
  rw [Nat.ofDigitChars_append, ofDigitChars_ofNat, ofDigitChars_padded,
    Nat.ofDigitChars_eq_ofDigitChars_zero, ofDigitChars_ofNat, ← mul_assoc, ← pow_add,
    Nat.add_sub_cancel' hlength]
  exact Nat.div_add_mod scaled (10 ^ decimals)

end Display

/-! ## Texts without blanks around -/

theorem Text.stripped_eq_self {blank : Char → Bool} {text : Text}
    (hfirst : ∀ c ∈ text.head?, blank c = false) (hlast : ∀ c ∈ text.getLast?, blank c = false) :
    text.stripped blank = text := by
  have hfirst : text.dropWhile blank = text := by
    cases text with
    | nil => rfl
    | cons c rest => simp [hfirst c rfl]
  have hlast : text.reverse.dropWhile blank = text.reverse := by
    rw [← List.head?_reverse] at hlast
    cases htext : text.reverse with
    | nil => rfl
    | cons c rest => simp [hlast c (by simp [htext])]
  rw [stripped, hfirst, hlast, List.reverse_reverse]

theorem isBlank_digit {c : Char} (h : c.isDigit = true) : isBlank c = false := by
  have hbounds : 48 ≤ c.toNat ∧ c.toNat ≤ 57 := by
    simpa [Char.isDigit, UInt32.le_iff_toNat_le] using h
  simp only [isBlank, isAsciiBlank, List.contains_cons, List.contains_nil, Bool.or_eq_false_iff,
    Bool.and_eq_false_iff, decide_eq_false_iff_not, beq_eq_false_iff_ne, and_true]
  omega

/-! ## Decimal digits of all scripts -/

/-- Decimal digits of any script, and one of them at least. -/
def Text.IsDecimal (text : Text) : Prop := text ≠ [] ∧ ∀ c ∈ text, isDecimalDigit c = true

instance (text : Text) : Decidable text.IsDecimal := inferInstanceAs (Decidable (_ ∧ _))

def Text.decimalNumber (text : Text) : Nat := ofDigits 10 (text.filterMap decimalValue?)

/-- The characters that may surround or join the digits of a numeral. -/
def numeralEdges : List Nat :=
  List.range' 0x09 5 ++ List.range' 0x2000 11 ++
    [0x20, 0x2B, 0x2D, 0x5F, 0x85, 0xA0, 0x1680, 0x2028, 0x2029, 0x202F, 0x205F, 0x3000]

theorem not_isDigitLike_of_edge {c : Char} (h : c.toNat ∈ numeralEdges) : isDigitLike c = false := by
  have hedges : ∀ n ∈ numeralEdges, isDigitLike (Char.ofNat n) = false := by decide +kernel
  rw [← Char.ofNat_toNat c]
  exact hedges _ h

theorem mem_numeralEdges_of_blank {c : Char} (h : isNumeralBlank c = true) :
    c.toNat ∈ numeralEdges := by
  simp only [isNumeralBlank, isBlank, isAsciiBlank, List.contains_cons, List.contains_nil,
    Bool.or_eq_true, Bool.and_eq_true, decide_eq_true_eq, beq_iff_eq, Bool.or_false] at h
  simp only [numeralEdges, List.mem_append, List.mem_range'_1, List.mem_cons, List.not_mem_nil,
    or_false]
  omega

variable {text : Text}

theorem stripped_digitLike (h : ∀ c ∈ text, isDigitLike c = true) :
    text.stripped isNumeralBlank = text := by
  have hblank : ∀ c ∈ text, isNumeralBlank c = false := by
    intro c hc
    by_contra hblank
    have := not_isDigitLike_of_edge (mem_numeralEdges_of_blank (by simpa using hblank))
    rw [h c hc] at this
    cases this
  apply Text.stripped_eq_self
  · exact fun c hc => hblank c (List.mem_of_mem_head? hc)
  · exact fun c hc => hblank c (List.mem_of_mem_getLast? hc)

theorem splitSign_digitLike (h : ∀ c ∈ text, isDigitLike c = true) :
    splitSign text = (false, text) := by
  have hsign : ∀ c ∈ text, c ≠ '-' ∧ c ≠ '+' := by
    intro c hc
    constructor <;> rintro rfl <;> exact absurd (h _ hc) (by decide +kernel)
  unfold splitSign
  split
  · exact absurd rfl (hsign '-' (by simp)).1
  · exact absurd rfl (hsign '+' (by simp)).2
  · rfl

theorem isDigitLike_of_isDecimalDigit {c : Char} (h : isDecimalDigit c = true) :
    isDigitLike c = true := by
  rw [isDigitLike, h, Bool.true_or]

theorem groupedDigits?_decimal (h : text.IsDecimal) :
    groupedDigits? decimalValue? text = some (text.filterMap decimalValue?) := by
  obtain ⟨hne, hdigits⟩ := h
  induction text using groupedDigits?.induct with
  | case1 => exact absurd rfl hne
  | case2 c =>
      obtain ⟨d, hd⟩ := Option.isSome_iff_exists.mp (hdigits c (by simp))
      simp [groupedDigits?, hd]
  | case3 c rest ih =>
      exact absurd (hdigits '_' (by simp)) (by decide +kernel)
  | case4 c rest hsingle hmark ih =>
      obtain ⟨d, hd⟩ := Option.isSome_iff_exists.mp (hdigits c (by simp))
      have hrest := ih (by simpa using hsingle) fun d hd => hdigits d (by simp [hd])
      rw [groupedDigits?]
      · simp [hd, hrest]
      · simpa using hsingle
      · simpa using hmark

/-- A text of decimal digits spells its number, up to the digit limit. -/
theorem readInteger_decimal (h : text.IsDecimal) :
    readInteger text =
      if digitLimit < text.length then .error (.unreadableInteger text.length)
      else .ok (text.decimalNumber : Int) := by
  have hlike := fun c hc => isDigitLike_of_isDecimalDigit (h.2 c hc)
  have hrun : ∀ c ∈ text, (decide (c = '_') || (decimalValue? c).isSome) = true := by
    intro c hc
    rw [Bool.or_eq_true]
    exact .inr (h.2 c hc)
  have htake : text.takeWhile (fun c => c = '_' || (decimalValue? c).isSome) = text :=
    List.takeWhile_eq_self_iff.mpr hrun
  have hdrop : text.dropWhile (fun c => c = '_' || (decimalValue? c).isSome) = [] :=
    List.dropWhile_eq_nil_iff.mpr hrun
  have hlength : (text.filterMap decimalValue?).length = text.length :=
    List.filterMap_length_eq_length.mpr h.2
  simp only [readInteger, readNumeral, stripped_digitLike hlike, splitSign_digitLike hlike, htake,
    hdrop, groupedDigits?_decimal h, hlength, if_true]
  rfl

theorem isDecimal_of_readInteger (hne : text ≠ []) (hlike : ∀ c ∈ text, isDigitLike c = true)
    {n : Int} (h : readInteger text = .ok n) : text.IsDecimal := by
  refine ⟨hne, fun c hc => ?_⟩
  simp only [readInteger, readNumeral, stripped_digitLike hlike, splitSign_digitLike hlike] at h
  split at h
  · cases h
  · split at h
    · cases h
    · split at h
      · rename_i hrest
        have hrun := List.dropWhile_eq_nil_iff.mp hrest c hc
        rw [Bool.or_eq_true, decide_eq_true_eq] at hrun
        rcases hrun with rfl | hdigit
        · exact absurd (hlike '_' hc) (by decide +kernel)
        · exact hdigit
      · cases h

/-! ## Whole numbers -/

theorem isDecimal_ofNat (n : Nat) : (Text.ofNat n).IsDecimal := by
  refine ⟨ofNat_ne_nil n, fun c hc => ?_⟩
  rw [isDecimalDigit, decimalValue?_digit (allDigits_ofNat n c hc)]
  rfl

theorem decimalNumber_ofNat (n : Nat) : (Text.ofNat n).decimalNumber = n := by
  have hvalues : (Text.ofNat n).filterMap decimalValue? = (Text.ofNat n).map digitValue :=
    List.filterMap_eq_map_iff_forall_eq_some.mpr fun c hc =>
      decimalValue?_digit (allDigits_ofNat n c hc)
  rw [Text.decimalNumber, hvalues, ofDigits_ofNat]

theorem readInteger_ofNat {n : Nat} (h : n < 10 ^ digitLimit) :
    readInteger (.ofNat n) = .ok (n : Int) := by
  have hlength := length_ofNat_le (by decide) h
  rw [readInteger_decimal (isDecimal_ofNat n), if_neg (by omega), decimalNumber_ofNat]

end Scoreboard
