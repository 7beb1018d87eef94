import Mathlib
import Scoreboard.Proofs.Literals
import Scoreboard.Proofs.Refusals

/-!
# Decimal spellings

A decimal spelling has an optional sign, digits with an optional point, and an optional exponent.
Texts, byte strings and decimal numbers read it alike, as the literal of its exact number; and what
the display writes for a number is one, up to the commas.
-/

namespace Scoreboard

/-! ## Decimal spellings -/

def digitsNumber (digits : Text) : Nat := Nat.ofDigitChars 10 digits 0

structure ExponentPart where
  mark : Char
  sign : Sign
  digits : Text
  mark_eq : mark = 'e' ∨ mark = 'E'
  allDigits : AllDigits digits
  digits_ne_nil : digits ≠ []

namespace ExponentPart

def text (part : ExponentPart) : Text := part.mark :: (part.sign.text ++ part.digits)

def number (part : ExponentPart) : Int :=
  signedNumber part.sign.isNegative (digitsNumber part.digits)

end ExponentPart

/-- A decimal literal in ASCII; without a point there is no fraction, and there is one digit at least. -/
structure DecimalSpelling where
  sign : Sign
  whole : Text
  fraction : Option Text
  exponent : Option ExponentPart
  whole_digits : AllDigits whole
  fraction_digits : AllDigits (fraction.getD [])
  digits_ne_nil : whole ++ fraction.getD [] ≠ []

namespace DecimalSpelling

variable (spelling : DecimalSpelling)

def fractionText : Text := spelling.fraction.elim [] ('.' :: ·)

def exponentText : Text := spelling.exponent.elim [] ExponentPart.text

def body : Text := spelling.whole ++ (spelling.fractionText ++ spelling.exponentText)

def text : Text := spelling.sign.text ++ spelling.body

def fractionDigits : Text := spelling.fraction.getD []

def exponentNumber : Int := spelling.exponent.elim 0 ExponentPart.number

/-- The exact number that is spelled. -/
def value : Rat :=
  (if spelling.sign.isNegative then -1 else 1) *
    (digitsNumber spelling.whole +
      digitsNumber spelling.fractionDigits / 10 ^ spelling.fractionDigits.length) *
    10 ^ spelling.exponentNumber

def literal : Literal where
  negative := spelling.sign.isNegative
  coefficient := digitsNumber (spelling.whole ++ spelling.fractionDigits)
  exponent := spelling.exponentNumber - spelling.fractionDigits.length

/-! ## The literal of a spelling -/

/-- The class of digits has those of ASCII with their values, and none of the marks of a literal. -/
structure ReadsAscii (value? : Char → Option Nat) : Prop where
  digit : ∀ c, c.isDigit = true → value? c = some (digitValue c)
  spares : SparesMarks value?

theorem readsAscii_decimal : ReadsAscii decimalValue? :=
  ⟨fun _ => decimalValue?_digit, sparesMarks_decimal⟩

theorem readsAscii_ascii : ReadsAscii asciiDecimalValue? :=
  ⟨fun _ => asciiDecimalValue?_digit, sparesMarks_ascii⟩

section ReadsAscii

variable {value? : Char → Option Nat} (hvalue : ReadsAscii value?)

include hvalue

theorem digitsOf_allDigits {digits : Text} (h : AllDigits digits) : DigitsOf value? digits := by
  intro c hc
  rw [hvalue.digit c (h c hc)]
  rfl

theorem numberOf_allDigits {digits : Text} (h : AllDigits digits) :
    numberOf value? digits = digitsNumber digits := by
  have hvalues : digits.filterMap value? = digits.map digitValue :=
    List.filterMap_eq_map_iff_forall_eq_some.mpr fun c hc => hvalue.digit c (h c hc)
  rw [numberOf, hvalues, ofDigits_map, digitsNumber]

variable (spelling : DecimalSpelling)

omit hvalue in
theorem allDigits_append : AllDigits (spelling.whole ++ spelling.fractionDigits) :=
  List.forall_mem_append.mpr ⟨spelling.whole_digits, spelling.fraction_digits⟩

/-- The parts of the spelling, as those of a literal with digits of the class. -/
def parts : LiteralParts value? where
  sign := spelling.sign
  whole := spelling.whole
  fraction := spelling.fraction
  exponent := spelling.exponent.map fun part =>
    ⟨part.mark, part.sign, part.digits, part.mark_eq, digitsOf_allDigits hvalue part.allDigits,
      part.digits_ne_nil⟩
  whole_digits := digitsOf_allDigits hvalue spelling.whole_digits
  fraction_digits := digitsOf_allDigits hvalue spelling.fraction_digits
  digits_ne_nil := spelling.digits_ne_nil

theorem body_parts : (spelling.parts hvalue).body = spelling.body := by
  have hexponent : (spelling.parts hvalue).exponentText = spelling.exponentText := by
    unfold LiteralParts.exponentText parts exponentText
    cases spelling.exponent <;> rfl
  rw [LiteralParts.body, hexponent]
  rfl

theorem text_parts : (spelling.parts hvalue).text = spelling.text := by
  rw [LiteralParts.text, body_parts]
  rfl

theorem exponentNumber_parts : (spelling.parts hvalue).exponentNumber = spelling.exponentNumber := by
  unfold LiteralParts.exponentNumber parts exponentNumber
  cases spelling.exponent with
  | none => rfl
  | some part =>
      have hdigits := numberOf_allDigits hvalue part.allDigits
      simp [ExponentParts.number, ExponentPart.number, hdigits]

theorem literal_parts : (spelling.parts hvalue).literal = spelling.literal := by
  rw [LiteralParts.literal, literal, exponentNumber_parts]
  congr 1
  exact numberOf_allDigits hvalue (allDigits_append spelling)

theorem value_parts : (spelling.parts hvalue).value = spelling.value := by
  have hwhole : numberOf value? (spelling.parts hvalue).whole = digitsNumber spelling.whole :=
    numberOf_allDigits hvalue spelling.whole_digits
  have hfraction : numberOf value? (spelling.parts hvalue).fractionDigits =
      digitsNumber spelling.fractionDigits :=
    numberOf_allDigits hvalue spelling.fraction_digits
  rw [LiteralParts.value, value, exponentNumber_parts, hwhole, hfraction]
  rfl

variable {spelling}

/-- Every class of digits that has those of ASCII reads the literal of a spelling. -/
theorem read?_text : Literal.read? value? spelling.text = some spelling.literal := by
  rw [← text_parts hvalue, ← literal_parts hvalue]
  exact LiteralParts.read?_text hvalue.spares _

end ReadsAscii

variable {spelling : DecimalSpelling}

theorem splitSign_spelling :
    splitSign spelling.text = (spelling.sign.isNegative, spelling.body) := by
  have hbody := LiteralParts.head?_body sparesMarks_decimal (spelling.parts readsAscii_decimal)
  rw [body_parts] at hbody
  exact splitSign_text spelling.sign hbody

theorem value_eq : spelling.value = spelling.literal.value := by
  rw [← value_parts readsAscii_decimal, LiteralParts.value_eq, literal_parts]

/-! ## The characters of a spelling -/

def literalChars : List Char :=
  ['0', '1', '2', '3', '4', '5', '6', '7', '8', '9', '.', 'e', 'E', '+', '-']

/-- No character of a literal is left out by a reader, or begins a word or a radix literal. -/
structure IsPlain (c : Char) : Prop where
  blank : isBlank c = false
  unmarked : radixOf? c = none
  joined : c ≠ '_'
  wordless : c ≠ 'n'
  lowered : c.toLower ≠ 'n'
  ascii : c.toNat < 128

theorem isPlain_of_mem {c : Char} (h : c ∈ literalChars) : IsPlain c := by
  have hall : literalChars.all (fun c => isBlank c == false && radixOf? c == none && c != '_' &&
      c != 'n' && c.toLower != 'n' && decide (c.toNat < 128)) = true := by
    decide +kernel
  have hc := List.all_eq_true.mp hall c h
  simp only [Bool.and_eq_true, beq_iff_eq, bne_iff_ne, decide_eq_true_eq, and_assoc] at hc
  obtain ⟨hblank, hunmarked, hjoined, hwordless, hlowered, hascii⟩ := hc
  exact ⟨hblank, hunmarked, hjoined, hwordless, hlowered, hascii⟩

theorem mem_literalChars_of_isDigit {c : Char} (h : c.isDigit = true) : c ∈ literalChars := by
  have hbounds : 48 ≤ c.toNat ∧ c.toNat ≤ 57 := by
    simpa [Char.isDigit, UInt32.le_iff_toNat_le] using h
  obtain ⟨hlow, hhigh⟩ := hbounds
  rw [← Char.ofNat_toNat c]
  interval_cases c.toNat <;> decide

theorem subset_literalChars : spelling.text ⊆ literalChars := by
  have hsign : ∀ sign : Sign, sign.text ⊆ literalChars := by
    intro sign
    cases sign <;> decide
  have hdigits {digits : Text} (h : AllDigits digits) : digits ⊆ literalChars :=
    fun c hc => mem_literalChars_of_isDigit (h c hc)
  have hfraction : spelling.fractionText ⊆ literalChars := by
    have := hdigits spelling.fraction_digits
    unfold fractionText
    cases hfraction : spelling.fraction with
    | none => simp
    | some digits =>
        rw [hfraction] at this
        exact List.cons_subset.mpr ⟨by decide, this⟩
  have hexponent : spelling.exponentText ⊆ literalChars := by
    unfold exponentText
    cases spelling.exponent with
    | none => simp
    | some part =>
        have hmark : part.mark ∈ literalChars := by
          rcases part.mark_eq with heq | heq <;> rw [heq] <;> decide
        exact List.cons_subset.mpr ⟨hmark, List.append_subset.mpr ⟨hsign _, hdigits part.allDigits⟩⟩
  simp only [text, body, List.append_subset]
  exact ⟨hsign _, hdigits spelling.whole_digits, hfraction, hexponent⟩

theorem isPlain_of_mem_text {c : Char} (h : c ∈ spelling.text) : IsPlain c :=
  isPlain_of_mem (subset_literalChars h)

theorem stripped_text {blank : Char → Bool} (h : ∀ c, blank c = true → isBlank c = true) :
    spelling.text.stripped blank = spelling.text := by
  have hblank : ∀ c ∈ spelling.text, blank c = false := by
    intro c hc
    by_contra hblank
    have := h c (by simpa using hblank)
    rw [(isPlain_of_mem_text hc).blank] at this
    cases this
  apply Text.stripped_eq_self
  · exact fun c hc => hblank c (List.mem_of_mem_head? hc)
  · exact fun c hc => hblank c (List.mem_of_mem_getLast? hc)

theorem text_ne_nil : spelling.text ≠ [] := by
  intro hnil
  have hread : Literal.read? decimalValue? spelling.text = some spelling.literal :=
    read?_text readsAscii_decimal
  rw [hnil] at hread
  cases hread

/-! ## The readers -/

theorem readNumber_text : readNumber spelling.text = .ok spelling.literal.toBinary64 := by
  have htrimmed : spelling.text.trimmed = spelling.text := stripped_text fun _ => id
  apply readNumber_decimal
  rw [htrimmed, read?_text readsAscii_decimal]

/-- No word of infinity or of `nan` is left of a body in small letters. -/
theorem body_ne_word {word : Text} (h : 'n' ∈ word) : spelling.body.map Char.toLower ≠ word := by
  rintro rfl
  obtain ⟨c, hc, hlower⟩ := List.mem_map.mp h
  exact (isPlain_of_mem_text (List.mem_append_right _ hc)).lowered hlower

theorem withoutUnderscores?_eq {value? : Char → Option Nat} {text : Text}
    (h : ∀ c ∈ text, c ≠ '_') : withoutUnderscores? value? text = some text := by
  induction text with
  | nil => rfl
  | cons c rest ih =>
      rw [withoutUnderscores?, ih fun d hd => h d (by simp [hd])]
      · rfl
      · rintro rfl
        exact h '_' (by simp) rfl
      · rintro d others rfl
        exact h '_' (by simp) rfl

theorem readFree?_text {blank : Char → Bool} {value? : Char → Option Nat}
    (hblank : ∀ c, blank c = true → isBlank c = true) (hvalue : ReadsAscii value?) :
    readFree? blank value? spelling.text = some spelling.literal.toBinary64 := by
  have hjoined : withoutUnderscores? value? spelling.text = some spelling.text :=
    withoutUnderscores?_eq fun c hc => (isPlain_of_mem_text hc).joined
  have hinf : spelling.body.map Char.toLower ≠ "inf".toList := body_ne_word (by decide)
  have hinfinity : spelling.body.map Char.toLower ≠ "infinity".toList := body_ne_word (by decide)
  have hnan : spelling.body.map Char.toLower ≠ "nan".toList := body_ne_word (by decide)
  simp only [readFree?, stripped_text hblank, hjoined, splitSign_spelling, hinf, hinfinity, hnan,
    read?_text hvalue, or_self, if_false, Option.bind_eq_bind, Option.bind_some, Option.pure_def]

def bytes (spelling : DecimalSpelling) : List UInt8 :=
  spelling.text.map fun c => UInt8.ofNat c.toNat

theorem byteChars_bytes : byteChars spelling.bytes = spelling.text := by
  have hchar : ∀ c ∈ spelling.text, Char.ofNat (UInt8.ofNat c.toNat).toNat = c := by
    intro c hc
    have hascii := (isPlain_of_mem_text hc).ascii
    rw [UInt8.toNat_ofNat_of_lt' (hascii.trans (by decide)), Char.ofNat_toNat]
  rw [byteChars, bytes, List.map_map]
  exact (List.map_congr_left hchar).trans (List.map_id' _)

theorem readBytes?_bytes : readBytes? spelling.bytes = some spelling.literal.toBinary64 := by
  rw [readBytes?, byteChars_bytes]
  exact readFree?_text (fun _ => isBlank_of_isAsciiBlank) readsAscii_ascii

theorem ofText?_text : Decimal.ofText? spelling.text =
    some (.finite spelling.literal.negative spelling.literal.coefficient
      spelling.literal.exponent) := by
  have htrimmed : spelling.text.trimmed = spelling.text := stripped_text fun _ => id
  have hjoined : spelling.text.filter (· ≠ '_') = spelling.text :=
    List.filter_eq_self.mpr fun c hc => by simpa using (isPlain_of_mem_text hc).joined
  have hspecial : Decimal.special? spelling.sign.isNegative (spelling.body.map Char.toLower) =
      none := by
    have hinf : spelling.body.map Char.toLower ≠ "inf".toList := body_ne_word (by decide)
    have hinfinity : spelling.body.map Char.toLower ≠ "infinity".toList := body_ne_word (by decide)
    have htake {n : Nat} {word : Text} (h : 'n' ∈ word) :
        (spelling.body.map Char.toLower).take n ≠ word := by
      rintro rfl
      exact body_ne_word (List.mem_of_mem_take h) rfl
    have hnan : (spelling.body.map Char.toLower).take 3 ≠ "nan".toList := htake (by decide)
    have hsnan : (spelling.body.map Char.toLower).take 4 ≠ "snan".toList := htake (by decide)
    simp only [Decimal.special?, hinf, hinfinity, hnan, hsnan, or_self, if_false]
  simp only [Decimal.ofText?, htrimmed, hjoined, splitSign_spelling, hspecial,
    read?_text readsAscii_decimal, Option.map_some]

end DecimalSpelling

/-! ## Displayed numbers -/

namespace Display

variable (negative : Bool) (scaled decimals : Nat)

/-- The spelling of `± scaled / 10 ^ decimals` with this many decimals. -/
def spelling : DecimalSpelling where
  sign := if negative then .minus else .none
  whole := .ofNat (scaled / 10 ^ decimals)
  fraction :=
    if decimals = 0 then none else some (padded decimals (.ofNat (scaled % 10 ^ decimals)))
  exponent := none
  whole_digits := allDigits_ofNat _
  fraction_digits := by
    split
    · simp [AllDigits]
    · exact allDigits_padded (allDigits_ofNat _)
  digits_ne_nil := by simp [ofNat_ne_nil]

theorem text_spelling : (spelling negative scaled decimals).text =
    Binary64.signText negative ++ withoutCommas (unsignedText scaled decimals) := by
  have hsign : (spelling negative scaled decimals).sign.text = Binary64.signText negative := by
    cases negative <;> rfl
  have hfraction :
      (spelling negative scaled decimals).fractionText = decimalsText scaled decimals := by
    by_cases hzero : decimals = 0 <;>
      simp [DecimalSpelling.fractionText, spelling, decimalsText, hzero]
  have hexponent : (spelling negative scaled decimals).exponentText = [] := rfl
  rw [withoutCommas_unsignedText, DecimalSpelling.text, DecimalSpelling.body, hsign, hfraction,
    hexponent, List.append_nil]
  rfl

theorem literal_spelling :
    (spelling negative scaled decimals).literal = ⟨negative, scaled, -decimals⟩ := by
  have hsign : (spelling negative scaled decimals).sign.isNegative = negative := by
    cases negative <;> rfl
  have hexponent : (spelling negative scaled decimals).exponentNumber = 0 := rfl
  have hdigits : (spelling negative scaled decimals).fractionDigits =
      if decimals = 0 then [] else padded decimals (.ofNat (scaled % 10 ^ decimals)) := by
    by_cases hzero : decimals = 0 <;> simp [DecimalSpelling.fractionDigits, spelling, hzero]
  rw [DecimalSpelling.literal, hsign, hexponent, hdigits]
  by_cases hzero : decimals = 0
  · simp [hzero, spelling, digitsNumber, ofDigitChars_ofNat]
  · have hnumber : digitsNumber ((spelling negative scaled decimals).whole ++
        padded decimals (.ofNat (scaled % 10 ^ decimals))) = scaled := ofDigitChars_fixed hzero
    rw [if_neg hzero, hnumber, length_fraction hzero, zero_sub]

theorem withoutCommas_fixed :
    withoutCommas (Binary64.signText negative ++ unsignedText scaled decimals) =
      (spelling negative scaled decimals).text := by
  rw [withoutCommas_signed, text_spelling]

/-- Without its commas, a number with a fixed count of decimals is a literal of what it shows. -/
theorem read?_fixed : Literal.read? decimalValue?
    (withoutCommas (Binary64.signText negative ++ unsignedText scaled decimals)) =
      some ⟨negative, scaled, -decimals⟩ := by
  rw [withoutCommas_fixed, DecimalSpelling.read?_text DecimalSpelling.readsAscii_decimal,
    literal_spelling]

end Display

end Scoreboard
