import Mathlib
import Scoreboard.Proofs.Digits

/-!
# Decimal literals

A decimal literal has an optional sign, digits with an optional point, and an optional exponent, with
digits of any class to which no mark of a literal belongs.  The reader of literals accepts these texts
and no others, and reads what their parts spell.
-/

namespace Scoreboard

/-! ## Signs -/

inductive Sign where
  | none
  | plus
  | minus
  deriving DecidableEq, Repr

namespace Sign

def text : Sign → Text
  | none => []
  | plus => ['+']
  | minus => ['-']

def isNegative : Sign → Bool
  | minus => true
  | _ => false

end Sign

theorem splitSign_text (sign : Sign) {rest : Text} (h : ∀ c ∈ rest.head?, c ≠ '-' ∧ c ≠ '+') :
    splitSign (sign.text ++ rest) = (sign.isNegative, rest) := by
  cases sign with
  | plus => rfl
  | minus => rfl
  | none =>
      cases rest with
      | nil => rfl
      | cons c rest =>
          obtain ⟨hminus, hplus⟩ := h c rfl
          simp [Sign.text, Sign.isNegative, splitSign, hminus, hplus]

theorem exists_sign (text : Text) :
    ∃ (sign : Sign) (body : Text), text = sign.text ++ body ∧
      splitSign text = (sign.isNegative, body) := by
  unfold splitSign
  split
  · next body => exact ⟨.minus, body, rfl, rfl⟩
  · next body => exact ⟨.plus, body, rfl, rfl⟩
  · exact ⟨.none, text, rfl, rfl⟩

/-! ## Digits of a class -/

/-- No mark of a literal is a digit of the class. -/
def SparesMarks (value? : Char → Option Nat) : Prop :=
  ∀ c ∈ ['+', '-', '.', 'e', 'E'], value? c = none

theorem sparesMarks_decimal : SparesMarks decimalValue? := by
  intro c hc
  fin_cases hc <;> decide

theorem sparesMarks_ascii : SparesMarks asciiDecimalValue? := by
  intro c hc
  fin_cases hc <;> decide

def DigitsOf (value? : Char → Option Nat) (text : Text) : Prop :=
  ∀ c ∈ text, (value? c).isSome = true

def numberOf (value? : Char → Option Nat) (text : Text) : Nat :=
  ofDigits 10 (text.filterMap value?)

section Digits

variable {value? : Char → Option Nat} {digits rest : Text}

theorem length_values (h : DigitsOf value? digits) :
    (digits.filterMap value?).length = digits.length :=
  List.filterMap_length_eq_length.mpr h

theorem values_eq_nil_iff (h : DigitsOf value? digits) :
    digits.filterMap value? = [] ↔ digits = [] := by
  rw [← List.length_eq_zero_iff, length_values h, List.length_eq_zero_iff]

theorem numberOf_append (s t : Text) :
    numberOf value? (s ++ t) =
      numberOf value? s * 10 ^ (t.filterMap value?).length + numberOf value? t := by
  unfold numberOf ofDigits
  rw [List.filterMap_append, List.foldl_append]
  generalize t.filterMap value? = values
  induction values using List.reverseRecOn with
  | nil => simp
  | append_singleton values d ih =>
      simp only [List.foldl_append, List.foldl_cons, List.foldl_nil, ih, List.length_append,
        List.length_singleton]
      ring

theorem digitRun_append (hdigits : DigitsOf value? digits)
    (hrest : ∀ c ∈ rest.head?, value? c = none) :
    digitRun value? (digits ++ rest) = (digits.filterMap value?, rest) := by
  induction digits with
  | nil =>
      cases rest with
      | nil => rfl
      | cons c rest => simp [digitRun, hrest c rfl]
  | cons c digits ih =>
      obtain ⟨d, hd⟩ := Option.isSome_iff_exists.mp (hdigits c (by simp))
      have := ih fun e he => hdigits e (by simp [he])
      simp [digitRun, hd, this]

theorem exists_digitRun (value? : Char → Option Nat) (text : Text) :
    ∃ digits rest : Text, text = digits ++ rest ∧ DigitsOf value? digits ∧
      digitRun value? text = (digits.filterMap value?, rest) := by
  induction text with
  | nil => exact ⟨[], [], rfl, nofun, rfl⟩
  | cons c text ih =>
      cases hc : value? c with
      | none => exact ⟨[], c :: text, rfl, nofun, by simp [digitRun, hc]⟩
      | some d =>
          obtain ⟨digits, rest, rfl, hdigits, hrun⟩ := ih
          refine ⟨c :: digits, rest, rfl, ?_, by simp [digitRun, hc, hrun]⟩
          simpa [DigitsOf, hc] using hdigits

end Digits

/-! ## The number of a literal -/

theorem scientific_eq_div (coefficient : Nat) (exponent : Int) :
    (coefficient * 10 ^ exponent : Rat) =
      (coefficient * 10 ^ exponent.toNat : Nat) / (10 ^ (-exponent).toNat : Nat) := by
  have hpower : (10 : Rat) ^ exponent = 10 ^ exponent.toNat / 10 ^ (-exponent).toNat := by
    rw [← zpow_natCast, ← zpow_natCast, ← zpow_sub₀ (by norm_num)]
    congr 1
    omega
  rw [hpower]
  push_cast
  ring

namespace Literal

variable (literal : Literal)

def value : Rat :=
  (signedNumber literal.negative literal.coefficient : Int) * 10 ^ literal.exponent

theorem abs_value_eq_zpow : |literal.value| = literal.coefficient * 10 ^ literal.exponent := by
  have hsigned : |((signedNumber literal.negative literal.coefficient : Int) : Rat)| =
      literal.coefficient := by
    unfold signedNumber
    split <;> simp
  rw [value, abs_mul, hsigned, abs_of_pos (by positivity)]

/-- The magnitude, as a quotient of whole numbers. -/
theorem abs_value : |literal.value| =
    (literal.coefficient * 10 ^ literal.exponent.toNat : Nat) /
      (10 ^ (-literal.exponent).toNat : Nat) := by
  rw [abs_value_eq_zpow, scientific_eq_div]

end Literal

/-! ## The parts of a literal -/

structure ExponentParts (value? : Char → Option Nat) where
  mark : Char
  sign : Sign
  digits : Text
  mark_eq : mark = 'e' ∨ mark = 'E'
  digitsOf : DigitsOf value? digits
  digits_ne_nil : digits ≠ []

namespace ExponentParts

variable {value? : Char → Option Nat}

def text (parts : ExponentParts value?) : Text := parts.mark :: (parts.sign.text ++ parts.digits)

def number (parts : ExponentParts value?) : Int :=
  signedNumber parts.sign.isNegative (numberOf value? parts.digits)

end ExponentParts

/-- Without a point there is no fraction, and there is one digit at least. -/
structure LiteralParts (value? : Char → Option Nat) where
  sign : Sign
  whole : Text
  fraction : Option Text
  exponent : Option (ExponentParts value?)
  whole_digits : DigitsOf value? whole
  fraction_digits : DigitsOf value? (fraction.getD [])
  digits_ne_nil : whole ++ fraction.getD [] ≠ []

namespace LiteralParts

variable {value? : Char → Option Nat}

section Texts

variable (parts : LiteralParts value?)

def fractionText : Text := parts.fraction.elim [] ('.' :: ·)

def exponentText : Text := parts.exponent.elim [] ExponentParts.text

def body : Text := parts.whole ++ (parts.fractionText ++ parts.exponentText)

def text : Text := parts.sign.text ++ parts.body

def fractionDigits : Text := parts.fraction.getD []

def exponentNumber : Int := parts.exponent.elim 0 ExponentParts.number

/-- The exact number that is spelled. -/
def value : Rat :=
  (if parts.sign.isNegative then -1 else 1) *
    (numberOf value? parts.whole +
      numberOf value? parts.fractionDigits / 10 ^ parts.fractionDigits.length) *
    10 ^ parts.exponentNumber

def literal : Literal where
  negative := parts.sign.isNegative
  coefficient := numberOf value? (parts.whole ++ parts.fractionDigits)
  exponent := parts.exponentNumber - parts.fractionDigits.length

end Texts

theorem value_eq (parts : LiteralParts value?) : parts.value = parts.literal.value := by
  have hlength : (parts.fractionDigits.filterMap value?).length = parts.fractionDigits.length :=
    length_values parts.fraction_digits
  have hten : (10 : Rat) ^ parts.fractionDigits.length ≠ 0 := by positivity
  have hpower : (10 : Rat) ^ parts.literal.exponent =
      10 ^ parts.exponentNumber / 10 ^ parts.fractionDigits.length := by
    rw [literal, zpow_sub₀ (by norm_num), zpow_natCast]
  have hsign : ((signedNumber parts.literal.negative parts.literal.coefficient : Int) : Rat) =
      (if parts.sign.isNegative then -1 else 1) * parts.literal.coefficient := by
    unfold signedNumber
    rw [literal]
    split <;> simp
  rw [Literal.value, hsign, hpower, value, literal, numberOf_append, hlength]
  push_cast
  field_simp

/-! ## Reading the parts -/

theorem exists_fraction (value? : Char → Option Nat) (text : Text) :
    ∃ (fraction : Option Text) (rest : Text), text = fraction.elim [] ('.' :: ·) ++ rest ∧
      DigitsOf value? (fraction.getD []) ∧
        Literal.fractionPart value? text = ((fraction.getD []).filterMap value?, rest) := by
  unfold Literal.fractionPart
  split
  · next text =>
      obtain ⟨digits, rest, rfl, hdigits, hrun⟩ := exists_digitRun value? text
      exact ⟨some digits, rest, rfl, hdigits, hrun⟩
  · exact ⟨none, text, rfl, nofun, rfl⟩

theorem exists_exponent {text : Text} {n : Int}
    (h : Literal.exponentPart? value? text = some n) :
    ∃ exponent : Option (ExponentParts value?), text = exponent.elim [] ExponentParts.text ∧
      exponent.elim 0 ExponentParts.number = n := by
  unfold Literal.exponentPart? at h
  split at h
  · exact ⟨none, rfl, by simpa using h⟩
  · next mark rest =>
      split at h
      · next hmark =>
          obtain ⟨sign, body, rfl, hsign⟩ := exists_sign rest
          obtain ⟨digits, later, rfl, hdigits, hrun⟩ := exists_digitRun value? body
          simp only [hsign, hrun] at h
          split at h
          · next d values heq =>
              obtain ⟨hvalues, rfl⟩ := Prod.mk.inj heq
              have hne : digits ≠ [] := by
                rintro rfl
                cases hvalues
              refine ⟨some ⟨mark, sign, digits, hmark, hdigits, hne⟩, ?_, ?_⟩
              · simp [ExponentParts.text]
              · rw [← hvalues] at h
                exact Option.some.inj h
          · cases h
      · cases h

/-- Whatever is read as a literal consists of parts that spell it. -/
theorem exists_parts {text : Text} {literal : Literal}
    (h : Literal.read? value? text = some literal) :
    ∃ parts : LiteralParts value?, parts.text = text ∧ parts.literal = literal := by
  obtain ⟨sign, body, rfl, hsign⟩ := exists_sign text
  obtain ⟨whole, rest, rfl, hwhole, hrun⟩ := exists_digitRun value? body
  obtain ⟨fraction, later, rfl, hfraction, hpart⟩ := exists_fraction value? rest
  simp only [Literal.read?, hsign, hrun, hpart] at h
  split at h
  · cases h
  · next hne =>
      obtain ⟨n, hn, rfl⟩ := Option.map_eq_some_iff.mp h
      obtain ⟨exponent, rfl, rfl⟩ := exists_exponent hn
      have hdigits : whole ++ fraction.getD [] ≠ [] := by
        intro hnil
        rw [← List.filterMap_append, hnil] at hne
        exact hne rfl
      refine ⟨⟨sign, whole, fraction, exponent, hwhole, hfraction, hdigits⟩, rfl, ?_⟩
      simp [LiteralParts.literal, fractionDigits, exponentNumber, numberOf, length_values hfraction]

section SparesMarks

variable (hvalue : SparesMarks value?)

include hvalue

theorem not_sign_of_digit {c : Char} (h : (value? c).isSome = true) : c ≠ '-' ∧ c ≠ '+' := by
  constructor <;> rintro rfl <;> rw [hvalue _ (by simp)] at h <;> cases h

theorem head?_not_sign {digits : Text} (h : DigitsOf value? digits) :
    ∀ c ∈ digits.head?, c ≠ '-' ∧ c ≠ '+' := fun c hc =>
  not_sign_of_digit hvalue (h c (List.mem_of_mem_head? hc))

theorem exponentPart?_text (parts : ExponentParts value?) :
    Literal.exponentPart? value? parts.text = some parts.number := by
  have hnone : ∀ c ∈ ([] : Text).head?, value? c = none := nofun
  have hrun : digitRun value? parts.digits = (parts.digits.filterMap value?, []) := by
    simpa using digitRun_append parts.digitsOf hnone
  have hne := mt (values_eq_nil_iff parts.digitsOf).mp parts.digits_ne_nil
  obtain ⟨d, values, hvalues⟩ := List.exists_cons_of_ne_nil hne
  simp only [ExponentParts.text, Literal.exponentPart?, if_pos parts.mark_eq,
    splitSign_text _ (head?_not_sign hvalue parts.digitsOf), hrun, ExponentParts.number, numberOf,
    hvalues]

variable (parts : LiteralParts value?)

theorem exponentPart?_exponentText :
    Literal.exponentPart? value? parts.exponentText = some parts.exponentNumber := by
  unfold exponentText exponentNumber
  cases parts.exponent with
  | none => rfl
  | some exponent => exact exponentPart?_text hvalue exponent

theorem head?_exponentText : ∀ c ∈ parts.exponentText.head?, value? c = none ∧ c ≠ '.' := by
  unfold exponentText
  cases parts.exponent with
  | none => simp
  | some exponent =>
      rintro c ⟨⟩
      rcases exponent.mark_eq with heq | heq <;> rw [heq] <;> exact ⟨hvalue _ (by simp), by decide⟩

theorem fractionPart_text :
    Literal.fractionPart value? (parts.fractionText ++ parts.exponentText) =
      (parts.fractionDigits.filterMap value?, parts.exponentText) := by
  have hhead := head?_exponentText hvalue parts
  have hdigits := parts.fraction_digits
  unfold fractionText fractionDigits
  cases hfraction : parts.fraction with
  | some digits =>
      rw [hfraction] at hdigits
      exact digitRun_append hdigits fun c hc => (hhead c hc).1
  | none =>
      cases htext : parts.exponentText with
      | nil => rfl
      | cons c rest =>
          have hpoint := (hhead c (by rw [htext]; rfl)).2
          simp [Literal.fractionPart, hpoint]

theorem head?_fractionText :
    ∀ c ∈ (parts.fractionText ++ parts.exponentText).head?, value? c = none := by
  unfold fractionText
  cases parts.fraction with
  | none => exact fun c hc => (head?_exponentText hvalue parts c hc).1
  | some digits =>
      rintro c ⟨⟩
      exact hvalue _ (by simp)

theorem head?_body : ∀ c ∈ parts.body.head?, c ≠ '-' ∧ c ≠ '+' := by
  have hne := parts.digits_ne_nil
  unfold body
  cases hwhole : parts.whole with
  | cons d rest =>
      rintro _ ⟨⟩
      exact not_sign_of_digit hvalue (parts.whole_digits d (by simp [hwhole]))
  -- Without whole digits there is a fraction, and the point comes first.
  | nil =>
      cases hfraction : parts.fraction with
      | none => simp [hwhole, hfraction] at hne
      | some digits =>
          rw [fractionText, hfraction]
          rintro c ⟨⟩
          decide

theorem splitSign_parts : splitSign parts.text = (parts.sign.isNegative, parts.body) :=
  splitSign_text parts.sign (head?_body hvalue parts)

theorem read?_text : Literal.read? value? parts.text = some parts.literal := by
  have hrun : digitRun value? parts.body =
      (parts.whole.filterMap value?, parts.fractionText ++ parts.exponentText) :=
    digitRun_append parts.whole_digits (head?_fractionText hvalue parts)
  have hne : parts.whole.filterMap value? ++ parts.fractionDigits.filterMap value? ≠ [] := by
    have hdigits : DigitsOf value? (parts.whole ++ parts.fractionDigits) :=
      List.forall_mem_append.mpr ⟨parts.whole_digits, parts.fraction_digits⟩
    rw [← List.filterMap_append]
    exact mt (values_eq_nil_iff hdigits).mp parts.digits_ne_nil
  simp only [Literal.read?, splitSign_parts hvalue, hrun, fractionPart_text hvalue,
    List.isEmpty_iff, if_neg hne, exponentPart?_exponentText hvalue, Option.map_some, literal,
    numberOf, List.filterMap_append]
  have hlength : (parts.fractionDigits.filterMap value?).length = parts.fractionDigits.length :=
    length_values parts.fraction_digits
  rw [hlength]

/-- A text is read as a literal if and only if it has parts that spell the literal. -/
theorem read?_eq_some_iff {text : Text} {literal : Literal} :
    Literal.read? value? text = some literal ↔
      ∃ parts : LiteralParts value?, parts.text = text ∧ parts.literal = literal := by
  constructor
  · exact exists_parts
  · rintro ⟨parts, rfl, rfl⟩
    exact read?_text hvalue parts

theorem read?_eq_none_iff {text : Text} : Literal.read? value? text = none ↔
    ∀ parts : LiteralParts value?, text ≠ parts.text := by
  rw [Option.eq_none_iff_forall_ne_some]
  constructor
  · rintro h parts rfl
    exact h parts.literal (read?_text hvalue parts)
  · rintro h literal hread
    obtain ⟨parts, htext, -⟩ := exists_parts hread
    exact h parts htext.symm

end SparesMarks

end LiteralParts

end Scoreboard
