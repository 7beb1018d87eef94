import Mathlib
import Scoreboard.Proofs.ShownTexts

/-!
# Numbers in two locales

The separators of a locale stand for the comma and the point of a number and for nothing else in its
text, as long as they are two characters that no number is spelled with.  Texts of two such locales
differ in their separators only: those of one become those of the other, also where both have the
same two characters in opposite roles, because all of them are replaced at once.
-/

namespace Scoreboard

namespace Display

/-! ## Separators -/

/-- Characters of digits, words and signs, which are the same in all locales. -/
def IsSpelling (c : Char) : Prop := c.isAlphanum = true ∨ c = '-'

instance : DecidablePred IsSpelling := fun c => inferInstanceAs (Decidable (_ ∨ c = '-'))

/-- Two characters to separate with, neither of which is part of a number otherwise. -/
structure Separators where
  thousands : Char
  point : Char
  distinct : thousands ≠ point
  thousands_free : ¬ IsSpelling thousands
  point_free : ¬ IsSpelling point

namespace Separators

def conventions (marks : Separators) : Conventions where
  decimalPoint := some [marks.point]
  thousandsSeparator := some [marks.thousands]

def invariant : Separators where
  thousands := ','
  point := '.'
  distinct := by decide
  thousands_free := by decide
  point_free := by decide

/-- The roles of the comma and the point the other way round. -/
def swapped : Separators where
  thousands := '.'
  point := ','
  distinct := by decide
  thousands_free := by decide
  point_free := by decide

/-- Characters of a number that is written with the separators. -/
def Writes (marks : Separators) (c : Char) : Prop :=
  c = marks.thousands ∨ c = marks.point ∨ IsSpelling c

variable {first second third : Separators} {c : Char}

def exchange (first second : Separators) (c : Char) : Char :=
  if c = first.thousands then second.thousands
  else if c = first.point then second.point
  else c

/-- The text with both separators replaced at once. -/
def exchanged (first second : Separators) (text : Text) : Text := text.map (first.exchange second)

@[simp] theorem exchange_thousands : first.exchange second first.thousands = second.thousands :=
  if_pos rfl

@[simp] theorem exchange_point : first.exchange second first.point = second.point := by
  rw [exchange, if_neg first.distinct.symm, if_pos rfl]

theorem exchange_spelling (h : IsSpelling c) : first.exchange second c = c := by
  have hthousands : c ≠ first.thousands := fun heq => first.thousands_free (heq ▸ h)
  have hpoint : c ≠ first.point := fun heq => first.point_free (heq ▸ h)
  rw [exchange, if_neg hthousands, if_neg hpoint]

theorem exchange_exchange (h : first.Writes c) :
    second.exchange third (first.exchange second c) = first.exchange third c := by
  rcases h with rfl | rfl | hspelling
  · simp
  · simp
  · simp only [exchange_spelling hspelling]

/-! ## Texts -/

variable {text : Text}

theorem exchanged_exchanged (h : ∀ c ∈ text, first.Writes c) :
    second.exchanged third (first.exchanged second text) = first.exchanged third text := by
  rw [exchanged, exchanged, List.map_map]
  exact List.map_congr_left fun c hc => exchange_exchange (h c hc)

theorem substituted_eq_exchanged (marks : Separators) (text : Text) :
    substituted [marks.thousands] [marks.point] text = invariant.exchanged marks text := by
  induction text with
  | nil => rfl
  | cons c rest ih =>
      rw [substituted, List.flatMap_cons, ← substituted, ih]
      simp only [exchanged, List.map_cons, exchange, invariant]
      split_ifs <;> rfl

end Separators

theorem substituted_eq_self {text : Text} (h : ∀ c ∈ text, IsSpelling c)
    (separator point : Text) : substituted separator point text = text := by
  have hkept : ∀ c ∈ text,
      (if c = ',' then separator else if c = '.' then point else [c]) = [c] := by
    intro c hc
    have hcomma : c ≠ ',' := by
      rintro rfl
      exact Separators.invariant.thousands_free (h _ hc)
    have hpoint : c ≠ '.' := by
      rintro rfl
      exact Separators.invariant.point_free (h _ hc)
    rw [if_neg hcomma, if_neg hpoint]
  rw [substituted, List.flatMap_congr hkept, List.flatMap_singleton']

/-! ## Characters of numbers -/

theorem isSpelling_of_all {text : Text} (h : text.all (fun c => decide (IsSpelling c)) = true) :
    ∀ c ∈ text, IsSpelling c := by
  simpa using h

theorem isSpelling_of_allDigits {digits : Text} (h : AllDigits digits) :
    ∀ c ∈ digits, IsSpelling c :=
  fun c hc => .inl (by simp [Char.isAlphanum, h c hc])

theorem writes_of_isSpelling {marks : Separators} {text : Text} (h : ∀ c ∈ text, IsSpelling c) :
    ∀ c ∈ text, marks.Writes c :=
  fun c hc => .inr (.inr (h c hc))

theorem writes_grouped {digits : Text} (h : AllDigits digits) :
    ∀ c ∈ grouped digits, Separators.invariant.Writes c := by
  intro c hc
  rcases eq_comma_or_mem_withoutCommas hc with hcomma | hkept
  · exact .inl hcomma
  · rw [withoutCommas_grouped, withoutCommas_digits h] at hkept
    exact writes_of_isSpelling (isSpelling_of_allDigits h) c hkept

theorem writes_decimalsText (scaled decimals : Nat) :
    ∀ c ∈ decimalsText scaled decimals, Separators.invariant.Writes c := by
  unfold decimalsText
  split
  · simp
  · have hdigits : AllDigits (padded decimals (.ofNat (scaled % 10 ^ decimals))) :=
      allDigits_padded (allDigits_ofNat _)
    intro c hc
    rcases List.mem_cons.mp hc with rfl | hdigit
    · exact .inr (.inl rfl)
    · exact writes_of_isSpelling (isSpelling_of_allDigits hdigits) c hdigit

theorem isSpelling_signText (negative : Bool) : ∀ c ∈ Binary64.signText negative, IsSpelling c := by
  cases negative <;> exact isSpelling_of_all (by decide +kernel)

theorem writes_ratioText {negative : Bool} {num den : Nat} {decimals : Int} {text : Text}
    (h : ratioText negative num den decimals = .ok text) :
    ∀ c ∈ text, Separators.invariant.Writes c := by
  obtain ⟨-, -, htext⟩ := bind_eq_ok.mp h
  dsimp only at htext
  split_ifs at htext
  cases htext
  rw [unsignedText_eq]
  intro c hc
  rcases List.mem_append.mp hc with hsign | hnumber
  · exact writes_of_isSpelling (isSpelling_signText negative) c hsign
  · rcases List.mem_append.mp hnumber with hwhole | hfraction
    · exact writes_grouped (allDigits_ofNat _) c hwhole
    · exact writes_decimalsText _ _ c hfraction

theorem isSpelling_word {x : Binary64} (h : x.toRat? = none) {decimals : Int} {text : Text}
    (hshown : plainFixed (.real x) decimals = .ok text) : ∀ c ∈ text, IsSpelling c := by
  cases x with
  | nan =>
      rw [eq_of_wordText hshown]
      exact isSpelling_of_all (by decide +kernel)
  | infinite negative =>
      rw [eq_of_wordText hshown]
      cases negative <;> exact isSpelling_of_all (by decide +kernel)
  | finite negative magnitude => cases h

theorem writes_plainFixed {number : Quantity} {decimals : Int} {text : Text}
    (h : plainFixed number decimals = .ok text) : ∀ c ∈ text, Separators.invariant.Writes c := by
  match number, h with
  | .whole n, h =>
      obtain ⟨-, -, htext⟩ := bind_eq_ok.mp h
      exact writes_ratioText htext
  | .real (.finite negative magnitude), h => exact writes_ratioText h
  | .real .nan, h => exact writes_of_isSpelling (isSpelling_word rfl h)
  | .real (.infinite _), h => exact writes_of_isSpelling (isSpelling_word rfl h)

/-! ## Locales -/

variable {locales : Locales} {name name' : Text} {number : Quantity} {decimals : Int}

theorem fixed_of_find? {point separator : Text}
    (hfind : locales.find? name = some ⟨some point, some separator⟩) :
    fixed locales name number decimals =
      substituted separator point <$> plainFixed number decimals := by
  cases h : plainFixed number decimals <;>
    simp [fixed, hfind, h, required, pure, Except.pure, Functor.map, Except.map]

variable {first second : Separators}

theorem fixed_eq_exchanged (hfirst : locales.find? name = some first.conventions)
    (hsecond : locales.find? name' = some second.conventions) :
    fixed locales name' number decimals =
      first.exchanged second <$> fixed locales name number decimals := by
  rw [fixed_of_find? hfirst, fixed_of_find? hsecond]
  cases hplain : plainFixed number decimals with
  | error fault => rfl
  | ok plain =>
      change Except.ok (substituted [second.thousands] [second.point] plain) =
        Except.ok (first.exchanged second (substituted [first.thousands] [first.point] plain))
      rw [Separators.substituted_eq_exchanged, Separators.substituted_eq_exchanged,
        Separators.exchanged_exchanged (writes_plainFixed hplain)]

/--
Two locales with separators of their own show a number in texts that differ in the separators only,
so that neither tells more numbers apart.  A number that is not finite is the same word in all locales.
-/
theorem fixed_exchanged (hfirst : locales.find? name = some first.conventions)
    (hsecond : locales.find? name' = some second.conventions) :
    (∀ number decimals plain, fixed .known Locales.invariantName number decimals = .ok plain →
      ∃ shown, fixed locales name number decimals = .ok shown ∧
        fixed locales name' number decimals = .ok (first.exchanged second shown)) ∧
    (∀ number decimals number' decimals',
      fixed locales name number decimals = fixed locales name number' decimals' ↔
        fixed locales name' number decimals = fixed locales name' number' decimals') ∧
    ∀ (x : Binary64) decimals plain, x.toRat? = none →
      fixed .known Locales.invariantName (.real x) decimals = .ok plain →
      ∀ other point separator, locales.find? other = some ⟨some point, some separator⟩ →
        fixed locales other (.real x) decimals = .ok plain := by
  refine ⟨?_, ?_, ?_⟩
  · intro number decimals plain hplain
    rw [fixed_known] at hplain
    have hshown : fixed locales name number decimals = _ := fixed_of_find? hfirst
    rw [hplain] at hshown
    refine ⟨_, hshown, ?_⟩
    rw [fixed_eq_exchanged hfirst hsecond, hshown]
    rfl
  · intro number decimals number' decimals'
    constructor
    · intro hsame
      rw [fixed_eq_exchanged hfirst hsecond, fixed_eq_exchanged hfirst hsecond, hsame]
    · intro hsame
      -- Nothing is lost: the separators of the first locale are put back.
      rw [fixed_eq_exchanged hsecond hfirst, fixed_eq_exchanged hsecond hfirst, hsame]
  · intro x decimals plain hfinite hplain other point separator hother
    rw [fixed_known] at hplain
    rw [fixed_of_find? hother, hplain]
    exact congrArg _ (substituted_eq_self (isSpelling_word hfinite hplain) separator point)

/-- The known locales, and one where the comma and the point have each other's role. -/
def withSwapped : Locales :=
  Locales.known.extended [("de_DE".toList, Separators.swapped.conventions)]

/-- Two commas and a point for two points and a comma, and a word that has neither. -/
theorem fixed_exchanged_withSwapped :
    withSwapped.find? Locales.invariantName = some Separators.invariant.conventions ∧
    withSwapped.find? "de_DE".toList = some Separators.swapped.conventions ∧
    fixed .known Locales.invariantName (.whole (-1234567)) 2 = .ok "-1,234,567.00".toList ∧
    fixed withSwapped "de_DE".toList (.whole (-1234567)) 2 = .ok "-1.234.567,00".toList ∧
    Binary64.toRat? (.infinite true) = none ∧
    fixed .known Locales.invariantName (.real (.infinite true)) 2 = .ok "-inf".toList ∧
    fixed withSwapped "de_DE".toList (.real (.infinite true)) 2 = .ok "-inf".toList := by
  have hinvariant : withSwapped.find? Locales.invariantName =
      some Separators.invariant.conventions := by decide +kernel
  have hswapped : withSwapped.find? "de_DE".toList = some Separators.swapped.conventions := by
    decide +kernel
  have hplain : fixed .known Locales.invariantName (.whole (-1234567)) 2 =
      .ok "-1,234,567.00".toList := by decide +kernel
  have hinfinite : fixed .known Locales.invariantName (.real (.infinite true)) 2 =
      .ok "-inf".toList := by decide +kernel
  have hcommas : fixed withSwapped Locales.invariantName (.whole (-1234567)) 2 =
      .ok "-1,234,567.00".toList := by decide +kernel
  obtain ⟨htexts, -, hwords⟩ := fixed_exchanged hinvariant hswapped
  obtain ⟨shown, hfirst, hsecond⟩ := htexts _ _ _ hplain
  obtain rfl : "-1,234,567.00".toList = shown := Except.ok.inj (hcommas.symm.trans hfirst)
  exact ⟨hinvariant, hswapped, hplain, hsecond.trans (by decide +kernel), rfl, hinfinite,
    hwords _ _ _ rfl hinfinite _ _ _ hswapped⟩

end Display

end Scoreboard
