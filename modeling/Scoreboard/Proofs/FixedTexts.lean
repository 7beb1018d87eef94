import Mathlib
import Scoreboard.Proofs.Agreement
import Scoreboard.Proofs.ShownShares

/-!
# Numbers with a fixed count of decimals

A number that is not too large for its decimals has a text of digits in groups of three, with a sign
and a fraction where they are due.  It spells the nearest number with so many decimals, where a half
goes up, and keeps the sign of the number, that of a zero included.
-/

namespace Scoreboard

open scoped Computability

/-! ## Shapes of texts -/

namespace Shape

/-- `[0-9]` -/
def digit : Language Char := {text | ∃ c : Char, c.isDigit = true ∧ text = [c]}

/-- `[1-9]` -/
def leadingDigit : Language Char := {text | ∃ c : Char, c.isDigit = true ∧ c ≠ '0' ∧ text = [c]}

/-- `,[0-9]{3}` -/
def group : Language Char := {[',']} * digit ^ 3

/-- `-?` -/
def sign : Language Char := 1 + {['-']}

/-- `0|[1-9][0-9]{0,2}(,[0-9]{3})*` -/
def whole : Language Char := {['0']} + leadingDigit * (1 + digit + digit ^ 2) * group∗

/-- `[.][0-9]{d}`, and nothing without decimals. -/
def fraction (decimals : Nat) : Language Char :=
  if decimals = 0 then 1 else {['.']} * digit ^ decimals

def fixed (decimals : Nat) : Language Char := sign * whole * fraction decimals

theorem mem_digit_pow {text : Text} (h : AllDigits text) : text ∈ digit ^ text.length := by
  rw [Language.mem_pow]
  refine ⟨text.map fun c => [c], by simp [← List.flatMap_def], by simp, ?_⟩
  rintro _ hmem
  obtain ⟨c, hc, rfl⟩ := List.mem_map.mp hmem
  exact ⟨c, h c hc, rfl⟩

theorem mem_group {text : Text} (h : AllDigits text) (hlength : text.length = 3) :
    ',' :: text ∈ group := by
  have := mem_digit_pow h
  rw [hlength] at this
  exact Language.append_mem_mul (show [','] ∈ ({[',']} : Language Char) from rfl) this

theorem mem_groups {groups : List Text}
    (h : ∀ text ∈ groups, AllDigits text ∧ text.length = 3) :
    groups.flatMap (',' :: ·) ∈ group∗ := by
  rw [List.flatMap_def]
  apply Language.join_mem_kstar
  intro text htext
  obtain ⟨digits, hdigits, rfl⟩ := List.mem_map.mp htext
  exact mem_group (h digits hdigits).1 (h digits hdigits).2

theorem mem_sign (negative : Bool) : Binary64.signText negative ∈ sign := by
  cases negative
  · exact .inl rfl
  · exact .inr rfl

end Shape

/-! ## Groups of digits -/

namespace Display

/-- Up to three of the digits stand before the commas of the text, and three behind each. -/
def IsGrouping (digits text : Text) : Prop :=
  ∃ (lead : Text) (groups : List Text), digits = lead ++ groups.flatten ∧ lead ≠ [] ∧
    lead.length ≤ 3 ∧ (∀ group ∈ groups, group.length = 3) ∧
      text = lead ++ groups.flatMap (',' :: ·)

theorem isGrouping_groupedFromLast {last : Text} (h : last ≠ []) :
    IsGrouping last.reverse (groupedFromLast last).reverse := by
  induction last using groupedFromLast.induct with
  | case1 a b c d rest ih =>
      obtain ⟨lead, groups, hdigits, hlead, hthree, hgroups, htext⟩ := ih (by simp)
      refine ⟨lead, groups ++ [[c, b, a]], ?_, hlead, hthree, ?_, ?_⟩
      · rw [List.flatten_append, ← List.append_assoc, ← hdigits]
        simp
      · intro group hgroup
        rcases List.mem_append.mp hgroup with hmem | hmem
        · exact hgroups group hmem
        · rw [List.mem_singleton.mp hmem]
          rfl
      · rw [List.flatMap_append, ← List.append_assoc, ← htext, groupedFromLast]
        simp
  | case2 last hshort =>
      refine ⟨last.reverse, [], by simp, by simpa using h, ?_, by simp, ?_⟩
      · rcases last with _ | ⟨a, _ | ⟨b, _ | ⟨c, _ | ⟨d, rest⟩⟩⟩⟩
        case cons.cons.cons.cons => exact absurd rfl (hshort a b c d rest)
        all_goals simp
      · rw [groupedFromLast]
        · simp
        · exact hshort

theorem isGrouping_grouped {digits : Text} (h : digits ≠ []) :
    IsGrouping digits (grouped digits) := by
  have := isGrouping_groupedFromLast (List.reverse_ne_nil_iff.mpr h)
  rwa [List.reverse_reverse] at this

theorem head?_grouped (digits : Text) : (grouped digits).head? = digits.head? := by
  rcases eq_or_ne digits [] with rfl | hne
  · rfl
  · obtain ⟨lead, groups, hdigits, hlead, -, -, htext⟩ := isGrouping_grouped hne
    rw [htext, hdigits, List.head?_append_of_ne_nil _ hlead, List.head?_append_of_ne_nil _ hlead]

theorem head?_ofNat {n : Nat} (h : 0 < n) : ∀ c ∈ (Text.ofNat n).head?, c ≠ '0' := by
  induction n using Nat.strong_induction_on with
  | h n ih =>
      unfold Text.ofNat at ih ⊢
      rcases Nat.lt_or_ge n 10 with hlt | hge
      · rw [Nat.toDigits_of_lt_base hlt]
        rintro c ⟨⟩
        interval_cases n <;> decide
      · rw [Nat.toDigits_of_base_le (by norm_num) hge,
          List.head?_append_of_ne_nil _ Nat.toDigits_ne_nil]
        exact ih (n / 10) (Nat.div_lt_self h (by norm_num)) (by omega)

theorem grouped_mem_whole (n : Nat) : grouped (.ofNat n) ∈ Shape.whole := by
  rcases Nat.eq_zero_or_pos n with rfl | hpos
  · exact .inl rfl
  · obtain ⟨lead, groups, hdigits, hlead, hthree, hgroups, htext⟩ :=
      isGrouping_grouped (ofNat_ne_nil n)
    have hall : AllDigits (lead ++ groups.flatten) := hdigits ▸ allDigits_ofNat n
    obtain ⟨c, rest, rfl⟩ := List.exists_cons_of_ne_nil hlead
    have hc : c ≠ '0' := head?_ofNat hpos c (by rw [hdigits]; rfl)
    have hrest : rest ∈ 1 + Shape.digit + Shape.digit ^ 2 := by
      have hmem : rest ∈ Shape.digit ^ rest.length :=
        Shape.mem_digit_pow fun d hd => hall d (by simp [hd])
      rw [Language.mem_add, Language.mem_add]
      match rest, hthree, hmem with
      | [], _, _ => exact .inl (.inl rfl)
      | [_], _, hmem => exact .inl (.inr (by simpa using hmem))
      | [_, _], _, hmem => exact .inr hmem
    have hgroups : groups.flatMap (',' :: ·) ∈ Shape.group∗ := by
      apply Shape.mem_groups
      intro group hgroup
      refine ⟨fun d hd => hall d ?_, hgroups group hgroup⟩
      exact List.mem_append_right _ (List.mem_flatten.mpr ⟨group, hgroup, hd⟩)
    rw [htext]
    have hlead : [c] ∈ Shape.leadingDigit := ⟨c, hall c (by simp), hc, rfl⟩
    exact .inr (Language.append_mem_mul (Language.append_mem_mul hlead hrest) hgroups)

theorem unsignedText_eq (scaled decimals : Nat) :
    unsignedText scaled decimals =
      grouped (.ofNat (scaled / 10 ^ decimals)) ++ decimalsText scaled decimals := rfl

theorem decimalsText_mem_fraction (scaled decimals : Nat) :
    decimalsText scaled decimals ∈ Shape.fraction decimals := by
  unfold decimalsText Shape.fraction
  split
  · exact rfl
  · next hne =>
      have hall : AllDigits (padded decimals (.ofNat (scaled % 10 ^ decimals))) :=
        allDigits_padded (allDigits_ofNat _)
      have hdigits := Shape.mem_digit_pow hall
      rw [length_fraction hne] at hdigits
      exact Language.append_mem_mul (show ['.'] ∈ ({['.']} : Language Char) from rfl) hdigits

theorem signed_mem_fixed (negative : Bool) (scaled decimals : Nat) :
    Binary64.signText negative ++ unsignedText scaled decimals ∈ Shape.fixed decimals := by
  rw [unsignedText_eq, ← List.append_assoc]
  exact Language.append_mem_mul
    (Language.append_mem_mul (Shape.mem_sign negative) (grouped_mem_whole _))
    (decimalsText_mem_fraction scaled decimals)

theorem head?_signed (negative : Bool) (scaled decimals : Nat) :
    (Binary64.signText negative ++ unsignedText scaled decimals).head? = some '-' ↔
      negative = true := by
  cases negative with
  | true => exact iff_of_true rfl rfl
  | false =>
      refine iff_of_false (fun hminus => ?_) Bool.false_ne_true
      have hne : grouped (.ofNat (scaled / 10 ^ decimals)) ≠ [] := by
        intro hnil
        have hhead := head?_grouped (.ofNat (scaled / 10 ^ decimals))
        rw [hnil] at hhead
        exact ofNat_ne_nil _ (List.head?_eq_none_iff.mp hhead.symm)
      rw [unsignedText_eq, Binary64.signText] at hminus
      simp only [Bool.false_eq_true, if_false, List.nil_append] at hminus
      rw [List.head?_append_of_ne_nil _ hne, head?_grouped] at hminus
      exact absurd (allDigits_ofNat _ _ (List.mem_of_mem_head? hminus)) (by decide)

end Display

/-! ## Nearest whole numbers -/

/-- The whole number nearest to another number, and the greater one of two that are. -/
structure RoundsHalfUp (q : Rat) (n : Nat) : Prop where
  nearest : ∀ m : Int, |(n : Rat) - q| ≤ |(m : Rat) - q|
  greater : ∀ m : Int, |(m : Rat) - q| = |(n : Rat) - q| → m ≤ n

namespace RoundsHalfUp

variable {q : Rat} {m n : Nat}

theorem eq (hm : RoundsHalfUp q m) (hn : RoundsHalfUp q n) : m = n := by
  have hsame : |(m : Rat) - q| = |(n : Rat) - q| :=
    le_antisymm (by simpa using hm.nearest n) (by simpa using hn.nearest m)
  have hle := hn.greater m (by simpa using hsame)
  have hge := hm.greater n (by simpa using hsame.symm)
  omega

theorem of_bounds (hlow : (n : Rat) - 1 / 2 ≤ q) (hhigh : q < n + 1 / 2) : RoundsHalfUp q n := by
  have hclose : |(n : Rat) - q| ≤ 1 / 2 := abs_le.mpr ⟨by linarith, by linarith⟩
  have habove : ∀ m : Int, n < m → 1 / 2 < |(m : Rat) - q| := by
    intro m hm
    have hm : (n : Rat) + 1 ≤ m := by exact_mod_cast hm
    exact lt_of_lt_of_le (by linarith) (le_abs_self _)
  have hbelow : ∀ m : Int, m < n → |(n : Rat) - q| ≤ |(m : Rat) - q| := by
    intro m hm
    have hm : (m : Rat) + 1 ≤ n := by exact_mod_cast hm
    exact hclose.trans (le_abs.mpr (.inr (by linarith)))
  constructor
  · intro m
    rcases lt_trichotomy m n with hlt | rfl | hgt
    · exact hbelow m hlt
    · exact le_rfl
    · exact hclose.trans (habove m hgt).le
  · intro m hm
    by_contra hgt
    exact absurd (habove m (not_le.mp hgt)) (by rw [hm]; exact not_lt.mpr hclose)

end RoundsHalfUp

theorem roundsHalfUp_roundHalfUp (num : Nat) {den : Nat} (hden : 0 < den) :
    RoundsHalfUp (num / den) (roundHalfUp num den) := by
  have hden' : (0 : Rat) < den := by exact_mod_cast hden
  obtain ⟨hhigh, hlow⟩ := roundHalfUp_error num hden
  have hhigh : (2 : Rat) * num < (2 * roundHalfUp num den + 1) * den := by exact_mod_cast hhigh
  have hlow : (2 : Rat) * roundHalfUp num den * den ≤ 2 * num + den := by exact_mod_cast hlow
  apply RoundsHalfUp.of_bounds
  · rw [le_div_iff₀ hden']
    linarith
  · rw [div_lt_iff₀ hden']
    linarith

/-! ## Texts of numbers -/

/-- A finite double, or a whole number that fits one, and its exact value. -/
inductive Quantity.HasValue : Quantity → Rat → Prop where
  | whole {n : Int} : n.natAbs < doubleLimit → HasValue (.whole n) n
  | real {x : Binary64} {q : Rat} : x.toRat? = some q → HasValue (.real x) q

namespace Display

/-- The text has the shape and the sign of the number, and spells `± n / 10 ^ decimals`. -/
structure IsFixedText (number : Quantity) (x : Rat) (decimals n : Nat) (text : Text) : Prop where
  shape : text ∈ Shape.fixed decimals
  sign : text.head? = some '-' ↔ x < 0 ∨ number = .real (.finite true .zero)
  spells : ∃ literal, Literal.read? decimalValue? (withoutCommas text) = some literal ∧
    literal.value = (if text.head? = some '-' then -1 else 1) * (n / 10 ^ decimals)

variable {number : Quantity} {x : Rat} {decimals n : Nat}

theorem isFixedText_signed {negative : Bool}
    (hsign : negative = true ↔ x < 0 ∨ number = .real (.finite true .zero)) :
    IsFixedText number x decimals n (Binary64.signText negative ++ unsignedText n decimals) where
  shape := signed_mem_fixed negative n decimals
  sign := (head?_signed negative n decimals).trans hsign
  spells := by
    refine ⟨_, read?_fixed negative n decimals, ?_⟩
    simp only [head?_signed, Literal.value, signedNumber, zpow_neg, zpow_natCast, div_eq_mul_inv]
    cases negative <;> simp

theorem ratioText_eq {negative : Bool} {num den : Nat} (hden : 0 < den)
    (hplace : decimals ≤ shiftLimit) (hn : RoundsHalfUp (num / den * 10 ^ decimals) n)
    (hsmall : n < 10 ^ precision) :
    ratioText negative num den decimals =
      .ok (Binary64.signText negative ++ unsignedText n decimals) := by
  have hrequire : requirePlace decimals = .ok () := by
    unfold requirePlace
    rw [if_neg (by omega), if_neg (by omega)]
  have hscaled : roundHalfUp (num * 10 ^ decimals) den = n := by
    have hrounds := roundsHalfUp_roundHalfUp (num * 10 ^ decimals) hden
    rw [Nat.cast_mul, mul_div_right_comm, Nat.cast_pow] at hrounds
    exact hrounds.eq (by exact_mod_cast hn)
  have hnonneg : ¬ (decimals : Int) < 0 := by omega
  simp only [ratioText, hrequire, ok_bind, if_neg hnonneg, Int.toNat_natCast, hscaled,
    if_neg (not_le.mpr hsmall)]

theorem exactValue_neg_iff (negative : Bool) (magnitude : Magnitude) :
    negative = true ↔ Binary64.exactValue negative magnitude < 0 ∨
      Quantity.real (.finite negative magnitude) = .real (.finite true .zero) := by
  cases negative with
  | false =>
      rw [Binary64.exactValue_false]
      exact iff_of_false Bool.false_ne_true (by simp [magnitude.value_nonneg])
  | true =>
      rw [Binary64.exactValue_true]
      refine iff_of_true rfl ?_
      rcases Nat.eq_zero_or_pos magnitude.units with hzero | hpos
      · have : magnitude = .zero := Magnitude.eq_of_units hzero
        exact .inr (by rw [this])
      · exact .inl (by simpa using Magnitude.value_pos_iff.mpr hpos)

/-- A number that is not too large has a text, which spells what it is rounded to. -/
theorem exists_isFixedText (hvalue : number.HasValue x) (hplace : decimals ≤ shiftLimit)
    (hn : RoundsHalfUp (|x| * 10 ^ decimals) n) (hsmall : n < 10 ^ precision) :
    ∃ text, fixed .known Locales.invariantName number decimals = .ok text ∧
      IsFixedText number x decimals n text := by
  rw [fixed_known]
  cases hvalue with
  | @whole k hlimit =>
      obtain ⟨y, hy⟩ := Option.ne_none_iff_exists'.mp
        (mt ofInt?_eq_none_iff.mp (not_le.mpr hlimit))
      have hsign : decide (k < 0) = true ↔
          (k : Rat) < 0 ∨ Quantity.whole k = .real (.finite true .zero) := by
        simp
      refine ⟨_, ?_, isFixedText_signed hsign⟩
      have habs : |(k : Rat)| = k.natAbs / (1 : Nat) := by
        rw [Nat.cast_one, div_one, ← Int.cast_abs, Int.abs_eq_natAbs, Int.cast_natCast]
      rw [habs] at hn
      simp only [plainFixed, Quantity.toBinary64, hy, Option.elim_some, ok_bind]
      exact ratioText_eq Nat.one_pos hplace hn hsmall
  | @real y _ hy =>
      cases y with
      | nan => cases hy
      | infinite negative => cases hy
      | finite negative magnitude =>
          cases hy
          refine ⟨_, ?_, isFixedText_signed (exactValue_neg_iff negative magnitude)⟩
          rw [Binary64.abs_exactValue] at hn
          exact ratioText_eq unitsPerOne_pos hplace hn hsmall

/-- A negative half, which goes away from zero and to another digit in front of a comma. -/
theorem exists_isFixedText_of_half :
    ∃ text, fixed .known Locales.invariantName (.real (.ofRatio true 1999999 2)) 0 = .ok text ∧
      IsFixedText (.real (.ofRatio true 1999999 2)) (-1999999 / 2) 0 1000000 text := by
  have hvalue : (Quantity.real (.ofRatio true 1999999 2)).HasValue (-1999999 / 2) :=
    .real (by decide +kernel)
  have hhalf : RoundsHalfUp (|(-1999999 / 2 : Rat)| * 10 ^ 0) 1000000 :=
    .of_bounds (by norm_num [abs_of_neg]) (by norm_num [abs_of_neg])
  have hsmall : 10 ^ 6 < 10 ^ precision := Nat.pow_lt_pow_right (by norm_num) (by decide)
  exact exists_isFixedText hvalue (Nat.zero_le _) hhalf hsmall

end Display

end Scoreboard
