import Mathlib
import Scoreboard.Proofs.FixedTexts
import Scoreboard.Proofs.LoneItems
import Scoreboard.Proofs.Maxima
import Scoreboard.Proofs.ShownWholeNumbers

/-!
# Fractions of tiles

Solved tiles and all tiles, each a whole number or a finite double, are compared by their exact numbers.
Their quotient is rounded once if both are whole; otherwise each is rounded to a double before.  No
rounding reverses the order of two numbers, so that what passes the comparison is at most one.
-/

namespace Scoreboard

/-! ## Rounded numbers in order -/

theorem Grid.RoundsToEven.mono {grid : Grid} {p q : Rat} {j k : Nat} (hj : grid.RoundsToEven p j)
    (hk : grid.RoundsToEven q k) (h : p ≤ q) : j ≤ k := by
  rcases h.eq_or_lt with rfl | hlt
  · exact hk.le hj
  · by_contra hnot
    have hkj : (k : Rat) < j := by exact_mod_cast not_le.mp hnot
    -- Each number is at least as near to its own point, which puts them on either side of the middle.
    have hfirst := hj.nearest k hk.point
    have hsecond := hk.nearest j hj.point
    have hp : (j + k : Rat) ≤ 2 * p := by
      rcases abs_cases ((j : Rat) - p) with hj | hj <;> rcases abs_cases ((k : Rat) - p) with hk | hk <;>
        linarith
    have hq : 2 * q ≤ (j + k : Rat) := by
      rcases abs_cases ((j : Rat) - q) with hj | hj <;> rcases abs_cases ((k : Rat) - q) with hk | hk <;>
        linarith
    linarith

theorem Binary64.exactValue_eq_zero_iff {negative : Bool} {magnitude : Magnitude} :
    exactValue negative magnitude = 0 ↔ magnitude.units = 0 := by
  rw [← abs_eq_zero, abs_exactValue, ← magnitude.value_nonneg.not_lt_iff_eq',
    Magnitude.value_pos_iff, Nat.pos_iff_ne_zero, not_not]

namespace Quantity

variable {a b : Quantity} {p q : Rat}

/-! ## Exact comparison -/

theorem lt_eq (ha : a.toValue.IsNumber p) (hb : b.toValue.IsNumber q) :
    a.lt b = decide (p < q) := by
  simp [lt, ha.place?, hb.place?, NumberPlace.lt, NumberPlace.pointLt]

theorem isNegative_eq (ha : a.toValue.IsNumber p) : a.isNegative = decide (p < 0) := by
  have hzero : (Quantity.whole 0).toValue.IsNumber 0 := by exact_mod_cast Value.IsNumber.int 0
  exact lt_eq ha hzero

theorem isZero_eq (ha : a.toValue.IsNumber p) : a.isZero = decide (p = 0) := by
  rw [Bool.eq_iff_iff, decide_eq_true_iff]
  cases a with
  | whole n =>
      cases ha
      simp [isZero]
  | real x =>
      cases ha with
      | float hx =>
          cases x with
          | nan => cases hx
          | infinite negative => cases hx
          | finite negative magnitude =>
              cases hx
              simp [isZero, Binary64.isZero, Binary64.exactValue_eq_zero_iff]

theorem HasValue.isNumber (h : a.HasValue p) : a.toValue.IsNumber p := by
  cases h with
  | whole _ => exact .int _
  | real hx => exact .float hx

theorem HasValue.exists_text (h : a.HasValue p) : ∃ text, a.text = .ok text := by
  cases h with
  | whole hlimit =>
      exact (failsIf_integerText _).succeeds fun hlong =>
        absurd (Value.doubleLimit_le_of_isLong hlong) (not_le.mpr hlimit)
  | real hx => exact ⟨_, rfl⟩

/-! ## Rounding before division -/

/-- What a number is rounded to before a division; only a zero has a sign. -/
structure IsOperand (a : Quantity) (p : Rat) (negative : Bool) (magnitude : Magnitude) : Prop where
  rounded : a.toBinary64 = .ok (.finite negative magnitude)
  readsBack : magnitude.ReadsBack p
  positive : 0 < p → negative = false ∧ 0 < magnitude.units

theorem HasValue.exists_operand (h : a.HasValue p) (hp : 0 ≤ p) :
    ∃ negative magnitude, IsOperand a p negative magnitude := by
  cases h with
  | @whole n hlimit =>
      lift n to Nat using by exact_mod_cast hp
      rw [Int.cast_natCast]
      rcases Binary64.ofInt?_natCast n with ⟨magnitude, hdouble, hround⟩ | ⟨hnone, -⟩
      · refine ⟨false, magnitude, by rw [toBinary64, hdouble]; rfl, hround, fun hpos => ?_⟩
        have hunits : doubleUnits n = magnitude.units := by
          simpa [doubleUnits] using (Magnitude.readsBack_iff_round n.cast_nonneg).mp hround
        exact ⟨rfl, hunits ▸ doubleUnits_pos (by exact_mod_cast hpos)⟩
      · have hover := ofInt?_eq_none_iff.mp hnone
        exact absurd hlimit (not_lt.mpr hover)
  | @real x _ hx =>
      cases x with
      | nan => cases hx
      | infinite negative => cases hx
      | finite negative magnitude =>
          cases hx
          have hvalue : Binary64.exactValue negative magnitude = magnitude.value := by
            rw [← Binary64.abs_exactValue negative, abs_of_nonneg hp]
          refine ⟨negative, magnitude, rfl, hvalue ▸ magnitude.readsBack_value, ?_⟩
          intro hpos
          cases negative with
          | false => exact ⟨rfl, Magnitude.value_pos_iff.mp (hvalue ▸ hpos)⟩
          | true =>
              rw [Binary64.exactValue_true] at hpos
              exact absurd hpos (not_lt.mpr (neg_nonpos.mpr magnitude.value_nonneg))

end Quantity

namespace Binary64

/-- A quotient of at most one is a fraction, and one if its parts are alike. -/
theorem isFraction_nearest (negative : Bool) {num den : Nat} (hden : 0 < den) (hle : num ≤ den)
    (hsign : negative = true → num = 0) :
    (nearest negative (num * unitsPerOne) den).IsFraction ∧
      (num = den → (nearest negative (num * unitsPerOne) den).toRat? = some 1) := by
  obtain ⟨magnitude, hnearest, hunits, hone, -⟩ := nearest_ratio negative hden hle
  rw [hnearest]
  cases negative with
  | false =>
      refine ⟨⟨magnitude.value, ?_, magnitude.value_nonneg, hone⟩, ?_⟩
      · rw [toRat?, exactValue_false]
      · rintro rfl
        have hpoint : Grid.double.IsPoint unitsPerOne := by
          simpa using isPoint_whole (n := 1) (by norm_num)
        rw [Nat.mul_comm, Grid.double.round_point hden hpoint, ← Nat.one_mul unitsPerOne] at hunits
        rw [toRat?, exactValue_false, Magnitude.value_whole hunits, Nat.cast_one]
  | true =>
      obtain rfl := hsign rfl
      have hzero : exactValue true magnitude = 0 := by
        rw [exactValue_eq_zero_iff, hunits, Grid.double.round_eq_zero_iff rfl hden]
        simp
      exact ⟨⟨0, congrArg some hzero, le_rfl, zero_le_one⟩, fun hsame => absurd hsame hden.ne⟩

end Binary64

namespace Quantity

variable {a b : Quantity} {p q : Rat}

theorem div_whole (m n : Nat) : (whole m).div (whole n) = .ok (.ofRatio false m n) := by
  have hsign (k : Nat) : ¬ (k : Int) < 0 := by omega
  simp [div, hsign]

/-- Two numbers that are not both whole are rounded before they are divided. -/
theorem div_cases (a b : Quantity) : (∃ m n, a = .whole m ∧ b = .whole n) ∨
    a.div b = a.toBinary64 >>= fun x => b.toBinary64 >>= fun y => .ok (x.div y) := by
  cases a with
  | real x => exact .inr rfl
  | whole m =>
      cases b with
      | real y => exact .inr rfl
      | whole n => exact .inl ⟨m, n, rfl, rfl⟩

theorem exists_div_whole {m n : Int} (hpos : (0 : Rat) ≤ m) (hle : (m : Rat) ≤ n)
    (hsome : (0 : Rat) < n) :
    ∃ x, (whole m).div (whole n) = .ok x ∧ x.IsFraction ∧
      ((m : Rat) = n → x.toRat? = some 1) := by
  lift m to Nat using by exact_mod_cast hpos
  lift n to Nat using by exact_mod_cast hsome.le
  have hden : 0 < n := by exact_mod_cast hsome
  have hle : m ≤ n := by exact_mod_cast hle
  obtain ⟨hfraction, hone⟩ := Binary64.isFraction_nearest false hden hle nofun
  exact ⟨_, div_whole m n, hfraction, fun hsame => hone (by exact_mod_cast hsame)⟩

theorem exists_div_operands {s t : Bool} {x y : Magnitude} (hdiv : a.div b =
      a.toBinary64 >>= fun x => b.toBinary64 >>= fun y => .ok (x.div y))
    (ha : a.IsOperand p s x) (hb : b.IsOperand q t y) (hpos : 0 ≤ p) (hle : p ≤ q)
    (hsome : 0 < q) :
    ∃ z, a.div b = .ok z ∧ z.IsFraction ∧ (p = q → z.toRat? = some 1) := by
  obtain ⟨rfl, hden⟩ := hb.positive hsome
  have hunits : (0 : Rat) ≤ unitsPerOne := Nat.cast_nonneg _
  have hround := Magnitude.readsBack_iff.mp ha.readsBack
  have hround' := Magnitude.readsBack_iff.mp hb.readsBack
  have horder : x.units ≤ y.units := hround.mono hround' (mul_le_mul_of_nonneg_right hle hunits)
  -- Only a zero has a sign, and its quotient is a zero whatever that is.
  have hsign : (s != false) = true → x.units = 0 := by
    intro hnegative
    rcases hpos.eq_or_lt with rfl | hpos
    · exact Magnitude.readsBack_zero_iff.mp ha.readsBack
    · simp [(ha.positive hpos).1] at hnegative
  obtain ⟨hfraction, hone⟩ := Binary64.isFraction_nearest (s != false) hden horder hsign
  refine ⟨_, ?_, hfraction, ?_⟩
  · rw [hdiv, ha.rounded, ok_bind, hb.rounded, ok_bind, Binary64.div, if_neg hden.ne']
  · rintro rfl
    exact hone (hround.eq hround')

end Quantity

/-! ## Tiles of every size -/

/-- Two whole numbers of any size, or two numbers that each have a finite double, and their values. -/
inductive TilesOf : Quantity → Quantity → Rat → Rat → Prop where
  | whole (m n : Int) : TilesOf (.whole m) (.whole n) m n
  | doubles {solved total : Quantity} {p q : Rat} : solved.HasValue p → total.HasValue q →
      TilesOf solved total p q

/-- Why tiles have no fraction.  The message on an excess names both counts, if they have a text. -/
inductive FractionRefused (solved total : Quantity) (p q : Rat) : Fault → Prop where
  | negative : p < 0 ∨ q < 0 → FractionRefused solved total p q .negativeTiles
  | excess {a b : Text} : 0 ≤ q → q < p → solved.text = .ok a → total.text = .ok b →
      FractionRefused solved total p q (.solvedExceedsTotal a b)
  | unwritable : 0 ≤ q → q < p → solved.text = .error .unwritableInteger →
      FractionRefused solved total p q .unwritableInteger

theorem FractionRefused.kind_eq {solved total : Quantity} {p q : Rat} {fault : Fault}
    (h : FractionRefused solved total p q fault) : fault.kind = .value := by
  cases h <;> rfl

namespace TilesOf

variable {solved total : Quantity} {p q : Rat} (h : TilesOf solved total p q)

include h

theorem isNumber : solved.toValue.IsNumber p ∧ total.toValue.IsNumber q := by
  cases h with
  | whole m n => exact ⟨.int m, .int n⟩
  | doubles hsolved htotal => exact ⟨hsolved.isNumber, htotal.isNumber⟩

theorem solvedFraction_eq :
    solvedFraction solved total =
      if p < 0 ∨ q < 0 then .error .negativeTiles
      else if q < p then
        solved.text >>= fun a => total.text >>= fun b => .error (.solvedExceedsTotal a b)
      else if q = 0 then .ok none
      else solved.div total >>= fun x => .ok (some x) := by
  obtain ⟨hsolved, htotal⟩ := h.isNumber
  simp only [solvedFraction, Quantity.isNegative_eq hsolved, Quantity.isNegative_eq htotal,
    Quantity.lt_eq htotal hsolved, Quantity.isZero_eq htotal, Bool.or_eq_true, decide_eq_true_eq]
  by_cases hnegative : p < 0 ∨ q < 0
  · rw [if_pos hnegative, if_pos hnegative]
    rfl
  · rw [if_neg hnegative, if_neg hnegative]
    by_cases hexcess : q < p
    · rw [if_pos hexcess, if_pos hexcess]
      cases solved.text <;> cases total.text <;> rfl
    · rw [if_neg hexcess, if_neg hexcess]
      split_ifs <;> rfl

/-- A whole number that exceeds another one has more digits, or as many. -/
theorem text_cases (hpos : 0 ≤ q) (hexcess : q < p) :
    solved.text = .error .unwritableInteger ∨
      ∃ a b, solved.text = .ok a ∧ total.text = .ok b := by
  cases h with
  | whole m n =>
      by_cases hlong : IsLong m
      · exact .inl ((failsIf_integerText m).fails hlong)
      · obtain ⟨a, ha⟩ := (failsIf_integerText m).succeeds hlong
        have hshort : ¬ IsLong n := by
          have hpos : 0 ≤ n := by exact_mod_cast hpos
          have hexcess : n < m := by exact_mod_cast hexcess
          unfold IsLong at hlong ⊢
          omega
        obtain ⟨b, hb⟩ := (failsIf_integerText n).succeeds hshort
        exact .inr ⟨a, b, ha, hb⟩
  | doubles hsolved htotal =>
      obtain ⟨a, ha⟩ := hsolved.exists_text
      obtain ⟨b, hb⟩ := htotal.exists_text
      exact .inr ⟨a, b, ha, hb⟩

theorem exists_refused_iff :
    (∃ fault, FractionRefused solved total p q fault) ↔ p < 0 ∨ q < 0 ∨ q < p := by
  constructor
  · rintro ⟨fault, hnegative | ⟨-, hexcess, -⟩ | ⟨-, hexcess, -⟩⟩
    · exact or_assoc.mp (.inl hnegative)
    · exact .inr (.inr hexcess)
    · exact .inr (.inr hexcess)
  · intro hfault
    by_cases hnegative : p < 0 ∨ q < 0
    · exact ⟨_, .negative hnegative⟩
    · have hexcess : q < p := (or_assoc.mpr hfault).resolve_left hnegative
      have hpos : 0 ≤ q := not_lt.mp (not_or.mp hnegative).2
      rcases h.text_cases hpos hexcess with hsolved | ⟨a, b, ha, hb⟩
      · exact ⟨_, .unwritable hpos hexcess hsolved⟩
      · exact ⟨_, .excess hpos hexcess ha hb⟩

theorem refused {fault : Fault} (hrefused : FractionRefused solved total p q fault) :
    solvedFraction solved total = .error fault := by
  have hcounted (hpos : 0 ≤ q) (hexcess : q < p) : ¬ (p < 0 ∨ q < 0) :=
    not_or.mpr ⟨not_lt.mpr (hpos.trans hexcess.le), not_lt.mpr hpos⟩
  rw [h.solvedFraction_eq]
  cases hrefused with
  | negative hnegative => rw [if_pos hnegative]
  | excess hpos hexcess ha hb =>
      rw [if_neg (hcounted hpos hexcess), if_pos hexcess, ha, ok_bind, hb, ok_bind]
  | unwritable hpos hexcess ha =>
      rw [if_neg (hcounted hpos hexcess), if_pos hexcess, ha, error_bind]

theorem of_no_tiles (hpos : 0 ≤ p) (hle : p ≤ q) (hnone : q = 0) :
    solvedFraction solved total = .ok none := by
  rw [h.solvedFraction_eq, if_neg (by simp [hpos, hnone]), if_neg (not_lt.mpr hle), if_pos hnone]

/-- Tiles that are not refused have a fraction unless there are none. -/
theorem exists_fraction (hpos : 0 ≤ p) (hle : p ≤ q) (hsome : q ≠ 0) :
    ∃ x, solvedFraction solved total = .ok (some x) ∧ x.IsFraction ∧
      (p = q → x.toRat? = some 1) := by
  have hq : 0 < q := lt_of_le_of_ne (hpos.trans hle) hsome.symm
  suffices hdiv : ∃ x, solved.div total = .ok x ∧ x.IsFraction ∧ (p = q → x.toRat? = some 1) by
    obtain ⟨x, hx, hfraction⟩ := hdiv
    refine ⟨x, ?_, hfraction⟩
    rw [h.solvedFraction_eq, if_neg (by simp [hpos, hq.le]), if_neg (not_lt.mpr hle),
      if_neg hsome, hx, ok_bind]
  cases h with
  | whole m n => exact Quantity.exists_div_whole hpos hle hq
  | doubles hsolved htotal =>
      rcases solved.div_cases total with ⟨m, n, rfl, rfl⟩ | hdiv
      · cases hsolved
        cases htotal
        exact Quantity.exists_div_whole hpos hle hq
      · obtain ⟨s, x, hx⟩ := hsolved.exists_operand hpos
        obtain ⟨t, y, hy⟩ := htotal.exists_operand hq.le
        exact Quantity.exists_div_operands hdiv hx hy hpos hle hq

theorem eq_error_iff {fault : Fault} :
    solvedFraction solved total = .error fault ↔ FractionRefused solved total p q fault := by
  refine ⟨fun herror => ?_, h.refused⟩
  by_cases hfault : ∃ other, FractionRefused solved total p q other
  · obtain ⟨other, hother⟩ := hfault
    rw [h.refused hother] at herror
    cases herror
    exact hother
  · rw [h.exists_refused_iff] at hfault
    simp only [not_or, not_lt] at hfault
    obtain ⟨hpos, -, hle⟩ := hfault
    by_cases hnone : q = 0
    · rw [h.of_no_tiles hpos hle hnone] at herror
      cases herror
    · obtain ⟨x, hx, -⟩ := h.exists_fraction hpos hle hnone
      rw [hx] at herror
      cases herror

end TilesOf

theorem isNearest_ratio {m n : Nat} (hden : 0 < n) (hle : m ≤ n) :
    (Binary64.ofRatio false m n).IsNearest (m / n) := by
  have hpos : ¬ (m / n : Rat) < 0 := not_lt.mpr (by positivity)
  rcases Binary64.nearest?_cases false m hden with ⟨magnitude, hnearest, -⟩ | ⟨hnone, -⟩
  · have hdouble := Binary64.isNearest_of_nearest? hden (abs_of_nonneg (not_lt.mp hpos)) hnearest
    rw [decide_eq_false hpos] at hdouble
    rw [Binary64.ofRatio, Binary64.nearest_eq hnearest]
    exact hdouble
  · obtain ⟨magnitude, hfinite, -⟩ := Binary64.nearest_ratio false hden hle
    rw [Binary64.nearest, hnone] at hfinite
    cases hfinite

/-- The quotient of two whole numbers is rounded once. -/
theorem isRounding_solvedFraction {m n : Int} {x : Binary64}
    (h : solvedFraction (.whole m) (.whole n) = .ok (some x)) :
    x.IsNearest (m / n) ∧ Binary64.IsRounding false (m / n) x := by
  rw [(TilesOf.whole m n).solvedFraction_eq] at h
  split_ifs at h with hnegative hexcess hnone
  · cases hm : integerText m with
    | error fault => simp [Quantity.text, hm] at h
    | ok a => cases hn : integerText n <;> simp [Quantity.text, hm, hn] at h
  · cases h
  · simp only [not_or, not_lt] at hnegative hexcess
    lift m to Nat using by exact_mod_cast hnegative.1
    lift n to Nat using by exact_mod_cast hnegative.2
    have hden : 0 < n := Nat.pos_of_ne_zero (by exact_mod_cast hnone)
    rw [Quantity.div_whole, ok_bind] at h
    cases h
    rw [Int.cast_natCast, Int.cast_natCast]
    exact ⟨isNearest_ratio hden (by exact_mod_cast hexcess), Binary64.isRounding_ofRatio m hden⟩

/-! ## What a fraction is -/

structure FractionSound (solved total : Quantity) (p q : Rat) : Prop where
  refused : ∀ fault, solvedFraction solved total = .error fault ↔
    FractionRefused solved total p q fault
  raises : (∃ fault, solvedFraction solved total = .error fault) ↔ p < 0 ∨ q < 0 ∨ q < p
  absent : ¬ (p < 0 ∨ q < 0 ∨ q < p) → (solvedFraction solved total = .ok none ↔ q = 0)
  present : ¬ (p < 0 ∨ q < 0 ∨ q < p) → q ≠ 0 → ∃ x, solvedFraction solved total = .ok (some x) ∧
    x.IsFraction ∧ (p = q → x.toRat? = some 1) ∧
      ∀ m n, solved = .whole m → total = .whole n →
        x.IsNearest (m / n) ∧ Binary64.IsRounding false (m / n) x

theorem solvedFraction_sound {solved total : Quantity} {p q : Rat} (h : TilesOf solved total p q) :
    FractionSound solved total p q := by
  have hraises : (∃ fault, solvedFraction solved total = .error fault) ↔
      p < 0 ∨ q < 0 ∨ q < p := by
    simp only [h.eq_error_iff, h.exists_refused_iff]
  constructor
  case refused => exact fun fault => h.eq_error_iff
  case raises => exact hraises
  case absent =>
    intro hcounted
    simp only [not_or, not_lt] at hcounted
    obtain ⟨hpos, -, hle⟩ := hcounted
    refine ⟨fun hnone => ?_, h.of_no_tiles hpos hle⟩
    by_contra hsome
    obtain ⟨x, hx, -⟩ := h.exists_fraction hpos hle hsome
    rw [hx] at hnone
    cases hnone
  case present =>
    intro hcounted hsome
    simp only [not_or, not_lt] at hcounted
    obtain ⟨hpos, -, hle⟩ := hcounted
    obtain ⟨x, hx, hfraction, hone⟩ := h.exists_fraction hpos hle hsome
    refine ⟨x, hx, hfraction, hone, ?_⟩
    rintro m n rfl rfl
    exact isRounding_solvedFraction hx

/-- A whole number that is rounded up to the double it is divided by. -/
theorem solvedFraction_sound_of_rounded :
    ∃ y, TilesOf (.whole 9007199254740995) (.real y) 9007199254740995 9007199254740996 ∧
      solvedFraction (.whole 9007199254740995) (.real y) = .ok (some (.ofBool true)) ∧
      FractionSound (.whole 9007199254740995) (.real y) 9007199254740995 9007199254740996 := by
  have hlimit : (9007199254740995 : Int).natAbs < doubleLimit := by decide +kernel
  have hdouble : (Binary64.ofRatio false 9007199254740996 1).toRat? = some 9007199254740996 := by
    decide +kernel
  have htiles : TilesOf (.whole 9007199254740995)
      (.real (.ofRatio false 9007199254740996 1)) 9007199254740995 9007199254740996 :=
    .doubles (by exact_mod_cast Quantity.HasValue.whole hlimit) (.real hdouble)
  exact ⟨_, htiles, by decide +kernel, solvedFraction_sound htiles⟩

end Scoreboard
