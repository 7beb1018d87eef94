import Mathlib
import Scoreboard.Proofs.PrintedNumbers

/-!
# Lone items

A sequence of one item counts as the item, if that is a text or a sequence itself.  Any other item counts
by its plain text, which is printed for a reader and not for the grammar of numbers: whole numbers,
decimal numbers and finite doubles are spelled so that they are read back, at whatever depth, but not
truth values, fractions, infinite doubles and whole numbers beyond the doubles.
-/

namespace Scoreboard

/-! ## Texts of no number -/

/-- Only radix literals have the character, of all texts that stand for a number. -/
def IsForeign (c : Char) : Prop :=
  isBlank c = false ∧ decimalValue? c = none ∧ c ∉ ['+', '-', '.', 'e', 'E'] ++ infinityWord

instance (c : Char) : Decidable (IsForeign c) :=
  inferInstanceAs (Decidable (_ ∧ _ ∧ _))

theorem mem_trimmed {text : Text} {c : Char} (h : c ∈ text) (hblank : isBlank c = false) :
    c ∈ text.trimmed := by
  obtain ⟨before, after, htext, haround⟩ := (isTrimming_trimmed text).around
  rw [htext, List.mem_append, List.mem_append] at h
  have houtside : c ∉ before ++ after := by
    intro hmem
    rw [haround c hmem] at hblank
    cases hblank
  simp only [List.mem_append, not_or] at houtside
  tauto

theorem LiteralParts.mem_text {value? : Char → Option Nat} {parts : LiteralParts value?} {c : Char}
    (h : c ∈ parts.text) : (value? c).isSome = true ∨ c ∈ ['+', '-', '.', 'e', 'E'] := by
  have hsign {sign : Sign} (h : c ∈ sign.text) : c ∈ ['+', '-', '.', 'e', 'E'] := by
    cases sign <;> simp_all [Sign.text]
  simp only [text, body, List.mem_append] at h
  rcases h with h | h | h | h
  · exact .inr (hsign h)
  · exact .inl (parts.whole_digits c h)
  · have hdigits := parts.fraction_digits
    unfold fractionText at h
    cases hfraction : parts.fraction with
    | none => simp [hfraction] at h
    | some digits =>
        rw [hfraction] at h hdigits
        rcases List.mem_cons.mp h with rfl | hdigit
        · exact .inr (by simp)
        · exact .inl (hdigits c hdigit)
  · unfold exponentText at h
    cases hexponent : parts.exponent with
    | none => simp [hexponent] at h
    | some part =>
        rw [hexponent] at h
        rcases List.mem_cons.mp h with rfl | hrest
        · exact .inr (by rcases part.mark_eq with heq | heq <;> simp [heq])
        · rcases List.mem_append.mp hrest with hmark | hdigit
          · exact .inr (hsign hmark)
          · exact .inl (part.digitsOf c hdigit)

theorem readNumber_foreign {text : Text} {c : Char} (hradix : NoRadixLiteral text) (hc : c ∈ text)
    (hforeign : IsForeign c) : readNumber text = .ok .nan := by
  obtain ⟨hblank, hvalue, hmarks⟩ := hforeign
  simp only [List.mem_append, not_or] at hmarks
  have hmem := mem_trimmed hc hblank
  apply readNumber_other
  · exact List.ne_nil_of_mem hmem
  · rw [infinity?_eq_none_iff]
    intro sign heq
    rw [heq, List.mem_append] at hmem
    rcases hmem with hsign | hword
    · cases sign <;> simp_all [Sign.text]
    · exact hmarks.2 hword
  · exact hradix.readRadixLiteral?
  · rw [LiteralParts.read?_eq_none_iff sparesMarks_decimal]
    rintro parts heq
    rw [heq] at hmem
    rcases LiteralParts.mem_text hmem with hdigit | hmark
    · rw [hvalue] at hdigit
      cases hdigit
    · exact hmarks.1 hmark

theorem readNumber_boolText (flag : Bool) : readNumber (boolText flag) = .ok .nan := by
  cases flag <;> decide +kernel

theorem readNumber_nan : readNumber "nan".toList = .ok .nan := by decide +kernel

/-- The word for an infinity is not the one that is printed for it. -/
theorem readNumber_inf (negative : Bool) :
    readNumber (Binary64.signText negative ++ "inf".toList) = .ok .nan := by
  cases negative <;> decide +kernel

theorem readNumber_infinityWord (negative : Bool) :
    readNumber (Binary64.signText negative ++ infinityWord) = .ok (.infinite negative) := by
  cases negative <;> decide +kernel

/-! ## Doubles that are printed -/

namespace Binary64

theorem nearest_ne_nan (negative : Bool) (num den : Nat) : nearest negative num den ≠ .nan := by
  unfold nearest
  cases Magnitude.nearest? num den <;> simp

/-- With this decimal for its magnitude, the text of the number reads back as the number. -/
def SurvivesPrinting (shortest : Magnitude → DecimalPoint) : Binary64 → Prop
  | .nan => True
  | .infinite _ => False
  | .finite _ magnitude => magnitude.units = 0 ∨ magnitude.ReadsBack (shortest magnitude).value

theorem survivesPrinting_finite {shortest : Magnitude → DecimalPoint} {negative : Bool}
    {magnitude : Magnitude} : (finite negative magnitude).SurvivesPrinting shortest ↔
      magnitude.ReadsBack (if magnitude.units = 0 then 0 else (shortest magnitude).value) := by
  rw [SurvivesPrinting]
  split
  · next hzero => exact iff_of_true (.inl hzero) (Magnitude.readsBack_zero_iff.mpr hzero)
  · next hne => exact or_iff_right hne

theorem survivesPrinting_shortest_iff {x : Binary64} :
    x.SurvivesPrinting shortest ↔ ∀ negative, x ≠ .infinite negative := by
  cases x with
  | nan => exact iff_of_true trivial nofun
  | infinite negative => exact iff_of_false id fun h => h negative rfl
  | finite negative magnitude =>
      refine iff_of_true ?_ nofun
      rcases Nat.eq_zero_or_pos magnitude.units with hzero | hpos
      · exact .inl hzero
      · exact .inr (readsBack_shortest hpos)

end Binary64

namespace Value

/-- A sequence of one item stands for the number of the item. -/
def CountsAlike (item : Value) : Prop :=
  ∀ kind, (Value.sequence kind [item]).toNumber.outcome = item.toNumber.outcome

/-- Items that count by their plain text. -/
def isPrinted : Value → Bool
  | .text _ | .sequence _ _ | .missing .none => false
  | _ => true

variable {item : Value}

theorem isOpen_of_isPrinted (h : item.isPrinted = true) : item.isOpen = false := by
  cases item <;> first | rfl | cases h

theorem countsAlike_of_open (h : item.isOpen = true) : item.CountsAlike := by
  intro kind
  rw [toNumber_sequence, soleNumber_open h]

section Printed

variable (hprinted : item.isPrinted = true)

include hprinted

theorem toNumber_printed (kind : SequenceKind) :
    (Value.sequence kind [item]).toNumber.outcome = item.plainText >>= readNumber := by
  rw [toNumber_sequence, outcome_soleNumber (isOpen_of_isPrinted hprinted)]
  rintro rfl
  cases hprinted

theorem countsAlike_iff_readNumber : item.CountsAlike ↔
    item.plainText >>= readNumber = .ok (item.nearestDouble?.getD .nan) := by
  simp only [CountsAlike, toNumber_printed hprinted, toNumber_closed (isOpen_of_isPrinted hprinted)]
  exact ⟨fun h => h .list, fun h _ => h⟩

theorem not_countsAlike_of_long (hlong : item.HoldsLong) : ¬ item.CountsAlike := by
  rw [countsAlike_iff_readNumber hprinted, (failsIf_plainText item).fails hlong]
  exact nofun

theorem countsAlike_iff_of_nan {text : Text} (htext : item.plainText = .ok text)
    (hread : readNumber text = .ok .nan) :
    item.CountsAlike ↔ item.nearestDouble?.getD .nan = .nan := by
  rw [countsAlike_iff_readNumber hprinted, htext, ok_bind, hread, Except.ok.injEq, eq_comm]

theorem countsAlike_iff_of_foreign {text : Text} (htext : item.plainText = .ok text) {c : Char}
    (hc : c ∈ text) (hforeign : IsForeign c) :
    item.CountsAlike ↔ item.nearestDouble?.getD .nan = .nan :=
  countsAlike_iff_of_nan hprinted htext (readNumber_foreign
    (noRadixLiteral_plainText (isOpen_of_isPrinted hprinted) htext) hc hforeign)

theorem countsAlike_iff_of_spells {text : Text} (htext : item.plainText = .ok text)
    {negative : Bool} {q : Rat} (hspells : Spells text negative q) :
    item.CountsAlike ↔ Binary64.IsRounding negative q (item.nearestDouble?.getD .nan) := by
  rw [countsAlike_iff_readNumber hprinted, htext, ok_bind, hspells.readNumber_eq]

theorem countsAlike_whole_iff {n : Int} (htext : item.plainText = .ok (.ofInt n))
    (hdouble : item.nearestDouble? = Binary64.ofInt? n) :
    item.CountsAlike ↔ n.natAbs < doubleLimit := by
  rw [countsAlike_iff_of_spells hprinted htext (spells_ofInt n), hdouble]
  rcases Binary64.ofInt?_cases n with ⟨magnitude, hsome, hround⟩ | ⟨hnone, -⟩
  · have hlt : n.natAbs < doubleLimit := by
      rw [← not_le, ← ofInt?_eq_none_iff, hsome]
      exact nofun
    rw [hsome]
    exact iff_of_true hround hlt
  · rw [hnone]
    exact iff_of_false nofun (not_lt.mpr (ofInt?_eq_none_iff.mp hnone))

theorem not_countsAlike_of_bool {flag : Bool} (htext : item.plainText = .ok (boolText flag))
    (hdouble : item.nearestDouble? = some (.ofBool flag)) : ¬ item.CountsAlike := by
  rw [countsAlike_iff_of_nan hprinted htext (readNumber_boolText flag), hdouble, Option.getD_some,
    Binary64.ofBool, Binary64.ofRatio]
  exact Binary64.nearest_ne_nan _ _ _

theorem countsAlike_textWith_iff {shortest : Magnitude → DecimalPoint}
    (h : ∀ magnitude : Magnitude, 0 < magnitude.units → (shortest magnitude).coefficient ≠ 0)
    {width : Nat} {x : Binary64}
    (htext : item.plainText = .ok (Binary64.textWith shortest width ['.', '0'] x))
    (hdouble : item.nearestDouble? = some x) : item.CountsAlike ↔ x.SurvivesPrinting shortest := by
  cases x with
  | nan =>
      rw [countsAlike_iff_of_nan hprinted htext readNumber_nan, hdouble]
      exact iff_of_true rfl trivial
  | infinite negative =>
      rw [countsAlike_iff_of_nan hprinted htext (readNumber_inf negative), hdouble]
      exact iff_of_false nofun id
  | finite negative magnitude =>
      rw [countsAlike_iff_of_spells hprinted htext (Binary64.spells_textWith (h _) width negative),
        hdouble, Option.getD_some, Magnitude.isRounding_finite_iff]
      exact Binary64.survivesPrinting_finite.symm

end Printed

/-! ## Items of each kind -/

theorem doubleLimit_le_of_isLong {n : Int} (h : IsLong n) : doubleLimit ≤ n.natAbs := by
  have : doubleLimit ≤ 10 ^ digitLimit := by decide +kernel
  exact this.trans h

theorem countsAlike_int_iff (n : Int) : (Value.int n).CountsAlike ↔ n.natAbs < doubleLimit := by
  by_cases hlong : IsLong n
  · exact iff_of_false (not_countsAlike_of_long rfl (.int hlong))
      (not_lt.mpr (doubleLimit_le_of_isLong hlong))
  · apply countsAlike_whole_iff rfl _ rfl
    rw [plainText_int]
    exact if_neg hlong

theorem countsAlike_fraction_iff (q : Rat) : (Value.fraction q).CountsAlike ↔
    if q.den = 1 then q.num.natAbs < doubleLimit
    else doubleLimit ≤ |q| ∧ ¬ (Value.fraction q).HoldsLong := by
  by_cases hlong : (Value.fraction q).HoldsLong
  · refine iff_of_false (not_countsAlike_of_long rfl hlong) ?_
    split
    · next hone =>
        rcases holdsLong_fraction.mp hlong with hnum | hden
        · exact not_lt.mpr (doubleLimit_le_of_isLong hnum)
        · have := doubleLimit_le_of_isLong hden
          rw [hone] at this
          exact absurd this (by decide +kernel)
    · exact fun h => h.2 hlong
  · have hnum : integerText q.num = .ok (.ofInt q.num) := if_neg fun h => hlong (.numerator h)
    have hden : integerText q.den = .ok (.ofInt q.den) := if_neg fun h => hlong (.denominator h)
    split
    · next hone =>
        apply countsAlike_whole_iff rfl
        · rw [plainText, hnum, ok_bind, if_pos hone]
          rfl
        · change Binary64.ofRat? q = _
          rw [← Binary64.ofRat?_intCast, Rat.coe_int_num_of_den_eq_one hone]
    · next hne =>
        have htext : (Value.fraction q).plainText =
            .ok (Text.ofInt q.num ++ '/' :: Text.ofInt q.den) := by
          rw [plainText, hnum, ok_bind, if_neg hne, hden]
          rfl
        rw [countsAlike_iff_of_foreign rfl htext (List.mem_append_right _ List.mem_cons_self)
          (by decide), ← Binary64.ofRat?_eq_none_iff]
        change (Binary64.ofRat? q).getD .nan = .nan ↔ _
        rcases Binary64.ofRat?_cases q with ⟨magnitude, hsome, -⟩ | ⟨hnone, -⟩
        · simp [hsome]
        · simp [hnone, hlong]

/-- The text of the item, if it counts by its text, reads as the number of the item. -/
def KeepsNumber : Value → Prop
  | .missing marker => marker ≠ .none
  | .bool _ | .scalar (.bool _) => False
  | .int n | .scalar (.int64 n) => n.natAbs < doubleLimit
  | .float x | .scalar (.double x) => ∀ negative, x ≠ .infinite negative
  | .scalar (.single x) => x.SurvivesPrinting Binary64.shortestSingle
  | .fraction q =>
      if q.den = 1 then q.num.natAbs < doubleLimit
      else doubleLimit ≤ |q| ∧ ¬ (Value.fraction q).HoldsLong
  | .bytes content => (readBytes? content).getD .nan = .nan
  | .mapping entries => ¬ (Value.mapping entries).HoldsLong
  | .decimal _ | .complex _ _ | .text _ | .sequence _ _ | .object _ => True

theorem countsAlike_decimal (d : Decimal) : (Value.decimal d).CountsAlike := by
  cases d with
  | finite negative coefficient exponent =>
      rw [countsAlike_iff_of_spells rfl rfl (spells_decimal negative coefficient exponent)]
      exact Binary64.isRounding_scientific_iff.mpr rfl
  | infinite negative =>
      rw [countsAlike_iff_readNumber rfl]
      exact readNumber_infinityWord negative
  | nan signaling negative payload =>
      have hmem : 'N' ∈ (Decimal.nan signaling negative payload).text := by
        cases signaling <;> simp [Decimal.text]
      rw [countsAlike_iff_of_foreign rfl rfl hmem (by decide)]
      cases signaling <;> rfl

theorem mem_complexText (re im : Binary64) : 'j' ∈ Binary64.complexText re im := by
  unfold Binary64.complexText
  split <;> simp

theorem countsAlike_mapping_iff (entries : List (Value × Value)) :
    (Value.mapping entries).CountsAlike ↔ ¬ (Value.mapping entries).HoldsLong := by
  constructor
  · exact fun h hlong => not_countsAlike_of_long rfl hlong h
  · intro hshort
    obtain ⟨text, htext⟩ := (failsIf_plainText (.mapping entries)).succeeds hshort
    have hmem : '\x7b' ∈ text := by
      rw [plainText_mapping] at htext
      obtain ⟨shown, -, hshown⟩ := bind_eq_ok.mp htext
      cases hshown
      exact List.mem_cons_self
    exact (countsAlike_iff_of_foreign rfl htext hmem (by decide)).mpr rfl

theorem not_countsAlike_none : ¬ (Value.missing .none).CountsAlike := by
  intro h
  have hzero := h .list
  rw [toNumber_sequence, soleNumber, toNumber_closed rfl] at hzero
  cases hzero

/-- A sequence of one item counts as the item exactly for the items whose text keeps their number. -/
theorem countsAlike_iff (item : Value) : item.CountsAlike ↔ item.KeepsNumber := by
  cases item with
  | missing marker =>
      cases marker with
      | none => exact iff_of_false not_countsAlike_none fun h => h rfl
      | notAvailable =>
          exact iff_of_true
            ((countsAlike_iff_of_foreign rfl rfl (by decide : 'N' ∈ "<NA>".toList) (by decide)).mpr rfl)
            nofun
      | notATime =>
          exact iff_of_true
            ((countsAlike_iff_of_foreign rfl rfl (by decide : 'N' ∈ "NaT".toList) (by decide)).mpr rfl)
            nofun
  | bool flag => exact iff_of_false (not_countsAlike_of_bool rfl rfl rfl) id
  | int n => exact countsAlike_int_iff n
  | float x =>
      rw [countsAlike_textWith_iff rfl (fun _ => Binary64.shortest_ne_zero) rfl rfl]
      exact Binary64.survivesPrinting_shortest_iff
  | decimal d => exact iff_of_true (countsAlike_decimal d) trivial
  | fraction q => exact countsAlike_fraction_iff q
  | complex re im =>
      exact iff_of_true
        ((countsAlike_iff_of_foreign rfl rfl (mem_complexText re im) (by decide)).mpr rfl) trivial
  | scalar s =>
      cases s with
      | bool flag => exact iff_of_false (not_countsAlike_of_bool rfl rfl rfl) id
      | int64 n => exact countsAlike_whole_iff rfl rfl rfl
      | double x =>
          rw [countsAlike_textWith_iff rfl (fun _ => Binary64.shortest_ne_zero) rfl rfl]
          exact Binary64.survivesPrinting_shortest_iff
      | single x =>
          exact countsAlike_textWith_iff rfl (fun _ => Binary64.shortestSingle_ne_zero) rfl rfl
  | text content => exact iff_of_true (countsAlike_of_open rfl) trivial
  | bytes content =>
      have hmem : 'b' ∈ quotedBytes content := List.mem_cons_self
      exact countsAlike_iff_of_foreign rfl rfl hmem (by decide)
  | sequence kind items => exact iff_of_true (countsAlike_of_open rfl) trivial
  | mapping entries => exact countsAlike_mapping_iff entries
  | object address =>
      have hmem : '<' ∈ objectText address := List.mem_cons_self
      exact iff_of_true ((countsAlike_iff_of_foreign rfl rfl hmem (by decide)).mpr rfl) trivial

/-- The printed words and quotients of an infinity, a truth value and a fraction are no numbers. -/
theorem not_countsAlike_infinity_true_half : ¬ (Value.float (.infinite false)).CountsAlike ∧
    ¬ (Value.bool true).CountsAlike ∧ ¬ (Value.fraction (1 / 2)).CountsAlike := by
  have hinfinity : (Value.sequence .list [.float (.infinite false)]).toNumber.outcome = .ok .nan := by
    decide +kernel
  have htrue : (Value.sequence .list [.bool true]).toNumber.outcome = .ok .nan := by
    decide +kernel
  have hhalf : (Value.sequence .list [.fraction (1 / 2)]).toNumber.outcome = .ok .nan := by
    decide +kernel
  refine ⟨fun h => ?_, fun h => ?_, fun h => ?_⟩
  · have hself : (Value.float (.infinite false)).toNumber.outcome ≠ .ok .nan := by decide +kernel
    exact hself ((h .list).symm.trans hinfinity)
  · have hself : (Value.bool true).toNumber.outcome ≠ .ok .nan := by decide +kernel
    exact hself ((h .list).symm.trans htrue)
  · have hself : (Value.fraction (1 / 2)).toNumber.outcome ≠ .ok .nan := by decide +kernel
    exact hself ((h .list).symm.trans hhalf)

/-! ## Nested items -/

/-- The value inside of sequences of one item, of these kinds from the outside in. -/
def nested (kinds : List SequenceKind) (value : Value) : Value :=
  kinds.foldr (fun kind item => .sequence kind [item]) value

theorem CountsAlike.nested (h : item.CountsAlike) (kinds : List SequenceKind) :
    (item.nested kinds).toNumber.outcome = item.toNumber.outcome := by
  induction kinds with
  | nil => rfl
  | cons kind kinds ih =>
      have hinner : (Value.nested kinds item).CountsAlike := by
        cases kinds with
        | nil => exact h
        | cons => exact countsAlike_of_open rfl
      exact (hinner kind).trans ih

theorem countsAlike_finite (negative : Bool) (magnitude : Magnitude) :
    (Value.float (.finite negative magnitude)).CountsAlike := by
  rw [countsAlike_textWith_iff rfl (fun _ => Binary64.shortest_ne_zero) rfl rfl]
  exact Binary64.survivesPrinting_shortest_iff.mpr nofun

theorem ofInt?_of_isRounding {n : Int} {magnitude : Magnitude}
    (h : Binary64.IsRounding (n < 0) |(n : Rat)| (.finite (n < 0) magnitude)) :
    Binary64.ofInt? n = some (.finite (n < 0) magnitude) := by
  rcases Binary64.ofInt?_cases n with ⟨other, hsome, hother⟩ | ⟨-, hinfinite⟩
  · rw [hsome, h.unique hother]
  · cases h.unique hinfinite

/--
A finite double is printed as a shortest decimal, which reads back as the double, and sequences of one
around it, or around a whole number that is rounded to it, stand for it as well.
-/
theorem toNumber_nested (kinds : List SequenceKind) :
    (∀ (negative : Bool) (magnitude : Magnitude),
      (∃ point, magnitude.IsShortest point ∧
        Spells (Binary64.finite negative magnitude).text negative point.value) ∧
      readNumber (Binary64.finite negative magnitude).text = .ok (.finite negative magnitude) ∧
      ((Value.float (.finite negative magnitude)).nested kinds).toNumber.outcome =
        .ok (.finite negative magnitude)) ∧
    ∀ (n : Int) (magnitude : Magnitude),
      Binary64.IsRounding (n < 0) |(n : Rat)| (.finite (n < 0) magnitude) →
        ((Value.int n).nested kinds).toNumber.outcome = .ok (.finite (n < 0) magnitude) := by
  constructor
  · intro negative magnitude
    obtain ⟨point, hshortest, hspells⟩ := Binary64.exists_isShortest_text negative magnitude
    refine ⟨⟨point, hshortest, hspells⟩, ?_, ?_⟩
    · exact hspells.readNumber_eq.mpr (Magnitude.isRounding_finite_iff.mpr hshortest.readsBack)
    · rw [(countsAlike_finite negative magnitude).nested]
      exact Display.toNumber_float _
  · intro n magnitude hround
    have hdouble := ofInt?_of_isRounding hround
    have halike : (Value.int n).CountsAlike := by
      rw [countsAlike_int_iff, ← not_le, ← ofInt?_eq_none_iff, hdouble]
      exact nofun
    rw [halike.nested, Display.toNumber_int, hdouble, Option.getD_some]

/-- In a list in a tuple, an odd number above `2 ^ 53`, which is no double. -/
theorem toNumber_nested_of_middle : ∃ magnitude : Magnitude,
    magnitude.units = 2 ^ 53 * unitsPerOne ∧
      ((Value.int (2 ^ 53 + 1)).nested [.tuple, .list]).toNumber.outcome =
        .ok (.finite false magnitude) := by
  let magnitude : Magnitude := ⟨2 ^ 53 * unitsPerOne, by decide +kernel, by decide +kernel⟩
  have hround : Binary64.IsRounding false ((2 ^ 53 + 1 : Nat) / (1 : Nat)) (.finite false magnitude) := by
    rw [Binary64.isRounding_iff Nat.one_pos]
    decide +kernel
  refine ⟨magnitude, rfl, (toNumber_nested [.tuple, .list]).2 (2 ^ 53 + 1) magnitude ?_⟩
  norm_num at hround ⊢
  exact hround

end Value

end Scoreboard
