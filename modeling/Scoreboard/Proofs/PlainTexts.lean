import Mathlib
import Scoreboard.Proofs.Digits
import Scoreboard.Proofs.Outcome
import Scoreboard.Value.Number

/-!
# Plain texts of values

A value has a text unless it holds a whole number over the digit limit, at whatever depth.  The plain
text of a value that is no text itself never reads as a radix literal: either no character of it
marks a radix, or it begins with one that no number begins with.
-/

namespace Scoreboard

/-! ## Values without a text -/

/-- The computation fails with this fault under the condition, and gives a result otherwise. -/
structure FailsIf {α : Type} (p : Prop) (fault : Fault) (result : Except Fault α) : Prop where
  fails : p → result = .error fault
  succeeds : ¬ p → ∃ a, result = .ok a

namespace FailsIf

variable {α β : Type} {p q : Prop} {fault : Fault}

theorem ok (a : α) (h : ¬ p) : FailsIf p fault (.ok a) := ⟨fun hp => absurd hp h, fun _ => ⟨a, rfl⟩⟩

theorem congr {result : Except Fault α} (h : FailsIf p fault result) (hpq : p ↔ q) :
    FailsIf q fault result := by
  rwa [← hpq]

theorem bind {first : Except Fault α} {next : α → Except Fault β} (hfirst : FailsIf p fault first)
    (hnext : ∀ a, FailsIf q fault (next a)) : FailsIf (p ∨ q) fault (first >>= next) := by
  by_cases hp : p
  · refine ⟨fun _ => ?_, fun hneither => absurd (.inl hp) hneither⟩
    rw [hfirst.fails hp, error_bind]
  · obtain ⟨a, ha⟩ := hfirst.succeeds hp
    rw [ha, ok_bind]
    exact (hnext a).congr (by simp [hp])

theorem bind_ok {first : Except Fault α} (hfirst : FailsIf p fault first) (f : α → β) :
    FailsIf p fault (first >>= fun a => .ok (f a)) := by
  have hnext : ∀ a, FailsIf False fault (.ok (f a)) := fun a => ok (f a) not_false
  exact (hfirst.bind hnext).congr (by simp)

theorem eq_error_iff {result : Except Fault α} (h : FailsIf p fault result) {other : Fault} :
    result = .error other ↔ other = fault ∧ p := by
  by_cases hp : p
  · rw [h.fails hp, Except.error.injEq]
    simp [hp, eq_comm]
  · obtain ⟨a, ha⟩ := h.succeeds hp
    simp [ha, hp]

end FailsIf

/-- A whole number over the digit limit. -/
def IsLong (n : Int) : Prop := 10 ^ digitLimit ≤ n.natAbs

theorem failsIf_integerText (n : Int) : FailsIf (IsLong n) .unwritableInteger (integerText n) := by
  constructor
  · exact fun hlong => if_pos hlong
  · exact fun hshort => ⟨.ofInt n, if_neg hshort⟩

namespace Value

/-- A whole number over the digit limit is part of the value. -/
inductive HoldsLong : Value → Prop where
  | int {n : Int} : IsLong n → HoldsLong (.int n)
  | numerator {q : Rat} : IsLong q.num → HoldsLong (.fraction q)
  | denominator {q : Rat} : IsLong q.den → HoldsLong (.fraction q)
  | item {kind : SequenceKind} {items : List Value} {item : Value} :
      item ∈ items → HoldsLong item → HoldsLong (.sequence kind items)
  | key {entries : List (Value × Value)} {key value : Value} :
      (key, value) ∈ entries → HoldsLong key → HoldsLong (.mapping entries)
  | value {entries : List (Value × Value)} {key value : Value} :
      (key, value) ∈ entries → HoldsLong value → HoldsLong (.mapping entries)

theorem holdsLong_int {n : Int} : (Value.int n).HoldsLong ↔ IsLong n :=
  ⟨fun h => by cases h; assumption, .int⟩

theorem holdsLong_fraction {q : Rat} :
    (Value.fraction q).HoldsLong ↔ IsLong q.num ∨ IsLong q.den := by
  constructor
  · rintro (_ | hnum | hden)
    · exact .inl hnum
    · exact .inr hden
  · rintro (hnum | hden)
    · exact .numerator hnum
    · exact .denominator hden

theorem holdsLong_sequence {kind : SequenceKind} {items : List Value} :
    (Value.sequence kind items).HoldsLong ↔ ∃ item ∈ items, item.HoldsLong := by
  constructor
  · rintro (_ | _ | _ | ⟨hitem, hlong⟩)
    exact ⟨_, hitem, hlong⟩
  · rintro ⟨item, hitem, hlong⟩
    exact .item hitem hlong

theorem holdsLong_mapping {entries : List (Value × Value)} :
    (Value.mapping entries).HoldsLong ↔
      ∃ entry ∈ entries, entry.1.HoldsLong ∨ entry.2.HoldsLong := by
  constructor
  · rintro (_ | _ | _ | _ | ⟨hentry, hkey⟩ | ⟨hentry, hvalue⟩)
    · exact ⟨_, hentry, .inl hkey⟩
    · exact ⟨_, hentry, .inr hvalue⟩
  · rintro ⟨entry, hentry, hkey | hvalue⟩
    · exact .key hentry hkey
    · exact .value hentry hvalue

mutual

theorem failsIf_description : (value : Value) →
    FailsIf value.HoldsLong .unwritableInteger value.description
  | .int n => (failsIf_integerText n).congr holdsLong_int.symm
  | .fraction q => by
      rw [description]
      exact ((failsIf_integerText q.num).bind fun num =>
        (failsIf_integerText q.den).bind_ok _).congr holdsLong_fraction.symm
  | .sequence kind items => by
      rw [description]
      exact ((failsIf_descriptions items).bind_ok _).congr holdsLong_sequence.symm
  | .mapping entries => by
      rw [description]
      exact ((failsIf_entryDescriptions entries).bind_ok _).congr holdsLong_mapping.symm
  | .missing marker => .ok _ nofun
  | .bool flag => .ok _ nofun
  | .float x => .ok _ nofun
  | .decimal d => .ok _ nofun
  | .complex re im => .ok _ nofun
  | .scalar s => .ok _ nofun
  | .text content => .ok _ nofun
  | .bytes content => .ok _ nofun
  | .object address => .ok _ nofun

theorem failsIf_descriptions : (items : List Value) →
    FailsIf (∃ item ∈ items, item.HoldsLong) .unwritableInteger (descriptions items)
  | [] => .ok _ (by simp)
  | item :: rest => by
      rw [descriptions]
      exact ((failsIf_description item).bind fun shown =>
        (failsIf_descriptions rest).bind_ok _).congr (by simp)

theorem failsIf_entryDescriptions : (entries : List (Value × Value)) →
    FailsIf (∃ entry ∈ entries, entry.1.HoldsLong ∨ entry.2.HoldsLong) .unwritableInteger
      (entryDescriptions entries)
  | [] => .ok _ (by simp)
  | (key, value) :: rest => by
      rw [entryDescriptions]
      exact ((failsIf_description key).bind fun _ => (failsIf_description value).bind fun _ =>
        (failsIf_entryDescriptions rest).bind_ok _).congr (by simp [or_assoc])

end

/-- A value has a plain text exactly if no whole number over the digit limit is part of it. -/
theorem failsIf_plainText (value : Value) :
    FailsIf value.HoldsLong .unwritableInteger value.plainText := by
  cases value with
  | text content => exact .ok _ nofun
  | decimal d => exact .ok _ nofun
  | scalar s => exact .ok _ nofun
  | fraction q =>
      have hone : q.den = 1 → ¬ IsLong q.den := by
        intro hone
        rw [hone, IsLong]
        decide +kernel
      have hparts : FailsIf (IsLong q.num ∨ IsLong q.den) .unwritableInteger
          (Value.fraction q).plainText := by
        rw [plainText]
        refine (failsIf_integerText q.num).bind fun num => ?_
        split
        · exact .ok _ (hone ‹_›)
        · exact (failsIf_integerText q.den).bind_ok _
      exact hparts.congr holdsLong_fraction.symm
  | _ => exact failsIf_description _

end Value

/-! ## Texts that read as no radix literal -/

/-- No character marks a radix. -/
def Unmarked (text : Text) : Prop := ∀ c ∈ text, radixOf? c = none

namespace Unmarked

variable {s t : Text} {c : Char}

@[simp] theorem nil : Unmarked [] := by simp [Unmarked]

@[simp] theorem cons : Unmarked (c :: s) ↔ radixOf? c = none ∧ Unmarked s := by simp [Unmarked]

@[simp] theorem append : Unmarked (s ++ t) ↔ Unmarked s ∧ Unmarked t := by
  simp [Unmarked, or_imp, forall_and]

@[simp] theorem replicate (n : Nat) (h : radixOf? c = none) : Unmarked (List.replicate n c) := by
  intro d hd
  rw [List.eq_of_mem_replicate hd, h]

theorem sublist (h : Unmarked t) (hst : s.Sublist t) : Unmarked s := fun d hd => h d (hst.subset hd)

theorem digits (h : AllDigits s) : Unmarked s := by
  intro d hd
  have hdigit := h d hd
  unfold radixOf?
  rw [if_neg, if_neg, if_neg]
  all_goals
    rintro (rfl | rfl) <;> exact absurd hdigit (by decide)

@[simp] theorem ofNat (n : Nat) : Unmarked (.ofNat n) := digits (allDigits_ofNat n)

@[simp] theorem ofInt (n : Int) : Unmarked (.ofInt n) := by
  unfold Text.ofInt
  split <;> simp [radixOf?]

@[simp] theorem boolText (flag : Bool) : Unmarked (boolText flag) := by
  cases flag <;> simp [Scoreboard.boolText, radixOf?]

end Unmarked

namespace Binary64

theorem unmarked_withoutTrailingZeros {digits : Text} (h : Unmarked digits) :
    Unmarked (withoutTrailingZeros digits) := by
  intro c hc
  have := (List.dropWhile_sublist _).subset (List.mem_reverse.mp hc)
  exact h c (List.mem_reverse.mp this)

theorem unmarked_positional {digits wholeMark : Text} (hdigits : Unmarked digits)
    (hmark : Unmarked wholeMark) (position : Int) :
    Unmarked (positional digits position wholeMark) := by
  have htake := hdigits.sublist (List.take_sublist position.toNat digits)
  have hdrop := hdigits.sublist (List.drop_sublist position.toNat digits)
  unfold positional
  split
  · simp [radixOf?, hdigits]
  · split
    · simp [radixOf?, hdigits, hmark]
    · simp [radixOf?, htake, hdrop]

theorem unmarked_exponential {digits : Text} (hdigits : Unmarked digits) (exponent : Int) :
    Unmarked (exponential digits exponent) := by
  have hexponent : Unmarked (exponentText exponent) := by
    unfold exponentText
    dsimp only
    split <;> split <;> simp [radixOf?]
  unfold exponential
  dsimp only
  split <;> simp_all [radixOf?]

@[simp] theorem unmarked_signText (negative : Bool) : Unmarked (signText negative) := by
  cases negative <;> simp [signText, radixOf?]

theorem unmarked_textWith (shortest : Magnitude → DecimalPoint) (width : Nat) {wholeMark : Text}
    (hmark : Unmarked wholeMark) (x : Binary64) : Unmarked (textWith shortest width wholeMark x) := by
  cases x with
  | nan => simp [textWith, radixOf?]
  | infinite negative => simp [textWith, radixOf?]
  | finite negative magnitude =>
      simp only [textWith, pointText, Unmarked.append, unmarked_signText, true_and]
      have hdigits := unmarked_withoutTrailingZeros
        (Unmarked.ofNat (shortest magnitude).coefficient)
      split
      · simp [radixOf?, hmark]
      · split
        · exact unmarked_positional hdigits hmark _
        · exact unmarked_exponential hdigits _

theorem unmarked_complexText (re im : Binary64) : Unmarked (complexText re im) := by
  have hre := unmarked_textWith shortest positionalWidth Unmarked.nil re
  have him := unmarked_textWith shortest positionalWidth Unmarked.nil im
  unfold complexText partText
  split
  · simp [radixOf?, him]
  · dsimp only
    split <;> simp [radixOf?, hre, him]

end Binary64

namespace Decimal

theorem unmarked_pointed {digits : Text} (hdigits : Unmarked digits) (position : Int) :
    Unmarked (pointed digits position) := by
  have htake := hdigits.sublist (List.take_sublist position.toNat digits)
  have hdrop := hdigits.sublist (List.drop_sublist position.toNat digits)
  unfold pointed
  split
  · simp [radixOf?, hdigits]
  · split
    · exact hdigits
    · simp [radixOf?, htake, hdrop]

theorem unmarked_text (d : Decimal) : Unmarked d.text := by
  have hsign : ∀ negative, Unmarked (signText negative) := by
    intro negative
    cases negative <;> simp [signText, radixOf?]
  cases d with
  | finite negative coefficient exponent =>
      have hdigits := unmarked_pointed (Unmarked.ofNat coefficient)
      simp only [text, finiteText, Unmarked.append, hsign, true_and]
      split
      · exact hdigits _
      · split <;> simp [radixOf?, hdigits]
  | infinite negative => simp [text, radixOf?, hsign]
  | nan signaling negative payload =>
      simp only [text, Unmarked.append, hsign, true_and]
      constructor
      · cases signaling <;> simp [radixOf?]
      · split <;> simp

end Decimal

/-! ## Plain texts as numbers -/

theorem mem_of_mem_trimmed {text : Text} {c : Char} (h : c ∈ text.trimmed) : c ∈ text := by
  have := (List.dropWhile_sublist _).subset (List.mem_reverse.mp h)
  exact (List.dropWhile_sublist _).subset (List.mem_reverse.mp this)

/-- A first character that is not blank stays the first one. -/
theorem trimmed_cons {c : Char} (h : isBlank c = false) (rest : Text) :
    ∃ others, Text.trimmed (c :: rest) = c :: others := by
  rw [Text.trimmed, Text.stripped, List.dropWhile_cons_of_neg (by simp [h]), List.reverse_cons,
    List.dropWhile_append]
  split
  · exact ⟨[], by simp [h]⟩
  · exact ⟨_, by rw [List.reverse_append]; rfl⟩

theorem readRadixLiteral?_unmarked {text : Text} (h : Unmarked text) :
    readRadixLiteral? text = none := by
  unfold readRadixLiteral?
  split
  · next mark d rest =>
      rw [h mark (by simp)]
      rfl
  · rfl

theorem readRadixLiteral?_cons {c : Char} (h : c ≠ '0') (rest : Text) :
    readRadixLiteral? (c :: rest) = none := by
  unfold readRadixLiteral?
  split
  · next heq =>
      cases heq
      exact absurd rfl h
  · rfl

/-- The text begins with a character that no number begins with, or no character marks a radix. -/
inductive NoRadixLiteral : Text → Prop where
  | head {c : Char} (rest : Text) : isBlank c = false → c ≠ '0' → NoRadixLiteral (c :: rest)
  | unmarked {text : Text} : Unmarked text → NoRadixLiteral text

theorem NoRadixLiteral.readRadixLiteral? {text : Text} (h : NoRadixLiteral text) :
    readRadixLiteral? text.trimmed = none := by
  cases h with
  | head rest hblank hzero =>
      obtain ⟨others, htrimmed⟩ := trimmed_cons hblank rest
      rw [htrimmed, readRadixLiteral?_cons hzero]
  | unmarked hunmarked =>
      exact readRadixLiteral?_unmarked fun c hc => hunmarked c (mem_of_mem_trimmed hc)

namespace Value

/-- Texts and sequences, which are opened for what they hold. -/
def isOpen : Value → Bool
  | .text _ | .sequence _ _ => true
  | _ => false

theorem plainText_int (n : Int) : (Value.int n).plainText = integerText n := by
  rw [plainText, description] <;> simp

theorem plainText_mapping (entries : List (Value × Value)) :
    (Value.mapping entries).plainText = do
      let shown ← entryDescriptions entries
      return '\x7b' :: commaSeparated shown ++ ['\x7d'] := by
  rw [plainText, description] <;> simp

theorem unmarked_integerText {n : Int} {text : Text} (h : integerText n = .ok text) :
    Unmarked text := by
  unfold integerText at h
  split at h
  · cases h
  · cases h
    exact Unmarked.ofInt n

/-- The plain text of a value that is neither a text nor a sequence is no radix literal. -/
theorem noRadixLiteral_plainText {value : Value} (hclosed : value.isOpen = false) {text : Text}
    (h : value.plainText = .ok text) : NoRadixLiteral text := by
  cases value with
  | missing marker =>
      cases h
      cases marker
      · exact .head _ (by decide) (by decide)
      · exact .head _ (by decide) (by decide)
      · exact .head _ (by decide) (by decide)
  | bool flag =>
      cases h
      exact .unmarked (by simp)
  | int n =>
      rw [plainText_int] at h
      exact .unmarked (unmarked_integerText h)
  | float x =>
      cases h
      exact .unmarked (Binary64.unmarked_textWith _ _ (by simp [radixOf?]) x)
  | decimal d =>
      cases h
      exact .unmarked d.unmarked_text
  | fraction q =>
      obtain ⟨num, hnum, h⟩ := bind_eq_ok.mp h
      have hnum := unmarked_integerText hnum
      split at h
      · cases h
        exact .unmarked hnum
      · obtain ⟨den, hden, h⟩ := bind_eq_ok.mp h
        have hden := unmarked_integerText hden
        cases h
        exact .unmarked (by simp [radixOf?, hnum, hden])
  | complex re im =>
      cases h
      exact .unmarked (Binary64.unmarked_complexText re im)
  | scalar s =>
      cases h
      cases s with
      | bool flag => exact .unmarked (by simp [Scalar.text])
      | int64 n => exact .unmarked (by simp [Scalar.text])
      | double x => exact .unmarked (Binary64.unmarked_textWith _ _ (by simp [radixOf?]) x)
      | single x => exact .unmarked (Binary64.unmarked_textWith _ _ (by simp [radixOf?]) x)
  | bytes content =>
      cases h
      exact .head _ (by decide) (by decide)
  | mapping entries =>
      rw [plainText_mapping] at h
      obtain ⟨shown, -, h⟩ := bind_eq_ok.mp h
      cases h
      exact .head _ (by decide) (by decide)
  | object address =>
      cases h
      exact .head _ (by decide) (by decide)
  | text content => cases hclosed
  | sequence kind items => cases hclosed

end Value

end Scoreboard
