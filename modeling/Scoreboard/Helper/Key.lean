import Scoreboard.Sorting
import Scoreboard.Value.Integer

/-!
# Order of helpers

Helpers whose text is made of decimal digits come first, by number and then by text; all others follow,
by text. Texts are compared by code point. A text of digits that spells no number has no place.
-/

namespace Scoreboard

/-- The place of a helper in the order, which holds its text. -/
inductive HelperKey where
  | number (value : Nat) (text : Text)
  | name (text : Text)
  deriving DecidableEq, Repr

namespace HelperKey

def text : HelperKey → Text
  | number _ text => text
  | name text => text

def le : HelperKey → HelperKey → Bool
  | number m s, number n t => m < n || (m == n && s.le t)
  | number _ _, name _ => true
  | name _, number _ _ => false
  | name s, name t => s.le t

theorem le_number {m n : Nat} {s t : Text} :
    le (number m s) (number n t) = true ↔ m < n ∨ (m = n ∧ s.le t = true) := by
  simp [le]

theorem le_total (a b : HelperKey) : (le a b || le b a) = true := by
  rw [Bool.or_eq_true]
  cases a with
  | number m s =>
      cases b with
      | number n t =>
          rw [le_number, le_number]
          rcases Nat.lt_trichotomy m n with below | rfl | above
          · exact .inl (.inl below)
          · have := Text.le_total s t
            rw [Bool.or_eq_true] at this
            exact this.imp (fun h => .inr ⟨rfl, h⟩) (fun h => .inr ⟨rfl, h⟩)
          · exact .inr (.inl above)
      | name t => exact .inl rfl
  | name s =>
      cases b with
      | number n t => exact .inr rfl
      | name t => simpa [le] using Text.le_total s t

theorem le_trans (a b c : HelperKey) (first : le a b = true) (second : le b c = true) :
    le a c = true := by
  cases a with
  | number m s =>
      cases c with
      | name u => rfl
      | number o u =>
          cases b with
          | name t => simp [le] at second
          | number n t =>
              rw [le_number] at first second ⊢
              rcases first with below | ⟨rfl, first⟩
              · omega
              · rcases second with above | ⟨rfl, second⟩
                · exact .inl above
                · exact .inr ⟨rfl, Text.le_trans s t u first second⟩
  | name s =>
      cases b with
      | number n t => simp [le] at first
      | name t =>
          cases c with
          | number o u => simp [le] at second
          | name u => exact Text.le_trans s t u first second

theorem le_antisymm (a b : HelperKey) (first : le a b = true) (second : le b a = true) : a = b := by
  cases a with
  | number m s =>
      cases b with
      | name t => simp [le] at second
      | number n t =>
          rw [le_number] at first second
          rcases first with below | ⟨rfl, first⟩
          · rcases second with above | ⟨rfl, _⟩ <;> omega
          · rcases second with above | ⟨_, second⟩
            · omega
            · rw [Text.le_antisymm s t first second]
  | name s =>
      cases b with
      | number n t => simp [le] at first
      | name t => rw [Text.le_antisymm s t first second]

/-- Characters that look like digits all along, and one of them at least. -/
def isNumberLike (text : Text) : Bool := !text.isEmpty && text.all isDigitLike

def ofText (text : Text) : Except Fault HelperKey := do
  if isNumberLike text then return number (← readInteger text).toNat text
  return name text

def ofValue (value : Value) : Except Fault HelperKey := do ofText (← value.plainText)

/-- The items with their keys, in the order of the keys; equal keys keep their order. -/
def sortItems {α : Type} (key : α → Except Fault HelperKey) (items : List α) :
    Except Fault (List (HelperKey × α)) := do
  let keyed ← items.mapM fun item => return (← key item, item)
  return inOrder (fun a b => a.1.le b.1) keyed

end HelperKey

/-- The values in the order of helpers. -/
def sortHelpers (values : List Value) : Except Fault (List Value) := do
  return (← HelperKey.sortItems HelperKey.ofValue values).map (·.2)

end Scoreboard
