/-!
# Text

A text is a list of characters, so that every operation on it is an ordinary list recursion.
Numbers are written in plain decimal digits; stripping takes a class of characters off both ends.
-/

namespace Scoreboard

abbrev Text := List Char

namespace Text

def ofNat (n : Nat) : Text := Nat.toDigits 10 n

def ofInt (n : Int) : Text :=
  if n < 0 then '-' :: ofNat n.natAbs else ofNat n.natAbs

/-- The text without the leading and trailing characters of the class `blank`. -/
def stripped (blank : Char → Bool) (text : Text) : Text :=
  ((text.dropWhile blank).reverse.dropWhile blank).reverse

/-- The lines with a line feed between each two. -/
def joinLines (lines : List Text) : Text := ['\n'].intercalate lines

/-- The order by code points, in which a text comes before its extensions. -/
def le : Text → Text → Bool
  | [], _ => true
  | _ :: _, [] => false
  | a :: s, b :: t => a.toNat < b.toNat || (a == b && le s t)

@[simp] theorem stripped_nil (blank : Char → Bool) : stripped blank [] = [] := rfl

/-! ## The order is linear -/

theorem le_cons_cons {a b : Char} {s t : Text} :
    le (a :: s) (b :: t) = true ↔ a.toNat < b.toNat ∨ (a = b ∧ le s t = true) := by
  simp [le]

theorem le_refl (s : Text) : le s s = true := by
  induction s with
  | nil => rfl
  | cons a s ih => exact le_cons_cons.2 (.inr ⟨rfl, ih⟩)

theorem le_total (s t : Text) : (le s t || le t s) = true := by
  rw [Bool.or_eq_true]
  induction s generalizing t with
  | nil => exact .inl rfl
  | cons a s ih =>
      cases t with
      | nil => exact .inr rfl
      | cons b t =>
          rw [le_cons_cons, le_cons_cons]
          rcases Nat.lt_trichotomy a.toNat b.toNat with below | same | above
          · exact .inl (.inl below)
          · obtain rfl : a = b := Char.toNat_inj.1 same
            exact (ih t).imp (fun h => .inr ⟨rfl, h⟩) (fun h => .inr ⟨rfl, h⟩)
          · exact .inr (.inl above)

theorem le_trans (s t u : Text) (first : le s t = true) (second : le t u = true) :
    le s u = true := by
  induction s generalizing t u with
  | nil => rfl
  | cons a s ih =>
      cases t with
      | nil => simp [le] at first
      | cons b t =>
          cases u with
          | nil => simp [le] at second
          | cons c u =>
              rw [le_cons_cons] at first second ⊢
              rcases first with below | ⟨rfl, first⟩
              · rcases second with above | ⟨rfl, _⟩
                · exact .inl (Nat.lt_trans below above)
                · exact .inl below
              · rcases second with above | ⟨rfl, second⟩
                · exact .inl above
                · exact .inr ⟨rfl, ih t u first second⟩

theorem le_antisymm (s t : Text) (first : le s t = true) (second : le t s = true) : s = t := by
  induction s generalizing t with
  | nil =>
      cases t with
      | nil => rfl
      | cons b t => simp [le] at second
  | cons a s ih =>
      cases t with
      | nil => simp [le] at first
      | cons b t =>
          rw [le_cons_cons] at first second
          rcases first with below | ⟨rfl, first⟩
          · rcases second with above | ⟨rfl, _⟩
            · omega
            · omega
          · rcases second with above | ⟨_, second⟩
            · omega
            · rw [ih t first second]

theorem ofInt_natCast (n : Nat) : ofInt n = ofNat n := by
  have h : ¬ ((n : Int) < 0) := by omega
  simp [ofInt, h]

end Text

end Scoreboard
