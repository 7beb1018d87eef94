/-!
# Stable sorting

Items are put one by one, from the last to the first, in front of all those they may precede. Main
statements: sorting permutes the items (`inOrder_perm`), puts them in order (`pairwise_inOrder`), leaves
those that may precede each other as they arrived (`pairwise_inOrder_stable`) and commutes with choosing
some of them (`filter_inOrder`), so that a list in order stays as it is (`inOrder_eq_self`). If no two
items may precede each other, it does not matter how they arrived (`inOrder_eq_of_perm`).
-/

namespace Scoreboard

variable {α : Type}

/-- Puts an item in front of the first one that it may precede. -/
def insertInOrder (le : α → α → Bool) (a : α) : List α → List α
  | [] => [a]
  | b :: rest => if le a b then a :: b :: rest else b :: insertInOrder le a rest

def inOrder (le : α → α → Bool) : List α → List α
  | [] => []
  | a :: rest => insertInOrder le a (inOrder le rest)

theorem insertInOrder_cons (le : α → α → Bool) (a b : α) (rest : List α) :
    insertInOrder le a (b :: rest) =
      if le a b then a :: b :: rest else b :: insertInOrder le a rest := rfl

/-! ## Nothing is lost -/

theorem insertInOrder_perm (le : α → α → Bool) (a : α) (items : List α) :
    (insertInOrder le a items).Perm (a :: items) := by
  induction items with
  | nil => exact .refl _
  | cons b rest ih =>
      rw [insertInOrder_cons]
      split
      · exact .refl _
      · exact (ih.cons b).trans (.swap a b rest)

theorem inOrder_perm (le : α → α → Bool) (items : List α) : (inOrder le items).Perm items := by
  induction items with
  | nil => exact .refl _
  | cons a rest ih => exact (insertInOrder_perm le a _).trans (ih.cons a)

theorem mem_insertInOrder {le : α → α → Bool} {a x : α} {items : List α} :
    x ∈ insertInOrder le a items ↔ x = a ∨ x ∈ items := by
  rw [(insertInOrder_perm le a items).mem_iff, List.mem_cons]

theorem mem_inOrder {le : α → α → Bool} {x : α} {items : List α} :
    x ∈ inOrder le items ↔ x ∈ items :=
  (inOrder_perm le items).mem_iff

/-! ## The result is in order -/

section Order

variable {le : α → α → Bool} (total : ∀ a b, le a b || le b a)
  (trans : ∀ a b c, le a b → le b c → le a c)

include total trans in
theorem pairwise_insertInOrder {r : α → α → Prop} {a : α} {items : List α}
    (first : ∀ x ∈ items, r a x) (ordered : items.Pairwise fun x y => le x y ∧ (le y x → r x y)) :
    (insertInOrder le a items).Pairwise fun x y => le x y ∧ (le y x → r x y) := by
  induction items with
  | nil => simp [insertInOrder]
  | cons b rest ih =>
      obtain ⟨least, others⟩ := List.pairwise_cons.1 ordered
      rw [insertInOrder_cons]
      split
      · rename_i before
        refine List.pairwise_cons.2 ⟨?_, ordered⟩
        intro x member
        refine ⟨?_, fun _ => first x member⟩
        rcases List.mem_cons.1 member with rfl | later
        · exact before
        · exact trans a b x before (least x later).1
      · rename_i behind
        have others := ih (fun x later => first x (List.mem_cons_of_mem b later)) others
        refine List.pairwise_cons.2 ⟨?_, others⟩
        intro x member
        rcases mem_insertInOrder.1 member with rfl | later
        · have := total x b
          simp_all
        · exact least x later

include total trans in
/-- Items come in order, and those that may precede each other stand as they arrived. -/
theorem pairwise_inOrder_stable {r : α → α → Prop} {items : List α} (arrived : items.Pairwise r) :
    (inOrder le items).Pairwise fun x y => le x y ∧ (le y x → r x y) := by
  induction items with
  | nil => exact .nil
  | cons a rest ih =>
      obtain ⟨first, others⟩ := List.pairwise_cons.1 arrived
      refine pairwise_insertInOrder total trans ?_ (ih others)
      exact fun x member => first x (mem_inOrder.1 member)

include total trans in
theorem pairwise_inOrder (items : List α) : (inOrder le items).Pairwise (le · ·) := by
  have arrived : items.Pairwise fun _ _ => True := List.pairwise_of_forall fun _ _ => trivial
  exact (pairwise_inOrder_stable total trans arrived).imp And.left

include total trans in
/-- Items that may precede each other only if they are the same have one order. -/
theorem inOrder_eq_of_perm {items others : List α}
    (antisymm : ∀ a ∈ items, ∀ b ∈ items, le a b → le b a → a = b) (perm : items.Perm others) :
    inOrder le items = inOrder le others := by
  refine List.Perm.eq_of_pairwise ?_ (pairwise_inOrder total trans items)
    (pairwise_inOrder total trans others) ?_
  · intro a b first second
    exact antisymm a (mem_inOrder.1 first) b (perm.mem_iff.2 (mem_inOrder.1 second))
  · exact (inOrder_perm le items).trans (perm.trans (inOrder_perm le others).symm)

/-! ## Stability -/

theorem insertInOrder_of_forall {a : α} {items : List α} (least : ∀ x ∈ items, le a x) :
    insertInOrder le a items = a :: items := by
  cases items with
  | nil => rfl
  | cons b rest => simp [insertInOrder, least b List.mem_cons_self]

theorem inOrder_eq_self {items : List α} (ordered : items.Pairwise (le · ·)) :
    inOrder le items = items := by
  induction items with
  | nil => rfl
  | cons a rest ih =>
      obtain ⟨first, others⟩ := List.pairwise_cons.1 ordered
      rw [inOrder, ih others, insertInOrder_of_forall first]

theorem filter_insertInOrder_of_neg {p : α → Bool} {a : α} {items : List α} (h : ¬ p a) :
    (insertInOrder le a items).filter p = items.filter p := by
  induction items with
  | nil => simp [insertInOrder, h]
  | cons b rest ih =>
      rw [insertInOrder_cons]
      split
      · simp [h]
      · simp [List.filter_cons, ih]

include trans in
theorem filter_insertInOrder_of_pos {p : α → Bool} {a : α} {items : List α} (h : p a)
    (ordered : items.Pairwise (le · ·)) :
    (insertInOrder le a items).filter p = insertInOrder le a (items.filter p) := by
  induction items with
  | nil => simp [insertInOrder, h]
  | cons b rest ih =>
      obtain ⟨first, others⟩ := List.pairwise_cons.1 ordered
      rw [insertInOrder_cons]
      split
      · rename_i before
        have least : ∀ x ∈ (b :: rest).filter p, le a x := by
          intro x member
          rcases List.mem_cons.1 (List.mem_filter.1 member).1 with rfl | later
          · exact before
          · exact trans a b x before (first x later)
        rw [List.filter_cons_of_pos h]
        exact (insertInOrder_of_forall least).symm
      · rename_i behind
        by_cases chosen : p b
        · rw [List.filter_cons_of_pos chosen, List.filter_cons_of_pos chosen, ih others]
          rw [insertInOrder_cons, if_neg behind]
        · rw [List.filter_cons_of_neg chosen, List.filter_cons_of_neg chosen, ih others]

include total trans in
theorem filter_inOrder (p : α → Bool) (items : List α) :
    (inOrder le items).filter p = inOrder le (items.filter p) := by
  induction items with
  | nil => rfl
  | cons a rest ih =>
      by_cases chosen : p a
      · rw [List.filter_cons_of_pos chosen, inOrder, inOrder,
          filter_insertInOrder_of_pos trans chosen (pairwise_inOrder total trans rest), ih]
      · rw [List.filter_cons_of_neg chosen, inOrder, filter_insertInOrder_of_neg chosen, ih]

end Order

end Scoreboard
