import Mathlib
import Scoreboard.Frame.Basic
import Scoreboard.Proofs.Outcome

/-!
# Greatest cells

The greatest cell of a column is found by going through its cells with the greatest one so far.  If all
cells that are present are in the order of some ranks, it is one of the highest rank; cells that are
missing change nothing, and nothing is found in a column of such cells alone.  Whole numbers are in the
order of their exact numbers, whatever their size, and so are doubles.
-/

namespace Scoreboard

namespace Value

/-! ## The greatest cell so far -/

/-- The cells that are present are in the order of their ranks, and all can be told present or missing. -/
structure OrderedBy (rank : Value → Rat) (cells : List Value) : Prop where
  certain : ∀ cell ∈ cells, cell.isSignaling = false
  hasOrder : ∀ cell ∈ cells, cell.isMissing = false → cell.hasOrder = true
  atLeast : ∀ a ∈ cells, ∀ b ∈ cells, a.isMissing = false → b.isMissing = false →
    a.atLeast b = .ok (decide (rank b ≤ rank a))

/-- The value is present among the cells, and none of them that is present has a higher rank. -/
structure IsTop (rank : Value → Rat) (cells : List Value) (top : Value) : Prop where
  mem : top ∈ cells
  present : top.isMissing = false
  greatest : ∀ cell ∈ cells, cell.isMissing = false → rank cell ≤ rank top

variable {rank : Value → Rat} {cells seen : List Value} {first cell : Value}

theorem IsTop.perm {others : List Value} {top : Value} (h : IsTop rank cells top)
    (hperm : others.Perm cells) : IsTop rank others top where
  mem := hperm.mem_iff.mpr h.mem
  present := h.present
  greatest cell hcell := h.greatest cell (hperm.mem_iff.mp hcell)

theorem greaterCell_present {top : Option Value} (h : cell.isMissing = false) :
    first.greaterCell top cell =
      (top.getD first).atLeast cell >>= fun kept => .ok (if kept then top else some cell) := by
  cases top with
  | none => simp only [greaterCell, h, Option.getD_none]; rfl
  | some value =>
      simp only [greaterCell, h, Option.getD_some, bind_pure_comp]
      cases value.atLeast cell with
      | error fault => rfl
      | ok kept => cases kept <;> rfl

/-- A missing cell leaves the greatest one so far as it is. -/
theorem greaterCell_missing {top : Option Value} (hordered : OrderedBy rank cells)
    (hfirst : first ∈ cells) (hpresent : first.isMissing = false) (hseen : first :: seen ⊆ cells)
    (h : IsTop rank (first :: seen) (top.getD first)) (hmissing : cell.isMissing = true) :
    first.greaterCell top cell = .ok top := by
  cases top with
  | none =>
      simp only [greaterCell, hmissing, requireOrder, hordered.hasOrder first hfirst hpresent]
      rfl
  | some value =>
      have hcompare := hordered.atLeast value (hseen h.mem) first hfirst h.present hpresent
      have hle : rank first ≤ rank value := h.greatest first List.mem_cons_self hpresent
      simp only [greaterCell, hmissing, hcompare, hle, decide_true]
      rfl

/-- One more cell. -/
theorem exists_greaterCell {top : Option Value} (hordered : OrderedBy rank cells)
    (hpresent : first.isMissing = false) (hseen : first :: seen ⊆ cells) (hcell : cell ∈ cells)
    (h : IsTop rank (first :: seen) (top.getD first)) :
    ∃ next, first.greaterCell top cell = .ok next ∧
      IsTop rank (cell :: first :: seen) (next.getD first) := by
  have hfirst : first ∈ cells := hseen List.mem_cons_self
  cases hmissing : cell.isMissing with
  | true =>
      refine ⟨top, greaterCell_missing hordered hfirst hpresent hseen h hmissing,
        List.mem_cons_of_mem cell h.mem, h.present, List.forall_mem_cons.mpr ⟨?_, h.greatest⟩⟩
      rw [hmissing]
      exact nofun
  | false =>
      rw [greaterCell_present hmissing,
        hordered.atLeast _ (hseen h.mem) cell hcell h.present hmissing, ok_bind]
      by_cases hle : rank cell ≤ rank (top.getD first)
      · refine ⟨top, by simp [hle], List.mem_cons_of_mem cell h.mem, h.present, ?_⟩
        exact List.forall_mem_cons.mpr ⟨fun _ => hle, h.greatest⟩
      · refine ⟨some cell, by simp [hle], List.mem_cons_self, hmissing, ?_⟩
        exact List.forall_mem_cons.mpr ⟨fun _ => le_rfl, fun other hother hother' =>
          (h.greatest other hother hother').trans (not_le.mp hle).le⟩

/-- All cells that are left. -/
theorem exists_foldlM_greaterCell {others : List Value} {top : Option Value}
    (hordered : OrderedBy rank cells) (hpresent : first.isMissing = false)
    (hseen : first :: seen ⊆ cells) (hothers : others ⊆ cells)
    (h : IsTop rank (first :: seen) (top.getD first)) :
    ∃ last, others.foldlM first.greaterCell top = .ok last ∧
      IsTop rank (others ++ first :: seen) (last.getD first) := by
  -- What is kept is the greatest of the first cell and all cells seen so far.
  induction others generalizing seen top with
  | nil => exact ⟨top, rfl, h⟩
  | cons cell others ih =>
      obtain ⟨hcell, hothers⟩ := List.cons_subset.mp hothers
      obtain ⟨next, hnext, htop⟩ := exists_greaterCell hordered hpresent hseen hcell h
      have hseen' : first :: cell :: seen ⊆ cells := by
        simp only [List.cons_subset] at hseen ⊢
        exact ⟨hseen.1, hcell, hseen.2⟩
      obtain ⟨last, hlast, htop⟩ := ih hseen' hothers (htop.perm (.swap cell first seen))
      refine ⟨last, by rw [List.foldlM_cons, hnext, ok_bind, hlast], htop.perm ?_⟩
      rw [List.cons_append]
      have hmiddle : (others ++ cell :: first :: seen).Perm (cell :: (others ++ first :: seen)) :=
        List.perm_middle
      exact hmiddle.symm.trans ((List.Perm.swap first cell seen).append_left others)

end Value

/-- A column has the missing cell of its storage for its greatest if no cell is present. -/
theorem Column.maximum_cases {rank : Value → Rat} (column : Column)
    (h : Value.OrderedBy rank column.cells) :
    (∀ cell ∈ column.cells, cell.isMissing = true) ∧
        column.maximum = .ok column.storage.missingCell ∨
      ∃ top, column.maximum = .ok top ∧ Value.IsTop rank column.cells top := by
  have hcertain : column.cells.any Value.isSignaling = false := by
    simpa using h.certain
  have hsplit := List.takeWhile_append_dropWhile (p := Value.isMissing) (l := column.cells)
  simp only [Column.maximum, Column.requirePresence, hcertain, Bool.false_eq_true, if_false, ok_bind]
  cases hdrop : column.cells.dropWhile Value.isMissing with
  | nil => exact .inl ⟨List.dropWhile_eq_nil_iff.mp hdrop, rfl⟩
  | cons first rest =>
      have hpresent : first.isMissing = false := by
        have := List.head?_dropWhile_not Value.isMissing column.cells
        rwa [hdrop] at this
      rw [hdrop] at hsplit
      have hperm : column.cells.Perm
          ((column.cells.takeWhile Value.isMissing ++ rest) ++ [first]) := by
        conv_lhs => rw [← hsplit]
        exact List.perm_middle.trans (List.perm_append_singleton first _).symm
      have htop : Value.IsTop rank [first] (Option.getD none first) :=
        ⟨List.mem_cons_self, hpresent, by simp⟩
      obtain ⟨last, hlast, htop⟩ := Value.exists_foldlM_greaterCell h hpresent
        (fun cell hcell => hperm.mem_iff.mpr (List.mem_append_right _ hcell))
        (fun cell hcell => hperm.mem_iff.mpr (List.mem_append_left _ hcell)) htop
      refine .inr ⟨last.getD first, ?_, htop.perm hperm⟩
      dsimp only
      rw [hlast]
      rfl

/-! ## Numbers in order -/

namespace Value

/-- A whole number or a double, and its exact number. -/
inductive IsNumber : Value → Rat → Prop where
  | int (n : Int) : IsNumber (.int n) n
  | word (n : Int) : IsNumber (.scalar (.int64 n)) n
  | float {x : Binary64} {q : Rat} : x.toRat? = some q → IsNumber (.float x) q

theorem place?_of_toRat? {x : Binary64} {q : Rat} (h : x.toRat? = some q) :
    x.place? = some (.point q 0) := by
  cases x with
  | nan => cases h
  | infinite negative => cases h
  | finite negative magnitude =>
      cases h
      rfl

variable {a b : Value} {p q : Rat}

theorem IsNumber.place? (h : a.IsNumber p) : a.place? = some (.point p 0) := by
  cases h with
  | int n => rfl
  | word n => rfl
  | float hx => exact place?_of_toRat? hx

theorem compare_point (p q : Rat) :
    (NumberPlace.point p 0).compare (.point q 0) =
      if p < q then .lt else if q < p then .gt else .eq := by
  simp [NumberPlace.compare, NumberPlace.lt, NumberPlace.pointLt]

theorem numbersRelate_exact (relation : Relation) (ha : a.IsNumber p) (hb : b.IsNumber q)
    (hexact : commonPrecision a b = .exact) :
    numbersRelate relation a b =
      .ok (relation.holds (some ((NumberPlace.point p 0).compare (.point q 0)))) := by
  have hcompare : compareNumbers a b =
      .ok (some ((NumberPlace.point p 0).compare (.point q 0))) := by
    have hre : a.realPart = a := by cases ha <;> rfl
    have hre' : b.realPart = b := by cases hb <;> rfl
    have him : a.imaginaryPart = .int 0 := by cases ha <;> rfl
    have him' : b.imaginaryPart = .int 0 := by cases hb <;> rfl
    have hzero : (NumberPlace.point (0 : Int) 0).compare (.point (0 : Int) 0) = .eq := by
      simp [compare_point]
    simp only [compareNumbers, hexact, hre, hre', him, him', placeIn, ha.place?, hb.place?,
      (IsNumber.int 0).place?, comparePlaces, Option.bind_eq_bind, Option.bind_some, Option.pure_def,
      hzero, Ordering.then_eq, ok_bind]
    rfl
  have hdecimal : (a.isDecimal || b.isDecimal) = false := by
    cases ha <;> cases hb <;> rfl
  simp only [numbersRelate, hdecimal, Bool.false_and, Bool.false_eq_true, if_false, hcompare]
  rfl

/-- A number is at least another one if it is no less exactly. -/
theorem atLeast_exact (ha : a.IsNumber p) (hb : b.IsNumber q)
    (hexact : commonPrecision a b = .exact) : a.atLeast b = .ok (decide (q ≤ p)) := by
  have hatLeast : Relation.holds .atLeast (some ((NumberPlace.point p 0).compare (.point q 0))) =
      decide (q ≤ p) := by
    rw [compare_point]
    split_ifs with hlt hgt
    · simp [Relation.holds, hlt]
    · simp [Relation.holds, hgt.le]
    · simp [Relation.holds, not_lt.mp hlt]
  have hatMost : Relation.holds .atMost (some ((NumberPlace.point q 0).compare (.point p 0))) =
      decide (q ≤ p) := by
    rw [compare_point]
    split_ifs with hlt hgt
    · simp [Relation.holds, hlt.le]
    · simp [Relation.holds, hgt]
    · simp [Relation.holds, not_lt.mp hgt]
  have hreal := numbersRelate_exact .atLeast ha hb hexact
  rw [hatLeast] at hreal
  cases ha with
  | word m =>
      cases hb with
      | float hy => cases hexact
      | int n => simpa only [atLeast, arrayRelates, isNumeric, if_true] using hreal
      | word n => simpa only [atLeast, arrayRelates, isNumeric, if_true] using hreal
  | int m =>
      cases hb with
      | int n => simpa [atLeast, isUnknown, isReal, isNumeric] using hreal
      | float hx => simpa [atLeast, isUnknown, isReal, isNumeric] using hreal
      | word n =>
          have hturned := numbersRelate_exact .atMost (.word n) (.int m) rfl
          rw [hatMost] at hturned
          simpa only [atLeast, arrayRelates, isNumeric, if_true] using hturned
  | float hx =>
      cases hb with
      | int n => simpa [atLeast, isUnknown, isReal, isNumeric] using hreal
      | float hy => simpa [atLeast, isUnknown, isReal, isNumeric] using hreal
      | word n => cases hexact

/-- The number that a cell is ranked by. -/
def number : Value → Rat
  | .int n | .scalar (.int64 n) => n
  | .float x => x.toRat?.getD 0
  | _ => 0

theorem IsNumber.number_eq (h : a.IsNumber p) : a.number = p := by
  cases h with
  | int n => rfl
  | word n => rfl
  | float hx => simp [number, hx]

/-- A cell that is missing but certainly so, or a number. -/
inductive IsNumberCell : Value → Prop where
  | missing {cell : Value} : cell.isMissing = true → cell.isSignaling = false → IsNumberCell cell
  | number {cell : Value} {q : Rat} : cell.IsNumber q → IsNumberCell cell

theorem orderedBy_number {cells : List Value} (hcells : ∀ cell ∈ cells, cell.IsNumberCell)
    (hexact : ∀ a ∈ cells, ∀ b ∈ cells, a.isMissing = false → b.isMissing = false →
      commonPrecision a b = .exact) : OrderedBy number cells := by
  have hnumber : ∀ cell ∈ cells, cell.isMissing = false → ∃ q, cell.IsNumber q := by
    intro cell hcell hpresent
    cases hcells cell hcell with
    | missing hmissing => rw [hpresent] at hmissing; cases hmissing
    | number hnumber => exact ⟨_, hnumber⟩
  constructor
  · intro cell hcell
    cases hcells cell hcell with
    | missing _ hcertain => exact hcertain
    | number hnumber => cases hnumber <;> rfl
  · intro cell hcell hpresent
    obtain ⟨q, hq⟩ := hnumber cell hcell hpresent
    cases hq <;> rfl
  · intro a ha b hb hpresent hpresent'
    obtain ⟨p, hp⟩ := hnumber a ha hpresent
    obtain ⟨q, hq⟩ := hnumber b hb hpresent'
    rw [atLeast_exact hp hq (hexact a ha b hb hpresent hpresent'), hp.number_eq, hq.number_eq]

end Value

end Scoreboard
