import Mathlib
import Scoreboard.Proofs.BarScales
import Scoreboard.Proofs.MissingCells

/-!
# Scales of incomplete columns

A column holds given counts as they are or, in a storage of doubles, as the doubles nearest to them, and
it holds a gap for every gap.  Its scale covers the counts that it holds if there are any, and the given
ones unless the greatest of them is rounded down.  Rows without any count in a column have no scale.
-/

namespace Scoreboard

namespace Value

/-! ## Given counts -/

/-- A count before a column holds it. -/
inductive GivesCount : Value → Nat → Prop where
  | int (n : Nat) : GivesCount (.int n) n
  | word (n : Nat) : GivesCount (.scalar (.int64 n)) n

def givenCounts (cells : List Value) : Set Nat := {n | ∃ cell ∈ cells, cell.GivesCount n}

variable {cell : Value} {cells : List Value} {n : Nat}

theorem GivesCount.holdsCount (h : cell.GivesCount n) : cell.HoldsCount n := by
  cases h with
  | int n => exact .int n
  | word n => exact .word n

theorem givesCount_iff : cell.GivesCount n ↔ Storage.integer? cell = some (n : Int) := by
  constructor
  · rintro (_ | _) <;> rfl
  · intro h
    unfold Storage.integer? at h
    split at h
    · cases h
      exact .int n
    · cases h
      exact .word n
    · cases h

theorem finite_givenCounts (cells : List Value) : (givenCounts cells).Finite := by
  apply ((cells.filterMap Storage.integer?).finite_toSet.preimage Nat.cast_injective.injOn).subset
  rintro n ⟨cell, hcell, hn⟩
  exact List.mem_filterMap.mpr ⟨cell, hcell, givesCount_iff.mp hn⟩

theorem exists_isGreatest_givenCounts (h : (givenCounts cells).Nonempty) :
    ∃ n, IsGreatest (givenCounts cells) n :=
  ⟨_, Nat.sSup_mem h (finite_givenCounts cells).bddAbove,
    fun _ => le_csSup (finite_givenCounts cells).bddAbove⟩

/-! ## Held counts -/

/-- What is held for a given cell, where counts may be rounded to doubles. -/
inductive HeldAs (rounded : Bool) : Value → Value → Prop where
  | gap {cell held : Value} : cell.IsGap → held.IsGap → HeldAs rounded cell held
  | kept {cell held : Value} {n : Nat} : rounded = false → cell.GivesCount n → held.GivesCount n →
      HeldAs rounded cell held
  | double {cell : Value} {magnitude : Magnitude} {n : Nat} : rounded = true →
      cell.GivesCount n → magnitude.units = doubleUnits n →
      HeldAs rounded cell (.float (.finite false magnitude))

/-- The whole number that is held for a count. -/
def heldCount (rounded : Bool) (n : Nat) : Nat :=
  if rounded then doubleUnits n / unitsPerOne else n

theorem heldCount_mono (rounded : Bool) : Monotone (heldCount rounded) := by
  intro m n hmn
  unfold heldCount
  split
  · exact Nat.div_le_div_right (doubleUnits_mono hmn)
  · exact hmn

variable {rounded : Bool} {held : List Value}

theorem HoldsCount.unique {m : Nat} (hm : cell.HoldsCount m) (hn : cell.HoldsCount n) : m = n := by
  have hsame : (m : Int) = n := Except.ok.inj (hm.toInteger.symm.trans hn.toInteger)
  exact_mod_cast hsame

theorem IsGap.not_holdsCount (h : cell.IsGap) : ¬ cell.HoldsCount n := by
  intro hn
  have := h.missing
  rw [hn.isMissing] at this
  cases this

theorem holdsCount_double {magnitude : Magnitude} (h : magnitude.units = doubleUnits n) :
    (Value.float (.finite false magnitude)).HoldsCount (heldCount true n) :=
  .double (by rw [h, heldCount, if_pos rfl, Nat.div_mul_cancel (unitsPerOne_dvd_doubleUnits n)])

theorem HeldAs.holdsCount_iff {other : Value} (h : HeldAs rounded cell other) :
    other.HoldsCount n ↔ ∃ m, cell.GivesCount m ∧ heldCount rounded m = n := by
  have hcount {k : Nat} (hcell : cell.GivesCount k) (hother : other.HoldsCount (heldCount rounded k)) :
      other.HoldsCount n ↔ ∃ m, cell.GivesCount m ∧ heldCount rounded m = n := by
    constructor
    · exact fun hn => ⟨k, hcell, hother.unique hn⟩
    · rintro ⟨m, hm, rfl⟩
      exact hm.holdsCount.unique hcell.holdsCount ▸ hother
  cases h with
  | gap hcell hother =>
      refine iff_of_false hother.not_holdsCount ?_
      rintro ⟨m, hm, -⟩
      exact hcell.not_holdsCount hm.holdsCount
  | kept hrounded hcell hother =>
      subst hrounded
      exact hcount hcell hother.holdsCount
  | double hrounded hcell hunits =>
      subst hrounded
      exact hcount hcell (holdsCount_double hunits)

theorem presentCounts_of_heldAs (h : List.Forall₂ (HeldAs rounded) cells held) :
    presentCounts held = heldCount rounded '' givenCounts cells := by
  ext n
  constructor
  · rintro ⟨other, hother, hn⟩
    obtain ⟨cell, hcell, hheld⟩ := exists_of_mem_right h hother
    obtain ⟨m, hm, rfl⟩ := hheld.holdsCount_iff.mp hn
    exact ⟨m, ⟨cell, hcell, hm⟩, rfl⟩
  · rintro ⟨m, ⟨cell, hcell, hm⟩, rfl⟩
    obtain ⟨other, hother, hheld⟩ := exists_of_mem_right h.flip hcell
    exact ⟨other, hother, hheld.holdsCount_iff.mpr ⟨m, hm, rfl⟩⟩

theorem areCounts_of_heldAs (h : List.Forall₂ (HeldAs rounded) cells held) : AreCounts held where
  cell := by
    intro other hother
    obtain ⟨cell, -, hheld⟩ := exists_of_mem_right h hother
    cases hheld with
    | gap _ hgap => exact .inl hgap
    | kept _ _ hcount => exact .inr ⟨_, hcount.holdsCount⟩
    | double _ _ hunits => exact .inr ⟨_, holdsCount_double hunits⟩
  exact := by
    intro a ha b hb hpresent hpresent'
    obtain ⟨_, -, hheld⟩ := exists_of_mem_right h ha
    obtain ⟨_, -, hheld'⟩ := exists_of_mem_right h hb
    cases hheld with
    | gap _ hgap => exact absurd hgap.missing (by simp [hpresent])
    | kept hkept _ hcount =>
        cases hheld' with
        | gap _ hgap => exact absurd hgap.missing (by simp [hpresent'])
        | kept _ _ hcount' => cases hcount <;> cases hcount' <;> rfl
        | double hrounded _ _ => exact absurd hrounded (by simp [hkept])
    | double hrounded _ _ =>
        cases hheld' with
        | gap _ hgap => exact absurd hgap.missing (by simp [hpresent'])
        | kept hkept _ _ => exact absurd hrounded (by simp [hkept])
        | double _ _ _ => rfl

end Value

/-! ## Storages of counts -/

namespace Storage

def rounds : Storage → Bool
  | doubles | nullableDoubles => true
  | _ => false

/-- The storages that counts with gaps are asked to be held in. -/
def countStorages : List Storage := [objects, doubles, nullableIntegers, nullableDoubles]

open Value

variable {storage : Storage} {cell held : Value} {cells : List Value} {n : Nat}

theorem isGap_nan : IsGap (.float .nan) := ⟨rfl, rfl⟩

theorem isGap_missingCell (storage : Storage) : storage.missingCell.IsGap := by
  cases storage <;> exact ⟨rfl, rfl⟩

theorem isGap_hold (storage : Storage) (h : cell.IsGap) : (storage.hold cell).IsGap := by
  cases cell with
  | missing marker => cases storage <;> first | exact h | exact isGap_nan
  | float x => rwa [hold_float]
  | decimal d => cases storage <;> exact h
  | complex re im => cases storage <;> exact h
  | scalar s =>
      cases s with
      | double x => cases storage <;> first | exact h | exact ⟨h.missing, rfl⟩
      | single x => cases storage <;> first | exact h | exact ⟨h.missing, rfl⟩
      | _ => cases h.missing
  | _ => cases h.missing

theorem hold_givesCount (hstorage : storage ≠ .doubles) (h : cell.GivesCount n) :
    (storage.hold cell).GivesCount n := by
  cases h <;> cases storage <;> first | exact .int n | exact .word n | exact absurd rfl hstorage

theorem hold_doubles (h : cell.GivesCount n) :
    doubles.hold cell = .float (.ofRatio false n 1) := by
  cases h <;> rfl

/-- Storages that follow from counts hold them as words or objects, or as doubles if they fit words. -/
theorem infer_of_counts (hrounds : (infer cells).rounds = true) :
    infer cells = .doubles ∧ ∀ cell ∈ cells, ∀ n, cell.GivesCount n → n < Word.size := by
  have hwords (numbers : List Int) : (ofIntegers numbers).rounds = false := by
    unfold ofIntegers
    split_ifs <;> rfl
  unfold infer at hrounds ⊢
  dsimp only at hrounds ⊢
  split_ifs at hrounds ⊢ with hempty hflags htexts hnumbers hlength hobjects
  case neg =>
    refine ⟨rfl, fun cell hcell n hn => ?_⟩
    -- A count that fits no word would have made objects of all cells.
    by_contra hlarge
    have hpresent : cell ∈ cells.filter fun cell => !isNone cell := by
      refine List.mem_filter.mpr ⟨hcell, ?_⟩
      cases hn <;> rfl
    have hmem := List.mem_filterMap.mpr ⟨cell, hpresent, givesCount_iff.mp hn⟩
    refine hobjects (ofIntegers_eq_objects_iff.mpr ⟨⟨n, hmem, ?_⟩, n, hmem, ?_⟩)
    · simp only [Word.fitsSigned, Word.size] at hlarge ⊢
      grind
    · simp only [Word.fitsUnsigned, Word.size] at hlarge ⊢
      grind
  all_goals first | cases hrounds | exact absurd hrounds (Bool.eq_false_iff.mp (hwords _))

theorem heldAs_hold (hcell : cell.IsGap ∨ ∃ n, cell.GivesCount n)
    (hrounds : storage.rounds = true →
      storage = .doubles ∧ ∀ n, cell.GivesCount n → n < Word.size) :
    HeldAs storage.rounds cell (storage.hold cell) := by
  rcases hcell with hgap | ⟨n, hn⟩
  · exact .gap hgap (isGap_hold storage hgap)
  · cases hkept : storage.rounds with
    | false =>
        have hstorage : storage ≠ .doubles := by
          rintro rfl
          cases hkept
        exact .kept rfl hn (hold_givesCount hstorage hn)
    | true =>
        obtain ⟨rfl, hfits⟩ := hrounds hkept
        obtain ⟨magnitude, hdouble, hunits⟩ := ofRatio_word (hfits n hn)
        rw [hold_doubles hn, hdouble]
        exact .double rfl hn hunits

theorem isGap_convert_doubles (hgap : cell.IsGap) (h : doubles.convert cell = .ok held) :
    held.IsGap := by
  cases cell with
  | missing marker =>
      cases marker with
      | none =>
          cases h
          exact isGap_missingCell doubles
      | notAvailable => cases h
      | notATime => cases h
  | float x =>
      cases h
      exact hgap
  | decimal d =>
      cases d with
      | nan signaling _ _ =>
          have hquiet : signaling = false := hgap.certain
          subst hquiet
          cases h
          exact isGap_nan
      | _ => cases hgap.missing
  | complex re im => cases h
  | scalar s =>
      cases s with
      | double x | single x =>
          cases h
          exact ⟨hgap.missing, rfl⟩
      | _ => cases hgap.missing
  | _ => cases hgap.missing

theorem isGap_convert (hgap : cell.IsGap) (hstorage : storage ∈ countStorages)
    (h : storage.convert cell = .ok held) : held.IsGap := by
  simp only [countStorages, List.mem_cons, List.not_mem_nil, or_false] at hstorage
  rcases hstorage with rfl | rfl | hnullable
  · cases h
    exact isGap_hold objects hgap
  · exact isGap_convert_doubles hgap h
  · have hconvert : storage.convert cell = .ok storage.missingCell := by
      rcases hnullable with rfl | rfl <;> simp [convert, hgap.certain, hgap.missing]
    rw [hconvert] at h
    cases h
    exact isGap_missingCell storage

theorem heldAs_double (hn : cell.GivesCount n)
    (h : (cell.toDouble >>= fun x => .ok (.float x)) = .ok held) : HeldAs true cell held := by
  obtain ⟨x, hx, hheld⟩ := bind_eq_ok.mp h
  cases hheld
  have hdouble : Binary64.ofInt? n = some x := by
    cases hn <;>
    · simp only [Value.toDouble, nearestDouble?] at hx
      cases hnearest : Binary64.ofInt? n with
      | none => simp [hnearest] at hx
      | some y => simpa [hnearest] using hx
  obtain ⟨magnitude, hnearest, rfl⟩ := Option.map_eq_some_iff.mp hdouble
  have hnonneg : ¬ (n : Int) < 0 := by omega
  rw [decide_eq_false hnonneg]
  exact .double rfl hn (units_of_nearest? hnearest)

theorem heldAs_word (hn : cell.GivesCount n)
    (h : (toWord cell >>= fun n => .ok (.int n)) = .ok held) : HeldAs false cell held := by
  obtain ⟨m, hm, hheld⟩ := bind_eq_ok.mp h
  cases hheld
  have hsame : m = n := by
    cases hn <;>
    · simp only [toWord] at hm
      split_ifs at hm
      exact (Except.ok.inj hm).symm
  exact .kept rfl hn (hsame ▸ .int n)

theorem heldAs_convert (hcell : cell.IsGap ∨ ∃ n, cell.GivesCount n)
    (hstorage : storage ∈ countStorages) (h : storage.convert cell = .ok held) :
    HeldAs storage.rounds cell held := by
  rcases hcell with hgap | ⟨n, hn⟩
  · exact .gap hgap (isGap_convert hgap hstorage h)
  simp only [countStorages, List.mem_cons, List.not_mem_nil, or_false] at hstorage
  rcases hstorage with rfl | rfl | rfl | rfl
  · cases h
    exact .kept rfl hn (hold_givesCount nofun hn)
  · exact heldAs_double hn (by cases hn <;> exact h)
  · exact heldAs_word hn (by cases hn <;> exact h)
  · exact heldAs_double hn (by cases hn <;> exact h)

end Storage

open Value

/-! ## Columns of counts with gaps -/

/-- The column holds the cells in a storage that follows from them or that was asked for. -/
inductive Column.Holds (cells : List Value) : Column → Prop where
  | inferred (name : Text) : Holds cells (.inferred name cells)
  | stored {name : Text} {storage : Storage} {column : Column} : storage ∈ Storage.countStorages →
      Column.stored name storage cells = .ok column → Holds cells column

/-- The frame has a column of that name for the cells, which are counts with gaps between them. -/
structure Frame.HasCounts (frame : Frame) (name : Text) (cells : List Value) (column : Column) :
    Prop where
  found : frame.column? name = some column
  height : cells.length = frame.height
  counts : ∀ cell ∈ cells, cell.IsGap ∨ ∃ n, cell.GivesCount n
  held : column.Holds cells

theorem Column.Holds.heldAs {cells : List Value} {column : Column} (h : column.Holds cells)
    (hcounts : ∀ cell ∈ cells, cell.IsGap ∨ ∃ n, cell.GivesCount n) :
    List.Forall₂ (HeldAs column.storage.rounds) cells column.cells := by
  cases h with
  | inferred name =>
      refine List.forall₂_map_right_iff.mpr (List.forall₂_same.mpr fun cell hcell => ?_)
      refine Storage.heldAs_hold (hcounts cell hcell) fun hrounds => ?_
      obtain ⟨hdoubles, hfits⟩ := Storage.infer_of_counts hrounds
      exact ⟨hdoubles, hfits cell hcell⟩
  | stored hstorage hstored =>
      obtain ⟨held, hheld, hcolumn⟩ := bind_eq_ok.mp hstored
      cases hcolumn
      refine List.forall₂_iff_zip.mpr ⟨(mapM_eq_ok.mp hheld).length_eq, fun hpair => ?_⟩
      have hconvert := (List.forall₂_iff_zip.mp (mapM_eq_ok.mp hheld)).2 hpair
      exact Storage.heldAs_convert (hcounts _ (List.of_mem_zip hpair).1) hstorage hconvert

/-- The column has a scale, which is one at least and covers the counts. -/
def Frame.HasScale (frame : Frame) (name : Text) (counts : Set Nat) : Prop :=
  ∃ scale, barScale frame name = .ok scale ∧ 1 ≤ scale ∧ ∀ n ∈ counts, (n : Int) ≤ scale

section OneColumn

variable {frame : Frame} {name : Text} {cells : List Value} {column : Column}
  (h : frame.HasCounts name cells column)

include h

theorem presentCounts_column :
    presentCounts column.cells = heldCount column.storage.rounds '' givenCounts cells :=
  presentCounts_of_heldAs (h.held.heldAs h.counts)

theorem barScale_greatest {n : Nat} (hn : IsGreatest (givenCounts cells) n) :
    barScale frame name = .ok (max (heldCount column.storage.rounds n : Int) 1) := by
  have hgreatest := (heldCount_mono column.storage.rounds).map_isGreatest hn
  rw [← presentCounts_column h] at hgreatest
  obtain ⟨m, hm, hscale⟩ :=
    barScale_of_counts h.found (areCounts_of_heldAs (h.held.heldAs h.counts)) hgreatest.nonempty
  rw [hscale, hm.unique hgreatest]

/-- Gaps alone have no scale. -/
theorem barScale_of_no_counts (hnone : ¬ (givenCounts cells).Nonempty) :
    ∃ fault, barScale frame name = .error fault := by
  have hcells := areCounts_of_heldAs (h.held.heldAs h.counts)
  rcases column.maximum_cases hcells.orderedBy with ⟨-, hmaximum⟩ | ⟨top, -, htop⟩
  · rw [barScale_eq h.found, hmaximum, ok_bind]
    cases column.storage <;> exact ⟨_, rfl⟩
  · obtain ⟨n, hn⟩ := hcells.exists_holdsCount htop.mem htop.present
    have hpresent : n ∈ presentCounts column.cells := ⟨top, htop.mem, hn⟩
    rw [presentCounts_column h] at hpresent
    exact absurd (Set.Nonempty.of_image ⟨n, hpresent⟩) hnone

theorem hasScale_iff (counts : Set Nat) :
    frame.HasScale name counts ↔ ∃ n, IsGreatest (givenCounts cells) n ∧
      ∀ m ∈ counts, m ≤ max (heldCount column.storage.rounds n) 1 := by
  constructor
  · rintro ⟨scale, hscale, -, hcovers⟩
    by_cases hsome : (givenCounts cells).Nonempty
    · obtain ⟨n, hn⟩ := exists_isGreatest_givenCounts hsome
      rw [barScale_greatest h hn] at hscale
      cases hscale
      exact ⟨n, hn, fun m hm => by exact_mod_cast hcovers m hm⟩
    · obtain ⟨fault, hfault⟩ := barScale_of_no_counts h hsome
      rw [hfault] at hscale
      cases hscale
  · rintro ⟨n, hn, hcovers⟩
    exact ⟨_, barScale_greatest h hn, le_max_right _ _, fun m hm => by exact_mod_cast hcovers m hm⟩

theorem hasScale_present_iff :
    frame.HasScale name (presentCounts column.cells) ↔ (givenCounts cells).Nonempty := by
  rw [hasScale_iff h]
  constructor
  · rintro ⟨n, hn, -⟩
    exact hn.nonempty
  · intro hsome
    obtain ⟨n, hn⟩ := exists_isGreatest_givenCounts hsome
    have hgreatest := (heldCount_mono column.storage.rounds).map_isGreatest hn
    rw [← presentCounts_column h] at hgreatest
    exact ⟨n, hn, fun m hm => le_max_of_le_left (hgreatest.2 hm)⟩

theorem hasScale_given_iff :
    frame.HasScale name (givenCounts cells) ↔ ∃ n, IsGreatest (givenCounts cells) n ∧
      n ≤ heldCount column.storage.rounds n := by
  rw [hasScale_iff h]
  refine exists_congr fun n => and_congr_right fun hn => ?_
  -- Where the scale is one for want of a greater count, that count is held exactly.
  have hone : n ≤ 1 → n ≤ heldCount column.storage.rounds n := by
    intro hsmall
    unfold heldCount
    split
    · rw [doubleUnits_eq (hsmall.trans Nat.one_le_two_pow), Nat.mul_div_cancel n unitsPerOne_pos]
    · exact le_rfl
  constructor
  · intro hcovers
    rcases le_max_iff.mp (hcovers n hn.1) with hle | hle
    · exact hle
    · exact hone hle
  · exact fun hle m hm => le_max_of_le_left ((hn.2 hm).trans hle)

end OneColumn

/-! ## Frames of two columns -/

/-- There are two scales, each one at least, that cover the counts. -/
def ScalesCover (frame : Frame) (updated solved : Set Nat) : Prop :=
  ∃ u s : Int, maxCounts frame = .ok (u, s) ∧ (1 ≤ u ∧ ∀ n ∈ updated, (n : Int) ≤ u) ∧
    1 ≤ s ∧ ∀ n ∈ solved, (n : Int) ≤ s

section TwoColumns

variable {frame : Frame} {counts others : Set Nat}

theorem scalesCover_of_rows (hrows : frame.isEmpty = false) :
    ScalesCover frame counts others ↔
      frame.HasScale updatedName counts ∧ frame.HasScale solvedName others := by
  have hmax : maxCounts frame = barScale frame updatedName >>= fun u =>
      barScale frame solvedName >>= fun s => .ok (u, s) := by
    rw [maxCounts, hrows]
    rfl
  constructor
  · rintro ⟨u, s, hscales, hu, hs⟩
    obtain ⟨u', hupdated, hscales⟩ := bind_eq_ok.mp (hmax ▸ hscales)
    obtain ⟨s', hsolved, hpair⟩ := bind_eq_ok.mp hscales
    cases hpair
    exact ⟨⟨u, hupdated, hu⟩, s, hsolved, hs⟩
  · rintro ⟨⟨u, hupdated, hu⟩, s, hsolved, hs⟩
    exact ⟨u, s, by rw [hmax, hupdated, ok_bind, hsolved, ok_bind], hu, hs⟩

theorem scalesCover_of_empty (hempty : frame.isEmpty = true) (hcounts : counts = ∅)
    (hothers : others = ∅) : ScalesCover frame counts others := by
  subst hcounts hothers
  exact ⟨1, 1, by rw [maxCounts, hempty]; rfl, ⟨le_rfl, nofun⟩, le_rfl, nofun⟩

variable {name : Text} {cells : List Value} {column : Column}

theorem givenCounts_of_empty (h : frame.HasCounts name cells column)
    (hempty : frame.isEmpty = true) : givenCounts cells = ∅ := by
  have hcells : cells = [] := by
    rw [← List.length_eq_zero_iff, h.height]
    exact of_decide_eq_true hempty
  subst hcells
  exact Set.eq_empty_of_forall_notMem fun n => by simp [givenCounts]

/--
Rows have scales for the counts that the two columns hold if each column holds one, and for the given
counts if besides the greatest one of each column is not rounded down.
-/
theorem scalesCover_iff {updated solved : List Value} {u s : Column}
    (hupdated : frame.HasCounts updatedName updated u)
    (hsolved : frame.HasCounts solvedName solved s) :
    (ScalesCover frame (presentCounts u.cells) (presentCounts s.cells) ↔
      frame.isEmpty = true ∨ (givenCounts updated).Nonempty ∧ (givenCounts solved).Nonempty) ∧
    (ScalesCover frame (givenCounts updated) (givenCounts solved) ↔
      frame.isEmpty = true ∨
        (∃ n, IsGreatest (givenCounts updated) n ∧ n ≤ heldCount u.storage.rounds n) ∧
          ∃ n, IsGreatest (givenCounts solved) n ∧ n ≤ heldCount s.storage.rounds n) := by
  cases hempty : frame.isEmpty with
  | true =>
      have hnone := givenCounts_of_empty hupdated hempty
      have hnone' := givenCounts_of_empty hsolved hempty
      refine ⟨iff_of_true (scalesCover_of_empty hempty ?_ ?_) (.inl rfl),
        iff_of_true (scalesCover_of_empty hempty hnone hnone') (.inl rfl)⟩
      · rw [presentCounts_column hupdated, hnone, Set.image_empty]
      · rw [presentCounts_column hsolved, hnone', Set.image_empty]
  | false =>
      simp only [scalesCover_of_rows hempty, hasScale_present_iff hupdated,
        hasScale_present_iff hsolved, hasScale_given_iff hupdated, hasScale_given_iff hsolved,
        Bool.false_eq_true, false_or, and_self]

end TwoColumns

theorem heldCount_rounded : heldCount true 9007199254740993 = 9007199254740992 := by
  decide +kernel

/-- Doubles beside a missing cell cover what they hold, but not a given count that is rounded down. -/
theorem scalesCover_iff_of_rounded :
    ∃ frame u s, Frame.HasCounts frame updatedName [.missing .none, .int 9007199254740993] u ∧
      frame.HasCounts solvedName [.missing .notAvailable, .scalar (.int64 3)] s ∧
      ScalesCover frame (presentCounts u.cells) (presentCounts s.cells) ∧
      ¬ ScalesCover frame (givenCounts [.missing .none, .int 9007199254740993])
        (givenCounts [.missing .notAvailable, .scalar (.int64 3)]) := by
  obtain ⟨s, hstored⟩ : ∃ s, Column.stored solvedName .nullableIntegers
      [.missing .notAvailable, .scalar (.int64 3)] = .ok s := ⟨_, rfl⟩
  have hupdated : Frame.HasCounts
      ⟨[.inferred updatedName [.missing .none, .int 9007199254740993], s]⟩ updatedName
      [.missing .none, .int 9007199254740993]
      (.inferred updatedName [.missing .none, .int 9007199254740993]) := by
    refine ⟨rfl, rfl, fun cell hcell => ?_, .inferred updatedName⟩
    rcases List.mem_pair.mp hcell with rfl | rfl
    · exact .inl ⟨rfl, rfl⟩
    · exact .inr ⟨9007199254740993, .int _⟩
  have hsolved : Frame.HasCounts
      ⟨[.inferred updatedName [.missing .none, .int 9007199254740993], s]⟩ solvedName
      [.missing .notAvailable, .scalar (.int64 3)] s := by
    refine ⟨?_, rfl, fun cell hcell => ?_, .stored (by decide) hstored⟩
    · cases hstored
      rfl
    rcases List.mem_pair.mp hcell with rfl | rfl
    · exact .inl ⟨rfl, rfl⟩
    · exact .inr ⟨3, .word 3⟩
  obtain ⟨hpresent, hgiven⟩ := scalesCover_iff hupdated hsolved
  have hcount : 9007199254740993 ∈ givenCounts [.missing .none, .int 9007199254740993] :=
    ⟨.int 9007199254740993, by simp, .int 9007199254740993⟩
  refine ⟨_, _, s, hupdated, hsolved, hpresent.mpr (.inr ⟨⟨_, hcount⟩, 3, ?_⟩), ?_⟩
  · exact ⟨.scalar (.int64 3), by simp, .word 3⟩
  · rw [hgiven]
    rintro (hempty | ⟨⟨n, hn, hle⟩, -⟩)
    · cases hempty
    · obtain ⟨cell, hcell, hn⟩ := hn.1
      rcases List.mem_pair.mp hcell with rfl | rfl
      · cases hn
      · cases hn.holdsCount.unique (.int 9007199254740993)
        exact absurd (heldCount_rounded ▸ hle) (by decide)

/-- Rows in which nothing is counted as updated have no scale at all. -/
theorem not_scalesCover_of_gaps :
    ¬ ScalesCover ⟨[.inferred updatedName [.missing .none, .missing .none],
      .inferred solvedName [.int 3, .int 4]]⟩
      (givenCounts [.missing .none, .missing .none]) (givenCounts [.int 3, .int 4]) := by
  rintro ⟨u, s, hscales, -⟩
  have hfault : maxCounts ⟨[.inferred updatedName [.missing .none, .missing .none],
      .inferred solvedName [.int 3, .int 4]]⟩ = .error .integerFromNaN := by
    decide +kernel
  rw [hfault] at hscales
  cases hscales

end Scoreboard
