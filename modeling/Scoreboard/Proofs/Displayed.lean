import Mathlib
import Scoreboard.Html.Table
import Scoreboard.Proofs.Digits
import Scoreboard.Proofs.Nearest
import Scoreboard.Proofs.Outcome

/-!
# Displayed numbers and frames

The display has a text for every double, and that of a finite one is its rounded value.  A frame is
formatted column by column: the passes for the names of counts and of shares come to one pass that
leaves all other columns as they are.  Of contributions, it keeps the helpers and shows the rest.
-/

namespace Scoreboard

namespace Display

/-! ## Numbers in the invariant locale -/

theorem substituted_invariant (text : Text) : substituted [','] ['.'] text = text := by
  induction text with
  | nil => rfl
  | cons c text ih =>
      have hc : (if c = ',' then [','] else if c = '.' then ['.'] else [c]) = [c] := by
        split
        · simp_all
        · split <;> simp_all
      simp only [substituted, List.flatMap_cons, hc] at ih ⊢
      simp [ih]

theorem fixed_known (number : Quantity) (decimals : Int) :
    fixed .known Locales.invariantName number decimals = plainFixed number decimals := by
  cases h : plainFixed number decimals with
  | error fault => simp [fixed, Locales.find?, Locales.known, h]
  | ok text =>
      simp [fixed, Locales.find?, Locales.known, h, required, substituted_invariant, pure,
        Except.pure]

theorem invariantFixed_eq (x : Binary64) (decimals : Nat) :
    invariantFixed x decimals = plainFixed (.real x) decimals :=
  fixed_known (.real x) decimals

/-- Counts of decimals for which no double has too many digits. -/
def Fits (decimals : Nat) : Prop := 2 ^ 1024 * 10 ^ decimals < 10 ^ precision

theorem fits_integerDecimals : Fits integerDecimals := by
  unfold Fits
  decide +kernel

theorem fits_percentDecimals : Fits percentDecimals := by
  unfold Fits
  decide +kernel

variable {decimals : Nat}

theorem scaled_lt (h : Fits decimals) (magnitude : Magnitude) :
    roundHalfUp (magnitude.units * 10 ^ decimals) unitsPerOne < 10 ^ precision := by
  have hbound : magnitude.units * 10 ^ decimals ≤ 2 ^ 1024 * 10 ^ decimals * unitsPerOne := by
    have := magnitude.units_lt
    rw [overflow_eq] at this
    calc
      magnitude.units * 10 ^ decimals ≤ 2 ^ 1024 * unitsPerOne * 10 ^ decimals :=
        Nat.mul_le_mul_right _ this.le
      _ = 2 ^ 1024 * 10 ^ decimals * unitsPerOne := by rw [Nat.mul_right_comm]
  exact (roundHalfUp_le unitsPerOne_pos hbound).trans_lt h

theorem lt_precision (h : Fits decimals) : decimals < precision := by
  rw [← Nat.pow_lt_pow_iff_right (show 1 < 10 by norm_num)]
  exact (Nat.le_mul_of_pos_left _ (by positivity)).trans_lt h

theorem requirePlace_natCast (h : Fits decimals) : requirePlace decimals = .ok () := by
  have hdecimals := lt_precision h
  have hshift : precision ≤ shiftLimit := by decide
  unfold requirePlace
  rw [if_neg (by omega), if_neg (by omega)]

theorem invariantFixed_finite (h : Fits decimals) (negative : Bool) (magnitude : Magnitude) :
    invariantFixed (.finite negative magnitude) decimals =
      .ok (Binary64.signText negative ++
        unsignedText (roundHalfUp (magnitude.units * 10 ^ decimals) unitsPerOne) decimals) := by
  have hscaled := scaled_lt h magnitude
  have hnonneg : ¬ (decimals : Int) < 0 := by omega
  rw [invariantFixed_eq]
  simp only [plainFixed, ratioText, requirePlace_natCast h, ok_bind, if_neg hnonneg,
    Int.toNat_natCast, if_neg (not_le.mpr hscaled)]

theorem wordText_natCast (h : Fits decimals) (word : Text) : wordText word decimals = .ok word := by
  have hdecimals := lt_precision h
  have hwidth : precision ≤ widthLimit := by decide
  unfold wordText
  rw [if_neg (by omega), if_neg (by omega)]

theorem exists_invariantFixed (h : Fits decimals) (x : Binary64) :
    ∃ text, invariantFixed x decimals = .ok text := by
  cases x with
  | nan => exact ⟨_, (invariantFixed_eq _ _).trans (wordText_natCast h _)⟩
  | infinite negative => exact ⟨_, (invariantFixed_eq _ _).trans (wordText_natCast h _)⟩
  | finite negative magnitude => exact ⟨_, invariantFixed_finite h negative magnitude⟩

/-! ## Cells -/

theorem toNumber_other {value : Value} (htext : ∀ content, value = .text content → False)
    (hsequence : ∀ kind items, value = .sequence kind items → False) :
    value.toNumber.outcome = .ok (value.nearestDouble?.getD .nan) := by
  rw [Value.toNumber]
  · cases value.nearestDouble? <;> rfl
  · exact htext
  · exact hsequence

theorem toNumber_int (n : Int) :
    (Value.int n).toNumber.outcome = .ok ((Binary64.ofInt? n).getD .nan) :=
  toNumber_other nofun nofun

theorem toNumber_float (x : Binary64) : (Value.float x).toNumber.outcome = .ok x :=
  toNumber_other nofun nofun

theorem outcome_integer_of_present {value : Value} (h : value.isAbsent = false) :
    (integer value).outcome =
      value.toNumber.outcome >>= fun x => invariantFixed x integerDecimals := by
  have hpresent : integer value = value.toNumber >>= fun x =>
      liftM (invariantFixed x integerDecimals) := by
    simp only [integer, h, Bool.false_eq_true, if_false]
  rw [hpresent, Traced.outcome_bind]
  rfl

theorem outcome_integer (n : Int) :
    (integer (.int n)).outcome =
      invariantFixed ((Binary64.ofInt? n).getD .nan) integerDecimals := by
  rw [outcome_integer_of_present rfl, toNumber_int, ok_bind]

theorem withoutCommas_whole (n : Nat) :
    withoutCommas (unsignedText n integerDecimals) = .ofNat n := by
  rw [withoutCommas_unsignedText]
  simp [integerDecimals, decimalsText]

theorem outcome_integer_finite {n : Int} {negative : Bool} {magnitude : Magnitude}
    (h : Binary64.ofInt? n = some (.finite negative magnitude)) :
    (integer (.int n)).outcome = .ok (Binary64.signText negative ++
      unsignedText (roundHalfUp magnitude.units unitsPerOne) integerDecimals) := by
  rw [outcome_integer, h, Option.getD_some, invariantFixed_finite fits_integerDecimals,
    integerDecimals, Nat.pow_zero, Nat.mul_one]

theorem outcome_isFalsy_of_numeric {value : Value} (h : value.isNumeric = true) :
    value.isFalsy.outcome =
      .ok ((value.nearestDouble?.getD .nan).isZero || (value.nearestDouble?.getD .nan).isNaN) := by
  cases value with
  | missing marker => cases h
  | text content => cases h
  | bytes content => cases h
  | sequence kind items => cases h
  | mapping entries => cases h
  | object address => cases h
  | _ =>
      simp only [Value.isFalsy, Value.isAbsent, Value.isNumeric, Bool.false_eq_true, if_false,
        if_true, Traced.outcome_bind, Traced.outcome_pure]
      rw [toNumber_other, ok_bind] <;> simp

theorem outcome_isFalsy (x : Binary64) :
    (Value.float x).isFalsy.outcome = .ok (x.isZero || x.isNaN) :=
  outcome_isFalsy_of_numeric rfl

theorem outcome_percent_of_isFalsy {value : Value} {falsy : Bool}
    (h : value.isFalsy.outcome = .ok falsy) :
    (percent value).outcome =
      if falsy then .ok placeholder
      else value.toNumber.outcome >>= fun x =>
        (invariantFixed (x.mul percentScale) percentDecimals).map (· ++ percentSuffix) := by
  rw [percent, Traced.outcome_bind, h, ok_bind]
  split
  · rfl
  · rw [Traced.outcome_bind]
    congr 1
    funext x
    rw [Traced.outcome_bind, Traced.outcome_lift]
    cases invariantFixed (x.mul percentScale) percentDecimals <;> rfl

theorem outcome_percent (x : Binary64) :
    (percent (.float x)).outcome =
      if x.isZero || x.isNaN then .ok placeholder
      else (invariantFixed (x.mul percentScale) percentDecimals).map (· ++ percentSuffix) := by
  rw [outcome_percent_of_isFalsy (outcome_isFalsy x), toNumber_float, ok_bind]

theorem exists_integer (n : Int) : ∃ text, (integer (.int n)).outcome = .ok text := by
  rw [outcome_integer]
  exact exists_invariantFixed fits_integerDecimals _

theorem exists_percent (x : Binary64) : ∃ text, (percent (.float x)).outcome = .ok text := by
  rw [outcome_percent]
  split
  · exact ⟨_, rfl⟩
  · obtain ⟨text, h⟩ := exists_invariantFixed fits_percentDecimals (x.mul percentScale)
    rw [h]
    exact ⟨_, rfl⟩

end Display

open Display

/-! ## Formatted frames -/

structure ShownContribution where
  helper : Text
  updated : Text
  solved : Text
  share : Text

def ShownContribution.cells (shown : ShownContribution) : List Text :=
  [shown.helper, shown.updated, shown.solved, shown.share]

/-- The texts are those that the display has for this row. -/
structure ShownContribution.IsOf (row : Contribution) (shown : ShownContribution) : Prop where
  helper : shown.helper = row.helper
  updated : (integer (.int row.updated)).outcome = .ok shown.updated
  solved : (integer (.int row.solved)).outcome = .ok shown.solved
  share : (percent (.float row.share)).outcome = .ok shown.share

theorem ShownContribution.exists_isOf (row : Contribution) : ∃ shown, IsOf row shown := by
  obtain ⟨updated, hupdated⟩ := exists_integer row.updated
  obtain ⟨solved, hsolved⟩ := exists_integer row.solved
  obtain ⟨share, hshare⟩ := exists_percent row.share
  exact ⟨⟨row.helper, updated, solved, share⟩, rfl, hupdated, hsolved, hshare⟩

theorem exists_shown (rows : List Contribution) :
    ∃ shown, List.Forall₂ ShownContribution.IsOf rows shown :=
  exists_forall₂ fun row _ => ShownContribution.exists_isOf row

def Frame.ofShown (shown : List ShownContribution) : Frame where
  columns := [
    Column.inferred helperName (shown.map fun row => .text row.helper),
    ⟨updatedName, .objects, shown.map fun row => .text row.updated⟩,
    ⟨solvedName, .objects, shown.map fun row => .text row.solved⟩,
    ⟨shareName, .objects, shown.map fun row => .text row.share⟩]

theorem mapM_shown {rows : List Contribution} {shown : List ShownContribution}
    (hshown : List.Forall₂ ShownContribution.IsOf rows shown) {cell : Contribution → Value}
    {text : ShownContribution → Text} {display : Value → Traced Text}
    (h : ∀ row texts, ShownContribution.IsOf row texts →
      (display (cell row)).outcome = .ok (text texts)) :
    ((rows.map cell).mapM fun cell => (display cell).outcome) = .ok (shown.map text) := by
  rw [mapM_eq_ok, List.forall₂_map_left_iff, List.forall₂_map_right_iff]
  exact hshown.imp h

def Column.displayed (column : Column) (name : Text) (display : Value → Traced Text) :
    Except Fault Column :=
  if column.name = name then
    (column.cells.mapM fun cell => (display cell).outcome).map fun texts =>
      ⟨column.name, .objects, texts.map .text⟩
  else .ok column

theorem outcome_displayed (frame : Frame) (name : Text) (display : Value → Traced Text) :
    (frame.displayed name display).outcome =
      (frame.columns.mapM fun column : Column => column.displayed name display).map Frame.mk := by
  have hcolumn (column : Column) :
      (if column.name = name then do
        let texts ← column.cells.mapM display
        return Column.mk column.name .objects (texts.map .text)
      else pure column : Traced Column).outcome = column.displayed name display := by
    unfold Column.displayed
    split
    · rw [Traced.outcome_bind, Traced.outcome_mapM]
      cases column.cells.mapM fun cell => (display cell).outcome <;> rfl
    · rfl
  rw [Frame.displayed, Traced.outcome_bind, Traced.outcome_mapM]
  simp only [hcolumn]
  cases frame.columns.mapM fun column => column.displayed name display <;> rfl

/-- The passes that a frame goes through for these names, for one column. -/
def Column.displayedAll (column : Column) (names : List Text) (display : Value → Traced Text) :
    Except Fault Column :=
  names.foldlM (fun shown name => Column.displayed shown name display) column

/-- A column that is shown under its name keeps the name, so that passes for other names keep it. -/
theorem Column.displayed_bind {column : Column} {name : Text} {display : Value → Traced Text}
    {next : Column → Except Fault Column}
    (hnext : ∀ shown : Column, shown.name = column.name → next shown = .ok shown) :
    column.displayed name display >>= next = column.displayed name display := by
  unfold Column.displayed
  split
  · cases column.cells.mapM fun cell => (display cell).outcome with
    | error fault => rfl
    | ok texts => exact hnext _ rfl
  · exact hnext column rfl

theorem Column.displayedAll_eq {names : List Text} (hnames : names.Nodup)
    (display : Value → Traced Text) (column : Column) :
    column.displayedAll names display =
      if column.name ∈ names then column.displayed column.name display else .ok column := by
  unfold Column.displayedAll
  induction names generalizing column with
  | nil => rfl
  | cons name names ih =>
      rcases List.nodup_cons.mp hnames with ⟨hname, hrest⟩
      rw [List.foldlM_cons]
      by_cases hcolumn : column.name = name
      · rw [Column.displayed_bind, if_pos (by simp [hcolumn]), hcolumn]
        intro shown hshown
        rw [ih hrest, if_neg (by rwa [hshown, hcolumn])]
      · rw [Column.displayed, if_neg hcolumn, ok_bind, ih hrest]
        simp [hcolumn]

theorem displayedAll_eq_ok {names : List Text} {display : Value → Traced Text}
    {frame shown : Frame} :
    (names.foldlM (fun shown name => Frame.displayed shown name display) frame).outcome =
        .ok shown ↔
      List.Forall₂ (fun column result => Column.displayedAll column names display = .ok result)
        frame.columns shown.columns := by
  unfold Column.displayedAll
  induction names generalizing frame with
  | nil =>
      cases frame
      cases shown
      simp [pure, Except.pure, List.forall₂_eq_eq_eq]
  | cons name names ih =>
      have hpass {result : Frame} : (frame.displayed name display).outcome = .ok result ↔
          List.Forall₂ (fun column shown => Column.displayed column name display = .ok shown)
            frame.columns result.columns := by
        cases result
        simp [outcome_displayed, map_eq_ok, ← mapM_eq_ok]
      simp only [List.foldlM_cons, Traced.outcome_bind, bind_eq_ok, hpass, ih]
      rw [← forall₂_comp]
      constructor
      · rintro ⟨result, hfirst, hlater⟩
        exact ⟨_, hfirst, hlater⟩
      · rintro ⟨columns, hfirst, hlater⟩
        exact ⟨⟨columns⟩, hfirst, hlater⟩

/-- How the cells of a column of this name are shown, if they are. -/
def display? (name : Text) : Option (Value → Traced Text) :=
  if countNames.contains name then some integer
  else if shareNames.contains name then some percent
  else none

def Column.formatted (column : Column) : Except Fault Column :=
  match display? column.name with
  | some display => column.displayed column.name display
  | none => .ok column

theorem Column.formatted_eq (column : Column) :
    (column.displayedAll countNames integer >>= fun counted =>
      counted.displayedAll shareNames percent) = column.formatted := by
  have hdisjoint : ∀ name ∈ countNames, name ∉ shareNames := by decide
  have hshares := @Column.displayedAll_eq shareNames (List.nodup_singleton _) percent
  rw [Column.displayedAll_eq (by decide), Column.formatted, display?]
  simp only [List.contains_iff_mem]
  by_cases hcount : column.name ∈ countNames
  · simp only [if_pos hcount]
    apply Column.displayed_bind
    intro shown hshown
    rw [hshares, if_neg (by rw [hshown]; exact hdisjoint _ hcount)]
  · simp only [if_neg hcount, ok_bind, hshares]
    by_cases hshare : column.name ∈ shareNames
    · simp only [if_pos hshare]
    · simp only [if_neg hshare]

/-- A frame is formatted column by column. -/
theorem formatContributionTable_eq_ok {frame shown : Frame} :
    (formatContributionTable frame).outcome = .ok shown ↔
      List.Forall₂ (fun column result => Column.formatted column = .ok result)
        frame.columns shown.columns := by
  simp only [formatContributionTable, Traced.outcome_bind, Traced.outcome_note,
    Traced.outcome_pure, ok_bind, bind_eq_ok, Except.ok.injEq, exists_eq_right,
    displayedAll_eq_ok, ← Column.formatted_eq]
  rw [← forall₂_comp]
  constructor
  · rintro ⟨counted, hcounts, hshares⟩
    exact ⟨_, hcounts, hshares⟩
  · rintro ⟨counted, hcounts, hshares⟩
    exact ⟨⟨counted⟩, hcounts, hshares⟩

theorem Column.formatted_shown {rows : List Contribution} {shown : List ShownContribution}
    (hshown : List.Forall₂ ShownContribution.IsOf rows shown) {column : Column}
    {cell : Contribution → Value} {text : ShownContribution → Text} {display : Value → Traced Text}
    (hdisplay : display? column.name = some display) (hcells : column.cells = rows.map cell)
    (h : ∀ row texts, ShownContribution.IsOf row texts →
      (display (cell row)).outcome = .ok (text texts)) :
    column.formatted = .ok ⟨column.name, .objects, shown.map fun row => .text (text row)⟩ := by
  rw [Column.formatted, hdisplay]
  simp only [Column.displayed, if_true, hcells, mapM_shown hshown h, Except.map, List.map_map]
  rfl

theorem formatContributionTable_shown {rows : List Contribution} {shown : List ShownContribution}
    (h : List.Forall₂ ShownContribution.IsOf rows shown) :
    (formatContributionTable (.ofContributions rows)).outcome = .ok (.ofShown shown) := by
  have hhelpers : (rows.map fun row => Value.text row.helper) =
      shown.map fun row => .text row.helper := by
    rw [← List.forall₂_eq_eq_eq, List.forall₂_map_left_iff, List.forall₂_map_right_iff]
    exact h.imp fun _ _ hrow => by rw [hrow.helper]
  have hcells : (Column.inferred shareName (rows.map fun row => .float row.share)).cells =
      rows.map fun row => .float row.share := by
    simp [Column.inferred]
  rw [formatContributionTable_eq_ok, Frame.ofContributions, Frame.ofShown, ← hhelpers]
  refine .cons rfl (.cons ?_ (.cons ?_ (.cons ?_ .nil)))
  · exact Column.formatted_shown h (by simp [display?, countNames, Column.ofIntegers])
      (by simp [Column.ofIntegers]) fun _ _ hrow => hrow.updated
  · exact Column.formatted_shown h (by simp [display?, countNames, Column.ofIntegers])
      (by simp [Column.ofIntegers]) fun _ _ hrow => hrow.solved
  · exact Column.formatted_shown h rfl hcells fun _ _ hrow => hrow.share

end Scoreboard
