import Mathlib
import Scoreboard.Logger

/-!
# Loggers that are called for

The first call for a logger without handlers gives it its handler and a level.  From then on calls
for it leave the whole tree as it is, and calls for other loggers change neither its handlers nor
its level.  So what a run of calls makes of a logger is told by its handlers before the run and by
the first call for it.
-/

namespace Scoreboard

/-- A call for the logger of a name, with the level for it if it has no handlers yet. -/
structure LoggerCall where
  name : Text
  level : Int
  deriving DecidableEq, Repr

/-- The level of the logger and the formats of its handlers. -/
def Logger.setup (logger : Logger) : Int × List Text := (logger.level, logger.formats)

namespace LoggerCall

/-- The name that the called logger goes by. -/
def target (call : LoggerCall) : Text := LoggerTree.nameOf call.name

/-- The setup that the call gives to a logger without handlers. -/
def setup (call : LoggerCall) : Int × List Text := (call.level, [logFormat])

end LoggerCall

namespace LoggerTree

/-- The tree after calls that come one after the other. -/
def getAll (tree : LoggerTree) (calls : List LoggerCall) : LoggerTree :=
  calls.foldl (fun tree call => tree.get call.name call.level) tree

/-- The setup of the logger of this name, if there is one. -/
def setup? (tree : LoggerTree) (name : Text) : Option (Int × List Text) :=
  (tree.find? name).map Logger.setup

variable {tree after : LoggerTree} {name other : Text}

/-! ## Finding loggers -/

theorem find?_rootName (tree : LoggerTree) : tree.find? rootName = some tree.root := if_pos rfl

theorem find?_of_ne_root (h : name ≠ rootName) :
    tree.find? name = tree.loggers.find? fun logger => logger.name = name := if_neg h

theorem isEquipped_iff :
    tree.isEquipped name = true ↔ ∃ setup, tree.setup? name = some setup ∧ setup.2 ≠ [] := by
  cases h : tree.find? name <;> simp [isEquipped, setup?, Logger.setup, h]

theorem isEquipped_congr (h : after.setup? name = tree.setup? name) :
    after.isEquipped name = tree.isEquipped name := by
  rw [Bool.eq_iff_iff, isEquipped_iff, isEquipped_iff, h]

theorem setup?_congr (hroot : name = rootName → after.root.setup = tree.root.setup)
    (hloggers : name ≠ rootName →
      (after.loggers.find? fun logger => logger.name = name).map Logger.setup =
        (tree.loggers.find? fun logger => logger.name = name).map Logger.setup) :
    after.setup? name = tree.setup? name := by
  unfold setup?
  by_cases hname : name = rootName
  · rw [hname, find?_rootName, find?_rootName, Option.map_some, Option.map_some,
      hroot hname]
  · rw [find?_of_ne_root hname, find?_of_ne_root hname, hloggers hname]

theorem name_eq_of_find? {loggers : List Logger} {logger : Logger}
    (h : loggers.find? (fun logger => logger.name = name) = some logger) : logger.name = name := by
  simpa using List.find?_some h

section Changes

variable {change : Logger → Logger} (hname : ∀ logger, (change logger).name = logger.name)

include hname

theorem find?_map_loggers (loggers : List Logger) (name : Text) :
    (loggers.map change).find? (fun logger => logger.name = name) =
      (loggers.find? fun logger => logger.name = name).map change := by
  rw [List.find?_map]
  simp only [Function.comp_def, hname]

theorem setup_find?_map_loggers (loggers : List Logger)
    (hsetup : ∀ logger, logger.name = name → (change logger).setup = logger.setup) :
    ((loggers.map change).find? fun logger => logger.name = name).map Logger.setup =
      (loggers.find? fun logger => logger.name = name).map Logger.setup := by
  rw [find?_map_loggers hname, Option.map_map]
  apply Option.map_congr
  intro logger hlogger
  exact hsetup logger (name_eq_of_find? hlogger)

theorem name_ite (name : Text) (logger : Logger) :
    (if logger.name = name then change logger else logger).name = logger.name := by
  split
  · exact hname logger
  · rfl

theorem find?_updated_self (tree : LoggerTree) (name : Text) :
    (tree.updated name change).find? name = (tree.find? name).map change := by
  unfold updated
  split
  · next hroot =>
      rw [hroot, find?_rootName, find?_rootName]
      rfl
  · next hroot =>
      rw [find?_of_ne_root hroot, find?_of_ne_root hroot, find?_map_loggers (name_ite hname name)]
      apply Option.map_congr
      intro logger hlogger
      exact if_pos (name_eq_of_find? hlogger)

theorem setup?_updated_of_ne (h : other ≠ name) :
    (tree.updated name change).setup? other = tree.setup? other := by
  unfold updated
  split
  · next hroot =>
      exact setup?_congr (fun hother => absurd (hother.trans hroot.symm) h) fun _ => rfl
  · next hroot =>
      refine setup?_congr (fun _ => rfl) fun _ => ?_
      apply setup_find?_map_loggers (name_ite hname name)
      intro logger hlogger
      rw [if_neg (fun hsame => h (hlogger.symm.trans hsame))]

end Changes

/-! ## One call -/

theorem name_adopted (parent : Text) (logger : Logger) :
    (adopted parent logger).name = logger.name := by
  unfold adopted
  split <;> rfl

theorem setup_adopted (parent : Text) (logger : Logger) :
    (adopted parent logger).setup = logger.setup := by
  unfold adopted
  split <;> rfl

theorem ensured_eq_self (h : (tree.find? name).isSome = true) : tree.ensured name = tree := if_pos h

/-- A logger that comes to be has no level and no handlers. -/
theorem setup?_ensured_self (tree : LoggerTree) (name : Text) :
    (tree.ensured name).setup? name = some ((tree.setup? name).getD (0, [])) := by
  cases hfound : tree.find? name with
  | some logger =>
      rw [ensured_eq_self (by rw [hfound]; rfl), setup?, hfound]
      rfl
  | none =>
      have hname : name ≠ rootName := by
        rintro rfl
        rw [find?_rootName] at hfound
        cases hfound
      have hloggers : tree.loggers.find? (fun logger => logger.name = name) = none := by
        rw [← find?_of_ne_root hname, hfound]
      rw [ensured, hfound, setup?, setup?, hfound, find?_of_ne_root hname]
      simp [find?_map_loggers (name_adopted name), hloggers, Logger.setup]

theorem setup?_ensured_of_ne (h : other ≠ name) :
    (tree.ensured name).setup? other = tree.setup? other := by
  unfold ensured
  split
  · rfl
  · refine setup?_congr (fun _ => rfl) fun _ => ?_
    have hnew : [(⟨name, tree.parentOf name, 0, [], []⟩ : Logger)].find?
        (fun logger => logger.name = other) = none := by
      simp [Ne.symm h]
    rw [List.find?_append, hnew, Option.or_none]
    exact setup_find?_map_loggers (name_adopted name) _ fun logger _ => setup_adopted name logger

theorem setup?_undecided (tree : LoggerTree) (name : Text) :
    tree.undecided.setup? name = tree.setup? name := by
  refine setup?_congr (fun _ => rfl) fun _ => ?_
  have hname (logger : Logger) : ({ logger with decided := [] } : Logger).name = logger.name := rfl
  exact setup_find?_map_loggers hname tree.loggers fun _ _ => rfl

theorem isEquipped_ensured (tree : LoggerTree) (name : Text) :
    (tree.ensured name).isEquipped name = tree.isEquipped name := by
  rw [Bool.eq_iff_iff, isEquipped_iff, isEquipped_iff, setup?_ensured_self]
  cases tree.setup? name <;> simp

theorem name_equipped (level : Int) (logger : Logger) :
    (equipped level logger).name = logger.name := rfl

theorem get_eq (tree : LoggerTree) (call : LoggerCall) :
    tree.get call.name call.level =
      if (tree.ensured call.target).isEquipped call.target then tree.ensured call.target
      else ((tree.ensured call.target).updated call.target (equipped call.level)).undecided := rfl

/-- A call for a logger with handlers changes nothing at all in the tree. -/
theorem get_of_isEquipped {call : LoggerCall} (h : tree.isEquipped call.target = true) :
    tree.get call.name call.level = tree := by
  have hknown : (tree.find? call.target).isSome = true := Option.isSome_of_any h
  rw [get_eq, ensured_eq_self hknown, if_pos h]

theorem setup?_get_target {call : LoggerCall} (h : tree.isEquipped call.target = false) :
    (tree.get call.name call.level).setup? call.target = some call.setup := by
  have hunequipped : ¬ (tree.ensured call.target).isEquipped call.target = true := by
    rw [isEquipped_ensured, h]
    exact Bool.false_ne_true
  obtain ⟨logger, hlogger, -⟩ := Option.map_eq_some_iff.mp (setup?_ensured_self tree call.target)
  rw [get_eq, if_neg hunequipped, setup?_undecided, setup?, find?_updated_self (name_equipped call.level),
    hlogger]
  rfl

theorem setup?_get_of_ne {call : LoggerCall} (h : call.target ≠ name) :
    (tree.get call.name call.level).setup? name = tree.setup? name := by
  rw [get_eq]
  split
  · exact setup?_ensured_of_ne h.symm
  · rw [setup?_undecided, setup?_updated_of_ne (name_equipped call.level) h.symm,
      setup?_ensured_of_ne h.symm]

/-- A call gives a setup only to the called logger, and only if that one has no handlers. -/
theorem setup?_get (tree : LoggerTree) (call : LoggerCall) (name : Text) :
    (tree.get call.name call.level).setup? name =
      if call.target = name ∧ tree.isEquipped name = false then some call.setup
      else tree.setup? name := by
  split
  · next h =>
      obtain ⟨rfl, hunequipped⟩ := h
      exact setup?_get_target hunequipped
  · next h =>
      by_cases htarget : call.target = name
      · subst htarget
        rw [get_of_isEquipped (by simpa using h)]
      · exact setup?_get_of_ne htarget

/-! ## Runs of calls -/

theorem getAll_cons (tree : LoggerTree) (call : LoggerCall) (calls : List LoggerCall) :
    tree.getAll (call :: calls) = (tree.get call.name call.level).getAll calls := rfl

/-- Handlers stay as they are, and a logger without them has its setup from the first call for it. -/
theorem setup?_getAll (tree : LoggerTree) (calls : List LoggerCall) (name : Text) :
    (tree.getAll calls).setup? name =
      if tree.isEquipped name then tree.setup? name
      else ((calls.find? fun call => call.target = name).map LoggerCall.setup).or
        (tree.setup? name) := by
  -- The calls behind the first one start from the tree that it leaves.
  induction calls generalizing tree with
  | nil => simp [getAll]
  | cons call calls ih =>
      rw [getAll_cons, ih]
      by_cases hcalled : call.target = name ∧ tree.isEquipped name = false
      · obtain ⟨htarget, hunequipped⟩ := hcalled
        have hsetup : (tree.get call.name call.level).setup? name = some call.setup := by
          rw [setup?_get, if_pos ⟨htarget, hunequipped⟩]
        have hequipped : (tree.get call.name call.level).isEquipped name = true :=
          isEquipped_iff.mpr ⟨call.setup, hsetup, List.cons_ne_nil _ _⟩
        rw [if_pos hequipped, hsetup, hunequipped, List.find?_cons_of_pos (by simpa using htarget)]
        rfl
      · have hsetup : (tree.get call.name call.level).setup? name = tree.setup? name := by
          rw [setup?_get, if_neg hcalled]
        rw [isEquipped_congr hsetup, hsetup]
        cases hequipped : tree.isEquipped name with
        | true => rfl
        | false =>
            have htarget : ¬ call.target = name := fun h => hcalled ⟨h, hequipped⟩
            rw [List.find?_cons_of_neg (by simpa using htarget)]

section Called

variable {calls : List LoggerCall} {call : LoggerCall} (hcall : call ∈ calls)

include hcall

theorem setup?_getAll_of_first (hunequipped : tree.isEquipped call.target = false) :
    ∃ first, calls.find? (fun other => other.target = call.target) = some first ∧
      (tree.getAll calls).setup? call.target = some first.setup := by
  have hsome : (calls.find? fun other => other.target = call.target).isSome = true :=
    List.find?_isSome.mpr ⟨call, hcall, by simp⟩
  obtain ⟨first, hfirst⟩ := Option.isSome_iff_exists.mp hsome
  refine ⟨first, hfirst, ?_⟩
  rw [setup?_getAll, hunequipped, hfirst]
  rfl

theorem isEquipped_getAll (tree : LoggerTree) :
    (tree.getAll calls).isEquipped call.target = true := by
  cases hequipped : tree.isEquipped call.target with
  | true =>
      have hkept : (tree.getAll calls).setup? call.target = tree.setup? call.target := by
        rw [setup?_getAll, if_pos hequipped]
      exact (isEquipped_congr hkept).trans hequipped
  | false =>
      obtain ⟨first, -, hsetup⟩ := setup?_getAll_of_first hcall hequipped
      exact isEquipped_iff.mpr ⟨first.setup, hsetup, List.cons_ne_nil _ _⟩

end Called

theorem getAll_of_isEquipped {calls : List LoggerCall}
    (h : ∀ call ∈ calls, tree.isEquipped call.target = true) : tree.getAll calls = tree := by
  induction calls with
  | nil => rfl
  | cons call calls ih =>
      obtain ⟨hcall, hcalls⟩ := List.forall_mem_cons.mp h
      rw [getAll_cons, get_of_isEquipped hcall, ih hcalls]

/-- What calls that come one after the other make of the loggers of a tree. -/
structure IsSetUpBy (calls : List LoggerCall) (before after : LoggerTree) : Prop where
  first : ∀ call ∈ calls, before.isEquipped call.target = false →
    ∃ first, calls.find? (fun other => other.target = call.target) = some first ∧
      after.setup? call.target = some (first.level, [logFormat])
  kept : ∀ call ∈ calls, before.isEquipped call.target = true →
    after.setup? call.target = before.setup? call.target
  uncalled : ∀ name, (∀ call ∈ calls, call.target ≠ name) → after.setup? name = before.setup? name
  repeated : ∀ later : List LoggerCall, (∀ call ∈ later, ∃ earlier ∈ calls,
    call.target = earlier.target) → after.getAll later = after

/-- Each called logger is set up once, by the first call for it, unless it had handlers before. -/
theorem isSetUpBy_getAll (tree : LoggerTree) (calls : List LoggerCall) :
    IsSetUpBy calls tree (tree.getAll calls) := by
  constructor
  case first => exact fun call hcall hunequipped => setup?_getAll_of_first hcall hunequipped
  case kept =>
    intro call _ hequipped
    rw [setup?_getAll, if_pos hequipped]
  case uncalled =>
    intro name huncalled
    have hnone : calls.find? (fun call => call.target = name) = none := by
      simpa using huncalled
    rw [setup?_getAll, hnone]
    split <;> rfl
  case repeated =>
    intro later hlater
    apply getAll_of_isEquipped
    intro call hcall
    obtain ⟨earlier, hearlier, hsame⟩ := hlater call hcall
    rw [hsame]
    exact isEquipped_getAll hearlier tree

/-- The root is called for by both of its names, and has the level of the first call. -/
example : (fresh.getAll [⟨[], 10⟩, ⟨"a.b".toList, 40⟩, ⟨rootName, 30⟩]).setup? rootName =
    some (10, [logFormat]) := by
  decide

end LoggerTree

end Scoreboard
