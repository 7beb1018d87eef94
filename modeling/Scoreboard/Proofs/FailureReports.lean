import Mathlib
import Scoreboard.Proofs.Refusals

/-!
# Reports of values without a number

A value that stands for no number is reported, and so is each sequence of one around it, from the inside
out.  A number that is `nan` itself is not reported, and nothing is where another number is found.
-/

namespace Scoreboard

namespace Traced

variable {α β : Type}

theorem events_bind {first : Traced α} {a : α} (h : first.outcome = .ok a) (next : α → Traced β) :
    (first >>= next).events = first.events ++ (next a).events := by
  obtain ⟨events, outcome⟩ := first
  cases h
  rfl

@[simp] theorem events_lift (result : Except Fault α) : (liftM result : Traced α).events = [] := rfl

end Traced

namespace Value

/-! ## Sequences around a core -/

/-- The value is a sequence of one that holds a text or a sequence, which is what numbers are made of. -/
def Opens (value item : Value) : Prop := ∃ kind, value = .sequence kind [item] ∧ item.isOpen = true

/-- The values that come to light one inside the other until nothing can be opened, the core first. -/
inductive HasLayers : Value → List Value → Prop where
  | core {value : Value} : (∀ item, ¬ value.Opens item) → HasLayers value [value]
  | opened {value item : Value} {layers : List Value} : value.Opens item → HasLayers item layers →
      HasLayers value (layers ++ [value])

theorem exists_hasLayers : (value : Value) → ∃ core outer, value.HasLayers (core :: outer)
  | .sequence kind [item] => by
      cases hopen : item.isOpen with
      | true =>
          obtain ⟨core, outer, hlayers⟩ := exists_hasLayers item
          exact ⟨core, _, .opened ⟨kind, rfl, hopen⟩ hlayers⟩
      | false =>
          refine ⟨_, _, .core ?_⟩
          rintro other ⟨kind, ⟨⟩, hother⟩
          rw [hopen] at hother
          cases hother
  | .sequence kind [] | .sequence kind (_ :: _ :: _) | .text _ | .missing _ | .bool _ | .int _
  | .float _ | .decimal _ | .fraction _ | .complex _ _ | .scalar _ | .bytes _ | .mapping _
  | .object _ => ⟨_, _, .core (by rintro _ ⟨_, ⟨⟩, _⟩)⟩

/-! ## What is reported -/

variable {value item : Value} {layers : List Value} {x : Binary64}

theorem events_reported (value : Value) (x : Binary64) :
    (value.reported x).events = if x = .nan then [.uncoerced value] else [] := by
  unfold reported
  split <;> rfl

theorem nearestDouble?_open (h : value.isOpen = true) : value.nearestDouble? = none := by
  cases value with
  | text content => rfl
  | sequence kind items => rfl
  | _ => cases h

theorem events_closed (hclosed : value.isOpen = false) (h : value.toNumber.outcome = .ok x) :
    value.toNumber.events =
      if x = .nan ∧ value.nearestDouble? ≠ some .nan then [.uncoerced value] else [] := by
  rw [toNumber_closed hclosed] at h
  rw [toNumber]
  · cases hdouble : value.nearestDouble? with
    | none =>
        rw [hdouble] at h
        cases h
        simp [events_reported]
    | some y =>
        rw [hdouble] at h
        cases h
        simp [Traced.pure_def]
  · rintro content rfl
    cases hclosed
  · rintro kind items rfl
    cases hclosed

/-- Nothing is reported of a closed item, only of the sequence around it. -/
theorem events_soleItem (h : item.isOpen = false) : (soleNumber [item]).events = [] := by
  by_cases hnone : item = .missing .none
  · rw [hnone, soleNumber]
    rfl
  · rw [soleNumber]
    · cases item.plainText <;> rfl
    · exact hnone
    · rintro content rfl
      cases h
    · rintro kind items rfl
      cases h

theorem events_soleNumber {items : List Value}
    (hcore : ∀ item, items = [item] → item.isOpen = false) : (soleNumber items).events = [] := by
  match items with
  | [] =>
      rw [soleNumber]
      rfl
  | [item] => exact events_soleItem (hcore item rfl)
  | _ :: _ :: _ =>
      rw [soleNumber]
      rfl

theorem events_sequence {kind : SequenceKind} {items : List Value}
    (h : (soleNumber items).outcome = .ok x) :
    (Value.sequence kind items).toNumber.events = (soleNumber items).events ++
      if x = .nan then [.uncoerced (.sequence kind items)] else [] := by
  rw [toNumber, Traced.events_bind h, events_reported]

/-- A value that does not open is reported if no number is found for it. -/
theorem events_core (hcore : ∀ item, ¬ value.Opens item) (h : value.toNumber.outcome = .ok x) :
    value.toNumber.events =
      if x = .nan ∧ value.nearestDouble? ≠ some .nan then [.uncoerced value] else [] := by
  cases value with
  | text content =>
      rw [toNumber_text] at h
      rw [toNumber, Traced.events_bind (by simpa using h), events_reported]
      simp [nearestDouble?]
  | sequence kind items =>
      rw [toNumber_sequence] at h
      rw [events_sequence h, events_soleNumber]
      · simp [nearestDouble?]
      · rintro item rfl
        simpa [Opens] using hcore item
  | _ => exact events_closed rfl h

theorem events_opened (hopens : value.Opens item) (h : value.toNumber.outcome = .ok x) :
    item.toNumber.outcome = .ok x ∧ value.toNumber.events =
      item.toNumber.events ++ if x = .nan then [.uncoerced value] else [] := by
  obtain ⟨kind, rfl, hopen⟩ := hopens
  rw [toNumber_sequence] at h
  rw [events_sequence h, soleNumber_open hopen]
  exact ⟨soleNumber_open hopen ▸ h, rfl⟩

/-- All layers are reported, from the core outwards, unless there is a number or the value is one. -/
theorem events_toNumber (hlayers : value.HasLayers layers) (h : value.toNumber.outcome = .ok x) :
    value.toNumber.events =
      if x = .nan ∧ value.nearestDouble? ≠ some .nan then layers.map .uncoerced else [] := by
  -- Each layer adds its own event behind those of the layers inside.
  induction hlayers with
  | core hcore => exact events_core hcore h
  | @opened value item layers hopens _ ih =>
      obtain ⟨hitem, hevents⟩ := events_opened hopens h
      obtain ⟨kind, rfl, hopen⟩ := hopens
      rw [hevents, ih hitem, nearestDouble?_open hopen]
      by_cases hnan : x = .nan
      · simp [hnan, nearestDouble?]
      · simp [hnan]

/-! ## The core -/

theorem HasLayers.ne_nil (h : value.HasLayers layers) : layers ≠ [] := by
  cases h <;> simp

/-- A text or sequence that is opened has a text or a sequence for its core. -/
theorem HasLayers.isOpen_core (h : value.HasLayers layers) (hopen : value.isOpen = true) :
    ∀ core ∈ layers.head?, core.isOpen = true := by
  induction h with
  | core _ => simpa using hopen
  | opened hopens hlayers ih =>
      obtain ⟨kind, rfl, hitem⟩ := hopens
      rw [List.head?_append_of_ne_nil _ hlayers.ne_nil]
      exact ih hitem

theorem HasLayers.eq_core {core : Value} {outer : List Value}
    (h : value.HasLayers (core :: outer)) (hclosed : core.isOpen = false) :
    value = core ∧ outer = [] := by
  generalize hlayers : core :: outer = layers at h
  cases h with
  | core _ =>
      cases hlayers
      exact ⟨rfl, rfl⟩
  | @opened _ item inner hopens hinner =>
      obtain ⟨kind, -, hitem⟩ := hopens
      have hhead : inner.head? = some core := by
        rw [← List.head?_append_of_ne_nil inner hinner.ne_nil, ← hlayers]
        rfl
      rw [hinner.isOpen_core hitem core hhead] at hclosed
      cases hclosed

/-- A value that is `nan` itself is its own core. -/
theorem HasLayers.core_eq_of_own {core : Value} {outer : List Value}
    (h : value.HasLayers (core :: outer)) (hown : value.nearestDouble? = some .nan) :
    core.isOpen = false ∧ core.nearestDouble? = some .nan := by
  have hclosed : value.isOpen = false := by
    cases hopen : value.isOpen with
    | false => rfl
    | true =>
        rw [nearestDouble?_open hopen] at hown
        cases hown
  generalize hlayers : core :: outer = layers at h
  cases h with
  | core _ =>
      cases hlayers
      exact ⟨hclosed, hown⟩
  | opened hopens _ =>
      obtain ⟨kind, rfl, -⟩ := hopens
      cases hclosed

theorem HasLayers.holdsLong (h : value.HasLayers layers) :
    ∀ layer ∈ layers, layer.HoldsLong → value.HoldsLong := by
  induction h with
  | core _ => simp
  | opened hopens _ ih =>
      obtain ⟨kind, rfl, -⟩ := hopens
      intro layer hlayer hlong
      rcases List.mem_append.mp hlayer with hinner | houter
      · exact .item List.mem_cons_self (ih layer hinner hlong)
      · exact List.mem_singleton.mp houter ▸ hlong

/-! ## Lines of the log -/

/-- The line behind its time that reports a value of this text. -/
def failureLine (source : Channel → Text) (shown : Text) : Text :=
  logLine Severity.debug.name (source .formatting)
    ("Could not coerce ".toList ++ shown ++ " to a number".toList)

theorem logLines_uncoerced (source : Channel → Text) (layers : List Value) :
    logLines .debug source (layers.map .uncoerced) =
      layers.filterMap fun layer => layer.description.toOption.map (failureLine source) := by
  rw [logLines, List.filterMap_map]
  apply List.filterMap_congr
  intro layer _
  have hshown : Severity.rank .debug ≤ (Event.uncoerced layer).severity.rank := le_rfl
  rw [Function.comp_apply, if_pos hshown]
  cases hdescription : layer.description with
  | error fault => simp [Event.message?, hdescription, Except.toOption]
  | ok shown =>
      simp only [Event.message?, hdescription, Except.toOption, Option.map_some]
      rfl

/-- What lies inside a value that can be described can be described, so that no line is missing. -/
theorem HasLayers.length_logLines {shown : Text} (h : value.HasLayers layers)
    (hshown : value.description = .ok shown) (source : Channel → Text) :
    (logLines .debug source (layers.map .uncoerced)).length = layers.length := by
  rw [logLines_uncoerced, List.filterMap_length_eq_length]
  intro layer hlayer
  have hshort : ¬ layer.HoldsLong := by
    intro hlong
    rw [(failsIf_description value).fails (h.holdsLong layer hlayer hlong)] at hshown
    cases hshown
  obtain ⟨text, htext⟩ := (failsIf_description layer).succeeds hshort
  simp [htext, Except.toOption]

/-! ## Main result -/

/--
What is reported of a value that stands for `x`, where `outer` are the sequences that are opened on the
way to its core.  Only what can be described has a line in the log.
-/
structure ReportsFailure (value : Value) (x : Binary64) (core : Value) (outer : List Value) :
    Prop where
  debug : ∀ event ∈ value.toNumber.events,
    event.severity = .debug ∧ event.channel = .formatting
  number : x ≠ .nan → value.toNumber.events = []
  own : core.isOpen = false → core.nearestDouble? = some .nan →
    outer = [] ∧ value.toNumber.events = []
  failure : x = .nan → ¬ (core.isOpen = false ∧ core.nearestDouble? = some .nan) →
    value.toNumber.events = (core :: outer).map .uncoerced ∧
      ∀ source, logLines .debug source value.toNumber.events =
        (core :: outer).filterMap fun layer => layer.description.toOption.map (failureLine source)
  complete : x = .nan → ¬ (core.isOpen = false ∧ core.nearestDouble? = some .nan) →
    ∀ shown, value.description = .ok shown →
      ∀ source, (logLines .debug source value.toNumber.events).length = outer.length + 1

/-- A value without a number is reported once for its core and once for each sequence around that. -/
theorem exists_reportsFailure (h : value.toNumber.outcome = .ok x) :
    ∃ core outer, value.HasLayers (core :: outer) ∧ ReportsFailure value x core outer := by
  obtain ⟨core, outer, hlayers⟩ := value.exists_hasLayers
  have hevents := events_toNumber hlayers h
  have hreported (hnan : x = .nan)
      (hfailed : ¬ (core.isOpen = false ∧ core.nearestDouble? = some .nan)) :
      value.toNumber.events = (core :: outer).map .uncoerced := by
    rw [hevents, if_pos ⟨hnan, fun hown => hfailed (hlayers.core_eq_of_own hown)⟩]
  refine ⟨core, outer, hlayers, ?_⟩
  constructor
  case debug =>
    rw [hevents]
    split
    · simp only [List.forall_mem_map]
      exact fun _ _ => ⟨rfl, rfl⟩
    · exact nofun
  case number =>
    intro hnumber
    rw [hevents, if_neg (fun hnan => hnumber hnan.1)]
  case own =>
    intro hclosed hown
    obtain ⟨rfl, rfl⟩ := hlayers.eq_core hclosed
    exact ⟨rfl, by rw [hevents, if_neg (fun hnan => hnan.2 hown)]⟩
  case failure =>
    intro hnan hfailed
    rw [hreported hnan hfailed]
    exact ⟨rfl, fun source => logLines_uncoerced source (core :: outer)⟩
  case complete =>
    intro hnan hfailed shown hshown source
    rw [hreported hnan hfailed]
    exact hlayers.length_logLines hshown source

/-- Three lines for a text in a list in a tuple, the text first. -/
theorem exists_reportsFailure_of_tuple :
    (Value.sequence .tuple [.sequence .list [.text ['x']]]).toNumber.outcome = .ok .nan ∧
    logLines .debug (fun _ => "cells".toList)
        (Value.sequence .tuple [.sequence .list [.text ['x']]]).toNumber.events =
      ["DEBUG | cells | Could not coerce 'x' to a number".toList,
        "DEBUG | cells | Could not coerce ['x'] to a number".toList,
        "DEBUG | cells | Could not coerce (['x'],) to a number".toList] ∧
    ∃ core outer,
      HasLayers (.sequence .tuple [.sequence .list [.text ['x']]]) (core :: outer) ∧
      ReportsFailure (.sequence .tuple [.sequence .list [.text ['x']]]) .nan core outer := by
  have hnan : (Value.sequence .tuple [.sequence .list [.text ['x']]]).toNumber.outcome =
      .ok .nan := by
    decide +kernel
  exact ⟨hnan, by decide +kernel, exists_reportsFailure hnan⟩

end Value

end Scoreboard
