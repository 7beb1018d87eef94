import Scoreboard.Value.Printer

/-!
# Computations that keep a journal

Some steps leave an event behind for the log: a value that stood for no number, a formatted table, a
built report. A traced computation holds its events in order beside its outcome, and keeps them when
it fails. Which events a log shows is decided when it is written, by their severity.
-/

namespace Scoreboard

/-- Severities, from the least to the greatest. -/
inductive Severity where
  | debug
  | info
  | warning
  | error
  deriving DecidableEq, Repr

namespace Severity

def rank : Severity → Nat
  | debug => 10
  | info => 20
  | warning => 30
  | error => 40

def name : Severity → Text
  | debug => "DEBUG".toList
  | info => "INFO".toList
  | warning => "WARNING".toList
  | error => "ERROR".toList

end Severity

/-- The part of the dashboard that an event comes from. -/
inductive Channel where
  | formatting
  | reporting
  deriving DecidableEq, Repr

inductive Event where
  | uncoerced (value : Value)
  | tableFormatted (rows : Nat)
  | reportBuilt (sections : Nat)
  deriving Repr

namespace Event

def severity : Event → Severity
  | uncoerced _ => .debug
  | tableFormatted _ | reportBuilt _ => .info

def channel : Event → Channel
  | uncoerced _ => .formatting
  | tableFormatted _ | reportBuilt _ => .reporting

/-- The message, unless the value it would name has no text. -/
def message? : Event → Option Text
  | uncoerced value =>
      match value.description with
      | .ok shown => some ("Could not coerce ".toList ++ shown ++ " to a number".toList)
      | .error _ => none
  | tableFormatted rows =>
      some ("Formatted contribution table with ".toList ++ .ofNat rows ++ " helpers".toList)
  | reportBuilt sections =>
      some ("Built report with ".toList ++ .ofNat sections ++ " sections".toList)

end Event

/-- The layout of a log line behind its time. -/
def logLine (severity source message : Text) : Text :=
  severity ++ " | ".toList ++ source ++ " | ".toList ++ message

/-- The lines of a log that shows events of the threshold's severity and above. -/
def logLines (threshold : Severity) (source : Channel → Text) (events : List Event) : List Text :=
  events.filterMap fun event =>
    if threshold.rank ≤ event.severity.rank then
      event.message?.map (logLine event.severity.name (source event.channel))
    else none

structure Traced (α : Type) where
  events : List Event
  outcome : Except Fault α

namespace Traced

variable {α β : Type}

def ofExcept (outcome : Except Fault α) : Traced α := ⟨[], outcome⟩

def note (event : Event) : Traced Unit := ⟨[event], .ok ()⟩

def andThen (first : Traced α) (next : α → Traced β) : Traced β :=
  match first.outcome with
  | .error fault => ⟨first.events, .error fault⟩
  | .ok a =>
      let second := next a
      ⟨first.events ++ second.events, second.outcome⟩

instance : Monad Traced where
  pure a := ⟨[], .ok a⟩
  bind := andThen

instance : MonadLift (Except Fault) Traced where
  monadLift := ofExcept

theorem pure_def (a : α) : (pure a : Traced α) = ⟨[], .ok a⟩ := rfl

theorem bind_def (first : Traced α) (next : α → Traced β) :
    first >>= next = first.andThen next := rfl

instance : LawfulMonad Traced := .mk' _
  (fun x => by
    obtain ⟨events, outcome⟩ := x
    cases outcome <;> simp [Functor.map, andThen])
  (fun a next => by simp [bind_def, pure_def, andThen])
  (fun x next last => by
    obtain ⟨events, outcome⟩ := x
    cases outcome with
    | error fault => rfl
    | ok a =>
        simp only [bind_def, andThen]
        cases (next a).outcome <;> simp)

end Traced

end Scoreboard
