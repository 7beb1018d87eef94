import Scoreboard.Journal

/-!
# Loggers

Loggers form a tree below one root. A logger's parent is the nearest logger that its dotted name leads
to. A logger without a level of its own has that of the nearest logger above it with one. A record
passes if its level reaches that of its logger, and then every handler of the logger and of all loggers
above it writes a line; where there is no handler at all, warnings are written bare. Whether a level
passes is decided once and holds, wherever the logger comes to stand, until a level is set in the tree.
-/

namespace Scoreboard

def logFormat : Text := "%(asctime)s | %(levelname)s | %(name)s | %(message)s".toList

def rootName : Text := "root".toList

/--
Level zero is no level. A logger has one handler for each of its formats, and knows for some levels
whether they pass.
-/
structure Logger where
  name : Text
  parent : Text
  level : Int
  formats : List Text
  decided : List (Int × Bool)
  deriving DecidableEq, Repr

/-- The root starts at the level of warnings, and keeps its own name as its parent's. -/
structure LoggerTree where
  root : Logger
  loggers : List Logger
  deriving DecidableEq, Repr

namespace LoggerTree

def fresh : LoggerTree where
  root := ⟨rootName, rootName, Severity.warning.rank, [], []⟩
  loggers := []

/-- The root goes by its own name and by no name. -/
def nameOf (name : Text) : Text := if name = [] then rootName else name

/--
The names that a dotted name leads to, nearest first, from the name written backwards. A name ends before
a dot; the character before that dot belongs to it even if it is a dot.
-/
def forebearsBackwards : Text → List Text
  | [] => []
  | '.' :: c :: rest => (c :: rest).reverse :: forebearsBackwards rest
  | _ :: rest => forebearsBackwards rest

def forebears (name : Text) : List Text := forebearsBackwards name.reverse

def find? (tree : LoggerTree) (name : Text) : Option Logger :=
  if name = rootName then some tree.root else tree.loggers.find? fun logger => logger.name = name

/-- The nearest logger that the name leads to. -/
def parentOf (tree : LoggerTree) (name : Text) : Text :=
  ((forebears name).find? fun forebear => tree.loggers.any fun logger => logger.name = forebear).getD
    rootName

/--
A new logger takes over the loggers whose names lead to it, except those below a logger whose name begins
with its own.
-/
def adopted (parent : Text) (logger : Logger) : Logger :=
  if parent ∈ forebears logger.name ∧ ¬ parent.isPrefixOf logger.parent then
    { logger with parent := parent }
  else logger

/-- The tree with a logger of this name. -/
def ensured (tree : LoggerTree) (name : Text) : LoggerTree :=
  if (tree.find? name).isSome then tree
  else
    { tree with
      loggers := tree.loggers.map (adopted name) ++ [⟨name, tree.parentOf name, 0, [], []⟩] }

/-- The logger of this name and the loggers above it; parents have shorter names, so `fuel` suffices. -/
def lineage (tree : LoggerTree) : Nat → Text → List Logger
  | 0, _ => [tree.root]
  | fuel + 1, name =>
      if name = rootName then [tree.root]
      else
        match tree.find? name with
        | none => [tree.root]
        | some logger => logger :: tree.lineage fuel logger.parent

def line (tree : LoggerTree) (name : Text) : List Logger := tree.lineage name.length name

/-- The level that decides for the first of these loggers. -/
def effectiveLevel : List Logger → Int
  | [] => 0
  | logger :: above => if logger.level ≠ 0 then logger.level else effectiveLevel above

def updated (tree : LoggerTree) (name : Text) (change : Logger → Logger) : LoggerTree :=
  if name = rootName then { tree with root := change tree.root }
  else
    { tree with
      loggers := tree.loggers.map fun logger =>
        if logger.name = name then change logger else logger }

def equipped (level : Int) (logger : Logger) : Logger :=
  { logger with level := level, formats := [logFormat] }

def isEquipped (tree : LoggerTree) (name : Text) : Bool :=
  (tree.find? name).any fun logger => logger.formats ≠ []

def undecided (tree : LoggerTree) : LoggerTree where
  root := { tree.root with decided := [] }
  loggers := tree.loggers.map fun logger => { logger with decided := [] }

def get (tree : LoggerTree) (name : Text) (level : Int) : LoggerTree :=
  let name := nameOf name
  let tree := tree.ensured name
  if tree.isEquipped name then tree else (tree.updated name (equipped level)).undecided

end LoggerTree

def defaultLevel : Int := Severity.info.rank

def levelName (level : Int) : Text :=
  if level = 0 then "NOTSET".toList
  else if level = 10 then "DEBUG".toList
  else if level = 20 then "INFO".toList
  else if level = 30 then "WARNING".toList
  else if level = 40 then "ERROR".toList
  else if level = 50 then "CRITICAL".toList
  else "Level ".toList ++ .ofInt level

namespace LoggerTree

/-- Positive levels pass that reach the effective one. -/
def isEnabled (loggers : List Logger) (level : Int) : Bool :=
  0 < level && effectiveLevel loggers ≤ level

/-- What the first of these loggers has decided on a level, or decides now. -/
def decision (loggers : List Logger) (level : Int) : Bool :=
  (loggers.head?.bind fun logger => logger.decided.lookup level).getD (isEnabled loggers level)

def deciding (level : Int) (passes : Bool) (logger : Logger) : Logger :=
  { logger with decided := (level, passes) :: logger.decided }

/-- The lines of a record that passes, without their time. -/
def recordLines (loggers : List Logger) (name : Text) (level : Int) (message : Text) : List Text :=
  match loggers.flatMap (·.formats) with
  | [] => if Severity.warning.rank ≤ level then [message] else []
  | formats => formats.map fun _ => logLine (levelName level) name message

/-- The lines of a record on the logger of this name, which comes to be if it is new. -/
def emit (tree : LoggerTree) (name : Text) (level : Int) (message : Text) :
    LoggerTree × List Text :=
  let name := nameOf name
  let tree := tree.ensured name
  let loggers := tree.line name
  let passes := decision loggers level
  (tree.updated name (deciding level passes),
    if passes then recordLines loggers name level message else [])

end LoggerTree

end Scoreboard
