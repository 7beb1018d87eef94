import Scoreboard.Value.Order

/-!
# Entries of mappings

A mapping has one entry for each key. Texts, byte strings, markers and plain objects are keys by what they
are, numbers of all kinds by their exact values, and tuples by their items.
-/

namespace Scoreboard.Value

/-- The exact places of the two parts of a number; those of a `nan` are not known. -/
def exactPlaces? (a : Value) : Option (NumberPlace × NumberPlace) := do
  return (← a.realPart.place?, ← a.imaginaryPart.place?)

mutual

/-- Whether two values are one key of a mapping. -/
def sameKey : Value → Value → Bool
  | .text s, .text t => s == t
  | .bytes s, .bytes t => s == t
  | .missing m, .missing n => m == n
  | .object a, .object b => a == b
  | .sequence .tuple xs, .sequence .tuple ys => sameKeys xs ys
  | a, b =>
      match a.exactPlaces?, b.exactPlaces? with
      | some p, some q => p.1.compare q.1 == .eq && p.2.compare q.2 == .eq
      | _, _ => false

def sameKeys : List Value → List Value → Bool
  | [], [] => true
  | x :: xs, y :: ys => sameKey x y && sameKeys xs ys
  | _, _ => false

end

def putEntry (key value : Value) : List (Value × Value) → List (Value × Value)
  | [] => [(key, value)]
  | (known, old) :: rest =>
      if known.sameKey key then (known, value) :: rest else (known, old) :: putEntry key value rest

/-- A mapping from entries in order, in which a later value of a key replaces an earlier one. -/
def ofEntries (entries : List (Value × Value)) : Value :=
  .mapping (entries.foldl (fun known entry => putEntry entry.1 entry.2 known) [])

def entry? (entries : List (Value × Value)) (key : Value) : Option Value :=
  (entries.find? fun entry => entry.1.sameKey key).map (·.2)

end Scoreboard.Value
