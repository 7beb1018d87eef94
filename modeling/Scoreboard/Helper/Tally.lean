import Scoreboard.Helper.Id

/-!
# Tallies

A tally holds one count for each helper, in the order in which the helpers came up. Counting a helper
again replaces the count and keeps its place and the spelling of its id.
-/

namespace Scoreboard

namespace Tally

/-- Replaces the count of the helper, or adds the helper at the end. -/
def put (id : HelperId) (count : Value) : List (HelperId × Value) → List (HelperId × Value)
  | [] => [(id, count)]
  | (key, old) :: rest =>
      if key.identity = id.identity then (key, count) :: rest else (key, old) :: put id count rest

def identities (entries : List (HelperId × Value)) : List HelperId :=
  entries.map fun entry => entry.1.identity

theorem identities_put_of_mem {id : HelperId} {count : Value} {entries : List (HelperId × Value)}
    (h : id.identity ∈ identities entries) :
    identities (put id count entries) = identities entries := by
  induction entries with
  | nil => simp [identities] at h
  | cons entry rest ih =>
      by_cases same : entry.1.identity = id.identity
      · simp [put, same, identities]
      · simp only [identities, List.map_cons, List.mem_cons] at h
        have := ih (h.resolve_left (Ne.symm same))
        simpa [put, same, identities] using this

theorem identities_put_of_not_mem {id : HelperId} {count : Value}
    {entries : List (HelperId × Value)} (h : id.identity ∉ identities entries) :
    identities (put id count entries) = identities entries ++ [id.identity] := by
  induction entries with
  | nil => rfl
  | cons entry rest ih =>
      simp only [identities, List.map_cons, List.mem_cons, not_or] at h
      have := ih h.2
      simpa [put, Ne.symm h.1, identities] using this

theorem nodup_identities_put {id : HelperId} {count : Value} {entries : List (HelperId × Value)}
    (h : (identities entries).Nodup) : (identities (put id count entries)).Nodup := by
  by_cases known : id.identity ∈ identities entries
  · rwa [identities_put_of_mem known]
  · rw [identities_put_of_not_mem known, List.nodup_append]
    refine ⟨h, by simp, ?_⟩
    rintro a ha b hb rfl
    simp at hb
    exact known (hb ▸ ha)

end Tally

structure Tally where
  entries : List (HelperId × Value)
  distinct : (Tally.identities entries).Nodup

namespace Tally

def empty : Tally := ⟨[], by simp [identities]⟩

def insert (tally : Tally) (entry : HelperId × Value) : Tally :=
  ⟨put entry.1 entry.2 tally.entries, nodup_identities_put tally.distinct⟩

/-- The tally after counts that come one after the other. -/
def ofList (entries : List (HelperId × Value)) : Tally := entries.foldl insert empty

def helpers (tally : Tally) : List HelperId := tally.entries.map (·.1)

def contains (tally : Tally) (id : HelperId) : Bool :=
  tally.helpers.any fun key => key.identity = id.identity

/-- The count of a helper; a helper that never came up counts zero. -/
def count (tally : Tally) (id : HelperId) : Value :=
  match tally.entries.find? fun entry => entry.1.identity = id.identity with
  | some entry => entry.2
  | none => .int 0

/-- The helpers of two tallies, those of the second one behind, without those of the first. -/
def union (first second : Tally) : List HelperId :=
  first.helpers ++ second.helpers.filter fun id => !first.contains id

end Tally

end Scoreboard
