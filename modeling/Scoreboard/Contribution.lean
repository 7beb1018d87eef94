import Scoreboard.Frame.Basic
import Scoreboard.Helper.Key
import Scoreboard.Helper.Tally

/-!
# Contributions of helpers

Two tallies, of tiles updated and of tiles solved, give one row for each helper of either. A row shows
the share of all solved tiles, where the total is a sum in the storage of the solved column and may wrap.
Rows come by solved tiles, the greatest count first, and by the order of helpers among equal counts.
-/

namespace Scoreboard

structure Contribution where
  helper : Text
  updated : Nat
  solved : Nat
  share : Binary64
  deriving DecidableEq, Repr

namespace Contribution

/--
The share of a count in the total, zero if the total is not positive. Machine words are rounded to
doubles before they are divided; unlimited integers are divided exactly and rounded once.
-/
def shareOf (storage : Storage) (total : Int) (count : Nat) : Binary64 :=
  if total ≤ 0 then .zero
  else
    match storage with
    | .objects => .ofRatio false count total.toNat
    | _ => (Binary64.ofRatio false count 1).div (.ofRatio false total.toNat 1)

def countsOf (tally : Tally) (helpers : List HelperId) : Except Fault (List Int) :=
  helpers.mapM fun id => (tally.count id).toInteger

/-- The rows of counts that are known not to be negative, in the order of the helpers. -/
def unordered (helpers : List Text) (updated solved : List Nat) : List Contribution :=
  let counts : List Int := solved.map Int.ofNat
  let storage := Storage.ofIntegers counts
  let total := storage.sum counts
  (helpers.zip (updated.zip solved)).map fun (helper, updated, solved) =>
    ⟨helper, updated, solved, shareOf storage total solved⟩

def bySolved (rows : List Contribution) : List Contribution :=
  inOrder (fun a b => b.solved ≤ a.solved) rows

end Contribution

/-- The rows of all helpers, for which every id needs a place and every count a whole number. -/
def contributions (updated solved : Tally) : Except Fault (List Contribution) := do
  let helpers ← HelperKey.sortItems (fun id => HelperKey.ofValue id.toValue) (updated.union solved)
  let ids := helpers.map (·.2)
  let updatedCounts ← Contribution.countsOf updated ids
  let solvedCounts ← Contribution.countsOf solved ids
  if (updatedCounts ++ solvedCounts).any (· < 0) then .error .negativeContribution
  return Contribution.bySolved <|
    Contribution.unordered (helpers.map (·.1.text)) (updatedCounts.map Int.toNat)
      (solvedCounts.map Int.toNat)

/-! ## Contributions as a frame -/

def helperName : Text := "helper_id".toList

def shareName : Text := "solved_share".toList

def contributionNames : List Text := [helperName, updatedName, solvedName, shareName]

def Frame.ofContributions (rows : List Contribution) : Frame where
  columns := [
    Column.inferred helperName (rows.map fun row => .text row.helper),
    Column.ofIntegers updatedName (rows.map fun row => row.updated),
    Column.ofIntegers solvedName (rows.map fun row => row.solved),
    Column.inferred shareName (rows.map fun row => .float row.share)]

end Scoreboard
