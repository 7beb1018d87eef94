/-!
# Machine words

Whole numbers in words of 64 bits, signed or unsigned. Arithmetic in words wraps around; a number that
fits is left as it is.
-/

namespace Scoreboard.Word

/-- The numbers that a machine word counts before it wraps around. -/
def size : Nat := 18446744073709551616

def fitsSigned (n : Int) : Bool := -(size / 2 : Nat) ≤ n && n < (size / 2 : Nat)

def fitsUnsigned (n : Int) : Bool := 0 ≤ n && n < size

def wrapSigned (n : Int) : Int := n.bmod size

def wrapUnsigned (n : Int) : Int := n % size

theorem wrapSigned_eq {n : Int} (h : fitsSigned n = true) : wrapSigned n = n := by
  obtain ⟨lower, upper⟩ := Bool.and_eq_true_iff.1 h
  have lower := of_decide_eq_true lower
  have upper := of_decide_eq_true upper
  exact Int.bmod_eq_of_le lower (by simpa [size] using upper)

theorem wrapUnsigned_eq {n : Int} (h : fitsUnsigned n = true) : wrapUnsigned n = n := by
  obtain ⟨lower, upper⟩ := Bool.and_eq_true_iff.1 h
  exact Int.emod_eq_of_lt (of_decide_eq_true lower) (of_decide_eq_true upper)

end Scoreboard.Word
