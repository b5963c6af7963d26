/-!
# Classes of characters given by ranges

A class of characters from a character database is a finite union of intervals of code points. It
is kept as the increasing list of its maximal intervals, and `Ranges.mem` walks that list until it
meets the first interval that does not lie wholly below the code point.
-/

namespace FaultDiagnosis.Text

/-- Disjoint intervals of code points in increasing order, both ends included. -/
abbrev Ranges := List (Nat × Nat)

namespace Ranges

/-- Membership of a code point. The intervals increase, so the first one that ends at or after the
point decides. -/
def mem : Ranges → Nat → Bool
  | [], _ => false
  | (first, last) :: rest, n => if n ≤ last then decide (first ≤ n) else mem rest n

/-- A member lies in one of the intervals. -/
theorem exists_of_mem {ranges : Ranges} {n : Nat} (h : ranges.mem n = true) :
    ∃ r ∈ ranges, r.1 ≤ n ∧ n ≤ r.2 := by
  induction ranges with
  | nil => simp [mem] at h
  | cons r rest ih =>
    obtain ⟨first, last⟩ := r
    rw [mem] at h
    split at h
    · exact ⟨(first, last), by simp, by simpa using h, by assumption⟩
    · obtain ⟨r, hr, hn⟩ := ih h
      exact ⟨r, by simp [hr], hn⟩

end Ranges

end FaultDiagnosis.Text
