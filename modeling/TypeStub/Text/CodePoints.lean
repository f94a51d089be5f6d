/-!
# Sets of code points

Character classes are tables of closed intervals in ascending order.  The order
lets a search stop at the first interval that does not end below the code point,
so an ASCII character is settled within the first few entries.
`covers_eq_true_iff` says that stopping early loses nothing.
-/

namespace TypeStub
namespace Text

/-- Whether a code point lies in one of the intervals of an ascending table. -/
def covers : List (Nat × Nat) → Nat → Bool
  | [], _ => false
  | (low, high) :: rest, n => if n ≤ high then decide (low ≤ n) else covers rest n

/-- The intervals are not empty, start no lower than `bound`, and each starts
above the end of the one before. -/
def ascendFrom : Nat → List (Nat × Nat) → Bool
  | _, [] => true
  | bound, (low, high) :: rest =>
    decide (bound ≤ low) && decide (low ≤ high) && ascendFrom (high + 1) rest

theorem le_of_ascendFrom {table : List (Nat × Nat)} {bound : Nat}
    (h : ascendFrom bound table = true) : ∀ range ∈ table, bound ≤ range.1 := by
  induction table generalizing bound with
  | nil => intro range hr; cases hr
  | cons first rest ih =>
    obtain ⟨low, high⟩ := first
    simp only [ascendFrom, Bool.and_eq_true, decide_eq_true_eq] at h
    obtain ⟨⟨hbound, hle⟩, hrest⟩ := h
    intro range hr
    rcases List.mem_cons.mp hr with rfl | hr
    · exact hbound
    · have := ih hrest range hr
      omega

/-- In an ascending table the early stop finds exactly the covered points. -/
theorem covers_eq_true_iff {table : List (Nat × Nat)} {bound : Nat}
    (h : ascendFrom bound table = true) (n : Nat) :
    covers table n = true ↔ ∃ range ∈ table, range.1 ≤ n ∧ n ≤ range.2 := by
  induction table generalizing bound with
  | nil => simp [covers]
  | cons first rest ih =>
    obtain ⟨low, high⟩ := first
    simp only [ascendFrom, Bool.and_eq_true, decide_eq_true_eq] at h
    have hrest := h.2
    by_cases hn : n ≤ high
    · have hlater : ¬ ∃ range ∈ rest, range.1 ≤ n ∧ n ≤ range.2 := by
        rintro ⟨range, hr, hlow, _⟩
        have := le_of_ascendFrom hrest range hr
        omega
      simp only [covers, hn, if_true, decide_eq_true_eq, List.mem_cons, exists_eq_or_imp, hlater,
        and_true, or_false]
    · simp only [covers, hn, if_false, ih hrest, List.mem_cons, exists_eq_or_imp, and_false,
        false_or]

end Text
end TypeStub
