/-!
# Ranges of characters

A class of characters is kept as a table of ranges of code points in ascending order, with
both ends included.

* `inRanges`: a range of the table holds the code point.  The search stops at the first range
  that begins behind the code point, so that it is short for the letters of a program text.
* `inRanges_iff`: in an ascending table nothing is missed by that.
-/

namespace RegisterVM.Text

/-- A range of the table holds the code point. -/
def inRanges : List (Nat × Nat) → Nat → Bool
  | [], _ => false
  | range :: ranges, n => range.1 ≤ n && (n ≤ range.2 || inRanges ranges n)

theorem inRanges_iff {ranges : List (Nat × Nat)} {n : Nat}
    (h : ranges.Pairwise fun a b => a.1 ≤ b.1) :
    inRanges ranges n = true ↔ ∃ range ∈ ranges, range.1 ≤ n ∧ n ≤ range.2 := by
  induction ranges with
  | nil => simp [inRanges]
  | cons range ranges ih =>
      obtain ⟨first, rest⟩ := List.pairwise_cons.1 h
      simp only [inRanges, Bool.and_eq_true, Bool.or_eq_true, decide_eq_true_eq, ih rest,
        List.mem_cons, or_and_right, exists_or, exists_eq_left]
      constructor
      · rintro ⟨h1, h2 | h2⟩
        · exact .inl ⟨h1, h2⟩
        · exact .inr h2
      · rintro (⟨h1, h2⟩ | ⟨r, hr, h1, h2⟩)
        · exact ⟨h1, .inl h2⟩
        · exact ⟨Nat.le_trans (first r hr) h1, .inr ⟨r, hr, h1, h2⟩⟩

/-- Before the first range there is nothing. -/
theorem inRanges_of_lt {range : Nat × Nat} {ranges : List (Nat × Nat)} {n : Nat}
    (h : n < range.1) : inRanges (range :: ranges) n = false := by
  simp [inRanges, Nat.not_le.2 h]

end RegisterVM.Text
