/-!
# White space and words

A program file and a command line are both read as words: maximal runs of characters that
are not white space.  White space is the Unicode property `White_Space`, twenty-five
characters that reach well beyond ASCII, so the property is kept as a table.

* `isBlank`: the property; `isBlank_of_isWhitespace` says that it contains the ASCII class
  of the core library.
* `words`: the words of a text in order; no word is empty (`ne_nil_of_mem_splitWords`).
* `trim`: a text without the white space at its two ends.
-/

namespace RegisterVM.Text

/-- The characters with the Unicode property `White_Space`. -/
def blanks : List Char :=
  ['\t', '\n', '\u000b', '\u000c', '\r', ' ', '\u0085', '\u00a0', '\u1680', '\u2000', '\u2001',
    '\u2002', '\u2003', '\u2004', '\u2005', '\u2006', '\u2007', '\u2008', '\u2009', '\u200a',
    '\u2028', '\u2029', '\u202f', '\u205f', '\u3000']

/-- Membership in `White_Space`. -/
def isBlank (c : Char) : Bool := blanks.contains c

/-- The words of a list of characters: what stands between blanks, the empty pieces left
out. -/
def splitWords (cs : List Char) : List (List Char) :=
  (cs.splitOnP isBlank).filter fun w => !w.isEmpty

/-- The words of a text, in order. -/
def words (text : String) : List String :=
  (splitWords text.toList).map String.ofList

/-- The characters without the blanks at the front and at the back. -/
def trimBlanks (cs : List Char) : List Char :=
  ((cs.dropWhile isBlank).reverse.dropWhile isBlank).reverse

/-- The text without the blanks at its two ends. -/
def trim (text : String) : String :=
  String.ofList (trimBlanks text.toList)

theorem isBlank_of_isWhitespace {c : Char} (h : c.isWhitespace = true) : isBlank c = true := by
  simp only [Char.isWhitespace, Bool.or_eq_true, decide_eq_true_eq] at h
  rcases h with ((rfl | rfl) | rfl) | rfl <;> decide

theorem length_blanks : blanks.length = 25 := rfl

theorem ne_nil_of_mem_splitWords {cs w : List Char} (h : w ∈ splitWords cs) : w ≠ [] := by
  rintro rfl
  simp [splitWords] at h

end RegisterVM.Text
