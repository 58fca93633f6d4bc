/-!
# Command input

The command input is a stream of bytes, read line by line.  Each line is decoded for itself,
so a line that is not UTF-8 does not harm the lines in front of it.

* `cutLines`: a list of bytes cut behind every line feed (`flatten_cutLines`).
* `InputLine.ofBytes`: the lines of the input.
-/

namespace RegisterVM

/-- A line of the command input. -/
inductive InputLine where
  /-- A line with the line feed at its end, if it has one. -/
  | text (line : String)
  /-- A line that is not UTF-8. -/
  | undecodable
  deriving DecidableEq, Repr

/-- The bytes cut behind every line feed.  What follows the last one is a line when it is
not empty. -/
def cutLines : List UInt8 → List (List UInt8)
  | [] => []
  | b :: bs =>
      if b = 10 then [b] :: cutLines bs
      else
        match cutLines bs with
        | [] => [[b]]
        | line :: lines => (b :: line) :: lines

/-- The line that some bytes spell. -/
def InputLine.ofLineBytes (bytes : ByteArray) : InputLine :=
  match String.fromUTF8? bytes with
  | some line => .text line
  | none => .undecodable

/-- The lines of the command input. -/
def InputLine.ofBytes (bytes : ByteArray) : List InputLine :=
  (cutLines bytes.toList).map fun line => .ofLineBytes (ByteArray.mk line.toArray)

/-- The lines make up the input. -/
theorem flatten_cutLines (bs : List UInt8) : (cutLines bs).flatten = bs := by
  induction bs with
  | nil => rfl
  | cons b bs ih =>
    unfold cutLines
    split
    · simp [ih]
    · split
      · next h =>
        rw [h] at ih
        rw [← ih]
        rfl
      · next h =>
        rw [h] at ih
        rw [← ih]
        rfl

/-- No line is empty. -/
theorem ne_nil_of_mem_cutLines {bs line : List UInt8} (h : line ∈ cutLines bs) :
    line ≠ [] := by
  induction bs generalizing line with
  | nil => simp [cutLines] at h
  | cons b bs ih =>
    unfold cutLines at h
    split at h
    · rcases List.mem_cons.mp h with rfl | h
      · simp
      · exact ih h
    · split at h
      · simp at h
        simp [h]
      · next first more eq =>
        rcases List.mem_cons.mp h with rfl | h
        · simp
        · exact ih (eq ▸ List.mem_cons_of_mem _ h)

end RegisterVM
