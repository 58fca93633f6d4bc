import RegisterVM.Text.Blank
import RegisterVM.Text.Lines

/-!
# The lines of whole lines

A text that was put together from unbroken lines is cut into these lines again, whatever follows
it: nothing is joined, and no empty line appears or gets lost.

* `Unbroken`: characters among which nothing ends a line.
* `lines_line_append`, `lines_unlines_append`: the lines of such a text and of what follows it.
* `lines_unlines`: cutting inverts putting together.
* `getElem?_lines_intercalate`: lines that were joined by line feeds, with none behind the last one.
-/

namespace RegisterVM.Text

/-! ## Unbroken lines -/

/-- There is no line feed among the characters, and no carriage return. -/
def Unbroken (cs : List Char) : Prop := '\n' ∉ cs ∧ '\r' ∉ cs

instance (cs : List Char) : Decidable (Unbroken cs) := inferInstanceAs (Decidable (_ ∧ _))

theorem unbroken_append_iff {cs ds : List Char} :
    Unbroken (cs ++ ds) ↔ Unbroken cs ∧ Unbroken ds := by
  simp only [Unbroken, List.mem_append, not_or]
  exact and_and_and_comm

/-- Characters of a kind to which neither of the two belongs are unbroken. -/
theorem unbroken_of_forall {p : Char → Prop} {cs : List Char} (h : ∀ c ∈ cs, p c)
    (feed : ¬ p '\n') (carriage : ¬ p '\r') : Unbroken cs :=
  ⟨fun mem => feed (h '\n' mem), fun mem => carriage (h '\r' mem)⟩

/-- What ends a line is a blank. -/
theorem unbroken_of_no_blank {cs : List Char} (solid : ∀ c ∈ cs, isBlank c = false) :
    Unbroken cs :=
  unbroken_of_forall solid (by decide) (by decide)

theorem Unbroken.dropReturn {cs : List Char} (h : Unbroken cs) : dropReturn cs = cs := by
  rw [Text.dropReturn, if_neg]
  exact fun last => h.2 (List.mem_of_getLast? last)

/-! ## Whole lines -/

/-- A line in front of a text is the first of its lines. -/
theorem splitLines_append {cs : List Char} (unbroken : Unbroken cs) (rest : List Char) :
    splitLines (cs ++ '\n' :: rest) = cs :: splitLines rest := by
  obtain ⟨piece, pieces, eq⟩ := List.exists_cons_of_ne_nil (List.splitOn_ne_nil '\n' rest)
  rw [splitLines, splitLines, List.splitOn_append_cons_self_of_not_mem unbroken.1 rest, eq,
    List.getLast?_cons_cons, List.dropLast_cons_cons, List.map_cons, unbroken.dropReturn,
    List.cons_append]

theorem lines_line_append {text : String} (unbroken : Unbroken text.toList) (rest : String) :
    lines (line text ++ rest) = text :: lines rest := by
  have chars : (line text ++ rest).toList = text.toList ++ '\n' :: rest.toList := by
    simp [line]
  rw [lines, chars, splitLines_append unbroken, List.map_cons, String.ofList_toList]
  rfl

@[simp] theorem lines_empty : lines "" = [] := rfl

@[simp] theorem unlines_nil : unlines [] = "" := rfl

theorem unlines_cons (text : String) (ls : List String) :
    unlines (text :: ls) = line text ++ unlines ls := by
  simp [unlines]

theorem unlines_append (ls more : List String) :
    unlines (ls ++ more) = unlines ls ++ unlines more := by
  simp [unlines, String.join_append]

theorem lines_unlines_append {ls : List String} (unbroken : ∀ l ∈ ls, Unbroken l.toList)
    (rest : String) : lines (unlines ls ++ rest) = ls ++ lines rest := by
  induction ls with
  | nil => rw [unlines_nil, String.empty_append, List.nil_append]
  | cons l ls ih =>
    rw [List.forall_mem_cons] at unbroken
    rw [unlines_cons, String.append_assoc, lines_line_append unbroken.1, ih unbroken.2,
      List.cons_append]

/-- Lines that were put together come apart again. -/
theorem lines_unlines {ls : List String} (unbroken : ∀ l ∈ ls, Unbroken l.toList) :
    lines (unlines ls) = ls := by
  have apart := lines_unlines_append unbroken ""
  rwa [String.append_empty, lines_empty, List.append_nil] at apart

/-- A carriage return belongs to the end of a line only in front of a line feed. -/
example : lines "a\r\n\nb\rc\r" = ["a", "", "b\rc\r"] := by decide +kernel

/-! ## Joined lines -/

/-- A text without an end of line is a single line, unless it is empty. -/
theorem lines_of_unbroken {text : String} (unbroken : Unbroken text.toList) :
    lines text = if text = "" then [] else [text] := by
  rw [lines, splitLines, List.splitOn_eq_singleton unbroken.1]
  split
  · next empty =>
    rw [empty]
    rfl
  · next some =>
    have ne : text.toList ≠ [] := fun eq => some (String.toList_inj.mp eq)
    simp [ne]

/-- Lines that were joined by line feeds come apart again, but for an empty one at the end, which
nothing tells from no line. -/
theorem getElem?_lines_intercalate {ls : List String} (unbroken : ∀ l ∈ ls, Unbroken l.toList)
    (j : Nat) : (lines ("\n".intercalate ls))[j]?.getD "" = ls[j]?.getD "" := by
  induction ls generalizing j with
  | nil => rfl
  | cons l ls ih =>
    rw [List.forall_mem_cons] at unbroken
    cases ls with
    | nil =>
      have joined : "\n".intercalate [l] = l := by simp
      rw [joined, lines_of_unbroken unbroken.1]
      split
      · next empty =>
        rw [empty]
        cases j <;> rfl
      · rfl
    | cons l' ls =>
      have joined : "\n".intercalate (l :: l' :: ls) = line l ++ "\n".intercalate (l' :: ls) := by
        simp [String.intercalate_cons_cons, line, String.append_assoc]
      rw [joined, lines_line_append unbroken.1]
      cases j with
      | zero => rfl
      | succ j => exact ih unbroken.2 j

end RegisterVM.Text
