import Mathlib.Data.List.DropRight
import RegisterVM.Debugger.Command
import RegisterVM.Text.Numeral

/-!
# The words of a line

A blank separates: the words of two texts with a blank between them are the words of the one
and then the words of the other.  So a line feed at the end of a command line does not change
the command, and a name followed by a number is two words.

* `splitWords_append_blank`, `splitWords_of_no_blank`: the two rules that give the words of any
  text; `splitWords_blanks_append`, `splitWords_token_append` take the first word off it.
* `isBlank_of_mem_splitWords`, `trimBlanks_of_no_blank`: a word has no blanks in it, and then there
  is nothing to trim; `trimBlanks_append_of_blank` trims the blanks behind a word.
* `trimBlanks_trimBlanks`, `trim_decimal`: a trimmed text has no blanks at its ends, and neither
  has a number.
* `words_numbered`, `Command.ofLine_numbered`: a word and a number.
* `Command.ofLine_line`: the line feed at the end of a command line means nothing.
-/

namespace RegisterVM.Text

/-- A blank between two texts separates their words. -/
theorem splitWords_append_blank (cs ds : List Char) {b : Char} (hb : isBlank b = true) :
    splitWords (cs ++ b :: ds) = splitWords cs ++ splitWords ds := by
  rw [splitWords, List.splitOnP_append_cons cs ds hb, List.filter_append]
  rfl

theorem splitWords_nil : splitWords [] = [] := rfl

/-- A text without blanks is one word. -/
theorem splitWords_of_no_blank {cs : List Char} (ne : cs ≠ [])
    (h : ∀ c ∈ cs, isBlank c = false) : splitWords cs = [cs] := by
  rw [splitWords, List.splitOnP_eq_singleton h, List.filter_cons_of_pos (by simpa using ne)]
  rfl

/-- Blanks in front of a text separate nothing. -/
theorem splitWords_blanks_append {gap : List Char} (blank : ∀ c ∈ gap, isBlank c = true)
    (cs : List Char) : splitWords (gap ++ cs) = splitWords cs := by
  induction gap with
  | nil => rfl
  | cons b gap ih =>
    rw [List.forall_mem_cons] at blank
    exact (splitWords_append_blank [] (gap ++ cs) blank.1).trans (ih blank.2)

/-- A token ends where a blank or the text ends. -/
theorem splitWords_token_append {token rest : List Char} (ne : token ≠ [])
    (clean : ∀ c ∈ token, isBlank c = false) (ends : ∀ c ∈ rest.head?, isBlank c = true) :
    splitWords (token ++ rest) = token :: splitWords rest := by
  cases rest with
  | nil => rw [List.append_nil, splitWords_of_no_blank ne clean, splitWords_nil]
  | cons b rest =>
    have hb : isBlank b = true := ends b rfl
    have behind : splitWords (b :: rest) = splitWords rest := splitWords_append_blank [] rest hb
    rw [splitWords_append_blank token rest hb, splitWords_of_no_blank ne clean, behind]
    rfl

/-- What stands between two blanks holds none. -/
theorem isBlank_of_mem_splitOnP {cs piece : List Char} (mem : piece ∈ cs.splitOnP isBlank) :
    ∀ c ∈ piece, isBlank c = false := by
  induction cs generalizing piece with
  | nil =>
    rw [List.splitOnP_nil, List.mem_singleton] at mem
    rw [mem]
    exact List.forall_mem_nil _
  | cons d ds ih =>
    rw [List.splitOnP_cons_eq_if_modifyHead] at mem
    split at mem
    · rcases List.mem_cons.mp mem with rfl | mem
      · exact List.forall_mem_nil _
      · exact ih mem
    · next solid =>
      obtain ⟨first, pieces, eq⟩ := List.exists_cons_of_ne_nil (List.splitOnP_ne_nil isBlank ds)
      rw [eq] at ih mem
      rcases List.mem_cons.mp mem with rfl | mem
      · exact List.forall_mem_cons.mpr ⟨Bool.eq_false_iff.mpr solid, ih List.mem_cons_self⟩
      · exact ih (List.mem_cons_of_mem first mem)

/-- No word has a blank in it. -/
theorem isBlank_of_mem_splitWords {cs w : List Char} (mem : w ∈ splitWords cs) :
    ∀ c ∈ w, isBlank c = false :=
  isBlank_of_mem_splitOnP (List.mem_filter.mp mem).1

theorem dropWhile_isBlank_of_no_blank {cs : List Char} (h : ∀ c ∈ cs, isBlank c = false) :
    cs.dropWhile isBlank = cs := by
  cases cs with
  | nil => rfl
  | cons c cs =>
    have solid : isBlank c = false := h c List.mem_cons_self
    exact List.dropWhile_cons_of_neg (by simp [solid])

/-- The blanks behind a text without blanks are all that there is to trim. -/
theorem trimBlanks_append_of_blank {cs gap : List Char} (clean : ∀ c ∈ cs, isBlank c = false)
    (blank : ∀ c ∈ gap, isBlank c = true) : trimBlanks (cs ++ gap) = cs := by
  have back : (cs ++ gap).reverse.dropWhile isBlank = cs.reverse := by
    rw [List.reverse_append,
      List.dropWhile_append_of_pos fun c mem => blank c (List.mem_reverse.mp mem),
      dropWhile_isBlank_of_no_blank fun c mem => clean c (List.mem_reverse.mp mem)]
  cases cs with
  | nil =>
    have nothing : gap.dropWhile isBlank = [] := List.dropWhile_eq_nil_iff.mpr blank
    rw [List.nil_append, trimBlanks, nothing]
    rfl
  | cons c cs =>
    have solid : isBlank c = false := clean c List.mem_cons_self
    have front : (c :: cs ++ gap).dropWhile isBlank = c :: cs ++ gap :=
      List.dropWhile_cons_of_neg (by simp [solid])
    rw [trimBlanks, front, back, List.reverse_reverse]

/-- Without blanks there is nothing to trim. -/
theorem trimBlanks_of_no_blank {cs : List Char} (h : ∀ c ∈ cs, isBlank c = false) :
    trimBlanks cs = cs := by
  have trimmed := trimBlanks_append_of_blank h (List.forall_mem_nil _)
  rwa [List.append_nil] at trimmed

/-- A digit is not a blank. -/
theorem isBlank_of_isDigit {c : Char} (h : c.isDigit = true) : isBlank c = false := by
  rw [Bool.eq_false_iff]
  intro hb
  have mem : c ∈ blanks := by simpa [isBlank] using hb
  have letters : (blanks.all fun b => !b.isDigit) = true := by decide
  simpa [h] using List.all_eq_true.mp letters c mem

/-- What the cut at the back leaves begins as before, so there is nothing left to cut at the
front. -/
theorem dropWhile_trimBlanks (cs : List Char) :
    (trimBlanks cs).dropWhile isBlank = trimBlanks cs := by
  rw [List.dropWhile_eq_self_iff]
  intro pos
  have cut : trimBlanks cs <+: cs.dropWhile isBlank := List.rdropWhile_prefix isBlank _
  rw [cut.getElem pos]
  exact List.dropWhile_get_zero_not isBlank cs (cut.length_le.trans_lt' pos)

/-- There is nothing left to trim. -/
theorem trimBlanks_trimBlanks (cs : List Char) : trimBlanks (trimBlanks cs) = trimBlanks cs := by
  show ((trimBlanks cs).dropWhile isBlank).rdropWhile isBlank = trimBlanks cs
  rw [dropWhile_trimBlanks]
  exact List.rdropWhile_idempotent isBlank (cs.dropWhile isBlank)

/-- The second text is what remains of the first one without the blanks around it: there are only
blanks before it and behind it, and it neither begins nor ends with one. -/
structure Trimmed (cs rest : List Char) : Prop where
  around : ∃ front back, (∀ c ∈ front, isBlank c = true) ∧ (∀ c ∈ back, isBlank c = true) ∧
    cs = front ++ rest ++ back
  head : ∀ c ∈ rest.head?, isBlank c = false
  last : ∀ c ∈ rest.getLast?, isBlank c = false

/-- A trimmed text is what remains of the text without the blanks around it. -/
theorem trimmed_trimBlanks (cs : List Char) : Trimmed cs (trimBlanks cs) where
  around := by
    refine ⟨cs.takeWhile isBlank, (cs.dropWhile isBlank).rtakeWhile isBlank,
      fun c mem => List.mem_takeWhile_imp mem, fun c mem => List.mem_rtakeWhile_imp mem, ?_⟩
    have back : trimBlanks cs ++ (cs.dropWhile isBlank).rtakeWhile isBlank =
        cs.dropWhile isBlank := List.rdropWhile_append_rtakeWhile
    rw [List.append_assoc, back, List.takeWhile_append_dropWhile]
  head := by
    intro c hc
    obtain ⟨rest, eq⟩ := List.head?_eq_some_iff.mp hc
    have kept := dropWhile_trimBlanks cs
    rw [eq, List.dropWhile_eq_self_iff] at kept
    exact Bool.eq_false_iff.mpr (kept (Nat.succ_pos rest.length))
  last := by
    intro c hc
    obtain ⟨ne, rfl⟩ := List.mem_getLast?_eq_getLast hc
    exact Bool.eq_false_iff.mpr (List.rdropWhile_last_not isBlank (cs.dropWhile isBlank) ne)

/-- A number has no blanks at its ends. -/
theorem trim_decimal (n : Nat) : trim (Numeral.decimal n) = Numeral.decimal n := by
  rw [trim, Numeral.decimal, String.toList_ofList, trimBlanks_of_no_blank]
  exact fun c mem => isBlank_of_isDigit (Numeral.isDigit_of_mem_natural mem)

/-- A digit has no case. -/
theorem toLower_of_isDigit {c : Char} (h : c.isDigit = true) : c.toLower = c := by
  simp only [Char.isDigit, Bool.and_eq_true, decide_eq_true_eq, UInt32.le_iff_toNat_le] at h
  have noCapital : ¬ (c.val ≥ 'A'.val ∧ c.val ≤ 'Z'.val) := by
    simp only [ge_iff_le, UInt32.le_iff_toNat_le] at h ⊢
    intro range
    exact absurd (h.2.trans' range.1) (by decide)
  exact dif_neg noCapital

end RegisterVM.Text

namespace RegisterVM

open Text

/-- The line feed at the end of a command line means nothing. -/
theorem Command.ofLine_line (text : String) :
    Command.ofLine (Text.line text) = Command.ofLine text := by
  have same : Text.words (Text.line text) = Text.words text := by
    rw [words, words, line, String.toList_append]
    exact congrArg (List.map String.ofList)
      ((splitWords_append_blank text.toList [] (b := '\n') (by decide)).trans
        (by rw [splitWords_nil, List.append_nil]))
  rw [ofLine, ofLine, splitCommandLine, splitCommandLine, same]

/-- A word and a number behind a blank are the two words of a line. -/
theorem Text.words_numbered (word : String) (ne : word ≠ "")
    (h : ∀ c ∈ word.toList, isBlank c = false) (n : Nat) :
    Text.words (word ++ " " ++ Numeral.decimal n) = [word, Numeral.decimal n] := by
  have digits : ∀ c ∈ Numeral.natural n, isBlank c = false := fun c hc =>
    isBlank_of_isDigit (Numeral.isDigit_of_mem_natural hc)
  have chars : word.toList ≠ [] := by simpa using ne
  have parts : (word ++ " " ++ Numeral.decimal n).toList =
      word.toList ++ ' ' :: Numeral.natural n := by
    simp [Numeral.decimal]
  rw [words, parts, splitWords_append_blank _ _ (by decide), splitWords_of_no_blank chars h,
    splitWords_of_no_blank (Numeral.natural_ne_nil n) digits]
  simp [Numeral.decimal]

/-- The command of a word and a number. -/
theorem Command.ofLine_numbered (word : String) (ne : word ≠ "")
    (h : (word.toList.all fun c => !isBlank c) = true) (n : Nat) :
    Command.ofLine (word ++ " " ++ Numeral.decimal n) =
      some (match Command.ofWord? word (some (Numeral.decimal n)) with
        | some command => .ok command
        | none => .error word) := by
  have blankless : ∀ c ∈ word.toList, isBlank c = false := by
    simpa using List.all_eq_true.mp h
  rw [ofLine, splitCommandLine, words_numbered word ne blankless]
  rfl

end RegisterVM
