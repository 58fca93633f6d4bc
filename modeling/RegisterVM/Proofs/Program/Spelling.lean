import RegisterVM.Program.Reader
import RegisterVM.Proofs.Machine.Loading
import RegisterVM.Proofs.Text.Spelling

/-!
# The spellings of a program

A program text is far from unique.  Its numbers may have signs and zeros in front, its words may
stand any distance apart, and behind the last word anything may follow.  What it loads depends on
none of this.

## 1.  Words

Every number of a program is spelled as `Numeral.Spells` says, and read before its value is held
against a range.  A token ends where a blank or the text ends, so a spelled word is one token
whatever stands in front of it.  The induction is on the words, from the first one on
(`SpellsWords.map_read?`).

## 2.  Programs

The count says how many tokens are read, and each word is read off its own token
(`Image.ofText_eq_ok_iff`).  The tokens behind these do not matter at all (`ofText_of_take_eq`).

* `Program.SpellsWords`, `Program.Renders`: spellings of some words, and of a program.
* `program_text_round_trip`: the main statement.
-/

namespace RegisterVM

open Text Text.Numeral

/-! ## 1.  Words -/

theorem readCount?_of_spells {cs : List Char} {n : Nat} (h : Spells cs n)
    (range : n < 9223372036854775808) : readCount? (String.ofList cs) = some n := by
  rw [readCount?, String.toList_ofList, h.readSigned?]
  exact if_pos ⟨Int.natCast_nonneg n, by omega⟩

namespace Program

/-- What follows a number of a program: the words, each with blanks in front, and then the end or a
blank and anything. -/
inductive SpellsWords : List Word → List Char → Prop
  | last : SpellsWords [] []
  | comment {b : Char} (blank : isBlank b = true) (cs : List Char) : SpellsWords [] (b :: cs)
  | word {w : Word} {ws : List Word} {gap token rest : List Char} (ne : gap ≠ [])
      (blank : ∀ c ∈ gap, isBlank c = true) (spelled : Spells token w.toInt)
      (more : SpellsWords ws rest) : SpellsWords (w :: ws) (gap ++ token ++ rest)

/-- The text renders the words as a program: their count, perhaps behind blanks, and the words. -/
inductive Renders (ws : List Word) (text : String) : Prop
  | intro {lead count rest : List Char} (blank : ∀ c ∈ lead, isBlank c = true)
      (counted : Spells count ws.length) (spelled : SpellsWords ws rest)
      (whole : text.toList = lead ++ count ++ rest)

namespace SpellsWords

variable {ws : List Word} {cs : List Char}

/-- What follows a number does not lengthen it. -/
theorem isBlank_head (h : SpellsWords ws cs) : ∀ c ∈ cs.head?, isBlank c = true := by
  cases h with
  | last => simp
  | comment blank cs => simpa using blank
  | word ne blank spelled more =>
    obtain ⟨b, gap, rfl⟩ := List.exists_cons_of_ne_nil ne
    simpa using blank b List.mem_cons_self

/-- The first tokens are read as the words. -/
theorem map_read? (h : SpellsWords ws cs) :
    (((splitWords cs).map String.ofList).take ws.length).map Word.read? = ws.map some := by
  induction h with
  | last => rfl
  | comment blank cs => rfl
  | word ne blank spelled more ih =>
    rw [List.append_assoc, splitWords_blanks_append blank,
      splitWords_token_append spelled.ne_nil spelled.isBlank_eq_false more.isBlank_head,
      List.map_cons, List.length_cons, List.take_succ_cons, List.map_cons, List.map_cons, ih,
      Word.read?_of_spells spelled]

end SpellsWords

end Program

/-! ## 2.  Programs -/

/-- When all words have been read there are none to come. -/
theorem readWords_self_eq_ok_iff {name : String} {advertised : Nat} {tokens : List String}
    {ws : List Word} : readWords name advertised advertised tokens = .ok ws ↔
      advertised + ws.length = advertised ∧
        (tokens.take ws.length).map Word.read? = ws.map some := by
  rw [readWords.eq_def, if_neg (Nat.lt_irrefl _), Except.ok.injEq, Nat.add_eq_left,
    List.length_eq_zero_iff]
  constructor
  · rintro rfl
    exact ⟨rfl, rfl⟩
  · rintro ⟨rfl, -⟩
    rfl

/-- The words of some tokens are that of the first one and those of the others. -/
theorem readWords_cons_eq_ok_iff {name token : String} {advertised index : Nat}
    {rest : List String} {ws : List Word} (lt : index < advertised) :
    readWords name advertised index (token :: rest) = .ok ws ↔
      ∃ w vs, ws = w :: vs ∧ Word.read? token = some w ∧
        readWords name advertised (index + 1) rest = .ok vs := by
  rw [readWords.eq_def, if_pos lt]
  dsimp only
  cases Word.read? token with
  | none => simp
  | some w =>
    cases readWords name advertised (index + 1) rest with
    | error e => simp [Except.map]
    | ok vs => simp [Except.map, eq_comm]

/-- As many words are read as are advertised, each off its token, whatever stands behind these. -/
theorem readWords_eq_ok_iff {name : String} {advertised index : Nat} {tokens : List String}
    {ws : List Word} (le : index ≤ advertised) :
    readWords name advertised index tokens = .ok ws ↔
      index + ws.length = advertised ∧ (tokens.take ws.length).map Word.read? = ws.map some := by
  induction tokens generalizing index ws with
  | nil =>
    rcases Nat.lt_or_eq_of_le le with lt | rfl
    · -- a word is missing, and no token is left for it
      rw [readWords.eq_def, if_pos lt]
      refine iff_of_false (fun read => by cases read) ?_
      rintro ⟨count, nothing⟩
      obtain rfl : ws = [] := by simpa using nothing
      exact absurd count lt.ne
    · exact readWords_self_eq_ok_iff
  | cons token rest ih =>
    rcases Nat.lt_or_eq_of_le le with lt | rfl
    · rw [readWords_cons_eq_ok_iff lt]
      constructor
      · rintro ⟨w, vs, rfl, word, more⟩
        obtain ⟨count, others⟩ := (ih lt).mp more
        refine ⟨by rw [List.length_cons, ← count]; omega, ?_⟩
        rw [List.length_cons, List.take_succ_cons, List.map_cons, List.map_cons, word, others]
      · rintro ⟨count, all⟩
        cases ws with
        | nil => exact absurd count lt.ne
        | cons w vs =>
          rw [List.length_cons, List.take_succ_cons, List.map_cons, List.map_cons,
            List.cons.injEq] at all
          rw [List.length_cons] at count
          exact ⟨w, vs, rfl, all.1, (ih lt).mpr ⟨by omega, all.2⟩⟩
    · exact readWords_self_eq_ok_iff

/-- A text loads a program when its first token is the number of the words, and those behind it are
read as the words. -/
theorem Image.ofText_eq_ok_iff {name text : String} {image : Image} :
    ofText name text = .ok image ↔
      readCount? ((Text.words text).head?.getD "") = some image.words.length ∧
        ((Text.words text).tail.take image.words.length).map Word.read? =
          image.words.map some := by
  have fits := image.length_le
  unfold ofText
  dsimp only
  cases readCount? ((Text.words text).head?.getD "") with
  | none => exact iff_of_false nofun (by simp)
  | some count =>
    dsimp only
    have read : readWords name count 0 (Text.words text).tail = .ok image.words ↔ _ :=
      readWords_eq_ok_iff (Nat.zero_le count)
    rw [Nat.zero_add] at read
    rw [Option.some.injEq, eq_comm (a := count)]
    split
    · next large =>
      refine iff_of_false nofun ?_
      rintro ⟨rfl, -⟩
      exact absurd large (Nat.not_lt.mpr fits)
    · rw [← read]
      cases readWords name count 0 (Text.words text).tail with
      | error e => exact iff_of_false nofun nofun
      | ok ws =>
        rw [Except.ok.injEq]
        exact ofWords_eq_ok_iff

/-- What a text loads depends on the count and as many tokens as there are words. -/
theorem ofText_of_take_eq {name first second : String} {image : Image}
    (loads : Image.ofText name first = .ok image)
    (same : (Text.words second).take (image.words.length + 1) =
      (Text.words first).take (image.words.length + 1)) (name' : String) :
    Image.ofText name' second = .ok image := by
  -- the count is the first token, and the words are read off those behind it
  have head : (Text.words second).head? = (Text.words first).head? := by
    have heads := congrArg List.head? same
    rwa [List.head?_take, List.head?_take, if_neg (by simp), if_neg (by simp)] at heads
  have tail : (Text.words second).tail.take image.words.length =
      (Text.words first).tail.take image.words.length := by
    simpa only [← List.drop_one, List.drop_take, Nat.add_sub_cancel] using congrArg List.tail same
  rw [Image.ofText_eq_ok_iff] at loads ⊢
  rwa [head, tail]

/-- A text loads the words that it renders. -/
theorem Program.Renders.ofText {ws : List Word} {text : String} (h : Renders ws text)
    (fits : ws.length ≤ 500) (name : String) : Image.ofText name text = .ok ⟨ws, fits⟩ := by
  obtain @⟨lead, count, rest, blank, counted, spelled, whole⟩ := h
  have words : Text.words text =
      String.ofList count :: (splitWords rest).map String.ofList := by
    rw [Text.words, whole, List.append_assoc, splitWords_blanks_append blank,
      splitWords_token_append counted.ne_nil counted.isBlank_eq_false spelled.isBlank_head,
      List.map_cons]
  have number : readCount? (String.ofList count) = some ws.length :=
    readCount?_of_spells counted (by omega)
  rw [Image.ofText_eq_ok_iff, words]
  exact ⟨number, spelled.map_read?⟩

/-! ## The main statement -/

/-- **A program text loads the words that it renders.**  Let a text render at most as many words as
memory has cells.

* It loads exactly these words, under any name.
* The machine that is loaded holds the words from cell zero on and zeros behind them; the frame
  pointer and the stack pointer are the number of words, and every other register is zero.

And a text that loads a program may be replaced by any other one with the same count and the same
tokens for its words: this loads the same program. -/
theorem program_text_round_trip (ws : List Word) (fits : ws.length ≤ 500) (name text : String)
    (renders : Program.Renders ws text) :
    Image.ofText name text = .ok ⟨ws, fits⟩ ∧
    (Machine.ofImage ⟨ws, fits⟩).memory.toList = ws ++ List.replicate (500 - ws.length) 0 ∧
    (∀ r : Register, ((Machine.ofImage ⟨ws, fits⟩).reg r).toInt =
      if r = .fp ∨ r = .sp then (ws.length : Int) else 0) ∧
    ∀ (first second name' : String) (image : Image), Image.ofText name first = .ok image →
      (Text.words second).take (image.words.length + 1) =
        (Text.words first).take (image.words.length + 1) →
      Image.ofText name' second = .ok image := by
  refine ⟨renders.ofText fits name, Machine.toList_memory_ofImage _, fun r => ?_,
    fun first second name' image loads same => ofText_of_take_eq loads same name'⟩
  have size : (Int32.ofNat ws.length).toInt = ws.length := Int32.toInt_ofNat_of_lt (by omega)
  rw [Machine.reg_ofImage]
  split
  · exact size
  · rfl

/-- Two words with signs and zeros, a comment behind them, and the same words without it. -/
theorem program_text_round_trip_signed :
    Image.ofText "signed" "  +02\t-003\n+4 99" = .ok ⟨[-3, 4], by decide⟩ ∧
    Image.ofText "plain" "+02 -003 +4" = .ok ⟨[-3, 4], by decide⟩ := by
  have two : Spells "+02".toList (2 : Nat) := .plus 1 2
  have minusThree : Spells "-003".toList (-3) := .minus 2 3
  have four : Spells "+4".toList 4 := .plus 0 4
  have comment : Program.SpellsWords [] " 99".toList := .comment (by decide) _
  have blank {gap : List Char} (h : gap.all isBlank = true) : ∀ c ∈ gap, isBlank c = true :=
    List.all_eq_true.mp h
  have behind : Program.SpellsWords [4] ("\n".toList ++ "+4".toList ++ " 99".toList) :=
    .word (by decide) (blank rfl) four comment
  have words : Program.SpellsWords [-3, 4] ("\t".toList ++ "-003".toList ++ "\n+4 99".toList) :=
    .word (by decide) (blank rfl) minusThree behind
  have renders : Program.Renders [-3, 4] "  +02\t-003\n+4 99" :=
    @Program.Renders.intro _ _ "  ".toList _ _ (blank rfl) two words (by decide)
  obtain ⟨loads, -, -, others⟩ :=
    program_text_round_trip [-3, 4] (by decide) "signed" _ renders
  exact ⟨loads, others _ "+02 -003 +4" "plain" _ loads (by decide)⟩

end RegisterVM
