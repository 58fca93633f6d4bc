import RegisterVM.Program.File
import RegisterVM.Proofs.Program.Spelling
import RegisterVM.Proofs.Text.Digits

/-!
# The verdict on a program text

A text need not be a program.  Its count may not be one, or be larger than memory; words may be
missing, or be none, or be too large.  Several of this can be the case at once, and then one of it
is reported.

## 1.  Tokens

`Program.Counts` and `Program.IsWord` say of a token that it denotes a number in the range of counts
and of words.  How long it is does not matter, nor how many zeros it begins with.

## 2.  Words

Words are read from the left.  So what is reported of them is the least place that holds no word,
either because the text has come to an end before it or because of the token that stands there
(`readWords_eq_error_iff`).  The induction is on the tokens.

## 3.  Texts

`Program.Verdict` lists the five verdicts, with what each of them takes.  No order is left in them:
that the count is judged before the words, and held against memory before the first of them, shows
in what the later verdicts ask of the count.

* `Program.Verdict`: the verdicts.
* `program_text_verdict`: the main statement, for texts and for files.
-/

namespace RegisterVM

open Text Text.Numeral

/-! ## 1.  Tokens -/

namespace Program

/-- The token denotes this number, and it is below `2 ^ 63`. -/
def Counts (token : String) (n : Nat) : Prop :=
  Denotes token.toList n ∧ n < 9223372036854775808

/-- The token denotes a number in the range of words. -/
def IsWord (token : String) : Prop :=
  ∃ z, Denotes token.toList z ∧ -2147483648 ≤ z ∧ z ≤ 2147483647

end Program

open Program

theorem readCount?_eq_some_iff {token : String} {n : Nat} :
    readCount? token = some n ↔ Counts token n := by
  unfold readCount? Counts
  cases read : readSigned? token.toList with
  | none =>
    refine iff_of_false nofun fun counts => ?_
    rw [readSigned?_eq_some_iff.mpr counts.1] at read
    cases read
  | some z =>
    rw [← readSigned?_eq_some_iff, read]
    dsimp only
    split
    · simp only [Option.some.injEq]
      omega
    · simp only [Option.some.injEq, reduceCtorEq, false_iff]
      omega

theorem Word.read?_eq_some_iff {token : String} {w : Word} :
    Word.read? token = some w ↔ Denotes token.toList w.toInt := by
  rw [read?, Option.bind_eq_some_iff, ← readSigned?_eq_some_iff]
  constructor
  · rintro ⟨z, read, word⟩
    rw [read, toInt_of_ofInt? word]
  · exact fun read => ⟨_, read, ofInt?_toInt w⟩

theorem Word.exists_read?_iff {token : String} :
    (∃ w, Word.read? token = some w) ↔ IsWord token := by
  simp only [read?_eq_some_iff, IsWord]
  constructor
  · rintro ⟨w, denotes⟩
    exact ⟨_, denotes, w.le_toInt, w.toInt_le⟩
  · rintro ⟨z, denotes, low, high⟩
    refine ⟨Int32.ofInt z, ?_⟩
    rwa [Int32.toInt_ofInt_of_le (by omega) (by omega)]

/-! ## 2.  Words -/

/-- What is reported of the words: the least place that holds none. -/
def Program.Obstructs (name : String) (advertised index : Nat) (tokens : List String)
    (e : LoadError) : Prop :=
  ∃ i, index + i < advertised ∧ (∀ j < i, ∃ token, tokens[j]? = some token ∧ IsWord token) ∧
    (tokens[i]? = none ∧ e = .truncated name advertised (index + i) ∨
      ∃ token, tokens[i]? = some token ∧ ¬ IsWord token ∧ e = .badWord name (index + i))

section Words

variable {name token : String} {advertised index : Nat} {tokens rest : List String} {e : LoadError}

/-- When the first place holds no word, it is the one. -/
theorem obstructs_iff_of_no_word (lt : index < advertised)
    (no_word : ¬ ∃ token, tokens[0]? = some token ∧ IsWord token) :
    Obstructs name advertised index tokens e ↔
      tokens[0]? = none ∧ e = .truncated name advertised index ∨
        ∃ token, tokens[0]? = some token ∧ ¬ IsWord token ∧ e = .badWord name index := by
  constructor
  · rintro ⟨i, -, before, problem⟩
    obtain rfl : i = 0 := by
      by_contra later
      exact no_word (before 0 (Nat.pos_of_ne_zero later))
    exact problem
  · exact fun problem => ⟨0, lt, nofun, problem⟩

/-- When the first place holds a word, it is one of the others. -/
theorem obstructs_cons_iff (word : IsWord token) :
    Obstructs name advertised index (token :: rest) e ↔
      Obstructs name advertised (index + 1) rest e := by
  constructor
  · rintro ⟨i, lt, before, problem⟩
    cases i with
    | zero =>
      rcases problem with ⟨none, -⟩ | ⟨other, there, bad, -⟩
      · cases none
      · obtain rfl := Option.some.inj there
        exact absurd word bad
    | succ i =>
      rw [show index + (i + 1) = index + 1 + i by omega] at lt problem
      exact ⟨i, lt, fun j lt => before (j + 1) (by omega), problem⟩
  · rintro ⟨i, lt, before, problem⟩
    rw [Nat.succ_add_eq_add_succ] at lt problem
    refine ⟨i + 1, lt, fun j lt => ?_, problem⟩
    cases j with
    | zero => exact ⟨token, rfl, word⟩
    | succ j => exact before j (by omega)

/-- When all words have been read, no place is left. -/
theorem not_obstructs (le : ¬ index < advertised) :
    ¬ Obstructs name advertised index tokens e := by
  rintro ⟨i, lt, -⟩
  omega

/-- Reading the words reports the least place that holds none. -/
theorem readWords_eq_error_iff : readWords name advertised index tokens = .error e ↔
    Obstructs name advertised index tokens e := by
  induction tokens generalizing index with
  | nil =>
    rw [readWords.eq_def]
    split
    · next lt =>
      rw [obstructs_iff_of_no_word lt (by simp)]
      simp [eq_comm]
    · next le => exact iff_of_false (by simp) (not_obstructs le)
  | cons token rest ih =>
    rw [readWords.eq_def]
    split
    · next lt =>
      have word : (∃ w, Word.read? token = some w) ↔ IsWord token := Word.exists_read?_iff
      cases read : Word.read? token with
      | none =>
        have bad : ¬ IsWord token := by
          rw [← word, read]
          simp
        rw [obstructs_iff_of_no_word lt (by simp [bad])]
        simp [read, bad, eq_comm]
      | some w =>
        rw [obstructs_cons_iff (word.mp ⟨w, read⟩), ← ih]
        cases more : readWords name advertised (index + 1) rest <;> simp [read, more, Except.map]
    · next le => exact iff_of_false (by simp) (not_obstructs le)

end Words

/-! ## 3.  Texts -/

namespace Program

/-- The token that should be the count: the first one, or nothing when there is none. -/
def countToken (tokens : List String) : String := tokens.head?.getD ""

/-- The verdicts on a text with these tokens. -/
inductive Verdict (name : String) (tokens : List String) : Except LoadError Image → Prop
  | badWordCount (bad : ∀ n, ¬ Counts (countToken tokens) n) :
      Verdict name tokens (.error (.badWordCount name (countToken tokens)))
  | tooLarge {n : Nat} (count : Counts (countToken tokens) n) (large : 500 < n) :
      Verdict name tokens (.error (.tooLarge name n))
  | truncated {n i : Nat} (count : Counts (countToken tokens) n) (fits : n ≤ 500) (lt : i < n)
      (before : ∀ j < i, ∃ token, tokens[j + 1]? = some token ∧ IsWord token)
      (missing : tokens[i + 1]? = none) :
      Verdict name tokens (.error (.truncated name n i))
  | badWord {n i : Nat} {token : String} (count : Counts (countToken tokens) n) (fits : n ≤ 500)
      (lt : i < n) (before : ∀ j < i, ∃ token, tokens[j + 1]? = some token ∧ IsWord token)
      (there : tokens[i + 1]? = some token) (bad : ¬ IsWord token) :
      Verdict name tokens (.error (.badWord name i))
  | program {image : Image} (count : Counts (countToken tokens) image.words.length)
      (words : ∀ i (lt : i < image.words.length), ∃ token, tokens[i + 1]? = some token ∧
        Denotes token.toList (image.words[i]).toInt) : Verdict name tokens (.ok image)

end Program

variable {name text : String} {n : Nat} {e : LoadError} {image : Image}

theorem Image.ofText_of_no_count (none : readCount? (countToken (Text.words text)) = none) :
    ofText name text = .error (.badWordCount name (countToken (Text.words text))) := by
  unfold countToken at none ⊢
  unfold ofText
  dsimp only
  rw [none]
  rfl

theorem Image.ofText_of_large (count : readCount? (countToken (Text.words text)) = some n)
    (large : 500 < n) : ofText name text = .error (.tooLarge name n) := by
  unfold countToken at count
  unfold ofText
  dsimp only
  rw [count]
  exact if_pos large

/-- Behind a count that fits, the words decide. -/
theorem Image.ofText_eq_error_iff_of_count
    (count : readCount? (countToken (Text.words text)) = some n) (fits : n ≤ 500) :
    ofText name text = .error e ↔ Obstructs name n 0 (Text.words text).tail e := by
  unfold countToken at count
  unfold ofText
  dsimp only
  rw [count, ← readWords_eq_error_iff]
  dsimp only
  rw [if_neg (Nat.not_lt.mpr fits)]
  cases read : readWords name n 0 (Text.words text).tail with
  | error reported =>
    show (Except.error reported : Except LoadError Image) = .error e ↔ _
    rw [Except.error.injEq, Except.error.injEq]
  | ok ws =>
    -- as many words as the count says are not too many
    have length := length_of_readWords (Nat.zero_le n) read
    have image : ofWords name ws = .ok ⟨ws, by omega⟩ := dif_pos (by omega)
    refine iff_of_false (fun refused => ?_) nofun
    cases image.symm.trans refused

/-- Two ways to say that the first of some tokens are read as some words. -/
theorem map_take_eq_map_some_iff {α β : Type} {f : α → Option β} {xs : List α} {ys : List β} :
    (xs.take ys.length).map f = ys.map some ↔
      ∀ i (lt : i < ys.length), ∃ x, xs[i]? = some x ∧ f x = some ys[i] := by
  constructor
  · intro eq i lt
    have here := congrArg (fun zs => zs[i]?) eq
    simpa [List.getElem?_take, lt, Option.map_eq_some_iff] using here
  · intro each
    refine List.ext_getElem? fun i => ?_
    by_cases lt : i < ys.length
    · obtain ⟨x, there, eq⟩ := each i lt
      simp [lt, there, eq]
    · simp [lt]

/-- An image is loaded when it is denoted, word by word. -/
theorem Image.ofText_eq_ok_iff_denotes : ofText name text = .ok image ↔
    readCount? (countToken (Text.words text)) = some image.words.length ∧
      ∀ i (lt : i < image.words.length), ∃ token, (Text.words text)[i + 1]? = some token ∧
        Denotes token.toList (image.words[i]).toInt := by
  rw [ofText_eq_ok_iff, map_take_eq_map_some_iff]
  simp only [List.getElem?_tail, Word.read?_eq_some_iff]
  exact Iff.rfl

/-- The text has the verdict that is given on it. -/
theorem Program.verdict_ofText (name text : String) :
    Verdict name (Text.words text) (Image.ofText name text) := by
  cases count : readCount? (countToken (Text.words text)) with
  | none =>
    rw [Image.ofText_of_no_count count]
    refine .badWordCount fun n counts => ?_
    rw [← readCount?_eq_some_iff, count] at counts
    cases counts
  | some n =>
    have counts := readCount?_eq_some_iff.mp count
    by_cases large : 500 < n
    · rw [Image.ofText_of_large count large]
      exact .tooLarge counts large
    · have fits : n ≤ 500 := Nat.le_of_not_lt large
      cases read : Image.ofText name text with
      | error e =>
        obtain ⟨i, lt, before, problem⟩ :=
          (Image.ofText_eq_error_iff_of_count count fits).mp read
        simp only [List.getElem?_tail, Nat.zero_add] at lt before problem
        rcases problem with ⟨missing, rfl⟩ | ⟨token, there, bad, rfl⟩
        · exact .truncated counts fits lt before missing
        · exact .badWord counts fits lt before there bad
      | ok image =>
        obtain ⟨counted, words⟩ := Image.ofText_eq_ok_iff_denotes.mp read
        exact .program (readCount?_eq_some_iff.mp counted) words

/-- No other verdict can be given on it. -/
theorem Program.Verdict.eq_ofText {r : Except LoadError Image}
    (verdict : Verdict name (Text.words text) r) : Image.ofText name text = r := by
  cases verdict with
  | badWordCount bad =>
    refine Image.ofText_of_no_count (Option.eq_none_iff_forall_ne_some.mpr fun n count => ?_)
    exact bad n (readCount?_eq_some_iff.mp count)
  | tooLarge counts large =>
    exact Image.ofText_of_large (readCount?_eq_some_iff.mpr counts) large
  | @truncated n i counts fits lt before missing =>
    refine (Image.ofText_eq_error_iff_of_count (readCount?_eq_some_iff.mpr counts) fits).mpr
      ⟨i, by rwa [Nat.zero_add], ?_⟩
    simp only [List.getElem?_tail, Nat.zero_add]
    exact ⟨before, .inl ⟨missing, trivial⟩⟩
  | @badWord n i token counts fits lt before there bad =>
    refine (Image.ofText_eq_error_iff_of_count (readCount?_eq_some_iff.mpr counts) fits).mpr
      ⟨i, by rwa [Nat.zero_add], ?_⟩
    simp only [List.getElem?_tail, Nat.zero_add]
    exact ⟨before, .inr ⟨token, there, bad, trivial⟩⟩
  | program counts words =>
    exact Image.ofText_eq_ok_iff_denotes.mpr ⟨readCount?_eq_some_iff.mpr counts, words⟩

/-! ## The main statement -/

/-- **The verdict on a program text.**  For every name and every text:

* loading the text gives exactly what the verdict on its tokens says: that the first of them is no
  count; that there is no room for so many words; that the text ends before a word, or that a token
  is none, at the least place where either is so; or else the words that the tokens denote;
* a file with this text, wherever it is found, is judged in the same way. -/
theorem program_text_verdict (name text : String) :
    (∀ r, Image.ofText name text = r ↔ Program.Verdict name (Text.words text) r) ∧
    ∀ f : Folder, f.read name = .ok text.toUTF8 → f.load name = Image.ofText name text := by
  refine ⟨fun r => ⟨?_, Program.Verdict.eq_ofText⟩, fun f found => ?_⟩
  · rintro rfl
    exact Program.verdict_ofText name text
  · have decoded : String.fromUTF8? text.toUTF8 = some text := dif_pos text.isValidUTF8
    rw [Folder.load, found]
    dsimp only
    rw [Image.ofBytes, decoded]

/-- A file that advertises three words, where the second one is too large and the third is
missing. -/
theorem program_text_verdict_large :
    let text := "3 -0 2147483648"
    let f : Folder := ⟨[(["p.vml"], text.toUTF8)], []⟩
    f.load "p.vml" = .error (.badWord "p.vml" 1) := by
  intro text f
  obtain ⟨verdict, file⟩ := program_text_verdict "p.vml" text
  have found : f.read "p.vml" = .ok text.toUTF8 := by
    rfl
  have words : Text.words text = ["3", "-0", "2147483648"] := by decide
  have three : Counts "3" 3 := ⟨.unsigned ⟨by simp, by simp⟩, by decide⟩
  have digit : IsDigits ['0'] := ⟨by simp, by simp⟩
  have zero : IsWord "-0" := ⟨_, .minus digit, by decide, by decide⟩
  have large : ¬ IsWord "2147483648" := by
    have unread : Word.read? "2147483648" = none := by decide +kernel
    rw [← Word.exists_read?_iff, unread]
    exact nofun
  rw [file f found, verdict, words]
  refine .badWord three (by decide) (by decide) (fun j lt => ?_) rfl large
  obtain rfl : j = 0 := by omega
  exact ⟨_, rfl, zero⟩

end RegisterVM
