import RegisterVM.Program.Image
import RegisterVM.Text.Blank

/-!
# Program text

A program is written as a word count followed by that many words, all in base ten and
separated by white space.  What follows the last word is a comment.  The text is read from
left to right and its first problem is the one reported; the count is held against the size
of memory before any word is read.

* `readCount?`: the count that a token spells.
* `readWords`: the words after the count.
* `Image.ofText`: the image of a program text.
-/

namespace RegisterVM

/-- The word count that a token spells: a signed number that is not negative and below
`2 ^ 63`. -/
def readCount? (token : String) : Option Nat :=
  match Text.Numeral.readSigned? token.toList with
  | some z => if 0 ≤ z ∧ z < 9223372036854775808 then some z.toNat else none
  | none => none

/-- Reads the words from index `index` up to the advertised number of them, the given
tokens being what is left of the text. -/
def readWords (name : String) (advertised index : Nat) (tokens : List String) :
    Except LoadError (List Word) :=
  if index < advertised then
    match tokens with
    | [] => .error (.truncated name advertised index)
    | token :: rest =>
        match Word.read? token with
        | none => .error (.badWord name index)
        | some w => (readWords name advertised (index + 1) rest).map (w :: ·)
  else .ok []

/-- The image of a program text.  The name is that of the program, for the error. -/
def Image.ofText (name text : String) : Except LoadError Image := do
  let tokens := Text.words text
  let first := tokens.head?.getD ""
  match readCount? first with
  | none => throw (.badWordCount name first)
  | some count =>
      if 500 < count then throw (.tooLarge name count)
      else Image.ofWords name (← readWords name count 0 tokens.tail)

/-- What is read has the advertised length. -/
theorem length_of_readWords {name : String} {advertised index : Nat} {tokens : List String}
    {ws : List Word} (le : index ≤ advertised)
    (h : readWords name advertised index tokens = .ok ws) :
    index + ws.length = advertised := by
  induction tokens generalizing index ws with
  | nil =>
    unfold readWords at h
    split at h
    · simp at h
    · obtain rfl := Except.ok.inj h
      simp only [List.length_nil]
      omega
  | cons token rest ih =>
    unfold readWords at h
    split at h
    · next lt =>
      dsimp only at h
      split at h
      · simp at h
      · cases more : readWords name advertised (index + 1) rest with
        | error e => simp [more, Except.map] at h
        | ok vs =>
          simp only [more, Except.map, Except.ok.injEq] at h
          have := ih lt more
          simp only [← h, List.length_cons]
          omega
    · obtain rfl := Except.ok.inj h
      simp only [List.length_nil]
      omega

end RegisterVM
