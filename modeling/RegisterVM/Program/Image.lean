import RegisterVM.Machine.Word
import RegisterVM.Program.LoadError

/-!
# Program images

A program image is a list of words that fits into memory.

* `Image.ofWords`: the image of a list of words, when it fits.
-/

namespace RegisterVM

/-- The words of a program, at most as many as memory has cells. -/
structure Image where
  words : List Word
  length_le : words.length ≤ 500
  deriving DecidableEq, Repr

namespace Image

/-- The image of a list of words.  The name is the one under which the program is
refused when it is too large. -/
def ofWords (name : String) (words : List Word) : Except LoadError Image :=
  if h : words.length ≤ 500 then .ok ⟨words, h⟩ else .error (.tooLarge name words.length)

theorem ofWords_eq_ok_iff {name : String} {words : List Word} {image : Image} :
    ofWords name words = .ok image ↔ words = image.words := by
  unfold ofWords
  constructor
  · intro h
    split at h
    · rw [← Except.ok.inj h]
    · simp at h
  · rintro rfl
    rw [dif_pos image.length_le]

end Image

end RegisterVM
