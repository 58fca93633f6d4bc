/-!
# Letters up to case

Register names and command words may be typed in either case.  Only the ASCII letters have
two cases here: every other character stands for itself.
-/

namespace RegisterVM.Text

/-- The text with every ASCII capital replaced by its small letter. -/
def lowerCase (cs : List Char) : List Char := cs.map Char.toLower

/-- The two texts differ at most in the case of ASCII letters. -/
def sameLetters (a b : List Char) : Bool := lowerCase a == lowerCase b

@[simp] theorem length_lowerCase (cs : List Char) : (lowerCase cs).length = cs.length := by
  simp [lowerCase]

@[simp] theorem lowerCase_append (a b : List Char) :
    lowerCase (a ++ b) = lowerCase a ++ lowerCase b := by
  simp [lowerCase]

theorem sameLetters_refl (a : List Char) : sameLetters a a = true := by
  simp [sameLetters]

end RegisterVM.Text
