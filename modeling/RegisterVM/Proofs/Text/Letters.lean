import Mathlib.Data.List.Forall2
import RegisterVM.Text.Letters

/-!
# What the case of a letter is

Small letters are made by a function on characters.  What they are is said here by code points: an
ASCII capital and its small letter are thirty-two places apart, and no other character has a case.
So a letter beyond ASCII, accented or from another alphabet, is never taken for one of ASCII.

* `IsCapital`, `Lowers`, `SameLetter`: an ASCII capital, a character in lower case, and two
  characters that differ at most in case.
* `lowers_iff`, `sameLetter_iff`: these are what `Char.toLower` computes.
* `forall₂_lowers_iff`, `sameLetters_iff`: the same for texts, letter by letter.
-/

namespace RegisterVM.Text

/-- An ASCII capital. -/
def IsCapital (c : Char) : Prop := 'A' ≤ c ∧ c ≤ 'Z'

instance (c : Char) : Decidable (IsCapital c) := inferInstanceAs (Decidable ('A' ≤ c ∧ c ≤ 'Z'))

/-- The second character is the first one in lower case: for a capital the character thirty-two
places further on, and any other character itself. -/
inductive Lowers : Char → Char → Prop
  | capital {c d : Char} (capital : IsCapital c) (small : d.toNat = c.toNat + 32) : Lowers c d
  | other {c : Char} (other : ¬ IsCapital c) : Lowers c c

/-- The characters are equal, or they are the two cases of one ASCII letter. -/
inductive SameLetter : Char → Char → Prop
  | same (c : Char) : SameLetter c c
  | capital {c d : Char} (capital : IsCapital c) (small : d.toNat = c.toNat + 32) : SameLetter c d
  | small {c d : Char} (capital : IsCapital d) (small : c.toNat = d.toNat + 32) : SameLetter c d

theorem isCapital_iff {c : Char} : IsCapital c ↔ 65 ≤ c.toNat ∧ c.toNat ≤ 90 := by
  simp only [IsCapital, Char.le_def, UInt32.le_iff_toNat_le]
  exact Iff.rfl

theorem toLower_of_not_isCapital {c : Char} (h : ¬ IsCapital c) : c.toLower = c := dif_neg h

theorem toNat_toLower {c : Char} (h : IsCapital c) : c.toLower.toNat = c.toNat + 32 := by
  have small : c.toLower.val = c.val + ('a'.val - 'A'.val) := congrArg Char.val (dif_pos h)
  have range : c.val.toNat ≤ 90 := (isCapital_iff.mp h).2
  show c.toLower.val.toNat = c.val.toNat + 32
  rw [small, UInt32.toNat_add]
  show (c.val.toNat + 32) % 2 ^ 32 = c.val.toNat + 32
  omega

theorem lowers_iff {c d : Char} : Lowers c d ↔ c.toLower = d := by
  constructor
  · rintro (⟨capital, small⟩ | other)
    · rw [← Char.toNat_inj, toNat_toLower capital, small]
    · exact toLower_of_not_isCapital other
  · rintro rfl
    by_cases h : IsCapital c
    · exact .capital h (toNat_toLower h)
    · rw [toLower_of_not_isCapital h]
      exact .other h

/-- A small letter is no capital, so it is in lower case already. -/
theorem toLower_of_small {c d : Char} (capital : IsCapital c) (small : d.toNat = c.toNat + 32) :
    d.toLower = d := by
  refine toLower_of_not_isCapital fun again => ?_
  have low := isCapital_iff.mp capital
  have high := isCapital_iff.mp again
  omega

theorem sameLetter_iff {c d : Char} : SameLetter c d ↔ c.toLower = d.toLower := by
  constructor
  · rintro (_ | ⟨capital, small⟩ | ⟨capital, small⟩)
    · rfl
    · rw [toLower_of_small capital small]
      exact lowers_iff.mp (.capital capital small)
    · rw [toLower_of_small capital small]
      exact (lowers_iff.mp (.capital capital small)).symm
  · intro same
    by_cases hc : IsCapital c <;> by_cases hd : IsCapital d
    · have equal : c.toNat + 32 = d.toNat + 32 := by
        rw [← toNat_toLower hc, ← toNat_toLower hd, same]
      obtain rfl : c = d := Char.toNat_inj.mp (by omega)
      exact .same c
    · rw [toLower_of_not_isCapital hd] at same
      exact .capital hc (same ▸ toNat_toLower hc)
    · rw [toLower_of_not_isCapital hc] at same
      exact .small hd (same ▸ toNat_toLower hd)
    · rw [toLower_of_not_isCapital hc, toLower_of_not_isCapital hd] at same
      exact same ▸ .same c

/-- A text in lower case, letter by letter. -/
theorem forall₂_lowers_iff {cs ds : List Char} :
    List.Forall₂ Lowers cs ds ↔ lowerCase cs = ds := by
  have lowers : Lowers = fun c d => c.toLower = d := by
    ext c d
    exact lowers_iff
  rw [lowers, lowerCase, ← List.forall₂_eq_eq_eq, List.forall₂_map_left_iff]

/-- Two texts differ at most in case when they do so letter by letter. -/
theorem sameLetters_iff {cs ds : List Char} :
    sameLetters cs ds = true ↔ List.Forall₂ SameLetter cs ds := by
  have alike : SameLetter = fun c d => c.toLower = d.toLower := by
    ext c d
    exact sameLetter_iff
  rw [sameLetters, beq_iff_eq, alike, lowerCase, lowerCase, ← List.forall₂_eq_eq_eq,
    List.forall₂_map_left_iff, List.forall₂_map_right_iff]

end RegisterVM.Text
