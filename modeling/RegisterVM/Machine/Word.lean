import RegisterVM.Text.Numeral

/-!
# Words

Registers and memory cells hold signed 32-bit words, and the arithmetic of the machine is
theirs: sums, differences and products wrap around, and a quotient is truncated toward zero.

* `Word.ofInt?`: the word of an integer, when the integer is in range.
* `Word.text`, `Word.read?`: the decimal text of a word, and any decimal text of one.
* `read?_text`: reading inverts writing.
-/

namespace RegisterVM

/-- A signed 32-bit word. -/
abbrev Word : Type := Int32

namespace Word

/-- The word with the given value; none when the value is out of range. -/
def ofInt? (z : Int) : Option Word :=
  if -2147483648 ≤ z ∧ z ≤ 2147483647 then some (Int32.ofInt z) else none

/-- The value modulo `2 ^ 32`, which is what the bits of a word spell. -/
def bits (w : Word) : Nat := w.toUInt32.toNat

/-- The decimal text of a word. -/
def text (w : Word) : String := String.ofList (Text.Numeral.integer w.toInt)

/-- Reads a word: an optional sign, then digits whose value is in range. -/
def read? (token : String) : Option Word :=
  (Text.Numeral.readSigned? token.toList).bind ofInt?

@[simp] theorem ofInt?_toInt (w : Word) : ofInt? w.toInt = some w := by
  have low := Int32.le_toInt w
  have high := Int32.toInt_le w
  rw [ofInt?, if_pos ⟨low, high⟩, Int32.ofInt_toInt]

theorem toInt_of_ofInt? {z : Int} {w : Word} (h : ofInt? z = some w) : w.toInt = z := by
  unfold ofInt? at h
  split at h
  · next range =>
    obtain rfl := Option.some.inj h
    exact Int32.toInt_ofInt_of_le range.1 (by omega)
  · simp at h

@[simp] theorem read?_text (w : Word) : read? (text w) = some w := by
  simp [read?, text]

theorem bits_lt (w : Word) : bits w < 4294967296 := w.toUInt32.toNat_lt

end Word

end RegisterVM
