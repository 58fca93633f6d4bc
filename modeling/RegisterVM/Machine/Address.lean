import RegisterVM.Machine.Word

/-!
# Addresses

Memory has five hundred cells.  An address is a number below that; a word is an address when
its value is one, so that no negative word and no large one ever reaches memory.
-/

namespace RegisterVM

/-- The address of a memory cell. -/
abbrev Address : Type := Fin 500

namespace Address

/-- The address with the given number. -/
def ofNumber? (number : Nat) : Option Address :=
  if h : number < 500 then some ⟨number, h⟩ else none

/-- The address whose number is the value of a word. -/
def ofWord? (w : Word) : Option Address :=
  if 0 ≤ w.toInt then ofNumber? w.toInt.toNat else none

/-- The decimal text of an address. -/
def text (a : Address) : String := Text.Numeral.decimal a.val

/-- The text of an address in a memory listing, on three digits. -/
def label (a : Address) : String := String.ofList (Text.Numeral.zeroFilled 3 a.val)

theorem ofNumber?_eq_some_iff {number : Nat} {a : Address} :
    ofNumber? number = some a ↔ number = a.val := by
  unfold ofNumber?
  constructor
  · intro h
    split at h
    · rw [← Option.some.inj h]
    · simp at h
  · rintro rfl
    simp

theorem ofWord?_eq_some_iff {w : Word} {a : Address} :
    ofWord? w = some a ↔ w.toInt = a.val := by
  unfold ofWord?
  split
  · rw [ofNumber?_eq_some_iff]
    omega
  · constructor
    · simp
    · intro h
      omega

theorem ofWord?_eq_none_iff {w : Word} :
    ofWord? w = none ↔ w.toInt < 0 ∨ 500 ≤ w.toInt := by
  unfold ofWord? ofNumber?
  split
  · split
    · simp only [reduceCtorEq, false_iff]
      omega
    · simp only [true_iff]
      omega
  · simp only [true_iff]
    omega

end Address

end RegisterVM
