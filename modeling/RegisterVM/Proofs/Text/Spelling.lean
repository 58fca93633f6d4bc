import RegisterVM.Machine.Word
import RegisterVM.Proofs.Text.Words

/-!
# The spellings of a number

An integer can be written in base ten in many ways: with zeros in front of its digits, and in front
of these with a plus when it is not negative or a minus when it is not positive.  Each is read as
the integer, however long it is.  One of them has as many zeros as it takes for a column, in which
the sign has a place of its own.

* `Numeral.Spells`: the spellings of an integer; `Spells.readSigned?` reads them.
* `Numeral.FilledTo`: the spelling that fills a column; `filledTo_zeroFilled` says that it is the one
  that is written.
* `Word.read?_of_spells`, `FilledTo.read?_eq`: the spellings of a word.
-/

namespace RegisterVM

namespace Text.Numeral

/-- The spellings of an integer in base ten. -/
inductive Spells : List Char → Int → Prop
  | plain (zeros n : Nat) : Spells (List.replicate zeros '0' ++ natural n) n
  | plus (zeros n : Nat) : Spells ('+' :: (List.replicate zeros '0' ++ natural n)) n
  | minus (zeros n : Nat) : Spells ('-' :: (List.replicate zeros '0' ++ natural n)) (-n)

theorem isDigit_of_mem_zeros {zeros n : Nat} {c : Char}
    (h : c ∈ List.replicate zeros '0' ++ natural n) : c.isDigit = true := by
  rcases List.mem_append.mp h with zero | digit
  · rw [List.eq_of_mem_replicate zero]
    decide
  · exact isDigit_of_mem_natural digit

/-- Zeros in front add nothing. -/
theorem ofDigitChars_zeros (zeros : Nat) (cs : List Char) :
    Nat.ofDigitChars 10 (List.replicate zeros '0' ++ cs) 0 = Nat.ofDigitChars 10 cs 0 := by
  induction zeros with
  | zero => rfl
  | succ zeros ih =>
    rw [List.replicate_succ, List.cons_append, Nat.ofDigitChars_cons]
    exact ih

theorem readNatural?_zeros (zeros n : Nat) :
    readNatural? (List.replicate zeros '0' ++ natural n) = some n := by
  have digits : (List.replicate zeros '0' ++ natural n).all Char.isDigit = true :=
    List.all_eq_true.mpr fun c => isDigit_of_mem_zeros
  have ne : List.replicate zeros '0' ++ natural n ≠ [] :=
    List.append_ne_nil_of_right_ne_nil _ (natural_ne_nil n)
  rw [readNatural?, if_pos ⟨ne, digits⟩, ofDigitChars_zeros, natural,
    Nat.ofDigitChars_toDigits (by decide) (by decide)]

/-- Every spelling is read as the integer. -/
theorem Spells.readSigned? {cs : List Char} {z : Int} (h : Spells cs z) :
    Numeral.readSigned? cs = some z := by
  cases h with
  | plain zeros n =>
    obtain ⟨c, rest, eq⟩ := List.exists_cons_of_ne_nil
      (List.append_ne_nil_of_right_ne_nil (List.replicate zeros '0') (natural_ne_nil n))
    have digit : c.isDigit = true := isDigit_of_mem_zeros (eq ▸ List.mem_cons_self)
    rw [eq, readSigned?_of_isDigit digit, ← eq, readNatural?_zeros]
    rfl
  | plus zeros n =>
    rw [Numeral.readSigned?, readNatural?_zeros]
    rfl
  | minus zeros n =>
    rw [Numeral.readSigned?, readNatural?_zeros]
    rfl

theorem Spells.ne_nil {cs : List Char} {z : Int} (h : Spells cs z) : cs ≠ [] := by
  rintro rfl
  simpa [Numeral.readSigned?, readNatural?] using h.readSigned?

/-- A spelling is a single token. -/
theorem Spells.isBlank_eq_false {cs : List Char} {z : Int} (h : Spells cs z) :
    ∀ c ∈ cs, isBlank c = false := by
  have digits {zeros n : Nat} :
      ∀ c ∈ List.replicate zeros '0' ++ natural n, isBlank c = false :=
    fun c mem => isBlank_of_isDigit (isDigit_of_mem_zeros mem)
  cases h with
  | plain zeros n => exact digits
  | plus zeros n => exact List.forall_mem_cons.mpr ⟨by decide, digits⟩
  | minus zeros n => exact List.forall_mem_cons.mpr ⟨by decide, digits⟩

/-! ## Columns -/

/-- The sign of a number that is written. -/
def sign (z : Int) : List Char := if z < 0 then ['-'] else []

theorem integer_eq (z : Int) : integer z = sign z ++ natural z.natAbs := by
  unfold integer sign
  split <;> rfl

theorem spells_sign_append (zeros : Nat) (z : Int) :
    Spells (sign z ++ (List.replicate zeros '0' ++ natural z.natAbs)) z := by
  unfold sign
  split
  · next negative =>
    have spelled := Spells.minus zeros z.natAbs
    rwa [show -(z.natAbs : Int) = z by omega] at spelled
  · next other =>
    have spelled := Spells.plain zeros z.natAbs
    rwa [show (z.natAbs : Int) = z by omega] at spelled

theorem spells_integer (z : Int) : Spells (integer z) z := by
  rw [integer_eq]
  exact spells_sign_append 0 z

/-- The text is a number on at least so many characters: its sign, which counts as one of them,
zeros, and its digits.  It is read as the number. -/
structure FilledTo (width : Nat) (z : Int) (text : List Char) : Prop where
  form : ∃ zeros, text = sign z ++ (List.replicate zeros '0' ++ natural z.natAbs)
  length : text.length = max width (integer z).length
  read : readSigned? text = some z

theorem zeroFilled_eq (width : Nat) (z : Int) :
    zeroFilled width z = sign z ++
      (List.replicate (width - (integer z).length) '0' ++ natural z.natAbs) := by
  unfold zeroFilled sign integer
  split
  · rw [List.leftpad, List.length_cons, Nat.sub_sub, Nat.add_comm 1]
    rfl
  · rfl

/-- Zeros in front are digits too. -/
theorem eq_minus_or_isDigit_of_mem_zeroFilled {width : Nat} {z : Int} {c : Char}
    (mem : c ∈ zeroFilled width z) : c = '-' ∨ c.isDigit = true := by
  rw [zeroFilled_eq] at mem
  rcases List.mem_append.mp mem with front | digit
  · unfold sign at front
    split at front
    · exact .inl (List.mem_singleton.mp front)
    · exact absurd front List.not_mem_nil
  · exact .inr (isDigit_of_mem_zeros digit)

theorem filledTo_zeroFilled (width : Nat) (z : Int) : FilledTo width z (zeroFilled width z) where
  form := ⟨_, zeroFilled_eq width z⟩
  length := by
    have digits : (integer z).length = (sign z).length + (natural z.natAbs).length := by
      rw [integer_eq, List.length_append]
    rw [zeroFilled_eq, List.length_append, List.length_append, List.length_replicate]
    omega
  read := by
    rw [zeroFilled_eq]
    exact (spells_sign_append _ z).readSigned?

end Text.Numeral

open Text Text.Numeral

/-! ## Words -/

theorem Word.read?_of_readSigned? {cs : List Char} {w : Word}
    (h : readSigned? cs = some w.toInt) : Word.read? (String.ofList cs) = some w := by
  rw [read?, String.toList_ofList, h, Option.bind_some, ofInt?_toInt]

theorem Word.read?_of_spells {cs : List Char} {w : Word} (h : Spells cs w.toInt) :
    Word.read? (String.ofList cs) = some w :=
  Word.read?_of_readSigned? h.readSigned?

/-- A number that fills a column is read back as a word. -/
theorem Text.Numeral.FilledTo.read?_eq {width : Nat} {cs : List Char} {w : Word}
    (filled : FilledTo width w.toInt cs) : Word.read? (String.ofList cs) = some w :=
  Word.read?_of_readSigned? filled.read

end RegisterVM
