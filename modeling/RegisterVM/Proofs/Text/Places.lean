import RegisterVM.Machine.Word
import RegisterVM.Proofs.Text.Digits

/-!
# Words in columns of digits

The bits of a word are written in base two or sixteen, with zeros in front up to the number of
places that the largest word takes.  What such a column denotes is said without the function that
writes it: a digit has the value of its place among the sixteen digits, a column is read by weights,
and thirty-two bits stand for an integer in two's complement.

* `Numeral.digits`, `Numeral.placeValue`: the digits in the order of their values, and what a column
  denotes; `placeValue_places` says that writing keeps the value.
* `length_places`: a column has as many places as were asked for, unless the number is too large.
* `Word.twosComplement`: the integer of thirty-two bits.
* `Word.BitsOn`, `Word.bitsOn_places`: a word in a column.
-/

namespace RegisterVM

namespace Text.Numeral

/-- The digits, in the order of their values. -/
def digits : List Char :=
  ['0', '1', '2', '3', '4', '5', '6', '7', '8', '9', 'a', 'b', 'c', 'd', 'e', 'f']

/-- What digits denote in a base; the last one has the weight one. -/
def placeValue (base : Nat) (cs : List Char) : Nat :=
  Nat.ofDigits base (cs.reverse.map fun c => digits.idxOf c)

variable {b k n : Nat}

theorem idxOf_digitChar {d : Nat} (h : d < 16) : digits.idxOf d.digitChar = d := by
  have table : ∀ d < 16, digits.idxOf d.digitChar = d := by decide
  exact table d h

/-- A base has the digits whose values are below it. -/
theorem digitChar_mem_take {d : Nat} (h : d < b) (hb : b ≤ 16) :
    d.digitChar ∈ digits.take b := by
  have table : ∀ b ≤ 16, ∀ d < b, d.digitChar ∈ digits.take b := by decide
  exact table b hb d h

theorem placeValue_concat (b : Nat) (cs : List Char) (c : Char) :
    placeValue b (cs ++ [c]) = digits.idxOf c + b * placeValue b cs := by
  rw [placeValue, List.reverse_concat, List.map_cons, Nat.ofDigits_cons, placeValue]

/-- Zeros in front add nothing. -/
theorem placeValue_zeros_append (b zeros : Nat) (cs : List Char) :
    placeValue b (List.replicate zeros '0' ++ cs) = placeValue b cs := by
  have value : digits.idxOf '0' = 0 := by decide
  rw [placeValue, List.reverse_append, List.reverse_replicate, List.map_append, List.map_replicate,
    value, Nat.ofDigits_append_replicate_zero, placeValue]

/-- The digits of a number denote it. -/
theorem placeValue_toDigits (hb : 1 < b) (sixteen : b ≤ 16) (n : Nat) :
    placeValue b (Nat.toDigits b n) = n := by
  induction n using Nat.strongRecOn with
  | ind n ih =>
    rw [Nat.toDigits_eq_if hb]
    split
    · next small =>
      rw [placeValue, List.reverse_singleton, List.map_singleton, Nat.ofDigits_singleton,
        idxOf_digitChar (small.trans_le sixteen)]
    · next large =>
      have last : n % b < 16 := (Nat.mod_lt n (by omega)).trans_le sixteen
      rw [placeValue_concat, ih (n / b) (Nat.div_lt_self (by omega) hb), idxOf_digitChar last,
        Nat.mod_add_div]

theorem placeValue_places (hb : 1 < b) (sixteen : b ≤ 16) (k n : Nat) :
    placeValue b (places b k n) = n := by
  rw [places, List.leftpad, placeValue_zeros_append, placeValue_toDigits hb sixteen]

/-- A number that fits is written on exactly as many places as it is given. -/
theorem length_places (hb : 1 < b) (hk : 0 < k) (fits : n < b ^ k) : (places b k n).length = k := by
  have short := (Nat.length_toDigits_le_iff hb hk).mpr fits
  rw [places, List.leftpad, List.length_append, List.length_replicate]
  omega

end Text.Numeral

open Text.Numeral

namespace Word

/-- The integer that thirty-two bits stand for: those with the highest bit set are the negative
ones. -/
def twosComplement (bits : Nat) : Int :=
  if bits < 2147483648 then bits else bits - 4294967296

theorem twosComplement_bits (w : Word) : twosComplement w.bits = w.toInt := by
  have signed : w.toInt = if 2 * w.bits < 2 ^ 32 then (w.bits : Int) else w.bits - (2 ^ 32 : Nat) :=
    BitVec.toInt_eq_toNat_cond w.toBitVec
  rw [signed, twosComplement]
  split <;> split <;> omega

/-- The bits of a word are its value modulo `2 ^ 32`. -/
theorem natCast_bits (w : Word) : (w.bits : Int) = w.toInt % 4294967296 := by
  have range := w.bits_lt
  rw [← twosComplement_bits, twosComplement]
  split <;> omega

/-- The digits are a word on so many places in a base: they denote its value modulo `2 ^ 32`, and
what they denote is the word in two's complement. -/
structure BitsOn (base count : Nat) (w : Word) (cs : List Char) : Prop where
  length : cs.length = count
  digits : ∀ c ∈ cs, c ∈ digits.take base
  value : (placeValue base cs : Int) = w.toInt % 4294967296
  signed : twosComplement (placeValue base cs) = w.toInt

theorem bitsOn_places {b k : Nat} (hb : 1 < b) (sixteen : b ≤ 16) (hk : 0 < k)
    (fits : 4294967296 ≤ b ^ k) (w : Word) : BitsOn b k w (places b k w.bits) where
  length := length_places hb hk (w.bits_lt.trans_le fits)
  digits := by
    intro c mem
    obtain ⟨d, small, rfl⟩ := exists_digitChar_of_mem_places hb mem
    exact digitChar_mem_take small sixteen
  value := by rw [placeValue_places hb sixteen, natCast_bits]
  signed := by rw [placeValue_places hb sixteen, twosComplement_bits]

/-- A column shows one word only. -/
theorem BitsOn.unique {b k : Nat} {v w : Word} {cs : List Char} (hv : BitsOn b k v cs)
    (hw : BitsOn b k w cs) : v = w :=
  Int32.toInt_inj.mp (hv.signed.symm.trans hw.signed)

end Word

end RegisterVM
