import Mathlib.Data.Nat.Digits.Defs
import RegisterVM.Text.Numeral

/-!
# What digits denote

A numeral is read by going through its digits from the left, each time multiplying by ten what has
been read so far.  What it denotes is said here without any such accumulator: the digit that stands
`i` places before the last one counts `10 ^ i` times, and a minus sign negates the sum.  The two
agree for numerals of any length, and a text that is read is a numeral.

* `Numeral.IsDigits`, `Numeral.value`: one or more digits, and their value.
* `Numeral.Denotes`: the integer that digits behind an optional sign denote.
* `readNatural?_eq_some_iff`, `readSigned?_eq_some_iff`: what is read is what is denoted.
* `places_succ`: the last of several places, in any base.
-/

namespace RegisterVM.Text.Numeral

/-- One or more digits, and nothing else. -/
def IsDigits (cs : List Char) : Prop := cs ≠ [] ∧ ∀ c ∈ cs, '0' ≤ c ∧ c ≤ '9'

/-- The value of digits in base ten; the last one has the weight one. -/
def value (cs : List Char) : Nat :=
  Nat.ofDigits 10 (cs.reverse.map fun c => c.toNat - '0'.toNat)

/-- The integer that a text denotes: digits, with one sign in front of them or none. -/
inductive Denotes : List Char → Int → Prop
  | unsigned {cs : List Char} (digits : IsDigits cs) : Denotes cs (value cs)
  | plus {cs : List Char} (digits : IsDigits cs) : Denotes ('+' :: cs) (value cs)
  | minus {cs : List Char} (digits : IsDigits cs) : Denotes ('-' :: cs) (-(value cs))

theorem isDigit_iff {c : Char} : c.isDigit = true ↔ '0' ≤ c ∧ c ≤ '9' := by
  rw [Char.isDigit, Bool.and_eq_true, decide_eq_true_eq, decide_eq_true_eq]
  exact Iff.rfl

/-- The first of several digits has the greatest weight. -/
theorem value_cons (c : Char) (cs : List Char) :
    value (c :: cs) = (c.toNat - '0'.toNat) * 10 ^ cs.length + value cs := by
  rw [value, List.reverse_cons, List.map_append, Nat.ofDigits_append, List.length_map,
    List.length_reverse, List.map_singleton, Nat.ofDigits_singleton, value]
  ring

/-- Reading from the left comes to the same as adding up by weights. -/
theorem ofDigitChars_eq (cs : List Char) (before : Nat) :
    Nat.ofDigitChars 10 cs before = before * 10 ^ cs.length + value cs := by
  induction cs generalizing before with
  | nil => simp [value]
  | cons c cs ih =>
    rw [Nat.ofDigitChars_cons, ih, value_cons, List.length_cons]
    ring

/-- Exactly digits are read, as their value. -/
theorem readNatural?_eq_some_iff {cs : List Char} {n : Nat} :
    readNatural? cs = some n ↔ IsDigits cs ∧ value cs = n := by
  have digits : IsDigits cs ↔ cs ≠ [] ∧ cs.all Char.isDigit = true := by
    simp only [IsDigits, List.all_eq_true, isDigit_iff]
  have read : Nat.ofDigitChars 10 cs 0 = value cs := by
    rw [ofDigitChars_eq, Nat.zero_mul, Nat.zero_add]
  rw [readNatural?, read, digits]
  split
  · next h => exact Option.some_inj.trans (and_iff_right h).symm
  · next h => exact iff_of_false (Option.some_ne_none n).symm fun other => h other.1

/-- A sign is not a digit. -/
theorem IsDigits.exists_cons {cs : List Char} (digits : IsDigits cs) :
    ∃ c rest, cs = c :: rest ∧ c.isDigit = true := by
  obtain ⟨c, rest, rfl⟩ := List.exists_cons_of_ne_nil digits.1
  exact ⟨c, rest, rfl, isDigit_iff.mpr (digits.2 c List.mem_cons_self)⟩

/-- What is made of digits that are read is made of their value. -/
theorem map_readNatural?_eq_some_iff {cs : List Char} {f : Nat → Int} {z : Int} :
    (readNatural? cs).map f = some z ↔ IsDigits cs ∧ f (value cs) = z := by
  simp only [Option.map_eq_some_iff, readNatural?_eq_some_iff]
  constructor
  · rintro ⟨n, ⟨digits, rfl⟩, rfl⟩
    exact ⟨digits, rfl⟩
  · rintro ⟨digits, rfl⟩
    exact ⟨_, ⟨digits, rfl⟩, rfl⟩

theorem readSigned?_minus (cs : List Char) :
    readSigned? ('-' :: cs) = (readNatural? cs).map fun n : Nat => -(n : Int) := by
  rw [readSigned?]
  cases readNatural? cs <;> rfl

/-- Exactly digits behind an optional sign are read, as the integer that they denote. -/
theorem readSigned?_eq_some_iff {cs : List Char} {z : Int} :
    readSigned? cs = some z ↔ Denotes cs z := by
  constructor
  · intro read
    unfold readSigned? at read
    split at read
    · next cs =>
      rw [← readSigned?.eq_1, readSigned?_minus, map_readNatural?_eq_some_iff] at read
      obtain ⟨digits, rfl⟩ := read
      exact .minus digits
    · obtain ⟨digits, rfl⟩ := map_readNatural?_eq_some_iff.mp read
      exact .plus digits
    · obtain ⟨digits, rfl⟩ := map_readNatural?_eq_some_iff.mp read
      exact .unsigned digits
  · rintro (digits | digits | digits)
    · obtain ⟨c, rest, rfl, digit⟩ := digits.exists_cons
      rw [readSigned?_of_isDigit digit, map_readNatural?_eq_some_iff]
      exact ⟨digits, rfl⟩
    · exact map_readNatural?_eq_some_iff.mpr ⟨digits, rfl⟩
    · rw [readSigned?_minus, map_readNatural?_eq_some_iff]
      exact ⟨digits, rfl⟩

/-! ## Digits in any base -/

theorem toNat_digitChar_lt (d : Nat) : d.digitChar.toNat < 0x80 := by
  have table : ∀ d < 16, d.digitChar.toNat < 0x80 := by decide
  by_cases small : d < 16
  · exact table d small
  · rw [Nat.digitChar_eq_star.mpr (Nat.le_of_not_lt small)]
    decide

/-- A number is written with the digits of its base. -/
theorem exists_digitChar_of_mem_toDigits {b n : Nat} (hb : 1 < b) {c : Char}
    (mem : c ∈ Nat.toDigits b n) : ∃ d < b, c = d.digitChar := by
  induction n using Nat.strongRecOn with
  | ind n ih =>
    rw [Nat.toDigits_eq_if hb] at mem
    split at mem
    · next small => exact ⟨n, small, List.mem_singleton.mp mem⟩
    · next large =>
      rcases List.mem_append.mp mem with front | last
      · exact ih (n / b) (Nat.div_lt_self (by omega) hb) front
      · exact ⟨n % b, Nat.mod_lt n (by omega), List.mem_singleton.mp last⟩

theorem exists_digitChar_of_mem_places {b k n : Nat} (hb : 1 < b) {c : Char}
    (mem : c ∈ places b k n) : ∃ d < b, c = d.digitChar := by
  rcases List.mem_append.mp mem with zero | digit
  · exact ⟨0, by omega, List.eq_of_mem_replicate zero⟩
  · exact exists_digitChar_of_mem_toDigits hb digit

theorem toNat_lt_of_mem_places {b k n : Nat} (hb : 1 < b) {c : Char} (mem : c ∈ places b k n) :
    c.toNat < 0x80 := by
  obtain ⟨d, -, rfl⟩ := exists_digitChar_of_mem_places hb mem
  exact toNat_digitChar_lt d

/-- An integer is written with digits and at most a minus sign. -/
theorem eq_minus_or_isDigit_of_mem_integer {z : Int} {c : Char} (mem : c ∈ integer z) :
    c = '-' ∨ c.isDigit = true := by
  unfold integer at mem
  split at mem
  · exact (List.mem_cons.mp mem).imp_right isDigit_of_mem_natural
  · exact .inr (isDigit_of_mem_natural mem)

/-- A digit is ASCII. -/
theorem toNat_lt_of_isDigit {c : Char} (h : c.isDigit = true) : c.toNat < 0x80 := by
  have high : c.toNat ≤ '9'.toNat := (isDigit_iff.mp h).2
  exact high.trans_lt (by decide)

theorem toNat_lt_of_mem_integer {z : Int} {c : Char} (mem : c ∈ integer z) : c.toNat < 0x80 := by
  rcases eq_minus_or_isDigit_of_mem_integer mem with rfl | digit
  · decide
  · exact toNat_lt_of_isDigit digit

/-- The last of several places holds the remainder, the places before it the quotient. -/
theorem places_succ {b k : Nat} (hb : 1 < b) (hk : 0 < k) (n : Nat) :
    places b (k + 1) n = places b k (n / b) ++ [(n % b).digitChar] := by
  unfold places
  rw [Nat.toDigits_eq_if hb]
  split
  · next small =>
    obtain ⟨k, rfl⟩ := Nat.exists_eq_add_one_of_ne_zero hk.ne'
    have zero : Nat.toDigits b 0 = ['0'] := Nat.toDigits_of_lt_base (Nat.zero_lt_of_lt hb)
    rw [Nat.div_eq_of_lt small, Nat.mod_eq_of_lt small, zero, List.leftpad, List.leftpad,
      List.length_singleton, List.length_singleton, Nat.add_sub_cancel, Nat.add_sub_cancel,
      List.replicate_succ']
  · next large =>
    rw [List.leftpad, List.leftpad, List.length_append, List.length_singleton,
      Nat.add_sub_add_right, List.append_assoc]

/-- A number below a thousand on three places. -/
theorem zeroFilled_three {n : Nat} (h : n < 1000) :
    zeroFilled 3 n = [(n / 100).digitChar, (n / 10 % 10).digitChar, (n % 10).digitChar] := by
  have filled : zeroFilled 3 n = places 10 3 n := if_neg (by omega)
  have first : places 10 1 (n / 10 / 10) = [(n / 100).digitChar] := by
    rw [Nat.div_div_eq_div_mul, places, Nat.toDigits_of_lt_base (by omega)]
    rfl
  rw [filled, places_succ (by decide) (by decide), places_succ (by decide) (by decide), first]
  rfl

end RegisterVM.Text.Numeral
