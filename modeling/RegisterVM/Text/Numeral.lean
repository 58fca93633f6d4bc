/-!
# Numerals

Numbers are written in base ten, and in fixed-width columns of base two and sixteen.  They
are read back with any number of leading zeros and with an optional sign; reading is exact,
whatever the length of the text, and the range that a caller allows is the caller's own
test on the value.

* `natural`, `integer`: the decimal text of a number; `decimal` is the one of a natural
  number as a string.
* `zeroFilled`: a decimal text filled with zeros between sign and digits.
* `places`: a number in another base, on a fixed number of places.
* `readNatural?`, `readUnsigned?`, `readSigned?`: digits alone, digits after an optional
  plus, digits after an optional sign.
* `readNatural?_natural`, `readSigned?_integer`: reading inverts writing.
-/

namespace RegisterVM.Text.Numeral

/-- The decimal digits of a natural number, at least one. -/
def natural (n : Nat) : List Char := Nat.toDigits 10 n

/-- The decimal text of a natural number. -/
def decimal (n : Nat) : String := String.ofList (natural n)

/-- The decimal text of an integer: a minus sign in front of a negative one. -/
def integer (z : Int) : List Char :=
  if z < 0 then '-' :: natural z.natAbs else natural z.natAbs

/-- The decimal text of an integer on at least `width` characters.  Zeros fill the place
between sign and digits, and the sign counts as a character. -/
def zeroFilled (width : Nat) (z : Int) : List Char :=
  if z < 0 then '-' :: (natural z.natAbs).leftpad (width - 1) '0'
  else (natural z.natAbs).leftpad width '0'

/-- The digits of `n` in the given base, zeros in front up to `count` of them. -/
def places (base count n : Nat) : List Char :=
  (Nat.toDigits base n).leftpad count '0'

/-- Reads one or more decimal digits. -/
def readNatural? (cs : List Char) : Option Nat :=
  if cs ≠ [] ∧ cs.all Char.isDigit then some (Nat.ofDigitChars 10 cs 0) else none

/-- Reads digits, a plus sign in front allowed. -/
def readUnsigned? : List Char → Option Nat
  | '+' :: ds => readNatural? ds
  | ds => readNatural? ds

/-- Reads digits, one sign in front allowed. -/
def readSigned? : List Char → Option Int
  | '-' :: ds => (readNatural? ds).map fun n => -(n : Int)
  | '+' :: ds => (readNatural? ds).map Int.ofNat
  | ds => (readNatural? ds).map Int.ofNat

theorem natural_ne_nil (n : Nat) : natural n ≠ [] := Nat.toDigits_ne_nil

theorem isDigit_of_mem_natural {n : Nat} {c : Char} (h : c ∈ natural n) :
    c.isDigit = true :=
  Nat.isDigit_of_mem_toDigits (by decide) (by decide) h

/-- The text of a natural number begins with a digit. -/
theorem exists_natural_eq_cons (n : Nat) :
    ∃ c cs, natural n = c :: cs ∧ c.isDigit = true := by
  obtain ⟨c, cs, eq⟩ := List.exists_cons_of_ne_nil (natural_ne_nil n)
  exact ⟨c, cs, eq, isDigit_of_mem_natural (eq ▸ List.mem_cons_self)⟩

/-- Reading digits inverts writing them. -/
@[simp] theorem readNatural?_natural (n : Nat) : readNatural? (natural n) = some n := by
  have digits : (natural n).all Char.isDigit = true := by
    simp only [List.all_eq_true]
    exact fun c hc => isDigit_of_mem_natural hc
  simp only [readNatural?, ne_eq, natural_ne_nil, not_false_eq_true, digits, and_self, if_true]
  simp [natural, Nat.ofDigitChars_toDigits]

/-- Without a sign, a signed number is read as a natural one. -/
theorem readSigned?_of_isDigit {c : Char} (h : c.isDigit = true) (cs : List Char) :
    readSigned? (c :: cs) = (readNatural? (c :: cs)).map Int.ofNat := by
  unfold readSigned?
  split
  · next eq =>
    obtain rfl := (List.cons.inj eq).1
    simp [Char.isDigit] at h
  · next eq =>
    obtain rfl := (List.cons.inj eq).1
    simp [Char.isDigit] at h
  · rfl

theorem readSigned?_natural (n : Nat) : readSigned? (natural n) = some (n : Int) := by
  obtain ⟨c, cs, eq, digit⟩ := exists_natural_eq_cons n
  rw [eq, readSigned?_of_isDigit digit, ← eq, readNatural?_natural]
  rfl

/-- Reading a signed number inverts writing it. -/
@[simp] theorem readSigned?_integer (z : Int) : readSigned? (integer z) = some z := by
  unfold integer
  split
  · next neg =>
    rw [readSigned?, readNatural?_natural]
    exact congrArg some (show -(z.natAbs : Int) = z by omega)
  · next pos =>
    rw [readSigned?_natural, Option.some.injEq]
    omega

end RegisterVM.Text.Numeral
