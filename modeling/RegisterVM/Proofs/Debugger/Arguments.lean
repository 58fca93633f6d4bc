import RegisterVM.Debugger.Argument
import RegisterVM.Proofs.Text.Digits
import RegisterVM.Proofs.Text.Letters
import RegisterVM.Proofs.Text.Words

/-!
# What the arguments of a command stand for

The operator names a register or an address by a text, which may have blanks around it.  What such
a text may look like is given here as a grammar, rule by rule, and what is read is what the grammar
derives: nothing else is taken for a register, and every text has exactly one reading as an
address.

* `Register.Names`: the names of the registers; `ofLetters?_eq_some_iff` says that exactly these
  are read.
* `AddressOf`: the address of an argument, or why it is none; `addressOf_resolveAddress` and
  `resolveAddress_of_addressOf` say that it is what the argument resolves to.

The rules for addresses are tried in order, but the order only matters before the last one: a
register name begins with a letter (`Register.Names.toLower_mem`), so no digits are a register name
(`Register.Names.not_isDigits`).
-/

namespace RegisterVM

open Text Text.Numeral

/-! ## Names of registers -/

/-- The names of a register: that of its role, in either case; and the letter `r`, in either case,
with its number, leading zeros allowed. -/
inductive Register.Names : List Char → Register → Prop
  | ip {name : List Char} (letters : List.Forall₂ SameLetter name ['i', 'p']) : Names name .ip
  | rp {name : List Char} (letters : List.Forall₂ SameLetter name ['r', 'p']) : Names name .rp
  | fp {name : List Char} (letters : List.Forall₂ SameLetter name ['f', 'p']) : Names name .fp
  | sp {name : List Char} (letters : List.Forall₂ SameLetter name ['s', 'p']) : Names name .sp
  | numbered {letter : Char} {digits : List Char} {r : Register}
      (letter_eq : letter = 'r' ∨ letter = 'R') (isDigits : IsDigits digits)
      (number : value digits = r.val) : Names (letter :: digits) r

namespace Register

variable {name digits : List Char} {r : Register}

/-- A number behind the letter `r` is the number of a register. -/
theorem readNatural?_bind_ofNumber?_eq_some_iff :
    (readNatural? digits).bind ofNumber? = some r ↔ IsDigits digits ∧ value digits = r.val := by
  rw [Option.bind_eq_some_iff]
  constructor
  · rintro ⟨number, read, inside⟩
    obtain ⟨isDigits, rfl⟩ := readNatural?_eq_some_iff.mp read
    exact ⟨isDigits, ofNumber?_eq_some_iff.mp inside⟩
  · rintro ⟨isDigits, number⟩
    exact ⟨_, readNatural?_eq_some_iff.mpr ⟨isDigits, rfl⟩, ofNumber?_eq_some_iff.mpr number⟩

/-- The name of a role ends in `p`, which is not a digit: so it is not the name of a number. -/
theorem not_isDigits_of_sameLetters {letter : Char} {first : Char}
    (letters : sameLetters (letter :: digits) [first, 'p'] = true) : ¬ IsDigits digits := by
  intro isDigits
  rw [sameLetters_iff] at letters
  obtain _ | ⟨-, rest⟩ := letters
  obtain _ | ⟨last, none⟩ := rest
  obtain ⟨low, high⟩ := isDigits.2 _ List.mem_cons_self
  have digit := isDigit_iff.mpr ⟨low, high⟩
  rw [sameLetter_iff, toLower_of_isDigit digit] at last
  subst last
  exact absurd digit (by decide)

/-- The letters of a role stand for its register. -/
theorem lowerCase_of_letters {first : Char} (small : first.toLower = first)
    (letters : List.Forall₂ SameLetter name [first, 'p']) : lowerCase name = [first, 'p'] := by
  have same : lowerCase name = [first.toLower, 'p'] := by
    simpa [sameLetters, lowerCase] using sameLetters_iff.mpr letters
  rwa [small] at same

/-- Behind the letter `r`, digits are read as a number. -/
theorem ofLetters?_of_isDigits {letter : Char} (letter_eq : letter = 'r' ∨ letter = 'R')
    (isDigits : IsDigits digits) :
    ofLetters? (letter :: digits) = (readNatural? digits).bind ofNumber? := by
  have noRole (first : Char) : sameLetters (letter :: digits) [first, 'p'] = false :=
    Bool.eq_false_iff.mpr fun letters => not_isDigits_of_sameLetters letters isDigits
  simp only [ofLetters?, noRole, Bool.false_eq_true, if_false]
  rcases letter_eq with rfl | rfl <;> rfl

/-- Exactly the names of the grammar are read. -/
theorem ofLetters?_eq_some_iff : ofLetters? name = some r ↔ Names name r := by
  constructor
  · intro read
    unfold ofLetters? at read
    split at read
    · next letters =>
      obtain rfl := Option.some.inj read
      exact .ip (sameLetters_iff.mp letters)
    split at read
    · next letters =>
      obtain rfl := Option.some.inj read
      exact .rp (sameLetters_iff.mp letters)
    split at read
    · next letters =>
      obtain rfl := Option.some.inj read
      exact .fp (sameLetters_iff.mp letters)
    split at read
    · next letters =>
      obtain rfl := Option.some.inj read
      exact .sp (sameLetters_iff.mp letters)
    split at read
    · obtain ⟨isDigits, number⟩ := readNatural?_bind_ofNumber?_eq_some_iff.mp read
      exact .numbered (.inl rfl) isDigits number
    · obtain ⟨isDigits, number⟩ := readNatural?_bind_ofNumber?_eq_some_iff.mp read
      exact .numbered (.inr rfl) isDigits number
    · exact absurd read.symm (Option.some_ne_none r)
  · rintro (letters | letters | letters | letters | ⟨letter_eq, isDigits, number⟩)
    · simp only [ofLetters?, sameLetters, lowerCase_of_letters (by decide) letters]
      rfl
    · simp only [ofLetters?, sameLetters, lowerCase_of_letters (by decide) letters]
      rfl
    · simp only [ofLetters?, sameLetters, lowerCase_of_letters (by decide) letters]
      rfl
    · simp only [ofLetters?, sameLetters, lowerCase_of_letters (by decide) letters]
      rfl
    · rw [ofLetters?_of_isDigits letter_eq isDigits]
      exact readNatural?_bind_ofNumber?_eq_some_iff.mpr ⟨isDigits, number⟩

theorem ofLetters?_eq_none_iff : ofLetters? name = none ↔ ∀ r, ¬ Names name r := by
  rw [Option.eq_none_iff_forall_ne_some]
  exact forall_congr' fun r => not_congr ofLetters?_eq_some_iff

/-- The name of a register begins with one of four letters. -/
theorem Names.toLower_mem {c : Char} {cs : List Char} (named : Names (c :: cs) r) :
    c.toLower ∈ ['i', 'r', 'f', 's'] := by
  have role {a b : Char} (letters : List.Forall₂ SameLetter (c :: cs) [a, b]) :
      c.toLower = a.toLower := by
    obtain _ | ⟨first, -⟩ := letters
    exact sameLetter_iff.mp first
  cases named with
  | ip letters => exact role letters ▸ (by decide)
  | rp letters => exact role letters ▸ (by decide)
  | fp letters => exact role letters ▸ (by decide)
  | sp letters => exact role letters ▸ (by decide)
  | numbered letter_eq => rcases letter_eq with rfl | rfl <;> decide

theorem ofLetters?_of_other {c : Char} (h : c.toLower ∉ ['i', 'r', 'f', 's']) (cs : List Char) :
    ofLetters? (c :: cs) = none :=
  ofLetters?_eq_none_iff.mpr fun _ named => h named.toLower_mem

/-- No digits are the name of a register. -/
theorem Names.not_isDigits (named : Names name r) : ¬ IsDigits name := by
  intro isDigits
  obtain ⟨c, rest, rfl, digit⟩ := isDigits.exists_cons
  have letters : (['i', 'r', 'f', 's'].all fun d => !d.isDigit) = true := by decide
  have letter := List.all_eq_true.mp letters _ named.toLower_mem
  rw [toLower_of_isDigit digit, digit] at letter
  cases letter

/-- A register name is not empty. -/
theorem Names.ne_nil (named : Names name r) : name ≠ [] := by
  rintro rfl
  have none : ofLetters? [] = none := by decide
  exact ofLetters?_eq_none_iff.mp none r named

end Register

/-! ## Addresses -/

/-- What an argument without blanks around it comes to, in registers of the given content: an
address, or why there is none.  A register stands for the value that it holds; digits stand for
their value, however many there are. -/
inductive AddressOf (content : Register → Word) : List Char → Except AddressError Address → Prop
  | missing : AddressOf content [] (.error .missing)
  | held {token : List Char} {r : Register} {a : Address} (named : Register.Names token r)
      (inside : (content r).toInt = a.val) : AddressOf content token (.ok a)
  | heldOutside {token : List Char} {r : Register} (named : Register.Names token r)
      (outside : (content r).toInt < 0 ∨ 500 ≤ (content r).toInt) :
      AddressOf content token (.error (.outOfRange (content r).text))
  | literal {token : List Char} {a : Address} (unnamed : ∀ r, ¬ Register.Names token r)
      (isDigits : IsDigits token) (inside : value token = a.val) :
      AddressOf content token (.ok a)
  | literalOutside {token : List Char} (unnamed : ∀ r, ¬ Register.Names token r)
      (isDigits : IsDigits token) (outside : 500 ≤ value token) :
      AddressOf content token (.error (.outOfRange (String.ofList token)))
  | malformed {token : List Char} (present : token ≠ [])
      (unnamed : ∀ r, ¬ Register.Names token r) (noDigits : ¬ IsDigits token) :
      AddressOf content token (.error (.malformed (String.ofList token)))

variable {content : Register → Word} {token : List Char}

/-- The value of a word as an address. -/
theorem addressOfWord_of_outside {w : Word} (outside : w.toInt < 0 ∨ 500 ≤ w.toInt) :
    addressOfWord w = .error (.outOfRange w.text) := by
  rw [addressOfWord, Address.ofWord?_eq_none_iff.mpr outside]

section Resolution

variable {typed : String}

theorem trim_eq_empty_iff : trim typed = "" ↔ trimBlanks typed.toList = [] := by
  rw [trim, String.ofList_eq_empty_iff]

/-- Blanks around the name of a register do not count. -/
theorem Register.ofName?_trim (typed : String) : ofName? (trim typed) = ofName? typed := by
  rw [ofName?, ofName?, trim, String.toList_ofList, trimBlanks_trimBlanks]

theorem resolveAddress_of_blank (blank : trimBlanks typed.toList = []) :
    resolveAddress content typed = .error .missing := by
  rw [resolveAddress, if_pos (trim_eq_empty_iff.mpr blank)]

/-- A register stands for what it holds. -/
theorem resolveAddress_of_names {r : Register}
    (named : Register.Names (trimBlanks typed.toList) r) :
    resolveAddress content typed = addressOfWord (content r) := by
  have present : trim typed ≠ "" := fun empty => named.ne_nil (trim_eq_empty_iff.mp empty)
  have read : Register.ofName? typed = some r := Register.ofLetters?_eq_some_iff.mpr named
  rw [resolveAddress, if_neg present]
  simp only [Register.ofName?_trim, read]

/-- Digits stand for their value. -/
theorem resolveAddress_of_isDigits (isDigits : IsDigits (trimBlanks typed.toList)) :
    resolveAddress content typed =
      match Address.ofNumber? (value (trimBlanks typed.toList)) with
      | some a => .ok a
      | none => .error (.outOfRange (trim typed)) := by
  have present : trim typed ≠ "" := fun empty => isDigits.1 (trim_eq_empty_iff.mp empty)
  have read : Register.ofName? typed = none :=
    Register.ofLetters?_eq_none_iff.mpr fun r named => named.not_isDigits isDigits
  have number : readNatural? (trim typed).toList = some (value (trimBlanks typed.toList)) := by
    rw [trim, String.toList_ofList]
    exact readNatural?_eq_some_iff.mpr ⟨isDigits, rfl⟩
  rw [resolveAddress, if_neg present]
  cases inside : Address.ofNumber? (value (trimBlanks typed.toList)) <;>
    simp only [Register.ofName?_trim, read, number, inside]

/-- Anything else is no address. -/
theorem resolveAddress_of_other (present : trimBlanks typed.toList ≠ [])
    (unnamed : ∀ r, ¬ Register.Names (trimBlanks typed.toList) r)
    (noDigits : ¬ IsDigits (trimBlanks typed.toList)) :
    resolveAddress content typed = .error (.malformed (trim typed)) := by
  have shown : trim typed ≠ "" := fun empty => present (trim_eq_empty_iff.mp empty)
  have read : Register.ofName? typed = none := Register.ofLetters?_eq_none_iff.mpr unnamed
  have number : readNatural? (trim typed).toList = none := by
    rw [trim, String.toList_ofList, Option.eq_none_iff_forall_ne_some]
    exact fun n read => noDigits (readNatural?_eq_some_iff.mp read).1
  rw [resolveAddress, if_neg shown]
  simp only [Register.ofName?_trim, read, number]

/-- The address of every argument is as the rules say. -/
theorem addressOf_resolveAddress (content : Register → Word) (typed : String) :
    AddressOf content (trimBlanks typed.toList) (resolveAddress content typed) := by
  by_cases blank : trimBlanks typed.toList = []
  · rw [resolveAddress_of_blank blank, blank]
    exact .missing
  by_cases named : ∃ r, Register.Names (trimBlanks typed.toList) r
  · obtain ⟨r, named⟩ := named
    rw [resolveAddress_of_names named]
    cases inside : Address.ofWord? (content r) with
    | some a =>
      rw [addressOfWord, inside]
      exact .held named (Address.ofWord?_eq_some_iff.mp inside)
    | none =>
      have outside := Address.ofWord?_eq_none_iff.mp inside
      rw [addressOfWord_of_outside outside]
      exact .heldOutside named outside
  have unnamed := not_exists.mp named
  by_cases isDigits : IsDigits (trimBlanks typed.toList)
  · rw [resolveAddress_of_isDigits isDigits]
    cases inside : Address.ofNumber? (value (trimBlanks typed.toList)) with
    | some a => exact .literal unnamed isDigits (Address.ofNumber?_eq_some_iff.mp inside)
    | none =>
      refine .literalOutside unnamed isDigits ?_
      by_contra small
      rw [Address.ofNumber?, dif_pos (Nat.lt_of_not_le small)] at inside
      cases inside
  · rw [resolveAddress_of_other blank unnamed isDigits]
    exact .malformed blank unnamed isDigits

/-- An argument comes to one thing only. -/
theorem resolveAddress_of_addressOf {result : Except AddressError Address}
    (h : AddressOf content (trimBlanks typed.toList) result) :
    resolveAddress content typed = result := by
  generalize eq : trimBlanks typed.toList = token at h
  have shown : trim typed = String.ofList token := by rw [trim, eq]
  cases h with
  | missing => exact resolveAddress_of_blank eq
  | held named inside =>
    rw [resolveAddress_of_names (eq ▸ named)]
    exact addressOfWord_eq_ok_iff.mpr inside
  | heldOutside named outside =>
    rw [resolveAddress_of_names (eq ▸ named)]
    exact addressOfWord_of_outside outside
  | literal unnamed isDigits inside =>
    subst eq
    rw [resolveAddress_of_isDigits isDigits, Address.ofNumber?_eq_some_iff.mpr inside]
  | literalOutside unnamed isDigits outside =>
    subst eq
    rw [resolveAddress_of_isDigits isDigits, Address.ofNumber?,
      dif_neg (Nat.not_lt.mpr outside), shown]
  | malformed present unnamed noDigits =>
    subst eq
    rw [resolveAddress_of_other present unnamed noDigits, shown]

end Resolution

/-! ## The main statement -/

/-- **Arguments are read by their grammar.**  Let `token` be what was typed without the blanks
around it.

* It is read as a register exactly when it is a name of that register, and as none otherwise.
* It comes to an address, or to an error, exactly as the rules for addresses say, and to one of
  these only.
* So every address is below five hundred, and the name of a register means the value that it holds.
-/
theorem arguments_follow_grammar (typed : String) (content : Register → Word) :
    let token := trimBlanks typed.toList
    Trimmed typed.toList token ∧
    (∀ r, Register.ofName? typed = some r ↔ Register.Names token r) ∧
    (Register.ofName? typed = none ↔ ∀ r, ¬ Register.Names token r) ∧
    (∀ result, resolveAddress content typed = result ↔ AddressOf content token result) ∧
    (∀ a, resolveAddress content typed = .ok a → a.val < 500) ∧
    (∀ r, Register.Names token r →
      ∀ a, resolveAddress content typed = .ok a ↔ (content r).toInt = a.val) := by
  intro token
  refine ⟨trimmed_trimBlanks typed.toList, fun r => Register.ofLetters?_eq_some_iff,
    Register.ofLetters?_eq_none_iff, fun result => ⟨?_, resolveAddress_of_addressOf⟩,
    fun a _ => a.isLt, fun r named a => ?_⟩
  · rintro rfl
    exact addressOf_resolveAddress content typed
  · rw [resolveAddress_of_names named]
    exact addressOfWord_eq_ok_iff

/-- A name in capitals with leading zeros, between an ideographic space and a tab, means the value
that the register holds and not its number. -/
theorem arguments_follow_grammar_seventh :
    let typed := "\u3000R0007\t"
    let content (r : Register) : Word := if r = 7 then 120 else 0
    Register.ofName? typed = some 7 ∧ resolveAddress content typed = .ok 120 := by
  intro typed content
  obtain ⟨-, named, -, -, -, held⟩ := arguments_follow_grammar typed content
  have name : Register.Names (trimBlanks typed.toList) 7 := by
    have token : trimBlanks typed.toList = ['R', '0', '0', '0', '7'] := by decide
    rw [token]
    refine .numbered (.inr rfl) ⟨by simp, by simp⟩ ?_
    decide
  exact ⟨(named 7).mpr name, (held 7 name 120).mpr (by decide)⟩

end RegisterVM
