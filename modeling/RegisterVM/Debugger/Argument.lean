import RegisterVM.Machine.Basic

/-!
# Address arguments

Where a command expects an address, a register may be named instead; its current value is
then the address.  A literal address is a run of decimal digits of any length.

* `AddressError`: why an argument is no address, and the wording.
* `resolveAddress`: the address that an argument stands for.
* `addressOfWord`: a word taken as an address.
-/

namespace RegisterVM

/-- Why an argument is no address. -/
inductive AddressError where
  /-- There is no argument, or only blanks. -/
  | missing
  /-- The argument is neither a register nor a number. -/
  | malformed (token : String)
  /-- The number lies outside memory. -/
  | outOfRange (text : String)
  deriving DecidableEq, Repr

/-- The wording of an address error. -/
def AddressError.message : AddressError → String
  | missing => "address argument is required"
  | malformed token => "bad address: `" ++ token ++ "'"
  | outOfRange text => "address " ++ text ++ " out of range"

/-- The address that is the value of a word. -/
def addressOfWord (w : Word) : Except AddressError Address :=
  match Address.ofWord? w with
  | some a => .ok a
  | none => .error (.outOfRange w.text)

/-- The address that an argument stands for, blanks around it ignored.  `content` gives the
content of each register.  A literal out of range is reported as it was typed. -/
def resolveAddress (content : Register → Word) (typed : String) :
    Except AddressError Address :=
  let token := Text.trim typed
  if token = "" then .error .missing
  else
    match Register.ofName? token with
    | some r => addressOfWord (content r)
    | none =>
        match Text.Numeral.readNatural? token.toList with
        | none => .error (.malformed token)
        | some number =>
            match Address.ofNumber? number with
            | some a => .ok a
            | none => .error (.outOfRange token)

theorem addressOfWord_eq_ok_iff {w : Word} {a : Address} :
    addressOfWord w = .ok a ↔ w.toInt = a.val := by
  unfold addressOfWord
  rw [← Address.ofWord?_eq_some_iff]
  cases Address.ofWord? w <;> simp

end RegisterVM
