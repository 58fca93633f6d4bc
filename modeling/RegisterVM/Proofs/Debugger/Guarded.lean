import RegisterVM.Proofs.Debugger.Restart
import RegisterVM.Proofs.Machine.Guarded

/-!
# Sessions behind guards

A session looks into the storage of its machine, and it counts down.  What it looks up comes from a
command line: a name is resolved to the number of a register, an argument to the number of a cell,
and only then is the number used.  What it counts down is what is left of a counted step, and the
count that the operator has given.  Here all of this stands behind guards, and so do the steps and
the loads of the machine.

A breakpoint is never looked up.  Still it is stored behind the guard of a cell, which asks for more
than the program does.

* `Register.numberOf?`, `Guarded.resolve`: names and addresses, resolved to plain numbers.
* `Session.advanceGuarded`, `Session.performGuarded`, `Session.submitGuarded`: the calls of a
  session behind guards, and `Session.startGuarded` its first load.
* `Session.replyGuarded_eq`, `Session.afterGuarded_eq`: no guard is met by a call, and by no history
  of calls.
-/

namespace RegisterVM

/-! ## Names and addresses -/

/-- The number of the register that a trimmed name stands for. -/
def Register.numberOfLetters? (name : List Char) : Option Nat :=
  if Text.sameLetters name ['i', 'p'] then some 0
  else if Text.sameLetters name ['r', 'p'] then some 29
  else if Text.sameLetters name ['f', 'p'] then some 30
  else if Text.sameLetters name ['s', 'p'] then some 31
  else
    match name with
    | 'r' :: digits => (Text.Numeral.readNatural? digits).filter (· < 32)
    | 'R' :: digits => (Text.Numeral.readNatural? digits).filter (· < 32)
    | _ => none

/-- The number of the register that a typed name stands for. -/
def Register.numberOf? (typed : String) : Option Nat :=
  numberOfLetters? (Text.trimBlanks typed.toList)

theorem Register.filter_lt_eq (number? : Option Nat) :
    number?.filter (· < 32) = (number?.bind ofNumber?).map Fin.val := by
  cases number? with
  | none => rfl
  | some number =>
    by_cases h : number < 32 <;> simp [Option.filter, ofNumber?, h]

theorem Register.numberOfLetters?_eq (name : List Char) :
    numberOfLetters? name = (ofLetters? name).map Fin.val := by
  unfold numberOfLetters? ofLetters?
  split_ifs
  · rfl
  · rfl
  · rfl
  · rfl
  · split
    · exact filter_lt_eq _
    · exact filter_lt_eq _
    · simp only [*, Option.map_none]

/-- A name stands for the number of its register. -/
theorem Register.numberOf?_eq (typed : String) :
    numberOf? typed = (ofName? typed).map Fin.val := numberOfLetters?_eq _

namespace Guarded

/-- A difference of counters. -/
def subtract (minuend subtrahend : Nat) : Except Hazard Nat :=
  if subtrahend ≤ minuend then .ok (minuend - subtrahend)
  else .error (.subtraction minuend subtrahend)

theorem subtract_of_le {minuend subtrahend : Nat} (h : subtrahend ≤ minuend) :
    subtract minuend subtrahend = .ok (minuend - subtrahend) := if_pos h

/-- The number of the cell whose address is the value of a word. -/
def numberOfWord (w : Word) : Except AddressError Nat :=
  if 0 ≤ w.toInt ∧ w.toInt.toNat < 500 then .ok w.toInt.toNat else .error (.outOfRange w.text)

/-- The number of the cell that an argument stands for. -/
def resolve (m : Machine) (typed : String) : Except Hazard (Except AddressError Nat) :=
  let token := Text.trim typed
  if token = "" then return .error .missing
  else
    match Register.numberOf? token with
    | some number => do return numberOfWord (← registerAt m number)
    | none =>
        match Text.Numeral.readNatural? token.toList with
        | none => return .error (.malformed token)
        | some number => return if number < 500 then .ok number else .error (.outOfRange token)

theorem numberOfWord_eq (w : Word) : numberOfWord w = (addressOfWord w).map Fin.val := by
  unfold numberOfWord addressOfWord
  cases h : Address.ofWord? w with
  | some a =>
    rw [Address.ofWord?_eq_some_iff] at h
    rw [if_pos (by omega), h]
    rfl
  | none =>
    rw [Address.ofWord?_eq_none_iff] at h
    rw [if_neg (by omega)]
    rfl

/-- An argument stands for the number of its cell, and no guard is met on the way. -/
theorem resolve_eq (m : Machine) (typed : String) :
    resolve m typed = .ok ((resolveAddress m.reg typed).map Fin.val) := by
  unfold resolve resolveAddress
  dsimp only
  split
  · rfl
  · rw [Register.numberOf?_eq]
    cases Register.ofName? (Text.trim typed) with
    | some r =>
      dsimp only [Option.map]
      rw [registerAt_val, ← numberOfWord_eq]
      rfl
    | none =>
      dsimp only [Option.map]
      cases Text.Numeral.readNatural? (Text.trim typed).toList with
      | none => rfl
      | some number =>
        dsimp only [Address.ofNumber?]
        by_cases h : number < 500
        · rw [if_pos h, dif_pos h]
          rfl
        · rw [if_neg h, dif_neg h]
          rfl

end Guarded

/-! ## Calls -/

namespace Session

open Guarded

variable {s : Session}

/-- Executes one instruction. -/
def executeGuarded (s : Session) : Except Hazard Reply := do
  let step ← Guarded.step s.machine
  let t : Session := { s with machine := step.machine }
  match step.outcome with
  | .ok .proceed => return ⟨s.trace, t, .ok .running⟩
  | .ok (.output value) =>
      return ⟨s.trace ++ [.write .output (Text.line value.text) t], t, .ok .running⟩
  | .ok .halt =>
      let farewell : List Act :=
        if s.debug then [.write .diagnostics (Text.line "Program exited normally") t] else []
      return ⟨s.trace ++ farewell, t, .ok (.finished .halted)⟩
  | .error fault =>
      if s.debug then
        return ⟨s.trace ++ [.log (.faulted fault t.machine),
          .write .diagnostics (Text.line fault.message) t], t.pause, .ok .needCommand⟩
      else return ⟨s.trace, t, .error (.fault fault)⟩

/-- Goes on without the operator. -/
def advanceGuarded (s : Session) : Except Hazard Reply := do
  if s.debug && !s.paused && s.atBreakpoint then
    return ⟨[.write .diagnostics (Text.line ("Hit breakpoint at " ++ s.machine.ip.text)) s,
      .log (.pausedAtBreakpoint s.machine.ip)], s.pause, .ok .needCommand⟩
  else if s.isPaused then
    if s.pending = 0 then return .silent s .needCommand
    else executeGuarded { s with pending := ← subtract s.pending 1 }
  else executeGuarded s

/-- Loads the program again. -/
def reloadGuarded (s : Session) : Except Hazard Reply := do
  let t : Session := { s with source := s.source.rest }
  match s.source.load with
  | .error cause => return ⟨[], t, .error (.restart cause)⟩
  | .ok image =>
      let machine ← Guarded.ofWords image.words
      return ⟨[.log (.loaded s.source.name image.words.length), .log (.restarted s.source.name)],
        { t with machine, pending := 0 }, .ok .needCommand⟩

/-- The number of the cell that the argument of a break asks for. -/
def breakNumber (s : Session) : Option String → Except Hazard (Except AddressError Nat)
  | none => return numberOfWord s.machine.ip
  | some token => resolve s.machine token

/-- Carries out a command.  Those that neither look anything up nor execute have no guards. -/
def performGuarded (s : Session) : Command → Except Hazard Reply
  | .print (some name) => do
      match Register.numberOf? name with
      | some number => return s.say (name ++ ": " ++ (← registerAt s.machine number).text)
      | none => return s.say ("bad register name: `" ++ name ++ "'")
  | .examine (some token) => do
      match ← resolve s.machine token with
      | .ok number =>
          let label := String.ofList (Text.Numeral.zeroFilled 3 number)
          return s.say (label ++ ": " ++ (← cellAt s.machine.memory number).text)
      | .error e => return s.say e.message
  | .step arg => do
      match stepCount? arg with
      | some count => executeGuarded { s with pending := ← subtract count 1 }
      | none => return s.say ("bad step count: `" ++ arg.getD "" ++ "'")
  | .proceed => do
      let r ← executeGuarded { s with paused := false, pending := 0 }
      return r.after (.log (.proceeding s.machine.ip))
  | .restart => s.reloadGuarded
  | .breakAt arg => do
      match ← s.breakNumber arg with
      | .ok number =>
          let a ← address number
          return say { s with breakpoint := some a }
            ("Breakpoint set at address " ++ Text.Numeral.decimal number)
      | .error e => return s.say e.message
  | command => return s.perform command

/-- Takes a command line, or the end of the input. -/
def submitGuarded (s : Session) : Option String → Except Hazard Reply
  | none => return s.endInput
  | some line =>
      if s.isPaused then
        match Command.ofLine line with
        | none => return .silent s .needCommand
        | some (.ok command) => s.performGuarded command
        | some (.error word) => return ⟨[.log (.unrecognized word)], s, .ok .needCommand⟩
      else return .silent s .running

/-- What a session replies to a call. -/
def replyGuarded (s : Session) : Call → Except Hazard Reply
  | .advance => s.advanceGuarded
  | .submit line => s.submitGuarded line
  | .perform command => s.performGuarded command

/-- Loads the program. -/
def startGuarded (source : Source) (debug : Bool) : Except Hazard (Except LoadError Session) :=
  match source.load with
  | .error cause => return .error cause
  | .ok image => do
      let machine ← Guarded.ofWords image.words
      return .ok ⟨source.rest, machine, debug, debug, none, 0⟩

/-- The session after some calls. -/
def afterGuarded (s : Session) (history : List (Outlets × Call)) : Except Hazard Session :=
  history.foldlM (fun t (o, c) => do return (o.play (← t.replyGuarded c)).2.1) s

/-! ## No guard is met -/

theorem executeGuarded_eq (s : Session) : s.executeGuarded = .ok s.execute := by
  unfold executeGuarded execute
  rw [Guarded.step_eq]
  dsimp only [bind, Except.bind]
  rcases s.machine.step.outcome with f | outcome
  · by_cases hd : s.debug = true
    · simp only [if_pos hd]
      rfl
    · simp only [if_neg hd]
      rfl
  · cases outcome <;> rfl

theorem advanceGuarded_eq (s : Session) : s.advanceGuarded = .ok s.advance := by
  unfold advanceGuarded advance
  split
  · rfl
  · split
    · cases pending : s.pending with
      | zero => rfl
      | succ left =>
        -- a step is left, so one may be taken away
        rw [if_neg (Nat.succ_ne_zero left), subtract_of_le (Nat.succ_le_succ (Nat.zero_le left))]
        exact executeGuarded_eq { s with pending := left }
    · exact executeGuarded_eq s

theorem reloadGuarded_eq (s : Session) : s.reloadGuarded = .ok s.reload := by
  unfold reloadGuarded reload
  cases s.source.load with
  | error cause => rfl
  | ok image =>
    dsimp only
    rw [Guarded.ofWords_eq]
    rfl

theorem breakNumber_eq (s : Session) (arg : Option String) :
    s.breakNumber arg = .ok ((s.breakAddress arg).map Fin.val) := by
  cases arg with
  | none =>
    rw [breakNumber, breakAddress, ← numberOfWord_eq]
    rfl
  | some token => rw [breakNumber, breakAddress, resolve_eq]

/-- A count that is given to a step is not zero. -/
theorem one_le_of_stepCount? {arg : Option String} {count : Nat}
    (h : stepCount? arg = some count) : 1 ≤ count := by
  unfold stepCount? at h
  split at h
  · rw [← Option.some.inj h]
  · split at h
    · split at h
      · next range => exact Option.some.inj h ▸ range.1
      · cases h
    · cases h

theorem performGuarded_eq (s : Session) (c : Command) :
    s.performGuarded c = .ok (s.perform c) := by
  cases c with
  | print arg =>
    cases arg with
    | none => rfl
    | some name =>
      simp only [performGuarded, perform, Register.numberOf?_eq]
      cases Register.ofName? name with
      | none => rfl
      | some r =>
        dsimp only [Option.map]
        rw [registerAt_val]
        rfl
  | examine arg =>
    cases arg with
    | none => rfl
    | some token =>
      simp only [performGuarded, perform, resolve_eq]
      cases resolveAddress s.machine.reg token with
      | error e => rfl
      | ok a =>
        dsimp only [Except.map, bind, Except.bind]
        rw [cellAt_val]
        rfl
  | step arg =>
    simp only [performGuarded, perform]
    cases count : stepCount? arg with
    | none => rfl
    | some n =>
      dsimp only
      rw [subtract_of_le (one_le_of_stepCount? count)]
      exact executeGuarded_eq { s with pending := n - 1 }
  | proceed =>
    simp only [performGuarded, perform, executeGuarded_eq]
    rfl
  | restart => exact reloadGuarded_eq s
  | breakAt arg =>
    simp only [performGuarded, perform, breakNumber_eq]
    cases s.breakAddress arg with
    | error e => rfl
    | ok a =>
      dsimp only [Except.map, bind, Except.bind]
      rw [address_val]
      rfl
  | _ => rfl

theorem submitGuarded_eq (s : Session) (line : Option String) :
    s.submitGuarded line = .ok (s.submit line) := by
  cases line with
  | none => rfl
  | some line =>
    simp only [submitGuarded, submit]
    split
    · rcases Command.ofLine line with none | word | command
      · rfl
      · rfl
      · exact performGuarded_eq s command
    · rfl

/-- No guard is met by a call. -/
theorem replyGuarded_eq (s : Session) (c : Call) : s.replyGuarded c = .ok (s.reply c) := by
  cases c with
  | advance => exact advanceGuarded_eq s
  | submit line => exact submitGuarded_eq s line
  | perform command => exact performGuarded_eq s command

/-- No guard is met by the first load. -/
theorem startGuarded_eq (source : Source) (debug : Bool) :
    startGuarded source debug = .ok (start source debug) := by
  unfold startGuarded start
  cases source.load with
  | error cause => rfl
  | ok image =>
    dsimp only
    rw [Guarded.ofWords_eq]
    rfl

/-- No guard is met by any calls, whatever is refused. -/
theorem afterGuarded_eq (s : Session) (history : List (Outlets × Call)) :
    s.afterGuarded history = .ok (s.after history) := by
  induction history generalizing s with
  | nil => rfl
  | cons call history ih =>
    obtain ⟨o, c⟩ := call
    rw [afterGuarded, List.foldlM_cons]
    dsimp only
    rw [replyGuarded_eq]
    exact ih _

end Session

end RegisterVM
