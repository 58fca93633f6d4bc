import RegisterVM.Proofs.Debugger.Restart
import RegisterVM.Proofs.Text.Lines
import RegisterVM.Proofs.Text.Spelling

/-!
# What a session says, line by line

A session writes its remarks in whole lines.  A remark may quote the argument of a command, but
that is a word of a command line and cannot break the line; and every remark begins with words of
its own, with a number or with the name of a register, never with the letter that marks a line of
output elsewhere.  So remarks can be told from output, whatever the operator types.

* `IsRemark`: an unbroken line that does not begin with that letter.
* `IsReport`: a text made of remarks.
* `Command.argument?`, `isBlank_of_ofLine`: the argument of a command is a single word.
* `isReport_advance`, `isReport_submit`: all that a session says is a report.
-/

namespace RegisterVM

/-! ## Remarks -/

/-- The line is not broken, and does not begin as the mark of a line of output does. -/
structure IsRemark (l : String) : Prop where
  unbroken : Text.Unbroken l.toList
  unmarked : l.toList.head? ≠ some 'o'

theorem isRemark_iff {l : String} : IsRemark l ↔ Text.Unbroken l.toList ∧ l.toList.head? ≠ some 'o' :=
  ⟨fun h => ⟨h.unbroken, h.unmarked⟩, fun h => ⟨h.1, h.2⟩⟩

instance (l : String) : Decidable (IsRemark l) := decidable_of_iff _ isRemark_iff.symm

/-- A long text is looked at character by character. -/
theorem isRemark_of_chars {l : String} {cs : List Char} (eq : l = String.ofList cs)
    (h : Text.Unbroken cs ∧ cs.head? ≠ some 'o') : IsRemark l := by
  rw [isRemark_iff, eq, String.toList_ofList]
  exact h

/-- The text consists of remarks, a line each. -/
def IsReport (text : String) : Prop := ∃ ls, text = Text.unlines ls ∧ ∀ l ∈ ls, IsRemark l

theorem isReport_empty : IsReport "" := ⟨[], rfl, List.forall_mem_nil _⟩

theorem IsRemark.isReport {l : String} (h : IsRemark l) : IsReport (Text.line l) :=
  ⟨[l], by simp [Text.unlines], by simpa using h⟩

theorem IsReport.append {a b : String} (ha : IsReport a) (hb : IsReport b) : IsReport (a ++ b) := by
  obtain ⟨ls, rfl, remarks⟩ := ha
  obtain ⟨more, rfl, remarks'⟩ := hb
  exact ⟨ls ++ more, (Text.unlines_append ls more).symm,
    List.forall_mem_append.mpr ⟨remarks, remarks'⟩⟩

theorem isReport_join {texts : List String} (h : ∀ text ∈ texts, IsReport text) :
    IsReport (String.join texts) := by
  induction texts with
  | nil => exact isReport_empty
  | cons text texts ih =>
    rw [List.forall_mem_cons] at h
    rw [String.join_cons]
    exact h.1.append (ih h.2)

/-- A report is cut into its remarks. -/
theorem IsReport.isRemark {text l : String} (h : IsReport text) (mem : l ∈ Text.lines text) :
    IsRemark l := by
  obtain ⟨ls, rfl, remarks⟩ := h
  rw [Text.lines_unlines fun l mem => (remarks l mem).unbroken] at mem
  exact remarks l mem

/-! ## Putting remarks together -/

theorem IsRemark.append {a b : String} (ha : IsRemark a) (hb : IsRemark b) : IsRemark (a ++ b) where
  unbroken := by
    rw [String.toList_append, Text.unbroken_append_iff]
    exact ⟨ha.unbroken, hb.unbroken⟩
  unmarked := by
    rw [String.toList_append, List.head?_append]
    intro first
    rcases Option.or_eq_some_iff.mp first with first | ⟨-, first⟩
    · exact ha.unmarked first
    · exact hb.unmarked first

/-- Behind words of its own a remark may quote anything that does not break the line. -/
theorem IsRemark.quote {a b : String} (ha : IsRemark a) (ne : a.toList ≠ [])
    (hb : Text.Unbroken b.toList) : IsRemark (a ++ b) where
  unbroken := by
    rw [String.toList_append, Text.unbroken_append_iff]
    exact ⟨ha.unbroken, hb⟩
  unmarked := by
    rw [String.toList_append, List.head?_append_of_ne_nil _ ne]
    exact ha.unmarked

/-- A sign and digits make a remark. -/
theorem isRemark_ofList {cs : List Char} (h : ∀ c ∈ cs, c = '-' ∨ c.isDigit = true) :
    IsRemark (String.ofList cs) where
  unbroken := by
    rw [String.toList_ofList]
    exact Text.unbroken_of_forall h (by decide) (by decide)
  unmarked := by
    rw [String.toList_ofList]
    intro first
    simpa using h 'o' (List.mem_of_head? first)

theorem Address.isRemark_text (a : Address) : IsRemark a.text :=
  isRemark_ofList fun _ mem => .inr (Text.Numeral.isDigit_of_mem_natural mem)

theorem Word.isRemark_text (w : Word) : IsRemark w.text :=
  isRemark_ofList fun _ mem => Text.Numeral.eq_minus_or_isDigit_of_mem_integer mem

theorem Address.isRemark_label (a : Address) : IsRemark a.label :=
  isRemark_ofList fun _ mem => Text.Numeral.eq_minus_or_isDigit_of_mem_zeroFilled mem

theorem Fault.isRemark_message (f : Fault) : IsRemark f.message := by
  cases f with
  | invalidOpcode tag ip =>
    exact .append (.append (.append (by decide) tag.isRemark_text) (by decide)) ip.isRemark_text
  | addressOutOfRange w ip | badRegister w ip =>
    exact .append (.append (.append (.append (by decide) w.isRemark_text) (by decide))
      ip.isRemark_text) (by decide)
  | divisionByZero ip => exact .append (.append (by decide) ip.isRemark_text) (by decide)

/-! ## The arguments of commands -/

/-- The argument of a command, as it was typed. -/
def Command.argument? : Command → Option String
  | .list arg | .print arg | .examine arg | .frame arg | .step arg | .breakAt arg => arg
  | .help | .quit | .proceed | .restart | .deleteBreak => none

/-- A command has the argument that was typed, or none. -/
theorem Command.argument?_of_ofWord? {word : String} {arg : Option String} {c : Command}
    (h : ofWord? word arg = some c) : c.argument? = none ∨ c.argument? = arg := by
  have table : ∀ entry ∈ namedCommands,
      (entry.2 arg).argument? = none ∨ (entry.2 arg).argument? = arg := by
    simp [namedCommands, argument?]
  unfold ofWord? at h
  split at h
  · rw [← Option.some.inj h]
    exact .inr rfl
  · obtain ⟨name, -, named⟩ := Option.bind_eq_some_iff.mp h
    obtain ⟨command, found, last⟩ := Option.bind_eq_some_iff.mp named
    obtain rfl : command arg = c := Option.some.inj last
    obtain ⟨before, behind, eq, -⟩ := List.lookup_eq_some_iff.mp found
    exact table (name, command) (by rw [eq]; exact List.mem_append_right _ List.mem_cons_self)

/-- The argument of a command line is a word of it. -/
theorem Command.isBlank_of_ofLine {line : String} {c : Command}
    (h : ofLine line = some (.ok c)) {token : String} (typed : c.argument? = some token) :
    ∀ d ∈ token.toList, Text.isBlank d = false := by
  obtain ⟨⟨word, arg⟩, split, meant⟩ := Option.map_eq_some_iff.mp h
  cases command : ofWord? word arg with
  | none => simp [command] at meant
  | some d =>
    simp only [command, Except.ok.injEq] at meant
    subst meant
    have arg_eq : arg = some token := by
      rcases argument?_of_ofWord? command with none | same
      · rw [none] at typed
        cases typed
      · exact same.symm.trans typed
    unfold splitCommandLine at split
    cases words : Text.words line with
    | nil => simp [words] at split
    | cons first more =>
      simp only [words, Option.some.injEq, Prod.mk.injEq] at split
      have mem : token ∈ Text.words line := by
        rw [words]
        exact List.mem_cons_of_mem first (List.mem_of_head? (split.2.trans arg_eq))
      obtain ⟨cs, solid, rfl⟩ := List.mem_map.mp mem
      rw [String.toList_ofList]
      exact Text.isBlank_of_mem_splitWords solid

/-! ## Names and addresses -/

/-- The name of a register, typed as one word, is a remark: it does not begin with that letter. -/
theorem isRemark_of_ofName? {name : String} {r : Register}
    (word : ∀ c ∈ name.toList, Text.isBlank c = false) (h : Register.ofName? name = some r) :
    IsRemark name where
  unbroken := Text.unbroken_of_no_blank word
  unmarked first := by
    obtain ⟨cs, eq⟩ := List.head?_eq_some_iff.mp first
    rw [Register.ofName?, Text.trimBlanks_of_no_blank word, eq,
      Register.ofLetters?_of_other (by decide)] at h
    cases h

theorem isRemark_addressOfWord {w : Word} {e : AddressError} (h : addressOfWord w = .error e) :
    IsRemark e.message := by
  unfold addressOfWord at h
  split at h
  · cases h
  · rw [← Except.error.inj h]
    exact .append (.append (by decide) w.isRemark_text) (by decide)

/-- Why a word is no address. -/
theorem isRemark_resolveAddress {content : Register → Word} {token : String} {e : AddressError}
    (word : ∀ c ∈ token.toList, Text.isBlank c = false)
    (h : resolveAddress content token = .error e) : IsRemark e.message := by
  have rules := addressOf_resolveAddress content token
  have unbroken : Text.Unbroken token.toList := Text.unbroken_of_no_blank word
  rw [h, Text.trimBlanks_of_no_blank word] at rules
  generalize token.toList = typed at rules unbroken
  have quoted {before : String} (plain : IsRemark before) (ne : before.toList ≠ []) :
      IsRemark (before ++ String.ofList typed) :=
    .quote plain ne (by rwa [String.toList_ofList])
  cases rules with
  | missing => decide
  | heldOutside => exact .append (.append (by decide) (Word.isRemark_text _)) (by decide)
  | literalOutside => exact .append (quoted (by decide) (by decide)) (by decide)
  | malformed => exact .append (quoted (by decide) (by decide)) (by decide)

/-! ## The calls of a session -/

namespace Session

variable {s : Session}

theorem isReport_execute (s : Session) : IsReport (s.execute.textOn .diagnostics) := by
  have traced := textOn_trace .diagnostics s
  have remarked {l : String} (remark : IsRemark l) : IsReport ("" ++ ("" ++ Text.line l)) := by
    simpa using remark.isReport
  unfold execute
  dsimp only
  split
  · rw [Reply.textOn_eq_join, traced]
    exact isReport_empty
  · rw [Reply.textOn_eq_join, List.map_append, String.join_append, traced]
    exact isReport_empty
  · split
    · rw [Reply.textOn_eq_join, List.map_append, String.join_append, traced]
      exact remarked (l := "Program exited normally") (by decide)
    · rw [Reply.textOn_eq_join, List.append_nil, traced]
      exact isReport_empty
  · next f _ =>
    split
    · rw [Reply.textOn_eq_join, List.map_append, String.join_append, traced]
      exact remarked f.isRemark_message
    · rw [Reply.textOn_eq_join, traced]
      exact isReport_empty

theorem isReport_say {text : String} (remark : IsRemark text) :
    IsReport ((s.say text).textOn .diagnostics) := by
  rw [textOn_say, if_pos rfl]
  exact remark.isReport

/-- Whenever a session goes on, what it says is a report. -/
theorem isReport_advance (s : Session) : IsReport (s.advance.textOn .diagnostics) := by
  unfold advance
  split
  · have hit : IsRemark ("Hit breakpoint at " ++ s.machine.ip.text) :=
      .append (by decide) s.machine.ip.isRemark_text
    simpa [Reply.textOn, Act.textOn] using hit.isReport
  · split
    · split
      · exact isReport_empty
      · exact isReport_execute _
    · exact isReport_execute s

theorem isReport_helpText : IsReport helpText := by
  refine ⟨_, rfl, ?_⟩
  repeat refine List.forall_mem_cons.mpr ⟨isRemark_of_chars rfl (by decide), ?_⟩
  exact List.forall_mem_nil _

/-- What a command says is a report when its argument is a single word. -/
theorem isReport_perform {c : Command}
    (word : ∀ token, c.argument? = some token → ∀ d ∈ token.toList, Text.isBlank d = false) :
    IsReport ((s.perform c).textOn .diagnostics) := by
  have unbroken {token : String} (arg : c.argument? = some token) : Text.Unbroken token.toList :=
    Text.unbroken_of_no_blank (word token arg)
  cases c with
  | help => simpa [perform, Reply.textOn, Act.textOn] using isReport_helpText
  | quit => exact isReport_empty
  | list arg | frame arg => exact isReport_say (by decide)
  | proceed => exact isReport_execute _
  | restart =>
    simp only [perform, reload]
    split <;> exact isReport_empty
  | print arg =>
    cases arg with
    | none => exact isReport_say (by decide)
    | some name =>
      simp only [perform]
      split
      · next r named =>
        have name : IsRemark name := isRemark_of_ofName? (word name rfl) named
        exact isReport_say (.append (.append name (by decide)) (s.machine.reg r).isRemark_text)
      · exact isReport_say (.append (.quote (by decide) (by decide) (unbroken rfl)) (by decide))
  | examine arg =>
    cases arg with
    | none => exact isReport_say (by decide)
    | some token =>
      simp only [perform]
      split
      · next a _ =>
        exact isReport_say (.append (.append a.isRemark_label (by decide))
          (s.machine.cell a).isRemark_text)
      · next e refused => exact isReport_say (isRemark_resolveAddress (word token rfl) refused)
  | step arg =>
    simp only [perform]
    split
    · exact isReport_execute _
    · refine isReport_say (.append (.quote (by decide) (by decide) ?_) (by decide))
      cases arg with
      | none => decide
      | some token => exact unbroken rfl
  | breakAt arg =>
    simp only [perform]
    split
    · next a _ => exact isReport_say (.append (by decide) a.isRemark_text)
    · next e refused =>
      refine isReport_say ?_
      cases arg with
      | none =>
        rw [breakAddress] at refused
        exact isRemark_addressOfWord refused
      | some token =>
        rw [breakAddress] at refused
        exact isRemark_resolveAddress (word token rfl) refused
  | deleteBreak =>
    simp only [perform]
    split
    · next a _ =>
      exact isReport_say (.append (.append (by decide) a.isRemark_text) (by decide))
    · exact isReport_say (by decide)

/-- Whatever line is submitted, what the session says is a report. -/
theorem isReport_submit (s : Session) (line : String) :
    IsReport ((s.submit (some line)).textOn .diagnostics) := by
  unfold submit
  dsimp only
  split
  · split
    · exact isReport_empty
    · next command meant =>
      exact isReport_perform fun _ typed => Command.isBlank_of_ofLine meant typed
    · exact isReport_empty
  · exact isReport_empty

end Session

end RegisterVM
