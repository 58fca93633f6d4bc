import RegisterVM.Proofs.Debugger.Abbreviation
import RegisterVM.Proofs.Debugger.Arguments
import RegisterVM.Proofs.Debugger.Execution
import RegisterVM.Proofs.Text.Spelling

/-!
# The listing of the registers

A log line lists the registers, each by its name with what it holds.  The operator asks for one of
them by its name.  That both mean the same register is said here by taking the listing apart: it is
cut at its blanks into an entry for each register, and an entry is cut at its equals sign into a
name and a value.

* `Machine.entry`, `splitOn_listing`, `splitOn_entry`: the entries, and the two cuts.
* `Register.names_of_sameLetters`: the name by which a register is listed is one of its names, in
  either case.
* `Session.submit_print`: what the operator is told about a register.
* `listing_eq_iff`: the listing has all that the registers hold.
* `listing_agrees_with_names`: the main statement.
-/

namespace RegisterVM

open Text Text.Numeral

/-! ## Names in either case -/

namespace Text

variable {c d : Char} {cs ds : List Char}

/-- A digit has one case only. -/
theorem SameLetter.eq_of_isDigit (alike : SameLetter c d) (digit : d.isDigit = true) : c = d := by
  have high : d.toNat ≤ 57 := (isDigit_iff.mp digit).2
  cases alike with
  | same => rfl
  | capital capital small =>
    have low := isCapital_iff.mp capital
    omega
  | small capital =>
    have low := isCapital_iff.mp capital
    omega

/-- No letter is a blank. -/
theorem isBlank_of_letter (low : 65 ≤ c.toNat) (high : c.toNat ≤ 122) : isBlank c = false := by
  have table : (blanks.all fun b => b.toNat < 65 || 122 < b.toNat) = true := by decide
  rw [Bool.eq_false_iff]
  intro blank
  have mem : c ∈ blanks := List.contains_iff_mem.mp blank
  have apart : c.toNat < 65 ∨ 122 < c.toNat := by simpa using List.all_eq_true.mp table c mem
  omega

theorem SameLetter.isBlank_eq_false (alike : SameLetter c d) (solid : isBlank d = false) :
    isBlank c = false := by
  cases alike with
  | same => exact solid
  | capital capital =>
    have range := isCapital_iff.mp capital
    exact isBlank_of_letter range.1 (by omega)
  | small capital small =>
    have range := isCapital_iff.mp capital
    exact isBlank_of_letter (by omega) (by omega)

/-- Digits can be typed in one way only. -/
theorem eq_of_sameLetter_of_isDigit (alike : List.Forall₂ SameLetter cs ds)
    (digits : ∀ d ∈ ds, d.isDigit = true) : cs = ds := by
  induction alike with
  | nil => rfl
  | cons first rest ih =>
    rw [List.forall_mem_cons] at digits
    rw [first.eq_of_isDigit digits.1, ih digits.2]

/-- Another case makes no blanks. -/
theorem isBlank_of_sameLetter (alike : List.Forall₂ SameLetter cs ds)
    (solid : ∀ d ∈ ds, isBlank d = false) : ∀ c ∈ cs, isBlank c = false := by
  induction alike with
  | nil => exact List.forall_mem_nil _
  | cons first rest ih =>
    rw [List.forall_mem_cons] at solid ⊢
    exact ⟨first.isBlank_eq_false solid.1, ih solid.2⟩

theorem eq_r_or_eq_R (alike : SameLetter c 'r') : c = 'r' ∨ c = 'R' := by
  cases alike with
  | same => exact .inl rfl
  | capital capital small =>
    have code : 'r'.toNat = 'R'.toNat + 32 := by decide
    exact .inr (Char.toNat_inj.mp (by omega))
  | small capital => exact absurd capital (by decide)

end Text

namespace Register

variable {r : Register}

/-- The names of the registers have no blanks and no equals signs in them. -/
theorem name_clean (r : Register) : ∀ c ∈ r.name.toList, isBlank c = false ∧ c ≠ '=' := by
  have table : ∀ r : Register, r.name.toList.all (fun c => !isBlank c && c != '=') = true := by
    decide
  intro c mem
  simpa using List.all_eq_true.mp (table r) c mem

/-- The name by which a register is listed, in either case, is one of its names. -/
theorem names_of_sameLetters {cs : List Char} (alike : List.Forall₂ SameLetter cs r.name.toList) :
    Names cs r := by
  unfold name nameAt at alike
  split at alike
  · next eq =>
    obtain rfl : r = .ip := Fin.ext eq
    exact .ip alike
  split at alike
  · next eq =>
    obtain rfl : r = .rp := Fin.ext eq
    exact .rp alike
  split at alike
  · next eq =>
    obtain rfl : r = .fp := Fin.ext eq
    exact .fp alike
  split at alike
  · next eq =>
    obtain rfl : r = .sp := Fin.ext eq
    exact .sp alike
  · have text : ("r" ++ decimal r.val).toList = 'r' :: natural r.val := by simp [decimal]
    obtain ⟨isDigits, number⟩ := readNatural?_eq_some_iff.mp (readNatural?_natural r.val)
    rw [text] at alike
    obtain _ | ⟨letter, rest⟩ := alike
    rw [eq_of_sameLetter_of_isDigit rest fun _ mem => isDigit_of_mem_natural mem]
    exact .numbered (eq_r_or_eq_R letter) isDigits number

/-- The name by which a register is listed stands for it, in either case. -/
theorem ofName?_of_sameLetters {typed : String}
    (alike : List.Forall₂ SameLetter typed.toList r.name.toList) : ofName? typed = some r := by
  have solid := isBlank_of_sameLetter alike fun c mem => (r.name_clean c mem).1
  rw [ofName?, trimBlanks_of_no_blank solid]
  exact ofLetters?_eq_some_iff.mpr (names_of_sameLetters alike)

/-- It is one word. -/
theorem isWord_of_sameLetters {cs : List Char}
    (alike : List.Forall₂ SameLetter cs r.name.toList) : IsWord cs := by
  refine ⟨?_, isBlank_of_sameLetter alike fun c mem => (r.name_clean c mem).1⟩
  rintro rfl
  obtain ⟨c, cs, eq⟩ : ∃ c cs, r.name.toList = c :: cs := by
    have table : ∀ r : Register, r.name.toList ≠ [] := by decide
    exact List.exists_cons_of_ne_nil (table r)
  rw [eq] at alike
  cases alike

end Register

/-! ## The listing -/

/-- The text of a word has no blanks and no equals signs in it. -/
theorem Word.text_clean (w : Word) : ∀ c ∈ w.text.toList, isBlank c = false ∧ c ≠ '=' := by
  rw [text, String.toList_ofList]
  intro c mem
  refine ⟨(spells_integer w.toInt).isBlank_eq_false c mem, ?_⟩
  rintro rfl
  rcases eq_minus_or_isDigit_of_mem_integer mem with minus | digit
  · exact absurd minus (by decide)
  · exact absurd digit (by decide)

namespace Machine

variable (m : Machine)

/-- The entry of a register in the listing. -/
def entry (r : Register) : List Char := r.name.toList ++ '=' :: (m.reg r).text.toList

theorem blank_notMem_entry (r : Register) : ' ' ∉ m.entry r := by
  intro mem
  rcases List.mem_append.mp mem with name | rest
  · exact absurd (r.name_clean _ name).1 (by decide)
  rcases List.mem_cons.mp rest with sign | value
  · exact absurd sign (by decide)
  · exact absurd (Word.text_clean _ _ value).1 (by decide)

/-- At its blanks the listing is cut into the entries, one for each register, in order. -/
theorem splitOn_listing : m.listing.toList.splitOn ' ' = (List.finRange 32).map m.entry := by
  have text (r : Register) : (r.name ++ "=" ++ (m.reg r).text).toList = m.entry r := by
    simp [entry]
  have separator : " ".toList = [' '] := by decide
  have entries : m.listing.toList = [' '].intercalate ((List.finRange 32).map m.entry) := by
    rw [listing, String.toList_intercalate, List.map_map, separator]
    exact congrArg _ (List.map_congr_left fun r _ => text r)
  rw [entries, List.splitOn_intercalate]
  · rw [List.forall_mem_map]
    exact fun r _ => m.blank_notMem_entry r
  · exact List.ne_nil_of_length_eq_add_one (n := 31) (by rw [List.length_map, List.length_finRange])

theorem getElem?_splitOn_listing (r : Register) :
    (m.listing.toList.splitOn ' ')[r.val]? = some (m.entry r) := by
  rw [splitOn_listing, List.getElem?_map, List.getElem?_eq_getElem (by simp),
    List.getElem_finRange]
  rfl

/-- At its equals sign an entry is cut into the name and the value. -/
theorem splitOn_entry (r : Register) :
    (m.entry r).splitOn '=' = [r.name.toList, (m.reg r).text.toList] := by
  have name : '=' ∉ r.name.toList := fun mem => (r.name_clean _ mem).2 rfl
  have value : '=' ∉ (m.reg r).text.toList := fun mem => (Word.text_clean _ _ mem).2 rfl
  rw [entry, List.splitOn_append_cons_self_of_not_mem name, List.splitOn_eq_singleton value]

/-- An entry has all that the register holds. -/
theorem reg_eq_of_entry_eq {m n : Machine} {r : Register} (same : m.entry r = n.entry r) :
    m.reg r = n.reg r := by
  have cut := m.splitOn_entry r
  rw [same, n.splitOn_entry r, List.cons.injEq, List.cons.injEq] at cut
  have text : (n.reg r).text = (m.reg r).text := String.toList_inj.mp cut.2.1
  have read := Word.read?_text (m.reg r)
  rw [← text, Word.read?_text] at read
  exact (Option.some.inj read).symm

/-- Listings are equal exactly if the registers hold the same. -/
theorem listing_eq_iff {m n : Machine} : n.listing = m.listing ↔ n.registers = m.registers := by
  constructor
  · intro same
    refine Vector.ext fun i hi => ?_
    have entries := n.getElem?_splitOn_listing ⟨i, hi⟩
    rw [same, m.getElem?_splitOn_listing] at entries
    exact reg_eq_of_entry_eq (Option.some.inj entries).symm
  · intro same
    have values (r : Register) : n.reg r = m.reg r := by rw [reg, reg, same]
    simp only [listing, values]

end Machine

/-! ## Printing a register -/

/-- Printing a register says its name as it was typed, and what it holds. -/
theorem Session.submit_print {s : Session} {typed : String} {r : Register}
    (paused : s.isPaused = true) (isWord : IsWord typed.toList)
    (named : Register.ofName? typed = some r) :
    s.submit (some ("print " ++ typed)) = s.say (typed ++ ": " ++ (s.machine.reg r).text) := by
  have words : FirstWords ("print " ++ typed).toList
      (some (['p', 'r', 'i', 'n', 't'], some typed.toList)) := by
    have parts : ("print " ++ typed).toList =
        [] ++ ['p', 'r', 'i', 'n', 't'] ++ [' '] ++ typed.toList ++ [] := by simp
    rw [parts]
    exact .two (List.forall_mem_nil _) (by decide) (by decide) (List.all_eq_true.mp (by decide))
      isWord (by simp)
  have denotes : Command.Denotes ['p', 'r', 'i', 'n', 't']
      ((some typed.toList).map String.ofList) (.print (some typed)) := by
    rw [Option.map_some, String.ofList_toList]
    exact .named (.print _) (abbreviates_iff.mpr (by decide))
  rw [submit_of_denotes paused words denotes]
  simp only [perform, named]

/-! ## The main statement -/

/-- **The listing, the names and the answers of the debugger agree.**  Let the listing of a machine
be cut at its blanks.

* There are thirty-two fields, and the field of each register is its name, an equals sign and a
  value.  Neither the name nor the value has another equals sign in it.
* The name, in whatever case its letters are typed, stands for this register; the value is read as
  what the register holds.
* When a session with this machine is paused and is asked to print the register by that name, it
  writes the name and the same value, and does nothing else.
* So machines whose registers do not hold the same have different listings. -/
theorem listing_agrees_with_names (m : Machine) :
    (m.listing.toList.splitOn ' ').length = 32 ∧
    (∀ r : Register, ∃ value : String,
      (m.listing.toList.splitOn ' ')[r.val]? = some (r.name.toList ++ '=' :: value.toList) ∧
      (r.name.toList ++ '=' :: value.toList).splitOn '=' = [r.name.toList, value.toList] ∧
      Word.read? value = some (m.reg r) ∧
      ∀ typed : String, List.Forall₂ SameLetter typed.toList r.name.toList →
        Register.ofName? typed = some r ∧
        ∀ s : Session, s.machine = m → s.isPaused = true →
          let reply := s.submit (some ("print " ++ typed))
          reply.textOn .diagnostics = Text.line (typed ++ ": " ++ value) ∧
            reply.textOn .output = "" ∧ reply.session = s ∧ reply.result = .ok .needCommand) ∧
    ∀ n : Machine, n.listing = m.listing ↔ n.registers = m.registers := by
  refine ⟨?_, fun r => ⟨(m.reg r).text, m.getElem?_splitOn_listing r, m.splitOn_entry r,
    Word.read?_text _, fun typed alike => ⟨Register.ofName?_of_sameLetters alike, ?_⟩⟩,
    fun n => Machine.listing_eq_iff⟩
  · rw [m.splitOn_listing, List.length_map, List.length_finRange]
  · rintro s rfl paused
    have said := Session.submit_print paused (Register.isWord_of_sameLetters alike)
      (Register.ofName?_of_sameLetters alike)
    intro reply
    have eq : reply = s.say (typed ++ ": " ++ (s.machine.reg r).text) := said
    rw [eq, Session.textOn_say, Session.textOn_say]
    exact ⟨rfl, rfl, rfl, rfl⟩

/-- The least word in the return pointer, whose name is typed in capitals. -/
theorem listing_agrees_with_names_return :
    let m := Machine.blank.setReg Register.rp (-2147483648)
    let s : Session := ⟨.ofTexts "halt" ["1 10"], m, true, true, none, 0⟩
    (m.listing.toList.splitOn ' ')[Register.rp.val]? = some "rp=-2147483648".toList ∧
      Word.read? "-2147483648" = some (m.reg .rp) ∧ Register.ofName? "RP" = some .rp ∧
      (s.submit (some "print RP")).textOn .diagnostics = Text.line "RP: -2147483648" := by
  intro m s
  obtain ⟨-, registers, -⟩ := listing_agrees_with_names m
  obtain ⟨value, field, -, read, names⟩ := registers .rp
  have alike : List.Forall₂ SameLetter "RP".toList (Register.name .rp).toList :=
    sameLetters_iff.mp (by decide)
  obtain ⟨named, prints⟩ := names "RP" alike
  have entry : m.entry .rp = "rp=-2147483648".toList := by decide +kernel
  have listed := m.getElem?_splitOn_listing .rp
  rw [entry] at listed
  have name : (Register.name .rp).toList = ['r', 'p'] := by decide
  have same : ['r', 'p'] ++ '=' :: value.toList = ['r', 'p'] ++ '=' :: "-2147483648".toList := by
    rw [← name]
    exact Option.some.inj (field.symm.trans listed)
  obtain rfl : value = "-2147483648" :=
    String.toList_inj.mp (List.cons.inj (List.append_cancel_left same)).2
  exact ⟨listed, read, named, (prints s rfl rfl).1⟩

end RegisterVM
