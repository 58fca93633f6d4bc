import RegisterVM.Proofs.Debugger.Execution
import RegisterVM.Proofs.Fullscreen.Panes
import RegisterVM.Proofs.Text.Places
import RegisterVM.Proofs.Text.Spelling

/-!
# Numbers on the screen and in the dialogue

A word is shown in one of three formats, each of them a column of a fixed width from which the word
can be read back; so the number format never hides a difference.  Addresses are shown with zeros in
front, on at least three characters, and are read back too.

* `NumberFormat.columns`: the width of a format; `length_render` says that every word has it.
* `exists_render_hex`, `exists_render_binary`, `exists_render_decimal`: the three columns.
* `render_injective`: different words look different.
* `App.length_cellRow`: the width of a memory line.
* `renderings_read_back`: the main statement.
-/

namespace RegisterVM

open Text Text.Numeral Word

namespace NumberFormat

/-! ## The three columns -/

/-- The width of the column of a format. -/
def columns : NumberFormat → Nat
  | hex => 10
  | binary => 34
  | decimal => 11

theorem exists_render_hex (w : Word) : ∃ cs, hex.render w = '0' :: 'x' :: cs ∧ BitsOn 16 8 w cs :=
  ⟨_, rfl, bitsOn_places (by decide) (by decide) (by decide) (by decide) w⟩

theorem exists_render_binary (w : Word) :
    ∃ cs, binary.render w = '0' :: 'b' :: cs ∧ BitsOn 2 32 w cs :=
  ⟨_, rfl, bitsOn_places (by decide) (by decide) (by decide) (by decide) w⟩

/-- The decimal text of a word has at most eleven characters, and the one of the least word has as
many. -/
theorem length_integer_le (w : Word) : (integer w.toInt).length ≤ 11 := by
  have low : -2147483648 ≤ w.toInt := Int32.le_toInt w
  have high : w.toInt ≤ 2147483647 := Int32.toInt_le w
  have digits : (natural w.toInt.natAbs).length ≤ 10 :=
    (Nat.length_toDigits_le_iff (by decide) (by decide)).mpr (by omega)
  have sign : (sign w.toInt).length ≤ 1 := by
    unfold Numeral.sign
    split <;> decide
  rw [integer_eq, List.length_append]
  omega

/-- A word in base ten: its text, and blanks up to the width of the column. -/
theorem exists_render_decimal (w : Word) :
    ∃ blanks, decimal.render w = w.text.toList ++ List.replicate blanks ' ' := by
  rw [text, String.toList_ofList]
  exact ⟨_, rfl⟩

/-- Without the blanks the column is the text again. -/
theorem trim_render_decimal (w : Word) : trim (String.ofList (decimal.render w)) = w.text := by
  obtain ⟨blanks, eq⟩ := exists_render_decimal w
  have clean : ∀ c ∈ w.text.toList, isBlank c = false := by
    rw [text, String.toList_ofList]
    exact (spells_integer w.toInt).isBlank_eq_false
  have blank : ∀ c ∈ List.replicate blanks ' ', isBlank c = true := by
    intro c mem
    rw [List.eq_of_mem_replicate mem]
    decide
  rw [trim, String.toList_ofList, eq, trimBlanks_append_of_blank clean blank, String.ofList_toList]

theorem read?_trim_render_decimal (w : Word) :
    Word.read? (trim (String.ofList (decimal.render w))) = some w := by
  rw [trim_render_decimal, read?_text]

/-- Every word has the width of the column. -/
theorem length_render (format : NumberFormat) (w : Word) :
    (format.render w).length = format.columns := by
  cases format with
  | hex =>
    obtain ⟨cs, eq, shown⟩ := exists_render_hex w
    rw [eq, List.length_cons, List.length_cons, shown.length, columns]
  | binary =>
    obtain ⟨cs, eq, shown⟩ := exists_render_binary w
    rw [eq, List.length_cons, List.length_cons, shown.length, columns]
  | decimal =>
    have fits := length_integer_le w
    rw [render, List.rightpad, List.length_append, List.length_replicate, columns]
    omega

/-- Different words look different. -/
theorem render_injective (format : NumberFormat) : Function.Injective format.render := by
  intro v w same
  cases format with
  | hex =>
    obtain ⟨cs, eq, shown⟩ := exists_render_hex v
    obtain ⟨ds, eq', shown'⟩ := exists_render_hex w
    rw [eq, eq', List.cons.injEq, List.cons.injEq] at same
    obtain ⟨-, -, rfl⟩ := same
    exact shown.unique shown'
  | binary =>
    obtain ⟨cs, eq, shown⟩ := exists_render_binary v
    obtain ⟨ds, eq', shown'⟩ := exists_render_binary w
    rw [eq, eq', List.cons.injEq, List.cons.injEq] at same
    obtain ⟨-, -, rfl⟩ := same
    exact shown.unique shown'
  | decimal =>
    have read := read?_trim_render_decimal v
    rw [same, read?_trim_render_decimal w] at read
    exact (Option.some.inj read).symm

end NumberFormat

/-! ## Where numbers are shown -/

/-- A memory line is as wide as its label and the column of the format. -/
theorem App.length_cellRow (app : App) (a : Address) :
    (app.cellRow a).length = 5 + app.format.columns := by
  rw [cellRow_eq, Screen.Row.ofChars_of_ascii _ (app.ascii_memoryLine a), List.length_map,
    memoryLine, List.length_append, NumberFormat.length_render]
  rfl

/-- The instruction pointer in the prompt. -/
theorem Session.exists_prompt_eq (s : Session) :
    ∃ shown, FilledTo 3 s.machine.ip.toInt shown ∧
      s.prompt = "dbg[" ++ String.ofList shown ++ "]> " :=
  ⟨_, filledTo_zeroFilled 3 _, rfl⟩

/-- The instruction pointer in the status line. -/
theorem App.exists_status_eq (app : App) :
    ∃ shown rest, FilledTo 3 app.session.machine.ip.toInt shown ∧
      app.status = "State: " ++ app.mode.name ++ " | IP: " ++ String.ofList shown ++
        " | Breakpoint: " ++ rest := by
  refine ⟨_, (app.session.breakpoint.map Address.text).getD "none" ++ (" | Format (F9): " ++
    (app.format.name ++ (" | Pane (Tab): " ++ (app.pane.name ++ " | Press ESC to quit")))),
    filledTo_zeroFilled 3 _, ?_⟩
  unfold status
  simp only [String.append_assoc]

/-- The address of a memory cell that is examined, and what the cell holds. -/
theorem Session.exists_textOn_examine {s : Session} {token : String} {a : Address}
    (resolved : resolveAddress s.machine.reg token = .ok a) :
    ∃ shown, FilledTo 3 a.val shown ∧
      (s.perform (.examine (some token))).textOn .diagnostics =
        Text.line (String.ofList shown ++ ": " ++ (s.machine.cell a).text) := by
  refine ⟨_, filledTo_zeroFilled 3 a.val, ?_⟩
  simp only [perform, resolved]
  rw [textOn_say, if_pos rfl]
  rfl

/-! ## The main statement -/

/-- **Numbers can be read back from what is shown.**

* In base sixteen and two a word is shown as `0x` and eight places, or as `0b` and thirty-two, which
  are the word in two's complement.  In base ten it is shown as its text, with blanks behind it up
  to eleven characters, and without these the word is read back.
* So in each format different words look different, and all memory lines have the same length.
* The prompt and the status line show the instruction pointer, and an examined cell is shown with
  its address, with zeros in front up to three characters, of which the sign is one.  It is read
  back, whatever its value is. -/
theorem renderings_read_back :
    (∀ w : Word,
      (∃ cs, NumberFormat.hex.render w = '0' :: 'x' :: cs ∧ BitsOn 16 8 w cs) ∧
      (∃ cs, NumberFormat.binary.render w = '0' :: 'b' :: cs ∧ BitsOn 2 32 w cs) ∧
      (∃ blanks, NumberFormat.decimal.render w = w.text.toList ++ List.replicate blanks ' ') ∧
      (NumberFormat.decimal.render w).length = 11 ∧
      Word.read? (trim (String.ofList (NumberFormat.decimal.render w))) = some w) ∧
    (∀ format : NumberFormat, Function.Injective format.render) ∧
    (∀ (app : App) a, (app.cellRow a).length = 5 + app.format.columns) ∧
    (∀ s : Session, ∃ shown, FilledTo 3 s.machine.ip.toInt shown ∧
      Word.read? (String.ofList shown) = some s.machine.ip ∧
      s.prompt = "dbg[" ++ String.ofList shown ++ "]> ") ∧
    (∀ app : App, ∃ shown rest, FilledTo 3 app.session.machine.ip.toInt shown ∧
      Word.read? (String.ofList shown) = some app.session.machine.ip ∧
      app.status = "State: " ++ app.mode.name ++ " | IP: " ++ String.ofList shown ++
        " | Breakpoint: " ++ rest) ∧
    ∀ (s : Session) token a, resolveAddress s.machine.reg token = .ok a →
      ∃ shown, FilledTo 3 a.val shown ∧
        (s.perform (.examine (some token))).textOn .diagnostics =
          Text.line (String.ofList shown ++ ": " ++ (s.machine.cell a).text) := by
  refine ⟨fun w => ⟨NumberFormat.exists_render_hex w, NumberFormat.exists_render_binary w,
    NumberFormat.exists_render_decimal w, NumberFormat.decimal.length_render w,
    NumberFormat.read?_trim_render_decimal w⟩, NumberFormat.render_injective,
    App.length_cellRow, fun s => ?_, fun app => ?_,
    fun s token a resolved => Session.exists_textOn_examine resolved⟩
  · obtain ⟨shown, filled, prompt⟩ := s.exists_prompt_eq
    exact ⟨shown, filled, filled.read?_eq, prompt⟩
  · obtain ⟨shown, rest, filled, status⟩ := app.exists_status_eq
    exact ⟨shown, rest, filled, filled.read?_eq, status⟩

/-- The least word in the three formats, and the cell that the instruction pointer points to. -/
theorem renderings_read_back_least :
    let s : Session :=
      ⟨.ofTexts "halt" ["1 10"], Machine.blank.setReg Register.ip 7, true, true, none, 0⟩
    BitsOn 16 8 (-2147483648) "80000000".toList ∧
      BitsOn 2 32 (-2147483648) ('1' :: List.replicate 31 '0') ∧
      Word.read? (trim "-2147483648") = some (-2147483648) ∧
      resolveAddress s.machine.reg "IP" = .ok 7 ∧
      ∃ shown, FilledTo 3 7 shown ∧
        (s.perform (.examine (some "IP"))).textOn .diagnostics =
          Text.line (String.ofList shown ++ ": " ++ "0") := by
  intro s
  obtain ⟨words, -, -, -, -, examined⟩ := renderings_read_back
  obtain ⟨⟨hex, hexEq, hexBits⟩, ⟨binary, binaryEq, binaryBits⟩, -, -, read⟩ :=
    words (-2147483648)
  have hexText : NumberFormat.hex.render (-2147483648) = "0x80000000".toList := by decide +kernel
  have binaryText : NumberFormat.binary.render (-2147483648) =
      '0' :: 'b' :: '1' :: List.replicate 31 '0' := by decide +kernel
  have decimalText : NumberFormat.decimal.render (-2147483648) = "-2147483648".toList := by
    decide +kernel
  have resolved : resolveAddress s.machine.reg "IP" = .ok 7 := by decide +kernel
  have tail : hex = "80000000".toList := by simpa [hexText] using hexEq.symm
  have tail' : binary = '1' :: List.replicate 31 '0' := by simpa [binaryText] using binaryEq.symm
  have content : (s.machine.cell 7).text = "0" := by decide +kernel
  obtain ⟨shown, filled, said⟩ := examined s "IP" 7 resolved
  rw [decimalText, String.ofList_toList] at read
  rw [content] at said
  exact ⟨tail ▸ hexBits, tail' ▸ binaryBits, read, resolved, shown, filled, said⟩

end RegisterVM
