import Mathlib.Data.List.Nodup
import Mathlib.Data.List.Perm.Subperm
import RegisterVM.Proofs.Debugger.Calls
import RegisterVM.Proofs.Text.Letters
import RegisterVM.Proofs.Text.Words

/-!
# What a command line means

A command line is read in two stages: its first two words are cut out, and the first of them is
looked up as an abbreviation.  Both stages are given here without the functions that carry them
out, as what the operator is told: where the two words stand in the line, and which words mean
which command.

## 1.  The words

`FirstWords` says where the first two words stand: a word is a run of characters without blanks
that cannot be made longer.  A line has exactly one reading of this kind
(`existsUnique_firstWords`), and it is the one that is used (`splitCommandLine_of_firstWords`).

## 2.  The commands

`Abbreviates` says that a word, in lower case, is the beginning of a name, and
`uniqueMatch?_eq_some_iff` that a list is searched for the only entry of which this is true.  The
names of the ten commands begin with ten different letters, so among them every abbreviation, down
to a single letter, is the only one (`name_unique`); this is why `Command.Denotes` does not have to
mention the other names.

## 3.  The lines

Two lines with the same meaning have the same effect on any session: `Alike` lists what may be
different, and `sameEffect_submit` says that it makes no difference.
-/

namespace RegisterVM

open Text

/-! ## 1.  The words of a line -/

/-- One or more characters, and no blank among them. -/
def IsWord (cs : List Char) : Prop := cs ≠ [] ∧ ∀ c ∈ cs, isBlank c = false

instance (cs : List Char) : Decidable (IsWord cs) :=
  decidable_of_iff (cs ≠ [] ∧ cs.all (fun c => !isBlank c) = true) (by
    simp only [IsWord, List.all_eq_true, Bool.not_eq_true'])

/-- The first word of a text and, if there is one, the second.  The second word ends where the text
ends or a blank comes; nothing is said of what stands behind it. -/
inductive FirstWords : List Char → Option (List Char × Option (List Char)) → Prop
  | none {front : List Char} (blank : ∀ c ∈ front, isBlank c = true) : FirstWords front none
  | one {front word back : List Char} (blank : ∀ c ∈ front, isBlank c = true)
      (isWord : IsWord word) (behind : ∀ c ∈ back, isBlank c = true) :
      FirstWords (front ++ word ++ back) (some (word, none))
  | two {front word gap arg rest : List Char} (blank : ∀ c ∈ front, isBlank c = true)
      (isWord : IsWord word) (apart : gap ≠ []) (between : ∀ c ∈ gap, isBlank c = true)
      (isArg : IsWord arg) (ends : ∀ c ∈ rest.head?, isBlank c = true) :
      FirstWords (front ++ word ++ gap ++ arg ++ rest) (some (word, some arg))

/-- The first words as texts. -/
def FirstWords.texts : List Char × Option (List Char) → String × Option String :=
  Prod.map String.ofList (Option.map String.ofList)

/-- A text falls into the blanks at its front, a word, and what follows the word. -/
theorem exists_first_word (cs : List Char) :
    (∀ c ∈ cs, isBlank c = true) ∨ ∃ front word rest, cs = front ++ word ++ rest ∧
      (∀ c ∈ front, isBlank c = true) ∧ IsWord word ∧ ∀ c ∈ rest.head?, isBlank c = true := by
  have whole : cs.takeWhile isBlank ++ cs.dropWhile isBlank = cs :=
    List.takeWhile_append_dropWhile
  cases solid : cs.dropWhile isBlank with
  | nil => exact .inl (List.dropWhile_eq_nil_iff.mp solid)
  | cons d ds =>
    have hd : isBlank d = false := by
      simpa only [solid, List.head_cons] using
        List.head_dropWhile_not isBlank (l := cs) (by simp [solid])
    refine .inr ⟨cs.takeWhile isBlank, d :: ds.takeWhile (!isBlank ·),
      ds.dropWhile (!isBlank ·), ?_, fun c mem => List.mem_takeWhile_imp mem,
      ⟨List.cons_ne_nil d _, ?_⟩, ?_⟩
    · rw [List.append_assoc, List.cons_append, List.takeWhile_append_dropWhile, ← solid, whole]
    · intro c mem
      rcases List.mem_cons.mp mem with rfl | mem
      · exact hd
      · simpa using List.mem_takeWhile_imp mem
    · intro c mem
      have stop := List.head?_dropWhile_not (!isBlank ·) ds
      rw [Option.mem_def.mp mem] at stop
      simpa using stop

/-- Every text has first words, if only none. -/
theorem exists_firstWords (cs : List Char) : ∃ found, FirstWords cs found := by
  rcases exists_first_word cs with blank | ⟨front, word, rest, rfl, blank, isWord, ends⟩
  · exact ⟨none, .none blank⟩
  rcases exists_first_word rest with behind | ⟨gap, arg, more, rfl, between, isArg, ends'⟩
  · exact ⟨some (word, none), .one blank isWord behind⟩
  · refine ⟨some (word, some arg), ?_⟩
    have apart : gap ≠ [] := by
      rintro rfl
      obtain ⟨c, more', eq⟩ := List.exists_cons_of_ne_nil isArg.1
      have first : isBlank c = true := ends c (by rw [eq]; rfl)
      have solid : isBlank c = false := isArg.2 c (by rw [eq]; exact List.mem_cons_self)
      rw [solid] at first
      cases first
    have parts : FirstWords (front ++ word ++ gap ++ arg ++ more) (some (word, some arg)) :=
      .two blank isWord apart between isArg ends'
    simpa only [List.append_assoc] using parts

/-- The words of a text begin with the first ones. -/
theorem splitWords_of_firstWords {cs : List Char} {found : Option (List Char × Option (List Char))}
    (h : FirstWords cs found) :
    found = (splitWords cs).head?.map fun word => (word, (splitWords cs).tail.head?) := by
  cases h with
  | none blank =>
    rw [← List.append_nil cs, splitWords_blanks_append blank]
    rfl
  | @one front word back blank isWord behind =>
    have ends : ∀ c ∈ back.head?, isBlank c = true := fun c mem =>
      behind c (List.mem_of_mem_head? mem)
    have nothing : splitWords back = [] := by
      rw [← List.append_nil back, splitWords_blanks_append behind, splitWords_nil]
    rw [List.append_assoc, splitWords_blanks_append blank,
      splitWords_token_append isWord.1 isWord.2 ends, nothing]
    rfl
  | @two front word gap arg rest blank isWord apart between isArg ends =>
    have gapEnds : ∀ c ∈ (gap ++ (arg ++ rest)).head?, isBlank c = true := by
      intro c mem
      rw [List.head?_append_of_ne_nil gap apart] at mem
      exact between c (List.mem_of_mem_head? mem)
    have parts : front ++ word ++ gap ++ arg ++ rest =
        front ++ (word ++ (gap ++ (arg ++ rest))) := by
      simp only [List.append_assoc]
    rw [parts, splitWords_blanks_append blank,
      splitWords_token_append isWord.1 isWord.2 gapEnds, splitWords_blanks_append between,
      splitWords_token_append isArg.1 isArg.2 ends]
    rfl

/-- The first words of a text are its first words in one way only. -/
theorem existsUnique_firstWords (cs : List Char) : ∃! found, FirstWords cs found := by
  obtain ⟨found, h⟩ := exists_firstWords cs
  refine ⟨found, h, fun other h' => ?_⟩
  rw [splitWords_of_firstWords h, splitWords_of_firstWords h']

/-- The first words of a line are what is cut out of it. -/
theorem splitCommandLine_of_firstWords {line : String}
    {found : Option (List Char × Option (List Char))} (h : FirstWords line.toList found) :
    splitCommandLine line = found.map FirstWords.texts := by
  rw [splitWords_of_firstWords h, splitCommandLine, words]
  cases splitWords line.toList with
  | nil => rfl
  | cons word more => cases more <;> rfl

/-! ## 2.  The commands of words -/

/-- The typed word is an abbreviation of the name: with every capital replaced by its small letter,
it is one or more of the characters that the name begins with. -/
def Abbreviates (typed name : List Char) : Prop :=
  typed ≠ [] ∧ ∃ head, List.Forall₂ Lowers typed head ∧ head <+: name

theorem abbreviates_iff {typed name : List Char} :
    Abbreviates typed name ↔ typed ≠ [] ∧ (lowerCase typed).isPrefixOf name = true := by
  rw [Abbreviates, List.isPrefixOf_iff_prefix]
  simp only [forall₂_lowers_iff, exists_eq_left']

/-- A list is searched for the only entry that the typed word abbreviates.  The other entries are
those at all other places, so a name that stands in the list twice is never the only one. -/
theorem uniqueMatch?_eq_some_iff {typed name : String} {names : List String} :
    uniqueMatch? typed names = some name ↔
      ∃ before after, names = before ++ name :: after ∧ Abbreviates typed.toList name.toList ∧
        ∀ other ∈ before ++ after, ¬ Abbreviates typed.toList other.toList := by
  by_cases empty : typed = ""
  · rw [uniqueMatch?, if_pos empty]
    refine iff_of_false (Option.some_ne_none name).symm ?_
    rintro ⟨-, -, -, abbreviates, -⟩
    exact abbreviates.1 (by rw [empty, String.toList_empty])
  have typed_ne : typed.toList ≠ [] := by simpa using empty
  have begins (n : String) : (lowerCase typed.toList).isPrefixOf n.toList = true ↔
      Abbreviates typed.toList n.toList := by
    rw [abbreviates_iff, and_iff_right typed_ne]
  have search : uniqueMatch? typed names = some name ↔
      (names.filter fun n => (lowerCase typed.toList).isPrefixOf n.toList) = [name] := by
    rw [uniqueMatch?, if_neg empty]
    split
    · next eq => rw [eq, Option.some.injEq, List.cons.injEq, and_iff_left rfl]
    · next none => exact iff_of_false (Option.some_ne_none name).symm (none name)
  rw [search, List.filter_eq_cons_iff]
  simp only [begins, List.filter_eq_nil_iff, List.mem_append, or_imp, forall_and]
  constructor
  · rintro ⟨before, after, eq, early, abbreviates, late⟩
    exact ⟨before, after, eq, abbreviates, early, late⟩
  · rintro ⟨before, after, eq, abbreviates, early, late⟩
    exact ⟨before, after, eq, early, abbreviates, late⟩

/-- Two entries that the typed word abbreviates exclude each other. -/
theorem uniqueMatch?_of_two {typed n m : String} {names : List String}
    (two : [n, m].Subperm names) (first : Abbreviates typed.toList n.toList)
    (second : Abbreviates typed.toList m.toList) : uniqueMatch? typed names = none := by
  have typed_ne : typed ≠ "" := by simpa using first.1
  have both : ∀ name ∈ [n, m], (lowerCase typed.toList).isPrefixOf name.toList = true := by
    intro name mem
    rcases List.mem_pair.mp mem with rfl | rfl
    · exact (abbreviates_iff.mp first).2
    · exact (abbreviates_iff.mp second).2
  have found := (List.Subperm.filter
    (fun name : String => (lowerCase typed.toList).isPrefixOf name.toList) two).length_le
  rw [List.filter_eq_self.mpr both] at found
  rw [uniqueMatch?, if_neg typed_ne]
  split
  · next eq =>
    rw [eq] at found
    simp at found
  · rfl

/-- A name begins with the letters that abbreviate it, and these have no letter beyond ASCII but
the ones that were typed. -/
theorem Abbreviates.mem_of_not_isCapital {typed name : List Char} (h : Abbreviates typed name)
    {c : Char} (mem : c ∈ typed) (other : ¬ IsCapital c) : c ∈ name := by
  obtain ⟨-, head, lowers, begins⟩ := h
  rw [forall₂_lowers_iff] at lowers
  refine begins.subset (lowers ▸ ?_)
  exact List.mem_map.mpr ⟨c, mem, toLower_of_not_isCapital other⟩

/-- The commands that have a name, and what becomes of an argument. -/
inductive Command.Named : String → Option String → Command → Prop
  | help (arg : Option String) : Named "help" arg .help
  | quit (arg : Option String) : Named "quit" arg .quit
  | list (arg : Option String) : Named "list" arg (.list arg)
  | print (arg : Option String) : Named "print" arg (.print arg)
  | frame (arg : Option String) : Named "frame" arg (.frame arg)
  | step (arg : Option String) : Named "step" arg (.step arg)
  | proceed (arg : Option String) : Named "continue" arg .proceed
  | restart (arg : Option String) : Named "restart" arg .restart
  | breakAt (arg : Option String) : Named "break" arg (.breakAt arg)
  | deleteBreak (arg : Option String) : Named "delete" arg .deleteBreak

/-- The command that a word and an argument mean: `x` typed exactly, or an abbreviation of one of
the names. -/
inductive Command.Denotes : List Char → Option String → Command → Prop
  | examine (arg : Option String) : Denotes ['x'] arg (.examine arg)
  | named {word : List Char} {name : String} {arg : Option String} {command : Command}
      (named : Command.Named name arg command) (abbreviates : Abbreviates word name.toList) :
      Denotes word arg command

namespace Command

variable {word : List Char} {name other : String} {arg : Option String} {command : Command}

/-- The table of the named commands. -/
theorem mem_namedCommands_of_named (named : Named name arg command) :
    ∃ make, (name, make) ∈ namedCommands ∧ namedCommands.lookup name = some make ∧
      make arg = command := by
  cases named <;> exact ⟨_, by simp [namedCommands], rfl, rfl⟩

theorem named_of_mem_namedCommands {make : Option String → Command}
    (mem : (name, make) ∈ namedCommands) (arg : Option String) : Named name arg (make arg) := by
  simp only [namedCommands, List.mem_cons, List.not_mem_nil, or_false, Prod.mk.injEq] at mem
  rcases mem with ⟨rfl, rfl⟩ | ⟨rfl, rfl⟩ | ⟨rfl, rfl⟩ | ⟨rfl, rfl⟩ | ⟨rfl, rfl⟩ | ⟨rfl, rfl⟩ |
    ⟨rfl, rfl⟩ | ⟨rfl, rfl⟩ | ⟨rfl, rfl⟩ | ⟨rfl, rfl⟩
  · exact .help arg
  · exact .quit arg
  · exact .list arg
  · exact .print arg
  · exact .frame arg
  · exact .step arg
  · exact .proceed arg
  · exact .restart arg
  · exact .breakAt arg
  · exact .deleteBreak arg

/-- The names begin with different letters. -/
theorem eq_of_head?_eq {n m : String} (hn : n ∈ namedCommands.map (·.1))
    (hm : m ∈ namedCommands.map (·.1)) (same : n.toList.head? = m.toList.head?) : n = m := by
  have apart : ∀ n ∈ namedCommands.map (·.1), ∀ m ∈ namedCommands.map (·.1),
      n.toList.head? = m.toList.head? → n = m := by decide
  exact apart n hn m hm same

/-- No name begins with the letter of the command outside the table. -/
theorem head?_ne_x {n : String} (hn : n ∈ namedCommands.map (·.1)) : n.toList.head? ≠ some 'x' := by
  have none : ∀ n ∈ namedCommands.map (·.1), n.toList.head? ≠ some 'x' := by decide
  exact none n hn

end Command

/-- An abbreviation has the first letter of the name, up to case. -/
theorem Abbreviates.head?_eq {typed name : List Char} (h : Abbreviates typed name) :
    name.head? = typed.head?.map Char.toLower := by
  obtain ⟨ne, head, lowers, rest, rfl⟩ := h
  obtain rfl := forall₂_lowers_iff.mp lowers
  obtain ⟨c, cs, rfl⟩ := List.exists_cons_of_ne_nil ne
  rfl

namespace Command

variable {word : List Char} {name other : String} {arg arg' : Option String}
  {command command' : Command}

/-- No word abbreviates two of the names. -/
theorem name_unique (named : Named name arg command) (named' : Named other arg' command')
    (abbreviates : Abbreviates word name.toList) (abbreviates' : Abbreviates word other.toList) :
    name = other := by
  obtain ⟨make, mem, -, -⟩ := mem_namedCommands_of_named named
  obtain ⟨make', mem', -, -⟩ := mem_namedCommands_of_named named'
  exact eq_of_head?_eq (List.mem_map_of_mem mem) (List.mem_map_of_mem mem')
    (abbreviates.head?_eq.trans abbreviates'.head?_eq.symm)

/-- Among the names an abbreviation is always found. -/
theorem uniqueMatch?_names {typed : String} (named : Named name arg command)
    (abbreviates : Abbreviates typed.toList name.toList) :
    uniqueMatch? typed (namedCommands.map (·.1)) = some name := by
  obtain ⟨make, mem, -, -⟩ := mem_namedCommands_of_named named
  have mem' : name ∈ namedCommands.map (·.1) := List.mem_map_of_mem mem
  obtain ⟨before, after, eq⟩ := List.append_of_mem mem'
  refine uniqueMatch?_eq_some_iff.mpr ⟨before, after, eq, abbreviates, ?_⟩
  intro other elsewhere abbreviates'
  have distinct : (namedCommands.map (·.1)).Nodup := by decide
  have mem'' : other ∈ namedCommands.map (·.1) := by
    rw [eq]
    rcases List.mem_append.mp elsewhere with h | h
    · exact List.mem_append_left _ h
    · exact List.mem_append_right _ (List.mem_cons_of_mem _ h)
  obtain rfl := eq_of_head?_eq mem' mem'' (abbreviates.head?_eq.trans abbreviates'.head?_eq.symm)
  rw [eq, List.nodup_middle, List.nodup_cons] at distinct
  exact distinct.1 elsewhere

/-- A word is looked up as what it denotes. -/
theorem ofWord?_eq_some_iff {word : String} :
    ofWord? word arg = some command ↔ Denotes word.toList arg command := by
  by_cases exactly : word = "x"
  · rw [ofWord?, if_pos exactly, exactly]
    constructor
    · intro eq
      obtain rfl := Option.some.inj eq
      exact .examine arg
    · rintro (_ | ⟨named, abbreviates⟩)
      · rfl
      · obtain ⟨make, mem, -, -⟩ := mem_namedCommands_of_named named
        exact absurd abbreviates.head?_eq (head?_ne_x (List.mem_map_of_mem mem))
  · rw [ofWord?, if_neg exactly]
    constructor
    · intro eq
      obtain ⟨name, found, rest⟩ := Option.bind_eq_some_iff.mp eq
      obtain ⟨make, lookup, made⟩ := Option.bind_eq_some_iff.mp rest
      obtain rfl := Option.some.inj made
      obtain ⟨-, -, -, abbreviates, -⟩ := uniqueMatch?_eq_some_iff.mp found
      obtain ⟨before, after, table, -⟩ := List.lookup_eq_some_iff.mp lookup
      have mem : (name, make) ∈ namedCommands := by
        rw [table]
        exact List.mem_append_right before List.mem_cons_self
      exact .named (named_of_mem_namedCommands mem arg) abbreviates
    · generalize chars : word.toList = cs
      rintro (_ | ⟨named, abbreviates⟩)
      · refine absurd ?_ exactly
        rw [← String.ofList_toList (s := word), chars]
      · subst chars
        obtain ⟨make, -, lookup, rfl⟩ := mem_namedCommands_of_named named
        rw [uniqueMatch?_names named abbreviates, Option.bind_eq_bind, Option.bind_some, lookup]
        rfl

/-- What a word denotes is one command. -/
theorem Denotes.unique {word : List Char} (h : Denotes word arg command)
    (h' : Denotes word arg command') : command = command' := by
  rw [← String.toList_ofList (l := word)] at h h'
  exact Option.some.inj ((ofWord?_eq_some_iff.mpr h).symm.trans (ofWord?_eq_some_iff.mpr h'))

/-- The command of a line is that of its first word, if there is one. -/
theorem ofLine_of_firstWords {line : String} {word : List Char} {arg : Option (List Char)}
    (h : FirstWords line.toList (some (word, arg))) :
    ofLine line = some ((ofWord? (String.ofList word) (arg.map String.ofList)).elim
      (.error (String.ofList word)) .ok) := by
  rw [ofLine, splitCommandLine_of_firstWords h, Option.map_some, Option.map_some]
  cases found : ofWord? (String.ofList word) (arg.map String.ofList) <;>
    simp only [FirstWords.texts, Prod.map, found, Option.elim]

/-- The command of a line is what its first word denotes. -/
theorem ofLine_eq_ok_iff {line : String} {word : List Char} {arg : Option (List Char)}
    (h : FirstWords line.toList (some (word, arg))) :
    ofLine line = some (.ok command) ↔ Denotes word (arg.map String.ofList) command := by
  rw [ofLine_of_firstWords h, Option.some.injEq, ← String.toList_ofList (l := word),
    ← ofWord?_eq_some_iff, String.toList_ofList]
  cases ofWord? (String.ofList word) (arg.map String.ofList) with
  | none => exact iff_of_false nofun nofun
  | some found => rw [Option.elim_some, Except.ok.injEq, Option.some.injEq]

/-- A line without a word is no command line. -/
theorem ofLine_of_blank {line : String} (h : FirstWords line.toList none) : ofLine line = none := by
  rw [ofLine, splitCommandLine_of_firstWords h]
  rfl

/-- A first word that denotes nothing is reported, and is no command. -/
theorem ofLine_of_not_denotes {line : String} {word : List Char} {arg : Option (List Char)}
    (h : FirstWords line.toList (some (word, arg)))
    (nothing : ∀ command, ¬ Denotes word (arg.map String.ofList) command) :
    ofLine line = some (.error (String.ofList word)) := by
  have unknown : ofWord? (String.ofList word) (arg.map String.ofList) = none := by
    rw [Option.eq_none_iff_forall_ne_some]
    intro command found
    refine nothing command ?_
    rw [← String.toList_ofList (l := word)]
    exact ofWord?_eq_some_iff.mp found
  rw [ofLine_of_firstWords h, unknown]
  rfl

end Command

/-! ## 3.  Lines that mean the same -/

/-- The two replies leave behind the same session with the same result, and the same steps were
taken and the same texts written on the way.  What is logged may differ. -/
structure Reply.SameEffect (r r' : Reply) : Prop where
  session : r.session = r'.session
  result : r.result = r'.result
  stepped : r.stepped = r'.stepped
  textOn (channel : Channel) : r.textOn channel = r'.textOn channel

namespace Session

variable {s : Session} {line : String} {word : List Char} {arg : Option (List Char)}
  {command : Command}

theorem submit_of_denotes (paused : s.isPaused = true)
    (h : FirstWords line.toList (some (word, arg)))
    (denotes : Command.Denotes word (arg.map String.ofList) command) :
    s.submit (some line) = s.perform command := by
  simp only [submit, if_pos paused, (Command.ofLine_eq_ok_iff h).mpr denotes]

theorem submit_of_blank (paused : s.isPaused = true) (h : FirstWords line.toList none) :
    s.submit (some line) = .silent s .needCommand := by
  simp only [submit, if_pos paused, Command.ofLine_of_blank h]

/-- A word that denotes nothing is only logged. -/
theorem submit_of_not_denotes (paused : s.isPaused = true)
    (h : FirstWords line.toList (some (word, arg)))
    (nothing : ∀ command, ¬ Command.Denotes word (arg.map String.ofList) command) :
    s.submit (some line) =
      ⟨[.log (.unrecognized (String.ofList word))], s, .ok .needCommand⟩ := by
  simp only [submit, if_pos paused, Command.ofLine_of_not_denotes h nothing]

end Session

/-- The two words may stand for each other: they are equal; or they differ in the case of letters
only, and are not the one-letter command; or they are cut from one name. -/
inductive SameWord : List Char → List Char → Prop
  | same (word : List Char) : SameWord word word
  | letters {word word' : List Char} (small : word ≠ ['x']) (capital : word ≠ ['X'])
      (letters : List.Forall₂ SameLetter word word') : SameWord word word'
  | abbreviations {word word' : List Char} {name : String} {arg : Option String}
      {command : Command} (named : Command.Named name arg command)
      (first : Abbreviates word name.toList) (second : Abbreviates word' name.toList) :
      SameWord word word'

/-- The two lines differ only in blanks around and between their words, in words behind the second
one, and in first words that may stand for each other. -/
inductive Alike : String → String → Prop
  | blank {line line' : String} (h : FirstWords line.toList none)
      (h' : FirstWords line'.toList none) : Alike line line'
  | words {line line' : String} {word word' : List Char} {arg : Option (List Char)}
      (h : FirstWords line.toList (some (word, arg)))
      (h' : FirstWords line'.toList (some (word', arg))) (alike : SameWord word word') :
      Alike line line'

/-- Only the letter itself, in either case, is `x` in lower case. -/
theorem eq_x_of_lowerCase {word : List Char} (h : lowerCase word = ['x']) :
    word = ['x'] ∨ word = ['X'] := by
  have letters : List.Forall₂ SameLetter word ['x'] := by
    rw [← sameLetters_iff, sameLetters, h]
    decide
  obtain _ | ⟨letter, rest⟩ := letters
  obtain _ | _ := rest
  rcases letter with _ | ⟨capital, small⟩ | ⟨capital, -⟩
  · exact .inl rfl
  · right
    have code : 'x'.toNat = 120 := by decide
    have code' : 'X'.toNat = 88 := by decide
    rw [List.cons.injEq, and_iff_left rfl, ← Char.toNat_inj]
    omega
  · exact absurd capital (by rw [isCapital_iff]; decide)

/-- The case of the letters of an abbreviation does not matter. -/
theorem Abbreviates.of_lowerCase {word word' name : List Char}
    (same : lowerCase word = lowerCase word') (h : Abbreviates word name) :
    Abbreviates word' name := by
  rw [abbreviates_iff] at h ⊢
  refine ⟨?_, same ▸ h.2⟩
  rintro rfl
  exact h.1 (List.map_eq_nil_iff.mp same)

namespace Command.Denotes

variable {word word' : List Char} {name : String} {arg arg' : Option String}
  {command command' : Command}

/-- The case of the letters matters to the one-letter command only. -/
theorem of_lowerCase (same : lowerCase word = lowerCase word') (other : lowerCase word ≠ ['x'])
    (h : Denotes word arg command) : Denotes word' arg command := by
  rcases h with _ | ⟨named, abbreviates⟩
  · exact absurd (by decide) other
  · exact .named named (abbreviates.of_lowerCase same)

/-- What an abbreviation denotes is the command of the name, however short it is cut. -/
theorem iff_named (named : Named name arg' command') (abbreviates : Abbreviates word name.toList) :
    Denotes word arg command ↔ Named name arg command := by
  constructor
  · rintro (_ | ⟨named', abbreviates'⟩)
    · obtain ⟨make, mem, -, -⟩ := mem_namedCommands_of_named named
      exact absurd abbreviates.head?_eq (head?_ne_x (List.mem_map_of_mem mem))
    · rwa [name_unique named named' abbreviates abbreviates']
  · exact fun named' => .named named' abbreviates

/-- Words that may stand for each other denote the same. -/
theorem iff_of_sameWord (h : SameWord word word') :
    Denotes word arg command ↔ Denotes word' arg command := by
  rcases h with _ | ⟨small, capital, letters⟩ | ⟨named, first, second⟩
  · rfl
  · have same : lowerCase word = lowerCase word' := by
      rw [← sameLetters_iff, sameLetters, beq_iff_eq] at letters
      exact letters
    have other : lowerCase word ≠ ['x'] := fun x => (eq_x_of_lowerCase x).elim small capital
    exact ⟨of_lowerCase same other, of_lowerCase same.symm (same ▸ other)⟩
  · rw [iff_named named first, iff_named named second]

end Command.Denotes

/-- Lines that differ in nothing that matters have the same effect. -/
theorem Session.sameEffect_submit {line line' : String} (h : Alike line line') (s : Session) :
    (s.submit (some line)).SameEffect (s.submit (some line')) := by
  by_cases paused : s.isPaused = true
  · cases h with
    | blank h h' =>
      rw [submit_of_blank paused h, submit_of_blank paused h']
      exact ⟨rfl, rfl, rfl, fun _ => rfl⟩
    | @words word word' arg h h' alike =>
      by_cases known : ∃ command, Command.Denotes word (arg.map String.ofList) command
      · obtain ⟨command, denotes⟩ := known
        rw [submit_of_denotes paused h denotes,
          submit_of_denotes paused h' ((Command.Denotes.iff_of_sameWord alike).mp denotes)]
        exact ⟨rfl, rfl, rfl, fun _ => rfl⟩
      · have nothing := not_exists.mp known
        have nothing' (command : Command) :
            ¬ Command.Denotes word' (arg.map String.ofList) command := fun denotes =>
          nothing command ((Command.Denotes.iff_of_sameWord alike).mpr denotes)
        rw [submit_of_not_denotes paused h nothing, submit_of_not_denotes paused h' nothing']
        exact ⟨rfl, rfl, rfl, fun _ => rfl⟩
  · simp only [submit, if_neg paused]
    exact ⟨rfl, rfl, rfl, fun _ => rfl⟩

/-! ## The main statement -/

/-- **Command lines mean what the operator is told.**

A list of names in lower case is searched for the only entry that the typed word abbreviates: an
entry that is typed in full is not preferred to a longer one, and a letter beyond ASCII is only
found where it stands.

Let a session be paused.  Of a line that it is given it takes in the first two words, which are
there in one way only.

* Without a word, nothing is done.
* A word that is `x`, or an abbreviation of one of the ten names, has that command carried out, with
  the second word as its argument where the command takes one; the line means this command and no
  other.
* Any other word has no effect.

So two lines that differ only in blanks, in further words, in the case of the letters of the first
word (unless that is `x`) or in how short it is cut have the same effect, on any session. -/
theorem command_lines_mean_commands {s : Session} (paused : s.isPaused = true) :
    (∀ typed name names, (∀ n ∈ names, ∀ c ∈ n.toList, ¬ IsCapital c) →
      (uniqueMatch? typed names = some name ↔ typed ≠ "" ∧
        ∃ before after, names = before ++ name :: after ∧ Abbreviates typed.toList name.toList ∧
          ∀ other ∈ before ++ after, ¬ Abbreviates typed.toList other.toList) ∧
      (∀ longer, typed ≠ "" → typed.toList <+: longer.toList → [typed, longer].Subperm names →
        uniqueMatch? typed names = none) ∧
      (uniqueMatch? typed names = some name →
        ∀ c ∈ typed.toList, 128 ≤ c.toNat → c ∈ name.toList)) ∧
    (∀ line : String, ∃! found, FirstWords line.toList found) ∧
    (∀ line, FirstWords line.toList none → s.submit (some line) = .silent s .needCommand) ∧
    (∀ line word arg, FirstWords line.toList (some (word, arg)) →
      (∀ command, Command.ofLine line = some (.ok command) ↔
        Command.Denotes word (arg.map String.ofList) command) ∧
      (∀ command, Command.Denotes word (arg.map String.ofList) command →
        s.submit (some line) = s.perform command ∧
        ∀ other, Command.Denotes word (arg.map String.ofList) other → other = command) ∧
      ((∀ command, ¬ Command.Denotes word (arg.map String.ofList) command) →
        (s.submit (some line)).SameEffect (.silent s .needCommand))) ∧
    ∀ line line', Alike line line' →
      ∀ t : Session, (t.submit (some line)).SameEffect (t.submit (some line')) := by
  refine ⟨fun typed name names lower => ⟨?_, ?_, ?_⟩,
    fun line => existsUnique_firstWords line.toList,
    fun line blank => Session.submit_of_blank paused blank, fun line word arg h => ⟨?_, ?_, ?_⟩,
    fun line line' alike t => Session.sameEffect_submit alike t⟩
  · rw [uniqueMatch?_eq_some_iff, iff_and_self]
    rintro ⟨-, -, -, abbreviates, -⟩ rfl
    exact abbreviates.1 String.toList_empty
  · intro longer ne begins two
    have mem : typed ∈ names := two.subset List.mem_cons_self
    have full : List.Forall₂ Lowers typed.toList typed.toList :=
      List.forall₂_same.mpr fun c hc => .other (lower typed mem c hc)
    have typed_ne : typed.toList ≠ [] := by simpa using ne
    exact uniqueMatch?_of_two two ⟨typed_ne, typed.toList, full, List.prefix_rfl⟩
      ⟨typed_ne, typed.toList, full, begins⟩
  · intro found c mem beyond
    obtain ⟨-, -, -, abbreviates, -⟩ := uniqueMatch?_eq_some_iff.mp found
    refine abbreviates.mem_of_not_isCapital mem fun capital => ?_
    have low := isCapital_iff.mp capital
    omega
  · exact fun command => Command.ofLine_eq_ok_iff h
  · exact fun command denotes =>
      ⟨Session.submit_of_denotes paused h denotes, fun other denotes' => denotes'.unique denotes⟩
  · intro nothing
    rw [Session.submit_of_not_denotes paused h nothing]
    exact ⟨rfl, rfl, rfl, fun _ => rfl⟩

/-- Two spellings of a step of two instructions; and `step` in a list that also has a longer
name. -/
theorem command_lines_mean_commands_step :
    let s : Session := ⟨.constant "seven" (.ok .seven), .ofImage .seven, true, true, none, 0⟩
    s.submit (some "\u2003ST\t2 more") = s.perform (.step (some "2")) ∧
      (s.submit (some "\u2003ST\t2 more")).SameEffect (s.submit (some "s 2")) ∧
      uniqueMatch? "step" ["step", "steps"] = none := by
  intro s
  obtain ⟨names, -, -, lines, alike⟩ := command_lines_mean_commands (s := s) rfl
  have first : FirstWords "\u2003ST\t2 more".toList (some (['S', 'T'], some ['2'])) := by
    have parts : "\u2003ST\t2 more".toList =
        ['\u2003'] ++ ['S', 'T'] ++ ['\t'] ++ ['2'] ++ [' ', 'm', 'o', 'r', 'e'] := by decide
    rw [parts]
    exact .two (List.all_eq_true.mp (by decide)) (by decide) (by decide)
      (List.all_eq_true.mp (by decide)) (by decide) (by rintro _ ⟨⟩; decide)
  have second : FirstWords "s 2".toList (some (['s'], some ['2'])) := by
    have parts : "s 2".toList = [] ++ ['s'] ++ [' '] ++ ['2'] ++ [] := by decide
    rw [parts]
    exact .two (List.all_eq_true.mp (by decide)) (by decide) (by decide)
      (List.all_eq_true.mp (by decide)) (by decide) (by rintro _ ⟨⟩)
  have long : Abbreviates ['S', 'T'] "step".toList := abbreviates_iff.mpr (by decide)
  have short : Abbreviates ['s'] "step".toList := abbreviates_iff.mpr (by decide)
  have named : Command.Named "step" (some "2") (.step (some "2")) := .step (some "2")
  obtain ⟨-, means, -⟩ := lines _ _ _ first
  have small : ∀ n ∈ ["step", "steps"], n.toList.all (fun c => ¬ IsCapital c) = true := by decide
  have low : ∀ n ∈ ["step", "steps"], ∀ c ∈ n.toList, ¬ IsCapital c := fun n mem c inName =>
    of_decide_eq_true (List.all_eq_true.mp (small n mem) c inName)
  obtain ⟨-, notPreferred, -⟩ := names "step" "step" ["step", "steps"] low
  exact ⟨(means _ (.named named long)).1,
    alike _ _ (.words first second (.abbreviations named long short)) s,
    notPreferred "steps" (by decide) (by decide) (List.Subperm.refl _)⟩

end RegisterVM
