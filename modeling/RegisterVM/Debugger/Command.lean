import RegisterVM.Text.Blank
import RegisterVM.Text.Letters
import RegisterVM.Text.Lines

/-!
# Commands

A command line is a command word and at most one argument; further words are ignored.  The
word may be cut short as long as it still means one command, and typed in either case.  The
one-letter command `x` is outside this rule: it is typed exactly.

* `Command`: what the operator can ask for.
* `uniqueMatch?`: the one name that a typed word abbreviates.
* `Command.ofWord?`: the command of a word and an argument.
* `splitCommandLine`: the word and the argument of a command line.
-/

namespace RegisterVM

/-- A debugger command.  An argument is kept as typed and read when the command is carried
out. -/
inductive Command where
  | help
  | quit
  | list (arg : Option String)
  | print (arg : Option String)
  | examine (arg : Option String)
  | frame (arg : Option String)
  | step (arg : Option String)
  | proceed
  | restart
  | breakAt (arg : Option String)
  | deleteBreak
  deriving DecidableEq, Repr

/-- The commands that may be abbreviated, by name.  A command without an argument drops the
one that was typed. -/
def namedCommands : List (String × (Option String → Command)) :=
  [("help", fun _ => .help),
    ("quit", fun _ => .quit),
    ("list", .list),
    ("print", .print),
    ("frame", .frame),
    ("step", .step),
    ("continue", fun _ => .proceed),
    ("restart", fun _ => .restart),
    ("break", .breakAt),
    ("delete", fun _ => .deleteBreak)]

/-- The text that the help command prints. -/
def helpText : String :=
  Text.unlines
    ["Debugger commands (may be abbreviated):",
      "  help      - Prints this message",
      "  quit      - Exits the virtual machine",
      "  list [N]  - Disassembles the next N instructions (default 5)",
      "  print R   - Prints the value of register R (r0-r31, ip, rp, fp, sp)",
      "  x A       - Prints the value in memory at address A",
      "  frame [N] - Displays the top N values on the stack (default from SP to FP)",
      "  step [N]  - Executes N instructions (default 1)",
      "  continue  - Runs until the next breakpoint, fault or halt",
      "  restart   - Reloads the program and resets the machine",
      "  break [A] - Pauses execution whenever IP == A (default current IP)",
      "  delete    - Deletes the breakpoint",
      "",
      "Wherever an address is expected a register name may be given instead, in",
      "which case the value held in that register is used as the address."]

/-- The name that a typed word abbreviates: the only entry of the list that begins with the
word in small letters.  An entry equal to the word is not preferred to a longer one, and the
empty word abbreviates nothing. -/
def uniqueMatch? (typed : String) (names : List String) : Option String :=
  if typed = "" then none
  else
    match names.filter fun name =>
      (Text.lowerCase typed.toList).isPrefixOf name.toList with
    | [name] => some name
    | _ => none

/-- The command of a word and an optional argument. -/
def Command.ofWord? (word : String) (arg : Option String) : Option Command :=
  if word = "x" then some (.examine arg)
  else do
    let name ← uniqueMatch? word (namedCommands.map (·.1))
    let command ← namedCommands.lookup name
    return command arg

/-- The first word of a line and the second one, when they exist. -/
def splitCommandLine (line : String) : Option (String × Option String) :=
  match Text.words line with
  | [] => none
  | word :: more => some (word, more.head?)

/-- The command of a line, with its word when the word is no command. -/
def Command.ofLine (line : String) : Option (Except String Command) :=
  (splitCommandLine line).map fun (word, arg) =>
    match Command.ofWord? word arg with
    | some command => .ok command
    | none => .error word

end RegisterVM
