import RegisterVM.Debugger.Event
import RegisterVM.Text.Lines

/-!
# Command line options

The arguments are read from left to right, and the first one that is wrong, or that asks for
help, decides.  One-letter options may be written together, options may follow the program,
and a double hyphen ends them.

* `Options`: what the arguments ask for.
* `Request.ofArgs`: the request that the arguments make.
* `helpPage`: the answer to a request for help.
-/

namespace RegisterVM

/-- What to run, and how. -/
structure Options where
  debug : Bool
  /-- Whether the session gets the full screen. -/
  fullscreen : Bool
  /-- How often more log lines were asked for. -/
  verbosity : Nat
  program : String
  deriving DecidableEq, Repr

/-- The finest level of events that is logged: none up to the second request for more log
lines, everything from the third one on. -/
def Options.level (o : Options) : Option Level :=
  if o.verbosity < 2 then none
  else if o.verbosity = 2 then some .debug
  else some .trace

/-- What the arguments ask for. -/
inductive Request where
  | help
  /-- The arguments are wrong. -/
  | usageError
  | start (options : Options)
  deriving DecidableEq, Repr

/-- The options as far as they are read. -/
structure OptionsSoFar where
  debug : Bool
  fullscreen : Bool
  verbosity : Nat
  program : Option String

/-- Why reading ends before the last argument. -/
inductive Stop where
  | help
  | usageError

namespace OptionsSoFar

/-- Nothing is read. -/
def empty : OptionsSoFar := ⟨false, false, 0, none⟩

/-- Takes an option by its long name.  An option without a count is given at most once. -/
def option (p : OptionsSoFar) (name : String) : Except Stop OptionsSoFar :=
  match name with
  | "debug" => if p.debug then .error .usageError else .ok { p with debug := true }
  | "tui" => if p.fullscreen then .error .usageError else .ok { p with fullscreen := true }
  | "verbose" => .ok { p with verbosity := p.verbosity + 1 }
  | "help" => .error .help
  | _ => .error .usageError

/-- Takes an option by its letter. -/
def letter (p : OptionsSoFar) (c : Char) : Except Stop OptionsSoFar :=
  match c with
  | 'd' => p.option "debug"
  | 'v' => p.option "verbose"
  | 'h' => p.option "help"
  | _ => .error .usageError

/-- Takes an argument that is no option: the program, of which there is one, and which has a
name. -/
def operand (p : OptionsSoFar) (arg : String) : Except Stop OptionsSoFar :=
  if p.program.isSome ∨ arg = "" then .error .usageError
  else .ok { p with program := some arg }

/-- Takes an argument in front of a double hyphen. -/
def argument (p : OptionsSoFar) (arg : String) : Except Stop OptionsSoFar :=
  match arg.toList with
  | '-' :: '-' :: name => p.option (String.ofList name)
  | '-' :: c :: cs => (c :: cs).foldlM letter p
  | _ => p.operand arg

/-- Takes arguments in order. -/
def arguments (p : OptionsSoFar) : List String → Except Stop OptionsSoFar
  | [] => .ok p
  | "--" :: operands => operands.foldlM operand p
  | arg :: args => do (← p.argument arg).arguments args

end OptionsSoFar

/-- The request that the arguments make. -/
def Request.ofArgs (args : List String) : Request :=
  match OptionsSoFar.empty.arguments args with
  | .error .help => .help
  | .error .usageError => .usageError
  | .ok p =>
      match p.program with
      | some program => .start ⟨p.debug, p.fullscreen, p.verbosity, program⟩
      | none => .usageError

/-- How the program is called. -/
def usage : String := "Usage: vml [OPTIONS] <PROGRAM>"

/-- The answer to a request for help. -/
def helpPage : String :=
  Text.unlines
    ["Register virtual machine with an interactive debugger",
      "",
      usage,
      "",
      "Arguments:",
      "  <PROGRAM>  Program image: a word count followed by that many integers",
      "",
      "Options:",
      "  -d, --debug       Start paused in the interactive debugger",
      "      --tui         Debug in a full-screen terminal UI instead of the line prompt",
      "  -v, --verbose...  Raise log verbosity (-v info, -vv debug, -vvv trace)",
      "  -h, --help        Print help"]

end RegisterVM
