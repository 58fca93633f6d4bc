import RegisterVM.Text.Numeral

/-!
# Load errors

Why a program could not be loaded, from the file that holds it to the last of its words, and
the wording of each cause.
-/

namespace RegisterVM

/-- Why the text of a file could not be read. -/
inductive FileError where
  | notFound
  | isDirectory
  | notDirectory
  | nameTooLong
  /-- The path holds a null character, so no system call can take it. -/
  | nullInName
  /-- The bytes of the file are not UTF-8. -/
  | notText
  /-- Any other cause that the system reports, by its description and its number. -/
  | other (description : String) (number : Nat)
  deriving DecidableEq, Repr

/-- Why a program could not be loaded. -/
inductive LoadError where
  /-- The file could not be read. -/
  | unreadable (path : String) (cause : FileError)
  /-- The first word of the text is not a count; it is empty when there is no word. -/
  | badWordCount (name token : String)
  /-- The text ends before the advertised number of words. -/
  | truncated (name : String) (expected found : Nat)
  /-- The word at an index is not a machine word. -/
  | badWord (name : String) (index : Nat)
  /-- The program is larger than memory. -/
  | tooLarge (name : String) (words : Nat)
  deriving DecidableEq, Repr

/-- A cause with the number under which the system knows it. -/
def FileError.numbered (description : String) (number : Nat) : String :=
  description ++ " (os error " ++ Text.Numeral.decimal number ++ ")"

/-- The wording of a file error. -/
def FileError.message : FileError → String
  | notFound => numbered "No such file or directory" 2
  | notDirectory => numbered "Not a directory" 20
  | isDirectory => numbered "Is a directory" 21
  | nameTooLong => numbered "File name too long" 36
  | nullInName => "file name contained an unexpected NUL byte"
  | notText => "stream did not contain valid UTF-8"
  | other description number => numbered description number

/-- The wording of a load error. -/
def LoadError.message : LoadError → String
  | unreadable path cause => "cannot read `" ++ path ++ "': " ++ cause.message
  | badWordCount name token => "Bad word count in " ++ name ++ ": " ++ token
  | truncated name expected found =>
      "File " ++ name ++ " advertised " ++ Text.Numeral.decimal expected ++
        " words but had only " ++ Text.Numeral.decimal found
  | badWord name index =>
      "Bad data for word " ++ Text.Numeral.decimal index ++ " in file " ++ name
  | tooLarge name words =>
      "Program " ++ name ++ " has " ++ Text.Numeral.decimal words ++
        " words but memory holds only 500"

end RegisterVM
