import RegisterVM.Program.Reader

/-!
# Program files

A program file is found by its path and read as UTF-8 text.

* `Folder`: a directory with the files below it, by their paths.
* `Place`: where a walk along a path has come to.
* `Folder.read`: the bytes behind a path, or why there are none.
* `Image.ofBytes`: the image of the bytes of a file.
* `Folder.load`: the image of the file behind a path.
-/

namespace RegisterVM

/-- A directory with everything below it.  A path is the list of names on the way down. -/
structure Folder where
  files : List (List String × ByteArray)
  folders : List (List String)

/-- Where a walk along a path stands. -/
inductive Place where
  /-- At a path below the directory. -/
  | below (path : List String)
  /-- In a directory above, of which nothing is known. -/
  | above
  deriving DecidableEq, Repr

namespace Folder

/-- There is a directory at the path: the directory itself, one that is listed, or one on
the way to something that is listed. -/
def isFolder (f : Folder) (path : List String) : Bool :=
  path.isEmpty || f.folders.any path.isPrefixOf ||
    f.files.any fun file => path.isPrefixOf file.1 && path != file.1

/-- The bytes of the file at the path. -/
def file? (f : Folder) (path : List String) : Option ByteArray :=
  f.files.lookup path

/-- What keeps a walk from going on at a path that is no directory. -/
def obstacle (f : Folder) (path : List String) : FileError :=
  if (f.file? path).isSome then .notDirectory else .notFound

/-- One step of a walk.  A name has at most 255 bytes.  A step up from the directory leaves
it, and from there no name leads on. -/
def enter (f : Folder) (place : Place) (name : String) : Except FileError Place :=
  match place with
  | .above =>
      if name = "" ∨ name = "." ∨ name = ".." then .ok .above
      else if 255 < name.utf8ByteSize then .error .nameTooLong
      else .error .notFound
  | .below path =>
      if !f.isFolder path then .error (f.obstacle path)
      else if name = "" ∨ name = "." then .ok place
      else if name = ".." then .ok (if path.isEmpty then .above else .below path.dropLast)
      else if 255 < name.utf8ByteSize then .error .nameTooLong
      else .ok (.below (path ++ [name]))

/-- The place behind a path.  A path that begins with a slash does not begin in the
directory. -/
def walk (f : Folder) (path : String) : Except FileError Place :=
  let start : Place := if path.front = '/' then .above else .below []
  ((path.toList.splitOn '/').map String.ofList).foldlM f.enter start

/-- The bytes of the file behind a path.  The empty path names nothing, and a path has at
most 4095 bytes. -/
def read (f : Folder) (path : String) : Except FileError ByteArray :=
  if path.toList.contains '\x00' then .error .nullInName
  else if path = "" then .error .notFound
  else if 4095 < path.utf8ByteSize then .error .nameTooLong
  else
    match f.walk path with
    | .error cause => .error cause
    | .ok .above => .error .isDirectory
    | .ok (.below place) =>
        if f.isFolder place then .error .isDirectory
        else
          match f.file? place with
          | some bytes => .ok bytes
          | none => .error .notFound

end Folder

/-- The image of the bytes of a program file. -/
def Image.ofBytes (path : String) (bytes : ByteArray) : Except LoadError Image :=
  match String.fromUTF8? bytes with
  | some text => Image.ofText path text
  | none => .error (.unreadable path .notText)

/-- The image of the program file behind a path. -/
def Folder.load (f : Folder) (path : String) : Except LoadError Image :=
  match f.read path with
  | .ok bytes => Image.ofBytes path bytes
  | .error cause => .error (.unreadable path cause)

end RegisterVM
