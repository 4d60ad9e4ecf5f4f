/-!
Files: what a program reads and writes, and a directory of files as a value.
-/

namespace Stackwright

inductive FileError where
  | missing
  | notDirectory
  | isDirectory
  | nameTooLong
  | notText
  | other (reason : String)
  deriving DecidableEq, Repr

def FileError.message : FileError → String
  | missing => "No such file or directory (os error 2)"
  | notDirectory => "Not a directory (os error 20)"
  | isDirectory => "Is a directory (os error 21)"
  | nameTooLong => "File name too long (os error 36)"
  | notText => "stream did not contain valid UTF-8"
  | other reason => reason

def textOfBytes (content : ByteArray) : Except FileError String :=
  match String.fromUTF8? content with
  | some text => .ok text
  | none => .error .notText

theorem textOfBytes_toUTF8 (content : String) : textOfBytes content.toUTF8 = .ok content := by
  have valid : String.fromUTF8? content.toUTF8 = some content := by
    unfold String.fromUTF8?
    rw [String.toUTF8_eq_toByteArray, dif_pos content.isValidUTF8]
    rfl
  rw [textOfBytes, valid]

structure Files (m : Type → Type) where
  read : String → m (Except FileError String)
  write : String → String → m (Except FileError Unit)

/-- The bytes of the files under the parts of their paths. A file's parents are directories. -/
structure Directory where
  files : List (List String × ByteArray) := []

namespace Directory

def maxPartLength : Nat := 255

def holdsDirectory (directory : Directory) (place : List String) : Bool :=
  place.isEmpty || directory.files.any fun file => place.isPrefixOf file.1 && file.1 != place

/-- What is found outside of the directory: the directories above it, and nothing else. -/
def outside (parts : List String) : FileError :=
  if parts.all ["", ".", ".."].contains then .isDirectory else .missing

def walk (directory : Directory) : List String → List String → Except FileError (List String)
  | here, [] => .ok here
  | here, part :: rest =>
    if directory.holdsDirectory here then
      if maxPartLength < part.utf8ByteSize then .error .nameTooLong
      else if part = "" ∨ part = "." then directory.walk here rest
      else if part = ".." then
        if here = [] then .error (outside rest) else directory.walk here.dropLast rest
      else directory.walk (here ++ [part]) rest
    else if (directory.files.lookup here).isSome then .error .notDirectory
    else .error .missing

/-- The parts of a path. Paths from the root of the disk lead out of the directory. -/
def parts (path : String) : Except FileError (List String) :=
  let parts := path.splitOn "/"
  if path.startsWith "/" then .error (outside parts) else .ok parts

def ofFiles (files : List (String × String)) : Directory :=
  ⟨files.map fun file => (file.1.splitOn "/", file.2.toUTF8)⟩

def read (directory : Directory) (path : String) : Except FileError String := do
  let place ← directory.walk [] (← parts path)
  match directory.files.lookup place with
  | some content => textOfBytes content
  | none => throw (if directory.holdsDirectory place then .isDirectory else .missing)

def write (directory : Directory) (path content : String) : Except FileError Directory := do
  let parts ← parts path
  let named := (parts.reverse.dropWhile (· = "")).reverse
  let parent ← directory.walk [] (named.dropLast ++ [""])
  if named.length < parts.length then throw .isDirectory
  let place ← directory.walk parent [named.getLast?.getD ""]
  if directory.holdsDirectory place then throw .isDirectory
  return ⟨(place, content.toUTF8) :: directory.files.filter fun file => file.1 != place⟩

def reachable : Files (StateM Directory) where
  read path := return (← get).read path
  write path content := do
    match (← get).write path content with
    | .ok directory =>
      set directory
      return .ok ()
    | .error e => return .error e

end Directory

end Stackwright
