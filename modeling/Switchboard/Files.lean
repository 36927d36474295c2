import Switchboard.Bytes
import Switchboard.Fault.System
import Switchboard.Table
import Switchboard.Text.Split

/-!
# Files

A file system as a program sees it that only reads: what stands at each path, seen from the current
directory. Looking a path up fails as the operating system does: at the first name too long, the
first name that is missing, the first name below something that is no directory.
-/

namespace Switchboard

/-- What stands at a path. -/
inductive FileEntry where
  /-- A file with its content. -/
  | file (content : Bytes)
  /-- A directory. -/
  | directory
  deriving DecidableEq, Repr

/-- The entries by path, names separated by slashes. A path that starts with a slash is seen from
the root, every other one from the current directory. -/
structure Files where
  /-- The entries. -/
  entries : Table String FileEntry := []
  deriving DecidableEq, Repr

namespace Files

/-- The longest name of a file. -/
def maxName : Nat := 255

/-- The longest path. -/
def maxPath : Nat := 4095

/-- The way to the directory above one; the root is above itself. -/
def above (way : List String) : List String :=
  match way.getLast? with
  | none | some ".." => way ++ [".."]
  | some "" => way
  | some _ => way.dropLast

/-- Goes one name along a way. The empty name and a dot stay, two dots lead up. -/
def along (way : List String) (name : String) : List String :=
  if name = "" ∨ name = "." then way else if name = ".." then above way else way ++ [name]

/-- The start of the way that a path describes, and the names that follow. -/
def namesOf (path : String) : List String × List String :=
  match (Text.splitAt '/' path.toList).map String.ofList with
  | "" :: rest => ([""], rest)
  | names => ([], names)

/-- The path by which an entry is known, without empty names and dots. -/
def canonical (path : String) : String :=
  let (start, names) := namesOf path
  String.intercalate "/" (names.foldl along start)

/-- Walks down a path, `way` being where it has led so far. A trailing slash asks for a directory,
and so do dots. -/
def walk (files : Files) (way : List String) (here : FileEntry) :
    List String → Except SystemError FileEntry
  | [] => .ok here
  | name :: rest =>
    match here with
    | .file _ => .error (.os 20)
    | .directory =>
      if name = "" ∨ name = "." ∨ name = ".." then walk files (along way name) .directory rest
      else if name.utf8ByteSize > maxName then .error (.os 36)
      else
        let way := along way name
        match files.entries.get? (String.intercalate "/" way) with
        | some entry => walk files way entry rest
        | none => .error (.os 2)

/-- What stands at a path. -/
def find (files : Files) (path : String) : Except SystemError FileEntry :=
  if path.toList.any (·.toNat = 0) then
    .error (.described .invalidInput "file name contained an unexpected NUL byte")
  else if path.isEmpty then .error (.os 2)
  else if path.utf8ByteSize > maxPath then .error (.os 36)
  else
    let (start, names) := namesOf path
    walk files start .directory names

/-- The content of a file. -/
def read (files : Files) (path : String) : Except SystemError Bytes :=
  match files.find path with
  | .error e => .error e
  | .ok .directory => .error (.os 21)
  | .ok (.file content) => .ok content

/-- The content of a file that holds text. -/
def readText (files : Files) (path : String) : Except SystemError String := do
  let content ← files.read path
  match content.toText? with
  | some text => .ok text
  | none => .error (.described .invalidData "stream did not contain valid UTF-8")

end Files

end Switchboard
