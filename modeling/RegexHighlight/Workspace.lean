/-!
# The working directory

Commands read files by name from a working directory that holds a set of named files. A name
is resolved as a path: `.` components stay, `..` leaves the directory, and a path through a
file fails. A path starting with `/` starts at the root directory, whose contents are not
known: any name in it is missing. Reading reports the operating system's errors in its own
words: a missing file, a directory, a path through a file, a path holding a NUL character, or
text that is not UTF-8.
-/

namespace RegexHighlight

/-- Why a file cannot be read. -/
inductive ReadError
  | notFound
  | isDirectory
  | notDirectory
  /-- The path holds a NUL character, which no file name can. -/
  | nulInName
  | invalidText
  /-- Any other failure, with the system's error code and its description. -/
  | other (code : Nat) (description : String)
deriving DecidableEq, Repr

/-- The wording of a read error. -/
def ReadError.message : ReadError → String
  | .notFound => "No such file or directory (os error 2)"
  | .isDirectory => "Is a directory (os error 21)"
  | .notDirectory => "Not a directory (os error 20)"
  | .nulInName => "file name contained an unexpected NUL byte"
  | .invalidText => "stream did not contain valid UTF-8"
  | .other code description => s!"{description} (os error {code})"

/-- A working directory: named files with their bytes. -/
structure Workspace where
  files : List (String × List UInt8) := []
deriving DecidableEq, Repr

namespace Workspace

/-- A workspace of text files. -/
def ofTexts (files : List (String × String)) : Workspace :=
  ⟨files.map fun (name, text) => (name, text.toUTF8.toList)⟩

/-- Adds or replaces a file. -/
def write (w : Workspace) (name : String) (bytes : List UInt8) : Workspace :=
  ⟨(w.files.filter (·.1 ≠ name)) ++ [(name, bytes)]⟩

/-- What a path leads to, walking its components from the working directory (`depth` levels
below the directories above it, none of whose contents are known). -/
def resolve (w : Workspace) : Nat → List String → Except ReadError (Option (List UInt8))
  | _, [] => .ok none
  | depth, "" :: rest => resolve w depth rest
  | depth, "." :: rest => resolve w depth rest
  | depth, ".." :: rest => resolve w (depth + 1) rest
  | depth, name :: rest =>
    if depth > 0 then .error .notFound
    else
      match w.files.lookup name with
      | none => .error .notFound
      | some bytes => if rest.all (· = "") then .ok (some bytes) else .error .notDirectory

/-- The bytes of the file at `path`. -/
def read (w : Workspace) (path : String) : Except ReadError (List UInt8) :=
  if path.toList.contains '\x00' then .error .nulInName
  else if path.isEmpty then .error .notFound
  else
    match w.resolve (if path.startsWith "/" then 1 else 0) (path.splitOn "/") with
    | .ok (some bytes) =>
      if path.endsWith "/" then .error .notDirectory else .ok bytes
    | .ok none => .error .isDirectory
    | .error e => .error e

end Workspace

end RegexHighlight
