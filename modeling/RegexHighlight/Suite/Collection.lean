import RegexHighlight.Suite.Decode
import RegexHighlight.Toml.Document
import RegexHighlight.Workspace
import RegexHighlight.Failure

/-!
# Collections of tests

Tests are loaded into a collection from TOML text, one group at a time, or from a file whose
stem names the group. Unnamed tests of a load are numbered `1`, `2`, … in order. Each test is
checked, and its full name must not have been loaded before; the first problem stops the load,
which then adds no tests, though the names it checked stay taken.
-/

namespace RegexHighlight.Suite

/-- Loaded tests, and every full name taken so far. -/
structure Collection where
  tests : Array Test := #[]
  seen : List String := []
deriving Repr

/-- Reads the tests of a TOML document. -/
def parseEntries (source : String) : Except Toml.Error (List Entry) :=
  match Toml.parseDocument source with
  | .error p => .error (p.toError source)
  | .ok root => readEntries root

/-- Names, checks and admits the tests of one load, in order; returns the names taken and the
tests, or the first problem. -/
def enroll (group : String) :
    List Entry → Nat → List String → List Test → List String × Except Failure (List Test)
  | [], _, seen, acc => (seen, .ok acc.reverse)
  | e :: es, index, seen, acc =>
    let (name, index) := if e.name.isEmpty then (toString index, index + 1) else (e.name, index)
    let full := group ++ "/" ++ name
    match e.validate with
    | .error why => (seen, .error ((Failure.msg why).context s!"invalid test '{full}'"))
    | .ok () =>
      if seen.contains full then
        (seen, .error (Failure.msg s!"found duplicate tests for name '{full}'"))
      else
        let t : Test := { group, name, fullName := full, pattern := e.pattern, flags := e.flags,
                          spans := e.spans, rejected := e.rejected }
        enroll group es index (seen ++ [full]) (t :: acc)

/-- Loads the tests in `data` under the group name `group`. -/
def Collection.loadSlice (c : Collection) (group : String) (data : List UInt8) :
    Collection × Except Failure Unit :=
  match Utf8.decode data with
  | .error e => (c, .error ((Failure.msg e.message).context s!"data in {group} is not valid UTF-8"))
  | .ok source =>
    match parseEntries source with
    | .error e =>
      (c, .error ((Failure.msg (e.render source)).context s!"error decoding TOML for '{group}'"))
    | .ok entries =>
      match enroll group entries 1 c.seen [] with
      | (seen, .ok tests) => ({ tests := c.tests ++ tests.toArray, seen }, .ok ())
      | (seen, .error f) => ({ c with seen }, .error f)

/-- The stem of a file name: the name without its last extension. A name with no dot, or
whose only dot starts it, is its own stem. -/
def fileStem (path : String) : Option String :=
  match (path.splitOn "/").reverse.filter (· ≠ "") with
  | [] => none
  | name :: _ =>
    if name = "." || name = ".." then none
    else
      match (name.splitOn ".").reverse with
      | [_] => some name
      | _ :: before =>
        let stem := ".".intercalate before.reverse
        if stem.isEmpty then some name else some stem
      | [] => some name

/-- Loads the tests of the file at `path`, grouped under the file's stem. -/
def Collection.load (c : Collection) (w : Workspace) (path : String) :
    Collection × Except Failure Unit :=
  match w.read path with
  | .error e => (c, .error ((Failure.msg e.message).context s!"failed to read {path}"))
  | .ok bytes =>
    match fileStem path with
    | none => (c, .error (Failure.msg s!"failed to get file name of {path}"))
    | some stem =>
      let (c, r) := c.loadSlice stem bytes
      (c, r.mapError (Failure.context s!"error loading {path}"))

end RegexHighlight.Suite
