import RegexHighlight.Suite.Test
import RegexHighlight.Text.Trim

/-!
# Running tests

A runner asks a test function for the outcome of each test and compares it with what the test
expects. Tests may be filtered by substrings of their full names: when any whitelisted
substring is given, only tests that match one run, and the last substring a name matches
decides, so a later whitelist entry can take back an earlier blacklist entry. A test run
directly bypasses the filters. At the end the runner reports every failure, and optionally
lists every test by how it went.
-/

namespace RegexHighlight.Suite

/-- What a panicking test function leaves behind: a message, or something that is not one. -/
inductive Payload
  | text (message : String)
  | other
deriving DecidableEq, Repr

/-- How a panic is shown. -/
def Payload.shown : Payload → String
  | .text m => m
  | .other => "UNABLE TO SHOW RESULT OF PANIC."

/-- What a test function answers for a test. -/
inductive Answer
  /-- The pieces found, as `(category, text)` pairs. -/
  | spans (pieces : List (String × String))
  /-- The flags were rejected with an error of this kind. -/
  | rejected (kind : String)
  | skip
  | fail (why : String)
  | panic (payload : Payload)
deriving DecidableEq, Repr

/-- Why a test failed. -/
inductive Failing
  | byImplementor (why : String)
  | spans (got : List (String × String))
  | noRejection
  | rejected (got : String)
  | panicked (message : String)
deriving DecidableEq, Repr

/-- A failed test and why. -/
structure Failed where
  test : Test
  kind : Failing
deriving DecidableEq, Repr

/-- The outcomes of the tests run so far, each kind in the order they happened. -/
structure Results where
  passed : List Test := []
  failed : List Failed := []
  skipped : List Test := []
deriving DecidableEq, Repr

/-- A filter entry: a substring of full names to run or not to run. -/
structure Include where
  blacklist : Bool
  substring : String
deriving DecidableEq, Repr

/-- A runner: its filters and what happened so far. -/
structure Runner where
  filters : List Include := []
  results : Results := {}
deriving DecidableEq, Repr

/-- Whether `sub` occurs in `s`. -/
def containsText (s sub : String) : Bool :=
  let target := sub.toList
  let rec go : List Char → Bool
    | [] => target.isEmpty
    | c :: cs => target.isPrefixOf (c :: cs) || go cs
  go s.toList

namespace Runner

/-- A runner with the filters of a comma-separated list: each item is trimmed, empty items are
dropped, and an item starting with `-` blacklists the rest of it. -/
def ofFilter (filter : String) : Runner :=
  { filters := ((filter.toList.splitOn ',').map fun cs => Text.trim (String.ofList cs)).filterMap fun item =>
      if item.isEmpty then none
      else if item.startsWith "-" then some ⟨true, String.ofList (item.toList.drop 1)⟩
      else some ⟨false, item⟩ }

/-- Adds a whitelisted substring. -/
def whitelist (r : Runner) (substring : String) : Runner :=
  { r with filters := r.filters ++ [⟨false, substring⟩] }

/-- Adds a blacklisted substring. -/
def blacklist (r : Runner) (substring : String) : Runner :=
  { r with filters := r.filters ++ [⟨true, substring⟩] }

/-- Whether the filters skip a test. -/
def skips (r : Runner) (t : Test) : Bool :=
  if r.filters.isEmpty then false
  else
    r.filters.foldl (fun skip pat => if containsText t.fullName pat.substring then pat.blacklist else skip)
      (r.filters.any fun pat => !pat.blacklist)

/-- Records an outcome. -/
def record (r : Runner) (f : Results → Results) : Runner := { r with results := f r.results }

/-- Runs one test, whatever the filters say. -/
def test (r : Runner) (t : Test) (answer : Answer) : Runner :=
  let pass := r.record fun rs => { rs with passed := rs.passed ++ [t] }
  let fail := fun (kind : Failing) => r.record fun rs => { rs with failed := rs.failed ++ [⟨t, kind⟩] }
  match answer, t.rejected with
  | .panic payload, _ => fail (.panicked payload.shown)
  | .skip, _ => r.record fun rs => { rs with skipped := rs.skipped ++ [t] }
  | .fail why, _ => fail (.byImplementor why)
  | .spans got, none => if got = t.spans then pass else fail (.spans got)
  | .spans _, some _ => fail .noRejection
  | .rejected got, some expected => if got = expected then pass else fail (.rejected got)
  | .rejected got, none => fail (.rejected got)

/-- Runs tests in order, skipping those the filters skip. -/
def testAll (r : Runner) (tests : List Test) (answer : Test → Answer) : Runner :=
  tests.foldl (fun r t =>
    if r.skips t then r.record fun rs => { rs with skipped := rs.skipped ++ [t] }
    else r.test t (answer t)) r

end Runner

/-- Pads a text with spaces to `width` characters. -/
def padRight (s : String) (width : Nat) : String :=
  s ++ String.ofList (List.replicate (width - s.length) ' ')

/-- Why a test failed, in words. -/
def Failing.describe (t : Test) : Failing → String
  | .byImplementor why => "failed by implementor because: " ++ why
  | .spans got =>
    let rows := (List.range (max got.length t.spans.length)).map fun i =>
      let e := t.spans[i]?.getD ("", "")
      let g := got[i]?.getD ("", "")
      let mark := if g = e then " " else "!"
      let (ec, et) := (padRight e.1 28, Text.quote e.2)
      let (gc, gt) := (padRight g.1 28, Text.quote g.2)
      s!"  {mark} expected: {ec} {et}, got: {gc} {gt}\n"
    "did not find expected spans\n" ++ String.join rows
  | .noRejection =>
    "expected flags to be rejected with " ++ Text.quote (t.rejected.getD "") ++
      ", but they were accepted"
  | .rejected got =>
    match t.rejected with
    | some expected =>
      "expected flags to be rejected with " ++ Text.quote expected ++ ", got " ++ Text.quote got
    | none => "flags were unexpectedly rejected: " ++ got
  | .panicked message => "got unexpected panic:\n" ++ message

/-- A failure, with the test's pattern and flags. -/
def Failed.describe (f : Failed) : String :=
  f.test.fullName ++ ": " ++ f.kind.describe f.test ++ "\npattern:     " ++
    Text.quote f.test.pattern ++ "\nflags:       " ++ Text.quote f.test.flags

/-- A rule of tildes. -/
def rule : String := String.ofList (List.replicate 79 '~')

/-- The report of failures that ends a run with any. -/
def Results.report (rs : Results) : String :=
  let count := rs.failed.length
  s!"found {count} failures:\n" ++ rule ++ "\n" ++
    Text.trim ("\n\n".intercalate (rs.failed.map Failed.describe)) ++ "\n" ++ rule ++ "\n\n" ++
    "Set the REGEX_COLORIZE_TEST environment variable to filter \n" ++
    "tests, e.g., REGEX_COLORIZE_TEST=foo,-foo2 runs every test \n" ++
    "whose name contains foo but not foo2\n\n"

/-- Every test by how it went, with a count of each. -/
def Results.listing (rs : Results) : String :=
  rule ++ "\n" ++
    String.join (rs.skipped.map fun t => "skip: " ++ t.fullName ++ "\n") ++
    String.join (rs.passed.map fun t => "pass: " ++ t.fullName ++ "\n") ++
    String.join (rs.failed.map fun f => "FAIL: " ++ f.test.fullName ++ "\n") ++
    "\npassed: " ++ toString rs.passed.length ++ ", skipped: " ++ toString rs.skipped.length ++
      ", failed: " ++ toString rs.failed.length ++ "\n" ++
    rule ++ "\n"

/-- The end of a run: what it prints (the listing, when `verbose`), and the report it fails
with, if any test failed. -/
def Results.conclude (rs : Results) (verbose : Bool) : String × Option String :=
  (if verbose then rs.listing else "", if rs.failed.isEmpty then none else some rs.report)

end RegexHighlight.Suite
