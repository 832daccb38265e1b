import RegexHighlight.Text.Quoted

/-!
# Classification tests

A test names a pattern, the flags to classify it with, and what classification should give:
either the pieces in order, as `(category, text)` pairs whose texts make up the pattern, or
the kind of error the flags are rejected with. Tests are grouped, and a test's full name is
its group and its name joined by `/`.
-/

namespace RegexHighlight.Suite

/-- The kinds of flag errors a test may expect. -/
def rejections : List String := ["invalid-flag", "duplicate-flag", "unsupported-mode"]

/-- A test as a file writes it. -/
structure Entry where
  name : String
  pattern : String
  flags : String
  spans : List (String × String)
  rejected : Option String
deriving DecidableEq, Repr

/-- A loaded test. -/
structure Test where
  group : String
  name : String
  fullName : String
  pattern : String
  flags : String
  spans : List (String × String)
  rejected : Option String
deriving DecidableEq, Repr

/-- A list of strings as a debug listing: `["a", "b"]`. -/
def debugList (xs : List String) : String :=
  "[" ++ ", ".intercalate (xs.map Text.quote) ++ "]"

/-- Checks that a test is well formed: an expected rejection is a known kind and comes with
no pieces, and otherwise the texts of the pieces make up the pattern. -/
def Entry.validate (e : Entry) : Except String Unit :=
  match e.rejected with
  | some kind =>
    if !rejections.contains kind then
      .error s!"unknown rejection '{kind}', expected one of {debugList rejections}"
    else if !e.spans.isEmpty then .error "a rejected test cannot have spans"
    else .ok ()
  | none =>
    let texts := String.join (e.spans.map (·.2))
    if texts = e.pattern then .ok ()
    else .error s!"span texts concatenate to {Text.quote texts}, but the pattern is {Text.quote e.pattern}"

end RegexHighlight.Suite
