import RegexHighlight.Suite.Collection
import RegexHighlight.Suite.Runner
import RegexHighlight.Suite.Data
import RegexHighlight.Classify

/-!
# The repository's suite

The tests that come with the tool, loaded group by group, and the test function that checks
them against the classifier: a test's pattern is classified with its flags, and a flag error
answers with its kind.
-/

namespace RegexHighlight.Suite

/-- The groups of the repository's tests, in the order they load. -/
def groups : List (String × String) :=
  [("alternation", Data.alternationData), ("backreferences", Data.backreferencesData),
   ("classes", Data.classesData), ("escapes", Data.escapesData), ("flags", Data.flagsData),
   ("groups", Data.groupsData), ("quantifiers", Data.quantifiersData),
   ("unicode", Data.unicodeData)]

/-- The repository's tests, loaded into a fresh collection. -/
def repository : Except Failure Collection :=
  groups.foldlM (fun c (name, text) =>
    match c.loadSlice name text.toUTF8.toList with
    | (c, .ok ()) => .ok c
    | (_, .error f) => .error f) {}

/-- The name of the kind of a flag error. -/
def FlagProblem.kind : FlagProblem → String
  | .unrecognized _ => "invalid-flag"
  | .repeated _ => "duplicate-flag"
  | .unsupported _ => "unsupported-mode"

/-- Checks a test against the classifier. -/
def classifyAnswer (t : Test) : Answer :=
  match classifyWithFlags t.pattern t.flags with
  | .ok pieces => .spans (pieces.map fun p => (p.category.name, p.text))
  | .error e => .rejected (FlagProblem.kind e.problem)

end RegexHighlight.Suite
