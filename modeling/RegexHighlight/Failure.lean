/-!
# Failures with context

A failure is a chain of messages: what the tool was doing, then what
went wrong, from the outermost context to the root cause. It is shown on one line with the
messages joined by `: `, or, in the report form, as the outermost message followed by a
`Caused by:` section that lists the others, numbered when there are several.
-/

namespace RegexHighlight

/-- A chain of messages, outermost context first. -/
structure Failure where
  head : String
  causes : List String := []
deriving DecidableEq, Repr

namespace Failure

/-- A failure with one message. -/
def msg (s : String) : Failure := ⟨s, []⟩

/-- Wraps a failure in one more context. -/
def context (ctx : String) (f : Failure) : Failure := ⟨ctx, f.head :: f.causes⟩

/-- The one-line form: every message, joined by `: `. -/
def line (f : Failure) : String := ": ".intercalate (f.head :: f.causes)

/-- Indents every line of a cause, numbering its first line when `number` is given. -/
def indent (number : Option Nat) (text : String) : String :=
  let lines := text.splitOn "\n"
  let first := match number with
    | some n => String.ofList (List.replicate (5 - min 5 (toString n).length) ' ') ++
        toString n ++ ": "
    | none => "    "
  let other := if number.isSome then "       " else "    "
  match lines with
  | [] => first
  | l :: ls => first ++ l ++ String.join (ls.map fun l => "\n" ++ other ++ l)

/-- The report form: the outermost message, then a `Caused by:` section. -/
def report (f : Failure) : String :=
  match f.causes with
  | [] => f.head
  | [c] => f.head ++ "\n\nCaused by:\n" ++ indent none c
  | cs =>
    f.head ++ "\n\nCaused by:" ++
      String.join ((cs.zipIdx).map fun (c, n) => "\n" ++ indent (some n) c)

end Failure

end RegexHighlight
