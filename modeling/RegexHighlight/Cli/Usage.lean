import RegexHighlight.Text.Wrap
import RegexHighlight.Text.Trim

/-!
# Option documentation

Every option has a format (`-f, --flags <flags>`), a one-line description for `-h` and a longer
one for `--help`. The OPTIONS section of a command's help lists its options sorted by their long
name. The short form is a two-column table; the long form gives each format on a line of its
own, followed by its description with paragraphs rewrapped to 79 columns and indented by eight
spaces.
-/

namespace RegexHighlight.Cli

/-- The documentation of one option. -/
structure Usage where
  format : String
  short : String
  long : String
deriving DecidableEq, Repr

namespace Usage

/-- Options sort by their long name: `-q, --quiet` sorts as `--quiet`. -/
def sortKey (u : Usage) : String :=
  match u.format.splitOn ", " with
  | [_] => u.format
  | _ :: rest => ", ".intercalate rest
  | [] => u.format

/-- Sorts options by their long names, keeping the given order among equal keys. -/
def sorted (us : List Usage) : List Usage :=
  us.mergeSort fun a b => decide (a.sortKey ≤ b.sortKey)

/-- The two-column table of formats and short descriptions. -/
def shortTable (us : List Usage) : String :=
  match (us.map (·.format.length)).max? with
  | none => ""
  | some most =>
    String.join (us.map fun u =>
      "    " ++ u.format ++ String.ofList (List.replicate (2 + most - u.format.length) ' ') ++
        u.short ++ "\n")

/-- The long form: each format, then its description wrapped by paragraph. -/
def longList (us : List Usage) : String :=
  let entry := fun (u : Usage) =>
    let paragraphs := (Text.trim u.long).splitOn "\n\n"
    let body := "\n".intercalate (paragraphs.map fun p =>
      String.join ((Text.wrap 79 "        " (p.replace "\n" " ")).map (· ++ "\n")))
    "    " ++ u.format ++ "\n" ++ body
  "\n".intercalate (us.map entry)

end Usage

/-- A command's help: its usage text with `%options%` replaced by the options, trimmed. -/
def helpText (usage : String) (options : List Usage) (long : Bool) : String :=
  let sorted := Usage.sorted options
  let table := if long then Usage.longList sorted else Usage.shortTable sorted
  Text.trim (usage.replace "%options%" table)

end RegexHighlight.Cli
