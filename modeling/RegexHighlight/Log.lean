import RegexHighlight.Note
import RegexHighlight.Text.Quoted

/-!
# Log records

The command line tool can show what classification does, as log records on standard error,
one per line: `LEVEL|target|file:line: message`. A record is shown when its level is at most
the chosen maximum; `off` shows none. The start of a classification and the files of patterns
read are debug records; diagnostics, classes read and groups left open are trace records.
Targets and source locations name where in the tool each record comes from.
-/

namespace RegexHighlight.Log

/-- The severity of a record, from the most to the least severe. -/
inductive Level
  | error
  | warn
  | info
  | debug
  | trace
deriving DecidableEq, Repr

namespace Level

/-- The rank of a level; less severe levels rank higher. -/
def rank : Level → Nat
  | .error => 1 | .warn => 2 | .info => 3 | .debug => 4 | .trace => 5

/-- The name a record shows for its level. -/
def label : Level → String
  | .error => "ERROR" | .warn => "WARN" | .info => "INFO" | .debug => "DEBUG" | .trace => "TRACE"

end Level

/-- The most verbose level shown, or `none` when logging is off. -/
abbrev Filter := Option Level

/-- Reads a level filter by name, in any letter case: `off`, `error`, `warn`, `info`,
`debug` or `trace`. -/
def Filter.ofName? (s : String) : Option Filter :=
  match s.toLower with
  | "off" => some none
  | "error" => some (some .error)
  | "warn" => some (some .warn)
  | "info" => some (some .info)
  | "debug" => some (some .debug)
  | "trace" => some (some .trace)
  | _ => none

/-- Whether a filter shows records of a level. -/
def Filter.shows (f : Filter) (l : Level) : Bool :=
  match f with
  | none => false
  | some most => l.rank ≤ most.rank

/-- One log record. -/
structure Record where
  level : Level
  target : String
  file : String
  line : Nat
  message : String
deriving DecidableEq, Repr

/-- The line a record is shown as, without its line break. -/
def Record.render (r : Record) : String :=
  s!"{r.level.label}|{r.target}|{r.file}:{r.line}: {r.message}"

/-- The record of a classification note. -/
def ofNote : Note → Record
  | .started pattern flags groups =>
    ⟨.debug, "regex_colorize::classify", "src/classify.rs", 90,
      s!"classifying {Text.quote pattern} with flags '{flags}' ({groups} capturing groups)"⟩
  | .reported text span d =>
    ⟨.trace, "regex_colorize::classify", "src/classify.rs", 322,
      s!"{Text.quote text} at {span.describe}: {d.message}"⟩
  | .unclosedGroup text span =>
    ⟨.trace, "regex_colorize::classify", "src/classify.rs", 311,
      s!"unclosed group {Text.quote text} at {span.describe}"⟩
  | .classRead text closed =>
    ⟨.trace, "regex_colorize::class", "src/class.rs", 105,
      s!"class {Text.quote text} (closed: {closed})"⟩

/-- The record of a pattern file read. -/
def patternsRead (count : Nat) (path : String) : Record :=
  ⟨.debug, "regex_colorize::args::patterns", "regex-colorize-cli/args/patterns.rs", 33,
    s!"read {count} patterns from {path}"⟩

end RegexHighlight.Log
