import RegexHighlight.Cli.Usage

/-!
# The tool's commands and options

The tool has three commands, `ansi`, `html` and `spans`. All of them take the common options
(`-q`, `--no-table`, `--color`), the mode options (`-f`, `-u`, `-i`) and patterns (`-p`,
`--pattern-file` and plain arguments); `html` also takes `--stylesheet` and `--wrap`. This
module holds the options as data and the help texts that document them.
-/

namespace RegexHighlight.Cli

/-- When terminal colours are written. -/
inductive ColorChoice
  | auto
  | always
  | never
deriving DecidableEq, Repr

/-- Reads a colour choice by name. -/
def ColorChoice.ofName? : String → Option ColorChoice
  | "auto" => some .auto
  | "always" => some .always
  | "never" => some .never
  | _ => none

/-- The tool's commands. -/
inductive Command
  | ansi
  | html
  | spans
deriving DecidableEq, Repr

/-- Reads a command by name. -/
def Command.ofName? : String → Option Command
  | "ansi" => some .ansi
  | "html" => some .html
  | "spans" => some .spans
  | _ => none

/-- Everything a command line sets. -/
structure Options where
  quiet : Bool := false
  noTable : Bool := false
  color : ColorChoice := .auto
  flags : Option String := none
  unicode : Bool := false
  ignoreCase : Bool := false
  patterns : Array String := #[]
  stylesheet : Bool := false
  wrap : Bool := false
deriving DecidableEq, Repr

/-- The tool's own help, shown for `-h`, `--help` or a missing command. -/
def toolUsage : String :=
  "A tool for highlighting JavaScript regular expressions on the command line.\n\n" ++
  "Every pattern is classified token by token. Malformed, ambiguous and\n" ++
  "unsupported syntax never stops classification; it is reported inline as a\n" ++
  "diagnostic attached to the offending text.\n\n" ++
  "USAGE:\n    regex-colorize <command> ...\n\n" ++
  "COMMANDS:\n" ++
  "    ansi   Print patterns highlighted with terminal colors.\n" ++
  "    html   Print patterns highlighted as HTML markup.\n" ++
  "    spans  Print the classified spans of patterns as a table.\n"

/-- The options every command takes. -/
def commonUsages : List Usage := [
  ⟨"-q, --quiet", "Suppress some output.",
    "\nThis is a generic flag that suppresses some (but not all) output. Which output\n" ++
    "is suppressed depends on the command. For example, with 'regex-colorize spans'\n" ++
    "only the summary table is printed, and with 'regex-colorize ansi' the list of\n" ++
    "diagnostics below each pattern is omitted.\n"⟩,
  ⟨"--no-table", "Omit any table of information from the output.",
    "\nSome commands print a table summarizing the classification of each pattern,\n" ++
    "such as the number of spans and diagnostics found. Passing this flag will\n" ++
    "suppress that table.\n"⟩,
  ⟨"--color <when>", "When to emit terminal colors: auto, always or never.",
    "\nControls whether terminal colors are written. With 'auto', the default, colors\n" ++
    "are written unless the NO_COLOR environment variable is set or CLICOLOR is set\n" ++
    "to 0. 'always' and 'never' force colors on or off.\n\n" ++
    "This only affects commands that write to a terminal, such as 'regex-colorize\n" ++
    "ansi'.\n"⟩]

/-- The options that choose the mode. -/
def modeUsages : List Usage := [
  ⟨"-f, --flags <flags>", "The flags every pattern is classified with.",
    "\nSets the flags that every pattern is classified with, written the way they\n" ++
    "follow a regex literal. For example, '-f gu'. The recognized flags are d, g, i,\n" ++
    "m, s, u, v and y, and each may be given at most once.\n\n" ++
    "Only the u flag changes how a pattern is classified: it enables the stricter\n" ++
    "Unicode-aware rules. Unicode sets (the v flag) are not supported and are\n" ++
    "rejected.\n"⟩,
  ⟨"-u, --unicode", "Classify with the u flag.",
    "\nA shortcut for adding the u flag to the flags given with -f/--flags.\n"⟩,
  ⟨"-i, --case-insensitive", "Classify with the i flag.",
    "\nA shortcut for adding the i flag to the flags given with -f/--flags. This flag\n" ++
    "does not change how a pattern is classified, but it is shown in the flags\n" ++
    "reported by commands that print a summary.\n"⟩]

/-- The options that give patterns. -/
def patternUsages : List Usage := [
  ⟨"-p, --pattern <pattern>", "Add a pattern to this command.",
    "\nThis adds a new pattern to the command. This is useful for patterns that start\n" ++
    "with a '-', which would otherwise be taken for a flag.\n\n" ++
    "Patterns may also be given as positional arguments or read from a file with\n" ++
    "--pattern-file. Every pattern is classified on its own, in the order given.\n\n" ++
    "All patterns given must be valid UTF-8.\n"⟩,
  ⟨"--pattern-file <path>", "Read patterns from the file given.",
    "\nReads patterns, one per line, from the file given. A pattern that spans\n" ++
    "several lines cannot be read this way; give it with -p/--pattern instead.\n\n" ++
    "All patterns given must be valid UTF-8.\n"⟩]

/-- The options of the HTML command. -/
def htmlUsages : List Usage := [
  ⟨"--stylesheet", "Print the default stylesheet before any markup.",
    "\nPrints a <style> element with the default highlighting styles before the\n" ++
    "markup of any pattern. The styles apply to markup inside an element with the\n" ++
    "'regex' class. See also --wrap.\n"⟩,
  ⟨"--wrap", "Wrap the markup of each pattern in a <code> element.",
    "\nWraps the markup of each pattern in a <code class=\"regex\"> element, so that\n" ++
    "the output can be pasted into a page that uses the default stylesheet as is.\n"⟩]

namespace Command

/-- The options a command takes. -/
def usages : Command → List Usage
  | .html => commonUsages ++ modeUsages ++ patternUsages ++ htmlUsages
  | _ => commonUsages ++ modeUsages ++ patternUsages

/-- A command's help text, with `%options%` standing for its options. -/
def usage : Command → String
  | .ansi =>
    "Prints each pattern highlighted with terminal colors, one pattern per line.\n\n" ++
    "Unless -q/--quiet is given, each diagnostic found in a pattern is listed below\n" ++
    "it with its byte offsets and message.\n\n" ++
    "USAGE:\n    regex-colorize ansi [-p <pattern> ...] [<pattern> ...]\n\n" ++
    "TIP:\n    use -h for short docs and --help for long docs\n\n" ++
    "OPTIONS:\n%options%\n"
  | .html =>
    "Prints each pattern highlighted as HTML markup, one pattern per line.\n\n" ++
    "Groups and the quantifiers and alternators that belong to them are wrapped in\n" ++
    "<b class=\"gN\">, where N is a style depth from 1 to 5. Diagnostics are wrapped\n" ++
    "in <b class=\"err\">, with the diagnostic's message as the title. The markup is\n" ++
    "meant to be placed in an element with the 'regex' class, which is what the\n" ++
    "stylesheet printed by --stylesheet targets.\n\n" ++
    "USAGE:\n    regex-colorize html [-p <pattern> ...] [<pattern> ...]\n\n" ++
    "TIP:\n    use -h for short docs and --help for long docs\n\n" ++
    "OPTIONS:\n%options%\n"
  | .spans =>
    "Prints the classified spans of each pattern as a table.\n\n" ++
    "Each row shows the byte offsets of a span, its category, its text and, for\n" ++
    "diagnostics, a description of the problem. A summary of the classification is\n" ++
    "printed above the spans of each pattern unless --no-table is given.\n\n" ++
    "USAGE:\n    regex-colorize spans [-p <pattern> ...] [<pattern> ...]\n\n" ++
    "TIP:\n    use -h for short docs and --help for long docs\n\n" ++
    "OPTIONS:\n%options%\n"

/-- A command's help, short (`-h`) or long (`--help`). -/
def help (c : Command) (long : Bool) : String :=
  helpText c.usage c.usages long

end Command

end RegexHighlight.Cli
