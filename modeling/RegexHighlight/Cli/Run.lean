import RegexHighlight.Classify
import RegexHighlight.Log
import RegexHighlight.Workspace
import RegexHighlight.Render.Html
import RegexHighlight.Render.Ansi
import RegexHighlight.Render.Columns
import RegexHighlight.Cli.Argv
import RegexHighlight.Failure
import RegexHighlight.Cli.Options

/-!
# Running the tool

`Cli.run` runs one command line to its end: it scans the options of the command, resolves the
mode, and writes every pattern in the command's format. What it writes is an `Output`: the text
on standard output, the log lines on standard error, and the failure that stopped it, if any.
Output written before a failure stays.

`Cli.runProcess` is the program as started from a shell: it reads the log level from
`RUST_LOG`, the colour settings from `CLICOLOR_FORCE`, `NO_COLOR` and `COLORTERM`, and the form
of the failure report from `RUST_BACKTRACE`, then ends with an exit status.
-/

namespace RegexHighlight.Cli

/-- A way to read files by path. -/
abbrev FileReader := String → Except ReadError (List UInt8)

/-- What a run of the tool needs from its surroundings. -/
structure Surroundings where
  /-- Reads the files named by `--pattern-file`. -/
  readFile : FileReader := fun _ => .error .notFound
  logFilter : Log.Filter := none
  /-- Whether `--color auto` writes colours. -/
  autoColor : Bool := false
  depth : Ansi.Depth := .basic
  /-- The text shown for the time a classification took, which a run cannot measure. -/
  elapsed : String := "<elapsed>"

/-- What a run writes, and the failure that stopped it. -/
structure Output where
  stdout : String := ""
  stderr : String := ""
  failure : Option Failure := none
deriving Repr

/-- A step of a run: it writes output as it goes, and may fail; what was written before a
failure stays. -/
abbrev Step := ExceptT Failure (StateM Output)

namespace Step

/-- Writes text to standard output. -/
def out (s : String) : Step Unit := modify fun o => { o with stdout := o.stdout ++ s }

/-- Writes a log record, when the filter shows it. -/
def log (env : Surroundings) (r : Log.Record) : Step Unit :=
  if env.logFilter.shows r.level then
    modify fun o => { o with stderr := o.stderr ++ r.render ++ "\n" }
  else pure ()

/-- Stops with a failure. -/
def fail {α : Type} (f : Failure) : Step α := throw f

/-- Lifts a scan of the arguments, wrapping its error in `ctx` when one is given. -/
def ofArg {α : Type} (ctx : Option String) (r : Except ArgError α) : Step α :=
  match r with
  | .ok a => pure a
  | .error e =>
    match ctx with
    | some c => fail ((Failure.msg e.message).context c)
    | none => fail (Failure.msg e.message)

end Step

/-- The lines of a text: split at `\n`, a `\r` before it dropped, and no empty line
after a final line break. -/
def textLines (s : String) : List String :=
  let rec go (cur : List Char) : List Char → List (List Char)
    | [] => if cur.isEmpty then [] else [cur.reverse]
    | '\n' :: rest =>
      let line := match cur with
        | '\r' :: earlier => earlier.reverse
        | _ => cur.reverse
      line :: go [] rest
    | c :: rest => go (c :: cur) rest
  (go [] s.toList).map String.ofList

/-- The text of a file. -/
def readText (readFile : FileReader) (path : String) : Except ReadError String :=
  match readFile path with
  | .ok bytes =>
    match Utf8.decode bytes with
    | .ok s => .ok s
    | .error _ => .error .invalidText
  | .error e => .error e

/-- Reads the patterns of a file, one per line. -/
def readPatternFile (env : Surroundings) (path : String) (opts : Options) : Step Options := do
  match readText env.readFile path with
  | .error e => Step.fail ((Failure.msg e.message).context s!"failed to read {path}")
  | .ok text =>
    let lines := textLines text
    Step.log env (Log.patternsRead lines.length path)
    pure { opts with patterns := opts.patterns ++ lines.toArray }

/-- Offers one argument to the option groups of a command; `none` when no group takes it. -/
def offer (env : Surroundings) (cmd : Command) (argv : Argv) (opts : Options) (arg : Arg) :
    Step (Option (Options × Argv)) := do
  match arg with
  | .short 'q' | .long "quiet" => pure (some ({ opts with quiet := true }, argv))
  | .long "no-table" => pure (some ({ opts with noTable := true }, argv))
  | .long "color" =>
    let (v, argv) ← Step.ofArg (some "--color") argv.value
    match ColorChoice.ofName? v with
    | some c => pure (some ({ opts with color := c }, argv))
    | none => Step.fail ((Failure.msg s!"unrecognized color choice '{v}'").context "--color")
  | .short 'f' | .long "flags" =>
    let (v, argv) ← Step.ofArg (some "-f/--flags needs a value") argv.value
    pure (some ({ opts with flags := some v }, argv))
  | .short 'u' | .long "unicode" => pure (some ({ opts with unicode := true }, argv))
  | .short 'i' | .long "case-insensitive" => pure (some ({ opts with ignoreCase := true }, argv))
  | .short 'p' | .long "pattern" =>
    let (v, argv) ← Step.ofArg (some "-p/--pattern") argv.value
    pure (some ({ opts with patterns := opts.patterns.push v }, argv))
  | .long "pattern-file" =>
    let (path, argv) ← Step.ofArg (some "--pattern-file") argv.value
    let opts ← readPatternFile env path opts
    pure (some (opts, argv))
  | .value v => pure (some ({ opts with patterns := opts.patterns.push v }, argv))
  | .long "stylesheet" =>
    if cmd = .html then pure (some ({ opts with stylesheet := true }, argv)) else pure none
  | .long "wrap" =>
    if cmd = .html then pure (some ({ opts with wrap := true }, argv)) else pure none
  | _ => pure none

/-- How many scanning steps the arguments can take at most: every step uses up an argument
or a character of one. -/
def scanBound (argv : Argv) : Nat :=
  argv.args.foldl (fun n a => n + a.length + 1) 0 + 2 +
    match argv.pending with
    | .shorts rest _ => rest.length + 1
    | _ => 1

/-- Scans the options of a command. -/
def configure (env : Surroundings) (cmd : Command) : Nat → Argv → Options → Step Options
  | 0, _, opts => pure opts
  | fuel + 1, argv, opts => do
    let (arg, argv) ← Step.ofArg none argv.next
    match arg with
    | none => pure opts
    | some (.short 'h') => Step.fail (Failure.msg (cmd.help false))
    | some (.long "help") => Step.fail (Failure.msg (cmd.help true))
    | some a =>
      match ← offer env cmd argv opts a with
      | some (opts, argv) => configure env cmd fuel argv opts
      | none => Step.fail (Failure.msg a.unexpected.message)

/-- The mode the options ask for. -/
def resolveMode (opts : Options) : Step Mode := do
  let flags := opts.flags.getD ""
  match Mode.parse flags with
  | .error e => Step.fail ((Failure.msg e.message).context s!"invalid flags '{flags}'")
  | .ok m =>
    let m := if opts.unicode then m.set .unicode true else m
    pure (if opts.ignoreCase then m.set .ignoreCase true else m)

/-- The patterns given, of which there must be one at least. -/
def patternsGiven (opts : Options) : Step (List String) :=
  if opts.patterns.isEmpty then Step.fail (Failure.msg "at least one pattern is required")
  else pure opts.patterns.toList

/-- Classifies a pattern, logging the notes taken. -/
def classifyLogged (env : Surroundings) (mode : Mode) (pattern : String) : Step (List Piece) := do
  let c := Classification.of mode pattern
  for n in c.notes do
    Step.log env (Log.ofNote n)
  pure c.pieces.toList

/-- The summary table of a classification. -/
def summaryRows (env : Surroundings) (mode : Mode) (pattern : String) (pieces : List Piece) :
    List (List String) :=
  [["pattern:", Text.quote pattern], ["flags:", Text.quote mode.flags],
   ["spans:", toString pieces.length],
   ["diagnostics:", toString (pieces.filter Piece.isError).length],
   ["classify time:", env.elapsed]]

/-- The rows of the span table. -/
def spanRows (pieces : List Piece) : List (List String) :=
  pieces.map fun p =>
    [s!"{p.span.start}..{p.span.stop}", p.category.name, Text.quote p.text,
      (p.diagnostic?.map Diagnostic.message).getD ""]

/-- Runs the `html` command. -/
def runHtml (env : Surroundings) (opts : Options) : Step Unit := do
  let mode ← resolveMode opts
  if opts.stylesheet then Step.out ("<style>\n" ++ Html.stylesheet ++ "</style>\n")
  for pattern in ← patternsGiven opts do
    let markup := Html.render (← classifyLogged env mode pattern)
    Step.out ((if opts.wrap then "<code class=\"regex\">" ++ markup ++ "</code>" else markup) ++ "\n")

/-- Runs the `ansi` command. -/
def runAnsi (env : Surroundings) (opts : Options) : Step Unit := do
  let colored := match opts.color with
    | .always => true
    | .never => false
    | .auto => env.autoColor
  let depth := if colored then some env.depth else none
  let mode ← resolveMode opts
  for pattern in ← patternsGiven opts do
    let pieces ← classifyLogged env mode pattern
    Step.out (Ansi.render depth pieces ++ "\n")
    if !opts.quiet then
      for p in pieces do
        if let some d := p.diagnostic? then
          let message := if colored then Ansi.red d.message else d.message
          Step.out s!"  {p.span.start}..{p.span.stop} {Text.quote p.text}: {message}\n"

/-- Runs the `spans` command. -/
def runSpans (env : Surroundings) (opts : Options) : Step Unit := do
  let mode ← resolveMode opts
  let patterns ← patternsGiven opts
  for (pattern, i) in patterns.zipIdx do
    if i > 0 then Step.out "\n"
    let pieces ← classifyLogged env mode pattern
    if !opts.noTable then
      Step.out (Columns.render .right (summaryRows env mode pattern pieces))
    if !opts.quiet then
      if !opts.noTable then Step.out "\n"
      Step.out (Columns.render .left (spanRows pieces))

/-- Runs a command line. -/
def runSteps (env : Surroundings) (args : List String) : Step Unit := do
  let argv := Argv.ofList args
  let (first, argv) ← Step.ofArg none argv.next
  match first with
  | none | some (.short 'h') | some (.long "help") =>
    Step.fail (Failure.msg (Text.trim toolUsage))
  | some (.value name) =>
    match Command.ofName? name with
    | none => Step.fail (Failure.msg s!"unrecognized command '{name}'")
    | some cmd =>
      let opts ← configure env cmd (scanBound argv) argv {}
      match cmd with
      | .html => runHtml env opts
      | .ansi => runAnsi env opts
      | .spans => runSpans env opts
  | some a => Step.fail (Failure.msg a.unexpected.message)

/-- Runs a command line to its end. -/
def run (env : Surroundings) (args : List String) : Output :=
  match (runSteps env args).run.run {} with
  | (.ok (), o) => o
  | (.error f, o) => { o with failure := some f }

/-- How a run ends: its exit status and what it wrote. -/
structure Exit where
  status : Nat
  stdout : String
  stderr : String
deriving DecidableEq, Repr

/-- Ends a run the way the tool does: a failure goes to standard error, in the report form
when `report` is set and on one line otherwise, and makes the status 1. -/
def Output.finish (o : Output) (report : Bool) : Exit :=
  match o.failure with
  | none => ⟨0, o.stdout, o.stderr⟩
  | some f => ⟨1, o.stdout, o.stderr ++ (if report then f.report else f.line) ++ "\n"⟩

/-- Runs a command line with a log filter, as a call from another program does: colours only
when asked for, failures on one line. -/
def runIn (readFile : FileReader) (filter : Log.Filter) (args : List String) : Exit :=
  (run { readFile, logFilter := filter } args).finish false

/-- The log filter `RUST_LOG` asks for: off when it is unset or empty. -/
def logFilterOf : Option String → Except Failure Log.Filter
  | none => .ok none
  | some "" => .ok none
  | some v =>
    match Log.Filter.ofName? v with
    | some f => .ok f
    | none =>
      .error ((Failure.msg
        "attempted to convert a string that doesn't match an existing log level").context
        s!"unrecognized log level '{v}'")

/-- Runs a command line as the program started with environment `env` does. -/
def runProcess (readFile : FileReader) (env : List (String × String)) (args : List String) :
    Exit :=
  let report := env.lookup "RUST_BACKTRACE" = some "1"
  match logFilterOf (env.lookup "RUST_LOG") with
  | .error f => ({ failure := some f } : Output).finish report
  | .ok filter =>
    let autoColor := match env.lookup "CLICOLOR_FORCE" with
      | some v => v ≠ "0"
      | none => false
    let depth : Ansi.Depth := match env.lookup "COLORTERM" with
      | some "truecolor" | some "24bit" => .trueColor
      | _ => .basic
    (run { readFile, logFilter := filter, autoColor, depth } args).finish report

end RegexHighlight.Cli
