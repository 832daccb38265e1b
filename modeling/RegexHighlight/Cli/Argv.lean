import RegexHighlight.Text.Quoted

/-!
# Command line arguments

Arguments are scanned the usual Unix way. `--name` is a long option and `--name=value` one with
an attached value; `-abc` is the cluster of short options `a`, `b`, `c`, and an option that
takes a value takes the rest of its cluster (`-fu` gives `f` the value `u`, and `-f=u` too);
`--` ends the options; anything else, `-` included, is a plain value. An option's value may
also be the next argument whatever it looks like, so `-p -a` gives `p` the value `-a`.

`Argv.next` yields the next option or value, and `Argv.value` the value of the option just
yielded. An attached value that no one takes is an error at the following `next`.
-/

namespace RegexHighlight.Cli

/-- One command line item. -/
inductive Arg
  | short (c : Char)
  | long (name : String)
  | value (v : String)
deriving DecidableEq, Repr

/-- Where the scanner stands inside the current argument. -/
inductive Pending
  | none
  /-- The value attached to a long option by `=`. -/
  | longValue (v : String)
  /-- The rest of a short option cluster; `later` is false right after the `-`. -/
  | shorts (rest : List Char) (later : Bool)
  /-- After `--`: every argument is a value. -/
  | finished
deriving DecidableEq, Repr

/-- A scanner over command line arguments. -/
structure Argv where
  args : List String
  pending : Pending := .none
  /-- The last option yielded, as written: `-f` or `--flags`. -/
  lastOption : Option String := none
deriving DecidableEq, Repr

/-- A command line that cannot be scanned. -/
inductive ArgError
  | missingValue (option : Option String)
  | unexpectedOption (option : String)
  | unexpectedArgument (value : String)
  | unexpectedValue (option : String) (value : String)
deriving DecidableEq, Repr

namespace ArgError

/-- Arguments are shown quoted, as any text is. -/
def quoteArg (s : String) : String := Text.quote s

/-- The wording of an argument error. -/
def message : ArgError → String
  | .missingValue none => "missing argument"
  | .missingValue (some o) => s!"missing argument for option '{o}'"
  | .unexpectedOption o => s!"invalid option '{o}'"
  | .unexpectedArgument v => "unexpected argument " ++ quoteArg v
  | .unexpectedValue o v => s!"unexpected argument for option '{o}': " ++ quoteArg v

end ArgError

/-- The error for an item that no option group takes. -/
def Arg.unexpected : Arg → ArgError
  | .short c => .unexpectedOption ("-" ++ c.toString)
  | .long name => .unexpectedOption ("--" ++ name)
  | .value v => .unexpectedArgument v

namespace Argv

/-- A scanner over `args`. -/
def ofList (args : List String) : Argv := { args }

/-- Yields the first short option of a cluster, or moves on when the cluster is used up. -/
def nextShort (a : Argv) (rest : List Char) (later : Bool) :
    Except ArgError (Option (Option Arg × Argv)) :=
  match rest with
  | [] => .ok none
  | '=' :: value =>
    if later then .error (.unexpectedValue (a.lastOption.getD "") (String.ofList value))
    else
      let a := { a with pending := .shorts value true, lastOption := some "-=" }
      .ok (some (some (.short '='), a))
  | c :: more =>
    let a := { a with pending := .shorts more true, lastOption := some ("-" ++ c.toString) }
    .ok (some (some (.short c), a))

/-- Reads the next argument as an option or a value. -/
def fresh (a : Argv) : Except ArgError (Option Arg × Argv) :=
  match a.args with
  | [] => .ok (none, { a with pending := .none })
  | arg :: args =>
    let a := { a with args, pending := .none }
    if arg = "--" then
      match args with
      | [] => .ok (none, { a with pending := .finished })
      | v :: args => .ok (some (.value v), { a with args, pending := .finished })
    else if arg.startsWith "--" then
      let chars := arg.toList
      match chars.findIdx? (· = '=') with
      | some i =>
        let option := String.ofList (chars.take i)
        let value := String.ofList (chars.drop (i + 1))
        .ok (some (.long (String.ofList (option.toList.drop 2))),
          { a with pending := .longValue value, lastOption := some option })
      | none => .ok (some (.long (String.ofList (chars.drop 2))), { a with lastOption := some arg })
    else if arg.utf8ByteSize > 1 && arg.startsWith "-" then
      match nextShort a (arg.toList.drop 1) false with
      | .ok (some r) => .ok r
      | .ok none => .ok (none, a)
      | .error e => .error e
    else .ok (some (.value arg), a)

/-- Yields the next option or value, or `none` when the arguments are used up. -/
def next (a : Argv) : Except ArgError (Option Arg × Argv) :=
  match a.pending with
  | .longValue v => .error (.unexpectedValue (a.lastOption.getD "") v)
  | .finished =>
    match a.args with
    | [] => .ok (none, a)
    | v :: args => .ok (some (.value v), { a with args })
  | .shorts rest later =>
    match nextShort a rest later with
    | .ok (some r) => .ok r
    | .ok none => fresh { a with pending := .none }
    | .error e => .error e
  | .none => fresh a

/-- The value attached to the option just yielded, if any. -/
def attached (a : Argv) : Option String × Argv :=
  match a.pending with
  | .longValue v => (some v, { a with pending := .none })
  | .shorts [] _ => (none, { a with pending := .none })
  | .shorts ('=' :: rest) _ => (some (String.ofList rest), { a with pending := .none })
  | .shorts rest _ => (some (String.ofList rest), { a with pending := .none })
  | .finished => (none, a)
  | .none => (none, a)

/-- The value of the option just yielded: the attached value, or else the next argument. -/
def value (a : Argv) : Except ArgError (String × Argv) :=
  match a.attached with
  | (some v, a) => .ok (v, a)
  | (none, a) =>
    match a.args with
    | v :: args => .ok (v, { a with args })
    | [] => .error (.missingValue a.lastOption)

end Argv

end RegexHighlight.Cli
