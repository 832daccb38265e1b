import RegexHighlight.Cli.Run

/-!
# The command line

The program reads its arguments and the environment variables it heeds, reads the files that
`--pattern-file` names, runs the tool, and writes what the tool wrote to standard output and
standard error, ending with the tool's exit status.
-/

namespace RegexHighlight.Main

/-- The files a command line may read patterns from. -/
def patternFiles : List String → List String
  | "--pattern-file" :: path :: rest => path :: patternFiles rest
  | arg :: rest =>
    if arg.startsWith "--pattern-file=" then
      String.ofList (arg.toList.drop "--pattern-file=".length) :: patternFiles rest
    else patternFiles rest
  | [] => []

/-- The system's code and description of a failure, when it gives them. -/
def systemError (e : IO.Error) : Option (UInt32 × String) :=
  match e with
  | .alreadyExists _ code d | .otherError code d | .resourceBusy code d
  | .resourceVanished code d | .unsupportedOperation code d | .hardwareFault code d
  | .unsatisfiedConstraints code d | .illegalOperation code d | .protocolError code d
  | .timeExpired code d | .interrupted _ code d | .noFileOrDirectory _ code d
  | .invalidArgument _ code d | .permissionDenied _ code d | .resourceExhausted _ code d
  | .inappropriateType _ code d | .noSuchThing _ code d => some (code, d)
  | _ => none

/-- How a failed read is reported. -/
def readError (e : IO.Error) : ReadError :=
  match systemError e with
  | some (2, _) => .notFound
  | some (21, _) => .isDirectory
  | some (20, _) => .notDirectory
  | some (code, d) => .other code.toNat d
  | none => .other 0 (toString e)

/-- Reads files, keeping each one's bytes or why it could not be read. -/
def readFiles (paths : List String) : IO (List (String × Except ReadError (List UInt8))) :=
  paths.mapM fun (path : String) => do
    if path.toList.contains '\x00' then return (path, .error .nulInName)
    try
      let bytes ← IO.FS.readBinFile path
      pure (path, .ok bytes.toList)
    catch e => pure (path, .error (readError e))

/-- The environment variables the tool heeds. -/
def heeded : List String := ["RUST_LOG", "RUST_BACKTRACE", "CLICOLOR_FORCE", "NO_COLOR", "COLORTERM"]

end RegexHighlight.Main

open RegexHighlight in
/-- Runs the tool on the command line. -/
def main (args : List String) : IO UInt32 := do
  let files ← Main.readFiles (Main.patternFiles args)
  let env ← Main.heeded.filterMapM fun name => do
    pure ((← IO.getEnv name).map fun value => (name, value))
  let reader : Cli.FileReader := fun path => (files.lookup path).getD (.error .notFound)
  let exit := Cli.runProcess reader env args
  let stdout ← IO.getStdout
  stdout.putStr exit.stdout
  stdout.flush
  let stderr ← IO.getStderr
  stderr.putStr exit.stderr
  stderr.flush
  pure exit.status.toUInt32
