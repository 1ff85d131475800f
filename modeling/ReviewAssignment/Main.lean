import ReviewAssignment.Http.Routes
import ReviewAssignment.Http.Server
import ReviewAssignment.Startup.CommandLine
import ReviewAssignment.Startup.Location
import Std.Time.DateTime.Timestamp

/-!
# The program

Reads the command line and answers the requests that arrive on standard input, one after the other, on
standard output.  The log goes to standard error.
-/

namespace ReviewAssignment

open Startup (Options Stop Flag)

def versionText : String := "review-roster 0.1.0"

def helpText : String :=
  "Assigns and reassigns pull request reviewers within teams\n\nOptions:\n" ++
    String.join (Flag.all.map fun flag =>
      "  --" ++ flag.name ++ " <VALUE> [env: " ++ flag.environmentName ++ "]\n") ++
    "  -h, --help\n  -V, --version"

def stopText : Stop → String
  | .help => helpText
  | .version => versionText
  | .badValue flag value => "error: invalid value '" ++ value ++ "' for '--" ++ flag.name ++ "'"
  | .noValue flag => "error: a value is required for '--" ++ flag.name ++ "' but none was supplied"
  | .unknownArgument argument => "error: unexpected argument '" ++ argument ++ "' found"
  | .repeatedFlag flag => "error: the argument '--" ++ flag.name ++ "' cannot be used multiple times"
  | .unwantedValue argument => "error: unexpected value for '" ++ argument ++ "' found"

def writeLog (filter : String) (entries : List Log.Entry) : IO Unit := do
  for entry in entries do
    if entry.passes filter then IO.eprintln entry.line

/-- Reads lines up to an empty one, or to the end of the input. -/
partial def readLines (input : IO.FS.Stream) : IO (List String) := do
  let line ← input.getLine
  if (Http.trimmedLine line.toList).isEmpty then return []
  else return line :: (← readLines input)

partial def answerRequests (options : Options) (seed : Nat) (session : Program.Session) : IO Unit := do
  let input ← IO.getStdin
  match ← readLines input with
  | [] => return
  | line :: headers =>
    match Http.readHead? line headers with
    | none => IO.println "HTTP/1.1 400 Bad Request\r\n\r"
    | some head => do
      let body ← input.read (Http.contentLength head).toUSize
      let now ← Std.Time.Timestamp.now
      let moment := Time.Instant.ofMillis now.toMillisecondsSinceUnixEpoch.toInt.toNat
      let asked := { head with body := body.toList }
      let outcome := (Http.respond (Request.program options.settings) asked).run
        ⟨Source.seeded seed, fun _ => moment⟩ session
      writeLog options.logFilter outcome.2.log
      match outcome.1 with
      | .ok response => IO.print response.write
      | .error cause => IO.print (Http.Response.ofFailure cause).write
      (← IO.getStdout).flush
      answerRequests options seed outcome.2.session

end ReviewAssignment

open ReviewAssignment in
def main (arguments : List String) : IO UInt32 := do
  let values ← Startup.Flag.all.mapM fun flag => do
    return (flag.environmentName, ← IO.getEnv flag.environmentName)
  match Startup.Options.read arguments fun name => (List.lookup name values).join with
  | .error stop =>
    match stop with
    | .help | .version => do
      IO.println (stopText stop)
      return 0
    | _ => do
      IO.eprintln (stopText stop)
      return 2
  | .ok options => do
    let (path, place) := Startup.locate options.database .nothing
    let opening := place.prepare path
    writeLog options.logFilter (.info ("Opening database at " ++ path) :: opening.log)
    match Http.listen [] options.address with
    | .error fault => do
      IO.eprintln fault.message
      return 1
    | .ok _ => do
      writeLog options.logFilter [.info ("[http] Server listening on http://" ++ options.address.write)]
      answerRequests options (← IO.rand 0 (Nat.pow 2 31)) ⟨.empty, 0, 0⟩
      writeLog options.logFilter [.info "[http] Server stopped"]
      return 0
