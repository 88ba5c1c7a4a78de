import ControlPlane.Admin.Line
import ControlPlane.CommandLine
import Std.Time.DateTime.Timestamp

/-!
# The program

Runs the command that the arguments name.  `serve` starts the control plane
over an empty cluster and answers requests line by line from the standard input
until it ends.  This is the only module with effects: it reads files, the clock
and random bytes, and writes what the other modules compute.
-/

namespace ControlPlane.Program

open Admin CommandLine Std.Time

/-- The version of the program. -/
def version : String := "0.1.0"

/-- The help of the program. -/
def help : List String :=
  ["Control plane of a storage cluster",
    "",
    "Usage: strata-scm [OPTIONS] <COMMAND>",
    "",
    "Commands:",
    "  serve         Run the control plane with in-memory pipeline and container state",
    "  check-config  Validate a configuration file and print the effective configuration",
    "  version       Show version information",
    "",
    "Options:",
    "  -c, --config <CONFIG>        Configuration file path (JSON)",
    "  -l, --log-level <LOG_LEVEL>  Log level (trace, debug, info, warn, error)",
    "  -h, --help                   Print help",
    "  -V, --version                Print version"]

/-- The number that some bytes spell, the first the most significant. -/
def numberOf (bytes : ByteArray) : Nat := bytes.foldl (fun n b => 256 * n + b.toNat) 0

/-- A draw out of a seed. -/
def spin (seed n : Nat) : Nat := (6364136223846793005 * (seed + n) + 1442695040888963407) >>> 32

/-- What the outside world contributes to a request now. -/
def surroundings : IO (Environment × Nat) := do
  let now ← Timestamp.now
  let ids := numberOf (← IO.getRandomBytes 16)
  let seed := numberOf (← IO.getRandomBytes 8)
  let nanos := now.toNanosecondsSinceUnixEpoch.val
  let env : Environment :=
    { now := ⟨nanos / 1000000000, (nanos % 1000000000).toNat⟩
      newId := fun serial => ⟨.ofRandom (ids + serial)⟩
      draws := fun serial => spin (seed + serial * 65536) }
  return (env, seed)

/-- Answers requests until the input ends. -/
partial def answer (input output : IO.FS.Stream) (m : Manager) : IO Unit := do
  let line ← input.getLine
  if line.isEmpty then return
  let (env, seed) ← surroundings
  let draws (ps : List Pipeline) := (spin seed ps.length, spin (seed / 2) ps.length)
  let r := reply m.tick env draws (.ofLine line)
  -- Nothing is written for a request that broke off.
  for text in r.answer.elim [] Answer.lines do
    output.putStrLn text
  output.flush
  answer input output r.manager

/-- The files that an invocation may read. -/
def readFiles (i : Invocation) : IO Files := do
  let some path := i.config | return fun _ => .error Files.missing
  let content ← (IO.FS.readBinFile path).toBaseIO
  let read : Except String ByteArray := content.mapError toString
  return fun _ => read

/-- Writes lines to the stream for errors. -/
def complain (text : String) : IO Unit := do (← IO.getStderr).putStrLn text

/-- Runs the command of an invocation and tells the exit code. -/
def run (i : Invocation) : IO UInt32 := do
  match i.command with
  | .version =>
    IO.println ("strata-scm v" ++ version)
    IO.println "Storage cluster manager control plane"
    return 0
  | .checkConfig =>
    match i.settings (← readFiles i) with
    | .ok s =>
      IO.println "Configuration is valid"
      IO.println s.json.pretty
      return 0
    | .error e =>
      complain ("Invalid configuration: " ++ e.message)
      return 1
  | .serve .. =>
    let files ← readFiles i
    match (i.settings files).bind fun s => Manager.inMemory s {} with
    | .ok m =>
      if m.settings.admin.enabled then answer (← IO.getStdin) (← IO.getStdout) m
      return 0
    | .error e =>
      complain ("Error: " ++ e.message)
      return 1

end ControlPlane.Program

open ControlPlane ControlPlane.Program

/-- Reads the arguments and runs their command. -/
def main (args : List String) : IO UInt32 := do
  match CommandLine.parse args with
  | .ok i => run i
  | .error .help => help.forM IO.println; return 0
  | .error .version => IO.println ("strata-scm " ++ version); return 0
  | .error .usage => complain "error: invalid arguments; try '--help'"; return 2
