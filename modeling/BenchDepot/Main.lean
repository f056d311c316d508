import BenchDepot.Startup.Basic
import Std.Time.DateTime.Timestamp

/-!
# The command line

Gathers what a start finds, makes the start, and says how it ended.  The store is kept in memory,
so that a start leaves no file behind; there is no network either, so that no endpoint is free and
a start that comes as far as its endpoint ends there.
-/

namespace BenchDepot.CommandLine

open Startup (Files Start World)

/-- What is said when help is asked for. -/
def helpText : String :=
  "Benchmark result server with a background-refreshed artifact cache\n\n"
    ++ "Usage: benchcached [OPTIONS]\n\n"
    ++ "Options:\n"
    ++ "  -c, --config <CONFIG>  Path to configuration file [env: BENCHCACHE_CONFIG=] "
    ++ "[default: config/server.toml]\n"
    ++ "  -h, --help             Print help\n"
    ++ "  -V, --version          Print version"

/-- What is said to a command line that asks for nothing there is. -/
def misuseText : String :=
  "error: the arguments are not understood\n\nFor more information, try '--help'."

/-- Bytes as text; what is no text becomes a document that cannot be read. -/
def textOf (bytes : ByteArray) : String :=
  (String.fromUTF8? bytes).getD "\x00"

/-- The variables in a block of them, each of which ends with a zero. -/
def variablesOf (block : String) : TextMap String :=
  TextMap.ofList ((block.splitOn "\x00").filterMap fun line =>
    match line.splitOn "=" with
    | name :: value :: more => some (name, "=".intercalate (value :: more))
    | _ => none)

/-- The files with the one at a path, and the directories above it. -/
def filesWith (path content : String) : Files :=
  let above := (Files.none.makeDirectories? path).getD Files.none
  match above.place? path with
  | some place => above.put place (.file content)
  | none => above

/-- The environment of the process. -/
def readEnvironment : IO (TextMap String) := do
  try
    return variablesOf (textOf (← IO.FS.readBinFile "/proc/self/environ"))
  catch _ =>
    return TextMap.empty

/-- The file at a path, if it can be read. -/
def readFiles (path : String) : IO Files := do
  try
    return filesWith path (textOf (← IO.FS.readBinFile path))
  catch _ =>
    return Files.none

/-- The time of day, to the second. -/
def readClock : IO Instant := do
  let seconds := (← Std.Time.Timestamp.now).toSecondsSinceUnixEpoch
  return (Instant.of? seconds.val 0 0).getD .epoch

/-- What a start finds. -/
def readWorld (arguments : List String) : IO World := do
  let environment ← readEnvironment
  let config :=
    match Startup.Request.ofArguments arguments with
    | .start named => Startup.configFile environment named
    | _ => Startup.defaultConfig
  return {
    arguments := arguments
    environment := environment
    files := ← readFiles config
    directory := (environment.get? "PWD").getD ""
    noticeFilter := none
    isFree := fun _ => false
    now := ← readClock }

/-- Says how a start ended. -/
def say (start : Start) : IO Unit :=
  match start.ending with
  | .help => IO.println helpText
  | .version => IO.println Startup.versionLine
  | .misuse => IO.eprintln misuseText
  | .failed error => IO.eprintln ("Error: " ++ error.message)
  | .crashed => IO.eprintln "the queue of refresh signals is too large"
  | .listening endpoint _ => IO.println ("Listening on " ++ endpoint.text)

end BenchDepot.CommandLine

/-- Starts the service. -/
def main (arguments : List String) : IO UInt32 := do
  let start := BenchDepot.Startup.Start.ofWorld (← BenchDepot.CommandLine.readWorld arguments)
  BenchDepot.CommandLine.say start
  return start.ending.exitCode.toUInt32
