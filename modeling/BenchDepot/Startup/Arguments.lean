/-!
# The command line

The command line names the file with the settings: `--config FILE`, `--config=FILE`, `-c FILE` or
`-cFILE`, at most once.  Arguments are read from left to right.  A call for help or for the version
is answered when its turn comes, unless something wrong stands before it.

* `Request.ofArguments` — what a command line asks for.
-/

namespace BenchDepot.Startup

/-- What a command line asks for. -/
inductive Request where
  | help
  | version
  /-- A start, with the file that holds the settings if one is named. -/
  | start (config : Option String)
  /-- Nothing that there is. -/
  | misuse
deriving DecidableEq

namespace Arguments

/-- The name and the value of a long option. -/
def longParts (cs : List Char) : String × Option String :=
  let name := String.ofList (cs.takeWhile (· != '='))
  match cs.dropWhile (· != '=') with
  | _ :: value => (name, some (String.ofList value))
  | [] => (name, none)

/-- What stands behind the letter of an option that takes a value: the value, whether or not an
equals sign stands between them. -/
def shortValue : List Char → String
  | '=' :: value => String.ofList value
  | value => String.ofList value

/-- Whether an argument is an option: more than one character, with a dash in front. -/
def isOption (argument : String) : Bool :=
  match argument.toList with
  | '-' :: _ :: _ => true
  | _ => false

/-- What one argument means. -/
inductive Meaning where
  | help
  | version
  /-- The file with the settings. -/
  | config (file : String)
  /-- The file with the settings is the next argument. -/
  | configNext
  /-- No more options follow. -/
  | endOfOptions
  | unknown
deriving DecidableEq

/-- The meaning of an argument. -/
def meaning (argument : String) : Meaning :=
  match argument.toList with
  | ['-', '-'] => .endOfOptions
  | '-' :: '-' :: rest =>
    match longParts rest with
    | ("help", none) => .help
    | ("version", none) => .version
    | ("config", some file) => .config file
    | ("config", none) => .configNext
    | _ => .unknown
  | '-' :: 'h' :: _ => .help
  | '-' :: 'V' :: _ => .version
  | ['-', 'c'] => .configNext
  | '-' :: 'c' :: rest => .config (shortValue rest)
  | _ => .unknown

/-- What the rest of a command line asks for, with the file that was named before it. -/
def read (config : Option String) : List String → Request
  | [] => .start config
  | argument :: rest =>
    match meaning argument, rest with
    | .help, _ => .help
    | .version, _ => .version
    | .config file, rest => if config.isSome then .misuse else read (some file) rest
    | .configNext, file :: rest =>
      if config.isSome || isOption file then .misuse else read (some file) rest
    | .configNext, [] => .misuse
    | .endOfOptions, [] => .start config
    | .endOfOptions, _ :: _ => .misuse
    | .unknown, _ => .misuse

end Arguments

/-- What a command line asks for. -/
def Request.ofArguments (arguments : List String) : Request :=
  Arguments.read none arguments

end BenchDepot.Startup
