/-!
# Command-line arguments

The program takes an optional script file and the options `--debug`, `--list-words`, and
`--log-level` with a filter. `--version` and `--help` are answered as soon as they are met.
Arguments are read from left to right, and the first one that does not fit is a usage error. An
option may be given once, and everything after `--` is a file.
-/

namespace BlockForth

/-- What the arguments of a run ask for. -/
structure Options where
  /-- The script to run. There is an interactive session without one. -/
  file : Option String := none
  /-- Whether to show the stack and the user words after every call. -/
  debug : Bool := false
  /-- Whether to show the built-in words instead. -/
  listWords : Bool := false
  /-- The filter for log lines. The program writes none. -/
  logLevel : Option String := none
deriving DecidableEq, Repr

/-- What a command line asks for. -/
inductive Request where
  | run (options : Options)
  | version
  | help
  /-- A command line that does not fit, and what is wrong with it. -/
  | misuse (problem : String)
deriving DecidableEq, Repr

namespace Request

/-- The problem with an argument that is not known. -/
def unexpected (argument : String) : Request :=
  .misuse ("unexpected argument '" ++ argument ++ "' found")

/-- The problem with an option that is given twice. -/
def repeated (option : String) : Request :=
  .misuse ("the argument '" ++ option ++ "' cannot be used multiple times")

/-- The problem with an option that lacks its value. -/
def valueMissing : Request :=
  .misuse "a value is required for '--log-level <LOG_LEVEL>' but none was supplied"

/-- Whether an argument can be a value, and not only an option. A lone `-` can. -/
def isValue (argument : String) : Bool :=
  argument == "-" || !argument.startsWith "-"

/-- Takes an argument as the script file, and goes on if it is the first. -/
def takeFile (o : Options) (argument : String) (next : Options → Request) : Request :=
  if o.file.isSome then unexpected argument else next { o with file := some argument }

/-- Takes the value of `--log-level`, and goes on if it is the first. -/
def takeLevel (o : Options) (level : String) (next : Options → Request) : Request :=
  if o.logLevel.isSome then repeated "--log-level <LOG_LEVEL>"
  else next { o with logLevel := some level }

/-- Reads arguments after `--`. -/
def files (o : Options) : List String → Request
  | [] => .run o
  | argument :: rest => takeFile o argument fun o => files o rest

/-- Reads arguments, with the options that were read before them. -/
def ofArgumentsFrom (o : Options) : List String → Request
  | [] => .run o
  | "--" :: rest => files o rest
  | "--help" :: _ => .help
  | "--version" :: _ => .version
  | "--debug" :: rest =>
    if o.debug then repeated "--debug" else ofArgumentsFrom { o with debug := true } rest
  | "--list-words" :: rest =>
    if o.listWords then repeated "--list-words"
    else ofArgumentsFrom { o with listWords := true } rest
  | ["--log-level"] => valueMissing
  | "--log-level" :: level :: rest =>
    if isValue level then takeLevel o level fun o => ofArgumentsFrom o rest else valueMissing
  | argument :: rest =>
    match argument.dropPrefix? "--log-level=" with
    | some level => takeLevel o level.copy fun o => ofArgumentsFrom o rest
    | none =>
      if isValue argument then takeFile o argument fun o => ofArgumentsFrom o rest
      else if argument.startsWith "-h" then .help
      else if argument.startsWith "-V" then .version
      else unexpected argument

/-- Reads the arguments of a command line. -/
def ofArguments (arguments : List String) : Request :=
  ofArgumentsFrom {} arguments

end Request

end BlockForth
