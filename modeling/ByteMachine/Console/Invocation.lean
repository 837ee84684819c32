import ByteMachine.Console.Terminal
import ByteMachine.Log.Filter

/-!
# Invocations

An invocation names a program file and may set two flags, on the command line or
by a variable of the environment. Arguments are read from left to right and the
first that is not allowed decides the error; after `--` none is read as a flag.
The variables come last, and only for flags that no argument has set.
-/

namespace ByteMachine.Console

/-- What can be switched on for a run. -/
inductive Flag where
  | trace | strict
  deriving DecidableEq, Repr

def Flag.name : Flag → String
  | trace => "--trace"
  | strict => "--strict"

/-- Why an invocation cannot be understood. -/
inductive UsageError where
  | missingProgram
  | unexpectedArgument (argument : String)
  | repeatedFlag (flag : Flag)
  | unexpectedValue (value flag : String)
  | missingValue (owner : String)
  | invalidValue (value : String) (flag : Flag)
  deriving DecidableEq, Repr

/-- The message of an error. Of what was given it shows what a terminal would. -/
def UsageError.message : UsageError → String
  | missingProgram => "the following required arguments were not provided:"
  | unexpectedArgument argument => "unexpected argument '" ++ visible argument ++ "' found"
  | repeatedFlag flag => "the argument '" ++ flag.name ++ "' cannot be used multiple times"
  | unexpectedValue value flag =>
      "unexpected value '" ++ visible value ++ "' for '" ++ flag
        ++ "' found; no more were expected"
  | missingValue owner => "a value is required for '" ++ owner ++ "' but none was supplied"
  | invalidValue value flag =>
      "invalid value '" ++ visible value ++ "' for '" ++ flag.name ++ "'"

structure Options where
  program : String
  trace : Bool
  strict : Bool
  deriving DecidableEq, Repr

/-- Why an invocation ends before a program is read. -/
inductive Interruption where
  | usage (error : UsageError)
  | version
  | help
  deriving DecidableEq, Repr

/-- The variables that matter; `none` where one is not set. -/
structure Environment where
  trace : Option String := none
  strict : Option String := none
  log : Option String := none
  deriving DecidableEq, Repr

/-- What the arguments read so far have given. -/
structure Given where
  program : Option String := none
  flags : List Flag := []
  deriving DecidableEq, Repr

namespace Given

/-- A program path must not be empty. It is looked at no sooner than a flag
follows it or the arguments end. -/
def checkProgram (given : Given) : Except Interruption Unit :=
  if given.program = some "" then .error (.usage (.missingValue "<PROGRAM>")) else .ok ()

def addProgram (given : Given) (argument : String) : Except Interruption Given :=
  match given.program with
  | none => .ok { given with program := some argument }
  | some _ => .error (.usage (.unexpectedArgument argument))

def addFlag (given : Given) (flag : Flag) : Except Interruption Given := do
  given.checkProgram
  if flag ∈ given.flags then throw (.usage (.repeatedFlag flag))
  pure { given with flags := flag :: given.flags }

/-- End with an interruption that was asked for. -/
def interrupt (given : Given) (interruption : Interruption) : Except Interruption Given := do
  given.checkProgram
  throw interruption

/-- Take an argument of the form `--name` or `--name=value`; no name takes a value. -/
def addLong (given : Given) (name : String) (value : Option String) :
    Except Interruption Given :=
  let plain (known : Except Interruption Given) : Except Interruption Given :=
    match value with
    | none => known
    | some value => .error (.usage (.unexpectedValue value name))
  match name with
  | "--trace" => plain (given.addFlag .trace)
  | "--strict" => plain (given.addFlag .strict)
  | "--version" => plain (given.interrupt .version)
  | "--help" => plain (given.interrupt .help)
  | _ => .error (.usage (.unexpectedArgument name))

/-- Take an argument of the form `-letters`; its first letter decides. -/
def addShort (given : Given) (letter : Char) : Except Interruption Given :=
  match letter with
  | 'V' => given.interrupt .version
  | 'h' => given.interrupt .help
  | _ => .error (.usage (.unexpectedArgument (String.ofList ['-', letter])))

/-- Take an argument that may be a flag. A dash alone is a path. -/
def add (given : Given) (argument : String) : Except Interruption Given :=
  match argument.toList with
  | '-' :: '-' :: rest =>
      let name := rest.takeWhile (· ≠ '=')
      let value := match rest.dropWhile (· ≠ '=') with
        | [] => none
        | _ :: value => some (String.ofList value)
      given.addLong (String.ofList ('-' :: '-' :: name)) value
  | '-' :: letter :: _ => given.addShort letter
  | _ => given.addProgram argument

def read (given : Given) : List String → Except Interruption Given
  | [] => .ok given
  | "--" :: paths => paths.foldlM addProgram given
  | argument :: rest => do (← given.add argument).read rest

end Given

/-- Whether a flag is set: by an argument, else by its variable. -/
def Flag.isSet (flag : Flag) (given : Given) (setting : Option String) :
    Except Interruption Bool :=
  if flag ∈ given.flags then
    .ok true
  else
    match setting with
    | none | some "false" => .ok false
    | some "true" => .ok true
    | some "" => .error (.usage (.missingValue flag.name))
    | some value => .error (.usage (.invalidValue value flag))

def Options.ofArguments (arguments : List String) (environment : Environment) :
    Except Interruption Options := do
  let given ← Given.read {} arguments
  given.checkProgram
  let trace ← Flag.trace.isSet given environment.trace
  let strict ← Flag.strict.isSet given environment.strict
  match given.program with
  | some program => pure { program, trace, strict }
  | none => throw (.usage .missingProgram)

/-- The filter of a run: tracing adds a directive to those that are set. -/
def Options.logFilter (options : Options) (environment : Environment) : LogFilter :=
  let filter := LogFilter.ofSetting environment.log
  if options.trace then filter ++ [.tracing] else filter

end ByteMachine.Console
