import ByteMachine.Console.Document
import ByteMachine.Console.Invocation
import ByteMachine.Machine.Journal

/-!
# Sessions

A session reads a program, reports the lines that it skips, and runs it. It
writes what the program prints to standard output and the rest to standard
error, where messages and the log stand in the order in which they arise. The
log filter decides which entries of the log are shown and nothing else.
-/

namespace ByteMachine.Console

/-- A line for standard error. -/
inductive Line where
  | message (text : String)
  | log (entry : LogEntry)
  deriving DecidableEq, Repr

/-- The line as a filter shows it. -/
def Line.shown? (filter : LogFilter) : Line → Option String
  | message text => some text
  | log entry => if filter.admits entry then some entry.line else none

/-- The exit codes: a halt, a program that cannot be loaded, a word that is no
operation, any other fault, and an invocation that cannot be understood. -/
inductive ExitCode where
  | halted | notLoaded | invalidInstruction | fault | usage
  deriving DecidableEq, Repr

def ExitCode.toNat : ExitCode → Nat
  | halted => 0
  | notLoaded => 1
  | invalidInstruction => 2
  | fault => 3
  | usage => 2

/-- A program that was read: the lines to show, and its image unless the session
ends here. -/
structure Loading where
  lines : List Line
  image : Option Image
  deriving DecidableEq, Repr

def warning (path : String) (diagnostic : Diagnostic) : Line :=
  .message ("warning: " ++ path ++ ": " ++ diagnostic.message)

/-- Load what the text of a file says. A text with invalid lines is refused if
`strict`, and one that is too large always. -/
def loadSource (path : String) (strict : Bool) (source : Source) : Loading :=
  let noticed := source.diagnostics.map fun diagnostic => Line.log (.invalidLine diagnostic)
  match source.image with
  | .error error =>
      { lines := noticed ++ [.message ("error: failed to load " ++ path ++ ": " ++ error.message)]
        image := none }
  | .ok image =>
      let lines := noticed ++ .log (.parsed image.size source.diagnostics.length)
        :: source.diagnostics.map (warning path)
      if strict && !source.diagnostics.isEmpty then
        { lines := lines ++ [.message ("error: " ++ path ++ " has "
            ++ toString source.diagnostics.length ++ " invalid line(s)")]
          image := none }
      else
        { lines, image := some image }

def load (path : String) (strict : Bool) : Except ReadFailure String → Loading
  | .ok text => loadSource path strict (Source.read text.toList)
  | .error failure =>
      { lines := [.message ("error: failed to read " ++ path ++ ": " ++ failure.message)]
        image := none }

def faultMessage : Fault → String
  | .invalidInstruction opcode address =>
      "Invalid instruction " ++ Numeral.opcode opcode.toNat ++ " at address "
        ++ Numeral.codeAddress address
  | fault => "error: " ++ fault.message

def exitCode : Option Fault → ExitCode
  | none => .halted
  | some (.invalidInstruction ..) => .invalidInstruction
  | some _ => .fault

def closingLines (attempt : Machine.Attempt) : List Line :=
  (attempt.fault.toList.map fun fault => .message (faultMessage fault))
    ++ [.log (.stopped attempt.machine.pc attempt.machine.lifecycle)]

/-- What a session has written when it ends. -/
structure Report where
  exitCode : ExitCode
  output : String
  lines : List Line
  deriving DecidableEq, Repr

/-- Run an image; `none` if `limit` steps do not end the run. -/
def runImage (limit : Nat) (image : Image) : Option Report := do
  let (attempt, journal) ← (Machine.load { printer := {} } image).runRecorded limit #[.loaded image.size]
  pure {
    exitCode := exitCode attempt.fault
    output := attempt.machine.printer.text
    lines := journal.toList.map .log ++ closingLines attempt }

/-- Run what was loaded. -/
def runLoading (limit : Nat) (loading : Loading) : Option Report :=
  match loading.image with
  | none => some { exitCode := .notLoaded, output := "", lines := loading.lines }
  | some image => (runImage limit image).map fun report =>
      { report with lines := loading.lines ++ report.lines }

def versionText : String := "ls8 0.0.0\n"

def helpText : String :=
  "Run an LS-8 program\n\nUsage: ls8 [OPTIONS] <PROGRAM>\n\nArguments:\n"
    ++ "  <PROGRAM>  Program file: one base-2 byte per line, `#` starts a comment\n\nOptions:\n"
    ++ "      --trace    Log every executed instruction to stderr [env: LS8_TRACE=]\n"
    ++ "      --strict   Refuse to run a program with lines that are not valid bytes "
    ++ "[env: LS8_STRICT=]\n"
    ++ "  -h, --help     Print help\n  -V, --version  Print version\n"

/-- The report of an invocation that runs no program. -/
def Interruption.report : Interruption → Report
  | usage error =>
      { exitCode := .usage, output := "", lines := [.message ("error: " ++ error.message)] }
  | version => { exitCode := .halted, output := versionText, lines := [] }
  | help => { exitCode := .halted, output := helpText, lines := [] }

/-- What an invocation writes and how it ends. -/
structure Outcome where
  exitCode : ExitCode
  output : String
  errors : List String
  deriving DecidableEq, Repr

/-- The part of a report that a filter shows. -/
def Report.shown (report : Report) (filter : LogFilter) : Outcome where
  exitCode := report.exitCode
  output := report.output
  errors := report.lines.filterMap (Line.shown? filter)

/-- Carry out an invocation, with `read` to read files; `none` if the program does
not end within `limit` steps. -/
def invoke (limit : Nat) (arguments : List String) (environment : Environment)
    (read : String → Except ReadFailure String) : Option Outcome :=
  match Options.ofArguments arguments environment with
  | .error interruption => some (interruption.report.shown [])
  | .ok options =>
      (runLoading limit (load options.program options.strict (read options.program))).map
        fun report => report.shown (options.logFilter environment)

end ByteMachine.Console
