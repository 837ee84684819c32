import ByteMachine.Console.Session

/-!
# The program

Reads the arguments, the environment and the program file, then runs the machine
one step at a time and writes what a session would report as it arises.
-/

namespace ByteMachine.Console

/-- The reason behind a failure of the system. -/
def ReadFailure.ofIO (error : IO.Error) : ReadFailure :=
  match error with
  | .noFileOrDirectory .. => .notFound
  | .inappropriateType _ code details => ofCode code details
  | .permissionDenied _ code details => ofCode code details
  | .resourceExhausted _ code details => ofCode code details
  | .invalidArgument _ code details => ofCode code details
  | .otherError code details => ofCode code details
  | other => .system (toString other) 5
where
  /-- The system's number for the error may come negated. -/
  ofCode (code : UInt32) (details : String) : ReadFailure :=
    match (if code < 0x80000000 then code else 0 - code).toNat with
    | 2 => .notFound
    | 13 => .notPermitted
    | 20 => .notDirectory
    | 21 => .isDirectory
    | 36 => .nameTooLong
    | number => .system details number

def readFile (path : String) : IO (Except ReadFailure String) := do
  try
    pure (decodeText (← IO.FS.readBinFile path))
  catch error =>
    pure (.error (.ofIO error))

def writeLines (filter : LogFilter) (lines : List Line) : IO Unit :=
  lines.forM fun line =>
    match line.shown? filter with
    | some text => IO.eprintln text
    | none => pure ()

/-- Step a machine to the end of its run. -/
partial def stepOn (filter : LogFilter) (machine : Machine) : IO ExitCode := do
  let attempt := machine.step
  writeLines filter (machine.stepEntries.map .log)
  IO.print (attempt.machine.printer.textFrom machine.printer.printed.size)
  if attempt.isOver then
    writeLines filter (closingLines attempt)
    pure (exitCode attempt.fault)
  else
    stepOn filter { attempt.machine with printer := {} }

def runOptions (filter : LogFilter) (options : Options) : IO ExitCode := do
  let loading := load options.program options.strict (← readFile options.program)
  writeLines filter loading.lines
  match loading.image with
  | none => pure .notLoaded
  | some image =>
      writeLines filter [.log (.loaded image.size)]
      stepOn filter (Machine.load { printer := {} } image)

end ByteMachine.Console

open ByteMachine.Console

def main (arguments : List String) : IO UInt32 := do
  let environment : Environment := {
    trace := ← IO.getEnv "LS8_TRACE"
    strict := ← IO.getEnv "LS8_STRICT"
    log := ← IO.getEnv "RUST_LOG" }
  let code ← match Options.ofArguments arguments environment with
    | .ok options => runOptions (options.logFilter environment) options
    | .error interruption => do
        let report := interruption.report
        IO.print report.output
        writeLines [] report.lines
        pure report.exitCode
  pure code.toNat.toUInt32
