import ByteMachine.Machine.Trace
import ByteMachine.Source

/-!
# The log

Entries record what loading and running does. Each comes from a part of the program
and has a level and some named values.
-/

namespace ByteMachine

/-- How severe an entry is, from the most severe on. -/
inductive LogLevel where
  | error | warn | info | debug | trace
  deriving DecidableEq, Repr

namespace LogLevel

/-- The more is shown at a level, the greater. -/
def verbosity : LogLevel → Nat
  | error => 1
  | warn => 2
  | info => 3
  | debug => 4
  | trace => 5

/-- The level in a line of the log, five characters wide. -/
def label : LogLevel → String
  | error => "ERROR"
  | warn => " WARN"
  | info => " INFO"
  | debug => "DEBUG"
  | trace => "TRACE"

end LogLevel

/-- Something that happened while a program was loaded or run. -/
inductive LogEntry where
  | invalidLine (diagnostic : Diagnostic)
  | parsed (size skipped : Nat)
  | loaded (size : Nat)
  | traced (trace : Trace)
  | called (source target : Nat)
  | returned (source target : Nat)
  | halted (pc : Nat)
  | stopped (pc : Nat) (lifecycle : Lifecycle)
  deriving DecidableEq, Repr

namespace LogEntry

def level : LogEntry → LogLevel
  | invalidLine _ => .warn
  | traced _ => .trace
  | _ => .debug

/-- The part of the program that an entry comes from. -/
def target : LogEntry → String
  | invalidLine _ | parsed .. => "ls8::program"
  | stopped .. => "ls8"
  | _ => "ls8::vm"

/-- The names of the values of an entry. The message is one of them. -/
def fields : LogEntry → List String
  | invalidLine _ | traced _ => ["message"]
  | parsed .. => ["bytes", "skipped", "message"]
  | loaded _ => ["bytes", "message"]
  | called .. | returned .. => ["from", "to", "message"]
  | halted _ => ["pc", "message"]
  | stopped .. => ["pc", "state", "message"]

/-- A character that a terminal would obey, spelled out. -/
def printable (c : Char) : List Char :=
  if c ∈ ['\x07', '\x08', '\x0c', '\x1b', '\x7f'] then
    '\\' :: 'x' :: Numeral.padded 16 2 c.toNat
  else if 0x80 ≤ c.toNat && c.toNat ≤ 0x9f then
    ['\\', 'u', '\x7b'] ++ Numeral.padded 16 1 c.toNat ++ ['\x7d']
  else
    [c]

/-- A message and its named values. -/
def text : LogEntry → String
  | invalidLine diagnostic =>
      String.ofList (diagnostic.message.toList.flatMap printable)
  | parsed size skipped =>
      "parsed program bytes=" ++ toString size ++ " skipped=" ++ toString skipped
  | loaded size => "loaded program bytes=" ++ toString size
  | traced trace => trace.text
  | called source target => "call from=" ++ toString source ++ " to=" ++ toString target
  | returned source target => "return from=" ++ toString source ++ " to=" ++ toString target
  | halted pc => "halted pc=" ++ toString pc
  | stopped pc lifecycle => "stopped pc=" ++ toString pc ++ " state=" ++ lifecycle.name

/-- The entry as a line of the log. -/
def line (entry : LogEntry) : String :=
  entry.level.label ++ " " ++ entry.text

end LogEntry
end ByteMachine
