import ByteMachine.Architecture

/-!
# The printer

The machine prints words, each in decimal on a line of its own. What it prints to
takes a line as a whole or not at all. A printer keeps the lines that it has taken,
and may have room for a limited number of them.
-/

namespace ByteMachine

/-- What a machine prints to: it takes a word on a line of its own, or refuses it
and stays as it was. -/
class Sink (σ : Type) where
  print? : σ → Word → Option σ

structure Printer where
  /-- How many lines there is room for; `none` is no limit. -/
  capacity : Option Nat := none
  /-- The words printed so far, the oldest first. -/
  printed : Array Word := #[]
  deriving DecidableEq, Repr

namespace Printer

/-- A word on a line of its own. -/
def line (word : Word) : String :=
  toString word.toNat ++ "\n"

/-- Whether there is no room for another line. -/
def isFull (printer : Printer) : Bool :=
  match printer.capacity with
  | some capacity => capacity ≤ printer.printed.size
  | none => false

/-- Print one word, if there is room for it. -/
def print? (printer : Printer) (word : Word) : Option Printer :=
  if printer.isFull then none else some { printer with printed := printer.printed.push word }

instance : Sink Printer := ⟨print?⟩

/-- The text printed after the first `skip` lines. -/
def textFrom (printer : Printer) (skip : Nat) : String :=
  String.join ((printer.printed.toList.drop skip).map line)

def text (printer : Printer) : String :=
  printer.textFrom 0

theorem print?_of_no_capacity {printer : Printer} (h : printer.capacity = none) (word : Word) :
    printer.print? word = some { printer with printed := printer.printed.push word } := by
  simp [print?, isFull, h]

end Printer
end ByteMachine
