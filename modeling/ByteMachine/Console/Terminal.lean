/-!
# Control sequences

A terminal obeys some characters instead of showing them, alone or in sequences
that start with an escape. `visible` leaves out of a text what a terminal would obey.
Blanks that end or tabulate a line are shown, also in the middle of a sequence.
-/

namespace ByteMachine.Console

/-- Where in a control sequence a terminal is. -/
inductive Sequence where
  | ground
  | escape | intermediate
  | control
  | deviceStart | deviceParameter | deviceIntermediate
  /-- In a string that nothing but its terminator ends. -/
  | string
  /-- In a command for the system, which a bell ends as well. -/
  | command
  deriving DecidableEq, Repr

namespace Sequence

def within (first last : Nat) (c : Char) : Bool :=
  first ≤ c.toNat && c.toNat ≤ last

/-- Blanks of ASCII that a terminal shows. -/
def isLineBlank (c : Char) : Bool :=
  c = '\t' || c = '\n' || c = '\x0c' || c = '\r'

def shows : Sequence → Char → Bool
  | ground, c => isLineBlank c || (0x20 ≤ c.toNat && c.toNat ≠ 0x7f)
  | escape, c | intermediate, c | control, c => isLineBlank c
  | _, _ => false

/-- Whether a character ends a string; its terminator is one byte. -/
def endsString (c : Char) : Bool :=
  0x80 ≤ c.toNat && (String.utf8EncodeChar c).contains 0x9c

def advance (sequence : Sequence) (c : Char) : Sequence :=
  if c = '\x18' || c = '\x1a' then ground
  else if c = '\x1b' then escape
  else match sequence with
    | ground => ground
    | escape =>
        if within 0x20 0x2f c then intermediate
        else if c = '[' then control
        else if c = ']' then command
        else if c = 'P' then deviceStart
        else if c = 'X' || c = '^' || c = '_' then string
        else if within 0x30 0x7e c then ground
        else escape
    | intermediate => if within 0x30 0x7e c then ground else intermediate
    | control => if within 0x40 0x7e c then ground else control
    | deviceStart =>
        if within 0x20 0x2f c then deviceIntermediate
        else if within 0x30 0x3f c then deviceParameter
        else if within 0x40 0x7e c then string
        else deviceStart
    | deviceParameter =>
        if within 0x20 0x2f c then deviceIntermediate
        else if within 0x3c 0x7e c then string
        else deviceParameter
    | deviceIntermediate => if within 0x30 0x7e c then string else deviceIntermediate
    | string => if endsString c then ground else string
    | command => if c = '\x07' then ground else command

/-- What a terminal shows of a text. Once it shows a character it goes on as between
sequences, until the first character that it would not show there. -/
def visibleFrom (sequence : Sequence) (showing : Bool) : List Char → List Char
  | [] => []
  | c :: rest =>
      if showing && ground.shows c then
        c :: visibleFrom (if c.toNat < 0x80 then sequence else ground) true rest
      else if sequence.shows c then
        c :: visibleFrom (if c.toNat < 0x80 then sequence else ground) true rest
      else
        visibleFrom (sequence.advance c) false rest

end Sequence

def visible (text : String) : String :=
  String.ofList (Sequence.ground.visibleFrom true text.toList)

end ByteMachine.Console
