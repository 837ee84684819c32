import ByteMachine.Architecture

/-!
# Operations and their tags

Each operation has a mnemonic, a tag word that stands for it in code, and a
fixed list of operands. `ofTag?` reads a tag back; every other word is no
operation.
-/

namespace ByteMachine

/-- The operations of the machine. -/
inductive Opcode where
  | hlt | ldi | prn | add | mult | cmp | push | pop | call | ret | jmp | jeq | jne
  deriving DecidableEq, Repr

namespace Opcode

/-- All operations, in the order of the manual. -/
def all : List Opcode :=
  [hlt, ldi, prn, add, mult, cmp, push, pop, call, ret, jmp, jeq, jne]

def tag : Opcode → Word
  | hlt => 0b00000001
  | ldi => 0b10000010
  | prn => 0b01000111
  | add => 0b10100000
  | mult => 0b10100010
  | cmp => 0b10100111
  | push => 0b01000101
  | pop => 0b01000110
  | call => 0b01010000
  | ret => 0b00010001
  | jmp => 0b01010100
  | jeq => 0b01010101
  | jne => 0b01010110

def mnemonic : Opcode → String
  | hlt => "HLT"
  | ldi => "LDI"
  | prn => "PRN"
  | add => "ADD"
  | mult => "MULT"
  | cmp => "CMP"
  | push => "PUSH"
  | pop => "POP"
  | call => "CALL"
  | ret => "RET"
  | jmp => "JMP"
  | jeq => "JEQ"
  | jne => "JNE"

/-- Number of operand words. -/
def operandCount : Opcode → Nat
  | hlt | ret => 0
  | prn | push | pop | call | jmp | jeq | jne => 1
  | ldi | add | mult | cmp => 2

/-- The operation a tag word stands for. -/
def ofTag? (word : Word) : Option Opcode :=
  all.find? (·.tag = word)

def ofMnemonic? (text : String) : Option Opcode :=
  all.find? (·.mnemonic = text)

/-- The tags of all operations. -/
def tags : List Word :=
  all.map tag

theorem mem_all (opcode : Opcode) : opcode ∈ all := by
  cases opcode <;> decide

@[simp] theorem ofTag?_tag (opcode : Opcode) : ofTag? opcode.tag = some opcode := by
  cases opcode <;> decide

theorem ofTag?_eq_some_iff {word : Word} {opcode : Opcode} :
    ofTag? word = some opcode ↔ word = opcode.tag := by
  constructor
  · intro h
    have found : decide (opcode.tag = word) = true :=
      List.find?_some (p := fun candidate : Opcode => decide (candidate.tag = word)) h
    exact (of_decide_eq_true found).symm
  · rintro rfl
    exact ofTag?_tag opcode

theorem ofTag?_eq_none_iff {word : Word} : ofTag? word = none ↔ word ∉ tags := by
  simp [ofTag?, tags]

theorem tag_injective {a b : Opcode} (h : a.tag = b.tag) : a = b := by
  have := ofTag?_tag a
  rw [h, ofTag?_tag] at this
  exact (Option.some.inj this).symm

end Opcode
end ByteMachine
