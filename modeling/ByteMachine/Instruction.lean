import ByteMachine.Opcode
import ByteMachine.Register

/-!
# Instructions

An instruction is an operation with its operands: registers, and for `LDI` a
word to load. An instruction is as long in code as it has operands, plus one
word for the tag.
-/

namespace ByteMachine

/-- The instructions of the machine. -/
inductive Instruction where
  | hlt
  | ldi (target : Register) (value : Word)
  | prn (source : Register)
  | add (target source : Register)
  | mult (target source : Register)
  | cmp (left right : Register)
  | push (source : Register)
  | pop (target : Register)
  | call (target : Register)
  | ret
  | jmp (target : Register)
  | jeq (target : Register)
  | jne (target : Register)
  deriving DecidableEq, Repr

/-- What stands beside an operation. -/
inductive Operand where
  | register (register : Register)
  | immediate (value : Word)
  deriving DecidableEq, Repr

namespace Operand

/-- The operand as it stands in code. -/
def toWord : Operand → Word
  | register r => r.toWord
  | immediate value => value

/-- The operand as it stands in a listing; immediate words are decimal. -/
def text : Operand → String
  | register r => r.name
  | immediate value => toString value.toNat

end Operand

namespace Instruction

def opcode : Instruction → Opcode
  | hlt => .hlt
  | ldi _ _ => .ldi
  | prn _ => .prn
  | add _ _ => .add
  | mult _ _ => .mult
  | cmp _ _ => .cmp
  | push _ => .push
  | pop _ => .pop
  | call _ => .call
  | ret => .ret
  | jmp _ => .jmp
  | jeq _ => .jeq
  | jne _ => .jne

def operands : Instruction → List Operand
  | hlt | ret => []
  | ldi target value => [.register target, .immediate value]
  | prn r | push r | pop r | call r | jmp r | jeq r | jne r => [.register r]
  | add a b | mult a b | cmp a b => [.register a, .register b]

/-- Number of words in code. -/
def length (instruction : Instruction) : Nat :=
  1 + instruction.opcode.operandCount

/-- The instruction in a listing: its mnemonic, then the operands between commas. -/
def text (instruction : Instruction) : String :=
  match instruction.operands with
  | [] => instruction.opcode.mnemonic
  | operands => instruction.opcode.mnemonic ++ " " ++ ",".intercalate (operands.map Operand.text)

@[simp] theorem length_operands (instruction : Instruction) :
    instruction.operands.length = instruction.opcode.operandCount := by
  cases instruction <;> rfl

theorem length_pos (instruction : Instruction) : 0 < instruction.length := by
  unfold length; omega

end Instruction
end ByteMachine
