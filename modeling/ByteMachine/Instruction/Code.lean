import ByteMachine.Instruction
import ByteMachine.Text.Numeral

/-!
# Instructions as words

`decode` reads the instruction at an address of any code that can be fetched by
address, `words` writes it. Decoding looks at the words from the tag on, one at
a time: the first that is missing or not allowed decides the error.
-/

namespace ByteMachine

/-- Why words are no instruction, or an instruction has no place. -/
inductive CodingError where
  | unknownOpcode (word : Word) (address : Nat)
  | invalidRegister (index : Word)
  /-- There is no word at this address. -/
  | truncated (address : Nat)
  /-- The buffer ends before the address behind the instruction. -/
  | noSpace (stop : Nat)
  deriving DecidableEq, Repr

def CodingError.message : CodingError → String
  | unknownOpcode word address =>
      "no instruction has opcode " ++ Numeral.opcode word.toNat ++ " at "
        ++ Numeral.codeAddress address
  | invalidRegister index => "register index " ++ toString index.toNat ++ " is out of range"
  | truncated address =>
      "instruction runs past the end of memory at address " ++ Numeral.hexadecimal address
  | noSpace stop => "no space for an instruction ending at " ++ Numeral.hexadecimal stop

def Register.decode (word : Word) : Except CodingError Register :=
  match ofWord? word with
  | some register => .ok register
  | none => .error (.invalidRegister word)

@[simp] theorem Register.decode_toWord (register : Register) :
    decode register.toWord = .ok register := by
  simp [decode]

namespace Instruction

/-- Code as the words that can be fetched by address. -/
abbrev Fetch := Nat → Option Word

def wordAt (fetch : Fetch) (address : Nat) : Except CodingError Word :=
  match fetch address with
  | some word => .ok word
  | none => .error (.truncated address)

def registerAt (fetch : Fetch) (address : Nat) : Except CodingError Register :=
  wordAt fetch address >>= Register.decode

def opcodeAt (fetch : Fetch) (address : Nat) : Except CodingError Opcode := do
  let word ← wordAt fetch address
  match Opcode.ofTag? word with
  | some opcode => pure opcode
  | none => throw (.unknownOpcode word address)

/-- The instruction at an address. -/
def decode (fetch : Fetch) (address : Nat) : Except CodingError Instruction := do
  match ← opcodeAt fetch address with
  | .hlt => pure .hlt
  | .ret => pure .ret
  | .ldi =>
      let target ← registerAt fetch (address + 1)
      let value ← wordAt fetch (address + 2)
      pure (.ldi target value)
  | .prn => one .prn
  | .push => one .push
  | .pop => one .pop
  | .call => one .call
  | .jmp => one .jmp
  | .jeq => one .jeq
  | .jne => one .jne
  | .add => two .add
  | .mult => two .mult
  | .cmp => two .cmp
where
  one (build : Register → Instruction) : Except CodingError Instruction := do
    let register ← registerAt fetch (address + 1)
    pure (build register)
  two (build : Register → Register → Instruction) : Except CodingError Instruction := do
    let left ← registerAt fetch (address + 1)
    let right ← registerAt fetch (address + 2)
    pure (build left right)

/-- The instruction in code: its tag, then its operands. -/
def words (instruction : Instruction) : List Word :=
  instruction.opcode.tag :: instruction.operands.map Operand.toWord

@[simp] theorem length_words (instruction : Instruction) :
    instruction.words.length = instruction.length := by
  simp [words, length]; omega

/-- Decoding undoes writing, wherever the words stand. -/
theorem decode_words {fetch : Fetch} {address : Nat} {instruction : Instruction}
    (h : ∀ i, i < instruction.length → fetch (address + i) = instruction.words[i]?) :
    decode fetch address = .ok instruction := by
  have h0 := h 0 (length_pos _)
  have h1 := h 1
  have h2 := h 2
  cases instruction <;>
    simp_all [decode, opcodeAt, registerAt, wordAt, words, operands, length, opcode,
      Opcode.operandCount, Operand.toWord, decode.one, decode.two, bind, Except.bind, pure,
      Except.pure]

/-- The instruction of an operation with its operands given as words. -/
def ofOperands (opcode : Opcode) (operands : List Word) : Except CodingError Instruction :=
  decode ((opcode.tag :: operands)[·]?) 0

end Instruction

/-- A buffer of words with the position where the next instruction goes. -/
structure CodeBuffer where
  words : List Word
  position : Nat
  deriving DecidableEq, Repr

namespace CodeBuffer

/-- The position behind an instruction written at the position. -/
def stop (buffer : CodeBuffer) (instruction : Instruction) : Nat :=
  buffer.position + instruction.length

/-- Write an instruction over the words at the position and move behind it. -/
def write (buffer : CodeBuffer) (instruction : Instruction) : Except CodingError CodeBuffer :=
  if buffer.stop instruction ≤ buffer.words.length then
    .ok {
      words := buffer.words.take buffer.position ++ instruction.words
        ++ buffer.words.drop (buffer.stop instruction)
      position := buffer.stop instruction }
  else
    .error (.noSpace (buffer.stop instruction))

end CodeBuffer
end ByteMachine
