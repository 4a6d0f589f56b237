import BytecodeStore.Text.Hex

/-! # Opcodes

Every instruction starts with one byte that names its opcode. Most bytes name none.
-/
namespace BytecodeStore

inductive OpCode where
  | ret
deriving DecidableEq, Repr

namespace OpCode

def all : List OpCode := [.ret]

def toByte : OpCode → UInt8
  | .ret => 0x00

def ofByte? (b : UInt8) : Option OpCode := if b = 0x00 then some .ret else none

def mnemonic : OpCode → String
  | .ret => "OP_RETURN"

/-- The bytes of a whole instruction, the opcode byte included. -/
def size : OpCode → Nat
  | .ret => 1

theorem size_pos (op : OpCode) : 0 < op.size := by cases op; decide

@[simp] theorem ofByte?_toByte (op : OpCode) : ofByte? op.toByte = some op := by cases op; rfl

theorem toByte_of_ofByte? {b : UInt8} {op : OpCode} (h : ofByte? b = some op) : op.toByte = b := by
  unfold ofByte? at h
  split at h
  · cases h; simp_all [toByte]
  · cases h

/-- How a byte that names no opcode is shown. -/
def unknown (b : UInt8) : String := "unknown opcode 0x" ++ String.ofList (Hex.upper b)

end OpCode

end BytecodeStore
