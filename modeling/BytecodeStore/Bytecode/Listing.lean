import BytecodeStore.Bytecode.Chunk
import BytecodeStore.Text.Numeral

/-! # Listings

A listing shows a chunk as text: a header with its name and its numbers, and a line for each instruction.
A byte that names no opcode takes a line of its own, so a listing never fails.
-/
namespace BytecodeStore

structure Line where
  offset : Nat
  byte : UInt8
  text : String
deriving DecidableEq, Repr

namespace Chunk

/-- The text of the instruction at `offset`, and the offset behind it. -/
def instructionAt (c : Chunk) (offset : Nat) : String × Nat :=
  match c.get? offset with
  | none => ("<end of chunk>", offset)
  | some byte =>
    match OpCode.ofByte? byte with
    | some op => (op.mnemonic, offset + op.size)
    | none => (OpCode.unknown byte, offset + 1)

theorem lt_instructionAt (c : Chunk) {offset : Nat} (h : offset < c.count) :
    offset < (c.instructionAt offset).2 := by
  obtain ⟨byte, hb⟩ : ∃ byte, c.get? offset = some byte := by
    rw [Buffer.get?_eq]
    exact ⟨_, List.getElem?_eq_getElem (by rw [Buffer.length_toList]; exact h)⟩
  simp only [instructionAt, hb]
  split
  · rename_i op _
    have := op.size_pos
    simp only
    omega
  · simp

def linesFrom (c : Chunk) (offset : Nat) : List Line :=
  if offset < c.count then
    ⟨offset, (c.get? offset).getD 0, (c.instructionAt offset).1⟩ :: linesFrom c (c.instructionAt offset).2
  else []
termination_by c.count - offset
decreasing_by
  rename_i inside
  have := c.lt_instructionAt inside
  omega

def lines (c : Chunk) : List Line := c.linesFrom 0

/-- Writes the lines from `offset` on behind `out`. -/
def listFrom (c : Chunk) (offset : Nat) (out : String) : String :=
  if offset < c.count then
    listFrom c (c.instructionAt offset).2
      (out ++ (Numeral.padded 4 offset ++ " " ++ (c.instructionAt offset).1 ++ "\n"))
  else out
termination_by c.count - offset
decreasing_by
  rename_i inside
  have := c.lt_instructionAt inside
  omega

def listing (c : Chunk) (name : String) : String :=
  c.listFrom 0 s!"== {name} == (count={c.count}, capacity={c.capacity.toNat})\n"

end Chunk

end BytecodeStore
