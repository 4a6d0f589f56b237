import BytecodeStore.Bytecode.Chunk

/-! # Decoding

Instructions lie one behind the other from offset zero. `ops` lists them with their offsets, `check`
only looks whether they fill the chunk exactly; both stop at the first offset that cannot be decoded.
-/
namespace BytecodeStore

inductive DecodeError where
  | invalidOpcode (offset : Nat) (byte : UInt8)
  | outOfBounds (offset count : Nat)
deriving DecidableEq, Repr

def DecodeError.message : DecodeError → String
  | .invalidOpcode offset byte =>
    "invalid opcode 0x" ++ String.ofList (Hex.upper byte) ++ s!" at offset {offset}"
  | .outOfBounds offset count => s!"offset {offset} out of bounds (count={count})"

namespace Chunk

def opAt (c : Chunk) (offset : Nat) : Except DecodeError OpCode :=
  match c.get? offset with
  | none => .error (.outOfBounds offset c.count)
  | some byte =>
    match OpCode.ofByte? byte with
    | none => .error (.invalidOpcode offset byte)
    | some op => .ok op

def opsFrom (c : Chunk) (offset : Nat) : Except DecodeError (List (Nat × OpCode)) :=
  if offset < c.count then
    match c.opAt offset with
    | .error e => .error e
    | .ok op => (opsFrom c (offset + op.size)).map ((offset, op) :: ·)
  else .ok []
termination_by c.count - offset
decreasing_by have := op.size_pos; omega

def ops (c : Chunk) : Except DecodeError (List (Nat × OpCode)) := c.opsFrom 0

def checkFrom (c : Chunk) (offset : Nat) : Except DecodeError Unit :=
  if offset < c.count then
    match c.opAt offset with
    | .error e => .error e
    | .ok op =>
      if offset + op.size > c.count then .error (.outOfBounds (offset + op.size - 1) c.count)
      else checkFrom c (offset + op.size)
  else .ok ()
termination_by c.count - offset
decreasing_by have := op.size_pos; omega

def check (c : Chunk) : Except DecodeError Unit := c.checkFrom 0

end Chunk

end BytecodeStore
