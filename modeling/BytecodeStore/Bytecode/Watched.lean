import BytecodeStore.Bytecode.Decode
import BytecodeStore.Storage.Watched

/-! # Watched readers

The readers of a chunk as a machine carries them out that watches itself: an offset that is no word traps, and so does
the check of a chunk whose count lies above its capacity.
-/
namespace BytecodeStore
open Watched

abbrev BareChunk := Bare (Array UInt8) Doubling

namespace BareChunk

def opAt (c : BareChunk) (offset : Nat) : Watched DecodeError OpCode :=
  match Block.get? c.data offset with
  | none => throw (.outOfBounds offset c.count)
  | some byte =>
    match OpCode.ofByte? byte with
    | none => throw (.invalidOpcode offset byte)
    | some op => pure op

def instructionAt (c : BareChunk) (offset : Nat) : Except Trap (String × Nat) :=
  match Block.get? c.data offset with
  | none => .ok ("<end of chunk>", offset)
  | some byte =>
    match OpCode.ofByte? byte with
    | some op => return (op.mnemonic, ← add offset op.size)
    | none => return (OpCode.unknown byte, ← add offset 1)

def opsFrom (c : BareChunk) (offset : Nat) : Watched DecodeError (List (Nat × OpCode)) :=
  if offset < c.count then do
    let op ← c.opAt offset
    let next ← add offset op.size
    return (offset, op) :: (← opsFrom c next)
  else return []
termination_by c.count - offset
decreasing_by
  have := op.size_pos
  have := next.property
  omega

def ops (c : BareChunk) : Watched DecodeError (List (Nat × OpCode)) := c.opsFrom 0

def checkFrom (c : BareChunk) (offset : Nat) : Watched DecodeError Unit :=
  if offset < c.count then do
    let op ← c.opAt offset
    let next ← add offset op.size
    if next > c.count then throw (.outOfBounds (← sub next 1) c.count)
    else checkFrom c next
  else return
termination_by c.count - offset
decreasing_by
  have := op.size_pos
  have := next.property
  omega

def check (c : BareChunk) : Watched DecodeError Unit := do
  Watched.check c.fits
  c.checkFrom 0

end BareChunk

end BytecodeStore
