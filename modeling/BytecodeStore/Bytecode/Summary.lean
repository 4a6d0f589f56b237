import BytecodeStore.Bytecode.Decode
import BytecodeStore.Bytecode.Listing
import BytecodeStore.Json.Value

/-! # Summaries

A summary is the structured view of a chunk: its numbers, its rule, whether it decodes, and every listed
instruction. Written as JSON it has a fixed order of keys, and names an error only where there is one.
-/
namespace BytecodeStore

def Doubling.toJson (p : Doubling) : Json :=
  .object [("minimum", .number p.minimum.toNat), ("factor", .number p.factor.toNat)]

def Line.toJson (line : Line) : Json :=
  .object [("offset", .number line.offset), ("byte", .number line.byte.toNat), ("text", .string line.text)]

structure Summary where
  name : String
  count : Nat
  capacity : UInt64
  rule : Doubling
  error : Option DecodeError
  instructions : List Line
deriving DecidableEq, Repr

namespace Summary

def valid (s : Summary) : Bool := s.error.isNone

def toJson (s : Summary) : Json :=
  .object <|
    [("name", .string s.name), ("count", .number s.count), ("capacity", .number s.capacity.toNat),
      ("policy", s.rule.toJson), ("valid", .bool s.valid)] ++
    (s.error.map fun e => ("error", Json.string e.message)).toList ++
    [("instructions", .array (s.instructions.map Line.toJson))]

end Summary

namespace Chunk

def fault? (c : Chunk) : Option DecodeError :=
  match c.check with
  | .ok () => none
  | .error e => some e

def summary (c : Chunk) (name : String) : Summary where
  name := name
  count := c.count
  capacity := c.capacity
  rule := c.rule
  error := c.fault?
  instructions := c.lines

end Chunk

end BytecodeStore
