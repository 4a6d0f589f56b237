import BytecodeStore.Bytecode.OpCode
import BytecodeStore.Storage.Buffer

/-! # Chunks

A chunk is a buffer of code bytes under geometric growth.
-/
namespace BytecodeStore

abbrev Chunk := Buffer (Array UInt8) Doubling

namespace Chunk

def withRule (rule : Doubling) : Chunk := Buffer.withRule rule

def code (c : Chunk) : Array UInt8 := c.data

def pushOp (m : Allocator) (c : Chunk) (op : OpCode) : Outcome Chunk := c.push m op.toByte

end Chunk

end BytecodeStore
