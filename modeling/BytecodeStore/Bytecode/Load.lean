import BytecodeStore.Bytecode.Chunk
import BytecodeStore.Trace.Event

/-! # Loading

Bytes are loaded into a new chunk one at a time, so that every growth goes through the rule and shows in the
trace. The events of a load that fails are those up to the byte that could not be written.
-/
namespace BytecodeStore

/-- The byte that could not be written, and why. -/
structure LoadError where
  offset : Nat
  cause : GrowthError
deriving DecidableEq, Repr

/-- What was being done, and then what went wrong. -/
def LoadError.chain (e : LoadError) : List String := [s!"écriture de l’octet {e.offset}", e.cause.message]

namespace Chunk

/-- Writes bytes behind those that the chunk holds, and adds the growths to those reported so far. -/
def loadFrom (m : Allocator) (c : Chunk) (growths : List Growth) :
    List UInt8 → List Growth × Except LoadError Chunk
  | [] => (growths, .ok c)
  | byte :: rest =>
    let offset := c.count
    match c.push m byte with
    | .error f => (growths ++ f.growths.toList, .error ⟨offset, f⟩)
    | .ok (next, new) => loadFrom m next (growths ++ new.toList) rest

def load (m : Allocator) (rule : Doubling) (bytes : Array UInt8) : List Event × Except LoadError Chunk :=
  match loadFrom m (withRule rule) [] bytes.toList with
  | (growths, .error e) => (growths.map .grown, .error e)
  | (growths, .ok c) => (growths.map .grown ++ [.loaded c.count c.capacity], .ok c)

/-- A chunk with a single return. -/
def demo (m : Allocator) (rule : Doubling) : List Event × Except GrowthError Chunk :=
  match (withRule rule).pushOp m .ret with
  | .error f => (f.growths.toList.map .grown, .error f)
  | .ok (c, growths) => (growths.toList.map .grown, .ok c)

end Chunk

end BytecodeStore
