/-! # Allocators

An allocator decides, from the width of an element and the number of slots, whether a reservation is granted.
Elements without width need no memory and are never refused.
-/
namespace BytecodeStore

structure Allocator where
  accepts : (width : Nat) → (slots : UInt64) → Bool

namespace Allocator

def grants (m : Allocator) (width : Nat) (slots : UInt64) : Bool := width == 0 || m.accepts width slots

/-- The bytes that the 47-bit addresses of a process can name. -/
def addressableBytes : Nat := 0x800000000000

/-- A reservation has to lie inside the address space. -/
def addressSpace : Allocator := ⟨fun width slots => width * slots.toNat < addressableBytes⟩

theorem grants_of_width_zero (m : Allocator) (slots : UInt64) : m.grants 0 slots = true := rfl

theorem grants_of_width_pos (m : Allocator) {width : Nat} (h : 0 < width) (slots : UInt64) :
    m.grants width slots = m.accepts width slots := by
  simp [grants, Nat.ne_of_gt h]

end Allocator

end BytecodeStore
