import BytecodeStore.Growth.Reach
import BytecodeStore.Storage.Allocator
import BytecodeStore.Storage.Block
import BytecodeStore.Storage.InPlace

/-! # Buffers

A buffer keeps two numbers apart: how many elements it holds, and the capacity that its growth rule chose.
The capacity is never what an allocator rounded up to, so growth is deterministic and can be watched: an
append that raises the capacity reports one `Growth`. Appends work in place, and leave a buffer and reports
also where they fail.
-/
namespace BytecodeStore
open InPlace

structure Buffer (σ ρ : Type) {α : Type} [Block σ α] where
  data : σ
  capacity : UInt64
  rule : ρ
  fits : Block.size data ≤ capacity.toNat

namespace Buffer
variable {σ ρ α : Type} [Block σ α]

/-- Buffers are compared by content, capacity and rule. -/
instance [DecidableEq σ] [DecidableEq ρ] : DecidableEq (Buffer σ ρ) := fun b c =>
  decidable_of_iff (b.data = c.data ∧ b.capacity = c.capacity ∧ b.rule = c.rule) <| by
    cases b; cases c
    simp

/-- The empty buffer, which has nothing reserved. -/
def withRule (rule : ρ) : Buffer σ ρ := ⟨Block.empty, 0, rule, by simp⟩

def new : Buffer σ Doubling := withRule .standard

def count (b : Buffer σ ρ) : Nat := Block.size b.data

def isEmpty (b : Buffer σ ρ) : Bool := b.count == 0

def toList (b : Buffer σ ρ) : List α := Block.toList b.data

def get? (b : Buffer σ ρ) (i : Nat) : Option α := Block.get? b.data i

/-- Gives the elements and the reservation back. -/
def free (b : Buffer σ ρ) : Buffer σ ρ := withRule b.rule

theorem count_le_capacity (b : Buffer σ ρ) : b.count ≤ b.capacity.toNat := b.fits

theorem count_le_maxCount (b : Buffer σ ρ) : b.count ≤ maxCount :=
  Nat.le_trans b.fits (toNat_le_maxCount b.capacity)

theorem length_toList (b : Buffer σ ρ) : b.toList.length = b.count := Block.length_toList b.data

theorem get?_eq (b : Buffer σ ρ) (i : Nat) : b.get? i = b.toList[i]? := Block.get?_eq b.data i

def raise (b : Buffer σ ρ) (next : UInt64) (h : b.capacity ≤ next) : Buffer σ ρ :=
  ⟨b.data, next, b.rule, Nat.le_trans b.fits (UInt64.le_iff_toNat_le.mp h)⟩

def growthTo (b : Buffer σ ρ) (next : UInt64) : Growth := ⟨b.capacity, next, b.count⟩

def pushWithin (b : Buffer σ ρ) (a : α) (h : b.count < b.capacity.toNat) : Buffer σ ρ :=
  ⟨Block.push b.data a, b.capacity, b.rule, by rw [Block.size_push]; exact h⟩

def appendWithin (b : Buffer σ ρ) (s : σ) (h : b.count + Block.size s ≤ b.capacity.toNat) : Buffer σ ρ :=
  ⟨Block.append b.data s, b.capacity, b.rule, by rw [Block.size_append]; exact h⟩

@[simp] theorem toList_withRule (rule : ρ) : (withRule rule : Buffer σ ρ).toList = [] := Block.toList_empty

@[simp] theorem toList_pushWithin (b : Buffer σ ρ) (a : α) (h : b.count < b.capacity.toNat) :
    (b.pushWithin a h).toList = b.toList ++ [a] := Block.toList_push b.data a

@[simp] theorem toList_appendWithin (b : Buffer σ ρ) (s : σ) (h : b.count + Block.size s ≤ b.capacity.toNat) :
    (b.appendWithin s h).toList = b.toList ++ Block.toList s := Block.toList_append b.data s

/-- A buffer is its elements, its capacity and its rule. -/
theorem ext_toList {b c : Buffer σ ρ} (hd : b.toList = c.toList) (hc : b.capacity = c.capacity)
    (hr : b.rule = c.rule) : b = c := by
  cases b; cases c
  obtain rfl := Block.toList_inj _ _ hd
  cases hc; cases hr
  rfl

/-- Swaps the storage for one with the slots of a larger capacity, and gives the buffer that is in place then. -/
@[inline] def reallocate (m : Allocator) (b : Buffer σ ρ) (next : UInt64) (larger : b.capacity ≤ next) :
    InPlace Id (Buffer σ ρ) { c : Buffer σ ρ // c.count = b.count ∧ c.capacity = next } := do
  if m.grants (Block.width σ) next then
    report (b.growthTo next)
    let c := b.raise next larger
    put c
    return ⟨c, rfl, rfl⟩
  else throw (.allocationFailed next)

variable [GrowthRule ρ]

/-- Adds one element. A full buffer first takes one step of its rule, which has to increase the capacity. -/
@[inline] def pushInPlace (m : Allocator) (a : α) : InPlace Id (Buffer σ ρ) Unit := do
  let b ← now
  if room : b.count < b.capacity.toNat then put (b.pushWithin a room)
  else
    let next := GrowthRule.after b.rule b.capacity
    if grows : b.capacity < next then
      have held := b.count_le_capacity
      have larger := UInt64.lt_iff_toNat_lt.mp grows
      let c ← b.reallocate m next (UInt64.le_of_lt grows)
      put (c.val.pushWithin a (by rw [c.property.1, c.property.2]; omega))
    else throw (.capacityOverflow b.count)

/-- Adds a block of elements and grows at most once: to the first capacity on the rule's way that holds them all. -/
@[inline] def extendInPlace (m : Allocator) (s : σ) : InPlace Id (Buffer σ ρ) Unit := do
  let b ← now
  if b.count + Block.size s > maxCount then throw (.capacityOverflow b.count)
  else if room : b.count + Block.size s ≤ b.capacity.toNat then put (b.appendWithin s room)
  else
    match h : capacityFor b.rule b.capacity (b.count + Block.size s) with
    | none => throw (.capacityOverflow b.count)
    | some next =>
      have bounds := capacityFor_bounds b.rule h
      let c ← b.reallocate m next bounds.2
      put (c.val.appendWithin s (by rw [c.property.1, c.property.2]; exact bounds.1))

def push (m : Allocator) (b : Buffer σ ρ) (a : α) : Outcome (Buffer σ ρ) := ((pushInPlace m a).on b).run

def extend (m : Allocator) (b : Buffer σ ρ) (s : σ) : Outcome (Buffer σ ρ) := ((extendInPlace m s).on b).run

end Buffer

end BytecodeStore
