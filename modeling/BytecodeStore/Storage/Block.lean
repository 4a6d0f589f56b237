/-! # Blocks of elements

A block is the stored content of a buffer: a sequence that grows at its end. Everything that is said about a
block is said of the list `toList` of its elements. Elements of width zero take no memory, so their block is a
mere count and may hold more elements than any list that fits into memory.
-/
namespace BytecodeStore

/-- The bytes that one stored element occupies. -/
class Slot (α : Type) where
  width : Nat

instance : Slot UInt8 := ⟨1⟩
instance : Slot UInt32 := ⟨4⟩
instance : Slot UInt64 := ⟨8⟩
instance : Slot String := ⟨24⟩
instance {α : Type} : Slot (List α) := ⟨24⟩
instance : Slot Unit := ⟨0⟩

class Block (σ : Type) (α : outParam Type) where
  width : Nat
  empty : σ
  size : σ → Nat
  push : σ → α → σ
  append : σ → σ → σ
  get? : σ → Nat → Option α
  toList : σ → List α
  length_toList : ∀ s, (toList s).length = size s
  toList_empty : toList empty = []
  toList_push : ∀ s a, toList (push s a) = toList s ++ [a]
  toList_append : ∀ s t, toList (append s t) = toList s ++ toList t
  get?_eq : ∀ s i, get? s i = (toList s)[i]?
  toList_inj : ∀ s t, toList s = toList t → s = t

namespace Block
variable {σ α : Type} [Block σ α]

@[simp] theorem size_empty : size (empty : σ) = 0 := by
  rw [← length_toList, toList_empty, List.length_nil]

@[simp] theorem size_push (s : σ) (a : α) : size (push s a) = size s + 1 := by
  rw [← length_toList, toList_push, List.length_append, length_toList, List.length_singleton]

@[simp] theorem size_append (s t : σ) : size (append s t) = size s + size t := by
  rw [← length_toList, toList_append, List.length_append, length_toList, length_toList]

end Block

instance {α : Type} [Slot α] : Block (Array α) α where
  width := Slot.width α
  empty := #[]
  size := Array.size
  push := Array.push
  append := Array.append
  get? s i := s[i]?
  toList := Array.toList
  length_toList _ := Array.length_toList
  toList_empty := rfl
  toList_push _ _ := Array.toList_push
  toList_append _ _ := Array.toList_append
  get?_eq _ _ := Array.getElem?_toList.symm
  toList_inj _ _ := Array.toList_inj.mp

/-- A block of unit elements, known by their number alone. -/
structure Units where
  count : Nat
deriving DecidableEq, Repr

instance : Block Units Unit where
  width := Slot.width Unit
  empty := ⟨0⟩
  size := Units.count
  push s _ := ⟨s.count + 1⟩
  append s t := ⟨s.count + t.count⟩
  get? s i := if i < s.count then some () else none
  toList s := List.replicate s.count ()
  length_toList _ := List.length_replicate
  toList_empty := rfl
  toList_push s a := List.replicate_succ'
  toList_append s t := List.replicate_append_replicate.symm
  get?_eq s i := by simp [List.getElem?_replicate]
  toList_inj s t h := by
    have := congrArg List.length h
    simp only [List.length_replicate] at this
    cases s; cases t; simp_all

end BytecodeStore
