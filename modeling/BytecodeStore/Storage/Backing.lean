import BytecodeStore.Storage.Session

/-! # Backed buffers

The capacity of a buffer is what its rule chose. The memory behind it has a size of its own, its room, which may be
larger, as it is up to the memory system how much it gives. A backed buffer keeps both. Room is asked for in one place,
and the request can be refused; a write of elements that finds too little room would make the memory system provide
more by itself, with nobody to refuse to. Every write is therefore recorded with the room that it found. All of this is
about elements that have a width: those without take no room at all.
-/
namespace BytecodeStore
open InPlace

/-- A write of elements behind those that are there: the length that it leads to, and the room that it finds. -/
structure Write where
  length : Nat
  room : Nat
deriving DecidableEq, Repr

/-- What a memory system gives. It may give more than it is asked for, and it refuses nothing but reservations. -/
structure Supply where
  /-- New room for so many elements; for none there is no room. -/
  fresh : (slots : Nat) → { r : Nat // slots ≤ r ∧ (slots = 0 → r = 0) }
  /-- Room for `more` elements behind `length` of them, or a refusal. -/
  reserve : (length room more : Nat) → Option { r : Nat // length + more ≤ r }
  /-- Room for a write that does not find enough. -/
  provide : (w : Write) → { r : Nat // w.length ≤ r }

namespace Supply

/-- The room after a write. -/
def roomAfter (s : Supply) (w : Write) : Nat := if w.length ≤ w.room then w.room else s.provide w

/-- Gives so much more than it is asked for, and never refuses. -/
def padded (extra : Nat) : Supply where
  fresh slots := ⟨if slots = 0 then 0 else slots + extra, by split <;> omega⟩
  reserve length _ more := some ⟨length + more + extra, Nat.le_add_right _ _⟩
  provide w := ⟨w.length + extra, Nat.le_add_right _ _⟩

end Supply

/-- A buffer and the room that its elements have. -/
structure Backed (σ ρ : Type) {α : Type} [Block σ α] extends Buffer σ ρ where
  room : Nat

namespace Backed
variable {σ ρ α : Type} [Block σ α]

/-- A backed buffer, with the writes that an append or a copy has made of its elements. -/
structure Written (σ ρ : Type) {α : Type} [Block σ α] where
  buffer : Backed σ ρ
  writes : List Write

def withRule (rule : ρ) : Backed σ ρ := ⟨Buffer.withRule rule, 0⟩

/-- Writes the last elements of `b` into `room`, where the others are already. -/
def write (s : Supply) (b : Buffer σ ρ) (room : Nat) : Written σ ρ :=
  let w : Write := ⟨b.count, room⟩
  ⟨⟨b, s.roomAfter w⟩, [w]⟩

def free (b : Backed σ ρ) : Backed σ ρ := withRule b.rule

/-- Takes new room for the whole capacity and writes all elements into it. -/
def clone (s : Supply) (b : Backed σ ρ) : Written σ ρ := write s b.toBuffer (s.fresh b.capacity.toNat)

/-- Writes the last elements of `c` into the room that there is. -/
def store (s : Supply) (c : Buffer σ ρ) : InPlace Id (Written σ ρ) Unit := do
  let w ← now
  let stored := write s c w.buffer.room
  put ⟨stored.buffer, w.writes ++ stored.writes⟩

/-- Reserves room for a capacity of `next`, counted from the elements that are there. -/
def reallocate (s : Supply) (b : Backed σ ρ) (next : UInt64) (larger : b.capacity ≤ next) :
    InPlace Id (Written σ ρ) { c : Buffer σ ρ // c.count = b.count ∧ c.capacity = next } := do
  match s.reserve b.count b.room (next.toNat - b.count) with
  | none => throw (.allocationFailed next)
  | some r =>
    report (b.growthTo next)
    let c := b.raise next larger
    put ⟨⟨c, r⟩, (← now).writes⟩
    return ⟨c, rfl, rfl⟩

variable [GrowthRule ρ]

def pushInPlace (s : Supply) (a : α) : InPlace Id (Written σ ρ) Unit := do
  let b := (← now).buffer
  if room : b.count < b.capacity.toNat then store s (b.pushWithin a room)
  else
    let next := GrowthRule.after b.rule b.capacity
    if grows : b.capacity < next then
      have held := b.count_le_capacity
      have larger := UInt64.lt_iff_toNat_lt.mp grows
      let c ← b.reallocate s next (UInt64.le_of_lt grows)
      store s (c.val.pushWithin a (by rw [c.property.1, c.property.2]; omega))
    else throw (.capacityOverflow b.count)

def extendInPlace (s : Supply) (t : σ) : InPlace Id (Written σ ρ) Unit := do
  let b := (← now).buffer
  if b.count + Block.size t > maxCount then throw (.capacityOverflow b.count)
  else if room : b.count + Block.size t ≤ b.capacity.toNat then store s (b.appendWithin t room)
  else
    match h : capacityFor b.rule b.capacity (b.count + Block.size t) with
    | none => throw (.capacityOverflow b.count)
    | some next =>
      have bounds := capacityFor_bounds b.rule h
      let c ← b.reallocate s next bounds.2
      store s (c.val.appendWithin t (by rw [c.property.1, c.property.2]; exact bounds.1))

def push (s : Supply) (b : Backed σ ρ) (a : α) : Outcome (Written σ ρ) := ((pushInPlace s a).on ⟨b, []⟩).run

def extend (s : Supply) (b : Backed σ ρ) (t : σ) : Outcome (Written σ ρ) := ((extendInPlace s t).on ⟨b, []⟩).run

end Backed

/-- Numbered backed buffers, of which one is changed at a time. -/
abbrev Holding (σ ρ : Type) {α : Type} [Block σ α] := List (Backed σ ρ)

namespace Holding
variable {σ ρ α : Type} [Block σ α] [GrowthRule ρ]

structure Stepped (σ ρ : Type) {α : Type} [Block σ α] where
  slots : Holding σ ρ
  result : StepResult
  writes : List Write

def settle (slots : Holding σ ρ) (slot : Nat) : Outcome (Backed.Written σ ρ) → Stepped σ ρ
  | .ok (w, growths) => ⟨slots.set slot w.buffer, .done growths, w.writes⟩
  | .error f => ⟨slots.set slot f.left.buffer, .failed f.toAppendFailure, f.left.writes⟩

def stepOn (s : Supply) (slots : Holding σ ρ) (b : Backed σ ρ) : Action σ α → Stepped σ ρ
  | .push slot a => settle slots slot (b.push s a)
  | .extend slot t => settle slots slot (b.extend s t)
  | .free slot => ⟨slots.set slot b.free, .done #[], []⟩
  | .clone _ => ⟨slots ++ [(b.clone s).buffer], .cloned slots.length, (b.clone s).writes⟩

def step (s : Supply) (slots : Holding σ ρ) (action : Action σ α) : Stepped σ ρ :=
  match slots[action.slot]? with
  | none => ⟨slots, .noSlot, []⟩
  | some b => stepOn s slots b action

structure Course (σ ρ : Type) {α : Type} [Block σ α] where
  slots : Holding σ ρ
  results : List StepResult
  writes : List Write

/-- Runs actions in order. Every step may meet a memory system in a different mood. -/
def run (slots : Holding σ ρ) : List (Supply × Action σ α) → Course σ ρ
  | [] => ⟨slots, [], []⟩
  | (s, action) :: rest =>
    let first := step s slots action
    let last := run first.slots rest
    ⟨last.slots, first.result :: last.results, first.writes ++ last.writes⟩

def start (rules : List ρ) : Holding σ ρ := rules.map Backed.withRule

end Holding

end BytecodeStore
