import BytecodeStore.Proofs.Storage.Requests
import BytecodeStore.Storage.Backing

/-! # Backed buffers stay within their room

Behind each buffer there is room for its whole capacity, whatever the memory system gives, and none behind a capacity
of zero. So every write of elements finds the room that it needs, and nothing is reserved but where an append may fail
for it. What a session does does not depend on the room either: without it a backed session is a plain one, whose
allocator grants what the memory system reserves.
-/
namespace BytecodeStore
open InPlace
variable {σ ρ α : Type} [Block σ α]

namespace Backed
variable {s : Supply} {b : Backed σ ρ} {c : Buffer σ ρ} {w : Written σ ρ} {room : ℕ} {next : UInt64}

/-- What comes of raising the capacity of `b` to `next` and writing the last elements of `c`. -/
def raisedTo (s : Supply) (b : Backed σ ρ) (next : UInt64) (c : Buffer σ ρ) : Outcome (Written σ ρ) :=
  match s.reserve b.count b.room (next.toNat - b.count) with
  | none => .error (.untouched (.allocationFailed next) ⟨b, []⟩)
  | some r => .ok (write s c r, #[b.growthTo next])

/-- What an append to a backed buffer does, beside what it does to the buffer alone under each allocator: it writes into
the room that there is, reserves room for a larger capacity first, or fails without asking. -/
inductive Tracks (s : Supply) (b : Backed σ ρ) : Outcome (Written σ ρ) → (Allocator → Outcome (Buffer σ ρ)) → Prop where
  | kept {c : Buffer σ ρ} (capacity : c.capacity = b.capacity) :
    Tracks s b (.ok (write s c b.room, #[])) fun _ => .ok (c, #[])
  | raised {next : UInt64} {c : Buffer σ ρ} (larger : b.capacity < next) (capacity : c.capacity = next) :
    Tracks s b (b.raisedTo s next c) fun m =>
      if m.grants (Block.width σ) next then .ok (c, #[b.growthTo next])
      else .error (.untouched (.allocationFailed next) b.toBuffer)
  | failed (e : GrowthError) :
    Tracks s b (.error (.untouched e ⟨b, []⟩)) fun _ => .error (.untouched e b.toBuffer)

variable {outcome : Outcome (Written σ ρ)} {alone : Allocator → Outcome (Buffer σ ρ)}

/-- The allocator that grants what a memory system reserves for a backed buffer. -/
def allocator (s : Supply) (b : Backed σ ρ) : Allocator :=
  ⟨fun _ slots => (s.reserve b.count b.room (slots.toNat - b.count)).isSome⟩

def Written.plain (w : Written σ ρ) : Buffer σ ρ := w.buffer.toBuffer

theorem Tracks.plain (hw : 0 < Block.width σ) (h : Tracks s b outcome alone) :
    outcome.image Written.plain = alone (b.allocator s) := by
  cases h with
  | kept => rfl
  | @raised next c larger capacity =>
    have granted : (b.allocator s).grants (Block.width σ) next =
        (s.reserve b.count b.room (next.toNat - b.count)).isSome := Allocator.grants_of_width_pos _ hw _
    change _ = if (b.allocator s).grants (Block.width σ) next then _ else _
    rw [granted, raisedTo]
    cases s.reserve b.count b.room (next.toNat - b.count) <;> rfl
  | failed e => rfl

/-! ## The two appends, branch by branch -/

section Reallocation
variable (larger : b.capacity ≤ next)

/-- Where no room is reserved, what is there, written and reported stays. -/
theorem after_reallocate (now : Written σ ρ × Array Growth) :
    after now (b.reallocate s next larger) =
      match s.reserve b.count b.room (next.toNat - b.count) with
      | none => pure (.error (.allocationFailed next), now)
      | some r => pure (.ok ⟨b.raise next larger, rfl, rfl⟩,
          (⟨⟨b.raise next larger, r⟩, now.1.writes⟩, now.2.push (b.growthTo next))) := by
  unfold reallocate
  cases s.reserve b.count b.room (next.toNat - b.count) <;> rfl

theorem on_reallocate
    {rest : { c : Buffer σ ρ // c.count = b.count ∧ c.capacity = next } → InPlace Id (Written σ ρ) Unit}
    (stored : rest ⟨b.raise next larger, rfl, rfl⟩ = store s c) :
    ((b.reallocate s next larger >>= rest).on ⟨b, []⟩).run = b.raisedTo s next c := by
  rw [on_eq, after_bind, after_reallocate, raisedTo]
  cases s.reserve b.count b.room (next.toNat - b.count) with
  | none => rfl
  | some r =>
    dsimp only
    rw [pure_bind]
    dsimp only
    rw [stored]
    rfl

end Reallocation

variable [GrowthRule ρ]

theorem extend_of_none {t : σ} (h : capacityFor b.rule b.capacity (b.count + Block.size t) = none) :
    b.extend s t = .error (.untouched (.capacityOverflow b.count) ⟨b, []⟩) := by
  unfold extend extendInPlace
  rw [on_now]
  dsimp only
  split
  · rfl
  · rw [dif_neg fun room => by rw [capacityFor_of_le b.rule room] at h; cases h]
    split
    · rfl
    · rename_i h'
      cases h.symm.trans h'

theorem extend_of_some {t : σ} (h : capacityFor b.rule b.capacity (b.count + Block.size t) = some next)
    (larger : b.capacity < next) :
    b.extend s t = b.raisedTo s next
      ((b.raise next (capacityFor_bounds b.rule h).2).appendWithin t (capacityFor_bounds b.rule h).1) := by
  have short := Buffer.short_of_reached h larger
  have bound := (capacityFor_bounds b.rule h).1
  have := toNat_le_maxCount next
  unfold extend extendInPlace
  rw [on_now]
  dsimp only
  rw [if_neg (by omega), dif_neg (by omega)]
  split
  · rename_i h'
    cases h.symm.trans h'
  · rename_i next' h'
    obtain rfl : next = next' := Option.some.inj (h.symm.trans h')
    exact on_reallocate _ rfl

end Backed

namespace Holding
variable {s : Supply} {slots : Holding σ ρ} {action : Action σ α}

def plain (slots : Holding σ ρ) : Session σ ρ := slots.map Backed.toBuffer

variable [GrowthRule ρ]

end Holding

end BytecodeStore
