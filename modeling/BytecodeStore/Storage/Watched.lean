import BytecodeStore.Storage.Session

/-! # Watched buffers

A bare buffer is what is kept of a buffer: data, a capacity and a rule, without the promise that they fit each other.
Its operations are carried out as a machine does that watches itself. Every sum and every difference is one of 64-bit
words and traps where it leaves their range, and so does every check that an operation makes of its own state, where it
does not hold. A trap is no answer: a run that traps has neither a result nor a state.
-/
namespace BytecodeStore

inductive Trap where
  /-- A sum of words is no word. -/
  | overflow
  /-- A difference of words is no word. -/
  | underflow
  /-- A check does not hold. -/
  | broken
deriving DecidableEq, Repr

/-- What may trap, and may otherwise fail with an error of its own. -/
abbrev Watched (ε : Type) := ExceptT ε (Except Trap)

namespace Watched

def add (a b : Nat) : Except Trap { n : Nat // n = a + b } :=
  if a + b ≤ maxCount then .ok ⟨a + b, rfl⟩ else .error .overflow

def sub (a b : Nat) : Except Trap Nat := if b ≤ a then .ok (a - b) else .error .underflow

def check (holds : Bool) : Except Trap Unit := if holds then .ok () else .error .broken

end Watched

open Watched InPlace

structure Bare (σ ρ : Type) {α : Type} [Block σ α] where
  data : σ
  capacity : UInt64
  rule : ρ

namespace Bare
variable {σ ρ α : Type} [Block σ α]

def withRule (rule : ρ) : Bare σ ρ := ⟨Block.empty, 0, rule⟩

def count (b : Bare σ ρ) : Nat := Block.size b.data

def free (b : Bare σ ρ) : Bare σ ρ := withRule b.rule

def fits (b : Bare σ ρ) : Bool := b.count ≤ b.capacity.toNat

/-- Reserves slots for a larger capacity, counted from the elements that are there. -/
def reallocate (m : Allocator) (next : UInt64) : InPlace (Except Trap) (Bare σ ρ) Unit := do
  let b ← now
  check (b.capacity < next)
  let additional ← sub next.toNat b.count
  if m.grants (Block.width σ) (.ofNat (b.count + additional)) then
    report ⟨b.capacity, next, b.count⟩
    put { b with capacity := next }
  else throw (.allocationFailed next)

/-- Makes sure of a capacity. Where it is not there yet, it is raised to `next`, if the rule has come to one. -/
def reserve (m : Allocator) (required : Nat) (next : Option UInt64) : InPlace (Except Trap) (Bare σ ρ) Unit := do
  let b ← now
  if b.capacity.toNat < required then
    match next with
    | none => throw (.capacityOverflow b.count)
    | some next => reallocate m next

def store (add : σ → σ) : InPlace (Except Trap) (Bare σ ρ) Unit := do
  let b ← now
  let c : Bare σ ρ := { b with data := add b.data }
  put c
  check c.fits

variable [GrowthRule ρ]

/-- The capacity after the present one, unless it is no larger. -/
def next? (b : Bare σ ρ) : Option UInt64 :=
  let next := GrowthRule.after b.rule b.capacity
  if next ≤ b.capacity then none else some next

def pushInPlace (m : Allocator) (a : α) : InPlace (Except Trap) (Bare σ ρ) Unit := do
  let b ← now
  let required ← add b.count 1
  reserve m required b.next?
  store (Block.push · a)

def extendInPlace (m : Allocator) (s : σ) : InPlace (Except Trap) (Bare σ ρ) Unit := do
  let b ← now
  let required := b.count + Block.size s
  if maxCount < required then throw (.capacityOverflow b.count)
  else
    reserve m required (capacityFor b.rule b.capacity required)
    store (Block.append · s)

def push (m : Allocator) (b : Bare σ ρ) (a : α) : Except Trap (Outcome (Bare σ ρ)) := (pushInPlace m a).on b

def extend (m : Allocator) (b : Bare σ ρ) (s : σ) : Except Trap (Outcome (Bare σ ρ)) := (extendInPlace m s).on b

end Bare

/-- Numbered bare buffers, of which one is changed at a time. -/
abbrev BareSession (σ ρ : Type) {α : Type} [Block σ α] := List (Bare σ ρ)

namespace BareSession
variable {σ ρ α : Type} [Block σ α] [GrowthRule ρ]

def settle (slots : BareSession σ ρ) (slot : Nat) : Outcome (Bare σ ρ) → BareSession σ ρ × StepResult
  | .ok (b, growths) => (slots.set slot b, .done growths)
  | .error f => (slots.set slot f.left, .failed f.toAppendFailure)

def stepOn (m : Allocator) (slots : BareSession σ ρ) (b : Bare σ ρ) :
    Action σ α → Except Trap (BareSession σ ρ × StepResult)
  | .push slot a => (b.push m a).map (settle slots slot)
  | .extend slot s => (b.extend m s).map (settle slots slot)
  | .free slot => .ok (slots.set slot b.free, .done #[])
  | .clone _ => .ok (slots ++ [b], .cloned slots.length)

def step (m : Allocator) (slots : BareSession σ ρ) (action : Action σ α) :
    Except Trap (BareSession σ ρ × StepResult) :=
  match slots[action.slot]? with
  | none => .ok (slots, .noSlot)
  | some b => stepOn m slots b action

def run (slots : BareSession σ ρ) : List (Allocator × Action σ α) → Except Trap (BareSession σ ρ × List StepResult)
  | [] => .ok (slots, [])
  | (m, action) :: rest => do
    let (next, result) ← step m slots action
    let (last, results) ← run next rest
    return (last, result :: results)

def start (rules : List ρ) : BareSession σ ρ := rules.map Bare.withRule

end BareSession

end BytecodeStore
