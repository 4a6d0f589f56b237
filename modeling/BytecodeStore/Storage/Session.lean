import BytecodeStore.Storage.Buffer

/-! # Sessions

A session holds numbered buffers and changes one of them at a time. A step says what it did and reported. An append
leaves its slot as it left the buffer, whether it failed or not; a step that names a slot which does not exist does
nothing. A copy is a new slot, and slots share nothing.
-/
namespace BytecodeStore

inductive Action (σ α : Type) where
  | push (slot : Nat) (a : α)
  | extend (slot : Nat) (s : σ)
  | free (slot : Nat)
  | clone (slot : Nat)
deriving Repr

inductive StepResult where
  | done (growths : Array Growth)
  | cloned (slot : Nat)
  | failed (failure : AppendFailure)
  | noSlot
deriving DecidableEq, Repr

abbrev Session (σ ρ : Type) {α : Type} [Block σ α] := List (Buffer σ ρ)

namespace Session
variable {σ ρ α : Type} [Block σ α] [GrowthRule ρ]

def settle (slots : Session σ ρ) (slot : Nat) : Outcome (Buffer σ ρ) → Session σ ρ × StepResult
  | .ok (b, growths) => (slots.set slot b, .done growths)
  | .error f => (slots.set slot f.left, .failed f.toAppendFailure)

def stepOn (m : Allocator) (slots : Session σ ρ) (b : Buffer σ ρ) : Action σ α → Session σ ρ × StepResult
  | .push slot a => settle slots slot (b.push m a)
  | .extend slot s => settle slots slot (b.extend m s)
  | .free slot => (slots.set slot b.free, .done #[])
  | .clone _ => (slots ++ [b], .cloned slots.length)

end Session

def Action.slot {σ α : Type} : Action σ α → Nat
  | .push slot _ | .extend slot _ | .free slot | .clone slot => slot

namespace Session
variable {σ ρ α : Type} [Block σ α] [GrowthRule ρ]

def step (m : Allocator) (slots : Session σ ρ) (action : Action σ α) : Session σ ρ × StepResult :=
  match slots[action.slot]? with
  | none => (slots, .noSlot)
  | some b => stepOn m slots b action

/-- Runs actions in order. Every step may meet an allocator in a different mood. -/
def run (slots : Session σ ρ) : List (Allocator × Action σ α) → Session σ ρ × List StepResult
  | [] => (slots, [])
  | (m, action) :: rest =>
    let (next, result) := step m slots action
    let (last, results) := run next rest
    (last, result :: results)

end Session

end BytecodeStore
