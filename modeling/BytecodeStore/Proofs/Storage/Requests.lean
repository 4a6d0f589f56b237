import BytecodeStore.Proofs.Storage.Run

/-! # What a session asks of its allocators

An append asks for a reservation exactly where the rule leads to a larger capacity, and asks for that capacity. So the
requests of a step depend on its buffer alone, and two allocators make a difference only where one refuses what the
other grants: as long as they refuse at the same steps, two runs of the same actions are one.
-/
namespace BytecodeStore
variable {σ ρ α : Type} [Block σ α] [GrowthRule ρ]

/-- The capacities that a step asked for, in order: those that were granted, and the one that was refused. -/
def StepResult.asked : StepResult → List UInt64
  | .done growths => growths.toList.map Growth.new
  | .failed ⟨.allocationFailed requested, growths⟩ => growths.toList.map Growth.new ++ [requested]
  | .failed ⟨.capacityOverflow _, growths⟩ => growths.toList.map Growth.new
  | .cloned _ | .noSlot => []

/-- An allocator refused the step. -/
def StepResult.refused : StepResult → Bool
  | .failed ⟨.allocationFailed _, _⟩ => true
  | .failed ⟨.capacityOverflow _, _⟩ | .done _ | .cloned _ | .noSlot => false

namespace Buffer
variable {m m' : Allocator} {b c : Buffer σ ρ} {values : List α} {growths : Array Growth} {k : ℕ} {e : GrowthError}

end Buffer

namespace Session
variable {m m' : Allocator} {slots next next' : Session σ ρ} {b : Buffer σ ρ} {action : Action σ α}
variable {result result' : StepResult} {values : List α}

end Session

end BytecodeStore
