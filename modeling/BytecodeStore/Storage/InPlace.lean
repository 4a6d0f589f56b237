/-! # Work in place

An append changes a buffer in place. It may fail half-way, and nobody takes back what it has done and reported by then:
whoever asked for it goes on with the buffer as it was left. So an append is a computation whose state is what it works
on, together with its reports, and its outcome tells that state in either case.
-/
namespace BytecodeStore

/-- One raise of a capacity, with the number of elements held at that moment. -/
structure Growth where
  old : UInt64
  new : UInt64
  count : Nat
deriving DecidableEq, Repr

inductive GrowthError where
  /-- The allocator refused this many slots. -/
  | allocationFailed (requested : UInt64)
  /-- The rule, or the range of counts, ends at this many elements. -/
  | capacityOverflow (count : Nat)
deriving DecidableEq, Repr

def GrowthError.message : GrowthError → String
  | .allocationFailed requested => s!"allocation failed: could not reserve {requested.toNat} slots"
  | .capacityOverflow count => s!"capacity overflow: cannot grow past {count} elements"

/-- Why an append failed, and what it had reported by then. -/
structure AppendFailure where
  error : GrowthError
  growths : Array Growth
deriving DecidableEq, Repr

/-- An append that failed, and what it left of the thing it worked on. -/
structure Abandoned (β : Type) extends AppendFailure where
  left : β

/-- Where no more of a failure is asked for, it stands for its error. -/
instance : Coe AppendFailure GrowthError := ⟨AppendFailure.error⟩

instance {β : Type} : CoeOut (Abandoned β) GrowthError := ⟨fun f => f.error⟩

/-- What an append ends with: the thing it worked on and its reports, beside the error if it failed. -/
abbrev Outcome (β : Type) := Except (Abandoned β) (β × Array Growth)

/-- A computation on a `β` in place, on top of whatever else `m` allows. -/
abbrev InPlace (m : Type → Type) (β : Type) := ExceptT GrowthError (StateT (β × Array Growth) m)

namespace InPlace
variable {m : Type → Type} [Monad m] {β : Type}

/-- What is worked on, as it is now. -/
@[inline] def now : InPlace m β β := return (← get).1

@[inline] def put (b : β) : InPlace m β Unit := modify fun s => (b, s.2)

@[inline] def report (g : Growth) : InPlace m β Unit := modify fun s => (s.1, s.2.push g)

@[inline] def outcome : Except GrowthError Unit × (β × Array Growth) → Outcome β
  | (.ok (), left) => .ok left
  | (.error e, (left, growths)) => .error ⟨⟨e, growths⟩, left⟩

/-- Carries a computation out on `b`, with nothing reported before. -/
@[inline] def on (x : InPlace m β Unit) (b : β) : m (Outcome β) := outcome <$> x.run.run (b, #[])

end InPlace

end BytecodeStore
