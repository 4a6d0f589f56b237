import BytecodeStore.Storage.Buffer
import BytecodeStore.Trace.Level

/-! # Trace events

What the program reports while it works. An event has a level and a target, by which it is filtered.
-/
namespace BytecodeStore

inductive Event where
  | ruleChosen (rule : Doubling)
  | grown (growth : Growth)
  | loaded (count : Nat) (capacity : UInt64)
  | written (path : String)
deriving DecidableEq, Repr

namespace Event

def level : Event → Level
  | .ruleChosen _ => .debug
  | .grown _ => .trace
  | .loaded _ _ => .debug
  | .written _ => .info

def target : Event → String
  | .ruleChosen _ => "poke_disasm"
  | .grown _ => "poke_core::buffer"
  | .loaded _ _ => "poke_tools"
  | .written _ => "poke_disasm"

def fields : Event → List String
  | .ruleChosen _ => ["message", "policy"]
  | .grown _ => ["message", "old", "new", "count"]
  | .loaded _ _ => ["message", "count", "capacity"]
  | .written _ => ["message", "path"]

def describe : Event → String
  | .ruleChosen rule =>
    "growth policy policy=Doubling \x7b " ++ s!"minimum: {rule.minimum.toNat}, factor: {rule.factor.toNat}" ++ " \x7d"
  | .grown g => s!"grow old={g.old.toNat} new={g.new.toNat} count={g.count}"
  | .loaded count capacity => s!"chunk loaded count={count} capacity={capacity.toNat}"
  | .written path => s!"output written path={path}"

def line (e : Event) : String := s!"{e.level.label} {e.target}: {e.describe}"

end Event

end BytecodeStore
