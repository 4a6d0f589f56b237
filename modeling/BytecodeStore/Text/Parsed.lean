/-! # What a reader leaves of a text

What is left of a text comes with a proof that it is shorter, so that readers can call each other.
-/
namespace BytecodeStore

/-- A value read from the front of `s`, and what is left of `s`. -/
structure Parsed (α : Type) (s : List Char) where
  value : α
  rest : List Char
  shorter : rest.length < s.length

namespace Parsed
variable {α β : Type} {r s : List Char} {c : Char}

/-- A value read from the first character alone. -/
def first (value : α) : Parsed α (c :: s) := ⟨value, s, Nat.lt_succ_self _⟩

/-- The same value as read from a text that goes further back. -/
def within (p : Parsed α r) (h : r.length ≤ s.length) : Parsed α s :=
  ⟨p.value, p.rest, Nat.lt_of_lt_of_le p.shorter h⟩

/-- The same value as read from a text with one more character before it. -/
def behind (p : Parsed α s) : Parsed α (c :: s) := p.within (Nat.le_succ _)

def map (f : α → β) (p : Parsed α s) : Parsed β s := ⟨f p.value, p.rest, p.shorter⟩

end Parsed

end BytecodeStore
