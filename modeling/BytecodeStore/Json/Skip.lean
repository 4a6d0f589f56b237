import BytecodeStore.Json.NumberToken
import BytecodeStore.Json.StringToken

/-! # Passing over a value

A value that nobody asks for may be any JSON value of any depth. Its grammar is checked: a list has no comma
at its end, a key is a string, and a number that the end of the text cuts off is malformed.
-/
namespace BytecodeStore.Json

mutual

def skipValue (s : List Char) : Read Unit s :=
  match readToken s with
  | .error e => .error e
  | .ok ⟨c, rest, h⟩ =>
    let word (w : List Char) : Read Unit s :=
      (readWord w rest).map fun r => ⟨(), r.1, Nat.lt_of_le_of_lt r.2 h⟩
    match c with
    | 'n' => word ['u', 'l', 'l']
    | 't' => word ['r', 'u', 'e']
    | 'f' => word ['a', 'l', 's', 'e']
    | '"' => (skipString rest).map fun p => p.within (Nat.le_of_lt h)
    | '[' =>
      match readToken rest with
      | .error e => .error e
      | .ok ⟨']', r, hr⟩ => .ok ⟨(), r, Nat.lt_trans hr h⟩
      | .ok _ => (skipItems rest).map fun p => p.within (Nat.le_of_lt h)
    | '\x7b' =>
      match readToken rest with
      | .error e => .error e
      | .ok ⟨'\x7d', r, hr⟩ => .ok ⟨(), r, Nat.lt_trans hr h⟩
      | .ok _ => (skipMembers rest).map fun p => p.within (Nat.le_of_lt h)
    | '-' => (readNumber .malformed rest).map fun p => (p.map fun _ => ()).within (Nat.le_of_lt h)
    | c =>
      if c.isDigit then
        (readNumber .malformed (skipBlanks s)).map fun p => (p.map fun _ => ()).within (length_skipBlanks_le s)
      else .error .malformed
termination_by (s.length, 0)

/-- Passes over the items of a list up to its bracket. There is at least one. -/
def skipItems (s : List Char) : Read Unit s :=
  match skipValue s with
  | .error e => .error e
  | .ok ⟨(), rest, h⟩ =>
    match readToken rest with
    | .error e => .error e
    | .ok ⟨',', r, hr⟩ => (skipItems r).map fun p => p.within (Nat.le_of_lt (Nat.lt_trans hr h))
    | .ok ⟨']', r, hr⟩ => .ok ⟨(), r, Nat.lt_trans hr h⟩
    | .ok _ => .error .malformed
termination_by (s.length, 1)

/-- Passes over the members of an object up to its brace. There is at least one. -/
def skipMembers (s : List Char) : Read Unit s :=
  match readToken s with
  | .error e => .error e
  | .ok ⟨'"', keyText, hk⟩ =>
    match skipString keyText with
    | .error e => .error e
    | .ok ⟨(), afterKey, ha⟩ =>
      match readToken afterKey with
      | .error e => .error e
      | .ok ⟨':', valueText, hv⟩ =>
        match skipValue valueText with
        | .error e => .error e
        | .ok ⟨(), rest, h⟩ =>
          have hs : rest.length < s.length := by omega
          match readToken rest with
          | .error e => .error e
          | .ok ⟨',', r, hr⟩ => (skipMembers r).map fun p => p.within (by omega)
          | .ok ⟨'\x7d', r, hr⟩ => .ok ⟨(), r, by omega⟩
          | .ok _ => .error .malformed
      | .ok _ => .error .malformed
  | .ok _ => .error .malformed
termination_by (s.length, 1)

end

end BytecodeStore.Json
