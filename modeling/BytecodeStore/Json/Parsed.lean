import BytecodeStore.Decimal.Binary64
import BytecodeStore.Text.Parsed

/-! # Reading JSON texts from the left

Readers stop at the first fault: the text ends too early, it is no JSON, or a value is not what was asked for.
-/
namespace BytecodeStore.Json

inductive Found where
  | null
  | bool (b : Bool)
  | integer (n : Int)
  | decimal (negative : Bool) (magnitude : Binary64)
  | string (s : String)
  | sequence
  | map
deriving DecidableEq, Repr

inductive Mismatch where
  | invalidType (found : Found) (expected : String)
  | invalidValue (found : Found) (expected : String)
  | duplicateField (name : String)
deriving DecidableEq, Repr

inductive ReadError where
  | endOfText
  | malformed
  | mismatch (m : Mismatch)
deriving DecidableEq, Repr

abbrev Read (α : Type) (s : List Char) := Except ReadError (Parsed α s)

def isBlank (c : Char) : Bool := c == ' ' || c == '\n' || c == '\t' || c == '\r'

def skipBlanks (s : List Char) : List Char := s.dropWhile isBlank

theorem length_skipBlanks_le (s : List Char) : (skipBlanks s).length ≤ s.length :=
  (List.dropWhile_suffix isBlank).length_le

def readToken (s : List Char) : Read Char s :=
  match h : skipBlanks s with
  | [] => .error .endOfText
  | c :: rest => .ok ⟨c, rest, by
      have := length_skipBlanks_le s
      rw [h, List.length_cons] at this
      omega⟩

/-- Reads what is left of a word of which the first letter was seen. -/
def readWord : (word s : List Char) → Except ReadError { r : List Char // r.length ≤ s.length }
  | [], s => .ok ⟨s, Nat.le_refl _⟩
  | _ :: _, [] => .error .endOfText
  | w :: ws, c :: s =>
    if c = w then (readWord ws s).map fun r => ⟨r.1, Nat.le_succ_of_le r.2⟩ else .error .malformed

end BytecodeStore.Json
