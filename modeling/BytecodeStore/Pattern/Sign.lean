import BytecodeStore.Pattern.Mode
import BytecodeStore.Text.Hex

/-! # Signs of a pattern

A sign is a character, or what a backslash makes of the characters behind it. The families of characters that are
named by a letter, and the boundaries of words, are known for bytes only, as is the change between two cases; and
a pattern of bytes may not match a piece of an encoded character.
-/
namespace BytecodeStore.Pattern

inductive Sign where
  /-- A character, and whether it was written as the two digits of a byte. -/
  | character (c : Char) (byte : Bool)
  /-- A begin or an end of a word, or where there is none. -/
  | boundary
  /-- The begin or the end of the text. -/
  | anchor
  /-- All digits, spaces or word characters, or all but these. -/
  | family (negated : Bool)
deriving DecidableEq, Repr

namespace Sign

/-- Whether a sign may stand on its own. -/
def isAllowed (m : Mode) : Sign → Bool
  | .character c byte => if m.unicode then !m.caseless else !(byte && 0x80 ≤ c.toNat)
  | .boundary => !m.unicode
  | .anchor => true
  | .family negated => !m.unicode && !negated

/-- Whether a sign may stand in a set. -/
def isAllowedInSet (m : Mode) : Sign → Bool
  | .character c _ => if m.unicode then !m.caseless else c.toNat < 0x80
  | .family negated => !m.unicode && !negated
  | .boundary | .anchor => false

end Sign

/-- How many hexadecimal digits follow a letter. -/
def hexDigits? : Char → Option Nat
  | 'x' => some 2
  | 'u' => some 4
  | 'U' => some 8
  | _ => none

/-- Reads a fixed number of hexadecimal digits, and continues the value of those before them. -/
def readHex (m : Mode) (value : Nat) : (digits : Nat) → (s : List Char) → Option (Parsed Nat s)
  | 0, _ => none
  | digits + 1, s =>
    match h : m.skip s with
    | [] => none
    | c :: rest =>
      match Hex.digit? c with
      | none => none
      | some d =>
        let value := value * 16 + d
        if digits = 0 then some ⟨value, rest, Mode.length_lt_of_skip h⟩
        else (readHex m value digits rest).map fun p => p.within (Nat.le_of_lt (Mode.length_lt_of_skip h))

/-- What a single character behind a backslash stands for. -/
def signOf? (c : Char) : Option Sign :=
  match c with
  | 'a' => some (.character '\x07' false)
  | 'f' => some (.character '\x0c' false)
  | 't' => some (.character '\t' false)
  | 'n' => some (.character '\n' false)
  | 'r' => some (.character '\r' false)
  | 'v' => some (.character '\x0b' false)
  | 'A' | 'z' => some .anchor
  | 'b' | 'B' | '<' | '>' => some .boundary
  | 'd' | 's' | 'w' => some (.family false)
  | 'D' | 'S' | 'W' => some (.family true)
  | c => if c.toNat < 0x80 && !c.isAlphanum then some (.character c false) else none

/-- Reads what stands behind a backslash. -/
def readEscape (m : Mode) : (s : List Char) → Option (Parsed Sign s)
  | [] => none
  | c :: rest =>
    match hexDigits? c with
    | some digits =>
      (readHex m 0 digits rest).bind fun p =>
        if p.value.isValidChar then
          some (p.map fun n => Sign.character (Char.ofNat n) (digits == 2)).behind
        else none
    | none => (signOf? c).map fun sign => .first sign

end BytecodeStore.Pattern
