/-! # JSON values and their texts

The values that the library writes: numbers are natural numbers, and the members of an object keep their
order. A text is compact, or broken into lines with two spaces for each level; empty lists and objects stay
closed in both. In strings the quote, the backslash and the control characters below the blank are escaped,
the ones with a short escape by it, and nothing else is.
-/
namespace BytecodeStore

inductive Json where
  | null
  | bool (b : Bool)
  | number (n : Nat)
  | string (s : String)
  | array (items : List Json)
  | object (members : List (String × Json))
deriving Repr

namespace Json

def hexDigit (n : Nat) : Char := Nat.digitChar (n % 16)

def escape (c : Char) : List Char :=
  match c with
  | '"' => ['\\', '"']
  | '\\' => ['\\', '\\']
  | '\x08' => ['\\', 'b']
  | '\x0c' => ['\\', 'f']
  | '\n' => ['\\', 'n']
  | '\r' => ['\\', 'r']
  | '\t' => ['\\', 't']
  | c => if c.toNat < 0x20 then ['\\', 'u', '0', '0', hexDigit (c.toNat / 16), hexDigit c.toNat] else [c]

def quote (s : String) : String := "\"" ++ String.ofList (s.toList.flatMap escape) ++ "\""

/-- What a text puts between its tokens. -/
structure Layout where
  /-- The text before an item of the given depth. -/
  newline : Nat → String
  /-- The text between a key and its value. -/
  colon : String

def Layout.compact : Layout := ⟨fun _ => "", ":"⟩

def Layout.pretty : Layout := ⟨fun depth => "\n" ++ String.ofList (List.replicate (2 * depth) ' '), ": "⟩

/-- Items between brackets, each on a line of its own where the layout breaks lines. -/
def enclose (layout : Layout) (depth : Nat) (opening closing : String) : List String → String
  | [] => opening ++ closing
  | first :: rest =>
    opening ++ layout.newline (depth + 1) ++ first ++
      String.join (rest.map fun item => "," ++ layout.newline (depth + 1) ++ item) ++
      layout.newline depth ++ closing

mutual

def write (layout : Layout) (depth : Nat) : Json → String
  | .null => "null"
  | .bool b => if b then "true" else "false"
  | .number n => toString n
  | .string s => quote s
  | .array items => enclose layout depth "[" "]" (writeItems layout (depth + 1) items)
  | .object members => enclose layout depth "\x7b" "\x7d" (writeMembers layout (depth + 1) members)

def writeItems (layout : Layout) (depth : Nat) : List Json → List String
  | [] => []
  | item :: rest => write layout depth item :: writeItems layout depth rest

def writeMembers (layout : Layout) (depth : Nat) : List (String × Json) → List String
  | [] => []
  | (key, value) :: rest =>
    (quote key ++ layout.colon ++ write layout depth value) :: writeMembers layout depth rest

end

def compact (j : Json) : String := j.write .compact 0

def pretty (j : Json) : String := j.write .pretty 0

end Json

end BytecodeStore
