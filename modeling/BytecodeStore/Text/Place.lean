/-! # Places in a text

A place is known by the number of encoded bytes before it. Texts are cut at places, and only between characters.
-/
namespace BytecodeStore

structure Place where
  bytes : Nat := 0
  rest : List Char

def byteCount (text : List Char) : Nat := text.foldl (fun n c => n + c.utf8Size) 0

namespace Place

def next (p : Place) : Place := ⟨p.bytes + byteCount (p.rest.take 1), p.rest.drop 1⟩

/-- The first place from here on at which `stop` holds of the next character, or the end. -/
def upTo (p : Place) (stop : Char → Bool) : Place :=
  ⟨p.bytes + byteCount (p.rest.takeWhile fun c => !stop c), p.rest.dropWhile fun c => !stop c⟩

end Place

def dropBytes? (n : Nat) : List Char → Option (List Char)
  | [] => if n = 0 then some [] else none
  | c :: rest => if n = 0 then some (c :: rest) else if c.utf8Size ≤ n then dropBytes? (n - c.utf8Size) rest else none

def takeBytes? (n : Nat) : List Char → Option (List Char)
  | [] => if n = 0 then some [] else none
  | c :: rest =>
    if n = 0 then some []
    else if c.utf8Size ≤ n then (takeBytes? (n - c.utf8Size) rest).map (c :: ·) else none

/-- The piece of a text from one number of bytes to another. -/
def cut? (text : List Char) (first last : Nat) : Option (List Char) :=
  (dropBytes? first text).bind (takeBytes? (last - first))

end BytecodeStore
