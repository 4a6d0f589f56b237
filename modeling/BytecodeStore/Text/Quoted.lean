import BytecodeStore.Text.Printable

/-! # Quoted texts in messages

A text that a message quotes stands between double quotes. Quotes, backslashes and characters that would not be
seen are escaped, the latter by their code point unless they have a short escape.
-/
namespace BytecodeStore.Quoted

def encodeChar (c : Char) : List Char :=
  match c with
  | '"' => ['\\', '"']
  | '\\' => ['\\', '\\']
  | '\n' => ['\\', 'n']
  | '\r' => ['\\', 'r']
  | '\t' => ['\\', 't']
  | '\x00' => ['\\', '0']
  | c =>
    if Printable.isPrintable c then [c]
    else ['\\', 'u', '\x7b'] ++ Nat.toDigits 16 c.toNat ++ ['\x7d']

def encode (s : String) : String := "\"" ++ String.ofList (s.toList.flatMap encodeChar) ++ "\""

end BytecodeStore.Quoted
