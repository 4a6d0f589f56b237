/-! # Bytes as two hexadecimal digits -/
namespace BytecodeStore.Hex

def lower (b : UInt8) : List Char := [Nat.digitChar (b.toNat / 16), Nat.digitChar (b.toNat % 16)]

def upper (b : UInt8) : List Char := (lower b).map Char.toUpper

/-- The lower-case digits of all bytes, one after the other. -/
def encode (bytes : List UInt8) : List Char := bytes.flatMap lower

def digit? (c : Char) : Option Nat :=
  if '0' ≤ c ∧ c ≤ '9' then some (c.toNat - '0'.toNat)
  else if 'a' ≤ c ∧ c ≤ 'f' then some (c.toNat - 'a'.toNat + 10)
  else if 'A' ≤ c ∧ c ≤ 'F' then some (c.toNat - 'A'.toNat + 10)
  else none

def decode : List Char → Option (List UInt8)
  | [] => some []
  | [_] => none
  | h :: l :: rest => do
    let high ← digit? h
    let low ← digit? l
    return UInt8.ofNat (high * 16 + low) :: (← decode rest)

end BytecodeStore.Hex
