import BytecodeStore.Growth.Rule

/-! # Decimal numerals

Numbers are written with their digits alone. They are read with one optional `+` and leading zeros, and must
fit a 64-bit word; the first character that breaks a rule decides what is reported.
-/
namespace BytecodeStore.Numeral

inductive Fault where
  | empty
  | invalidDigit
  | tooLarge
deriving DecidableEq, Repr

def Fault.message : Fault → String
  | .empty => "cannot parse integer from empty string"
  | .invalidDigit => "invalid digit found in string"
  | .tooLarge => "number too large to fit in target type"

def digit? (c : Char) : Option Nat := if c.isDigit then some (c.toNat - '0'.toNat) else none

/-- Reads digits from the left and continues the value `acc` of those before them. -/
def readDigits (acc : Nat) : List Char → Except Fault Nat
  | [] => .ok acc
  | c :: rest =>
    match digit? c with
    | none => .error .invalidDigit
    | some d => if acc * 10 + d > maxCount then .error .tooLarge else readDigits (acc * 10 + d) rest

def readChars : List Char → Except Fault Nat
  | [] => .error .empty
  | '+' :: [] => .error .invalidDigit
  | '+' :: digits => readDigits 0 digits
  | digits => readDigits 0 digits

def parse (text : String) : Except Fault UInt64 := (readChars text.toList).map UInt64.ofNat

/-- Whether a text is an exponent behind its letter: digits with an optional sign. -/
def isExponent (text : List Char) : Bool :=
  let digits :=
    match text with
    | '+' :: rest | '-' :: rest => rest
    | rest => rest
  !digits.isEmpty && digits.all Char.isDigit

/-- Whether a text is a decimal number with an optional sign. A point may have digits on one side only. -/
def isDecimal (text : List Char) : Bool :=
  let number :=
    match text with
    | '+' :: rest | '-' :: rest => rest
    | rest => rest
  let name := String.ofList (number.map Char.toLower)
  let whole := number.takeWhile Char.isDigit
  let tail := number.dropWhile Char.isDigit
  let fraction := if tail.head? = some '.' then tail.tail.takeWhile Char.isDigit else []
  let exponent := if tail.head? = some '.' then tail.tail.dropWhile Char.isDigit else tail
  name = "inf" || name = "infinity" || name = "nan" ||
    (!(whole.isEmpty && fraction.isEmpty) &&
      match exponent with
      | [] => true
      | 'e' :: rest | 'E' :: rest => isExponent rest
      | _ => false)

/-- The digits of `n` behind as many zeros as bring them to `width`. -/
def padded (width n : Nat) : String := String.ofList ((Nat.toDigits 10 n).leftpad width '0')

end BytecodeStore.Numeral
