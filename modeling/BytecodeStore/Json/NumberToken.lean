import BytecodeStore.Growth.Rule
import BytecodeStore.Json.Parsed

/-! # Numbers in JSON texts

A number is read as its digits. Its value is an integer where it has neither a fraction nor an exponent and fits
a 64-bit word, and otherwise a binary number: as many leading digits as fit a word, scaled by a power of ten.
-/
namespace BytecodeStore.Json

/-- The digits of a number, its sign apart. -/
structure NumberToken where
  whole : List Nat
  fraction : List Nat := []
  /-- Whether the exponent is negative, and its digits. -/
  exponent : Option (Bool × List Nat) := none
deriving DecidableEq, Repr

def digitsOf (s : List Char) : List Nat := (s.takeWhile Char.isDigit).map fun c => c.toNat - '0'.toNat

def afterDigits (s : List Char) : List Char := s.dropWhile Char.isDigit

theorem length_afterDigits_le (s : List Char) : (afterDigits s).length ≤ s.length :=
  (List.dropWhile_suffix Char.isDigit).length_le

def startsWithDigit : List Char → Bool
  | [] => false
  | c :: _ => c.isDigit

theorem length_afterDigits_lt {s : List Char} (h : startsWithDigit s = true) :
    (afterDigits s).length < s.length := by
  cases s with
  | nil => simp [startsWithDigit] at h
  | cons c rest =>
    have := length_afterDigits_le rest
    simp only [startsWithDigit] at h
    simp only [afterDigits, List.dropWhile_cons, h, ↓reduceIte, List.length_cons] at *
    omega

/-- One digit or more. `atEnd` is reported where the text has no further character. -/
def readDigits (atEnd : ReadError) (s : List Char) : Read (List Nat) s :=
  if h : startsWithDigit s then .ok ⟨digitsOf s, afterDigits s, length_afterDigits_lt h⟩
  else if s.isEmpty then .error atEnd else .error .malformed

def readExponent (atEnd : ReadError) (s : List Char) : Read (Bool × List Nat) s :=
  match s with
  | '+' :: rest => (readDigits atEnd rest).map fun p => (p.map (false, ·)).behind
  | '-' :: rest => (readDigits atEnd rest).map fun p => (p.map (true, ·)).behind
  | s => (readDigits atEnd s).map fun p => p.map (false, ·)

theorem length_tail_le {s : List Char} (p : Parsed NumberToken s) : p.rest.tail.length ≤ s.length := by
  have := p.shorter
  rw [List.length_tail]
  omega

def withFraction (atEnd : ReadError) {s : List Char} (p : Parsed NumberToken s) : Read NumberToken s :=
  if p.rest.head? = some '.' then
    (readDigits atEnd p.rest.tail).map fun q =>
      (q.map fun digits => { p.value with fraction := digits }).within (length_tail_le p)
  else .ok p

def withExponent (atEnd : ReadError) {s : List Char} (p : Parsed NumberToken s) : Read NumberToken s :=
  if p.rest.head? = some 'e' ∨ p.rest.head? = some 'E' then
    (readExponent atEnd p.rest.tail).map fun q =>
      (q.map fun exponent => { p.value with exponent := some exponent }).within (length_tail_le p)
  else .ok p

/-- A number behind its sign. Only the number zero starts with the digit zero. -/
def readNumber (atEnd : ReadError) (s : List Char) : Read NumberToken s := do
  let p ← readDigits atEnd s
  if p.value.head? = some 0 ∧ 1 < p.value.length then .error .malformed
  else withExponent atEnd (← withFraction atEnd (p.map fun whole => { whole := whole }))

/-- Goes on with as many digits as keep the value in a word, and tells how many are left out. -/
def absorb (value : Nat) : List Nat → Nat × Nat
  | [] => (value, 0)
  | d :: ds => if value * 10 + d > maxCount then (value, ds.length + 1) else absorb (value * 10 + d) ds

def digitsValue (ds : List Nat) : Nat := ds.foldl (fun n d => n * 10 + d) 0

def maxExponent : Nat := 0x7FFFFFFF

namespace NumberToken

/-- The value as a binary number; `none` beyond the largest one. -/
def magnitude (t : NumberToken) : Option Binary64 :=
  let (value, left) := absorb 0 t.whole
  let (significand, unread) := absorb value t.fraction
  let place : Int := (left + unread : Nat) - (t.fraction.length : Int)
  match t.exponent with
  | none => Binary64.ofScaled significand place
  | some (negative, ds) =>
    let e := digitsValue ds
    if e > maxExponent then if significand = 0 ∨ negative then some .zero else none
    else Binary64.ofScaled significand (if negative then place - e else place + e)

/-- The value as a word, if the number is written as an integer and is in range. -/
def word? (t : NumberToken) : Option Nat :=
  match t with
  | ⟨whole, [], none⟩ =>
    match absorb 0 whole with
    | (n, 0) => some n
    | _ => none
  | _ => none

/-- Negative integers reach down to the negative of this. -/
def maxNegated : Nat := 0x8000000000000000

/-- What a number is taken for. There is no negative integer zero. -/
def found (negative : Bool) (t : NumberToken) : Option Found :=
  match negative, t.word? with
  | false, some n => some (.integer n)
  | true, some n => if 0 < n ∧ n ≤ maxNegated then some (.integer (-n)) else t.magnitude.map (.decimal true)
  | _, none => t.magnitude.map (.decimal negative)

end NumberToken

end BytecodeStore.Json
