/-! # Binary floating point

Non-negative numbers `significand * 2 ^ exponent` with 53 binary digits, rounded to the nearest one, on a tie to
the even significand. All arithmetic is on natural numbers. A result beyond the largest number is `none`.
-/
namespace BytecodeStore

structure Binary64 where
  significand : Nat
  exponent : Int
deriving DecidableEq, Repr

namespace Binary64

def minExponent : Int := -1074

def maxExponent : Int := 971

/-- Significands lie below this power of two, and from its half on unless the exponent is the least. -/
def significandLimit : Nat := Nat.pow 2 53

def zero : Binary64 := ⟨0, minExponent⟩

def isZero (x : Binary64) : Bool := x.significand == 0

/-- The natural number nearest to `num / den`, the even one of two. -/
def divideToNearest (num den : Nat) : Nat :=
  let quotient := num / den
  let twice := 2 * (num % den)
  if twice < den then quotient
  else if twice > den then quotient + 1
  else quotient + quotient % 2

def twoPower (e : Int) : Nat × Nat := (Nat.pow 2 e.toNat, Nat.pow 2 (-e).toNat)

def ofRatio (num den : Nat) : Option Binary64 :=
  if num = 0 then some zero
  else
    let low : Int := (Nat.log2 num : Int) - Nat.log2 den - 53
    let (up, down) := twoPower (low + 53)
    let exponent := max minExponent (if num * down ≥ den * up then low + 1 else low)
    let (up, down) := twoPower exponent
    let significand := divideToNearest (num * down) (den * up)
    let rounded : Binary64 :=
      if significand = significandLimit then ⟨significandLimit / 2, exponent + 1⟩ else ⟨significand, exponent⟩
    if rounded.exponent > maxExponent then none else some rounded

def ofNat (n : Nat) : Option Binary64 := ofRatio n 1

def mul (x y : Binary64) : Option Binary64 :=
  let (up, down) := twoPower (x.exponent + y.exponent)
  ofRatio (x.significand * y.significand * up) down

def div (x y : Binary64) : Option Binary64 :=
  let (up, down) := twoPower (x.exponent - y.exponent)
  ofRatio (x.significand * up) (y.significand * down)

/-- The largest power of ten that is a number. -/
def maxTenPower : Nat := 308

def tenPower (n : Nat) : Option Binary64 := ofNat (Nat.pow 10 n)

/-- Divides by the largest power of ten a number of times, and then by `10 ^ last`. -/
def shiftDown (last : Nat) : (times : Nat) → Binary64 → Option Binary64
  | 0, x => (tenPower last).bind x.div
  | times + 1, x =>
    if x.isZero then some x else ((tenPower maxTenPower).bind x.div).bind (shiftDown last times)

/-- Scales a whole number by a power of ten. The number, the power and the result are each rounded, so the
result need not be the nearest one. -/
def ofScaled (n : Nat) (exponent : Int) : Option Binary64 :=
  match ofNat n with
  | none => none
  | some x =>
    if exponent < 0 then
      let times := (exponent.natAbs - 1) / maxTenPower
      shiftDown (exponent.natAbs - times * maxTenPower) times x
    else if x.isZero then some x
    else if exponent.natAbs ≤ maxTenPower then (tenPower exponent.natAbs).bind x.mul
    else none

end Binary64

end BytecodeStore
