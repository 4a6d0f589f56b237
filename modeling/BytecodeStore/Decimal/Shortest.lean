import BytecodeStore.Decimal.Binary64

/-! # The shortest decimal text of a binary number

Of the decimal numbers that read back as a given binary one, those with the fewest digits are looked for on
coarser and finer decimal grids, and the nearest of them is taken. The text is positional for points of moderate
place, and otherwise has one digit before the point and an exponent with its sign.
-/
namespace BytecodeStore.Binary64

/-- The multiple of `10 ^ place` that is nearest to `x` and reads back as `x`, in units of `10 ^ place`. -/
def nearestOnGrid (x : Binary64) (place : Int) : Option Nat :=
  let m := 4 * x.significand
  let low := if x.significand = significandLimit / 2 ∧ x.exponent > minExponent then m - 1 else m - 2
  let high := m + 2
  let (up, down) := twoPower (x.exponent - 2)
  let unit := Nat.pow 10 place.toNat * down
  let scale := Nat.pow 10 (-place).toNat * up
  let closed := x.significand % 2 = 0
  let inside (c : Nat) : Bool :=
    if closed then low * scale ≤ c * unit ∧ c * unit ≤ high * scale
    else low * scale < c * unit ∧ c * unit < high * scale
  let below := m * scale / unit
  let above := below + 1
  match inside below, inside above with
  | true, false => some below
  | false, true => some above
  | true, true => some (divideToNearest (m * scale) unit)
  | false, false => none

/-- Digits and place of the shortest decimal number that reads back as `x`, for `x` other than zero. -/
def shortest (x : Binary64) : Nat × Int :=
  ((List.range 660).findSome? fun (i : Nat) =>
    let place : Int := 310 - i
    (x.nearestOnGrid place).map fun c => (c, place)).getD (0, 0)

def zeros (n : Nat) : List Char := List.replicate n '0'

/-- Writes `digits * 10 ^ place`, with a digit on both sides of the point wherever there is one. -/
def notate (digits : List Char) (place : Int) : List Char :=
  let point := digits.length + place
  if 0 ≤ place ∧ point ≤ 16 then digits ++ zeros place.toNat ++ ['.', '0']
  else if 0 < point ∧ point ≤ 16 then digits.take point.toNat ++ ['.'] ++ digits.drop point.toNat
  else if -5 < point ∧ point ≤ 0 then ['0', '.'] ++ zeros (-point).toNat ++ digits
  else
    let exponent := 'e' :: (if 0 < point then ['+'] else []) ++ (toString (point - 1)).toList
    match digits with
    | [d] => d :: exponent
    | d :: rest => d :: '.' :: (rest ++ exponent)
    | [] => exponent

def text (x : Binary64) : String :=
  if x.isZero then "0.0"
  else
    let (digits, place) := x.shortest
    String.ofList (notate (Nat.toDigits 10 digits) place)

end BytecodeStore.Binary64
