import BytecodeStore.Json.Skip
import BytecodeStore.Growth.Rule

/-! # Geometric growth as a configuration text

A rule is written in JSON as an object with the members `minimum` and `factor`, or as a list of the two. What is
missing has its standard value. An object may have other members, which are passed over; a list may be shorter,
but not longer. A value that is no 64-bit word is refused where it starts, before the rest of the text is seen.
-/
namespace BytecodeStore
open Json

namespace Doubling

/-- The fault of a text that goes on with a number where `expected` was asked for. -/
def refuseNumber (expected : String) (negative : Bool) (token : NumberToken) : ReadError :=
  match token.found negative with
  | none => .malformed
  | some found => .mismatch (.invalidType found expected)

/-- The fault of a text that does not go on with what was `expected`. -/
def refuse (expected : String) (s : List Char) : ReadError :=
  match readToken s with
  | .error e => e
  | .ok t =>
    let word (w : List Char) (found : Found) : ReadError :=
      match readWord w t.rest with
      | .error e => e
      | .ok _ => .mismatch (.invalidType found expected)
    let number (negative : Bool) (s : List Char) : ReadError :=
      match readNumber .endOfText s with
      | .error e => e
      | .ok p => refuseNumber expected negative p.value
    match t.value with
    | 'n' => word ['u', 'l', 'l'] .null
    | 't' => word ['r', 'u', 'e'] (.bool true)
    | 'f' => word ['a', 'l', 's', 'e'] (.bool false)
    | '"' =>
      match readString t.rest with
      | .error e => e
      | .ok p => .mismatch (.invalidType (.string (String.ofList p.value)) expected)
    | '[' => .mismatch (.invalidType .sequence expected)
    | '\x7b' => .mismatch (.invalidType .map expected)
    | '-' => number true t.rest
    | c => if c.isDigit then number false (skipBlanks s) else .malformed

def expectedWord : String := "usize"

def expectedRule : String := "struct Doubling"

def readWord64 (s : List Char) : Read UInt64 s := do
  let t ← readToken s
  if t.value = '-' then
    let p ← readNumber .endOfText t.rest
    match p.value.found true with
    | some (.integer n) => .error (.mismatch (.invalidValue (.integer n) expectedWord))
    | _ => .error (refuseNumber expectedWord true p.value)
  else if t.value.isDigit then
    let p ← readNumber .endOfText (skipBlanks s)
    match p.value.word? with
    | some n => .ok ((p.map fun _ => UInt64.ofNat n).within (length_skipBlanks_le s))
    | none => .error (refuseNumber expectedWord false p.value)
  else .error (refuse expectedWord s)

inductive Field where
  | minimum
  | factor
deriving DecidableEq, Repr

namespace Field

def name : Field → String
  | .minimum => "minimum"
  | .factor => "factor"

def ofName? (key : String) : Option Field :=
  if key = "minimum" then some .minimum else if key = "factor" then some .factor else none

end Field

structure Draft where
  minimum : Option UInt64 := none
  factor : Option UInt64 := none
deriving DecidableEq, Repr

namespace Draft

def get? (d : Draft) : Field → Option UInt64
  | .minimum => d.minimum
  | .factor => d.factor

def set (d : Draft) (value : UInt64) : Field → Draft
  | .minimum => { d with minimum := some value }
  | .factor => { d with factor := some value }

/-- Missing members take their standard values. -/
def rule (d : Draft) : Doubling := ⟨d.minimum.getD standardMinimum, d.factor.getD standardFactor⟩

end Draft

/-- One member, with its key, its colon and its value. A known key that comes again is refused at once. -/
def readMember (d : Draft) (s : List Char) : Read Draft s := do
  let quote ← readToken s
  if quote.value ≠ '"' then .error .malformed
  else
    let key ← readString quote.rest
    let known := Field.ofName? (String.ofList key.value)
    match known.bind fun field => (d.get? field).map fun _ => field with
    | some field => .error (.mismatch (.duplicateField field.name))
    | none =>
      let colon ← readToken key.rest
      have h : colon.rest.length ≤ s.length := by
        have := quote.shorter
        have := key.shorter
        have := colon.shorter
        omega
      if colon.value ≠ ':' then .error .malformed
      else
        match known with
        | some field => (readWord64 colon.rest).map fun p => (p.map fun value => d.set value field).within h
        | none => (skipValue colon.rest).map fun p => (p.map fun _ => d).within h

/-- The members of an object up to its brace. There is at least one. -/
def readMembers (d : Draft) (s : List Char) : Except ReadError (Draft × List Char) := do
  let p ← readMember d s
  let next ← readToken p.rest
  if next.value = ',' then readMembers p.value next.rest
  else if next.value = '\x7d' then .ok (p.value, next.rest)
  else .error .malformed
termination_by s.length
decreasing_by
  have := p.shorter
  have := next.shorter
  omega

def readObject (s : List Char) : Except ReadError (Draft × List Char) := do
  let t ← readToken s
  if t.value = '\x7d' then .ok ({}, t.rest) else readMembers {} s

def readList (s : List Char) : Except ReadError (Draft × List Char) := do
  let t ← readToken s
  if t.value = ']' then .ok ({}, t.rest)
  else
    let minimum ← readWord64 s
    let d : Draft := { minimum := some minimum.value }
    let next ← readToken minimum.rest
    if next.value = ']' then .ok (d, next.rest)
    else if next.value = ',' then
      let factor ← readWord64 next.rest
      let last ← readToken factor.rest
      if last.value = ']' then .ok ({ d with factor := some factor.value }, last.rest) else .error .malformed
    else .error .malformed

def readChars (s : List Char) : Except ReadError Doubling := do
  let t ← readToken s
  let (d, rest) ←
    if t.value = '[' then readList t.rest
    else if t.value = '\x7b' then readObject t.rest
    else .error (refuse expectedRule s)
  if (skipBlanks rest).isEmpty then .ok d.rule else .error .malformed

def ofText (text : String) : Except ReadError Doubling := readChars text.toList

end Doubling

end BytecodeStore
