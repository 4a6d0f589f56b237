import BytecodeStore.Pattern.Reader
import BytecodeStore.Text.CharClass
import BytecodeStore.Text.Numeral
import BytecodeStore.Text.Place
import BytecodeStore.Trace.Event

/-! # Directives

A directive gives the lightest level shown of the events that it is about. It is written as a target, a scope with
a field in brackets, and a level behind an equals sign; each of these may be missing. A level alone is about all
events. Targets are known by how they begin. The program opens no scopes, and fields are looked up by name only,
so that a directive with a scope, or with a value for its field, is about no event.
-/
namespace BytecodeStore

structure FieldPattern where
  name : String
  /-- Whether the field must also have a certain value. -/
  hasValue : Bool
deriving DecidableEq, Repr

structure Directive where
  target : Option String := none
  scope : Option String := none
  field : Option FieldPattern := none
  /-- Without a level, nothing is shown. -/
  level : Option Level := some .trace
deriving DecidableEq, Repr

namespace Directive

def hasTarget (d : Directive) (target : String) : Bool :=
  match d.target with
  | none => true
  | some t => t.toList.isPrefixOf target.toList

def hasField (d : Directive) (fields : List String) : Bool :=
  match d.field with
  | none => true
  | some f => !f.hasValue && f.name ∈ fields

def isAbout (d : Directive) (e : Event) : Bool := d.scope.isNone && d.hasTarget e.target && d.hasField e.fields

def admits (d : Directive) (level : Level) : Bool :=
  match d.level with
  | none => false
  | some lightest => level.rank ≤ lightest.rank

def weight (d : Directive) : Nat :=
  match d.target with
  | none => 0
  | some t => t.utf8ByteSize + 1

def codePoints (s : String) : List Nat := s.toList.map Char.toNat

/-- Whether one field is no more specific than another: any is more than none, and a later name than an earlier. -/
def fieldLe : Option FieldPattern → Option FieldPattern → Bool
  | none, _ => true
  | some _, none => false
  | some f, some g => !List.lex (codePoints g.name) (codePoints f.name) Nat.blt

/-- Whether `d` is no more specific than `e`: by the lengths of the targets, and then by the fields. -/
def le (d e : Directive) : Bool :=
  d.weight < e.weight || (d.weight == e.weight && fieldLe d.field e.field)

/-- A level by its name in any case, or by its number; `none` inside is the level that shows nothing. -/
def level? (text : List Char) : Option (Option Level) :=
  let name := String.ofList (text.map Char.toLower)
  if name = "off" then some none
  else
    match Level.all.find? (·.name = name) with
    | some level => some (some level)
    | none =>
      match Numeral.readChars text with
      | .ok 0 => some none
      | .ok n => (Level.all.find? (·.rank = n)).map some
      | .error _ => none

/-- Whether a value can be compared with: a number or a pattern. -/
def isValue (text : List Char) : Bool := Numeral.isDecimal text || Pattern.isUsable text

/-- A name alone, or a name and a value behind an equals sign. What follows a further equals sign is left out. -/
def field? (text : List Char) : Option FieldPattern :=
  let name := String.ofList (text.takeWhile (· != '='))
  match text.dropWhile (· != '=') with
  | [] => if text.isEmpty then none else some ⟨name, false⟩
  | _ :: value => if isValue (value.takeWhile (· != '=')) then some ⟨name, true⟩ else none

/-- Whether a target may begin with this character. -/
def isOpening (c : Char) : Bool := c == '-' || c == ':' || c == '_' || Alphanumeric.isAlphanumeric c

def ofWord (text : List Char) : Directive :=
  match level? text with
  | some level => { level := level }
  | none => { target := some (String.ofList text) }

/-- Adds the level that is written at the end. An equals sign with nothing behind it leaves the standard one. -/
def withLevel? (whole : List Char) (d : Directive) (p : Place) : Option Directive := do
  let text ← dropBytes? p.bytes whole
  if text.isEmpty then some d else (level? text).map fun level => { d with level := level }

def afterScope? (whole : List Char) (d : Directive) (p : Place) : Option Directive :=
  match p.rest with
  | [] => some d
  | '=' :: _ => withLevel? whole d p.next
  | _ => none

def withScope? (whole : List Char) (d : Directive) (p : Place) : Option Directive := do
  let stop := p.upTo fun c => c == ']' || c == '\x7b'
  let name := String.ofList (← cut? whole p.bytes stop.bytes)
  match stop.rest with
  | ']' :: _ => afterScope? whole { d with scope := some name } stop.next
  | '\x7b' :: _ =>
    let close := stop.next.upTo (· == '\x7d')
    let field ← field? (← cut? whole stop.next.bytes close.bytes)
    match close.rest with
    | '\x7d' :: ']' :: _ =>
      let scope := if name.isEmpty then none else some name
      afterScope? whole { d with scope := scope, field := some field } close.next.next
    | _ => none
  | _ => none

/-- Reads a directive. Its signs are looked for in the text without the spaces at its ends; the pieces between them
are cut from the whole text at the same places, so that spaces in front shift what is cut. -/
def ofChars? (whole : List Char) : Option Directive := do
  let start : Place := { rest := Space.trim whole }
  let first ← start.rest.head?
  if first = '[' then withScope? whole {} start.next
  else if !isOpening first then none
  else
    let stop := start.upTo fun c => c == '=' || c == '['
    match stop.rest with
    | [] => some (ofWord whole)
    | sign :: _ =>
      let target := String.ofList (← cut? whole 0 stop.bytes)
      let d : Directive := { target := some target }
      if sign = '=' then withLevel? whole d stop.next else withScope? whole d stop.next

end Directive

end BytecodeStore
