import BytecodeStore.Pattern.Set
import BytecodeStore.Text.CharClass

/-! # Reading a pattern

All that is asked of a pattern is whether it can be used: it is well formed, it is not nested too deeply, and its
signs are allowed in the modes in which they stand. So a reader keeps the heights of what it has read, and what is
still open around it.
-/
namespace BytecodeStore.Pattern

/-- A piece of a sequence. Flags are a piece that cannot be repeated. -/
structure Piece where
  height : Nat
  repeatable : Bool := true
deriving DecidableEq, Repr

/-- The sequences that stand between two parentheses, or in the whole pattern. -/
structure Level where
  /-- The pieces of the last sequence, the last first. -/
  pieces : List Piece := []
  /-- The heights of the sequences before it. -/
  alternatives : List Nat := []
deriving DecidableEq, Repr

namespace Level

def add (l : Level) (piece : Piece) : Level := { l with pieces := piece :: l.pieces }

def alternative (l : Level) : Level := ⟨[], heightOf (l.pieces.map Piece.height) :: l.alternatives⟩

def height (l : Level) : Nat := heightOf l.alternative.alternatives

end Level

/-- How deep a pattern may be nested. -/
def maxHeight : Nat := 250

structure Reader where
  mode : Mode := {}
  level : Level := {}
  /-- The open groups, with what was read around them. -/
  groups : List (Mode × Level) := []
  /-- The open sets, the innermost first. -/
  sets : List OpenSet := []
  names : List (List Char) := []
deriving DecidableEq, Repr

namespace Reader

def add (r : Reader) (piece : Piece) : Reader := { r with level := r.level.add piece }

def openGroup (r : Reader) (mode : Mode) : Reader :=
  { r with mode := mode, level := {}, groups := (r.mode, r.level) :: r.groups }

def closeGroup? (r : Reader) : Option Reader :=
  match r.groups with
  | [] => none
  | (mode, level) :: groups =>
    some { r with mode := mode, level := level.add ⟨r.level.height + 1, true⟩, groups := groups }

/-- Repeats the last piece. -/
def repeat? (r : Reader) : Option Reader :=
  match r.level.pieces with
  | ⟨height, true⟩ :: pieces => some { r with level := { r.level with pieces := ⟨height + 1, true⟩ :: pieces } }
  | _ => none

def isNameStart (c : Char) : Bool := c == '_' || Alphanumeric.isLetter c

def isNameChar (c : Char) : Bool :=
  c == '_' || c == '.' || c == '[' || c == ']' || Alphanumeric.isAlphanumeric c

/-- Whether a group may have a name. -/
def admitsName (r : Reader) (name : List Char) : Bool :=
  match name with
  | [] => false
  | c :: rest => isNameStart c && rest.all isNameChar && !r.names.contains name

/-- Opens a group with a name, behind the angle that opens the name. -/
def nameGroup? (r : Reader) (s : List Char) : Option (Parsed Reader s) :=
  let name := s.takeWhile (· != '>')
  match h : s.dropWhile (· != '>') with
  | '>' :: rest =>
    if r.admitsName name then
      some ⟨{ r.openGroup r.mode with names := name :: r.names }, rest, by
        have := (List.dropWhile_suffix (· != '>') (l := s)).length_le
        rw [h, List.length_cons] at this
        exact this⟩
    else none
  | _ => none

/-- What follows an opening parenthesis. -/
def afterParenthesis? (r : Reader) (s : List Char) :
    Option (Reader × { rest : List Char // rest.length ≤ s.length }) :=
  have skipped := r.mode.length_skip_le s
  match h : r.mode.skip s with
  | '?' :: 'P' :: '<' :: rest =>
    (r.nameGroup? rest).map fun p => (p.value, ⟨p.rest, by
      have := p.shorter
      rw [h] at skipped
      simp only [List.length_cons] at skipped
      omega⟩)
  | '?' :: '<' :: rest =>
    (r.nameGroup? rest).map fun p => (p.value, ⟨p.rest, by
      have := p.shorter
      rw [h] at skipped
      simp only [List.length_cons] at skipped
      omega⟩)
  | '?' :: rest =>
    (readFlags [] true r.mode rest).map fun p =>
      let (mode, opens) := p.value
      (if opens then r.openGroup mode else { r.add ⟨0, false⟩ with mode := mode }, ⟨p.rest, by
        have := p.shorter
        rw [h] at skipped
        simp only [List.length_cons] at skipped
        omega⟩)
  | rest => some (r.openGroup r.mode, ⟨rest, by rw [h] at skipped; exact skipped⟩)

/-- Closes the innermost set. -/
def closeSet (r : Reader) (inner : OpenSet) (outer : List OpenSet) : Reader :=
  match outer with
  | [] => { r.add ⟨inner.height + 1, true⟩ with sets := [] }
  | o :: outer => { r with sets := o.add (inner.height + 1) :: outer }

/-- Reads on in a set. -/
def stepInSet (r : Reader) (inner : OpenSet) (outer : List OpenSet) (c : Char) (rest : List Char) :
    Option (Parsed Reader (c :: rest)) :=
  let withItem : Reader := { r with sets := inner.add 0 :: outer }
  if c = '[' then
    match readNamed rest with
    | some p => if isNamedAllowed r.mode p.value then some (p.map fun _ => withItem).behind else none
    | none =>
      (openSet? r.mode rest).map fun (o, after) =>
        ⟨{ r with sets := o :: inner :: outer }, after.1, Nat.lt_succ_of_le after.2⟩
  else if c = ']' then some (.first (r.closeSet inner outer))
  else if (c = '&' ∨ c = '-' ∨ c = '~') ∧ rest.head? = some c then
    some ⟨{ r with sets := inner.operator :: outer }, rest.tail, Nat.lt_succ_of_le (length_ite_tail_le true rest)⟩
  else (readItem r.mode (c :: rest)).map fun p => p.map fun _ => withItem

/-- Reads on outside of sets. -/
def stepOutside (r : Reader) (c : Char) (rest : List Char) : Option (Parsed Reader (c :: rest)) :=
  match c with
  | '(' => (r.afterParenthesis? rest).map fun (next, after) => ⟨next, after.1, Nat.lt_succ_of_le after.2⟩
  | ')' => r.closeGroup?.map fun next => .first next
  | '|' => some (.first { r with level := r.level.alternative })
  | '[' =>
    (openSet? r.mode rest).map fun (o, after) => ⟨{ r with sets := [o] }, after.1, Nat.lt_succ_of_le after.2⟩
  | '?' | '*' | '+' =>
    r.repeat?.map fun next =>
      if rest.head? = some '?' then ⟨next, rest.tail, Nat.lt_succ_of_le (length_ite_tail_le true rest)⟩
      else .first next
  | '\x7b' => none
  | '.' => if r.mode.unicode then some (.first (r.add ⟨0, true⟩)) else none
  | '^' | '$' => some (.first (r.add ⟨0, true⟩))
  | c =>
    (readSign r.mode (c :: rest)).bind fun p =>
      if p.value.isAllowed r.mode then some (p.map fun _ => r.add ⟨0, true⟩) else none

def step (r : Reader) (c : Char) (rest : List Char) : Option (Parsed Reader (c :: rest)) :=
  match r.sets with
  | [] => r.stepOutside c rest
  | inner :: outer => r.stepInSet inner outer c rest

/-- Whether the text may end here. -/
def isComplete (r : Reader) : Bool := r.sets.isEmpty && r.groups.isEmpty && r.level.height ≤ maxHeight

def accepts (r : Reader) (s : List Char) : Bool :=
  match _h : r.mode.skip s with
  | [] => r.isComplete
  | c :: rest =>
    match r.step c rest with
    | none => false
    | some p => p.value.accepts p.rest
termination_by s.length
decreasing_by
  have := p.shorter
  have := Mode.length_lt_of_skip _h
  simp only [List.length_cons] at *
  omega

end Reader

/-- Whether a text is a pattern that can be used. -/
def isUsable (text : List Char) : Bool := ({} : Reader).accepts text

end BytecodeStore.Pattern
