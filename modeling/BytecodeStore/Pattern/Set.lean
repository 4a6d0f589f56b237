import BytecodeStore.Pattern.Sign

/-! # Sets in a pattern

A set in brackets holds characters, ranges, families, named classes and further sets, and combines them by operators
of two equal signs. Of a set that is being read, only the heights of what it holds are kept.
-/
namespace BytecodeStore.Pattern

/-- The height of things side by side: more than one of them make a level of their own. -/
def heightOf : List Nat → Nat
  | [] => 0
  | [height] => height
  | heights => heights.foldl max 0 + 1

/-- A set of which the closing bracket was not read yet. -/
structure OpenSet where
  /-- The heights of the items behind the last operator. -/
  items : List Nat := []
  /-- The height of what stands before it. -/
  left : Option Nat := none
deriving DecidableEq, Repr

namespace OpenSet

def height (o : OpenSet) : Nat :=
  match o.left with
  | none => heightOf o.items
  | some left => max left (heightOf o.items) + 1

def operator (o : OpenSet) : OpenSet := { left := some o.height }

def add (o : OpenSet) (height : Nat) : OpenSet := { o with items := height :: o.items }

end OpenSet

/-- The dashes at the beginning of a set, each of them for itself, and the text from the next sign on. -/
def leadingDashes (m : Mode) (o : OpenSet) (s : List Char) : OpenSet × List Char :=
  match _h : m.skip s with
  | '-' :: rest => leadingDashes m (o.add 0) rest
  | rest => (o, rest)
termination_by s.length
decreasing_by exact Mode.length_lt_of_skip _h

theorem length_leadingDashes_le (m : Mode) (o : OpenSet) (s : List Char) :
    (leadingDashes m o s).2.length ≤ s.length := by
  fun_induction leadingDashes m o s with
  | case1 o s rest h ih => exact Nat.le_trans ih (Nat.le_of_lt (Mode.length_lt_of_skip h))
  | case2 o s _ => exact m.length_skip_le s

theorem length_ite_tail_le (drop : Bool) (s : List Char) : (if drop then s.tail else s).length ≤ s.length := by
  split
  · rw [List.length_tail]
    exact Nat.sub_le _ _
  · exact Nat.le_refl _

/-- Opens a set behind its bracket. A bracket that closes is the first item of a set if it comes first. -/
def openSet? (m : Mode) (s : List Char) : Option (OpenSet × { r : List Char // r.length ≤ s.length }) :=
  let negated : Bool := (m.skip s).head? = some '^'
  let first := if negated then (m.skip s).tail else m.skip s
  have hf : first.length ≤ s.length := Nat.le_trans (length_ite_tail_le negated _) (m.length_skip_le s)
  match hd : leadingDashes m {} first with
  | (dashes, rest) =>
    have hr : rest.length ≤ s.length := by
      have := length_leadingDashes_le m {} first
      rw [hd] at this
      exact Nat.le_trans this hf
    let closes : Bool := dashes.items.isEmpty && rest.head? = some ']'
    if negated && !m.unicode then none
    else if dashes.items.isEmpty && !closes then some (dashes, ⟨rest, hr⟩)
    else if !(Sign.character '-' false).isAllowedInSet m then none
    else if closes then some (dashes.add 0, ⟨rest.tail, Nat.le_trans (length_ite_tail_le true rest) hr⟩)
    else some (dashes, ⟨rest, hr⟩)

def classNames : List String :=
  ["alnum", "alpha", "ascii", "blank", "cntrl", "digit", "graph", "lower", "print", "punct", "space", "upper",
    "word", "xdigit"]

/-- Reads a named class behind its bracket, and tells whether it is negated. -/
def readNamed : (s : List Char) → Option (Parsed Bool s)
  | ':' :: rest =>
    let negated : Bool := rest.head? = some '^'
    let name := if negated then rest.tail else rest
    have hn : name.length ≤ rest.length := length_ite_tail_le negated rest
    match h : name.dropWhile (· != ':') with
    | ':' :: ']' :: after =>
      if classNames.contains (String.ofList (name.takeWhile (· != ':'))) then
        some ⟨negated, after, by
          have := (List.dropWhile_suffix (· != ':') (l := name)).length_le
          rw [h] at this
          simp only [List.length_cons] at *
          omega⟩
      else none
    | _ => none
  | _ => none

def isNamedAllowed (m : Mode) (negated : Bool) : Bool := if m.unicode then !m.caseless else !negated

/-- Reads a character, or what a backslash makes of it. -/
def readSign (m : Mode) : (s : List Char) → Option (Parsed Sign s)
  | [] => none
  | '\\' :: rest => (readEscape m rest).map Parsed.behind
  | c :: _ => some (.first (.character c false))

/-- The character behind a dash that may be the middle of a range. In a comment, it is the first of the comment. -/
def afterDash (m : Mode) (rest : List Char) : Option Char :=
  if m.extended then
    match rest.dropWhile Space.isSpace with
    | '#' :: comment => (comment.dropWhile Space.isSpace).head? <|> rest.head?
    | c :: _ => some c
    | [] => rest.head?
  else rest.head?

/-- Reads a sign or a range of characters. -/
def readItem (m : Mode) (s : List Char) : Option (Parsed Unit s) := do
  let first ← readSign m s
  match h : m.skip first.rest with
  | '-' :: rest =>
    if afterDash m rest = some ']' ∨ afterDash m rest = some '-' then
      if first.value.isAllowedInSet m then some (first.map fun _ => ()) else none
    else
      have hr : (m.skip rest).length ≤ s.length := by
        have := m.length_skip_le rest
        have := Mode.length_lt_of_skip h
        have := first.shorter
        omega
      let last ← readSign m (m.skip rest)
      match first.value, last.value with
      | .character a byteA, .character b byteB =>
        if a.toNat ≤ b.toNat && (Sign.character a byteA).isAllowedInSet m &&
            (Sign.character b byteB).isAllowedInSet m then
          some ((last.map fun _ => ()).within hr)
        else none
      | _, _ => none
  | _ => if first.value.isAllowedInSet m then some (first.map fun _ => ()) else none

end BytecodeStore.Pattern
