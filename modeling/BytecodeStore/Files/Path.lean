/-! # Paths

A path is what stands between its slashes, in order. Empty pieces and single dots name no step of their own;
two dots lead up. Where a path is taken apart, what is empty or a dot at its end is left out of account, and a
dot at its beginning is kept.
-/
namespace BytecodeStore

structure Path where
  absolute : Bool
  pieces : List String
deriving DecidableEq, Repr

namespace Path

def ofString (s : String) : Path :=
  match s.toList with
  | [] => ⟨false, []⟩
  | '/' :: rest => ⟨true, (rest.splitOn '/').map String.ofList⟩
  | cs => ⟨false, (cs.splitOn '/').map String.ofList⟩

def toString (p : Path) : String := (if p.absolute then "/" else "") ++ "/".intercalate p.pieces

instance : ToString Path := ⟨toString⟩

def isEmpty (p : Path) : Bool := !p.absolute && p.pieces.isEmpty

/-- Pieces that lead nowhere. -/
def isIdle (piece : String) : Bool := piece == "" || piece == "."

def dropLastWhile (drop : String → Bool) (pieces : List String) : List String :=
  (pieces.reverse.dropWhile drop).reverse

theorem length_dropLastWhile_le (drop : String → Bool) (pieces : List String) :
    (dropLastWhile drop pieces).length ≤ pieces.length := by
  unfold dropLastWhile
  have := (List.dropWhile_suffix drop (l := pieces.reverse)).length_le
  simpa using this

/-- The pieces without what is idle at the end. A dot that begins a relative path is its first step. -/
def steps (p : Path) : List String :=
  if p.absolute then dropLastWhile isIdle p.pieces
  else
    match p.pieces with
    | [] => []
    | first :: rest => first :: dropLastWhile isIdle rest

theorem length_steps_le (p : Path) : p.steps.length ≤ p.pieces.length := by
  unfold steps
  split
  · exact length_dropLastWhile_le _ _
  · split
    · simp
    · rename_i first rest h
      rw [h, List.length_cons, List.length_cons]
      exact Nat.succ_le_succ (length_dropLastWhile_le _ _)

def parent? (p : Path) : Option Path :=
  if p.steps.isEmpty then none
  else
    let above : Path := ⟨p.absolute, p.steps.dropLast⟩
    some ⟨p.absolute, above.steps⟩

theorem length_parent?_lt {p q : Path} (h : p.parent? = some q) : q.pieces.length < p.pieces.length := by
  unfold parent? at h
  split at h
  · cases h
  · rename_i hne
    obtain rfl := Option.some.inj h
    have hs := length_steps_le p
    have ha := length_steps_le ⟨p.absolute, p.steps.dropLast⟩
    rw [List.length_dropLast] at ha
    have : 0 < p.steps.length := by
      rcases hp : p.steps with _ | ⟨a, l⟩
      · simp [hp] at hne
      · simp
    simp only at *
    omega

def fileName? (p : Path) : Option String :=
  match p.steps.getLast? with
  | none => none
  | some name => if name = "." ∨ name = ".." then none else some name

/-- Where a path ends: at a directory that it reaches by dots, or at a name in one. -/
inductive Ending where
  | place (pieces : List String)
  | named (directory : List String) (name : String) (slash : Bool)
deriving DecidableEq, Repr

def ending (p : Path) : Ending :=
  let pieces := dropLastWhile (· == "") p.pieces
  match pieces.getLast? with
  | none => .place []
  | some name =>
    if name = "." ∨ name = ".." then .place pieces
    else .named pieces.dropLast name (pieces.length < p.pieces.length)

end Path

end BytecodeStore
