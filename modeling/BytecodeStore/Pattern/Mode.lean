import BytecodeStore.Text.Parsed
import BytecodeStore.Text.CharClass

/-! # Modes of a pattern

A pattern is a regular expression. Flags in it change how the rest of the group around them is read.
-/
namespace BytecodeStore.Pattern

structure Mode where
  /-- White space and comments are passed over. -/
  extended : Bool := false
  /-- A letter stands for both of its cases. -/
  caseless : Bool := false
  /-- Characters are matched, and not bytes. -/
  unicode : Bool := true
deriving DecidableEq, Repr

def skipComments (inComment : Bool) : List Char → List Char
  | [] => []
  | c :: rest =>
    if inComment then skipComments (c != '\n') rest
    else if Space.isSpace c then skipComments false rest
    else if c == '#' then skipComments true rest
    else c :: rest

theorem length_skipComments_le (inComment : Bool) (s : List Char) :
    (skipComments inComment s).length ≤ s.length := by
  induction s generalizing inComment with
  | nil => simp [skipComments]
  | cons c rest ih =>
    simp only [skipComments]
    split
    · exact Nat.le_succ_of_le (ih _)
    · split
      · exact Nat.le_succ_of_le (ih _)
      · split
        · exact Nat.le_succ_of_le (ih _)
        · exact Nat.le_refl _

namespace Mode

/-- The text from the next sign on. -/
def skip (m : Mode) (s : List Char) : List Char := if m.extended then skipComments false s else s

theorem length_skip_le (m : Mode) (s : List Char) : (m.skip s).length ≤ s.length := by
  unfold skip
  split
  · exact length_skipComments_le false s
  · exact Nat.le_refl _

theorem length_lt_of_skip {m : Mode} {s rest : List Char} {c : Char} (h : m.skip s = c :: rest) :
    rest.length < s.length := by
  have := m.length_skip_le s
  rw [h, List.length_cons] at this
  exact this

/-- Sets a flag. Some have no part in how a pattern is read. -/
def set? (m : Mode) (flag : Char) (on : Bool) : Option Mode :=
  match flag with
  | 'x' => some { m with extended := on }
  | 'i' => some { m with caseless := on }
  | 'u' => some { m with unicode := on }
  | 'm' | 's' | 'U' | 'R' => some m
  | _ => none

end Mode

/-- Reads flags, those behind a dash being cleared, up to a colon, which opens a group, or a parenthesis. -/
def readFlags (seen : List Char) (on : Bool) (m : Mode) : (s : List Char) → Option (Parsed (Mode × Bool) s)
  | [] => none
  | c :: rest =>
    if c == ':' || c == ')' then
      if seen.head? = some '-' ∨ (c == ')' && seen.isEmpty) then none
      else some (.first (m, c == ':'))
    else if seen.contains c then none
    else if c == '-' then (readFlags (c :: seen) false m rest).map Parsed.behind
    else (m.set? c on).bind fun m => (readFlags (c :: seen) on m rest).map Parsed.behind

end BytecodeStore.Pattern
