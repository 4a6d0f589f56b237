import BytecodeStore.Json.Parsed
import BytecodeStore.Text.Hex

/-! # Strings in JSON texts

`readString` gives the characters that a string stands for. `skipString` only finds its end: it checks that
four digits follow a `u`, and not which character they name.
-/
namespace BytecodeStore.Json

/-- Four hexadecimal digits. A text of less than four further bytes has ended too early. -/
def readHex4 (s : List Char) : Read Nat s :=
  match s with
  | a :: b :: c :: d :: rest =>
    match Hex.digit? a, Hex.digit? b, Hex.digit? c, Hex.digit? d with
    | some a, some b, some c, some d =>
      .ok ⟨((a * 16 + b) * 16 + c) * 16 + d, rest, by simp only [List.length_cons]; omega⟩
    | _, _, _, _ => .error .malformed
  | s => if (String.ofList s).utf8ByteSize < 4 then .error .endOfText else .error .malformed

def isLeadingSurrogate (n : Nat) : Bool := 0xD800 ≤ n && n ≤ 0xDBFF

def isTrailingSurrogate (n : Nat) : Bool := 0xDC00 ≤ n && n ≤ 0xDFFF

def pairSurrogates (leading trailing : Nat) : Char :=
  Char.ofNat (0x10000 + (leading - 0xD800) * 0x400 + (trailing - 0xDC00))

/-- The second half of a pair of surrogates. -/
def readTrailing (s : List Char) : Read Nat s :=
  match s with
  | [] => .error .endOfText
  | '\\' :: [] => .error .endOfText
  | '\\' :: 'u' :: rest => do
    let p ← readHex4 rest
    if isTrailingSurrogate p.value then .ok (p.within (by simp only [List.length_cons]; omega))
    else .error .malformed
  | _ => .error .malformed

/-- The escapes of one letter. -/
def unescape? : Char → Option Char
  | '"' => some '"'
  | '\\' => some '\\'
  | '/' => some '/'
  | 'b' => some '\x08'
  | 'f' => some '\x0c'
  | 'n' => some '\n'
  | 'r' => some '\r'
  | 't' => some '\t'
  | _ => none

/-- The character that an escape behind its backslash stands for. -/
def readEscape (s : List Char) : Read Char s :=
  match s with
  | [] => .error .endOfText
  | 'u' :: rest => do
    let p ← readHex4 rest
    if isTrailingSurrogate p.value then .error .malformed
    else if isLeadingSurrogate p.value then
      let q ← readTrailing p.rest
      .ok ((q.map (pairSurrogates p.value)).within (by
        have := p.shorter
        simp only [List.length_cons]
        omega))
    else .ok ((p.map Char.ofNat).within (by simp only [List.length_cons]; omega))
  | c :: _ =>
    match unescape? c with
    | some d => .ok (.first d)
    | none => .error .malformed

/-- The content of a string of which the opening quote was read. -/
def readString (s : List Char) : Read (List Char) s :=
  match s with
  | [] => .error .endOfText
  | '"' :: _ => .ok (.first [])
  | '\\' :: rest => do
    let p ← readEscape rest
    let q ← readString p.rest
    .ok ((q.map (p.value :: ·)).within (by have := p.shorter; simp only [List.length_cons]; omega))
  | c :: rest =>
    if c.toNat < 0x20 then .error .malformed
    else (readString rest).map fun q => (q.map (c :: ·)).behind
termination_by s.length
decreasing_by
  · have := p.shorter
    simp only [List.length_cons]
    omega
  · simp

def skipEscape (s : List Char) : Read Unit s :=
  match s with
  | [] => .error .endOfText
  | 'u' :: rest => (readHex4 rest).map fun p => (p.map fun _ => ()).behind
  | c :: _ => if (unescape? c).isSome then .ok (.first ()) else .error .malformed

def skipString (s : List Char) : Read Unit s :=
  match s with
  | [] => .error .endOfText
  | '"' :: _ => .ok (.first ())
  | '\\' :: rest => do
    let p ← skipEscape rest
    let q ← skipString p.rest
    .ok (q.within (by have := p.shorter; simp only [List.length_cons]; omega))
  | c :: rest =>
    if c.toNat < 0x20 then .error .malformed
    else (skipString rest).map Parsed.behind
termination_by s.length
decreasing_by
  · have := p.shorter
    simp only [List.length_cons]
    omega
  · simp

end BytecodeStore.Json
