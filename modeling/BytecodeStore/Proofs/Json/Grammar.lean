import BytecodeStore.Json.NumberToken
import BytecodeStore.Json.StringToken
import Mathlib.Data.Nat.Notation

/-! # The grammar of JSON texts

Every relation here holds of a text, of what stands at its front, and of what is left behind that. Blanks may stand
around values, commas, colons and brackets, and nowhere else. A string is a list of characters and of escaped 16-bit
units; it is a Unicode text unless a surrogate in it has no partner. A number that is written with digits alone is the
natural number, and any other number is taken as it is written. An object keeps the order of its members and all of
them, also where a key comes twice.
-/
namespace BytecodeStore.Json

/-! ## What texts stand for -/

inductive Value where
  | null
  | bool (b : Bool)
  | natural (n : ℕ)
  | number (negative : Bool) (token : NumberToken)
  /-- There is no text in a string with half a pair of surrogates. -/
  | string (text : Option String)
  | array (items : List Value)
  | object (members : List (Option String × Value))

def Value.ofToken (negative : Bool) (token : NumberToken) : Value :=
  match negative, token with
  | false, ⟨whole, [], none⟩ => .natural (digitsValue whole)
  | negative, token => .number negative token

/-- What one character or one escape gives to a string. -/
inductive Piece where
  | char (c : Char)
  | unit (n : ℕ)
deriving DecidableEq

/-- The characters of a string. Two units are one character if they are a pair of surrogates. -/
def joined : List Piece → Option (List Char)
  | [] => some []
  | .char c :: rest => (joined rest).map (c :: ·)
  | .unit n :: rest =>
    if isTrailingSurrogate n then none
    else if isLeadingSurrogate n then
      match rest with
      | .unit m :: rest => if isTrailingSurrogate m then (joined rest).map (pairSurrogates n m :: ·) else none
      | _ => none
    else (joined rest).map (Char.ofNat n :: ·)

def textOf (pieces : List Piece) : Option String := (joined pieces).map String.ofList

/-! ## Tokens -/

inductive Blanks : List Char → List Char → Prop where
  | absent (t : List Char) : Blanks t t
  | more {c : Char} {s t : List Char} (blank : c ∈ [' ', '\n', '\t', '\r']) (rest : Blanks s t) : Blanks (c :: s) t

/-- One digit or more. -/
inductive Digits : List Char → List ℕ → List Char → Prop where
  | one {c : Char} (digit : c.isDigit = true) (t : List Char) : Digits (c :: t) [c.toNat - '0'.toNat] t
  | more {c : Char} {s t : List Char} {ds : List ℕ} (digit : c.isDigit = true) (rest : Digits s ds t) :
    Digits (c :: s) ((c.toNat - '0'.toNat) :: ds) t

inductive Fraction : List Char → List ℕ → List Char → Prop where
  | absent (t : List Char) : Fraction t [] t
  | present {s t : List Char} {ds : List ℕ} (digits : Digits s ds t) : Fraction ('.' :: s) ds t

inductive Sign : List Char → Bool → List Char → Prop where
  | absent (t : List Char) : Sign t false t
  | plus (t : List Char) : Sign ('+' :: t) false t
  | minus (t : List Char) : Sign ('-' :: t) true t

inductive Exponent : List Char → Option (Bool × List ℕ) → List Char → Prop where
  | absent (t : List Char) : Exponent t none t
  | present {c : Char} {s r t : List Char} {negative : Bool} {ds : List ℕ} (letter : c = 'e' ∨ c = 'E')
    (sign : Sign s negative r) (digits : Digits r ds t) : Exponent (c :: s) (some (negative, ds)) t

/-- A number without its sign. A zero stands in front of no other digit. -/
structure Number (s : List Char) (token : NumberToken) (t : List Char) : Prop where
  whole : ∃ r q, Digits s token.whole r ∧ Fraction r token.fraction q ∧ Exponent q token.exponent t
  leading : token.whole.head? = some 0 → token.whole = [0]

inductive Hex4 : List Char → ℕ → List Char → Prop where
  | mk {a b c d : Char} {i j k l : ℕ} (ha : Hex.digit? a = some i) (hb : Hex.digit? b = some j)
    (hc : Hex.digit? c = some k) (hd : Hex.digit? d = some l) (t : List Char) :
    Hex4 (a :: b :: c :: d :: t) (((i * 16 + j) * 16 + k) * 16 + l) t

/-- The letters behind a backslash, each with the character that it stands for. -/
def escapes : List (Char × Char) :=
  [('"', '"'), ('\\', '\\'), ('/', '/'), ('b', '\x08'), ('f', '\x0c'), ('n', '\n'), ('r', '\r'), ('t', '\t')]

/-- What stands behind the opening quote of a string, the closing one included. -/
inductive Content : List Char → List Piece → List Char → Prop where
  | done (t : List Char) : Content ('"' :: t) [] t
  | plain {c : Char} {s t : List Char} {ps : List Piece} (quote : c ≠ '"') (backslash : c ≠ '\\')
    (control : 0x20 ≤ c.toNat) (rest : Content s ps t) : Content (c :: s) (.char c :: ps) t
  | letter {c d : Char} {s t : List Char} {ps : List Piece} (escape : (c, d) ∈ escapes) (rest : Content s ps t) :
    Content ('\\' :: c :: s) (.char d :: ps) t
  | code {s r t : List Char} {n : ℕ} {ps : List Piece} (digits : Hex4 s n r) (rest : Content r ps t) :
    Content ('\\' :: 'u' :: s) (.unit n :: ps) t

/-- A key with its colon. -/
inductive Key : List Char → Option String → List Char → Prop where
  | mk {s r q t : List Char} {ps : List Piece} (before : Blanks s ('"' :: r)) (content : Content r ps q)
    (behind : Blanks q (':' :: t)) : Key s (textOf ps) t

/-! ## Values -/

mutual

/-- A value, without the blanks around it. -/
inductive Denotes : List Char → Value → List Char → Prop where
  | null (t : List Char) : Denotes ('n' :: 'u' :: 'l' :: 'l' :: t) .null t
  | yes (t : List Char) : Denotes ('t' :: 'r' :: 'u' :: 'e' :: t) (.bool true) t
  | no (t : List Char) : Denotes ('f' :: 'a' :: 'l' :: 's' :: 'e' :: t) (.bool false) t
  | positive {s t : List Char} {token : NumberToken} (number : Number s token t) :
    Denotes s (.ofToken false token) t
  | negative {s t : List Char} {token : NumberToken} (number : Number s token t) :
    Denotes ('-' :: s) (.ofToken true token) t
  | string {s t : List Char} {ps : List Piece} (content : Content s ps t) : Denotes ('"' :: s) (.string (textOf ps)) t
  | emptyArray {s t : List Char} (blanks : Blanks s (']' :: t)) : Denotes ('[' :: s) (.array []) t
  | array {s t : List Char} {vs : List Value} (items : Items s vs t) : Denotes ('[' :: s) (.array vs) t
  | emptyObject {s t : List Char} (blanks : Blanks s ('\x7d' :: t)) : Denotes ('\x7b' :: s) (.object []) t
  | object {s t : List Char} {ms : List (Option String × Value)} (members : Members s ms t) :
    Denotes ('\x7b' :: s) (.object ms) t

/-- One item or more, and the closing bracket. -/
inductive Items : List Char → List Value → List Char → Prop where
  | last {s r q t : List Char} {v : Value} (before : Blanks s r) (value : Denotes r v q)
    (behind : Blanks q (']' :: t)) : Items s [v] t
  | more {s r q p t : List Char} {v : Value} {vs : List Value} (before : Blanks s r) (value : Denotes r v q)
    (behind : Blanks q (',' :: p)) (rest : Items p vs t) : Items s (v :: vs) t

/-- One member or more, and the closing brace. -/
inductive Members : List Char → List (Option String × Value) → List Char → Prop where
  | last {s o r q t : List Char} {key : Option String} {v : Value} (name : Key s key o) (before : Blanks o r)
    (value : Denotes r v q) (behind : Blanks q ('\x7d' :: t)) : Members s [(key, v)] t
  | more {s o r q p t : List Char} {key : Option String} {v : Value} {ms : List (Option String × Value)}
    (name : Key s key o) (before : Blanks o r) (value : Denotes r v q) (behind : Blanks q (',' :: p))
    (rest : Members p ms t) : Members s ((key, v) :: ms) t

end

/-- A whole text: one value, with blanks around it. -/
def Stands (text : String) (v : Value) : Prop := ∃ s t, Blanks text.toList s ∧ Denotes s v t ∧ Blanks t []

end BytecodeStore.Json
