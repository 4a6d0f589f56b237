/-! # Control sequences

A terminal takes some characters for commands: control characters, and the sequences that an escape character
opens. `strip` leaves of a text what a terminal would show of it. White space inside a sequence is shown, and so
is what follows it up to the next control character, from which on the sequence is continued unless a character
beyond the first 128 has ended it. What a sequence still lacks at the end of the text is not asked for.
-/
namespace BytecodeStore.ControlSequence

inductive State where
  | text
  | opened
  /-- The escape character and signs that designate a character set. -/
  | designation
  /-- A sequence that ends at its first letter. -/
  | parameters
  /-- A text for the terminal itself, up to a bell. -/
  | command
  /-- The beginning of a text for a device. -/
  | device
  /-- The parameters of a text for a device. -/
  | deviceParameters
  /-- Further signs before a text for a device. -/
  | deviceDesignation
  /-- A text that is not for the screen, up to a terminator. -/
  | message
deriving DecidableEq, Repr

def escape : Char := '\x1b'

def bell : Char := '\x07'

/-- The byte that ends a message. It is also the tail of some encoded characters. -/
def terminator : UInt8 := 0x9C

def isCancel (c : Char) : Bool := c == '\x18' || c == '\x1a'

/-- The control characters that move on in a text and show nothing. -/
def isLayout (c : Char) : Bool := c == '\t' || c == '\n' || c == '\x0c' || c == '\r'

def between (first last c : Char) : Bool := first.toNat ≤ c.toNat && c.toNat ≤ last.toNat

namespace State

/-- Whether a character is shown where it stands. -/
def shows (s : State) (c : Char) : Bool :=
  match s with
  | .text => isLayout c || between ' ' '~' c || 0x80 ≤ c.toNat
  | .opened | .designation | .parameters => isLayout c
  | .command | .device | .deviceParameters | .deviceDesignation | .message => false

def afterEscape (c : Char) : State :=
  if c == '[' then .parameters
  else if c == ']' then .command
  else if c == 'P' then .device
  else if c == 'X' || c == '^' || c == '_' then .message
  else if between ' ' '/' c then .designation
  else if between '0' '~' c then .text
  else .opened

/-- Goes on before a text for a device. What stands against the order of its signs belongs to the text. -/
def afterDevice (s : State) (c : Char) : State :=
  if between '@' '~' c || c == ':' then .message
  else if between ' ' '/' c then .deviceDesignation
  else if between '0' '?' c then
    if s == .device || (s == .deviceParameters && (c.isDigit || c == ';')) then .deviceParameters else .message
  else s

def next (s : State) (c : Char) : State :=
  if c == escape then .opened
  else if isCancel c then .text
  else
    match s with
    | .text => .text
    | .opened => afterEscape c
    | .designation => if between '0' '~' c then .text else s
    | .parameters => if between '@' '~' c then .text else s
    | .command => if c == bell then .text else s
    | .device | .deviceParameters | .deviceDesignation => afterDevice s c
    | .message => if (String.singleton c).toUTF8.data.contains terminator then .text else s

end State

/-- What is shown of a text. While `showing` holds, an open sequence is at rest. -/
def visible (s : State) (showing : Bool) : List Char → List Char
  | [] => []
  | c :: rest =>
    if s.shows c || (showing && State.text.shows c) then
      c :: visible (if 0x80 ≤ c.toNat then .text else s) true rest
    else visible (s.next c) false rest

def strip (text : String) : String := String.ofList (visible .text false text.toList)

end BytecodeStore.ControlSequence
