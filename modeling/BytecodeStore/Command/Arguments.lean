import BytecodeStore.Growth.Rule
import BytecodeStore.Text.ControlSequence
import BytecodeStore.Text.Numeral

/-! # Arguments of the command line

Words are read from the left. A word is a flag or a cluster of short flags, an option that takes a value, or an
input; behind a lone `--` every word is an input. An option whose value is a word of its own is settled when the
next word that is no value is met, or at the end. The first word that breaks a rule decides what is reported;
arguments that exclude each other are looked for last, in the order in which they were given.
-/
namespace BytecodeStore

inductive Flag where
  | demo
  | json
  | strict
  | quiet
  | verbose
  | help
  | version
deriving DecidableEq, Repr

inductive Setting where
  | emit
  | stdinName
  | minCapacity
  | growthFactor
deriving DecidableEq, Repr

inductive Argument where
  | flag (f : Flag)
  | setting (s : Setting)
  | inputs
deriving DecidableEq, Repr

namespace Flag

def all : List Flag := [.demo, .json, .strict, .quiet, .verbose, .help, .version]

def long : Flag → String
  | .demo => "demo"
  | .json => "json"
  | .strict => "strict"
  | .quiet => "quiet"
  | .verbose => "verbose"
  | .help => "help"
  | .version => "version"

def short? : Flag → Option Char
  | .quiet => some 'q'
  | .verbose => some 'v'
  | .help => some 'h'
  | .version => some 'V'
  | _ => none

def ofLong? (name : String) : Option Flag := all.find? (·.long = name)

def ofShort? (c : Char) : Option Flag := all.find? (·.short? = some c)

def shown : Flag → String
  | .verbose => "--verbose..."
  | f => "--" ++ f.long

end Flag

namespace Setting

def all : List Setting := [.emit, .stdinName, .minCapacity, .growthFactor]

def long : Setting → String
  | .emit => "emit"
  | .stdinName => "stdin-name"
  | .minCapacity => "min-capacity"
  | .growthFactor => "growth-factor"

def ofLong? (name : String) : Option Setting := all.find? (·.long = name)

def shown : Setting → String
  | .emit => "--emit <EMIT>"
  | .stdinName => "--stdin-name <STDIN_NAME>"
  | .minCapacity => "--min-capacity <MIN_CAPACITY>"
  | .growthFactor => "--growth-factor <GROWTH_FACTOR>"

end Setting

namespace Argument

def shown : Argument → String
  | .flag f => f.shown
  | .setting s => s.shown
  | .inputs => "[INPUTS]..."

/-- The argument that may not be given together with this one. -/
def excluded? : Argument → Option Argument
  | .flag .demo => some .inputs
  | .inputs => some (.flag .demo)
  | .flag .quiet => some (.flag .verbose)
  | .flag .verbose => some (.flag .quiet)
  | _ => none

end Argument

inductive UsageError where
  | unexpectedArgument (word : String)
  | unexpectedValue (value : String) (flag : Flag)
  | missingValue (setting : Setting)
  | invalidValue (value : String) (setting : Setting) (fault : Numeral.Fault)
  | repeated (argument : Argument)
  | conflict (given other : Argument)
deriving DecidableEq, Repr

/-- A word of the command line as a message quotes it. -/
def quoteWord (word : String) : String := s!"'{ControlSequence.strip word}'"

def UsageError.message : UsageError → String
  | .unexpectedArgument word => s!"unexpected argument {quoteWord word} found"
  | .unexpectedValue value flag =>
    s!"unexpected value {quoteWord value} for '{flag.shown}' found; no more were expected"
  | .missingValue setting => s!"a value is required for '{setting.shown}' but none was supplied"
  | .invalidValue value setting fault => s!"invalid value {quoteWord value} for '{setting.shown}': {fault.message}"
  | .repeated argument => s!"the argument '{argument.shown}' cannot be used multiple times"
  | .conflict given other => s!"the argument '{given.shown}' cannot be used with '{other.shown}'"

structure Options where
  inputs : List String := []
  demo : Bool := false
  json : Bool := false
  emit : Option String := none
  strict : Bool := false
  stdinName : String := "<stdin>"
  rule : Doubling := {}
  verbose : Nat := 0
  quiet : Bool := false
deriving DecidableEq, Repr

inductive Halt where
  | usage (error : UsageError)
  | help
  | version
deriving DecidableEq, Repr

namespace Options

/-- How many flags for more detail are counted. -/
def maxVerbose : Nat := 255

def raise (o : Options) : Flag → Options
  | .demo => { o with demo := true }
  | .json => { o with json := true }
  | .strict => { o with strict := true }
  | .quiet => { o with quiet := true }
  | .verbose => { o with verbose := min (o.verbose + 1) maxVerbose }
  | .help | .version => o

def assign (o : Options) (setting : Setting) (value : String) : Except UsageError Options :=
  let number (f : UInt64 → Options) : Except UsageError Options :=
    match Numeral.parse value with
    | .ok n => .ok (f n)
    | .error fault => .error (.invalidValue value setting fault)
  match setting with
  | .emit => .ok { o with emit := some value }
  | .stdinName => .ok { o with stdinName := value }
  | .minCapacity => number fun n => { o with rule := { o.rule with minimum := n } }
  | .growthFactor => number fun n => { o with rule := { o.rule with factor := n } }

end Options

/-- A command line of which some words are read. -/
structure Reading where
  options : Options := {}
  /-- What was given, in order: a counted flag where it stood last, and all else where it stood first. -/
  given : List Argument := []
  /-- The option that is not settled yet, with its value if that was read. -/
  unsettled : Option (Setting × Option String) := none
  /-- Whether all further words are inputs. -/
  inputsOnly : Bool := false
deriving DecidableEq, Repr

namespace Reading

def note (r : Reading) (argument : Argument) : Reading :=
  { r with given := if argument ∈ r.given then r.given else r.given ++ [argument] }

def noteLast (r : Reading) (argument : Argument) : Reading :=
  { r with given := r.given.filter (fun other => other ≠ argument) ++ [argument] }

def assign (r : Reading) (setting : Setting) (value : String) : Except UsageError Reading :=
  if .setting setting ∈ r.given then .error (.repeated (.setting setting))
  else (r.options.assign setting value).map fun options => { r.note (.setting setting) with options := options }

def settle (r : Reading) : Except UsageError Reading :=
  match r.unsettled with
  | none => .ok r
  | some (setting, none) => .error (.missingValue setting)
  | some (setting, some value) => { r with unsettled := none }.assign setting value

def flag (r : Reading) (f : Flag) : Except Halt Reading := do
  let r ← r.settle.mapError .usage
  match f with
  | .help => .error .help
  | .version => .error .version
  | .verbose => .ok { r.noteLast (.flag f) with options := r.options.raise f }
  | f =>
    if .flag f ∈ r.given then .error (.usage (.repeated (.flag f)))
    else .ok { r.note (.flag f) with options := r.options.raise f }

def input (r : Reading) (word : String) : Except Halt Reading := do
  let r ← r.settle.mapError .usage
  .ok { r.note .inputs with options := { r.options with inputs := r.options.inputs ++ [word] } }

def cluster (r : Reading) : List Char → Except Halt Reading
  | [] => .ok r
  | c :: rest =>
    match Flag.ofShort? c with
    | none => .error (.usage (.unexpectedArgument (String.ofList ['-', c])))
    | some f => do (← r.flag f).cluster rest

/-- Reads a word behind two dashes: a name, and a value if there is an equals sign. -/
def long (r : Reading) (name : String) (value : Option String) : Except Halt Reading :=
  match Flag.ofLong? name, Setting.ofLong? name, value with
  | some f, _, none => r.flag f
  | some f, _, some value => .error (.usage (.unexpectedValue value f))
  | none, some setting, none => do
    let r ← r.settle.mapError .usage
    .ok { r with unsettled := some (setting, none) }
  | none, some setting, some value => do
    let r ← r.settle.mapError .usage
    (r.assign setting value).mapError .usage
  | none, none, _ => .error (.usage (.unexpectedArgument ("--" ++ name)))

def plain (r : Reading) (word : String) : Except Halt Reading :=
  match r.unsettled with
  | some (setting, none) => .ok { r with unsettled := some (setting, some word) }
  | _ => r.input word

def word (r : Reading) (word : String) : Except Halt Reading :=
  if r.inputsOnly then r.input word
  else
    match word.toList with
    | ['-', '-'] => .ok { r with inputsOnly := true }
    | '-' :: '-' :: rest =>
      let name := String.ofList (rest.takeWhile (· != '='))
      match rest.dropWhile (· != '=') with
      | [] => r.long name none
      | _ :: value => r.long name (some (String.ofList value))
    | '-' :: c :: rest => r.cluster (c :: rest)
    | _ => r.plain word

def conflict? (r : Reading) : Option UsageError :=
  r.given.findSome? fun argument =>
    match argument.excluded? with
    | some other => if other ∈ r.given then some (.conflict argument other) else none
    | none => none

def finish (r : Reading) : Except Halt Options := do
  let r ← r.settle.mapError .usage
  match r.conflict? with
  | some e => .error (.usage e)
  | none => .ok r.options

end Reading

namespace Options

def ofWords (words : List String) : Except Halt Options := do
  (← words.foldlM Reading.word {}).finish

end Options

end BytecodeStore
