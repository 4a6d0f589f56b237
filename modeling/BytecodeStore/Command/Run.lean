import BytecodeStore.Bytecode.Summary
import BytecodeStore.Command.Arguments
import BytecodeStore.Command.Failure
import BytecodeStore.Command.Host
import BytecodeStore.Trace.Filter

/-! # Runs

A run loads its inputs one after the other and shows a view of each, or writes the view of its only input to a
file. It stops at the first failure; what was shown before stays shown. A view is complete before any of it is
written, so a failing input leaves no part of itself behind.
-/
namespace BytecodeStore

structure Environment where
  allocator : Allocator := .addressSpace
  filter : Option String := none

inductive Exit where
  | success
  | failure
  | usage
deriving DecidableEq, Repr

def Exit.code : Exit → UInt32
  | .success => 0
  | .failure => 1
  | .usage => 2

/-- The name shown for a chunk that was read under a path. -/
def titleOf (name : String) : String := (Path.ofString name).fileName?.getD "chunk"

namespace Options

def view (o : Options) (title : String) (c : Chunk) : String :=
  if o.json then (c.summary title).toJson.pretty ++ "\n" else c.listing title

/-- What is wrong with the inputs before any of them is read. -/
def inputFault? (o : Options) : Option Failure :=
  if o.inputs.isEmpty then some .noInput
  else if 1 < o.inputs.length ∧ "-" ∈ o.inputs then some .sharedStdin
  else if 1 < o.inputs.length ∧ o.emit.isSome then some .sharedOutput
  else none

end Options

namespace Run
variable {m : Type → Type} [Monad m] [Host m]

def trace (f : Filter) (e : Event) : m Unit := if f.shows e then Host.report e.line else pure ()

def traceAll (f : Filter) (events : List Event) : m Unit := events.forM (trace f)

def emit (o : Options) (f : Filter) (name : String) (c : Chunk) : ExceptT Failure m Unit := do
  if o.strict then
    match c.check with
    | .error e => throw (.invalid name e)
    | .ok () => pure ()
  let text := o.view (titleOf name) c
  match o.emit with
  | none => liftM (Host.print text : m Unit)
  | some path =>
    match ← liftM (Host.writeText path text : m _) with
    | .error e => throw (.notWritten path e)
    | .ok () => liftM (trace f (.written path) : m Unit)

def readInput (o : Options) (input : String) : ExceptT Failure m (Array UInt8 × String) := do
  if input = "-" then
    match ← liftM (Host.readStdin : m _) with
    | .error e => throw (.unreadableStdin e)
    | .ok bytes => pure (bytes, o.stdinName)
  else
    match ← liftM (Host.readFile input : m _) with
    | .error e => throw (.unreadable input e)
    | .ok bytes => pure (bytes, input)

def processInput (env : Environment) (o : Options) (f : Filter) (input : String) : ExceptT Failure m Unit := do
  let (bytes, name) ← readInput o input
  let (events, loaded) := Chunk.load env.allocator o.rule bytes
  liftM (traceAll f events : m Unit)
  match loaded with
  | .error e => throw (.notLoaded name e)
  | .ok c => emit o f name c

def processDemo (env : Environment) (o : Options) (f : Filter) : ExceptT Failure m Unit := do
  let (events, made) := Chunk.demo env.allocator o.rule
  liftM (traceAll f events : m Unit)
  match made with
  | .error e => throw (.noDemo e)
  | .ok c => emit o f "demo" c

def work (env : Environment) (o : Options) (f : Filter) : ExceptT Failure m Unit := do
  liftM (trace f (.ruleChosen o.rule) : m Unit)
  if o.demo then processDemo env o f
  else
    match o.inputFault? with
    | some fault => throw fault
    | none => o.inputs.forM (processInput env o f)

def execute (env : Environment) (o : Options) : m Exit := do
  match ← (work env o (.choose env.filter o.verbose o.quiet)).run with
  | .ok () => pure .success
  | .error failure =>
    Host.report s!"error: {failure.message}"
    pure .failure

def version : String := "0.1.0"

def help : String :=
  "Usage: poke-disasm [OPTIONS] [INPUTS]...\n\n" ++
  "  --demo --json --strict --emit <EMIT> --stdin-name <STDIN_NAME>\n" ++
  "  --min-capacity <MIN_CAPACITY> --growth-factor <GROWTH_FACTOR>\n" ++
  "  -v, --verbose... -q, --quiet -h, --help -V, --version\n"

def command (env : Environment) (words : List String) : m Exit := do
  match Options.ofWords words with
  | .ok o => execute env o
  | .error .version =>
    Host.print s!"poke-disasm {version}\n"
    pure .success
  | .error .help =>
    Host.print help
    pure .success
  | .error (.usage e) =>
    Host.report s!"error: {e.message}"
    pure .usage

end Run

end BytecodeStore
