import BytecodeStore.Command.Run

/-! # What a run shows

On a machine, what becomes of one source is settled by the files and the standard input alone: the events on the way to
its view, and the view or the failure in its place. So a run over several sources that writes no file is told by putting
these outputs one behind the other, up to the first that failed.
-/
namespace BytecodeStore

/-! ## Performing -/

namespace Machine
variable {α β : Type}

/-- What a computation gives on a machine, and what it makes of the machine. -/
def perform (w : Machine) (x : ExceptT Failure (StateM Machine) α) : Except Failure α × Machine := x.run w

theorem perform_bind (w : Machine) (x : ExceptT Failure (StateM Machine) α)
    (next : α → ExceptT Failure (StateM Machine) β) :
    w.perform (x >>= next) =
      match w.perform x with
      | (.ok a, v) => v.perform (next a)
      | (.error e, v) => (.error e, v) := by
  have step : w.perform (x >>= next) = ExceptT.bindCont next (w.perform x).1 (w.perform x).2 := rfl
  rw [step]
  rcases w.perform x with ⟨e | a, v⟩ <;> rfl

theorem perform_forM_cons (w : Machine) (g : α → ExceptT Failure (StateM Machine) Unit) (a : α) (rest : List α) :
    w.perform ((a :: rest).forM g) =
      match w.perform (g a) with
      | (.ok (), v) => v.perform (rest.forM g)
      | (.error e, v) => (.error e, v) := by
  have step : (a :: rest).forM g = (g a >>= fun _ => rest.forM g) := rfl
  rw [step, perform_bind]
  rcases w.perform (g a) with ⟨e | _, v⟩ <;> rfl

@[simp] theorem perform_pure (w : Machine) (a : α) : w.perform (pure a) = (.ok a, w) := rfl

@[simp] theorem perform_lift (w : Machine) (x : StateM Machine α) : w.perform (liftM x) = (.ok (x w).1, (x w).2) := rfl

def logLines (f : Filter) (events : List Event) : List String :=
  (events.filter f.shows).flatMap fun e => linesOf e.line

def log (w : Machine) (f : Filter) (events : List Event) : Machine := { w with stderr := w.stderr ++ logLines f events }

theorem log_log (w : Machine) (f : Filter) (xs ys : List Event) : (w.log f xs).log f ys = w.log f (xs ++ ys) := by
  simp [log, logLines]

theorem trace_eq (w : Machine) (f : Filter) (e : Event) : (Run.trace f e : StateM Machine Unit) w = ((), w.log f [e]) := by
  unfold Run.trace log logLines
  cases shown : f.shows e with
  | false => simp [shown]; rfl
  | true => simp [shown]; rfl

theorem traceAll_eq (w : Machine) (f : Filter) (events : List Event) :
    (Run.traceAll f events : StateM Machine Unit) w = ((), w.log f events) := by
  induction events generalizing w with
  | nil => simp [log, logLines, Run.traceAll]; rfl
  | cons e rest ih =>
    have step : (Run.traceAll f (e :: rest) : StateM Machine Unit) w =
        (Run.traceAll f rest : StateM Machine Unit) ((Run.trace f e : StateM Machine Unit) w).2 := rfl
    rw [step, trace_eq, ih, log_log, List.singleton_append]

end Machine

/-! ## Sources -/

/-- What a run shows a view of: the demonstration, or an input. -/
inductive Source where
  | demo
  | input (word : String)
deriving DecidableEq

def Options.sources (o : Options) : List Source := if o.demo then [.demo] else o.inputs.map .input

/-- What is wrong with the options before any source is looked at. -/
def Options.fault? (o : Options) : Option Failure := if o.demo then none else o.inputFault?

/-- The view of a chunk, unless a strict run refuses it. -/
def Options.judge (o : Options) (name : String) (c : Chunk) : Except Failure String :=
  match o.strict, c.check with
  | true, .error e => .error (.invalid name e)
  | _, _ => .ok (o.view (titleOf name) c)

namespace Source

def name (o : Options) : Source → String
  | .demo => "demo"
  | .input word => if word = "-" then o.stdinName else word

def bytes (files : Workspace) (stdin : Array UInt8) : Source → Except FileError (Array UInt8)
  | .demo => .ok #[OpCode.ret.toByte]
  | .input word => if word = "-" then .ok stdin else files.read (.ofString word)

/-- The chunk of a source, with the events of loading it. -/
def chunk (env : Environment) (o : Options) (files : Workspace) (stdin : Array UInt8) (src : Source) :
    List Event × Except Failure Chunk :=
  match src with
  | .demo => ((Chunk.demo env.allocator o.rule).1, (Chunk.demo env.allocator o.rule).2.mapError .noDemo)
  | .input word =>
    match src.bytes files stdin with
    | .error e => ([], .error (.unreadable word e))
    | .ok bytes =>
      ((Chunk.load env.allocator o.rule bytes).1,
        (Chunk.load env.allocator o.rule bytes).2.mapError (.notLoaded (src.name o)))

end Source

namespace Run
variable {m : Type → Type} [Monad m] [Host m]

def process (env : Environment) (o : Options) (f : Filter) : Source → ExceptT Failure m Unit
  | .demo => processDemo env o f
  | .input word => processInput env o f word

end Run

/-! ## Outputs -/

/-- What work on some sources shows and reports, and the failure that ended it. -/
structure Output where
  stdout : String := ""
  events : List Event := []
  failure : Option Failure := none

namespace Output

def result (out : Output) : Except Failure Unit :=
  match out.failure with
  | none => .ok ()
  | some e => .error e

/-- The output of work that goes on with `later`, unless it has failed before. -/
def followedBy (out later : Output) : Output :=
  match out.failure with
  | none => ⟨out.stdout ++ later.stdout, out.events ++ later.events, later.failure⟩
  | some _ => out

def together : List Output → Output
  | [] => {}
  | out :: rest => out.followedBy (together rest)

/-- A machine that has shown an output. -/
def onto (out : Output) (f : Filter) (w : Machine) : Machine := (w.log f out.events).print out.stdout

theorem followedBy_of_some {out : Output} (h : out.failure ≠ none) (later : Output) : out.followedBy later = out := by
  unfold followedBy
  split
  · contradiction
  · rfl

theorem followedBy_empty (out : Output) : out.followedBy {} = out := by
  rcases out with ⟨stdout, events, failure⟩
  cases failure <;> simp [followedBy]

theorem together_singleton (out : Output) : together [out] = out := followedBy_empty out

theorem onto_onto (f : Filter) (w : Machine) {out : Output} (h : out.failure = none) (later : Output) :
    later.onto f (out.onto f w) = (out.followedBy later).onto f w := by
  simp [onto, followedBy, h, Machine.log, Machine.print, Machine.logLines, String.append_assoc]

theorem together_of_none {outs : List Output} (h : ∀ out ∈ outs, out.failure = none) :
    together outs = ⟨String.join (outs.map stdout), outs.flatMap events, none⟩ := by
  induction outs with
  | nil => rfl
  | cons out rest ih =>
    rw [together, ih fun later hl => h later (List.mem_cons_of_mem _ hl), followedBy, h out List.mem_cons_self]
    simp

/-- The first failure ends the output. -/
theorem together_of_some {before : List Output} {out : Output} (h : ∀ out ∈ before, out.failure = none)
    (failed : out.failure ≠ none) (after : List Output) :
    together (before ++ out :: after) =
      ⟨String.join (before.map stdout) ++ out.stdout, before.flatMap events ++ out.events, out.failure⟩ := by
  induction before with
  | nil =>
    rw [List.nil_append, together, followedBy_of_some failed]
    simp
  | cons first rest ih =>
    rw [List.cons_append, together, ih fun later hl => h later (List.mem_cons_of_mem _ hl), followedBy,
      h first List.mem_cons_self]
    simp [String.append_assoc]

theorem together_failure_eq_none_iff {outs : List Output} :
    (together outs).failure = none ↔ ∀ out ∈ outs, out.failure = none := by
  constructor
  · intro fine
    induction outs with
    | nil => nofun
    | cons out rest ih =>
      rw [together, followedBy] at fine
      cases failed : out.failure with
      | some e =>
        simp [failed] at fine
      | none =>
        simp only [failed] at fine
        exact List.forall_mem_cons.mpr ⟨failed, ih fine⟩
  · intro all
    rw [together_of_none all]

end Output

/-- What becomes of a source, if its view is shown. -/
def Source.output (env : Environment) (o : Options) (files : Workspace) (stdin : Array UInt8) (src : Source) : Output :=
  match (src.chunk env o files stdin).2.bind (o.judge (src.name o)) with
  | .error e => { events := (src.chunk env o files stdin).1, failure := some e }
  | .ok text => { stdout := text, events := (src.chunk env o files stdin).1 }

namespace Source
variable {env : Environment} {o : Options} {files : Workspace} {stdin : Array UInt8} {src : Source}

theorem output_of_error {e : Failure} (failed : (src.chunk env o files stdin).2 = .error e) :
    src.output env o files stdin = { events := (src.chunk env o files stdin).1, failure := some e } := by
  rw [output, failed]
  rfl

theorem output_of_judge_error {c : Chunk} {e : Failure} (loaded : (src.chunk env o files stdin).2 = .ok c)
    (refused : o.judge (src.name o) c = .error e) :
    src.output env o files stdin = { events := (src.chunk env o files stdin).1, failure := some e } := by
  simp only [output, loaded, Except.bind, refused]

theorem output_of_judge_ok {c : Chunk} {text : String} (loaded : (src.chunk env o files stdin).2 = .ok c)
    (passed : o.judge (src.name o) c = .ok text) :
    src.output env o files stdin = { stdout := text, events := (src.chunk env o files stdin).1 } := by
  simp only [output, loaded, Except.bind, passed]

/-- A view is complete before any of it is shown, so a source that fails shows nothing. -/
theorem stdout_of_failure (failed : (src.output env o files stdin).failure ≠ none) :
    (src.output env o files stdin).stdout = "" := by
  unfold output at failed ⊢
  split
  · rfl
  · rename_i ok
    rw [ok] at failed
    exact absurd rfl failed

end Source

namespace Run
open Machine
variable (env : Environment) (o : Options) (f : Filter) (w : Machine)

/-- What is done with a view: it is shown, or written to a file. -/
def deliver (text : String) : ExceptT Failure (StateM Machine) Unit :=
  match o.emit with
  | none => liftM (Host.print text : StateM Machine Unit)
  | some path => do
    match ← liftM (Host.writeText path text : StateM Machine _) with
    | .error e => throw (.notWritten path e)
    | .ok () => liftM (trace f (.written path) : StateM Machine Unit)

theorem perform_emit (name : String) (c : Chunk) :
    w.perform (emit o f name c) =
      match o.judge name c with
      | .error e => (.error e, w)
      | .ok text => w.perform (deliver o f text) := by
  unfold emit Options.judge
  cases o.strict <;> cases c.check <;> rfl

theorem perform_readInput (word : String) :
    w.perform (readInput o word) =
      match (Source.input word).bytes w.workspace w.stdin with
      | .error e => (.error (.unreadable word e), w)
      | .ok bytes => (.ok (bytes, (Source.input word).name o), w) := by
  unfold readInput Source.bytes Source.name
  by_cases h : word = "-"
  · simp only [if_pos h, perform_bind, perform_lift]
    rfl
  · simp only [if_neg h, perform_bind, perform_lift]
    have read : (Host.readFile word : StateM Machine _) w = (w.workspace.read (.ofString word), w) := rfl
    rw [read]
    cases w.workspace.read (.ofString word) <;> rfl

/-- A source is worked on up to its view, and then the view is delivered. -/
theorem perform_process (src : Source) :
    w.perform (process env o f src) =
      let out := src.output env o w.workspace w.stdin
      match out.failure with
      | some e => (.error e, w.log f out.events)
      | none => (w.log f out.events).perform (deliver o f out.stdout) := by
  have loaded : w.perform (process env o f src) =
      match (src.chunk env o w.workspace w.stdin).2 with
      | .error e => (.error e, w.log f (src.chunk env o w.workspace w.stdin).1)
      | .ok c => (w.log f (src.chunk env o w.workspace w.stdin).1).perform (emit o f (src.name o) c) := by
    cases src with
    | demo =>
      simp only [process, processDemo, perform_bind, perform_lift, traceAll_eq, Source.chunk]
      cases (Chunk.demo env.allocator o.rule).2 <;> rfl
    | input word =>
      simp only [process, processInput, perform_bind, perform_readInput, Source.chunk]
      cases (Source.input word).bytes w.workspace w.stdin with
      | error e => simp [log, logLines]
      | ok bytes =>
        simp only [perform_lift, traceAll_eq]
        cases (Chunk.load env.allocator o.rule bytes).2 <;> rfl
  rw [loaded, Source.output]
  cases (src.chunk env o w.workspace w.stdin).2 with
  | error e => rfl
  | ok c =>
    simp only [perform_emit, Except.bind]
    cases o.judge (src.name o) c <;> rfl

omit w in
theorem forM_map_input (inputs : List String) :
    (inputs.map Source.input).forM (process env o f : Source → ExceptT Failure (StateM Machine) Unit) =
      inputs.forM (processInput env o f) := by
  induction inputs with
  | nil => rfl
  | cons a rest ih => exact congrArg (processInput env o f a >>= fun _ => ·) ih

theorem perform_work :
    w.perform (work env o f) =
      match o.fault? with
      | some e => (.error e, w.log f [.ruleChosen o.rule])
      | none => (w.log f [.ruleChosen o.rule]).perform (o.sources.forM (process env o f)) := by
  simp only [work, perform_bind, perform_lift, trace_eq, Options.fault?, Options.sources]
  cases o.demo with
  | true =>
    simp only [if_true, perform_forM_cons]
    change perform _ (process env o f .demo) = _
    rcases perform _ (process env o f .demo) with ⟨e | _, v⟩ <;> rfl
  | false =>
    simp only [Bool.false_eq_true, if_false]
    cases o.inputFault? with
    | some e => rfl
    | none => exact congrArg (perform _) (forM_map_input env o f o.inputs).symm

theorem perform_process_of_shown (shown : o.emit = none) (src : Source) :
    w.perform (process env o f src) =
      ((src.output env o w.workspace w.stdin).result, (src.output env o w.workspace w.stdin).onto f w) := by
  rw [perform_process]
  cases failed : (src.output env o w.workspace w.stdin).failure with
  | some e =>
    simp [Output.result, Output.onto, failed, Source.stdout_of_failure (failed ▸ Option.some_ne_none e), print]
  | none =>
    simp only [Output.result, Output.onto, failed, deliver, shown]
    rfl

/-- Views that are shown change neither the files nor the standard input, so each source has its own output. -/
theorem perform_forM_of_shown (shown : o.emit = none) (srcs : List Source) :
    w.perform (srcs.forM (process env o f)) =
      ((Output.together (srcs.map (Source.output env o w.workspace w.stdin))).result,
        (Output.together (srcs.map (Source.output env o w.workspace w.stdin))).onto f w) := by
  induction srcs generalizing w with
  | nil =>
    simp [Output.together, Output.result, Output.onto, log, print, logLines]
  | cons src rest ih =>
    rw [perform_forM_cons, perform_process_of_shown env o f w shown, List.map_cons, Output.together]
    cases failed : (src.output env o w.workspace w.stdin).failure with
    | none =>
      have same := Output.onto_onto f w failed (.together (rest.map (Source.output env o w.workspace w.stdin)))
      simp only [Output.result, failed]
      rw [ih, ← same]
      simp only [Output.followedBy, failed]
      rfl
    | some e => simp only [Output.result, Output.followedBy, failed]

end Run

/-! ## Whole runs -/

/-- The lines in which a failure is reported at the end of a run. -/
def Failure.lines (e : Failure) : List String := Machine.linesOf s!"error: {e.message}"

namespace Run
open Machine
variable (env : Environment) (o : Options) (files : Workspace) (stdin : Array UInt8)

/-- The machine that a run begins with. -/
def begun : Machine := { workspace := files, stdin := stdin }

/-- How a command line ends, and what it makes of the files and the outputs. -/
def ended (words : List String) : Exit × Machine := (command env words : StateM Machine Exit) (begun files stdin)

def conclude : Except Failure Unit × Machine → Exit × Machine
  | (.ok (), w) => (.success, w)
  | (.error e, w) => (.failure, w.report s!"error: {e.message}")

def filter : Filter := .choose env.filter o.verbose o.quiet

theorem execute_eq (w : Machine) :
    (execute env o : StateM Machine Exit) w = conclude (w.perform (work env o (filter env o))) := by
  rcases worked : w.perform (work env o (filter env o)) with ⟨e | ⟨⟨⟩⟩, v⟩
  all_goals
    have step : (work env o (.choose env.filter o.verbose o.quiet) : ExceptT Failure (StateM Machine) Unit).run w = _ :=
      worked
    simp only [execute, bind, StateT.bind, step]
    rfl

theorem ended_of_accepted {words : List String} (accepted : Options.ofWords words = .ok o) :
    ended env files stdin words = conclude ((begun files stdin).perform (work env o (filter env o))) := by
  rw [← execute_eq, ended, command, accepted]

/-- The output of a run that shows its views. -/
def shown : Output :=
  Output.followedBy { events := [.ruleChosen o.rule], failure := o.fault? }
    (.together (o.sources.map (Source.output env o files stdin)))

variable {env o files stdin}

theorem shown_of_no_fault (fine : o.fault? = none) :
    shown env o files stdin =
      let out := Output.together (o.sources.map (Source.output env o files stdin))
      ⟨out.stdout, .ruleChosen o.rule :: out.events, out.failure⟩ := by
  simp [shown, Output.followedBy, fine]

theorem shown_of_fault {e : Failure} (fault : o.fault? = some e) :
    shown env o files stdin = { events := [.ruleChosen o.rule], failure := some e } := by
  simp [shown, Output.followedBy, fault]

theorem shown_failure_eq_none_iff :
    (shown env o files stdin).failure = none ↔
      o.fault? = none ∧ ∀ src ∈ o.sources, (src.output env o files stdin).failure = none := by
  cases fault : o.fault? with
  | some e =>
    rw [shown_of_fault fault]
    exact ⟨nofun, nofun⟩
  | none =>
    rw [shown_of_no_fault fault]
    simp [Output.together_failure_eq_none_iff]

end Run

/-- How a run ends that shows an output on a machine. -/
def Output.ended (out : Output) (f : Filter) (w : Machine) : Exit × Machine := Run.conclude (out.result, out.onto f w)

theorem Run.ended_of_shown {env : Environment} {o : Options} {words : List String} (files : Workspace)
    (stdin : Array UInt8) (accepted : Options.ofWords words = .ok o) (noEmit : o.emit = none) :
    ended env files stdin words = (shown env o files stdin).ended (filter env o) (begun files stdin) := by
  rw [ended_of_accepted env o files stdin accepted, perform_work, shown]
  cases fault : o.fault? with
  | some e => simp [Output.ended, Output.followedBy, Output.result, Output.onto, Machine.print]
  | none =>
    simp only
    rw [perform_forM_of_shown env o _ _ noEmit, Output.ended, ← Output.onto_onto _ _ rfl _]
    rfl

namespace Output
variable {out : Output} {e : Failure} (f : Filter) (w : Machine)

theorem ended_of_none (h : out.failure = none) : out.ended f w = (.success, out.onto f w) := by
  simp [ended, result, h, Run.conclude]

theorem ended_of_some (h : out.failure = some e) :
    out.ended f w = (.failure, (out.onto f w).report s!"error: {e.message}") := by
  simp [ended, result, h, Run.conclude]

theorem code_ended : (out.ended f w).1.code = if out.failure = none then 0 else 1 := by
  cases h : out.failure with
  | none =>
    rw [ended_of_none f w h]
    rfl
  | some e =>
    rw [ended_of_some f w h]
    rfl

theorem code_ended_eq_zero_iff : (out.ended f w).1.code = 0 ↔ out.failure = none := by
  rw [code_ended]
  split <;> simp [*]

theorem stdout_ended : (out.ended f w).2.stdout = w.stdout ++ out.stdout := by
  cases h : out.failure with
  | none => rw [ended_of_none f w h, onto, Machine.print, Machine.log]
  | some e => rw [ended_of_some f w h, Machine.report, onto, Machine.print, Machine.log]

theorem stderr_ended_of_some (h : out.failure = some e) :
    (out.ended f w).2.stderr = w.stderr ++ Machine.logLines f out.events ++ e.lines := by
  rw [ended_of_some f w h]
  rfl

theorem workspace_ended : (out.ended f w).2.workspace = w.workspace := by
  cases h : out.failure with
  | none => rw [ended_of_none f w h, onto, Machine.print, Machine.log]
  | some e => rw [ended_of_some f w h, Machine.report, onto, Machine.print, Machine.log]

end Output

end BytecodeStore
