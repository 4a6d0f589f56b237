import BytecodeStore.Proofs.Command.Output
import BytecodeStore.Proofs.Files.Writing

/-! # Runs over several inputs

The inputs of a run that shows its views do not meet: what becomes of each is what becomes of it alone. The run shows
their views one behind the other, up to the first input that fails alone, and then fails as that one does.
-/
namespace BytecodeStore.Run
variable {env : Environment} {o : Options} {files : Workspace} {stdin : Array UInt8} {a : String}

theorem fault?_of_inputs (noDemo : o.demo = false) (noEmit : o.emit = none) (given : o.inputs ≠ [])
    (alone : 1 < o.inputs.length → "-" ∉ o.inputs) : o.fault? = none := by
  have crowded : ¬ (1 < o.inputs.length ∧ "-" ∈ o.inputs) := fun h => alone h.1 h.2
  simp [Options.fault?, Options.inputFault?, noDemo, noEmit, given, crowded]

/-- The run that reports its rule and goes on with an output. -/
def ruled (env : Environment) (o : Options) (files : Workspace) (stdin : Array UInt8) (out : Output) : Exit × Machine :=
  Output.ended ⟨out.stdout, .ruleChosen o.rule :: out.events, out.failure⟩ (filter env o) (begun files stdin)

theorem code_ruled_eq_zero_iff {out : Output} : (ruled env o files stdin out).1.code = 0 ↔ out.failure = none :=
  Output.code_ended_eq_zero_iff _ _

theorem code_ruled {out : Output} (failed : out.failure ≠ none) : (ruled env o files stdin out).1.code = 1 := by
  rw [ruled, Output.code_ended, if_neg failed]

theorem stdout_ruled {out : Output} : (ruled env o files stdin out).2.stdout = out.stdout := by
  rw [ruled, Output.stdout_ended]
  exact String.empty_append

theorem stderr_ruled {out : Output} {e : Failure} (failed : out.failure = some e) :
    (ruled env o files stdin out).2.stderr =
      Machine.logLines (filter env o) (.ruleChosen o.rule :: out.events) ++ e.lines :=
  Output.stderr_ended_of_some _ _ failed

/-- What is shown of several inputs is what is shown of each, the rule being reported once. -/
theorem ended_of_inputs {words : List String} (accepted : Options.ofWords words = .ok o) (noDemo : o.demo = false)
    (noEmit : o.emit = none) (given : o.inputs ≠ []) (alone : 1 < o.inputs.length → "-" ∉ o.inputs) :
    ended env files stdin words =
      ruled env o files stdin (.together (o.inputs.map fun a => (Source.input a).output env o files stdin)) := by
  have sources : o.sources = o.inputs.map .input := by rw [Options.sources, noDemo, if_neg Bool.false_ne_true]
  rw [ended_of_shown files stdin accepted noEmit,
    shown_of_no_fault (fault?_of_inputs noDemo noEmit given alone), sources, List.map_map]
  rfl

theorem ended_of_input {words : List String} {a : String}
    (accepted : Options.ofWords words = .ok { o with inputs := [a] }) (noDemo : o.demo = false) (noEmit : o.emit = none) :
    ended env files stdin words = ruled env o files stdin ((Source.input a).output env o files stdin) := by
  have alone : 1 < [a].length → "-" ∉ [a] := fun h => absurd h (Nat.lt_irrefl 1)
  rw [ended_of_inputs accepted noDemo noEmit (List.cons_ne_nil a []) alone, List.map_singleton, Output.together_singleton]
  rfl

theorem code_of_input_eq_zero_iff {words : List String} (accepted : Options.ofWords words = .ok { o with inputs := [a] })
    (noDemo : o.demo = false) (noEmit : o.emit = none) :
    (ended env files stdin words).1.code = 0 ↔ ((Source.input a).output env o files stdin).failure = none := by
  rw [ended_of_input accepted noDemo noEmit]
  exact code_ruled_eq_zero_iff

/-- What inputs show alone. -/
theorem join_stdout_of_inputs {single : String → List String} {inputs : List String}
    (each : ∀ a ∈ inputs, Options.ofWords (single a) = .ok { o with inputs := [a] }) (noDemo : o.demo = false)
    (noEmit : o.emit = none) :
    String.join (inputs.map fun a => (ended env files stdin (single a)).2.stdout) =
      String.join ((inputs.map fun a => (Source.input a).output env o files stdin).map Output.stdout) := by
  rw [List.map_map]
  refine congrArg String.join (List.map_congr_left fun a ha => ?_)
  rw [ended_of_input (each a ha) noDemo noEmit, stdout_ruled]
  rfl

/-- Two runs report the same failure last, each behind the events that it shows. -/
def SameFailure (f : Filter) (w w' : Machine) : Prop :=
  ∃ (e : Failure) (events events' : List Event),
    w.stderr = Machine.logLines f events ++ e.lines ∧ w'.stderr = Machine.logLines f events' ++ e.lines

/-- A run over several inputs is the runs over each of them, one behind the other. If none of these fails, it shows what
they show; if some do, it ends like the first of them, behind what the runs before it show. -/
theorem inputs_run_as_alone {words : List String} (accepted : Options.ofWords words = .ok o) (noDemo : o.demo = false)
    (noEmit : o.emit = none) (given : o.inputs ≠ []) (alone : 1 < o.inputs.length → "-" ∉ o.inputs)
    {single : String → List String}
    (each : ∀ a ∈ o.inputs, Options.ofWords (single a) = .ok { o with inputs := [a] }) :
    let run := ended env files stdin words
    let runOf := fun a => ended env files stdin (single a)
    ((∀ a ∈ o.inputs, (runOf a).1.code = 0) →
      run.1.code = 0 ∧ run.2.stdout = String.join (o.inputs.map fun a => (runOf a).2.stdout)) ∧
    ∀ before a after, o.inputs = before ++ a :: after → (∀ b ∈ before, (runOf b).1.code = 0) →
      (runOf a).1.code ≠ 0 →
        run.1.code = 1 ∧ run.2.stdout = String.join (before.map fun b => (runOf b).2.stdout) ∧
          SameFailure (filter env o) run.2 (runOf a).2 := by
  intro run runOf
  let out : String → Output := fun a => (Source.input a).output env o files stdin
  have whole : run = ruled env o files stdin (.together (o.inputs.map out)) :=
    ended_of_inputs accepted noDemo noEmit given alone
  have code_iff (a : String) (ha : a ∈ o.inputs) : (runOf a).1.code = 0 ↔ (out a).failure = none :=
    code_of_input_eq_zero_iff (each a ha) noDemo noEmit
  constructor
  · intro codes
    have fine : ∀ x ∈ o.inputs.map out, x.failure = none :=
      List.forall_mem_map.mpr fun a ha => (code_iff a ha).mp (codes a ha)
    rw [whole, join_stdout_of_inputs each noDemo noEmit, stdout_ruled, code_ruled_eq_zero_iff, Output.together_of_none fine]
    exact ⟨rfl, rfl⟩
  · intro before a after split codes failed
    have inside : ∀ b ∈ before, b ∈ o.inputs := fun b hb => by rw [split]; exact List.mem_append_left _ hb
    have here : a ∈ o.inputs := by rw [split]; exact List.mem_append_right _ List.mem_cons_self
    have fine : ∀ x ∈ before.map out, x.failure = none :=
      List.forall_mem_map.mpr fun b hb => (code_iff b (inside b hb)).mp (codes b hb)
    rw [Ne, code_iff a here] at failed
    obtain ⟨e, he⟩ := Option.ne_none_iff_exists'.mp failed
    -- The failing input has shown nothing of itself.
    have first := Output.together_of_some fine failed (after.map out)
    rw [← List.map_cons, ← List.map_append, ← split, Source.stdout_of_failure failed, String.append_empty] at first
    rw [whole, join_stdout_of_inputs (fun b hb => each b (inside b hb)) noDemo noEmit,
      show runOf a = _ from ended_of_input (each a here) noDemo noEmit, first]
    exact ⟨code_ruled failed, stdout_ruled, e, _, _, stderr_ruled he, stderr_ruled he⟩

/-- The second of three inputs is not there. -/
theorem missing_input_runs_as_alone :
    let files : Workspace := ⟨⟨[("a", .file #[0]), ("c", .file #[])]⟩, [], rfl⟩
    let o : Options := { inputs := ["a", "b", "c"], json := true }
    let run := ended {} files #[] ["a", "--json", "b", "c"]
    let runOf := fun a => ended {} files #[] ["--json", a]
    (runOf "a").1.code = 0 ∧ (runOf "b").1.code ≠ 0 ∧ run.1.code = 1 ∧
      run.2.stdout = String.join [(runOf "a").2.stdout] ∧ SameFailure (filter {} o) run.2 (runOf "b").2 := by
  intro files o run runOf
  have accepted : Options.ofWords ["a", "--json", "b", "c"] = .ok o := rfl
  have each : ∀ a ∈ o.inputs, Options.ofWords ["--json", a] = .ok { o with inputs := [a] } := by
    simp only [o, List.forall_mem_cons]
    exact ⟨rfl, rfl, rfl, List.forall_mem_nil _⟩
  have first : ∀ b ∈ ["a"], (runOf b).1.code = 0 := by
    intro b hb
    obtain rfl := List.mem_singleton.mp hb
    have read : (Source.input "a").bytes files #[] = .ok #[0] := by
      have screened : Workspace.screen (.ofString "a") = .ok () := Workspace.screen_piece (by decide) (by decide)
      rw [Source.bytes, Workspace.read, screened]
      rfl
    have loaded : ((Source.input "a").chunk {} o files #[]).2 = .ok ⟨#[0], 8, {}, by decide⟩ := by
      rw [Source.chunk, read]
      rfl
    rw [show runOf "a" = _ from ended_of_input (each "a" List.mem_cons_self) rfl rfl, code_ruled_eq_zero_iff,
      Source.output_of_judge_ok loaded rfl]
  have second : (runOf "b").1.code ≠ 0 := by
    have missing : (Source.input "b").bytes files #[] = .error .notFound := by
      have screened : Workspace.screen (.ofString "b") = .ok () := Workspace.screen_piece (by decide) (by decide)
      rw [Source.bytes, Workspace.read, screened]
      rfl
    have failed : ((Source.input "b").chunk {} o files #[]).2 = .error (.unreadable "b" .notFound) := by
      rw [Source.chunk, missing]
    rw [show runOf "b" = _ from ended_of_input (each "b" (by decide)) rfl rfl, Ne, code_ruled_eq_zero_iff,
      Source.output_of_error failed]
    exact Option.some_ne_none _
  have all := (inputs_run_as_alone accepted rfl rfl (List.cons_ne_nil _ _) (by decide) each).2 ["a"] "b" ["c"] rfl first second
  exact ⟨first "a" List.mem_cons_self, second, all⟩

end BytecodeStore.Run
