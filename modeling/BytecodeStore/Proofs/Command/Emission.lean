import BytecodeStore.Proofs.Command.Output
import BytecodeStore.Proofs.Command.Words
import BytecodeStore.Proofs.Files.Writing

/-! # Views that are written to a file

A run comes to its views in the same way whether it shows or writes them, and a view is written only when nothing can
fail any more but the writing. So a run that fails while its views are made leaves the files alone, and one that does
not writes what it would have shown.
-/
namespace BytecodeStore.Run
open Machine
variable {env : Environment} {o : Options} {files : Workspace} {stdin : Array UInt8} {words : List String}
  {path : String}

/-- What is wrong with several sources for one file. -/
def crowding (o : Options) : Failure := if "-" ∈ o.inputs then .sharedStdin else .sharedOutput

theorem fault?_of_several (emits : o.emit = some path) (several : 1 < o.sources.length) :
    o.fault? = some (crowding o) := by
  cases demo : o.demo with
  | true =>
    rw [Options.sources, demo, if_pos rfl] at several
    exact absurd several (Nat.lt_irrefl 1)
  | false =>
    rw [Options.sources, demo, if_neg Bool.false_ne_true, List.length_map] at several
    have given : o.inputs ≠ [] := List.ne_nil_of_length_pos (Nat.zero_lt_of_lt several)
    by_cases dash : "-" ∈ o.inputs <;>
      simp [Options.fault?, Options.inputFault?, crowding, demo, emits, given, several, dash]

theorem source_of_emit (emits : o.emit = some path) (fine : o.fault? = none) : ∃ src, o.sources = [src] := by
  rcases sources : o.sources with _ | ⟨src, _ | ⟨other, rest⟩⟩
  · cases demo : o.demo <;> simp [Options.sources, demo] at sources
    simp [Options.fault?, Options.inputFault?, demo, sources] at fine
  · exact ⟨src, rfl⟩
  · have several : 1 < o.sources.length := by simp [sources]
    rw [fault?_of_several emits several] at fine
    cases fine

theorem shown_of_source (fine : o.fault? = none) {src : Source} (only : o.sources = [src]) :
    shown env o files stdin =
      let out := src.output env o files stdin
      ⟨out.stdout, .ruleChosen o.rule :: out.events, out.failure⟩ := by
  rw [shown_of_no_fault fine, only, List.map_singleton, Output.together_singleton]

theorem stdout_shown_of_failure (emits : o.emit = some path) (failed : (shown env o files stdin).failure ≠ none) :
    (shown env o files stdin).stdout = "" := by
  cases fault : o.fault? with
  | some e => rw [shown_of_fault fault]
  | none =>
    obtain ⟨src, only⟩ := source_of_emit emits fault
    rw [shown_of_source fault only] at failed ⊢
    exact Source.stdout_of_failure failed

omit env o files stdin words path in
theorem perform_forM_singleton {α : Type} (w : Machine) (g : α → ExceptT Failure (StateM Machine) Unit) (a : α) :
    w.perform ([a].forM g) = w.perform (g a) := by
  rw [perform_forM_cons]
  rcases w.perform (g a) with ⟨e | _, v⟩ <;> rfl

theorem perform_work_of_emit (emits : o.emit = some path) (f : Filter) (w : Machine) :
    w.perform (work env o f) =
      match (shown env o w.workspace w.stdin).failure with
      | some e => (.error e, (shown env o w.workspace w.stdin).onto f w)
      | none =>
        (w.log f (shown env o w.workspace w.stdin).events).perform
          (deliver o f (shown env o w.workspace w.stdin).stdout) := by
  rw [perform_work]
  cases fault : o.fault? with
  | some e =>
    rw [shown_of_fault fault]
    simp [Output.onto, print]
  | none =>
    obtain ⟨src, only⟩ := source_of_emit emits fault
    have there : src.output env o (w.log f [.ruleChosen o.rule]).workspace (w.log f [.ruleChosen o.rule]).stdin =
      src.output env o w.workspace w.stdin := rfl
    rw [shown_of_source fault only, only]
    rw [perform_forM_singleton, perform_process, there]
    dsimp only
    cases failed : (src.output env o w.workspace w.stdin).failure with
    | some e =>
      have nothing := Source.stdout_of_failure (failed ▸ Option.some_ne_none e)
      simp only [Output.onto, nothing, log_log, List.singleton_append, print, String.append_empty]
    | none => simp only [log_log, List.singleton_append]

/-- A failure before anything is delivered ends the run as if nothing were to be written. -/
theorem ended_of_failure {e : Failure} (accepted : Options.ofWords words = .ok o)
    (failed : (shown env o files stdin).failure = some e) :
    ended env files stdin words = (shown env o files stdin).ended (filter env o) (begun files stdin) := by
  cases emits : o.emit with
  | none => exact ended_of_shown files stdin accepted emits
  | some path =>
    have here : (shown env o (begun files stdin).workspace (begun files stdin).stdin).failure = some e := failed
    rw [ended_of_accepted env o files stdin accepted, perform_work_of_emit emits, Output.ended, Output.result]
    simp only [here, failed]
    rfl

theorem ended_of_success (accepted : Options.ofWords words = .ok o)
    (fine : (shown env o files stdin).failure = none) :
    ended env files stdin words =
      conclude (((begun files stdin).log (filter env o) (shown env o files stdin).events).perform
        (deliver o (filter env o) (shown env o files stdin).stdout)) := by
  cases emits : o.emit with
  | none =>
    rw [ended_of_shown files stdin accepted emits, Output.ended_of_none _ _ fine, deliver, emits]
    rfl
  | some path =>
    have here : (shown env o (begun files stdin).workspace (begun files stdin).stdin).failure = none := fine
    rw [ended_of_accepted env o files stdin accepted, perform_work_of_emit emits]
    simp only [here]
    rfl

theorem perform_deliver_of_emit (emits : o.emit = some path) (f : Filter) (w : Machine) (text : String) :
    w.perform (deliver o f text) =
      match w.workspace.writeText (.ofString path) text with
      | (.error e, v) => (.error (.notWritten path e), { w with workspace := v })
      | (.ok (), v) => (.ok (), { w with workspace := v }.log f [.written path]) := by
  simp only [deliver, emits, perform_bind, perform_lift]
  have written : (Host.writeText path text : StateM Machine _) w =
    ((w.workspace.writeText (.ofString path) text).1,
      { w with workspace := (w.workspace.writeText (.ofString path) text).2 }) := rfl
  rw [written]
  rcases w.workspace.writeText (.ofString path) text with ⟨e | ⟨⟨⟩⟩, v⟩
  · rfl
  · simp only [perform_lift, trace_eq]

/-- A run that is refused reports its rule and the failure. Whatever the host, it reads, writes and shows nothing. -/
def refuse {m : Type → Type} [Monad m] [Host m] (f : Filter) (rule : Doubling) (e : Failure) : m Exit := do
  trace f (.ruleChosen rule)
  Host.report s!"error: {e.message}"
  pure .failure

theorem command_of_fault {m : Type → Type} [Monad m] [LawfulMonad m] [Host m] {e : Failure} (env : Environment)
    (accepted : Options.ofWords words = .ok o) (fault : o.fault? = some e) :
    (command env words : m Exit) = refuse (filter env o) o.rule e := by
  cases demo : o.demo with
  | true => simp [Options.fault?, demo] at fault
  | false =>
    simp only [Options.fault?, demo, Bool.false_eq_true, if_false] at fault
    simp [command, accepted, execute, work, demo, fault, refuse, filter, ExceptT.run_bind]

/-- What comes before a view is delivered does not depend on where it goes, if there is one source at most. -/
theorem shown_of_emit (noEmit : o.emit = none) (single : o.sources.length ≤ 1) (path : String) :
    shown env { o with emit := some path } files stdin = shown env o files stdin := by
  have same : { o with emit := some path }.fault? = o.fault? := by
    cases demo : o.demo with
    | true => simp [Options.fault?, demo]
    | false =>
      rw [Options.sources, demo, if_neg Bool.false_ne_true, List.length_map] at single
      simp [Options.fault?, Options.inputFault?, demo, noEmit, Nat.not_lt_of_le single]
  unfold shown
  rw [same]
  rfl

/-- Several sources for one file are a failure before any of them is looked at. -/
theorem ended_of_several (accepted : Options.ofWords words = .ok o) (emits : o.emit = some path)
    (several : 1 < o.sources.length) :
    let run := ended env files stdin words
    run.1.code = 1 ∧ run.2.stdout = "" ∧ run.2.workspace = files := by
  have shown : shown env o files stdin = _ := shown_of_fault (fault?_of_several emits several)
  have refused := ended_of_failure accepted (congrArg Output.failure shown)
  rw [shown] at refused
  intro run
  rw [show run = _ from refused, Output.code_ended, Output.stdout_ended, Output.workspace_ended]
  exact ⟨if_neg (Option.some_ne_none _), String.empty_append, rfl⟩

/-- A view is written, or the run ends because it cannot be. -/
theorem ended_of_written (accepted : Options.ofWords words = .ok o) (emits : o.emit = some path)
    (fine : (shown env o files stdin).failure = none) :
    let run := ended env files stdin words
    let text := (shown env o files stdin).stdout
    run.2.stdout = "" ∧
      ((run.1.code = 0 ∧ files.Written run.2.workspace (.ofString path) text.toUTF8.data) ∨
        ∃ cause events, (files.writeText (.ofString path) text).1 = .error cause ∧ run.1.code = 1 ∧
          run.2.stderr = logLines (filter env o) events ++ (Failure.notWritten path cause).lines ∧
          files.SameFiles run.2.workspace) := by
  intro run text
  have delivered : run = _ := ended_of_success accepted fine
  rw [perform_deliver_of_emit emits] at delivered
  change run = conclude (match files.writeText (.ofString path) text with
    | (.error e, v) => _
    | (.ok (), v) => _) at delivered
  rcases files.writeText_cases (.ofString path) text with ⟨v, wrote, written⟩ | ⟨cause, v, wrote, same⟩
  · rw [wrote] at delivered
    rw [delivered]
    exact ⟨rfl, .inl ⟨rfl, written⟩⟩
  · rw [wrote] at delivered
    rw [delivered, wrote]
    exact ⟨rfl, .inr ⟨cause, _, rfl, rfl, rfl, same⟩⟩

/-- If nothing is to be delivered in the end, a file to write into makes no difference. -/
theorem ended_of_emit_failure {words' : List String} {e : Failure} (accepted : Options.ofWords words = .ok o)
    (noEmit : o.emit = none) (accepted' : Options.ofWords words' = .ok { o with emit := some path })
    (single : o.sources.length ≤ 1) (failed : (shown env o files stdin).failure = some e) :
    let emitting := ended env files stdin words'
    emitting = ended env files stdin words ∧ emitting.2.stdout = "" ∧ emitting.2.workspace = files := by
  intro emitting
  have same : shown env _ files stdin = _ := shown_of_emit noEmit single path
  have failing : emitting = _ := ended_of_failure accepted' (same ▸ failed)
  have silent : (shown env o files stdin).stdout = "" :=
    same ▸ stdout_shown_of_failure rfl (same ▸ failed ▸ Option.some_ne_none e)
  rw [same] at failing
  refine ⟨failing.trans (ended_of_shown files stdin accepted noEmit).symm, ?_, ?_⟩
  · rw [failing, Output.stdout_ended, silent]
    rfl
  · rw [failing, Output.workspace_ended]
    rfl

/-- A run with a file to write into puts there what the run without it shows, and shows nothing. If that run fails, this
one is the same run, and no file is touched; several sources are refused whatever is in them. -/
theorem emission_writes_what_is_shown {words' : List String} (accepted : Options.ofWords words = .ok o)
    (noEmit : o.emit = none) (accepted' : Options.ofWords words' = .ok { o with emit := some path }) :
    let run := ended env files stdin words
    let emitting := ended env files stdin words'
    Options.ofWords (("--emit=" ++ path) :: words) = .ok { o with emit := some path } ∧ emitting.2.stdout = "" ∧
    (o.sources.length ≤ 1 →
      (run.1.code ≠ 0 → emitting = run ∧ emitting.2.workspace = files) ∧
      (run.1.code = 0 →
        (emitting.1.code = 0 ∧ files.Written emitting.2.workspace (.ofString path) run.2.stdout.toUTF8.data) ∨
        ∃ cause events, (files.writeText (.ofString path) run.2.stdout).1 = .error cause ∧ emitting.1.code = 1 ∧
          emitting.2.stderr = logLines (filter env o) events ++ (Failure.notWritten path cause).lines ∧
          files.SameFiles emitting.2.workspace)) ∧
    (1 < o.sources.length →
      (∀ (m : Type → Type) [Monad m] [LawfulMonad m] [Host m],
        (command env words' : m Exit) = refuse (filter env o) o.rule (crowding o)) ∧
      emitting.1.code = 1 ∧ emitting.2.workspace = files) := by
  intro run emitting
  refine ⟨Options.ofWords_cons_emit path accepted noEmit, ?_⟩
  rcases Nat.lt_or_ge 1 o.sources.length with several | single
  · obtain ⟨code, silent, kept⟩ : emitting.1.code = 1 ∧ emitting.2.stdout = "" ∧ emitting.2.workspace = files :=
      ended_of_several accepted' rfl several
    refine ⟨silent, fun h => absurd several (Nat.not_lt_of_le h), fun _ => ⟨fun m _ _ _ => ?_, code, kept⟩⟩
    have refused := command_of_fault (m := m) env accepted' (fault?_of_several rfl several)
    exact refused
  -- With one source at most, the two runs are the same up to the view.
  have whole : run = _ := ended_of_shown files stdin accepted noEmit
  cases failed : (shown env o files stdin).failure with
  | some e =>
    obtain ⟨equal, silent, kept⟩ : emitting = run ∧ emitting.2.stdout = "" ∧ emitting.2.workspace = files :=
      ended_of_emit_failure accepted noEmit accepted' single failed
    refine ⟨silent, fun _ => ⟨fun _ => ⟨equal, kept⟩, fun code => ?_⟩, fun h => absurd h (Nat.not_lt_of_le single)⟩
    rw [whole, Output.code_ended_eq_zero_iff, failed] at code
    cases code
  | none =>
    have same : shown env _ files stdin = _ := shown_of_emit noEmit single path
    obtain ⟨silent, outcome⟩ : emitting.2.stdout = "" ∧ _ := ended_of_written accepted' rfl (same ▸ failed)
    have stdout : run.2.stdout = (shown env o files stdin).stdout := by
      rw [whole, Output.stdout_ended]
      exact String.empty_append
    rw [same, ← stdout] at outcome
    refine ⟨silent, fun _ => ⟨fun code => ?_, fun _ => outcome⟩, fun h => absurd h (Nat.not_lt_of_le single)⟩
    rw [whole, Ne, Output.code_ended_eq_zero_iff] at code
    exact absurd failed code

/-- A run writes its view over its own input. -/
theorem input_is_overwritten_with_its_view :
    let files : Workspace := ⟨⟨[("a", .file #[0])]⟩, [], rfl⟩
    let run := ended {} files #[] ["a"]
    let emitting := ended {} files #[] ["a", "--emit", "a"]
    run.1.code = 0 ∧ emitting.1.code = 0 ∧ emitting.2.stdout = "" ∧
      files.Written emitting.2.workspace (.ofString "a") run.2.stdout.toUTF8.data := by
  intro files run emitting
  have accepted : Options.ofWords ["a"] = .ok { inputs := ["a"] } := rfl
  have accepted' : Options.ofWords ["a", "--emit", "a"] = .ok { inputs := ["a"], emit := some "a" } := rfl
  obtain ⟨-, silent, single, -⟩ := @emission_writes_what_is_shown {} _ files #[] _ _ _ accepted rfl accepted'
  have screened : Workspace.screen (.ofString "a") = .ok () := Workspace.screen_piece (by decide) (by decide)
  have shows : run.1.code = 0 := by
    have read : (Source.input "a").bytes files #[] = .ok #[0] := by
      rw [Source.bytes, Workspace.read, screened]
      rfl
    have loaded : ((Source.input "a").chunk {} { inputs := ["a"] } files #[]).2 = .ok ⟨#[0], 8, {}, by decide⟩ := by
      rw [Source.chunk, read]
      rfl
    rw [show run = _ from ended_of_shown files #[] accepted rfl, Output.code_ended_eq_zero_iff]
    refine shown_failure_eq_none_iff.mpr ⟨rfl, List.forall_mem_singleton.mpr ?_⟩
    rw [Source.output_of_judge_ok loaded rfl]
  have free : ∀ text, (files.writeText (.ofString "a") text).1 = .ok () := by
    intro text
    have made : files.makeDirectoriesAround (.ofString "a") = (.ok (), files) := by
      change files.makeDirectories ⟨false, []⟩ = _
      rw [Workspace.makeDirectories]
      rfl
    rw [Workspace.writeText, made]
    dsimp only
    rw [Workspace.writeFile, screened]
    rfl
  rcases (single (Nat.le_refl 1)).2 shows with ⟨code, written⟩ | ⟨cause, _, failed, _⟩
  · exact ⟨shows, code, silent, written⟩
  · rw [free] at failed
    cases failed

end BytecodeStore.Run
