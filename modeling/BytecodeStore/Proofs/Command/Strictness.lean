import BytecodeStore.Proofs.Bytecode.Loading
import BytecodeStore.Proofs.Bytecode.Walk
import BytecodeStore.Proofs.Command.Emission

/-! # Strict runs

A strict run refuses a source when everything else about it has gone well, and before any of its view is delivered. So
strictness only filters: a source that it lets pass is treated as in a lenient run, and one that it refuses shows nothing.
-/
namespace BytecodeStore
variable {env : Environment} {o : Options} {files : Workspace} {stdin : Array UInt8} {src : Source}

/-- The least index at which a byte names no opcode. -/
structure FirstBad (bytes : Array UInt8) (i : ℕ) (byte : UInt8) : Prop where
  getElem?_eq : bytes[i]? = some byte
  unknown : OpCode.ofByte? byte = none
  known : ∀ j < i, ∀ other, bytes[j]? = some other → ∃ op, OpCode.ofByte? other = some op

theorem Chunk.FirstUnknown.firstBad {c : Chunk} {bytes : Array UInt8} {i : ℕ} {byte : UInt8}
    (first : c.FirstUnknown 0 i byte) (same : c.toList = bytes.toList) : FirstBad bytes i byte := by
  have look (j : ℕ) : c.get? j = bytes[j]? := by rw [Buffer.get?_eq, same, Array.getElem?_toList]
  refine ⟨(look i).symm.trans first.get?_eq, first.unknown, fun j before other found => ?_⟩
  obtain ⟨op, decoded⟩ := first.known j (Nat.zero_le j) before
  obtain ⟨byte', there, named⟩ := Chunk.opAt_eq_ok_iff.mp decoded
  rw [look, found] at there
  cases there
  exact ⟨op, named⟩

namespace Source

/-- Every byte of a source names an opcode. -/
def Decodable (files : Workspace) (stdin : Array UInt8) (src : Source) : Prop :=
  ∀ bytes, src.bytes files stdin = .ok bytes → ∀ byte ∈ bytes, ∃ op, OpCode.ofByte? byte = some op

/-- A chunk that is shown holds the bytes of its source. -/
theorem bytes_of_chunk {c : Chunk} (loaded : (src.chunk env o files stdin).2 = .ok c) :
    ∃ bytes, src.bytes files stdin = .ok bytes ∧ c.toList = bytes.toList := by
  cases src with
  | demo => exact ⟨_, rfl, Chunk.toList_demo (mapError_eq_ok.mp loaded)⟩
  | input word =>
    unfold chunk at loaded
    cases read : (input word).bytes files stdin with
    | error e =>
      rw [read] at loaded
      cases loaded
    | ok bytes =>
      rw [read] at loaded
      exact ⟨bytes, rfl, Chunk.toList_load (mapError_eq_ok.mp loaded)⟩

theorem decodable_iff {c : Chunk} {bytes : Array UInt8} (read : src.bytes files stdin = .ok bytes)
    (same : c.toList = bytes.toList) : src.Decodable files stdin ↔ c.Decodable := by
  have members (byte : UInt8) : byte ∈ c.toList ↔ byte ∈ bytes := by rw [same, Array.mem_toList_iff]
  constructor
  · intro all byte hb
    exact all bytes read byte ((members byte).mp hb)
  · intro all bytes' read' byte hb
    cases read.symm.trans read'
    exact all byte ((members byte).mpr hb)

/-- What strictness makes of a source: it is left as it is, or refused for its first byte that names no opcode. -/
theorem strict_output_cases (env : Environment) (files : Workspace) (stdin : Array UInt8) (lenient : o.strict = false)
    (src : Source) :
    let out := src.output env o files stdin
    let strict := src.output env { o with strict := true } files stdin
    (strict = out ∧ (out.failure = none → src.Decodable files stdin)) ∨
      (¬ src.Decodable files stdin ∧ ∃ bytes i byte, src.bytes files stdin = .ok bytes ∧ FirstBad bytes i byte ∧
        strict = { events := out.events, failure := some (.invalid (src.name o) (.invalidOpcode i byte)) }) := by
  intro out strict
  have chunk_eq : src.chunk env { o with strict := true } files stdin = src.chunk env o files stdin := by
    cases src <;> rfl
  cases loaded : (src.chunk env o files stdin).2 with
  -- Without a chunk there is nothing to refuse, whatever the bytes are.
  | error e =>
    have failing : out = _ := output_of_error loaded
    have failing' : strict = _ := output_of_error (chunk_eq ▸ loaded)
    rw [chunk_eq, ← failing] at failing'
    refine .inl ⟨failing', fun fine => ?_⟩
    rw [failing] at fine
    cases fine
  | ok c =>
    obtain ⟨bytes, read, same⟩ := bytes_of_chunk loaded
    have passed : o.judge (src.name o) c = .ok (o.view (titleOf (src.name o)) c) := by rw [Options.judge, lenient]
    have showing : out = _ := output_of_judge_ok loaded passed
    rw [decodable_iff read same]
    rcases c.decode_cases "" with ⟨decodable, _, _, accepted⟩ | ⟨bad, i, byte, first, rejected⟩
    · have passed' : { o with strict := true }.judge (src.name o) c = .ok (o.view (titleOf (src.name o)) c) := by
        rw [Options.judge, accepted.check_eq]
        rfl
      have showing' : strict = _ := output_of_judge_ok (chunk_eq ▸ loaded) passed'
      rw [chunk_eq, ← showing] at showing'
      exact .inl ⟨showing', fun _ => decodable⟩
    · have refused : { o with strict := true }.judge (src.name o) c =
          .error (.invalid (src.name o) (.invalidOpcode i byte)) := by
        rw [Options.judge, rejected.check_eq]
      have failing : strict = _ := output_of_judge_error (chunk_eq ▸ loaded) refused
      rw [chunk_eq] at failing
      refine .inr ⟨bad, bytes, i, byte, read, first.firstBad same, ?_⟩
      rw [failing, showing]

theorem strict_output_of_decodable (lenient : o.strict = false) (decodable : src.Decodable files stdin) :
    src.output env { o with strict := true } files stdin = src.output env o files stdin := by
  rcases strict_output_cases env files stdin lenient src with ⟨same, _⟩ | ⟨bad, _⟩
  · exact same
  · exact absurd decodable bad

theorem strict_output_of_bad (lenient : o.strict = false) (fine : (src.output env o files stdin).failure = none)
    (bad : ¬ src.Decodable files stdin) :
    ∃ bytes i byte, src.bytes files stdin = .ok bytes ∧ FirstBad bytes i byte ∧
      src.output env { o with strict := true } files stdin =
        { events := (src.output env o files stdin).events,
          failure := some (.invalid (src.name o) (.invalidOpcode i byte)) } := by
  rcases strict_output_cases env files stdin lenient src with ⟨_, known⟩ | ⟨_, refused⟩
  · exact absurd (known fine) bad
  · exact refused

theorem decodable_of_strict_output (lenient : o.strict = false)
    (passed : (src.output env { o with strict := true } files stdin).failure = none) : src.Decodable files stdin := by
  rcases strict_output_cases env files stdin lenient src with ⟨same, known⟩ | ⟨_, bytes, i, byte, _, _, refused⟩
  · exact known (same ▸ passed)
  · rw [refused] at passed
    cases passed

end Source

namespace Run
open Machine
variable {words words' : List String}

theorem shown_of_code (accepted : Options.ofWords words = .ok o) (code : (ended env files stdin words).1.code = 0) :
    (shown env o files stdin).failure = none := by
  cases failed : (shown env o files stdin).failure with
  | none => rfl
  | some e =>
    rw [ended_of_failure accepted failed, Output.code_ended_eq_zero_iff, failed] at code
    cases code

/-- A strict run of which everything is shown is the lenient run. -/
theorem ended_of_same_shown (accepted : Options.ofWords words = .ok o)
    (accepted' : Options.ofWords words' = .ok { o with strict := true })
    (same : shown env { o with strict := true } files stdin = shown env o files stdin) :
    ended env files stdin words' = ended env files stdin words := by
  cases failed : (shown env o files stdin).failure with
  | some e =>
    rw [ended_of_failure accepted failed, ended_of_failure accepted' (same ▸ failed), same]
    rfl
  | none =>
    rw [ended_of_success accepted failed, ended_of_success accepted' (same ▸ failed), same]
    rfl

theorem shown_strict_of_decodable (lenient : o.strict = false)
    (decodable : ∀ src ∈ o.sources, src.Decodable files stdin) :
    shown env { o with strict := true } files stdin = shown env o files stdin := by
  have outputs : o.sources.map (Source.output env { o with strict := true } files stdin) =
      o.sources.map (Source.output env o files stdin) :=
    List.map_congr_left fun src hs => Source.strict_output_of_decodable lenient (decodable src hs)
  exact congrArg (Output.followedBy { events := [.ruleChosen o.rule], failure := o.fault? }) (congrArg _ outputs)

/-- The first source that is not decodable. -/
theorem exists_first_bad (h : ¬ ∀ src ∈ o.sources, src.Decodable files stdin) :
    ∃ before src after, o.sources = before ++ src :: after ∧ (∀ b ∈ before, b.Decodable files stdin) ∧
      ¬ src.Decodable files stdin := by
  classical
  cases found : o.sources.find? fun src => ¬ src.Decodable files stdin with
  | none =>
    refine absurd (fun src hs => ?_) h
    simpa using List.find?_eq_none.mp found src hs
  | some src =>
    obtain ⟨bad, before, after, split, good⟩ := List.find?_eq_some_iff_append.mp found
    exact ⟨before, src, after, split, by simpa using good, by simpa using bad⟩

/-- Before the first bad source a strict run shows what the lenient run shows, and from there on it shows nothing. -/
theorem shown_strict_of_bad (lenient : o.strict = false) (fine : (shown env o files stdin).failure = none)
    {before after : List Source} (split : o.sources = before ++ src :: after)
    (good : ∀ b ∈ before, b.Decodable files stdin) (bad : ¬ src.Decodable files stdin) :
    ∃ bytes i byte events, src.bytes files stdin = .ok bytes ∧ FirstBad bytes i byte ∧
      shown env { o with strict := true } files stdin =
        ⟨String.join (before.map fun b => (b.output env o files stdin).stdout), events,
          some (.invalid (src.name o) (.invalidOpcode i byte))⟩ := by
  obtain ⟨noFault, passed⟩ := shown_failure_eq_none_iff.mp fine
  obtain ⟨bytes, i, byte, read, first, refused⟩ :=
    Source.strict_output_of_bad lenient (passed src (by simp [split])) bad
  have unchanged : before.map (Source.output env { o with strict := true } files stdin) =
      before.map (Source.output env o files stdin) :=
    List.map_congr_left fun b hb => Source.strict_output_of_decodable lenient (good b hb)
  have fine' : ∀ out ∈ before.map (Source.output env o files stdin), out.failure = none :=
    List.forall_mem_map.mpr fun b hb => passed b (by simp [split, hb])
  have shown_eq := @shown_of_no_fault env { o with strict := true } files stdin noFault
  rw [show Options.sources { o with strict := true } = before ++ src :: after from split, List.map_append,
    List.map_cons, unchanged, refused, Output.together_of_some fine' (Option.some_ne_none _), List.map_map,
    String.append_empty] at shown_eq
  exact ⟨bytes, i, byte, _, read, first, shown_eq⟩

/-- The lines of a failure that names the first byte of no opcode. -/
theorem lines_invalid (name : String) (i : ℕ) (byte : UInt8) :
    (Failure.invalid name (.invalidOpcode i byte)).lines =
      linesOf s!"error: chunk invalide: {name}: {(DecodeError.invalidOpcode i byte).message}" := by
  have message : (Failure.invalid name (.invalidOpcode i byte)).message =
    s!"chunk invalide: {name}" ++ ": " ++ (DecodeError.invalidOpcode i byte).message := rfl
  simp only [Failure.lines, message, toString, String.append_assoc]
  rfl

/-- Strictness only filters: a strict run that succeeds is the lenient run, and that is the case exactly if the lenient
run succeeds and every byte names an opcode. Otherwise it is the lenient run up to the first source with another byte,
and ends with the first of these bytes. -/
theorem strictness_only_filters (accepted : Options.ofWords words = .ok o) (lenient : o.strict = false)
    (accepted' : Options.ofWords words' = .ok { o with strict := true }) :
    let run := ended env files stdin words
    let strict := ended env files stdin words'
    let views := fun srcs : List Source => String.join (srcs.map fun src => (src.output env o files stdin).stdout)
    Options.ofWords ("--strict" :: words) = .ok { o with strict := true } ∧
    (strict.1.code = 0 ↔ run.1.code = 0 ∧ ∀ src ∈ o.sources, src.Decodable files stdin) ∧
    (strict.1.code = 0 → strict = run) ∧
    (run.1.code = 0 → o.emit = none → run.2.stdout = views o.sources) ∧
    (run.1.code = 0 → (¬ ∀ src ∈ o.sources, src.Decodable files stdin) →
      ∃ before src after bytes i byte events, o.sources = before ++ src :: after ∧
        (∀ b ∈ before, b.Decodable files stdin) ∧ src.bytes files stdin = .ok bytes ∧ FirstBad bytes i byte ∧
        strict.1.code = 1 ∧ strict.2.stdout = views before ∧ strict.2.workspace = files ∧
        strict.2.stderr = logLines (filter env o) events ++
          linesOf s!"error: chunk invalide: {src.name o}: {(DecodeError.invalidOpcode i byte).message}") := by
  intro run strict views
  have equal (all : ∀ src ∈ o.sources, src.Decodable files stdin) : strict = run :=
    ended_of_same_shown accepted accepted' (shown_strict_of_decodable lenient all)
  have known (code : strict.1.code = 0) : ∀ src ∈ o.sources, src.Decodable files stdin := fun src hs =>
    Source.decodable_of_strict_output lenient ((shown_failure_eq_none_iff.mp (shown_of_code accepted' code)).2 src hs)
  have valid : strict.1.code = 0 ↔ run.1.code = 0 ∧ ∀ src ∈ o.sources, src.Decodable files stdin :=
    ⟨fun code => ⟨equal (known code) ▸ code, known code⟩, fun h => equal h.2 ▸ h.1⟩
  refine ⟨Options.ofWords_cons_strict accepted lenient, valid, fun code => equal (known code), fun code noEmit => ?_,
    fun code h => ?_⟩
  · have fine := shown_of_code accepted code
    obtain ⟨noFault, passed⟩ := shown_failure_eq_none_iff.mp fine
    have all := Output.together_of_none (List.forall_mem_map.mpr passed)
    rw [show run = _ from ended_of_shown files stdin accepted noEmit, Output.stdout_ended,
      shown_of_no_fault noFault, all, List.map_map]
    exact String.empty_append
  · obtain ⟨before, src, after, split, good, bad⟩ := exists_first_bad h
    obtain ⟨bytes, i, byte, events, read, first, shown_eq⟩ :=
      shown_strict_of_bad lenient (shown_of_code accepted code) split good bad
    have refused : strict = _ := ended_of_failure accepted' (congrArg Output.failure shown_eq)
    rw [shown_eq] at refused
    refine ⟨before, src, after, bytes, i, byte, events, split, good, read, first, ?_⟩
    rw [refused, Output.stdout_ended, Output.workspace_ended, Output.stderr_ended_of_some _ _ rfl, lines_invalid]
    exact ⟨rfl, String.empty_append, rfl, rfl⟩

/-- The second input has a byte that names no opcode. -/
theorem strict_run_stops_at_the_second_input :
    let files : Workspace := ⟨⟨[("a", .file #[0x00]), ("b", .file #[0x00, 0x7f])]⟩, [], rfl⟩
    let o : Options := { inputs := ["a", "b"] }
    let run := ended {} files #[] ["a", "b"]
    let strict := ended {} files #[] ["a", "--strict", "b"]
    run.1.code = 0 ∧ (¬ ∀ src ∈ o.sources, src.Decodable files #[]) ∧ strict.1.code = 1 ∧ strict.2.workspace = files := by
  intro files o run strict
  have accepted : Options.ofWords ["a", "b"] = .ok o := rfl
  have accepted' : Options.ofWords ["a", "--strict", "b"] = .ok { o with strict := true } := rfl
  have second : (Source.input "b").bytes files #[] = .ok #[0x00, 0x7f] := by
    have screened : Workspace.screen (.ofString "b") = .ok () := Workspace.screen_piece (by decide) (by decide)
    rw [Source.bytes, Workspace.read, screened]
    rfl
  have shows : run.1.code = 0 := by
    have first : (Source.input "a").bytes files #[] = .ok #[0x00] := by
      have screened : Workspace.screen (.ofString "a") = .ok () := Workspace.screen_piece (by decide) (by decide)
      rw [Source.bytes, Workspace.read, screened]
      rfl
    have loaded : ((Source.input "a").chunk {} o files #[]).2 = .ok ⟨#[0x00], 8, {}, by decide⟩ := by
      rw [Source.chunk, first]
      rfl
    have loaded' : ((Source.input "b").chunk {} o files #[]).2 = .ok ⟨#[0x00, 0x7f], 8, {}, by decide⟩ := by
      rw [Source.chunk, second]
      rfl
    have passed : ∀ src ∈ o.sources, (src.output {} o files #[]).failure = none :=
      List.forall_mem_cons.mpr ⟨congrArg Output.failure (Source.output_of_judge_ok loaded rfl),
        List.forall_mem_singleton.mpr (congrArg Output.failure (Source.output_of_judge_ok loaded' rfl))⟩
    rw [show run = _ from ended_of_shown files #[] accepted rfl, Output.code_ended_eq_zero_iff]
    exact shown_failure_eq_none_iff.mpr ⟨rfl, passed⟩
  have bad : ¬ ∀ src ∈ o.sources, src.Decodable files #[] := by
    intro all
    obtain ⟨op, named⟩ := all (.input "b") (by decide) _ second 0x7f (by simp)
    cases named
  obtain ⟨-, -, -, -, stops⟩ := @strictness_only_filters {} o files #[] _ _ accepted rfl accepted'
  obtain ⟨_, _, _, _, _, _, _, _, _, _, _, code, _, kept, _⟩ := stops shows bad
  exact ⟨shows, bad, code, kept⟩

end Run

end BytecodeStore
