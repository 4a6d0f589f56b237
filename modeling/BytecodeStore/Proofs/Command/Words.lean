import BytecodeStore.Command.Arguments
import BytecodeStore.Proofs.Results

/-! # One more argument

An argument that neither excludes others nor is excluded by them can be given first: the words behind it are read as
they are without it, as long as none of them gives it again. What the options without it have in common tells that none
does.
-/
namespace BytecodeStore

theorem Argument.of_excluded? {argument other : Argument} (h : argument.excluded? = some other) :
    other = .flag .demo ∨ other = .inputs ∨ other = .flag .verbose ∨ other = .flag .quiet := by
  unfold excluded? at h
  split at h <;> cases h <;> simp

/-- An argument that can be given in addition, what it makes of options, and how options are that were read without. -/
structure Extra where
  argument : Argument
  add : Options → Options
  Lacking : Options → Prop
  excludes_none : argument.excluded? = none
  excluded_by_none : ∀ other : Argument, other.excluded? ≠ some argument
  of_input : ∀ o word, Lacking { o with inputs := o.inputs ++ [word] } →
    Lacking o ∧ { add o with inputs := (add o).inputs ++ [word] } = add { o with inputs := o.inputs ++ [word] }
  of_raise : ∀ o flag, Lacking (o.raise flag) →
    Lacking o ∧ .flag flag ≠ argument ∧ (add o).raise flag = add (o.raise flag)
  of_assign : ∀ o setting value o', o.assign setting value = .ok o' → Lacking o' →
    Lacking o ∧ .setting setting ≠ argument ∧ (add o).assign setting value = .ok (add o')

namespace Extra

theorem argument_ne_inputs (x : Extra) : .inputs ≠ x.argument := by
  intro h
  have := x.excludes_none
  rw [← h] at this
  cases this

def strict : Extra where
  argument := .flag .strict
  add o := { o with strict := true }
  Lacking o := o.strict = false
  excludes_none := rfl
  excluded_by_none _ h := by rcases Argument.of_excluded? h with h | h | h | h <;> cases h
  of_input _ _ h := ⟨h, rfl⟩
  of_raise o flag h := by
    cases flag with
    | strict => cases h
    | _ => exact ⟨h, nofun, rfl⟩
  of_assign o setting value o' h lacking := by
    cases parsed : Numeral.parse value <;> cases setting <;> simp only [Options.assign, parsed] at h ⊢ <;> cases h <;>
      exact ⟨lacking, nofun, rfl⟩

def emit (path : String) : Extra where
  argument := .setting .emit
  add o := { o with emit := some path }
  Lacking o := o.emit = none
  excludes_none := rfl
  excluded_by_none _ h := by rcases Argument.of_excluded? h with h | h | h | h <;> cases h
  of_input _ _ h := ⟨h, rfl⟩
  of_raise o flag h := by cases flag <;> exact ⟨h, nofun, rfl⟩
  of_assign o setting value o' h lacking := by
    cases parsed : Numeral.parse value <;> cases setting <;> simp only [Options.assign, parsed] at h ⊢ <;> cases h
    all_goals first | cases lacking | exact ⟨lacking, nofun, rfl⟩

end Extra

namespace Reading
variable (x : Extra)

/-- A reading before which the argument was given. -/
def ahead (r : Reading) : Reading := { r with options := x.add r.options, given := x.argument :: r.given }

/-- A reading in which the argument was not given, and is not about to be. -/
structure Lacks (r : Reading) : Prop where
  lacking : x.Lacking r.options
  unsettled_ne : ∀ setting value, r.unsettled = some (setting, value) → .setting setting ≠ x.argument

/-- A step that does not care about the argument, provided that it does not give it. -/
def Unaware {ε : Type} (r : Reading) (result resultAhead : Except ε Reading) : Prop :=
  ∀ s, result = .ok s → s.Lacks x → r.Lacks x ∧ resultAhead = .ok (s.ahead x)

variable {x} {ε : Type} {r : Reading} {result resultAhead : Except ε Reading}

theorem Unaware.bind (h : Unaware x r result resultAhead) {next : Reading → Except ε Reading}
    (h' : ∀ t, result = .ok t → Unaware x t (next t) (next (t.ahead x))) :
    Unaware x r (result >>= next) (resultAhead >>= next) := by
  intro s done lacks
  obtain ⟨t, first, rest⟩ := ok_of_bind done
  obtain ⟨lacks, rest⟩ := h' t first s rest lacks
  obtain ⟨lacks, first⟩ := h t first lacks
  rw [first]
  exact ⟨lacks, rest⟩

theorem Unaware.mapError (h : Unaware x r result resultAhead) {ε' : Type} (g : ε → ε') :
    Unaware x r (result.mapError g) (resultAhead.mapError g) := by
  intro s done lacks
  obtain ⟨lacks, there⟩ := h s (mapError_eq_ok.mp done) lacks
  exact ⟨lacks, mapError_eq_ok.mpr there⟩

theorem unaware_error (r : Reading) (e : ε) (resultAhead : Except ε Reading) : Unaware x r (.error e) resultAhead := by
  intro s done
  cases done

theorem ahead_note (r : Reading) {argument : Argument} (other : argument ≠ x.argument) :
    (r.ahead x).note argument = (r.note argument).ahead x := by
  unfold note ahead
  by_cases given : argument ∈ r.given <;> simp [given, other]

theorem ahead_noteLast (r : Reading) {argument : Argument} (other : argument ≠ x.argument) :
    (r.ahead x).noteLast argument = (r.noteLast argument).ahead x := by
  simp [noteLast, ahead, other.symm]

theorem ok_of_assign {s : Reading} {setting : Setting} {value : String} (done : r.assign setting value = .ok s) :
    .setting setting ∉ r.given ∧ ∃ options, r.options.assign setting value = .ok options ∧
      s = { r.note (.setting setting) with options := options } := by
  unfold assign at done
  split at done
  · cases done
  rename_i free
  cases assigned : r.options.assign setting value with
  | error e =>
    rw [assigned] at done
    cases done
  | ok options =>
    rw [assigned] at done
    cases done
    exact ⟨free, options, rfl, rfl⟩

theorem assign_ahead {s : Reading} {setting : Setting} {value : String} (done : r.assign setting value = .ok s)
    (lacks : s.Lacks x) :
    r.Lacks x ∧ .setting setting ≠ x.argument ∧ (r.ahead x).assign setting value = .ok (s.ahead x) := by
  obtain ⟨free, options, assigned, rfl⟩ := ok_of_assign done
  obtain ⟨lacking, other, there⟩ := x.of_assign _ _ _ _ assigned lacks.lacking
  have free' : .setting setting ∉ (r.ahead x).given := by simp [ahead, other, free]
  rw [assign, if_neg free', show (r.ahead x).options = x.add r.options from rfl, there, ahead_note r other]
  exact ⟨⟨lacking, lacks.unsettled_ne⟩, other, rfl⟩

theorem unsettled_of_settle {t : Reading} (settled : r.settle = .ok t) : t.unsettled = none := by
  unfold settle at settled
  split at settled
  · rename_i nothing
    cases settled
    exact nothing
  · cases settled
  · obtain ⟨_, _, _, rfl⟩ := ok_of_assign settled
    rfl

theorem unaware_settle (r : Reading) : Unaware x r r.settle (r.ahead x).settle := by
  intro s done lacks
  unfold settle at done ⊢
  rw [show (r.ahead x).unsettled = r.unsettled from rfl]
  rcases pending : r.unsettled with _ | ⟨setting, _ | value⟩
  · rw [pending] at done
    cases done
    exact ⟨lacks, rfl⟩
  · rw [pending] at done
    cases done
  · rw [pending] at done
    obtain ⟨lacks, other, there⟩ := assign_ahead done lacks
    refine ⟨⟨lacks.lacking, fun setting' value' h => ?_⟩, there⟩
    rw [pending] at h
    cases h
    exact other

theorem unaware_flag (r : Reading) (f : Flag) : Unaware x r (r.flag f) ((r.ahead x).flag f) := by
  refine ((unaware_settle r).mapError Halt.usage).bind fun t _ s done lacks => ?_
  cases chosen : f with
  | help | version => simp [chosen] at done
  | verbose =>
    rw [chosen] at done
    cases done
    obtain ⟨lacking, other, there⟩ := x.of_raise t.options f (by rw [chosen]; exact lacks.lacking)
    rw [chosen] at other there
    refine ⟨⟨lacking, lacks.unsettled_ne⟩, ?_⟩
    rw [ahead_noteLast t other, show (t.ahead x).options = x.add t.options from rfl, there]
    rfl
  | demo | json | strict | quiet =>
    rw [chosen] at done
    dsimp only at done ⊢
    split at done
    · cases done
    rename_i free
    cases done
    obtain ⟨lacking, other, there⟩ := x.of_raise t.options f (by rw [chosen]; exact lacks.lacking)
    rw [chosen] at other there
    have free' : .flag f ∉ (t.ahead x).given := by simp [ahead, chosen, other, free]
    rw [chosen] at free'
    rw [if_neg free', ahead_note t other, show (t.ahead x).options = x.add t.options from rfl, there]
    exact ⟨⟨lacking, lacks.unsettled_ne⟩, rfl⟩

theorem unaware_input (r : Reading) (word : String) : Unaware x r (r.input word) ((r.ahead x).input word) := by
  refine ((unaware_settle r).mapError Halt.usage).bind fun t _ s done lacks => ?_
  cases done
  obtain ⟨lacking, there⟩ := x.of_input t.options word lacks.lacking
  refine ⟨⟨lacking, lacks.unsettled_ne⟩, ?_⟩
  rw [ahead_note t x.argument_ne_inputs, show (t.ahead x).options = x.add t.options from rfl, there]
  rfl

theorem unaware_cluster (r : Reading) (cs : List Char) : Unaware x r (r.cluster cs) ((r.ahead x).cluster cs) := by
  induction cs generalizing r with
  | nil =>
    rintro s ⟨⟩ lacks
    exact ⟨lacks, rfl⟩
  | cons c rest ih =>
    unfold cluster
    cases Flag.ofShort? c with
    | none => exact unaware_error r _ _
    | some f => exact (unaware_flag r f).bind fun t _ => ih t

theorem unaware_long (r : Reading) (name : String) (value : Option String) :
    Unaware x r (r.long name value) ((r.ahead x).long name value) := by
  unfold long
  generalize Flag.ofLong? name = flag?
  generalize Setting.ofLong? name = setting?
  cases flag? with
  | some f =>
    cases value with
    | none => exact unaware_flag r f
    | some value => exact unaware_error r _ _
  | none =>
    cases setting? with
    | none => exact unaware_error r _ _
    | some setting =>
      cases value with
      | none =>
        -- All that is unsettled then is the setting just named, so what the words before left says nothing.
        refine ((unaware_settle r).mapError Halt.usage).bind fun t settled s done lacks => ?_
        cases done
        refine ⟨⟨lacks.lacking, fun other value h => ?_⟩, rfl⟩
        rw [unsettled_of_settle (mapError_eq_ok.mp settled)] at h
        cases h
      | some value =>
        refine ((unaware_settle r).mapError Halt.usage).bind fun t _ => ?_
        refine Unaware.mapError (fun s done lacks => ?_) Halt.usage
        obtain ⟨lacks, _, there⟩ := assign_ahead done lacks
        exact ⟨lacks, there⟩

theorem unaware_plain (r : Reading) (word : String) : Unaware x r (r.plain word) ((r.ahead x).plain word) := by
  unfold plain
  rw [show (r.ahead x).unsettled = r.unsettled from rfl]
  split
  · rename_i setting pending
    rintro s ⟨⟩ lacks
    refine ⟨⟨lacks.lacking, fun setting' value' h => ?_⟩, rfl⟩
    rw [pending] at h
    cases h
    exact lacks.unsettled_ne setting (some word) rfl
  · exact unaware_input r word

theorem unaware_word (r : Reading) (w : String) : Unaware x r (r.word w) ((r.ahead x).word w) := by
  unfold word
  rw [show (r.ahead x).inputsOnly = r.inputsOnly from rfl]
  split
  · exact unaware_input r w
  split
  · rintro s ⟨⟩ lacks
    exact ⟨⟨lacks.lacking, lacks.unsettled_ne⟩, rfl⟩
  · dsimp only
    split
    · exact unaware_long r _ none
    · exact unaware_long r _ (some _)
  · exact unaware_cluster r _
  · exact unaware_plain r w

theorem unaware_words (r : Reading) (words : List String) :
    Unaware x r (words.foldlM word r) (words.foldlM word (r.ahead x)) := by
  induction words generalizing r with
  | nil =>
    rintro s ⟨⟩ lacks
    exact ⟨lacks, rfl⟩
  | cons w rest ih =>
    simp only [List.foldlM_cons]
    exact (unaware_word r w).bind fun t _ => ih t

theorem conflict?_ahead (r : Reading) : (r.ahead x).conflict? = r.conflict? := by
  have given : (r.ahead x).given = x.argument :: r.given := rfl
  unfold conflict?
  rw [given, List.findSome?_cons, x.excludes_none]
  dsimp only
  congr 1
  funext argument
  cases excluded : argument.excluded? with
  | none => rfl
  | some other =>
    have different : other ≠ x.argument := fun h => x.excluded_by_none argument (h ▸ excluded)
    simp [different]

theorem finish_ahead {o : Options} (done : r.finish = .ok o) (lacking : x.Lacking o) :
    r.Lacks x ∧ (r.ahead x).finish = .ok (x.add o) := by
  unfold finish at done ⊢
  obtain ⟨t, settled, done⟩ := ok_of_bind done
  have nothing := unsettled_of_settle (mapError_eq_ok.mp settled)
  split at done
  · cases done
  rename_i calm
  cases done
  have lacks : t.Lacks x := ⟨lacking, fun _ _ h => by rw [nothing] at h; cases h⟩
  obtain ⟨lacks, there⟩ := (unaware_settle r).mapError Halt.usage t settled lacks
  refine ⟨lacks, ?_⟩
  rw [there]
  simp only [bind, Except.bind, conflict?_ahead, calm]
  rfl

/-- A word behind two dashes with an equals sign in it is a name and a value. -/
theorem word_long {r : Reading} {name value : String} (reads : r.inputsOnly = false)
    (plain : '=' ∉ name.toList) : r.word ("--" ++ name ++ "=" ++ value) = r.long name (some value) := by
  have letters : ("--" ++ name ++ "=" ++ value).toList = '-' :: '-' :: (name.toList ++ '=' :: value.toList) := by
    simp [String.toList_append]
  have unequal : ∀ c ∈ name.toList, (c != '=') = true := fun c hc => bne_iff_ne.mpr (ne_of_mem_of_not_mem hc plain)
  have before : (name.toList ++ '=' :: value.toList).takeWhile (· != '=') = name.toList := by
    rw [List.takeWhile_append_of_pos unequal]
    exact List.append_nil _
  have behind : (name.toList ++ '=' :: value.toList).dropWhile (· != '=') = '=' :: value.toList := by
    rw [List.dropWhile_append_of_pos unequal]
    rfl
  have present : name.toList ++ '=' :: value.toList ≠ [] := by simp
  obtain ⟨c, rest, split⟩ := List.exists_cons_of_ne_nil present
  rw [split] at before behind letters
  rw [word, reads, letters]
  simp only [Bool.false_eq_true, if_false, before, behind, String.ofList_toList]

/-- An option with its value in one word. -/
theorem word_assignment {r : Reading} (reads : r.inputsOnly = false) (s : Setting) (value : String) :
    r.word ("--" ++ s.long ++ "=" ++ value) =
      r.settle.mapError .usage >>= fun t => (t.assign s value).mapError .usage := by
  have plain : '=' ∉ s.long.toList := by cases s <;> decide
  rw [word_long reads plain]
  cases s <;> rfl

end Reading

namespace Options
variable {words : List String} {o : Options}

/-- An argument that the options lack can be given before the words that they are read from. -/
theorem ofWords_cons {x : Extra} {w : String} (given : ({} : Reading).word w = .ok (({} : Reading).ahead x))
    (accepted : ofWords words = .ok o) (lacking : x.Lacking o) : ofWords (w :: words) = .ok (x.add o) := by
  unfold ofWords at accepted ⊢
  obtain ⟨s, reads, finished⟩ := ok_of_bind accepted
  obtain ⟨lacks, finished⟩ := Reading.finish_ahead finished lacking
  obtain ⟨_, reads⟩ := Reading.unaware_words {} words s reads lacks
  rw [List.foldlM_cons, given]
  change words.foldlM Reading.word (({} : Reading).ahead x) >>= _ = _
  rw [reads]
  exact finished

theorem ofWords_cons_strict (accepted : ofWords words = .ok o) (lenient : o.strict = false) :
    ofWords ("--strict" :: words) = .ok { o with strict := true } :=
  ofWords_cons (x := .strict) rfl accepted lenient

theorem ofWords_cons_emit (path : String) (accepted : ofWords words = .ok o) (noEmit : o.emit = none) :
    ofWords (("--emit=" ++ path) :: words) = .ok { o with emit := some path } := by
  have read : ({} : Reading).word ("--" ++ "emit" ++ "=" ++ path) = ({} : Reading).long "emit" (some path) :=
    Reading.word_long rfl (by decide)
  exact ofWords_cons (x := .emit path) read accepted noEmit

end Options

end BytecodeStore
