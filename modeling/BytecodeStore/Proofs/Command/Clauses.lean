import BytecodeStore.Proofs.Command.Words
import Mathlib.Logic.Function.Iterate

/-! # Clauses of a command line

A clause is what belongs together on a command line: a flag, flags for more detail in one word, an option with its value,
or an input. Some clauses can be written in more than one way. The words of a command line are read as its clauses are
taken, one after the other: an option whose value is a word of its own is settled later than one with an equals sign, but
before anything else is taken.
-/
namespace BytecodeStore

/-- The flags that are given once at most. -/
inductive Switch where
  | demo
  | json
  | strict
  | quiet
deriving DecidableEq, Repr

def Switch.flag : Switch → Flag
  | demo => .demo
  | json => .json
  | strict => .strict
  | quiet => .quiet

/-- A word that does not begin with a dash. -/
structure PlainWord where
  text : String
  plain : text.toList.head? ≠ some '-'
deriving DecidableEq, Repr

inductive Clause where
  | switch (f : Switch)
  /-- A flag for more detail, and others in the same word. -/
  | verbose (others : ℕ)
  | setting (s : Setting) (value : PlainWord)
  | input (word : PlainWord)
deriving DecidableEq, Repr

namespace Clause

/-- The ways to write a clause. -/
inductive Spelled : Clause → List String → Prop
  | long (f : Switch) : Spelled (.switch f) ["--" ++ f.flag.long]
  | quiet : Spelled (.switch .quiet) ["-q"]
  | verbose : Spelled (.verbose 0) ["--verbose"]
  | cluster (others : ℕ) : Spelled (.verbose others) [String.ofList ('-' :: List.replicate (others + 1) 'v')]
  | joined (s : Setting) (value : PlainWord) : Spelled (.setting s value) ["--" ++ s.long ++ "=" ++ value.text]
  | apart (s : Setting) (value : PlainWord) : Spelled (.setting s value) ["--" ++ s.long, value.text]
  | input (word : PlainWord) : Spelled (.input word) [word.text]

/-- The words that write clauses, one behind the other. -/
inductive Written : List Clause → List String → Prop
  | nil : Written [] []
  | cons {c : Clause} {cs : List Clause} {here later : List String} :
    Spelled c here → Written cs later → Written (c :: cs) (here ++ later)

end Clause

namespace Reading

/-- One more flag for more detail. -/
def more (r : Reading) : Reading := { r.noteLast (.flag .verbose) with options := r.options.raise .verbose }

/-- What a clause makes of a reading in which nothing is unsettled. -/
def take (r : Reading) : Clause → Except UsageError Reading
  | .switch f =>
    if .flag f.flag ∈ r.given then .error (.repeated (.flag f.flag))
    else .ok { r.note (.flag f.flag) with options := r.options.raise f.flag }
  | .verbose others => .ok (more^[others + 1] r)
  | .setting s value => r.assign s value.text
  | .input word =>
    .ok { r.note .inputs with options := { r.options with inputs := r.options.inputs ++ [word.text] } }

/-- The options that were read, unless arguments exclude each other. -/
def conclude (r : Reading) : Except UsageError Options :=
  match r.conflict? with
  | some e => .error e
  | none => .ok r.options

/-- Nothing is unsettled, and a dash still opens an option. -/
structure Settled (r : Reading) : Prop where
  reads : r.inputsOnly = false
  settled : r.unsettled = none

/-- All clauses are complete: no option waits for a word as its value, but one may wait to be settled. -/
structure Between (r : Reading) : Prop where
  reads : r.inputsOnly = false
  complete : ∀ setting, r.unsettled ≠ some (setting, none)

/-- What words lead to is, once it is settled, what clauses lead to. -/
def Agrees (x : Except UsageError Reading) : Except Halt Reading → Prop
  | .ok t => t.Between ∧ t.settle = x
  | .error halt => ∃ e, halt = .usage e ∧ x = .error e

variable {r t : Reading} {c : Clause} {cs : List Clause} {words : List String}

theorem Settled.between (h : r.Settled) : r.Between := ⟨h.reads, fun _ => h.settled ▸ nofun⟩

theorem Settled.settle (h : r.Settled) : r.settle = .ok r := by
  rw [Reading.settle, h.settled]

theorem settled_more (h : r.Settled) (k : ℕ) : (more^[k] r).Settled := by
  induction k generalizing r with
  | zero => exact h
  | succ k ih => exact ih ⟨h.reads, h.settled⟩

theorem Settled.of_assign {setting : Setting} {value : String} (h : r.Settled)
    (done : r.assign setting value = .ok t) : t.Settled := by
  obtain ⟨_, _, _, rfl⟩ := ok_of_assign done
  exact ⟨h.reads, h.settled⟩

theorem Settled.of_take (h : r.Settled) (done : r.take c = .ok t) : t.Settled := by
  cases c with
  | switch f =>
    rw [take] at done
    split at done <;> cases done
    exact ⟨h.reads, h.settled⟩
  | verbose others =>
    cases done
    exact settled_more h _
  | setting s value => exact h.of_assign done
  | input word =>
    cases done
    exact ⟨h.reads, h.settled⟩

theorem settled_of_settle (between : r.Between) (done : r.settle = .ok t) : t.Settled := by
  refine ⟨?_, unsettled_of_settle done⟩
  unfold settle at done
  split at done
  · cases done
    exact between.reads
  · cases done
  · obtain ⟨_, _, _, rfl⟩ := ok_of_assign done
    exact between.reads

/-! ## Words -/

theorem word_flag (reads : r.inputsOnly = false) (f : Flag) : r.word ("--" ++ f.long) = r.flag f := by
  rw [word, reads]
  cases f <;> rfl

theorem word_setting (reads : r.inputsOnly = false) (s : Setting) :
    r.word ("--" ++ s.long) =
      r.settle.mapError .usage >>= fun t => .ok { t with unsettled := some (s, none) } := by
  rw [word, reads]
  cases s <;> rfl

theorem word_letters (reads : r.inputsOnly = false) {letter : Char} (undashed : letter ≠ '-') (letters : List Char) :
    r.word (String.ofList ('-' :: letter :: letters)) = r.cluster (letter :: letters) := by
  rw [word, reads, if_neg Bool.false_ne_true, String.toList_ofList]
  split
  · rename_i dashes
    cases dashes
    exact absurd rfl undashed
  · rename_i dashes
    cases dashes
    exact absurd rfl undashed
  · rename_i same
    cases same
    rfl
  · rename_i other
    exact absurd rfl (other letter letters)

theorem word_plain (reads : r.inputsOnly = false) (w : PlainWord) : r.word w.text = r.plain w.text := by
  have undashed (rest : List Char) : w.text.toList ≠ '-' :: rest := fun h => w.plain (by rw [h]; rfl)
  rw [word, reads, if_neg Bool.false_ne_true]
  split
  · rename_i dashes
    exact absurd dashes (undashed _)
  · rename_i dashes
    exact absurd dashes (undashed _)
  · rename_i dashes
    exact absurd dashes (undashed _)
  · rfl

theorem word_input (between : r.Between) (w : PlainWord) : r.word w.text = r.input w.text := by
  rw [word_plain between.reads, plain]
  split
  · rename_i waiting
    exact absurd waiting (between.complete _)
  · rfl

theorem flag_switch (r : Reading) (f : Switch) :
    r.flag f.flag = (r.settle >>= fun t => t.take (.switch f)).mapError .usage := by
  unfold flag
  cases r.settle with
  | error e => rfl
  | ok t =>
    change _ = (t.take (.switch f)).mapError Halt.usage
    rw [take]
    -- the reader tells the flags apart before it looks at what was given, so each flag is a case
    by_cases given : .flag f.flag ∈ t.given
    · rw [if_pos given]
      cases f <;> exact if_pos given
    · rw [if_neg given]
      cases f <;> exact if_neg given

theorem flag_verbose (r : Reading) : r.flag .verbose = (r.settle.map more).mapError .usage := by
  unfold flag
  cases r.settle <;> rfl

theorem cluster_verbose (h : r.Settled) (k : ℕ) : r.cluster (List.replicate k 'v') = .ok (more^[k] r) := by
  induction k generalizing r with
  | zero => rfl
  | succ k ih =>
    have first : r.flag .verbose = .ok r.more := by
      rw [flag_verbose, h.settle]
      rfl
    have step : r.cluster (List.replicate (k + 1) 'v') =
      r.flag .verbose >>= fun t => t.cluster (List.replicate k 'v') := rfl
    rw [step, bind_of_ok first]
    exact ih ⟨h.reads, h.settled⟩

/-! ## Clauses -/

theorem agrees_of_eq {x : Except UsageError Reading} {result : Except Halt Reading}
    (same : result = x.mapError .usage) (settled : ∀ t, x = .ok t → t.Settled) : Agrees x result := by
  cases x with
  | error e =>
    rw [same]
    exact ⟨e, rfl, rfl⟩
  | ok t =>
    rw [same]
    exact ⟨(settled t rfl).between, (settled t rfl).settle⟩

theorem settled_of_settle_take (between : r.Between) (done : (r.settle >>= fun t => t.take c) = .ok t) :
    t.Settled := by
  obtain ⟨s, settled, taken⟩ := ok_of_bind done
  exact (settled_of_settle between settled).of_take taken

theorem Agrees.bind {x : Except UsageError Reading} {result : Except Halt Reading} (h : Agrees x result)
    {f : Reading → Except UsageError Reading} {g : Reading → Except Halt Reading}
    (next : ∀ t : Reading, t.Between → Agrees (t.settle >>= f) (g t)) : Agrees (x >>= f) (result >>= g) := by
  cases result with
  | error halt =>
    obtain ⟨e, rfl, rfl⟩ := h
    exact ⟨e, rfl, rfl⟩
  | ok t =>
    obtain ⟨between, rfl⟩ := h
    exact next t between

theorem agrees_word {w : String} (between : r.Between)
    (same : r.word w = (r.settle >>= fun t => t.take c).mapError .usage) :
    Agrees (r.settle >>= fun t => t.take c) ([w].foldlM word r) := by
  simp only [List.foldlM_cons, List.foldlM_nil, bind_pure]
  exact agrees_of_eq same fun _ => settled_of_settle_take between

/-- The first of two words settles what is pending and waits. The second is kept, and settled by what comes next. -/
theorem agrees_apart (between : r.Between) (s : Setting) (value : PlainWord) :
    Agrees (r.settle >>= fun t => t.take (.setting s value)) (["--" ++ s.long, value.text].foldlM word r) := by
  simp only [List.foldlM_cons, List.foldlM_nil, bind_pure]
  rw [word_setting between.reads]
  cases settled : r.settle with
  | error e => exact ⟨e, rfl, rfl⟩
  | ok t =>
    have t_settled := settled_of_settle between settled
    let waiting : Reading := { t with unsettled := some (s, none) }
    let given : Reading := { t with unsettled := some (s, some value.text) }
    have read : waiting.word value.text = .ok given := @word_plain waiting t_settled.reads value
    have same : { given with unsettled := none } = t := by
      rw [← t_settled.settled]
    change Agrees (t.assign s value.text) (waiting.word value.text)
    rw [read]
    refine ⟨⟨t_settled.reads, fun _ h => by cases h⟩, ?_⟩
    change Reading.assign { given with unsettled := none } s value.text = _
    rw [same]

theorem agrees_clause (spelled : c.Spelled words) (between : r.Between) :
    Agrees (r.settle >>= fun t => t.take c) (words.foldlM word r) := by
  cases spelled with
  | long f => exact agrees_word between ((word_flag between.reads f.flag).trans (flag_switch r f))
  | quiet =>
    have letter : r.word "-q" = r.cluster ['q'] := word_letters between.reads (by decide) []
    have flag : r.cluster ['q'] = (r.flag .quiet >>= fun t => t.cluster []) := rfl
    have alone : (r.flag .quiet >>= fun t => t.cluster []) = r.flag .quiet := bind_pure _
    exact agrees_word between ((letter.trans (flag.trans alone)).trans (flag_switch r .quiet))
  | verbose =>
    refine agrees_word between ((word_flag between.reads .verbose).trans (flag_verbose r) |>.trans ?_)
    cases r.settle <;> rfl
  | cluster others =>
    have letters := word_letters between.reads (by decide : 'v' ≠ '-') (List.replicate others 'v')
    have first : r.cluster ('v' :: List.replicate others 'v') =
      r.flag .verbose >>= fun t => t.cluster (List.replicate others 'v') := rfl
    refine agrees_word between (letters.trans (first.trans ?_))
    rw [flag_verbose]
    cases settled : r.settle with
    | error e => rfl
    | ok t => exact cluster_verbose (settled_more (settled_of_settle between settled) 1) others
  | joined s value =>
    refine agrees_word between ((word_assignment between.reads s value.text).trans ?_)
    rw [mapError_bind]
    rfl
  | apart s value => exact agrees_apart between s value
  | input w =>
    refine agrees_word between ((word_input between w).trans ?_)
    rw [Reading.input, mapError_bind]
    rfl

/-- Between two clauses nothing waits for a word, and what is pending is settled by the next one or at the end. -/
theorem agrees_words (written : Clause.Written cs words) (between : r.Between) :
    Agrees (r.settle >>= fun t => cs.foldlM take t) (words.foldlM word r) := by
  induction written generalizing r with
  | nil =>
    simp only [List.foldlM_nil, bind_pure]
    exact ⟨between, rfl⟩
  | cons spelled _ ih =>
    simp only [List.foldlM_cons, List.foldlM_append, ← bind_assoc]
    exact (agrees_clause spelled between).bind fun t between => ih between

theorem Agrees.finish {x : Except UsageError Reading} {result : Except Halt Reading} (h : Agrees x result) :
    result >>= Reading.finish = (x >>= conclude).mapError .usage := by
  cases result with
  | error halt =>
    obtain ⟨e, rfl, rfl⟩ := h
    rfl
  | ok t =>
    obtain ⟨_, rfl⟩ := h
    change t.finish = _
    rw [Reading.finish, mapError_bind]
    congr 1
    funext u
    rw [conclude]
    cases u.conflict? <;> rfl

end Reading

/-- A command line is read as its clauses are taken, in whatever way they are written. -/
theorem Options.ofWords_of_written {cs : List Clause} {words : List String} (written : Clause.Written cs words) :
    ofWords words = (cs.foldlM Reading.take {} >>= Reading.conclude).mapError .usage :=
  (Reading.agrees_words written (Reading.Settled.between ⟨rfl, rfl⟩)).finish

end BytecodeStore
