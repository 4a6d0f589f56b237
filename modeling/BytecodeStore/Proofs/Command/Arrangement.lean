import BytecodeStore.Proofs.Command.Clauses
import BytecodeStore.Proofs.Command.Numbers
import BytecodeStore.Proofs.Command.Output
import Mathlib.Algebra.BigOperators.Group.List.Basic
import Mathlib.Algebra.Order.Ring.Nat
import Mathlib.Data.List.Induction
import Mathlib.Data.List.Perm.Basic

/-! # The order of clauses

Whether a command line is accepted, and what options it stands for, can be told from its clauses without reading them
in order, except for the order of its inputs. So clauses can be put in another order, and written in another way, and the
run is the same.
-/
namespace BytecodeStore
open Numeral

/-- A sum that is stopped at its end may be stopped before its last part too. -/
theorem min_add_min (n k m : ℕ) : min (min n m + k) m = min (n + k) m := by omega

/-- Whether an argument may be given only once. -/
def Argument.single : Argument → Bool
  | .flag .verbose | .inputs => false
  | _ => true

namespace Clause

@[simp] def argument : Clause → Argument
  | switch f => .flag f.flag
  | verbose _ => .flag .verbose
  | setting s _ => .setting s
  | input _ => .inputs

@[simp] def input? : Clause → Option String
  | input word => some word.text
  | _ => none

@[simp] def value? (s : Setting) : Clause → Option String
  | setting t value => if t = s then some value.text else none
  | _ => none

/-- How many flags for more detail there are in a clause. -/
@[simp] def detail : Clause → ℕ
  | verbose others => others + 1
  | _ => 0

def arguments (cs : List Clause) : List Argument := cs.map argument

def inputs (cs : List Clause) : List String := cs.filterMap input?

def values (s : Setting) (cs : List Clause) : List String := cs.filterMap (value? s)

/-- The number that an option has, or its standard. -/
def number (s : Setting) (cs : List Clause) (standard : UInt64) : UInt64 :=
  ((values s cs).getLast?.bind fun value => (parse value).toOption).getD standard

/-- The options that clauses stand for. -/
def options (cs : List Clause) : Options where
  inputs := inputs cs
  demo := .flag .demo ∈ arguments cs
  json := .flag .json ∈ arguments cs
  emit := (values .emit cs).getLast?
  strict := .flag .strict ∈ arguments cs
  stdinName := (values .stdinName cs).getLast?.getD "<stdin>"
  rule := ⟨number .minCapacity cs standardMinimum, number .growthFactor cs standardFactor⟩
  verbose := min (cs.map detail).sum Options.maxVerbose
  quiet := .flag .quiet ∈ arguments cs

/-- Nothing is given twice that may be given only once, and numbers are numerals of words. -/
structure Regular (cs : List Clause) : Prop where
  once : ∀ argument : Argument, argument.single → (arguments cs).count argument ≤ 1
  numbers : ∀ (x : NumberOption) (value : PlainWord), setting x.setting value ∈ cs →
    ∃ n : UInt64, Denotes value.text n.toNat

/-- In addition, nothing is given together with what it excludes. -/
structure Acceptable (cs : List Clause) : Prop extends Regular cs where
  demo : .flag .demo ∈ arguments cs → .inputs ∉ arguments cs
  quiet : .flag .quiet ∈ arguments cs → .flag .verbose ∉ arguments cs

/-- A clause that can be given behind others. -/
structure Follows (c : Clause) (cs : List Clause) : Prop where
  once : c.argument.single → c.argument ∉ arguments cs
  number : ∀ (x : NumberOption) (value : PlainWord), c = setting x.setting value →
    ∃ n : UInt64, Denotes value.text n.toNat

variable {cs cs' : List Clause} {c : Clause}

@[simp] theorem arguments_concat : arguments (cs ++ [c]) = arguments cs ++ [c.argument] := List.map_append

@[simp] theorem inputs_concat : inputs (cs ++ [c]) = inputs cs ++ c.input?.toList := by
  rw [inputs, List.filterMap_append, List.filterMap_cons, List.filterMap_nil]
  cases c.input? <;> rfl

@[simp] theorem values_concat (s : Setting) : values s (cs ++ [c]) = values s cs ++ (c.value? s).toList := by
  rw [values, List.filterMap_append, List.filterMap_cons, List.filterMap_nil]
  cases c.value? s <;> rfl

theorem regular_nil : Regular [] := ⟨fun _ _ => Nat.zero_le 1, nofun⟩

theorem regular_concat_iff : Regular (cs ++ [c]) ↔ Regular cs ∧ c.Follows cs := by
  have count (a : Argument) : (arguments (cs ++ [c])).count a =
      (arguments cs).count a + if c.argument = a then 1 else 0 := by
    rw [arguments_concat, List.count_append, List.count_singleton]
    simp only [beq_iff_eq]
  constructor
  · rintro ⟨once, numbers⟩
    refine ⟨⟨fun a single => ?_, fun x value given => numbers x value (List.mem_append_left _ given)⟩,
      fun single given => ?_, fun x value same => numbers x value (same ▸ List.mem_concat_self)⟩
    · have := once a single
      rw [count] at this
      omega
    · have := once c.argument single
      have present := List.count_pos_iff.mpr given
      rw [count, if_pos rfl] at this
      omega
  · rintro ⟨⟨once, numbers⟩, fresh, number⟩
    refine ⟨fun a single => ?_, fun x value given => ?_⟩
    · rw [count]
      split
      · rename_i same
        have absent := List.count_eq_zero.mpr (fresh (same ▸ single))
        rw [same] at absent
        omega
      · exact once a single
    · rcases List.mem_append.mp given with before | last
      · exact numbers x value before
      · exact number x value (List.mem_singleton.mp last).symm

/-! ## One more clause -/

theorem options_concat_switch (cs : List Clause) (f : Switch) :
    options (cs ++ [switch f]) = (options cs).raise f.flag := by
  cases f <;> simp [options, number, Switch.flag, Options.raise]

theorem options_concat_verbose (cs : List Clause) (others : ℕ) :
    options (cs ++ [verbose others]) =
      { options cs with verbose := min ((options cs).verbose + (others + 1)) Options.maxVerbose } := by
  simpa [options, number] using (min_add_min _ _ _).symm

theorem options_concat_input (cs : List Clause) (word : PlainWord) :
    options (cs ++ [input word]) = { options cs with inputs := (options cs).inputs ++ [word.text] } := by
  simp [options, number]

theorem assign_options {s : Setting} {value : PlainWord} (follows : (setting s value).Follows cs) :
    (options cs).assign s value.text = .ok (options (cs ++ [setting s value])) := by
  cases s with
  | emit => simp [Options.assign, options, number]
  | stdinName => simp [Options.assign, options, number]
  | minCapacity =>
    obtain ⟨n, denotes⟩ := follows.number .minCapacity value rfl
    simp [Options.assign, parse_eq_ok_iff.mpr denotes, Except.toOption, options, number]
  | growthFactor =>
    obtain ⟨n, denotes⟩ := follows.number .growthFactor value rfl
    simp [Options.assign, parse_eq_ok_iff.mpr denotes, Except.toOption, options, number]

end Clause

namespace Reading
variable {cs : List Clause} {c : Clause} {r t : Reading} {a : Argument}

/-- A reading by which clauses have been taken. -/
structure Took (cs : List Clause) (r : Reading) : Prop where
  options : r.options = Clause.options cs
  given : ∀ a, a ∈ r.given ↔ a ∈ Clause.arguments cs

theorem mem_note (r : Reading) (b : Argument) : a ∈ (r.note b).given ↔ a ∈ r.given ∨ a = b := by
  unfold note
  split
  · rename_i given
    exact ⟨.inl, fun h => h.elim id fun same => same ▸ given⟩
  · exact List.mem_append.trans (or_congr_right List.mem_singleton)

theorem mem_noteLast (r : Reading) (b : Argument) : a ∈ (r.noteLast b).given ↔ a ∈ r.given ∨ a = b := by
  by_cases same : a = b <;> simp [noteLast, same]

theorem options_more (r : Reading) (k : ℕ) :
    (more^[k + 1] r).options = { r.options with verbose := min (r.options.verbose + (k + 1)) Options.maxVerbose } := by
  induction k with
  | zero => rfl
  | succ k ih =>
    rw [Function.iterate_succ_apply', more, Options.raise, ih]
    exact congrArg (fun n => { r.options with verbose := n }) (min_add_min _ 1 _)

theorem mem_more (r : Reading) (k : ℕ) : a ∈ (more^[k + 1] r).given ↔ a ∈ r.given ∨ a = .flag .verbose := by
  induction k with
  | zero => exact mem_noteLast r _
  | succ k ih =>
    rw [Function.iterate_succ_apply']
    exact (mem_noteLast _ _).trans (by rw [ih, or_assoc, or_self])

theorem took_nil : Took [] {} := ⟨rfl, fun _ => Iff.rfl⟩

/-- What taking a clause amounts to: its argument is given, and the options are those of one more clause. -/
theorem Took.concat (took : Took cs r) (options : t.options = Clause.options (cs ++ [c]))
    (given : ∀ a, a ∈ t.given ↔ a ∈ r.given ∨ a = c.argument) : Took (cs ++ [c]) t := by
  refine ⟨options, fun a => ?_⟩
  rw [given, took.given, Clause.arguments_concat, List.mem_append, List.mem_singleton]

theorem Took.exists_take (took : Took cs r) (follows : c.Follows cs) :
    ∃ t, r.take c = .ok t ∧ Took (cs ++ [c]) t := by
  cases c with
  | switch f =>
    have single : (Argument.flag f.flag).single := by cases f <;> rfl
    have fresh : .flag f.flag ∉ r.given := (took.given _).not.mpr (follows.once single)
    refine ⟨_, if_neg fresh, took.concat ?_ fun _ => mem_note r _⟩
    rw [Clause.options_concat_switch, took.options]
  | verbose others =>
    refine ⟨_, rfl, took.concat ?_ fun _ => mem_more r others⟩
    rw [Clause.options_concat_verbose, options_more, took.options]
  | setting s value =>
    have fresh : .setting s ∉ r.given := (took.given _).not.mpr (follows.once rfl)
    have assigned := Clause.assign_options follows
    rw [← took.options] at assigned
    refine ⟨{ r.note (.setting s) with options := Clause.options (cs ++ [.setting s value]) }, ?_,
      took.concat rfl fun _ => mem_note r _⟩
    rw [take, assign, if_neg fresh, assigned]
    rfl
  | input word =>
    refine ⟨_, rfl, took.concat ?_ fun _ => mem_note r .inputs⟩
    rw [Clause.options_concat_input, took.options]

theorem denotes_of_assign {x : NumberOption} {value : String} {o o' : Options}
    (done : o.assign x.setting value = .ok o') : ∃ n : UInt64, Denotes value n.toNat := by
  cases parsed : parse value with
  | ok n => exact ⟨n, parse_eq_ok_iff.mp parsed⟩
  | error fault => cases x <;> simp [Options.assign, NumberOption.setting, parsed] at done

theorem Took.follows_of_take (took : Took cs r) (done : r.take c = .ok t) : c.Follows cs := by
  cases c with
  | switch f =>
    rw [take] at done
    split at done
    · cases done
    · rename_i fresh
      exact ⟨fun _ => (took.given _).not.mp fresh, fun _ _ h => (by cases h)⟩
  | verbose others => exact ⟨fun h => (by cases h), fun _ _ h => (by cases h)⟩
  | setting s value =>
    obtain ⟨fresh, _, assigned, _⟩ := ok_of_assign done
    refine ⟨fun _ => (took.given _).not.mp fresh, fun x value' same => ?_⟩
    cases same
    exact denotes_of_assign assigned
  | input word => exact ⟨fun h => (by cases h), fun _ _ h => (by cases h)⟩

theorem foldlM_take_concat (r : Reading) (cs : List Clause) (c : Clause) :
    (cs ++ [c]).foldlM take r = cs.foldlM take r >>= fun s => s.take c := by
  simp only [List.foldlM_append, List.foldlM_cons, List.foldlM_nil, bind_pure]

theorem exists_took (regular : Clause.Regular cs) : ∃ t, cs.foldlM take {} = .ok t ∧ Took cs t := by
  induction cs using List.reverseRecOn with
  | nil => exact ⟨{}, rfl, took_nil⟩
  | append_singleton cs c ih =>
    obtain ⟨regular, follows⟩ := Clause.regular_concat_iff.mp regular
    obtain ⟨s, before, took⟩ := ih regular
    obtain ⟨t, taken, took⟩ := took.exists_take follows
    refine ⟨t, ?_, took⟩
    rw [foldlM_take_concat, bind_of_ok before, taken]

theorem took_of_foldlM (done : cs.foldlM take {} = .ok t) : Clause.Regular cs ∧ Took cs t := by
  induction cs using List.reverseRecOn generalizing t with
  | nil =>
    cases done
    exact ⟨Clause.regular_nil, took_nil⟩
  | append_singleton cs c ih =>
    rw [foldlM_take_concat] at done
    obtain ⟨s, before, taken⟩ := ok_of_bind done
    obtain ⟨regular, took⟩ := ih before
    have follows := took.follows_of_take taken
    obtain ⟨t', taken', took⟩ := took.exists_take follows
    obtain rfl := Except.ok.inj (taken.symm.trans taken')
    exact ⟨Clause.regular_concat_iff.mpr ⟨regular, follows⟩, took⟩

theorem conflict?_eq_none_iff : r.conflict? = none ↔
    (.flag .demo ∈ r.given → .inputs ∉ r.given) ∧ (.flag .quiet ∈ r.given → .flag .verbose ∉ r.given) := by
  refine List.findSome?_eq_none_iff.trans ⟨fun calm => ?_, ?_⟩
  · have apart {a other : Argument} (given : a ∈ r.given) (excluded : a.excluded? = some other) :
        other ∉ r.given := by
      intro given'
      have := calm a given
      simp [excluded, given'] at this
    exact ⟨fun given => apart given rfl, fun given => apart given rfl⟩
  · rintro ⟨demo, quiet⟩ a given
    have apart (other : Argument) (excluded : a.excluded? = some other) : other ∉ r.given := by
      unfold Argument.excluded? at excluded
      split at excluded <;> cases excluded
      · exact demo given
      · exact fun h => demo h given
      · exact quiet given
      · exact fun h => quiet h given
    cases excluded : a.excluded? with
    | none => rfl
    | some other => exact if_neg (apart other excluded)

theorem conclude_eq_ok_iff {o : Options} : r.conclude = .ok o ↔ r.conflict? = none ∧ r.options = o := by
  unfold conclude
  cases r.conflict? <;> simp

end Reading

namespace Options
variable {cs cs' : List Clause} {words words' : List String} {o : Options}

/-- A command line is accepted exactly if its clauses are acceptable, and it stands for the options that they stand
for. -/
theorem ofWords_eq_ok_iff (written : Clause.Written cs words) :
    ofWords words = .ok o ↔ Clause.Acceptable cs ∧ Clause.options cs = o := by
  rw [ofWords_of_written written, mapError_eq_ok]
  constructor
  · intro done
    obtain ⟨t, taken, concluded⟩ := ok_of_bind done
    obtain ⟨regular, took⟩ := Reading.took_of_foldlM taken
    obtain ⟨calm, rfl⟩ := Reading.conclude_eq_ok_iff.mp concluded
    rw [Reading.conflict?_eq_none_iff] at calm
    simp only [took.given] at calm
    exact ⟨⟨regular, calm.1, calm.2⟩, took.options.symm⟩
  · rintro ⟨⟨regular, demo, quiet⟩, rfl⟩
    obtain ⟨t, taken, took⟩ := Reading.exists_took regular
    rw [bind_of_ok taken, Reading.conclude_eq_ok_iff, Reading.conflict?_eq_none_iff]
    simp only [took.given]
    exact ⟨⟨demo, quiet⟩, took.options⟩

theorem accepted_iff (written : Clause.Written cs words) :
    (∃ o, ofWords words = .ok o) ↔ Clause.Acceptable cs := by
  simp only [ofWords_eq_ok_iff written, exists_and_left, exists_eq', and_true]

/-- What is not accepted is an error of usage: no clause asks for help. -/
theorem exists_usage_error (written : Clause.Written cs words) (rejected : ¬ Clause.Acceptable cs) :
    ∃ e, ofWords words = .error (.usage e) := by
  rw [ofWords_of_written written]
  cases read : cs.foldlM Reading.take {} >>= Reading.conclude with
  | error e => exact ⟨e, rfl⟩
  | ok o =>
    have accepted : ofWords words = .ok o := by rw [ofWords_of_written written, read]; rfl
    exact absurd ((ofWords_eq_ok_iff written).mp accepted).1 rejected

end Options

namespace Clause
variable {cs cs' : List Clause}

/-! ## Another order -/

theorem count_setting (s : Setting) (cs : List Clause) :
    (arguments cs).count (.setting s) = (values s cs).length := by
  induction cs using List.reverseRecOn with
  | nil => rfl
  | append_singleton cs c ih =>
    rw [arguments_concat, values_concat, List.count_append, List.length_append, ih]
    congr 1
    cases c with
    | setting t value => by_cases same : t = s <;> simp [same]
    | switch f => cases f <;> rfl
    | verbose others => rfl
    | input word => rfl

theorem Regular.of_perm (regular : Regular cs) (perm : cs.Perm cs') : Regular cs' := by
  have arguments : (arguments cs).Perm (arguments cs') := perm.map argument
  refine ⟨fun a single => ?_, fun x value given => regular.numbers x value (perm.mem_iff.mpr given)⟩
  rw [← arguments.count_eq]
  exact regular.once a single

theorem Acceptable.of_perm (acceptable : Acceptable cs) (perm : cs.Perm cs') : Acceptable cs' := by
  have arguments (a : Argument) : a ∈ arguments cs ↔ a ∈ arguments cs' := (perm.map argument).mem_iff
  refine ⟨acceptable.toRegular.of_perm perm, ?_, ?_⟩
  · rw [← arguments, ← arguments]
    exact acceptable.demo
  · rw [← arguments, ← arguments]
    exact acceptable.quiet

/-- An option has one value at most, so there is no order among its values. -/
theorem Regular.values_eq_of_perm (regular : Regular cs) (perm : cs.Perm cs') (s : Setting) :
    values s cs' = values s cs := by
  have same : (values s cs').Perm (values s cs) := (perm.filterMap (value? s)).symm
  have short := regular.once (.setting s) rfl
  rw [count_setting] at short
  match given : values s cs, short with
  | [], _ => exact (given ▸ same).eq_nil
  | [value], _ => exact List.perm_singleton.mp (given ▸ same)

theorem Regular.options_eq_of_perm (regular : Regular cs) (perm : cs.Perm cs') (ordered : inputs cs' = inputs cs) :
    options cs' = options cs := by
  have arguments (a : Argument) : a ∈ arguments cs' ↔ a ∈ arguments cs := (perm.map argument).symm.mem_iff
  have details : (cs'.map detail).sum = (cs.map detail).sum := (perm.map detail).symm.sum_eq
  simp only [options, number, ordered, arguments, details, regular.values_eq_of_perm perm]

end Clause

namespace Run
variable {cs cs' : List Clause} {words words' : List String}

theorem code_eq_two_iff (written : Clause.Written cs words) (env : Environment) (files : Workspace)
    (stdin : Array UInt8) : (ended env files stdin words).1.code = 2 ↔ ¬ Clause.Acceptable cs := by
  by_cases acceptable : Clause.Acceptable cs
  · have accepted := (Options.ofWords_eq_ok_iff written).mpr ⟨acceptable, rfl⟩
    rw [ended_of_accepted env _ files stdin accepted]
    rcases Machine.perform _ _ with ⟨e | _, w⟩
    · exact iff_of_false (by decide : ¬ Exit.failure.code = 2) (not_not.mpr acceptable)
    · exact iff_of_false (by decide : ¬ Exit.success.code = 2) (not_not.mpr acceptable)
  · obtain ⟨e, rejected⟩ := Options.exists_usage_error written acceptable
    refine iff_of_true ?_ acceptable
    rw [ended, command, rejected]
    rfl

/-- Clauses may be written in any way and put in any order that keeps the order of the inputs. A command line of them is
accepted in all cases or in none: it is if nothing is given twice but flags for more detail and inputs, the numbers are
numerals, the demonstration is given without inputs, and quiet without flags for more detail. If it is, the whole run is
the same, with its exit, what it shows and reports, and the files that it leaves; and else it is no proper use. -/
theorem order_and_spelling_are_free (written : Clause.Written cs words) (written' : Clause.Written cs' words')
    (perm : cs.Perm cs') (ordered : Clause.inputs cs' = Clause.inputs cs) :
    ((∃ o, Options.ofWords words = .ok o) ↔ Clause.Acceptable cs) ∧
    ((∃ o, Options.ofWords words' = .ok o) ↔ ∃ o, Options.ofWords words = .ok o) ∧
    (∀ env files stdin, (ended env files stdin words).1.code = 2 ↔ ¬ Clause.Acceptable cs) ∧
    ∀ o, Options.ofWords words = .ok o →
      Options.ofWords words' = .ok o ∧
        ∀ env files stdin, ended env files stdin words' = ended env files stdin words := by
  refine ⟨Options.accepted_iff written, ?_, code_eq_two_iff written, fun o accepted => ?_⟩
  · rw [Options.accepted_iff written, Options.accepted_iff written']
    exact ⟨fun h => h.of_perm perm.symm, fun h => h.of_perm perm⟩
  · obtain ⟨acceptable, same⟩ := (Options.ofWords_eq_ok_iff written).mp accepted
    have accepted' : Options.ofWords words' = .ok o := by
      rw [Options.ofWords_eq_ok_iff written', acceptable.options_eq_of_perm perm ordered]
      exact ⟨acceptable.of_perm perm, same⟩
    refine ⟨accepted', fun env files stdin => ?_⟩
    rw [ended_of_accepted env o files stdin accepted, ended_of_accepted env o files stdin accepted']

/-- Two inputs with options around them: a value of its own moves behind an equals sign, and all but the inputs move. -/
theorem options_move_around_two_inputs :
    let a : PlainWord := ⟨"a", by decide⟩
    let b : PlainWord := ⟨"b", by decide⟩
    let four : PlainWord := ⟨"4", by decide⟩
    let cs := [.setting .minCapacity four, .input a, .verbose 1, .input b, .switch .json]
    let cs' := [.input a, .switch .json, .input b, .verbose 1, .setting .minCapacity four]
    let words := ["--min-capacity", "4", "a", "-vv", "b", "--json"]
    let words' := ["a", "--json", "b", "-vv", "--min-capacity=4"]
    (Clause.Written cs words ∧ Clause.Written cs' words' ∧ cs.Perm cs' ∧ Clause.inputs cs' = Clause.inputs cs) ∧
      Options.ofWords words' = .ok { inputs := ["a", "b"], json := true, rule := { minimum := 4 }, verbose := 2 } ∧
      ∀ env files stdin, ended env files stdin words' = ended env files stdin words := by
  intro a b four cs cs' words words'
  have written : Clause.Written cs words :=
    .cons (.apart _ _) (.cons (.input _) (.cons (.cluster _) (.cons (.input _) (.cons (.long _) .nil))))
  have written' : Clause.Written cs' words' :=
    .cons (.input _) (.cons (.long _) (.cons (.input _) (.cons (.cluster _) (.cons (.joined _ _) .nil))))
  have perm : cs.Perm cs' := by decide
  obtain ⟨_, _, _, same⟩ := order_and_spelling_are_free written written' perm rfl
  exact ⟨⟨written, written', perm, rfl⟩, same _ rfl⟩

end Run

end BytecodeStore
