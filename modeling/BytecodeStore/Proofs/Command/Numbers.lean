import BytecodeStore.Bytecode.Workload
import BytecodeStore.Proofs.Command.Words
import BytecodeStore.Proofs.Text.Numeral

/-! # One grammar for numbers

Numbers come from the environment and from two options of the command line. All of them are the same numerals: where the
environment falls back on a default, the command line ends with the fault that comes first from the left.
-/
namespace BytecodeStore
open Numeral

/-- The options whose values are numbers. -/
inductive NumberOption where
  | minCapacity
  | growthFactor

namespace NumberOption

def setting : NumberOption → Setting
  | minCapacity => .minCapacity
  | growthFactor => .growthFactor

/-- The word that gives the option a value. -/
def word : NumberOption → String → String
  | minCapacity, value => "--min-capacity=" ++ value
  | growthFactor, value => "--growth-factor=" ++ value

def put : NumberOption → Doubling → UInt64 → Doubling
  | minCapacity, rule, v => { rule with minimum := v }
  | growthFactor, rule, v => { rule with factor := v }

theorem word_eq (x : NumberOption) (s : String) : x.word s = "--" ++ x.setting.long ++ "=" ++ s := by
  cases x <;> rfl

end NumberOption

namespace Reading
variable {r t : Reading} {x : NumberOption} {s : String}

/-- The option has the number, and is noted as given. -/
def put (r : Reading) (x : NumberOption) (v : UInt64) : Reading :=
  { r.note (.setting x.setting) with options := { r.options with rule := x.put r.options.rule v } }

theorem assign_number (fresh : .setting x.setting ∉ t.given) :
    t.assign x.setting s =
      match parse s with
      | .ok v => .ok (t.put x v)
      | .error fault => .error (.invalidValue s x.setting fault) := by
  rw [assign, if_neg fresh]
  cases x with
  | minCapacity =>
    rw [NumberOption.setting, Options.assign]
    cases parse s <;> rfl
  | growthFactor =>
    rw [NumberOption.setting, Options.assign]
    cases parse s <;> rfl

theorem word_number (reads : r.inputsOnly = false) (settled : r.settle = .ok t)
    (fresh : .setting x.setting ∉ t.given) :
    r.word (x.word s) =
      match parse s with
      | .ok v => .ok (t.put x v)
      | .error fault => .error (.usage (.invalidValue s x.setting fault)) := by
  rw [x.word_eq, word_assignment reads, settled]
  change (t.assign x.setting s).mapError Halt.usage = _
  rw [assign_number fresh]
  cases parse s <;> rfl

end Reading

namespace Options

theorem ofWords_behind {before : List String} {r : Reading} (read : before.foldlM Reading.word {} = .ok r) (w : String)
    (after : List String) :
    ofWords (before ++ w :: after) = ((r.word w >>= fun t => after.foldlM Reading.word t) >>= Reading.finish) := by
  rw [ofWords, List.foldlM_append, read]
  rfl

/-- Numbers have one grammar: an optional sign and digits, whose value is a word. A setting of the environment is such a
number, or else the default. An option of the command line takes the same numbers, whatever was read before it and
stands behind it, and all other values end the command line with a fault: they are empty, or begin with digits whose
value is no word, or else have a character that is no digit. -/
theorem numbers_have_one_grammar (s : String) :
    (∀ v d : UInt64, Denotes s v.toNat → Workload.number (some s) d = v) ∧
    (∀ d : UInt64, (∀ v : UInt64, ¬ Denotes s v.toNat) → Workload.number (some s) d = d) ∧
    ∀ (x : NumberOption) (before after : List String) (r t : Reading),
      before.foldlM Reading.word {} = .ok r → r.inputsOnly = false → r.settle = .ok t → .setting x.setting ∉ t.given →
      (∀ v : UInt64, Denotes s v.toNat →
        ofWords (before ++ x.word s :: after) = (after.foldlM Reading.word (t.put x v) >>= Reading.finish)) ∧
      ((∀ v : UInt64, ¬ Denotes s v.toNat) →
        ∃ fault, ofWords (before ++ x.word s :: after) = .error (.usage (.invalidValue s x.setting fault)) ∧
          (fault = .empty ↔ s = "") ∧ (fault = .tooLarge ↔ Overlong s)) := by
  refine ⟨?_, ?_, ?_⟩
  · intro v d denotes
    have parsed := parse_eq_ok_iff.mpr denotes
    simp only [Workload.number, Option.map_some, parsed]
  · intro d rejected
    obtain ⟨fault, parsed, _⟩ := parse_of_rejected rejected
    simp only [Workload.number, Option.map_some, parsed]
  · intro x before after r t read reads settled fresh
    rw [ofWords_behind read, Reading.word_number reads settled fresh]
    constructor
    · intro v denotes
      rw [parse_eq_ok_iff.mpr denotes]
      rfl
    · intro rejected
      obtain ⟨fault, parsed, reason⟩ := parse_of_rejected rejected
      rw [parsed]
      exact ⟨fault, rfl, reason⟩

/-- A sign and leading zeros are taken. Twenty nines are too large, also in front of a letter, and leave the default. -/
theorem leading_zeros_are_taken_and_twenty_nines_are_not :
    (ofWords ["--min-capacity=+007"] = .ok { rule := { minimum := 7 } } ∧ Workload.number (some "+007") 3 = 7) ∧
    ofWords ["--json", "--growth-factor=99999999999999999999x"] =
      .error (.usage (.invalidValue "99999999999999999999x" .growthFactor .tooLarge)) ∧
    Workload.number (some "99999999999999999999x") 3 = 3 := by
  constructor
  · have seven : Denotes "+007" (7 : UInt64).toNat := ⟨['0', '0', '7'], .inr rfl, by decide, by simp [Digits], by decide⟩
    obtain ⟨number, _, option⟩ := numbers_have_one_grammar "+007"
    have taken := (option .minCapacity [] [] {} {} rfl rfl rfl (by decide)).1 7 seven
    exact ⟨taken.trans rfl, number 7 3 seven⟩
  · have overlong : Overlong "99999999999999999999x" :=
      ⟨_, .inl rfl, List.replicate 20 '9', ['x'], rfl, by simp [Digits], by decide⟩
    have rejected (v : UInt64) : ¬ Denotes "99999999999999999999x" v.toNat := by
      intro denotes
      have taken := readChars_eq_ok_iff.mpr ⟨denotes, toNat_le_maxCount v⟩
      rw [readChars_eq_tooLarge_iff.mpr overlong] at taken
      cases taken
    obtain ⟨_, default, option⟩ := numbers_have_one_grammar "99999999999999999999x"
    let json : Reading := { options := { json := true }, given := [.flag .json] }
    obtain ⟨fault, refused, _, reason⟩ := (option .growthFactor ["--json"] [] json json rfl rfl rfl (by decide)).2 rejected
    obtain rfl := reason.mpr overlong
    exact ⟨refused, default 3 rejected⟩

end Options

end BytecodeStore
