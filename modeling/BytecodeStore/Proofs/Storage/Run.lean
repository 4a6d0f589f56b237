import BytecodeStore.Proofs.Storage.Append
import BytecodeStore.Storage.Session

/-! # Steps and runs of a session

`Stepped` lists once what a step can do. What appends and frees preserve of a single buffer therefore holds of every
buffer of a run, with steps that fail, copies and changing allocators in between.
-/
namespace BytecodeStore

/-- The elements that an action appends, if it is an append. -/
def Action.values? {σ α : Type} [Block σ α] : Action σ α → Option (List α)
  | .push _ a => some [a]
  | .extend _ s => some (Block.toList s)
  | .free _ | .clone _ => none

namespace Session
variable {σ ρ α : Type} [Block σ α] [GrowthRule ρ]
variable {m : Allocator} {slots next : Session σ ρ} {b c : Buffer σ ρ} {action : Action σ α} {result : StepResult}
variable {values : List α} {growths : Array Growth} {slot : ℕ}

inductive Stepped (m : Allocator) (slots : Session σ ρ) : Action σ α → Session σ ρ → StepResult → Prop where
  | appended {action : Action σ α} {b c : Buffer σ ρ} {values : List α} {growths : Array Growth}
    (append : action.values? = some values) (holds : slots[action.slot]? = some b)
    (h : b.Appended m values c growths) : Stepped m slots action (slots.set action.slot c) (.done growths)
  | refused {action : Action σ α} {b : Buffer σ ρ} {values : List α} {e : GrowthError}
    (append : action.values? = some values) (holds : slots[action.slot]? = some b)
    (h : b.Refused m values.length e) : Stepped m slots action slots (.failed ⟨e, #[]⟩)
  | freed {slot : ℕ} {b : Buffer σ ρ} (holds : slots[slot]? = some b) :
    Stepped m slots (.free slot) (slots.set slot b.free) (.done #[])
  | cloned {slot : ℕ} {b : Buffer σ ρ} (holds : slots[slot]? = some b) :
    Stepped m slots (.clone slot) (slots ++ [b]) (.cloned slots.length)
  | absent {action : Action σ α} (h : slots[action.slot]? = none) : Stepped m slots action slots .noSlot

theorem step_of_holds (holds : slots[action.slot]? = some b) : step m slots action = stepOn m slots b action := by
  rw [step, holds]

omit [GrowthRule ρ] in
/-- A slot that is given back what it held is as before. -/
theorem settle_untouched (holds : slots[slot]? = some b) (e : GrowthError) :
    settle slots slot (.error (.untouched e b)) = (slots, .failed ⟨e, #[]⟩) := by
  obtain ⟨inside, rfl⟩ := List.getElem?_eq_some_iff.mp holds
  exact congrArg (·, StepResult.failed ⟨e, #[]⟩) (List.set_getElem_self inside)

theorem stepped_settle {outcome : Outcome (Buffer σ ρ)} (append : action.values? = some values)
    (holds : slots[action.slot]? = some b) (ends : b.Ends m values outcome) :
    Stepped m slots action (settle slots action.slot outcome).1 (settle slots action.slot outcome).2 := by
  cases ends with
  | appended h => exact .appended append holds h
  | refused h =>
    rw [settle_untouched holds]
    exact .refused append holds h

theorem stepped_step (m : Allocator) (slots : Session σ ρ) (action : Action σ α) :
    Stepped m slots action (step m slots action).1 (step m slots action).2 := by
  cases h : slots[action.slot]? with
  | none =>
    rw [step, h]
    exact .absent h
  | some b =>
    rw [step_of_holds h]
    cases action with
    | push slot a =>
      have append : (Action.push slot a : Action σ α).values? = some [a] := rfl
      exact stepped_settle append h (b.ends_push m a)
    | extend slot s =>
      have append : (Action.extend slot s : Action σ α).values? = some (Block.toList s) := rfl
      exact stepped_settle append h (b.ends_extend m s)
    | free slot => exact .freed h
    | clone slot => exact .cloned h

/-- What a step does that appends to a buffer which is there. -/
theorem Stepped.append_cases (h : Stepped m slots action next result) (append : action.values? = some values)
    (holds : slots[action.slot]? = some b) :
    (∃ c growths, b.Appended m values c growths ∧ next = slots.set action.slot c ∧ result = .done growths) ∨
      ∃ e, b.Refused m values.length e ∧ next = slots ∧ result = .failed ⟨e, #[]⟩ := by
  cases h with
  | appended append' holds' h =>
    obtain rfl := Option.some.inj (append.symm.trans append')
    obtain rfl := Option.some.inj (holds.symm.trans holds')
    exact .inl ⟨_, _, h, rfl, rfl⟩
  | refused append' holds' h =>
    obtain rfl := Option.some.inj (append.symm.trans append')
    obtain rfl := Option.some.inj (holds.symm.trans holds')
    exact .inr ⟨_, h, rfl, rfl⟩
  | freed => cases append
  | cloned => cases append
  | absent h =>
    rw [holds] at h
    cases h

omit [GrowthRule ρ] in
theorem getElem?_set_eq_some {i : ℕ} (h : (slots.set i c)[slot]? = some b) :
    (i = slot ∧ c = b) ∨ (i ≠ slot ∧ slots[slot]? = some b) := by
  rw [List.getElem?_set] at h
  by_cases here : i = slot
  · rw [if_pos here] at h
    split at h
    · exact .inl ⟨here, Option.some.inj h⟩
    · cases h
  · rw [if_neg here] at h
    exact .inr ⟨here, h⟩

theorem forall_mem_set {β : Type} {xs : List β} {P : β → Prop} {c : β} (all : ∀ b ∈ xs, P b) (hc : P c) (i : ℕ) :
    ∀ b ∈ xs.set i c, P b := by
  intro b hb
  rcases List.mem_or_eq_of_mem_set hb with hb | rfl
  · exact all b hb
  · exact hc

theorem Stepped.forall_mem {P : Buffer σ ρ → Prop}
    (append : ∀ {b c} {values : List α} {growths}, b.Appended m values c growths → P b → P c)
    (free : ∀ b, P b → P b.free) (h : Stepped m slots action next result) (all : ∀ b ∈ slots, P b) :
    ∀ b ∈ next, P b := by
  have held {slot : ℕ} {b : Buffer σ ρ} (holds : slots[slot]? = some b) : P b := all b (List.mem_of_getElem? holds)
  cases h with
  | appended _ holds h => exact forall_mem_set all (append h (held holds)) _
  | refused => exact all
  | freed holds => exact forall_mem_set all (free _ (held holds)) _
  | cloned holds =>
    intro b hb
    rcases List.mem_append.mp hb with hb | hb
    · exact all b hb
    · rw [List.mem_singleton.mp hb]
      exact held holds
  | absent => exact all

/-- What frees, and appends under the allocators of a run, preserve holds of every buffer of the run, if it holds of
those that the run starts with. -/
theorem forall_mem_run {P : Buffer σ ρ → Prop} {allowed : Allocator → Prop}
    (append : ∀ {m b c} {values : List α} {growths}, allowed m → b.Appended m values c growths → P b → P c)
    (free : ∀ b, P b → P b.free) {slots : Session σ ρ} (all : ∀ b ∈ slots, P b)
    {steps : List (Allocator × Action σ α)} (fair : ∀ entry ∈ steps, allowed entry.1) :
    ∀ b ∈ (run slots steps).1, P b := by
  induction steps generalizing slots with
  | nil => exact all
  | cons first rest ih =>
    have here := fair first List.mem_cons_self
    have next := (stepped_step first.1 slots first.2).forall_mem (append here) free all
    exact ih next fun entry later => fair entry (List.mem_cons_of_mem _ later)

/-- The slots that a program begins with: an empty buffer for each rule. -/
def start (rules : List ρ) : Session σ ρ := rules.map Buffer.withRule

omit [GrowthRule ρ] in
theorem forall_mem_start {P : Buffer σ ρ → Prop} (fresh : ∀ rule, P (Buffer.withRule rule)) (rules : List ρ) :
    ∀ b ∈ (start rules : Session σ ρ), P b := by
  intro b hb
  obtain ⟨rule, _, rfl⟩ := List.mem_map.mp hb
  exact fresh rule

end Session

namespace Buffer
variable {σ ρ α : Type} [Block σ α] [GrowthRule ρ] {b : Buffer σ ρ}

/-- Buffers that some run produces from empty ones. -/
def Reachable (b : Buffer σ ρ) : Prop :=
  ∃ (rules : List ρ) (steps : List (Allocator × Action σ α)), b ∈ (Session.run (Session.start rules) steps).1

theorem Reachable.invariant {P : Buffer σ ρ → Prop} (fresh : ∀ rule, P (withRule rule))
    (append : ∀ {m b c} {values : List α} {growths}, b.Appended m values c growths → P b → P c)
    (free : ∀ b, P b → P b.free) (h : Reachable b) : P b := by
  obtain ⟨rules, steps, hb⟩ := h
  have all := Session.forall_mem_start fresh rules
  exact Session.forall_mem_run (fun _ : True => append) free all (fun _ _ => trivial) b hb

end Buffer

end BytecodeStore
