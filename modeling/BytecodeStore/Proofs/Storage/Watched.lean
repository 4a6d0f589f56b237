import BytecodeStore.Proofs.Results
import BytecodeStore.Proofs.Storage.Run
import BytecodeStore.Storage.Watched

/-! # Watched sessions

A buffer fits its capacity, and that is all that its operations need: on a bare buffer that was one with the promise, a
watched operation does what the plain one does. Its sums and differences are words and its checks hold, with one
exception. A push on a buffer that holds as many elements as can be counted adds one to their number, and traps.
-/
namespace BytecodeStore
open Watched InPlace

/-! ## Words and checks -/

namespace Watched
variable {ε β γ : Type} {a b : ℕ}

theorem add_of_le (h : a + b ≤ maxCount) : add a b = .ok ⟨a + b, rfl⟩ := if_pos h

theorem add_of_lt (h : maxCount < a + b) : add a b = .error .overflow := if_neg (Nat.not_le.mpr h)

theorem sub_of_le (h : b ≤ a) : sub a b = .ok (a - b) := if_pos h

theorem check_true : check true = .ok () := rfl

theorem after_lift_ok {s : β × Array Growth} (x : γ) :
    after s (liftM (Except.ok x : Except Trap γ) : InPlace (Except Trap) β γ) = pure (.ok x, s) := rfl

/-! The watched computations on top of which there is nothing but an error, those of readers. -/

@[simp] theorem lift_ok_bind (x : β) (next : β → Watched ε γ) :
    (liftM (Except.ok x : Except Trap β) >>= next) = next x := rfl

end Watched

variable {σ ρ α : Type} [Block σ α] {m : Allocator}

theorem Bare.push_of_count_eq [GrowthRule ρ] {b : Bare σ ρ} (a : α) (last : b.count = maxCount) :
    b.push m a = .error .overflow := by
  have sum : Watched.add b.count 1 = .error .overflow := by
    apply add_of_lt
    simp [last]
  rw [Bare.push, Bare.pushInPlace, on_now, sum]
  rfl

namespace Buffer

def bare (b : Buffer σ ρ) : Bare σ ρ := ⟨b.data, b.capacity, b.rule⟩

@[simp] theorem bare_capacity (b : Buffer σ ρ) : b.bare.capacity = b.capacity := rfl

@[simp] theorem count_bare (b : Buffer σ ρ) : b.bare.count = b.count := rfl

@[simp] theorem fits_bare (b : Buffer σ ρ) : b.bare.fits = true := decide_eq_true b.fits

/-! ## One buffer -/

variable {b : Buffer σ ρ} {next : UInt64} {next? : Option UInt64} {required : ℕ} {growths : Array Growth}

theorem after_reallocate_bare (larger : b.capacity < next) :
    after (b.bare, growths) (Bare.reallocate m next) =
      if m.grants (Block.width σ) next then
        pure (.ok (), ((b.raise next (UInt64.le_of_lt larger)).bare, growths.push (b.growthTo next)))
      else pure (.error (.allocationFailed next), (b.bare, growths)) := by
  have held : b.count ≤ next.toNat :=
    Nat.le_trans b.count_le_capacity (Nat.le_of_lt (UInt64.lt_iff_toNat_lt.mp larger))
  have slots : b.count + (next.toNat - b.count) = next.toNat := Nat.add_sub_of_le held
  simp only [Bare.reallocate, after_bind, after_now, pure_bind, bare_capacity, count_bare, larger, decide_true,
    check_true, sub_of_le held, after_lift_ok, slots, UInt64.ofNat_toNat]
  cases m.grants (Block.width σ) next <;> rfl

theorem after_store_bare (add : σ → σ) (c : Buffer σ ρ) {d : Bare σ ρ} (data : c.data = add d.data)
    (capacity : c.capacity = d.capacity) (rule : c.rule = d.rule) :
    after (d, growths) (Bare.store add) = pure (.ok (), (c.bare, growths)) := by
  have same : (⟨add d.data, d.capacity, d.rule⟩ : Bare σ ρ) = c.bare := by rw [← data, ← capacity, ← rule]; rfl
  simp only [Bare.store, after_bind, after_now, pure_bind, after_put, same, fits_bare, check_true, after_lift_ok]

theorem after_reserve_bare :
    after (b.bare, growths) (Bare.reserve m required next?) =
      if b.capacity.toNat < required then
        match next? with
        | none => pure (.error (.capacityOverflow b.count), (b.bare, growths))
        | some next => after (b.bare, growths) (Bare.reallocate m next)
      else pure (.ok (), (b.bare, growths)) := by
  rw [Bare.reserve, after_bind, after_now, pure_bind]
  dsimp only
  rw [bare_capacity]
  by_cases short : b.capacity.toNat < required
  · rw [if_pos short, if_pos short]
    cases next? <;> rfl
  · rw [if_neg short, if_neg short, after_pure]

variable {c : Buffer σ ρ} (add : σ → σ)

/-- What an append does once it knows how much it requires: it makes sure of a capacity and stores data that fit it. -/
def reserving (m : Allocator) (required : ℕ) (next? : Option UInt64) (add : σ → σ) :
    InPlace (Except Trap) (Bare σ ρ) Unit :=
  Bare.reserve m required next? >>= fun _ => Bare.store add

theorem reserving_of_room (data : c.data = add b.data) (capacity : c.capacity = b.capacity) (rule : c.rule = b.rule)
    (room : required ≤ b.capacity.toNat) :
    (reserving m required next? add).on b.bare = .ok (.ok (c.bare, #[])) := by
  rw [reserving, on_eq, after_bind, after_reserve_bare, if_neg (Nat.not_lt.mpr room), pure_bind]
  dsimp only
  rw [after_store_bare add c data capacity rule]
  rfl

theorem reserving_of_none (short : b.capacity.toNat < required) :
    (reserving m required none add).on b.bare = .ok (.error (.untouched (.capacityOverflow b.count) b.bare)) := by
  rw [reserving, on_eq, after_bind, after_reserve_bare, if_pos short]
  rfl

theorem reserving_of_some (data : c.data = add b.data) (capacity : c.capacity = next) (rule : c.rule = b.rule)
    (short : b.capacity.toNat < required) (larger : b.capacity < next) :
    (reserving m required (some next) add).on b.bare =
      .ok (Outcome.image bare
        (if m.grants (Block.width σ) next then .ok (c, #[b.growthTo next])
        else .error (.untouched (.allocationFailed next) b))) := by
  rw [reserving, on_eq, after_bind, after_reserve_bare, if_pos short]
  dsimp only
  rw [after_reallocate_bare larger]
  cases m.grants (Block.width σ) next with
  | false => rfl
  | true =>
    rw [if_pos rfl, if_pos rfl, pure_bind]
    dsimp only
    rw [after_store_bare add c data capacity rule]
    rfl

variable [GrowthRule ρ]

theorem next?_bare_of_grows (grows : b.capacity < GrowthRule.after b.rule b.capacity) :
    b.bare.next? = some (GrowthRule.after b.rule b.capacity) := if_neg (UInt64.not_le.mpr grows)

theorem next?_bare_of_stalled (stalled : ¬ b.capacity < GrowthRule.after b.rule b.capacity) :
    b.bare.next? = none := if_pos (UInt64.not_lt.mp stalled)

/-- Below the largest count a watched push is the plain one. -/
theorem push_bare (b : Buffer σ ρ) (a : α) (countable : b.count < maxCount) :
    b.bare.push m a = .ok ((b.push m a).image bare) := by
  have bound := b.count_le_capacity
  have sum : Watched.add b.bare.count 1 = .ok ⟨b.count + 1, rfl⟩ := add_of_le countable
  have first : b.bare.push m a = (reserving m (b.count + 1) b.bare.next? (Block.push · a)).on b.bare := by
    rw [Bare.push, Bare.pushInPlace, on_now, sum, on_eq, after_bind, after_lift_ok, on_eq, reserving]
    rfl
  rw [first]
  by_cases room : b.count < b.capacity.toNat
  · rw [push_of_room room]
    exact reserving_of_room (Block.push · a) rfl rfl rfl room
  have short : b.capacity.toNat < b.count + 1 := by omega
  by_cases grows : b.capacity < GrowthRule.after b.rule b.capacity
  · rw [next?_bare_of_grows grows, push_of_grows room rfl grows]
    exact reserving_of_some (Block.push · a) rfl rfl rfl short grows
  · rw [next?_bare_of_stalled grows, push_of_stalled room grows]
    exact reserving_of_none (Block.push · a) short

theorem extend_bare (b : Buffer σ ρ) (s : σ) : b.bare.extend m s = .ok ((b.extend m s).image bare) := by
  have first : b.bare.extend m s = InPlace.on (if maxCount < b.count + Block.size s then _ else _) b.bare := on_now
  rw [first]
  by_cases beyond : maxCount < b.count + Block.size s
  · have failed : b.extend m s = .error (.untouched (.capacityOverflow b.count) b) :=
      extend_eq_error_iff.mpr ⟨rfl, .uncountable (by rw [Block.length_toList]; exact beyond)⟩
    rw [if_pos beyond, failed]
    rfl
  have work : b.bare.extend m s =
      (reserving m (b.count + Block.size s) (capacityFor b.rule b.capacity (b.count + Block.size s))
        (Block.append · s)).on b.bare := first.trans (congrArg (InPlace.on · b.bare) (if_neg beyond))
  rw [← first, work]
  by_cases room : b.count + Block.size s ≤ b.capacity.toNat
  · rw [extend_of_room room]
    exact reserving_of_room (Block.append · s) rfl rfl rfl room
  have short := Nat.lt_of_not_le room
  cases reached : capacityFor b.rule b.capacity (b.count + Block.size s) with
  | none =>
    rw [extend_of_none reached]
    exact reserving_of_none (Block.append · s) short
  | some next =>
    have bounds := capacityFor_bounds b.rule reached
    have larger : b.capacity < next := UInt64.lt_iff_toNat_lt.mpr (Nat.lt_of_lt_of_le short bounds.1)
    rw [extend_of_some reached larger]
    exact reserving_of_some (Block.append · s) rfl rfl rfl short larger

end Buffer

/-! ## Sessions -/

namespace BareSession
variable [GrowthRule ρ] {slots : BareSession σ ρ} {action : Action σ α}

/-- The action pushes onto as many elements as can be counted. -/
def PushesLast (slots : BareSession σ ρ) (action : Action σ α) : Prop :=
  ∃ slot a b, action = .push slot a ∧ slots[slot]? = some b ∧ b.count = maxCount

theorem step_of_pushesLast (h : PushesLast slots action) : step m slots action = .error .overflow := by
  obtain ⟨slot, a, b, rfl, holds, last⟩ := h
  have trapped := Bare.push_of_count_eq (m := m) a last
  simp only [step, Action.slot, holds, stepOn, trapped]
  rfl

end BareSession

namespace Session
variable {slots : Session σ ρ} {b : Buffer σ ρ} {action : Action σ α} {slot : ℕ} {results : List StepResult}

def bare (slots : Session σ ρ) : BareSession σ ρ := slots.map Buffer.bare

theorem bare_set : bare (slots.set slot b) = (bare slots).set slot b.bare := List.map_set

theorem getElem?_bare (i : ℕ) : (bare slots)[i]? = slots[i]?.map Buffer.bare := List.getElem?_map

theorem bare_start (rules : List ρ) : bare (start rules : Session σ ρ) = BareSession.start rules := List.map_map

theorem settle_bare (slots : Session σ ρ) (slot : ℕ) (outcome : Outcome (Buffer σ ρ)) :
    BareSession.settle (bare slots) slot (outcome.image Buffer.bare) =
      (bare (settle slots slot outcome).1, (settle slots slot outcome).2) := by
  cases outcome with
  | error f => exact congrArg (·, StepResult.failed f.toAppendFailure) bare_set.symm
  | ok r => exact congrArg (·, StepResult.done r.2) bare_set.symm

variable [GrowthRule ρ]

theorem stepOn_bare (countable : ∀ slot a, action = .push slot a → b.count < maxCount) :
    BareSession.stepOn m (bare slots) b.bare action =
      .ok (bare (stepOn m slots b action).1, (stepOn m slots b action).2) := by
  cases action with
  | push slot a =>
    rw [BareSession.stepOn, b.push_bare a (countable slot a rfl)]
    exact congrArg Except.ok (settle_bare slots slot _)
  | extend slot s =>
    rw [BareSession.stepOn, b.extend_bare s]
    exact congrArg Except.ok (settle_bare slots slot _)
  | free slot =>
    change Except.ok ((bare slots).set slot b.free.bare, _) = _
    rw [← bare_set]
    rfl
  | clone slot =>
    have appended : bare (slots ++ [b]) = bare slots ++ [b.bare] := List.map_append
    have length : (bare slots).length = slots.length := List.length_map _
    simp only [BareSession.stepOn, stepOn, appended, length]

/-- Every watched step is the plain one, but for a push past the largest count. -/
theorem step_bare (possible : ¬ BareSession.PushesLast (bare slots) action) :
    BareSession.step m (bare slots) action = .ok (bare (step m slots action).1, (step m slots action).2) := by
  rw [BareSession.step, step, getElem?_bare]
  cases holds : slots[action.slot]? with
  | none => rfl
  | some b =>
    refine stepOn_bare fun slot a pushes => Nat.lt_of_le_of_ne b.count_le_maxCount fun last => ?_
    subst pushes
    have held : (bare slots)[slot]? = some b.bare := by
      rw [getElem?_bare]
      exact congrArg _ holds
    exact possible ⟨slot, a, b.bare, rfl, held, last⟩

theorem step_bare_eq_error_iff {t : Trap} :
    BareSession.step m (bare slots) action = .error t ↔
      t = .overflow ∧ BareSession.PushesLast (bare slots) action := by
  by_cases h : BareSession.PushesLast (bare slots) action
  · rw [BareSession.step_of_pushesLast h, Except.error.injEq]
    exact ⟨fun same => ⟨same.symm, h⟩, fun same => same.1.symm⟩
  · rw [step_bare h]
    exact iff_of_false (fun trapped => by cases trapped) fun trapped => h trapped.2

/-- A watched run that comes to its end is the plain run. -/
theorem run_of_run_bare {steps : List (Allocator × Action σ α)} {reached : BareSession σ ρ}
    (h : BareSession.run (bare slots) steps = .ok (reached, results)) :
    reached = bare (run slots steps).1 ∧ results = (run slots steps).2 := by
  induction steps generalizing slots results with
  | nil =>
    cases h
    exact ⟨rfl, rfl⟩
  | cons first rest ih =>
    rw [BareSession.run] at h
    obtain ⟨next, stepped, h⟩ := ok_of_bind h
    obtain ⟨ended, later, h⟩ := ok_of_bind h
    have possible : ¬ BareSession.PushesLast (bare slots) first.2 := by
      intro last
      rw [BareSession.step_of_pushesLast last] at stepped
      cases stepped
    rw [step_bare possible] at stepped
    cases stepped
    cases h
    obtain ⟨slots_eq, results_eq⟩ := ih later
    exact ⟨slots_eq, congrArg _ results_eq⟩

end Session

/-! ## Elements with a width

An allocator that grants no reservation beyond a number of bytes keeps the capacity of elements with a width below that
number. So they never come to the largest count, and no run of them traps.
-/

/-- The bytes that one reservation may have. -/
def Allocator.maxBytes : ℕ := 0x7FFFFFFFFFFFFFFF

def Allocator.Limited (m : Allocator) : Prop :=
  ∀ width slots, m.accepts width slots = true → width * slots.toNat ≤ maxBytes

def Buffer.Bounded (b : Buffer σ ρ) : Prop := Block.width σ * b.capacity.toNat ≤ Allocator.maxBytes

namespace Buffer
variable {b c : Buffer σ ρ} {values : List α} {growths : Array Growth}

theorem bounded_withRule (rule : ρ) : (withRule rule : Buffer σ ρ).Bounded := Nat.zero_le _

theorem Bounded.count_lt (bounded : b.Bounded) (wide : 0 < Block.width σ) : b.count < maxCount := by
  calc b.count ≤ b.capacity.toNat := b.count_le_capacity
    _ ≤ Block.width σ * b.capacity.toNat := Nat.le_mul_of_pos_left _ wide
    _ ≤ Allocator.maxBytes := bounded
    _ < maxCount := by decide

theorem Appended.bounded [GrowthRule ρ] (limited : m.Limited) (h : b.Appended m values c growths)
    (bounded : b.Bounded) : c.Bounded := by
  by_cases larger : b.capacity < c.capacity
  · have granted := h.granted larger
    rcases Nat.eq_zero_or_pos (Block.width σ) with none | wide
    · rw [Bounded, none, Nat.zero_mul]
      exact Nat.zero_le _
    · rw [m.grants_of_width_pos wide] at granted
      exact limited _ _ granted
  · have same : c.capacity = b.capacity := UInt64.le_antisymm (UInt64.not_lt.mp larger) h.capacity_le
    rw [Bounded, same]
    exact bounded

end Buffer

namespace Session
variable {slots : Session σ ρ} {action : Action σ α}

theorem not_pushesLast (bounded : ∀ b ∈ slots, b.Bounded) (wide : 0 < Block.width σ) :
    ¬ BareSession.PushesLast (bare slots) action := by
  rintro ⟨slot, a, c, -, holds, last⟩
  obtain ⟨b, hb, rfl⟩ := List.mem_map.mp (List.mem_of_getElem? holds)
  have below := (bounded b hb).count_lt wide
  rw [Buffer.count_bare] at last
  rw [last] at below
  exact Nat.lt_irrefl _ below

variable [GrowthRule ρ]

theorem bounded_run {steps : List (Allocator × Action σ α)} (fair : ∀ entry ∈ steps, entry.1.Limited)
    (bounded : ∀ b ∈ slots, b.Bounded) : ∀ b ∈ (run slots steps).1, b.Bounded :=
  forall_mem_run (fun limited appended => appended.bounded limited) (fun b _ => Buffer.bounded_withRule b.rule) bounded
    fair

theorem run_bare_of_wide (wide : 0 < Block.width σ) {steps : List (Allocator × Action σ α)}
    (fair : ∀ entry ∈ steps, entry.1.Limited) (bounded : ∀ b ∈ slots, b.Bounded) :
    BareSession.run (bare slots) steps = .ok (bare (run slots steps).1, (run slots steps).2) := by
  induction steps generalizing slots with
  | nil => rfl
  | cons first rest ih =>
    have here : ∀ entry ∈ [first], entry.1.Limited := by
      intro entry single
      rw [List.mem_singleton.mp single]
      exact fair first List.mem_cons_self
    have later := ih (fun entry later => fair entry (List.mem_cons_of_mem _ later)) (bounded_run here bounded)
    rw [BareSession.run, step_bare (not_pushesLast bounded wide)]
    exact congrArg (Except.map fun ended => (ended.1, _ :: ended.2)) later

end Session

namespace BareSession
variable [GrowthRule ρ] {slots : BareSession σ ρ}

/-- What a watched run makes of empty buffers, if no reservation beyond the largest one is granted. -/
def Reached (slots : BareSession σ ρ) : Prop :=
  ∃ (rules : List ρ) (steps : List (Allocator × Action σ α)) (results : List StepResult),
    (∀ entry ∈ steps, entry.1.Limited) ∧ run (start rules) steps = .ok (slots, results)

theorem Reached.exists_plain (h : Reached slots) :
    ∃ plain : Session σ ρ, slots = plain.bare ∧ ∀ b ∈ plain, b.Bounded := by
  obtain ⟨rules, steps, results, fair, reached⟩ := h
  rw [← Session.bare_start] at reached
  have bounded := Session.bounded_run fair (Session.forall_mem_start Buffer.bounded_withRule rules)
  exact ⟨_, (Session.run_of_run_bare reached).1, bounded⟩

end BareSession

end BytecodeStore
