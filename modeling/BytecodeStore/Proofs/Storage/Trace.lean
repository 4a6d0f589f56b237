import BytecodeStore.Proofs.Storage.History

/-! # The trace of a session

A step reports a growth exactly when it raises the capacity of its slot, and reports it as it is. So what is reported of
a slot from when it is made or freed to when it is freed next leads without a gap from the capacity that it began with
to the one that it has. A slot that is made empty, or freed, begins at zero; a copy begins where its source stands.
Looking at a slot changes and reports nothing, so it is no step.
-/
namespace BytecodeStore.Session
variable {σ ρ α : Type} [Block σ α] [GrowthRule ρ]
variable {m : Allocator} {slots next : Session σ ρ} {b c : Buffer σ ρ} {action : Action σ α} {result : StepResult}
variable {slot : ℕ} {base last : UInt64} {growths : List (Action σ α × Growth)} {past : List (Action σ α × StepResult)}

/-- The growths that a history reports of one slot, in order and with the actions that caused them. -/
def reports (slot : ℕ) (entries : List (Action σ α × StepResult)) : List (Action σ α × Growth) :=
  entries.flatMap fun entry => if entry.1.slot = slot then entry.2.growths.toList.map (entry.1, ·) else []

/-- Growths that lead from one capacity to another. Each begins where the one before ended, raises the capacity, and
counts no more elements than there was room for; before a push there were as many. -/
inductive Climbs : UInt64 → List (Action σ α × Growth) → UInt64 → Prop where
  | stay (base : UInt64) : Climbs base [] base
  | rise {action : Action σ α} {g : Growth} {growths : List (Action σ α × Growth)} {last : UInt64}
    (larger : g.old < g.new) (held : g.count ≤ g.old.toNat)
    (full : ∀ i a, action = .push i a → g.count = g.old.toNat) (rest : Climbs g.new growths last) :
    Climbs g.old ((action, g) :: growths) last

/-- A slot that has just been made or freed, and the capacity that it begins with. -/
inductive Begun : Session σ ρ → ℕ → UInt64 → Prop where
  | fresh {rules : List ρ} {slot : ℕ} (inside : slot < rules.length) : Begun (start rules) slot 0
  | freed {m : Allocator} {slots : Session σ ρ} {slot : ℕ} {b : Buffer σ ρ} (holds : slots[slot]? = some b) :
    Begun (step m slots (.free slot)).1 slot 0
  | copied {m : Allocator} {slots : Session σ ρ} {source : ℕ} {b : Buffer σ ρ} (holds : slots[source]? = some b) :
    Begun (step m slots (.clone source)).1 slots.length b.capacity

theorem Begun.holds (h : Begun slots slot base) : ∃ b, slots[slot]? = some b ∧ b.capacity = base := by
  cases h with
  | @fresh rules _ inside =>
    refine ⟨Buffer.withRule rules[slot], ?_, rfl⟩
    rw [start, List.getElem?_map, List.getElem?_eq_getElem inside, Option.map_some]
  | @freed m slots _ b holds =>
    have inside := (List.getElem?_eq_some_iff.mp holds).1
    refine ⟨b.free, ?_, rfl⟩
    rw [step_of_holds holds]
    exact List.getElem?_set_self inside
  | @copied m slots source b holds =>
    refine ⟨b, ?_, rfl⟩
    rw [step_of_holds holds]
    exact List.getElem?_concat_length

/-- What a step on a buffer reports, if it leaves `c` in its place. -/
def raised (b c : Buffer σ ρ) : Array Growth :=
  if b.capacity < c.capacity then #[⟨b.capacity, c.capacity, b.count⟩] else #[]

omit [GrowthRule ρ] in
theorem raised_self : raised b b = #[] := if_neg (UInt64.lt_irrefl _)

theorem Stepped.growths_eq (h : Stepped m slots action next result) (holds : slots[action.slot]? = some b) :
    ∃ c, next[action.slot]? = some c ∧ result.growths = raised b c := by
  have inside := (List.getElem?_eq_some_iff.mp holds).1
  cases h with
  | appended append holds' h =>
    obtain rfl := Option.some.inj (holds.symm.trans holds')
    exact ⟨_, List.getElem?_set_self inside, h.growths_eq⟩
  | refused => exact ⟨b, holds, raised_self.symm⟩
  | freed => exact ⟨_, List.getElem?_set_self inside, (if_neg (UInt64.not_lt.mpr UInt64.zero_le)).symm⟩
  | cloned => exact ⟨b, by rw [List.getElem?_append_left inside]; exact holds, raised_self.symm⟩
  | absent h =>
    rw [holds] at h
    cases h

omit [Block σ α] in
theorem reports_of_ne (h : action.slot ≠ slot) : reports slot ((action, result) :: past) = reports slot past := by
  simp [reports, h]

omit [Block σ α] in
theorem reports_of_eq (h : action.slot = slot) (quiet : result.growths = #[]) :
    reports slot ((action, result) :: past) = reports slot past := by
  simp [reports, h, quiet]

omit [Block σ α] in
theorem reports_done (h : action.slot = slot) (new : Array Growth) :
    reports slot ((action, .done new) :: past) = new.toList.map (action, ·) ++ reports slot past := by
  simp [reports, h, StepResult.growths]

/-- A step that does not free a slot appends to it, or leaves it as it is and reports nothing of it. -/
theorem Stepped.on_slot (h : Stepped m slots action next result) (holds : slots[slot]? = some b)
    (kept : action ≠ .free slot) :
    (next[slot]? = some b ∧ ∀ past, reports slot ((action, result) :: past) = reports slot past) ∨
      ∃ values c new, action.values? = some values ∧ b.Appended m values c new ∧ next[slot]? = some c ∧
        action.slot = slot ∧ result = .done new := by
  have inside := (List.getElem?_eq_some_iff.mp holds).1
  by_cases here : action.slot = slot
  · subst here
    cases h with
    | appended append holds' h =>
      obtain rfl := Option.some.inj (holds.symm.trans holds')
      exact .inr ⟨_, _, _, append, h, List.getElem?_set_self inside, rfl, rfl⟩
    | refused => exact .inl ⟨holds, fun _ => reports_of_eq rfl rfl⟩
    | freed => exact absurd rfl kept
    | cloned =>
      exact .inl ⟨by rw [List.getElem?_append_left inside]; exact holds, fun _ => reports_of_eq rfl rfl⟩
    | absent h =>
      rw [holds] at h
      cases h
  · exact .inl ⟨by rw [h.getElem?_of_ne inside (Ne.symm here)]; exact holds, fun _ => reports_of_ne here⟩

/-- A push raises the capacity of full buffers only. -/
theorem count_eq_of_push_raises {a : α} {new : Array Growth} (h : b.Appended m [a] c new)
    (larger : b.capacity < c.capacity) : b.count = b.capacity.toNat := by
  have short := Buffer.short_of_reached h.reached larger
  have bound := b.count_le_capacity
  rw [List.length_singleton] at short
  omega

theorem Climbs.appended {values : List α} {new : Array Growth} (append : action.values? = some values)
    (h : b.Appended m values c new) (rest : Climbs c.capacity (reports slot past) last) (here : action.slot = slot) :
    Climbs b.capacity (reports slot ((action, .done new) :: past)) last := by
  rw [h.growths_eq]
  by_cases larger : b.capacity < c.capacity
  · rw [if_pos larger, reports_done here]
    refine .rise (g := b.growthTo c.capacity) larger b.count_le_capacity ?_ rest
    rintro i a rfl
    cases append
    exact count_eq_of_push_raises h larger
  · rw [if_neg larger, reports_of_eq here rfl, UInt64.le_antisymm h.capacity_le (UInt64.not_lt.mp larger)]
    exact rest

/-- What a step does to a slot that it does not free goes in front of what the slot reports later. -/
theorem Stepped.climbs (h : Stepped m slots action next result) (holds : slots[slot]? = some b)
    (kept : action ≠ .free slot) :
    ∃ c, next[slot]? = some c ∧ ∀ past last, Climbs c.capacity (reports slot past) last →
      Climbs b.capacity (reports slot ((action, result) :: past)) last := by
  rcases h.on_slot holds kept with ⟨same, quiet⟩ | ⟨values, c, new, append, appended, hc, here, rfl⟩
  · refine ⟨b, same, fun past last rest => ?_⟩
    rw [quiet]
    exact rest
  · exact ⟨c, hc, fun past last rest => rest.appended append appended here⟩

/-- Induction on the steps: each of them goes in front of the chain of those behind it. -/
theorem run_climbs (steps : List (Allocator × Action σ α)) (holds : slots[slot]? = some b)
    (kept : ∀ entry ∈ steps, entry.2 ≠ .free slot) :
    ∃ c, (run slots steps).1[slot]? = some c ∧ Climbs b.capacity (reports slot (history slots steps)) c.capacity := by
  induction steps generalizing slots b with
  | nil => exact ⟨b, holds, .stay _⟩
  | cons first rest ih =>
    obtain ⟨c, hc, front⟩ := (stepped_step first.1 slots first.2).climbs holds (kept first List.mem_cons_self)
    obtain ⟨d, hd, climbs⟩ := ih hc fun entry later => kept entry (List.mem_cons_of_mem _ later)
    rw [history_cons]
    exact ⟨d, hd, front _ _ climbs⟩

omit [Block σ α] in
theorem Climbs.old_eq {g : Growth} (h : Climbs base ((action, g) :: growths) last) : g.old = base := by
  cases h
  rfl

/-- The reports of a session are a faithful log. A step reports one growth if it raises the capacity of its slot, with
that capacity before and after it and the count before it, and none otherwise. From when a slot is made or freed until
it is freed next, its reports lead from the capacity that it began with to the one that it has: from zero, or for a copy
from that of its source. -/
theorem reports_climb (begun : Begun slots slot base) {steps : List (Allocator × Action σ α)}
    (kept : ∀ entry ∈ steps, entry.2 ≠ .free slot) :
    (∃ c, (run slots steps).1[slot]? = some c ∧ Climbs base (reports slot (history slots steps)) c.capacity) ∧
    ∀ (m : Allocator) (now : Session σ ρ) (action : Action σ α),
      (∀ b, now[action.slot]? = some b → ∃ c, (step m now action).1[action.slot]? = some c ∧
        (step m now action).2.growths =
          if b.capacity < c.capacity then #[⟨b.capacity, c.capacity, b.count⟩] else #[]) ∧
      (now[action.slot]? = none → (step m now action).2.growths = #[]) := by
  constructor
  · obtain ⟨b, holds, rfl⟩ := begun.holds
    exact run_climbs steps holds kept
  · intro m now action
    refine ⟨fun b holds => (stepped_step m now action).growths_eq holds, fun missing => ?_⟩
    rw [step, missing]
    rfl

/-- Three pushes after a free, behind one that was refused. -/
theorem freed_slot_climbs :
    let slots : Session (Array UInt8) Doubling := [⟨#[7], 2, ⟨2, 2⟩, by decide⟩]
    let steps : List (Allocator × Action (Array UInt8) UInt8) :=
      [(⟨fun _ _ => false⟩, .push 0 1), (.addressSpace, .push 0 1), (.addressSpace, .push 0 2),
        (.addressSpace, .push 0 3)]
    let freed := (step .addressSpace slots (.free 0)).1
    reports 0 (history freed steps) = [(.push 0 1, ⟨0, 2, 0⟩), (.push 0 3, ⟨2, 4, 2⟩)] ∧
      ∃ c, (run freed steps).1[0]? = some c ∧ Climbs 0 (reports 0 (history freed steps)) c.capacity := by
  intro slots steps freed
  have begun : Begun freed 0 0 := .freed (b := ⟨#[7], 2, ⟨2, 2⟩, by decide⟩) rfl
  have kept : ∀ entry ∈ steps, entry.2 ≠ .free 0 := by simp [steps]
  exact ⟨rfl, (reports_climb begun kept).1⟩

/-- A copy of a full slot begins where that one stands, and its first growth is from one slot to two. -/
theorem copy_does_not_climb_from_zero :
    let full : Session (Array UInt8) Doubling := (run (start [⟨1, 2⟩]) [(.addressSpace, .push 0 7)]).1
    let slots : Session (Array UInt8) Doubling := (step .addressSpace full (.clone 0)).1
    Begun slots 1 1 ∧
      reports 1 (history slots [(.addressSpace, .push 1 8)]) = [(.push 1 8, ⟨1, 2, 1⟩)] ∧
      ¬ ∃ last, Climbs 0 (reports 1 (history slots [(.addressSpace, .push 1 8)])) last := by
  intro full slots
  have reported : reports 1 (history slots [(.addressSpace, .push 1 8)]) = [(.push 1 8, ⟨1, 2, 1⟩)] := rfl
  refine ⟨.copied (b := ⟨#[7], 1, ⟨1, 2⟩, by decide⟩) rfl, reported, ?_⟩
  rw [reported]
  rintro ⟨last, h⟩
  exact absurd h.old_eq (by decide)

end BytecodeStore.Session
