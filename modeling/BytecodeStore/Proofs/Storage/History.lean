import BytecodeStore.Proofs.Storage.Run

/-! # Sessions as append-only lists

A history is what a run was asked and what came of it. Read from its end it tells what a slot holds: the values of the
appends that succeeded since the last free, and behind the making of a copy those of its source. Every run keeps its
buffers at that. An append fails for the reasons of `Refused` and no others. It has done nothing then that would have to
be undone: the slots are as before, and nothing is reported.
-/
namespace BytecodeStore

/-- What a step reported, whether it succeeded or failed. -/
def StepResult.growths : StepResult → Array Growth
  | .done growths => growths
  | .failed failure => failure.growths
  | .cloned _ | .noSlot => #[]

namespace Session
variable {σ ρ α : Type} [Block σ α] [GrowthRule ρ]
variable {m : Allocator} {slots next : Session σ ρ} {b : Buffer σ ρ} {action : Action σ α} {result : StepResult}
variable {past : List (Action σ α × StepResult)} {slot : ℕ}

/-- The actions of a run with their results, in order. -/
def history (slots : Session σ ρ) (steps : List (Allocator × Action σ α)) : List (Action σ α × StepResult) :=
  (steps.map Prod.snd).zip (run slots steps).2

theorem history_cons (first : Allocator × Action σ α) (rest : List (Allocator × Action σ α)) :
    history slots (first :: rest) =
      (first.2, (step first.1 slots first.2).2) :: history (step first.1 slots first.2).1 rest := rfl

/-- What a history, latest entry first, leaves in a slot. -/
def held : List (Action σ α × StepResult) → ℕ → List α
  | [], _ => []
  | (.push i a, .done _) :: earlier, slot => if i = slot then held earlier slot ++ [a] else held earlier slot
  | (.extend i s, .done _) :: earlier, slot =>
    if i = slot then held earlier slot ++ Block.toList s else held earlier slot
  | (.free i, .done _) :: earlier, slot => if i = slot then [] else held earlier slot
  | (.clone i, .cloned copy) :: earlier, slot => if copy = slot then held earlier i else held earlier slot
  | _ :: earlier, slot => held earlier slot

theorem held_appended {values : List α} {growths : Array Growth} (append : action.values? = some values) :
    held ((action, .done growths) :: past) slot =
      if action.slot = slot then held past slot ++ values else held past slot := by
  cases action with
  | push i a => cases append; rfl
  | extend i s => cases append; rfl
  | free i => cases append
  | clone i => cases append

theorem held_failed {f : AppendFailure} : held ((action, .failed f) :: past) slot = held past slot := by
  cases action <;> rfl

theorem held_noSlot : held ((action, .noSlot) :: past) slot = held past slot := by
  cases action <;> rfl

def Holds (slots : Session σ ρ) (past : List (Action σ α × StepResult)) : Prop :=
  ∀ slot b, slots[slot]? = some b → b.toList = held past slot

theorem Stepped.holds (h : Stepped m slots action next result) (all : Holds slots past) :
    Holds next ((action, result) :: past) := by
  intro slot b hb
  cases h with
  | appended append holds h =>
    rw [held_appended append]
    rcases getElem?_set_eq_some hb with ⟨rfl, rfl⟩ | ⟨here, hb⟩
    · rw [if_pos rfl, h.toList_eq, all _ _ holds]
    · rw [if_neg here]
      exact all slot b hb
  | refused =>
    rw [held_failed]
    exact all slot b hb
  | freed holds =>
    rw [held]
    rcases getElem?_set_eq_some hb with ⟨rfl, rfl⟩ | ⟨here, hb⟩
    · rw [if_pos rfl]
      exact Buffer.toList_withRule _
    · rw [if_neg here]
      exact all slot b hb
  | @cloned i source holds =>
    rw [held]
    by_cases here : slots.length = slot
    · rw [← here, List.getElem?_concat_length, Option.some_inj] at hb
      rw [if_pos here, ← hb]
      exact all i source holds
    · have inside := (List.getElem?_eq_some_iff.mp hb).1
      rw [List.length_append, List.length_singleton] at inside
      rw [List.getElem?_append_left (by omega)] at hb
      rw [if_neg here]
      exact all slot b hb
  | absent =>
    rw [held_noSlot]
    exact all slot b hb

/-- What held before a run holds behind it, with the history of the run on top. -/
theorem run_holds (steps : List (Allocator × Action σ α)) (all : Holds slots past) :
    Holds (run slots steps).1 ((history slots steps).reverse ++ past) := by
  induction steps generalizing slots past with
  | nil => exact all
  | cons first rest ih =>
    rw [history_cons, List.reverse_cons, List.append_assoc, List.singleton_append]
    exact ih ((stepped_step first.1 slots first.2).holds all)

omit [GrowthRule ρ] in
theorem holds_start (rules : List ρ) : Holds (start rules : Session σ ρ) ([] : List (Action σ α × StepResult)) := by
  intro slot b hb
  obtain ⟨rule, _, rfl⟩ := List.mem_map.mp (List.mem_of_getElem? hb)
  exact Buffer.toList_withRule rule

/-- How an append of `k` elements to a buffer ends. -/
structure Settled (m : Allocator) (b : Buffer σ ρ) (k : ℕ) (result : StepResult) : Prop where
  done_iff : (∃ growths, result = .done growths) ↔ ∀ e, ¬ b.Refused m k e
  failed_iff : ∀ f, result = .failed f ↔ f.growths = #[] ∧ b.Refused m k f.error

theorem Stepped.settled {values : List α} (h : Stepped m slots action next result)
    (append : action.values? = some values) (holds : slots[action.slot]? = some b) :
    Settled m b values.length result := by
  rcases h.append_cases append holds with ⟨c, growths, appended, _, rfl⟩ | ⟨e, refused, _, rfl⟩
  · exact ⟨⟨fun _ _ => appended.not_refused, fun _ => ⟨_, rfl⟩⟩,
      fun f => ⟨nofun, fun failed => absurd failed.2 appended.not_refused⟩⟩
  · refine ⟨⟨nofun, fun none => absurd refused (none _)⟩, fun ⟨e', growths⟩ => ?_⟩
    constructor
    · intro failed
      cases failed
      exact ⟨rfl, refused⟩
    · rintro ⟨rfl, refused'⟩
      rw [refused.unique refused']

theorem Stepped.of_failed {f : AppendFailure} (h : Stepped m slots action next (.failed f)) :
    next = slots ∧ f.growths = #[] := by
  cases h
  exact ⟨rfl, rfl⟩

/-- Slots share nothing: a step leaves all but its own as they are. -/
theorem Stepped.getElem?_of_ne (h : Stepped m slots action next result) {other : ℕ} (inside : other < slots.length)
    (hne : other ≠ action.slot) : next[other]? = slots[other]? := by
  cases h with
  | appended => rw [List.getElem?_set_ne hne.symm]
  | freed => exact List.getElem?_set_ne hne.symm
  | cloned => rw [List.getElem?_append_left inside]
  | refused => rfl
  | absent => rfl

/-- After any run a slot holds the values of its successful appends since its last free, in order, and answers reads
from them; a copy is a new slot with what its source holds. The next append fails exactly when it is refused. A step
that fails has changed no slot and reported nothing, and one that succeeds changes its own slot only. -/
theorem run_refines_append_only_lists {rules : List ρ} {steps : List (Allocator × Action σ α)} {slots : Session σ ρ}
    (reached : (run (start rules) steps).1 = slots) :
    (∀ slot b, slots[slot]? = some b →
      b.toList = held (history (start rules) steps).reverse slot ∧
      (b.count = b.toList.length ∧ (∀ i, b.get? i = b.toList[i]?) ∧ (b.isEmpty = true ↔ b.toList = [])) ∧
      ∀ m, (∀ a, Settled m b 1 (step m slots (.push slot a)).2) ∧
        (∀ s, Settled m b (Block.size s) (step m slots (.extend slot s)).2) ∧
        step m slots (.clone slot) = (slots ++ [b], .cloned slots.length)) ∧
    (∀ m action f, (step m slots action).2 = .failed f →
      (step m slots action).1 = slots ∧ (step m slots action).2.growths = #[]) ∧
    ∀ m action other, other < slots.length → other ≠ action.slot →
      (step m slots action).1[other]? = slots[other]? := by
  have all := run_holds steps (holds_start rules)
  rw [reached, List.append_nil] at all
  refine ⟨fun slot b hb => ⟨all slot b hb, ⟨b.length_toList.symm, b.get?_eq, ?_⟩, fun m => ⟨?_, ?_, ?_⟩⟩, ?_, ?_⟩
  · rw [Buffer.isEmpty, ← List.length_eq_zero_iff, b.length_toList, beq_iff_eq]
  · intro a
    have append : (Action.push slot a : Action σ α).values? = some [a] := rfl
    exact (stepped_step m slots (.push slot a)).settled append hb
  · intro s
    rw [← Block.length_toList]
    exact (stepped_step m slots (.extend slot s)).settled rfl hb
  · have holds : slots[(Action.clone slot : Action σ α).slot]? = some b := hb
    exact step_of_holds holds
  · intro m action f failed
    have stepped := stepped_step m slots action
    rw [failed] at stepped ⊢
    exact stepped.of_failed
  · intro m action other inside hne
    exact (stepped_step m slots action).getElem?_of_ne inside hne

/-- A full slot, and a copy of it that was freed and began anew. The slot stays as it is where the allocator refuses to
let it grow. -/
theorem freed_copy_refines_append_only_list :
    let small : Allocator := ⟨fun _ slots => slots < 4⟩
    let steps : List (Allocator × Action (Array UInt8) UInt8) :=
      [(small, .push 0 1), (small, .push 0 2), (small, .push 0 3), (small, .clone 0), (small, .free 1),
        (small, .push 1 9)]
    let slots : Session (Array UInt8) Doubling := [⟨#[1, 2], 2, ⟨2, 2⟩, by decide⟩, ⟨#[9], 2, ⟨2, 2⟩, by decide⟩]
    (run (start [⟨2, 2⟩]) steps).1 = slots ∧
      [9] = held (history (start [⟨2, 2⟩] : Session (Array UInt8) Doubling) steps).reverse 1 ∧
      Settled small (⟨#[1, 2], 2, ⟨2, 2⟩, by decide⟩ : Buffer (Array UInt8) Doubling) 1
        (step small slots (.push 0 4)).2 ∧
      (step small slots (.push 0 4)).2 = .failed ⟨.allocationFailed 4, #[]⟩ ∧
      (step small slots (.push 0 4)).1 = slots := by
  intro small steps slots
  have reached : (run (start [⟨2, 2⟩]) steps).1 = slots := by decide
  obtain ⟨all, failing, _⟩ := run_refines_append_only_lists reached
  have failed : (step small slots (.push 0 4)).2 = .failed ⟨.allocationFailed 4, #[]⟩ := rfl
  exact ⟨reached, (all 1 _ rfl).1, ((all 0 _ rfl).2.2 small).1 4, failed, (failing small _ _ failed).1⟩

end Session

end BytecodeStore
