import BytecodeStore.Proofs.Growth.Ascent
import BytecodeStore.Proofs.Storage.InPlace
import BytecodeStore.Storage.Buffer

/-! # What an append does

The two ways to append decide differently: a push looks one step of the rule ahead, a bulk append follows the rule to
the first capacity that holds everything. On a buffer they agree, since a buffer without room is full: its count is
its capacity. So a push is the bulk append of one element, and both are told by the same two statements, `Appended`
for success and `Refused` for failure. The one thing that can be refused is asked for before anything is changed or
reported, so a failure leaves the buffer untouched.
-/
namespace BytecodeStore.Buffer
open InPlace
variable {σ ρ α : Type} [Block σ α] [GrowthRule ρ]
variable {m : Allocator} {b c : Buffer σ ρ} {s : σ} {values : List α} {growths : Array Growth}

/-- What an append of `values` that succeeds makes of a buffer, and what it reports. -/
structure Appended (m : Allocator) (b : Buffer σ ρ) (values : List α) (c : Buffer σ ρ) (growths : Array Growth) :
    Prop where
  toList_eq : c.toList = b.toList ++ values
  rule_eq : c.rule = b.rule
  reached : capacityFor b.rule b.capacity (b.count + values.length) = some c.capacity
  granted : b.capacity < c.capacity → m.grants (Block.width σ) c.capacity = true
  growths_eq : growths = if b.capacity < c.capacity then #[b.growthTo c.capacity] else #[]

/-- Why an append of `k` elements fails: there are more than can be counted, the rule stops increasing the capacity
too early, or the allocator does not grant the capacity that the rule reaches. -/
inductive Refused (m : Allocator) (b : Buffer σ ρ) (k : ℕ) : GrowthError → Prop where
  | uncountable (h : maxCount < b.count + k) : Refused m b k (.capacityOverflow b.count)
  | stalled (short : b.capacity.toNat < b.count + k) (h : Stalls b.rule b.capacity (b.count + k)) :
    Refused m b k (.capacityOverflow b.count)
  | denied {next : UInt64} (short : b.capacity.toNat < b.count + k)
    (h : FirstFit b.rule b.capacity (b.count + k) next) (h' : m.grants (Block.width σ) next = false) :
    Refused m b k (.allocationFailed next)

/-- How an append of `values` ends: it succeeds, or it leaves the buffer as it was and has reported nothing. -/
inductive Ends (m : Allocator) (b : Buffer σ ρ) (values : List α) : Outcome (Buffer σ ρ) → Prop where
  | appended {c : Buffer σ ρ} {growths : Array Growth} (h : Appended m b values c growths) :
    Ends m b values (.ok (c, growths))
  | refused {e : GrowthError} (h : Refused m b values.length e) : Ends m b values (.error (.untouched e b))

theorem Appended.count_eq (h : Appended m b values c growths) : c.count = b.count + values.length := by
  rw [← length_toList, h.toList_eq, List.length_append, length_toList]

theorem Appended.capacity_le (h : Appended m b values c growths) : b.capacity ≤ c.capacity :=
  (capacityFor_bounds b.rule h.reached).2

/-- Two allocators that let an append succeed make the same of a buffer. -/
theorem Appended.unique {m' : Allocator} {c' : Buffer σ ρ} {growths' : Array Growth} (h : Appended m b values c growths)
    (h' : Appended m' b values c' growths') : c = c' ∧ growths = growths' := by
  have hc : c.capacity = c'.capacity := Option.some.inj (h.reached.symm.trans h'.reached)
  refine ⟨ext_toList (h.toList_eq.trans h'.toList_eq.symm) hc (h.rule_eq.trans h'.rule_eq.symm), ?_⟩
  rw [h.growths_eq, h'.growths_eq, hc]

theorem short_of_reached {k : ℕ} {next : UInt64} (h : capacityFor b.rule b.capacity k = some next)
    (larger : b.capacity < next) : b.capacity.toNat < k := by
  by_contra fits
  rw [capacityFor_of_le b.rule (Nat.le_of_not_lt fits), Option.some_inj] at h
  rw [h] at larger
  exact UInt64.lt_irrefl _ larger

theorem refused_iff {k : ℕ} {e : GrowthError} :
    Refused m b k e ↔
      (capacityFor b.rule b.capacity (b.count + k) = none ∧ e = .capacityOverflow b.count) ∨
      ∃ next, capacityFor b.rule b.capacity (b.count + k) = some next ∧ b.capacity < next ∧
        m.grants (Block.width σ) next = false ∧ e = .allocationFailed next := by
  constructor
  · rintro (h | ⟨_, h⟩ | ⟨short, h, h'⟩)
    · left
      refine ⟨Option.eq_none_iff_forall_ne_some.mpr fun next reached => ?_, rfl⟩
      have bound := (capacityFor_bounds b.rule reached).1
      have := toNat_le_maxCount next
      omega
    · exact Or.inl ⟨capacityFor_eq_none_iff.mpr h, rfl⟩
    · right
      have reached := capacityFor_eq_some_iff.mpr h
      have bound := (capacityFor_bounds b.rule reached).1
      exact ⟨_, reached, UInt64.lt_iff_toNat_lt.mpr (by omega), h', rfl⟩
  · rintro (⟨h, rfl⟩ | ⟨next, h, larger, h', rfl⟩)
    · refine .stalled ?_ (capacityFor_eq_none_iff.mp h)
      by_contra fits
      rw [capacityFor_of_le b.rule (Nat.le_of_not_lt fits)] at h
      cases h
    · exact .denied (short_of_reached h larger) (capacityFor_eq_some_iff.mp h) h'

theorem Appended.not_refused {e : GrowthError} (h : Appended m b values c growths) :
    ¬ Refused m b values.length e := by
  intro hr
  rcases refused_iff.mp hr with ⟨hn, _⟩ | ⟨next, hs, larger, denied, _⟩
  · rw [h.reached] at hn
    cases hn
  · rw [h.reached, Option.some_inj] at hs
    rw [← hs] at larger denied
    rw [h.granted larger] at denied
    cases denied

/-- Two allocators that let an append fail let it fail for the same reason. -/
theorem Refused.unique {m' : Allocator} {k : ℕ} {e e' : GrowthError} (h : Refused m b k e) (h' : Refused m' b k e') :
    e = e' := by
  rcases refused_iff.mp h with ⟨hn, rfl⟩ | ⟨next, hs, _, _, rfl⟩ <;>
    rcases refused_iff.mp h' with ⟨hn', rfl⟩ | ⟨next', hs', _, _, rfl⟩
  · rfl
  · rw [hn] at hs'
    cases hs'
  · rw [hn'] at hs
    cases hs
  · rw [Option.some.inj (hs.symm.trans hs')]

theorem Ends.eq_ok_iff {outcome : Outcome (Buffer σ ρ)} (h : Ends m b values outcome) :
    outcome = .ok (c, growths) ↔ Appended m b values c growths := by
  cases h with
  | appended h =>
    rw [Except.ok.injEq, Prod.mk.injEq]
    constructor
    · rintro ⟨rfl, rfl⟩
      exact h
    · exact h.unique
  | refused h => exact ⟨nofun, fun appended => absurd h appended.not_refused⟩

theorem Ends.eq_error_iff {outcome : Outcome (Buffer σ ρ)} {f : Abandoned (Buffer σ ρ)}
    (h : Ends m b values outcome) :
    outcome = .error f ↔ f = .untouched f.error b ∧ Refused m b values.length f.error := by
  cases h with
  | appended h => exact ⟨nofun, fun failed => absurd failed.2 h.not_refused⟩
  | refused h =>
    rw [Except.error.injEq]
    constructor
    · rintro rfl
      exact ⟨rfl, h⟩
    · rintro ⟨same, h'⟩
      rw [same, h.unique h']

section Reallocation
variable {next : UInt64} (larger : b.capacity ≤ next)

omit [GrowthRule ρ] in
/-- The reservation comes first: where it is refused, what is there and reported stays. -/
theorem after_reallocate (now : Buffer σ ρ × Array Growth) :
    after now (b.reallocate m next larger) =
      if m.grants (Block.width σ) next then
        pure (.ok ⟨b.raise next larger, rfl, rfl⟩, (b.raise next larger, now.2.push (b.growthTo next)))
      else pure (.error (.allocationFailed next), now) := by
  unfold reallocate
  by_cases granted : m.grants (Block.width σ) next = true
  · rw [if_pos granted, if_pos granted, after_bind, after_report]
    rfl
  · rw [if_neg granted, if_neg granted, after_throw]

omit [GrowthRule ρ] in
/-- An append that stores `c` once it has raised the capacity. -/
theorem on_reallocate
    {rest : { c : Buffer σ ρ // c.count = b.count ∧ c.capacity = next } → InPlace Id (Buffer σ ρ) Unit}
    (stored : rest ⟨b.raise next larger, rfl, rfl⟩ = put c) :
    ((b.reallocate m next larger >>= rest).on b).run =
      if m.grants (Block.width σ) next then .ok (c, #[b.growthTo next])
      else .error (.untouched (.allocationFailed next) b) := by
  rw [on_eq, after_bind, after_reallocate]
  by_cases granted : m.grants (Block.width σ) next = true
  · rw [if_pos granted, if_pos granted, pure_bind]
    dsimp only
    rw [stored, after_put]
    rfl
  · rw [if_neg granted, if_neg granted, pure_bind]
    rfl

end Reallocation

theorem extend_of_none (h : capacityFor b.rule b.capacity (b.count + Block.size s) = none) :
    b.extend m s = .error (.untouched (.capacityOverflow b.count) b) := by
  unfold extend extendInPlace
  rw [on_now]
  split
  · rfl
  · rw [dif_neg fun room => by rw [capacityFor_of_le b.rule room] at h; cases h]
    split
    · rfl
    · rename_i h'
      cases h.symm.trans h'

theorem extend_of_room (room : b.count + Block.size s ≤ b.capacity.toNat) :
    b.extend m s = .ok (b.appendWithin s room, #[]) := by
  have := toNat_le_maxCount b.capacity
  unfold extend extendInPlace
  rw [on_now, if_neg (by omega), dif_pos room]
  rfl

theorem extend_of_some {next : UInt64} (h : capacityFor b.rule b.capacity (b.count + Block.size s) = some next)
    (larger : b.capacity < next) :
    b.extend m s =
      if m.grants (Block.width σ) next then
        .ok ((b.raise next (capacityFor_bounds b.rule h).2).appendWithin s (capacityFor_bounds b.rule h).1,
          #[b.growthTo next])
      else .error (.untouched (.allocationFailed next) b) := by
  have short := short_of_reached h larger
  have bound := (capacityFor_bounds b.rule h).1
  have := toNat_le_maxCount next
  unfold extend extendInPlace
  rw [on_now, if_neg (by omega), dif_neg (by omega)]
  split
  · rename_i h'
    cases h.symm.trans h'
  · rename_i next' h'
    obtain rfl : next = next' := Option.some.inj (h.symm.trans h')
    exact on_reallocate _ rfl

theorem appended_of_room (room : b.count + Block.size s ≤ b.capacity.toNat) :
    Appended m b (Block.toList s) (b.appendWithin s room) #[] where
  toList_eq := toList_appendWithin b s room
  rule_eq := rfl
  reached := by rw [Block.length_toList]; exact capacityFor_of_le b.rule room
  granted larger := absurd larger (UInt64.lt_irrefl _)
  growths_eq := (if_neg (UInt64.lt_irrefl _)).symm

theorem appended_of_granted {next : UInt64}
    (h : capacityFor b.rule b.capacity (b.count + Block.size s) = some next) (larger : b.capacity < next)
    (granted : m.grants (Block.width σ) next = true) :
    Appended m b (Block.toList s)
      ((b.raise next (capacityFor_bounds b.rule h).2).appendWithin s (capacityFor_bounds b.rule h).1)
      #[b.growthTo next] where
  toList_eq := toList_appendWithin _ s _
  rule_eq := rfl
  reached := by rw [Block.length_toList]; exact h
  granted _ := granted
  growths_eq := (if_pos larger).symm

theorem ends_extend (m : Allocator) (b : Buffer σ ρ) (s : σ) : Ends m b (Block.toList s) (b.extend m s) := by
  by_cases room : b.count + Block.size s ≤ b.capacity.toNat
  · rw [extend_of_room room]
    exact .appended (appended_of_room room)
  cases h : capacityFor b.rule b.capacity (b.count + Block.size s) with
  | none =>
    rw [extend_of_none h]
    refine .refused (refused_iff.mpr (.inl ⟨?_, rfl⟩))
    rw [Block.length_toList]
    exact h
  | some next =>
    have bound := (capacityFor_bounds b.rule h).1
    have larger : b.capacity < next := UInt64.lt_iff_toNat_lt.mpr (by omega)
    rw [extend_of_some h larger]
    by_cases granted : m.grants (Block.width σ) next = true
    · rw [if_pos granted]
      exact .appended (appended_of_granted h larger granted)
    · rw [if_neg granted]
      refine .refused (refused_iff.mpr (.inr ⟨next, ?_, larger, Bool.eq_false_iff.mpr granted, rfl⟩))
      rw [Block.length_toList]
      exact h

theorem extend_eq_ok_iff : b.extend m s = .ok (c, growths) ↔ Appended m b (Block.toList s) c growths :=
  (ends_extend m b s).eq_ok_iff

/-- A bulk append that fails leaves the buffer as it was and reports nothing. -/
theorem extend_eq_error_iff {f : Abandoned (Buffer σ ρ)} :
    b.extend m s = .error f ↔ f = .untouched f.error b ∧ Refused m b (Block.toList s).length f.error :=
  (ends_extend m b s).eq_error_iff

variable {a : α}

theorem push_of_room (room : b.count < b.capacity.toNat) : b.push m a = .ok (b.pushWithin a room, #[]) := by
  unfold push pushInPlace
  rw [on_now, dif_pos room]
  rfl

theorem push_of_stalled (full : ¬ b.count < b.capacity.toNat)
    (stalled : ¬ b.capacity < GrowthRule.after b.rule b.capacity) :
    b.push m a = .error (.untouched (.capacityOverflow b.count) b) := by
  unfold push pushInPlace
  rw [on_now, dif_neg full]
  dsimp only
  rw [dif_neg stalled]
  rfl

omit [GrowthRule ρ] in
theorem room_of_raise {next : UInt64} (grows : b.capacity < next) :
    (b.raise next (UInt64.le_of_lt grows)).count < (b.raise next (UInt64.le_of_lt grows)).capacity.toNat :=
  Nat.lt_of_le_of_lt b.count_le_capacity (UInt64.lt_iff_toNat_lt.mp grows)

theorem push_of_grows (full : ¬ b.count < b.capacity.toNat) {next : UInt64}
    (step : GrowthRule.after b.rule b.capacity = next) (grows : b.capacity < next) :
    b.push m a =
      if m.grants (Block.width σ) next then
        .ok ((b.raise next (UInt64.le_of_lt grows)).pushWithin a (room_of_raise grows), #[b.growthTo next])
      else .error (.untouched (.allocationFailed next) b) := by
  subst step
  unfold push pushInPlace
  rw [on_now, dif_neg full]
  dsimp only
  rw [dif_pos grows]
  exact on_reallocate _ rfl

/-- A push is the bulk append of one element, also where it fails. -/
theorem push_eq_extend (m : Allocator) (b : Buffer σ ρ) (a : α) :
    b.push m a = b.extend m (Block.push Block.empty a) := by
  have one : Block.size (Block.push (Block.empty : σ) a) = 1 := by rw [Block.size_push, Block.size_empty]
  have values : Block.toList (Block.push (Block.empty : σ) a) = [a] := by
    rw [Block.toList_push, Block.toList_empty, List.nil_append]
  have bound := b.count_le_capacity
  by_cases room : b.count < b.capacity.toNat
  · rw [push_of_room room, extend_of_room (by omega)]
    refine congrArg (fun c => Except.ok (c, #[])) (ext_toList ?_ rfl rfl)
    rw [toList_pushWithin, toList_appendWithin, values]
  -- Without room the count is the capacity, so one step that increases it is enough.
  have short : b.capacity.toNat < b.count + Block.size (Block.push (Block.empty : σ) a) := by omega
  by_cases grows : b.capacity < GrowthRule.after b.rule b.capacity
  · have larger := UInt64.lt_iff_toNat_lt.mp grows
    have reached := (capacityFor_of_grows b.rule short grows).trans (capacityFor_of_le b.rule (by omega))
    rw [push_of_grows room rfl grows, extend_of_some reached grows]
    split
    · refine congrArg (fun c => Except.ok (c, _)) (ext_toList ?_ rfl rfl)
      refine (toList_pushWithin _ a _).trans (Eq.trans ?_ (toList_appendWithin _ _ _).symm)
      rw [values]
    · rfl
  · rw [push_of_stalled room grows, extend_of_none (capacityFor_of_stalled b.rule short grows)]

theorem ends_push (m : Allocator) (b : Buffer σ ρ) (a : α) : Ends m b [a] (b.push m a) := by
  have values : Block.toList (Block.push (Block.empty : σ) a) = [a] := by
    rw [Block.toList_push, Block.toList_empty, List.nil_append]
  rw [push_eq_extend, ← values]
  exact ends_extend m b _

theorem push_eq_ok_iff : b.push m a = .ok (c, growths) ↔ Appended m b [a] c growths := (ends_push m b a).eq_ok_iff

end BytecodeStore.Buffer
