import BytecodeStore.Proofs.Bytecode.Loading
import BytecodeStore.Proofs.Growth.Doubling

/-! # The stages of a load

A load writes one byte after the other, so its capacity passes through the iterates of the rule one by one, and each of
them is reserved when the one before is full. What comes of a load is therefore told by the iterates alone: it ends
well at the first that holds all bytes, and fails at the last that is reached, with that many bytes written.
-/
namespace BytecodeStore.Chunk
variable {m : Allocator} {rule : Doubling} {k l : ℕ} {c d : Chunk}

/-- The capacity behind `k` steps of a rule from an empty chunk. -/
def stage (rule : Doubling) (k : ℕ) : UInt64 := (GrowthRule.after rule)^[k] 0

/-- The step from each of the first `k` stages increases the capacity and is granted. -/
def Attained (m : Allocator) (rule : Doubling) (k : ℕ) : Prop :=
  ∀ j < k, stage rule j < stage rule (j + 1) ∧ m.grants (Block.width (Array UInt8)) (stage rule (j + 1)) = true

/-- What a load reports when it leaves a stage, which is full then. -/
def departure (rule : Doubling) (k : ℕ) : Growth := ⟨stage rule k, stage rule (k + 1), (stage rule k).toNat⟩

def departures (rule : Doubling) (k : ℕ) : List Growth := (List.range k).map (departure rule)

/-- Why a load stays at a stage that it cannot leave. -/
def obstacle (rule : Doubling) (k : ℕ) : GrowthError :=
  if stage rule (k + 1) ≤ stage rule k then .capacityOverflow (stage rule k).toNat
  else .allocationFailed (stage rule (k + 1))

theorem stage_succ (rule : Doubling) (k : ℕ) : stage rule (k + 1) = GrowthRule.after rule (stage rule k) :=
  Function.iterate_succ_apply' _ _ _

theorem departures_succ (rule : Doubling) (k : ℕ) :
    departures rule (k + 1) = departures rule k ++ [departure rule k] := by
  rw [departures, departures, List.range_succ, List.map_append, List.map_singleton]

theorem attained_zero : Attained m rule 0 := fun _ h => absurd h (Nat.not_lt_zero _)

theorem attained_succ : Attained m rule (k + 1) ↔ Attained m rule k ∧ stage rule k < stage rule (k + 1) ∧
    m.grants (Block.width (Array UInt8)) (stage rule (k + 1)) = true := by
  constructor
  · intro h
    exact ⟨fun j hj => h j (Nat.lt_succ_of_lt hj), h k (Nat.lt_succ_self k)⟩
  · rintro ⟨h, hk⟩ j hj
    rcases Nat.lt_succ_iff_lt_or_eq.mp hj with hj | rfl
    · exact h j hj
    · exact hk

theorem Attained.stage_lt (h : Attained m rule k) {j : ℕ} (hj : j < k) : stage rule j < stage rule k := by
  induction k with
  | zero => exact absurd hj (Nat.not_lt_zero _)
  | succ k ih =>
    obtain ⟨h, larger, _⟩ := attained_succ.mp h
    rcases Nat.lt_succ_iff_lt_or_eq.mp hj with hj | rfl
    · exact UInt64.lt_trans (ih h hj) larger
    · exact larger

theorem Attained.stage_le (h : Attained m rule k) {j : ℕ} (hj : j ≤ k) :
    (stage rule j).toNat ≤ (stage rule k).toNat := by
  rcases Nat.lt_or_eq_of_le hj with hj | rfl
  · exact Nat.le_of_lt (UInt64.lt_iff_toNat_lt.mp (h.stage_lt hj))
  · exact Nat.le_refl _

/-- No stage that is attained lies behind one that cannot be left. -/
theorem Attained.le_last (h : Attained m rule k) (last : ¬ Attained m rule (l + 1)) : k ≤ l := by
  by_contra behind
  exact last fun j hj => h j (Nat.lt_of_lt_of_le hj (Nat.lt_of_not_le behind))

/-- The first stage on the way that holds `n` bytes. -/
structure FirstStage (m : Allocator) (rule : Doubling) (n k : ℕ) : Prop where
  attained : Attained m rule k
  passed : ∀ j < k, (stage rule j).toNat < n
  fits : n ≤ (stage rule k).toNat

theorem FirstStage.le {n : ℕ} (h : FirstStage m rule n k) (h' : FirstStage m rule n l) : k ≤ l := by
  by_contra behind
  have := h.passed l (Nat.lt_of_not_le behind)
  have := h'.fits
  omega

theorem FirstStage.not_last {n : ℕ} (h : FirstStage m rule n k) (attained : Attained m rule l)
    (last : ¬ Attained m rule (l + 1)) : n ≤ (stage rule l).toNat :=
  Nat.le_trans h.fits (attained.stage_le (h.attained.le_last last))

/-- A chunk in the course of a load: its capacity is a stage, and it holds more than any stage before. -/
structure At (m : Allocator) (rule : Doubling) (k : ℕ) (c : Chunk) : Prop where
  rule_eq : c.rule = rule
  capacity_eq : c.capacity = stage rule k
  attained : Attained m rule k
  passed : ∀ j < k, (stage rule j).toNat < c.count

theorem at_withRule (m : Allocator) (rule : Doubling) : At m rule 0 (withRule rule) where
  rule_eq := rfl
  capacity_eq := rfl
  attained := attained_zero
  passed _ h := absurd h (Nat.not_lt_zero _)

/-- A full chunk holds as many bytes as its stage says. -/
theorem At.count_of_full (h : At m rule k c) (full : ¬ c.count < c.capacity.toNat) :
    c.count = (stage rule k).toNat := by
  have held := c.count_le_capacity
  rw [h.capacity_eq] at held full
  omega

theorem At.count_push (h : At m rule k c) {new : Array Growth} {byte : UInt8} (pushed : c.push m byte = .ok (d, new))
    {j : ℕ} (hj : j < k) : (stage rule j).toNat < d.count := by
  have count := (Buffer.push_eq_ok_iff.mp pushed).count_eq
  have := h.passed j hj
  omega

/-- A write stays at a stage that has room, goes on to the next one from a full stage, or fails there. -/
theorem push_cases (h : At m rule k c) (byte : UInt8) :
    (∃ d, c.push m byte = .ok (d, #[]) ∧ At m rule k d) ∨
    (∃ d, c.push m byte = .ok (d, #[departure rule k]) ∧ At m rule (k + 1) d) ∨
    (c.push m byte = .error (.untouched (obstacle rule k) c) ∧ c.count = (stage rule k).toNat ∧
      ¬ Attained m rule (k + 1)) := by
  by_cases room : c.count < c.capacity.toNat
  · have pushed : c.push m byte = _ := Buffer.push_of_room room
    exact .inl ⟨_, pushed, h.rule_eq, h.capacity_eq, h.attained, fun j hj => h.count_push pushed hj⟩
  have full := h.count_of_full room
  have step : GrowthRule.after c.rule c.capacity = stage rule (k + 1) := by
    rw [h.rule_eq, h.capacity_eq, stage_succ]
  by_cases grows : c.capacity < stage rule (k + 1)
  · have outcome : c.push m byte = _ := Buffer.push_of_grows room step grows
    by_cases granted : m.grants (Block.width (Array UInt8)) (stage rule (k + 1)) = true
    · have growth : c.growthTo (stage rule (k + 1)) = departure rule k := by
        rw [departure, Buffer.growthTo, h.capacity_eq, full]
      rw [if_pos granted, growth] at outcome
      have attained := attained_succ.mpr ⟨h.attained, h.capacity_eq ▸ grows, granted⟩
      refine .inr (.inl ⟨_, outcome, h.rule_eq, rfl, attained, ?_⟩)
      · intro j hj
        rcases Nat.lt_succ_iff_lt_or_eq.mp hj with hj | rfl
        · exact h.count_push outcome hj
        · rw [(Buffer.push_eq_ok_iff.mp outcome).count_eq, full]
          exact Nat.lt_succ_self _
    · rw [if_neg granted] at outcome
      refine .inr (.inr ⟨?_, full, fun attained => granted (attained_succ.mp attained).2.2⟩)
      rw [outcome, obstacle, if_neg (UInt64.not_le.mpr (h.capacity_eq ▸ grows))]
  · have stalled : c.push m byte = _ := Buffer.push_of_stalled room (by rw [step]; exact grows)
    rw [h.capacity_eq] at grows
    refine .inr (.inr ⟨?_, full, fun attained => grows (attained_succ.mp attained).2.1⟩)
    rw [stalled, obstacle, if_pos (UInt64.not_lt.mp grows), full]

theorem loadFrom_of_ok {growths : List Growth} {new : Array Growth} {byte : UInt8} {rest : List UInt8}
    (pushed : c.push m byte = .ok (d, new)) :
    loadFrom m c growths (byte :: rest) = loadFrom m d (growths ++ new.toList) rest := by
  rw [loadFrom, pushed]

/-- Induction on the bytes that are left: each write leads on to a stage, or is the one that fails. -/
theorem loadFrom_cases (bytes : List UInt8) (h : At m rule k c) :
    (∃ l d, At m rule l d ∧ loadFrom m c (departures rule k) bytes = (departures rule l, .ok d)) ∨
    (∃ l, Attained m rule l ∧ ¬ Attained m rule (l + 1) ∧ (stage rule l).toNat < c.count + bytes.length ∧
      loadFrom m c (departures rule k) bytes =
        (departures rule l, .error ⟨(stage rule l).toNat, obstacle rule l⟩)) := by
  induction bytes generalizing k c with
  | nil => exact .inl ⟨k, c, h, rfl⟩
  | cons byte rest ih =>
    have count {d : Chunk} {new : Array Growth} (pushed : c.push m byte = .ok (d, new)) :
        c.count + (byte :: rest).length = d.count + rest.length := by
      rw [(Buffer.push_eq_ok_iff.mp pushed).count_eq, List.length_cons, List.length_singleton]
      omega
    rcases push_cases h byte with ⟨d, pushed, hd⟩ | ⟨d, pushed, hd⟩ | ⟨failed, full, last⟩
    · rw [loadFrom_of_ok pushed, count pushed, Array.toList_empty, List.append_nil]
      exact ih hd
    · rw [loadFrom_of_ok pushed, count pushed, List.toList_toArray, ← departures_succ]
      exact ih hd
    · refine .inr ⟨k, h.attained, last, ?_, ?_⟩
      · rw [full, List.length_cons]
        omega
      · rw [loadFrom, failed, full]
        exact congrArg (·, _) (List.append_nil _)

theorem load_cases (m : Allocator) (rule : Doubling) (bytes : Array UInt8) :
    (∃ k c, At m rule k c ∧ c.code = bytes ∧ FirstStage m rule bytes.size k ∧
      load m rule bytes = ((departures rule k).map .grown ++ [.loaded bytes.size (stage rule k)], .ok c)) ∨
    (∃ k, Attained m rule k ∧ ¬ Attained m rule (k + 1) ∧ (stage rule k).toNat < bytes.size ∧
      load m rule bytes = ((departures rule k).map .grown, .error ⟨(stage rule k).toNat, obstacle rule k⟩)) := by
  have start : (withRule rule).count = 0 := Block.size_empty
  have none : departures rule 0 = [] := rfl
  rcases loadFrom_cases bytes.toList (at_withRule m rule) with ⟨k, c, hc, loaded⟩ | ⟨k, attained, last, short, failed⟩
  · rw [none] at loaded
    have values := toList_loadFrom (congrArg Prod.snd loaded)
    rw [withRule, Buffer.toList_withRule, List.nil_append] at values
    have count : c.count = bytes.size := by rw [← c.length_toList, values, Array.length_toList]
    have held := c.count_le_capacity
    rw [hc.capacity_eq, count] at held
    refine .inl ⟨k, c, hc, Array.toList_inj.mp values, ⟨hc.attained, fun j hj => count ▸ hc.passed j hj, held⟩, ?_⟩
    rw [load, loaded, ← count, ← hc.capacity_eq]
  · rw [none] at failed
    rw [start, Nat.zero_add, Array.length_toList] at short
    refine .inr ⟨k, attained, last, short, ?_⟩
    rw [load, failed]

theorem load_of_firstStage {bytes : Array UInt8} (h : FirstStage m rule bytes.size k) :
    ∃ c, At m rule k c ∧ c.code = bytes ∧
      load m rule bytes = ((departures rule k).map .grown ++ [.loaded bytes.size (stage rule k)], .ok c) := by
  rcases load_cases m rule bytes with ⟨l, c, hc, code, first, loaded⟩ | ⟨l, attained, last, short, _⟩
  · obtain rfl : k = l := Nat.le_antisymm (h.le first) (first.le h)
    exact ⟨c, hc, code, loaded⟩
  · exact absurd (h.not_last attained last) (Nat.not_le_of_lt short)

/-- Where a load stops, it has written as many bytes as the last stage holds, and the next one is refused. -/
theorem stopped_at_last {bytes : Array UInt8} (attained : Attained m rule k) (last : ¬ Attained m rule (k + 1))
    (short : (stage rule k).toNat < bytes.size) :
    ∃ c, (load m rule (bytes.take (stage rule k).toNat)).2 = .ok c ∧ c.count = (stage rule k).toNat ∧
      c.push m bytes[(stage rule k).toNat] = .error (.untouched (obstacle rule k) c) := by
  have size : (bytes.take (stage rule k).toNat).size = (stage rule k).toNat := by
    rw [Array.take_eq_extract, Array.size_extract]
    omega
  have first : FirstStage m rule (bytes.take (stage rule k).toNat).size k :=
    ⟨attained, fun j hj => by rw [size]; exact UInt64.lt_iff_toNat_lt.mp (attained.stage_lt hj), Nat.le_of_eq size⟩
  obtain ⟨c, hc, code, loaded⟩ := load_of_firstStage first
  have count : c.count = (stage rule k).toNat := by
    rw [← size, ← code]
    rfl
  refine ⟨c, congrArg Prod.snd loaded, count, ?_⟩
  -- Those bytes fill the last stage, so one more neither finds room there nor leads on.
  rcases push_cases hc bytes[(stage rule k).toNat] with ⟨d, pushed, hd⟩ | ⟨d, _, hd⟩ | ⟨failed, _⟩
  · have := (Buffer.push_eq_ok_iff.mp pushed).count_eq
    have := d.count_le_capacity
    rw [hd.capacity_eq] at this
    rw [List.length_singleton] at *
    omega
  · exact absurd hd.attained last
  · exact failed

/-- Where nothing that is asked for on the way is refused, a load fails just where its rule has no answer. -/
theorem load_fails_iff {bytes : Array UInt8}
    (granted : ∀ j, stage rule j < stage rule (j + 1) → (stage rule j).toNat < bytes.size →
      m.grants (Block.width (Array UInt8)) (stage rule (j + 1)) = true) :
    (∃ e, (load m rule bytes).2 = .error e) ↔ capacityFor rule 0 bytes.size = none := by
  rcases load_cases m rule bytes with ⟨k, c, _, _, first, loaded⟩ | ⟨k, attained, last, short, failed⟩
  · have fit : FirstFit rule 0 bytes.size (stage rule k) :=
      ⟨k, fun j hj => (first.attained j hj).1, first.passed, rfl, first.fits⟩
    rw [loaded, capacityFor_eq_some_iff.mpr fit]
    exact ⟨nofun, nofun⟩
  · have stalled : ¬ stage rule k < stage rule (k + 1) := fun grows =>
      last (attained_succ.mpr ⟨attained, grows, granted k grows short⟩)
    rw [failed, capacityFor_eq_none_iff]
    exact ⟨fun _ => ⟨k, fun j hj => (attained j hj).1, short, stalled⟩, fun _ => ⟨_, rfl⟩⟩

/-- The outcome of a load, from the iterates of its rule and what the allocator grants of them. At the first that holds
all bytes it ends well, with that capacity, a growth for each iterate on the way and one last event. If none that is
attained holds them, the load fails at the last one with that many bytes written, for want of a larger capacity or of
a grant, and reports the growths up to there. Where nothing is refused on the way, that happens just where there are
more bytes than the floor and the rule cannot go beyond it. -/
theorem load_outcome (m : Allocator) (rule : Doubling) (bytes : Array UInt8) :
    (∀ k, FirstStage m rule bytes.size k →
      ∃ c, load m rule bytes = ((departures rule k).map .grown ++ [.loaded bytes.size (stage rule k)], .ok c) ∧
        c.code = bytes ∧ c.capacity = stage rule k ∧ c.rule = rule) ∧
    ((¬ ∃ k, FirstStage m rule bytes.size k) →
      ∃ k e, Attained m rule k ∧ ¬ Attained m rule (k + 1) ∧
        load m rule bytes = ((departures rule k).map .grown, .error e) ∧
        e.chain = [s!"écriture de l’octet {(stage rule k).toNat}", e.cause.message] ∧
        e.cause = obstacle rule k ∧
        ∃ c byte, (load m rule (bytes.take (stage rule k).toNat)).2 = .ok c ∧ c.count = (stage rule k).toNat ∧
          bytes[c.count]? = some byte ∧ c.push m byte = .error (.untouched e.cause c)) ∧
    (bytes.size ≤ maxCount →
      (∀ j, stage rule j < stage rule (j + 1) → (stage rule j).toNat < bytes.size →
        m.grants (Block.width (Array UInt8)) (stage rule (j + 1)) = true) →
      ((∃ e, (load m rule bytes).2 = .error e) ↔
        rule.minimum.toNat < bytes.size ∧ (rule.factor.toNat ≤ 1 ∨ rule.minimum = 0))) := by
  refine ⟨fun k first => ?_, fun none => ?_, fun countable granted => ?_⟩
  · obtain ⟨c, hc, code, loaded⟩ := load_of_firstStage first
    exact ⟨c, loaded, code, hc.capacity_eq, hc.rule_eq⟩
  · rcases load_cases m rule bytes with ⟨k, _, _, _, first, _⟩ | ⟨k, attained, last, short, failed⟩
    · exact absurd ⟨k, first⟩ none
    · obtain ⟨c, loaded, count, stopped⟩ := stopped_at_last attained last short
      refine ⟨k, _, attained, last, failed, rfl, rfl, c, _, loaded, count, ?_, stopped⟩
      rw [count]
      exact Array.getElem?_eq_getElem short
  · have base : rule.base 0 = rule.minimum.toNat := Nat.zero_max _
    rw [load_fails_iff granted, Doubling.capacityFor_eq_none_iff_stuck countable, base, ← UInt64.toNat_inj,
      UInt64.toNat_zero]

/-- Three bytes: where all is granted, where the second reservation is refused, and under a rule that stops at two. -/
theorem three_bytes_load_outcome :
    let bytes : Array UInt8 := #[1, 2, 3]
    let small : Allocator := ⟨fun _ slots => slots < 4⟩
    (∃ c, load .addressSpace ⟨2, 2⟩ bytes = ([.grown ⟨0, 2, 0⟩, .grown ⟨2, 4, 2⟩, .loaded 3 4], .ok c) ∧
      c.code = bytes ∧ c.capacity = 4) ∧
    (∃ e, load small ⟨2, 2⟩ bytes = ([.grown ⟨0, 2, 0⟩], .error e) ∧ e.cause = .allocationFailed 4 ∧
      e.chain = ["écriture de l’octet 2", "allocation failed: could not reserve 4 slots"]) ∧
    ∃ e, (load ⟨fun _ _ => true⟩ ⟨2, 1⟩ bytes).2 = .error e := by
  intro bytes small
  have two : Attained .addressSpace ⟨2, 2⟩ 2 := by unfold Attained; decide
  have one : Attained small ⟨2, 2⟩ 1 := by unfold Attained; decide
  have last : ¬ Attained small ⟨2, 2⟩ 2 := by unfold Attained; decide
  have none : ¬ ∃ k, FirstStage small ⟨2, 2⟩ bytes.size k := by
    rintro ⟨k, first⟩
    exact absurd (first.not_last one last) (by decide)
  refine ⟨?_, ?_, ?_⟩
  · obtain ⟨c, loaded, code, capacity, _⟩ :=
      (load_outcome .addressSpace ⟨2, 2⟩ bytes).1 2 ⟨two, by decide, by decide⟩
    exact ⟨c, loaded, code, capacity⟩
  · obtain ⟨k, e, attained, stops, failed, chain, cause, _⟩ := (load_outcome small ⟨2, 2⟩ bytes).2.1 none
    obtain rfl : k = 1 := Nat.le_antisymm (attained.le_last last) (one.le_last stops)
    have refused : e.cause = .allocationFailed 4 := cause
    rw [refused] at chain
    exact ⟨e, failed, refused, chain⟩
  · exact ((load_outcome ⟨fun _ _ => true⟩ ⟨2, 1⟩ bytes).2.2 (by decide) fun _ _ _ => rfl).mpr (by decide)

end BytecodeStore.Chunk
