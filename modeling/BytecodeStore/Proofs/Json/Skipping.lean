import BytecodeStore.Proofs.Json.Tokens

/-! # Passing over a value is reading it

What nobody asks for is passed over exactly where a value of the grammar stands.
-/
namespace BytecodeStore.Json
variable {s r t : List Char} {v : Value} {vs : List Value} {ms : List (Option String × Value)}

theorem blanks_of_readToken {c : Char} {r : List Char} {shorter : r.length < s.length}
    (h : readToken s = .ok ⟨c, r, shorter⟩) : Blanks s (c :: r) :=
  (gives_readToken_iff.mp ⟨_, h, rfl, rfl⟩).1

theorem Blanks.word {c : Char} {w : List Char} {p : { q : List Char // q.length ≤ r.length }}
    (blanks : Blanks s (c :: r)) (h : readWord w r = .ok p) : Blanks s (c :: w ++ p.1) := by
  rw [List.cons_append, ← eq_append_of_readWord h]
  exact blanks

/-! ## What is passed over is a value -/

mutual

theorem exists_denotes_of_skipValue {s t : List Char} (h : Gives (skipValue s) () t) :
    ∃ r v, Blanks s r ∧ Denotes r v t := by
  rw [skipValue] at h
  split at h
  · exact absurd h not_gives_error
  rename_i c rest shorter token
  have blanks := blanks_of_readToken token
  dsimp only at h
  split at h
  · obtain ⟨p, hp, -, rfl⟩ := gives_map.mp h
    exact ⟨_, _, blanks.word hp, .null _⟩
  · obtain ⟨p, hp, -, rfl⟩ := gives_map.mp h
    exact ⟨_, _, blanks.word hp, .yes _⟩
  · obtain ⟨p, hp, -, rfl⟩ := gives_map.mp h
    exact ⟨_, _, blanks.word hp, .no _⟩
  · obtain ⟨p, hp, -, rfl⟩ := gives_map.mp h
    obtain ⟨ps, content⟩ := exists_content_of_skipString ⟨p, hp, rfl, rfl⟩
    exact ⟨_, _, blanks, .string content⟩
  · split at h
    · exact absurd h not_gives_error
    · rename_i closing
      obtain ⟨-, rfl⟩ := gives_ok.mp h
      exact ⟨_, _, blanks, .emptyArray (blanks_of_readToken closing)⟩
    · obtain ⟨p, hp, -, rfl⟩ := gives_map.mp h
      obtain ⟨vs, items⟩ := exists_items_of_skipItems ⟨p, hp, rfl, rfl⟩
      exact ⟨_, _, blanks, .array items⟩
  · split at h
    · exact absurd h not_gives_error
    · rename_i closing
      obtain ⟨-, rfl⟩ := gives_ok.mp h
      exact ⟨_, _, blanks, .emptyObject (blanks_of_readToken closing)⟩
    · obtain ⟨p, hp, -, rfl⟩ := gives_map.mp h
      obtain ⟨ms, members⟩ := exists_members_of_skipMembers ⟨p, hp, rfl, rfl⟩
      exact ⟨_, _, blanks, .object members⟩
  · obtain ⟨p, hp, -, rfl⟩ := gives_map.mp h
    exact ⟨_, _, blanks, .negative (number_of_readNumber ⟨p, hp, rfl, rfl⟩)⟩
  · split at h
    · obtain ⟨p, hp, -, rfl⟩ := gives_map.mp h
      exact ⟨_, _, blanks_skipBlanks s, .positive (number_of_readNumber ⟨p, hp, rfl, rfl⟩)⟩
    · exact absurd h not_gives_error
termination_by (s.length, 0)

theorem exists_items_of_skipItems {s t : List Char} (h : Gives (skipItems s) () t) : ∃ vs, Items s vs t := by
  rw [skipItems] at h
  split at h
  · exact absurd h not_gives_error
  rename_i q shorter first
  obtain ⟨r, v, before, value⟩ := exists_denotes_of_skipValue ⟨_, first, rfl, rfl⟩
  split at h
  · exact absurd h not_gives_error
  · rename_i comma
    obtain ⟨p, hp, -, rfl⟩ := gives_map.mp h
    obtain ⟨vs, rest⟩ := exists_items_of_skipItems ⟨p, hp, rfl, rfl⟩
    exact ⟨_, .more before value (blanks_of_readToken comma) rest⟩
  · rename_i bracket
    obtain ⟨-, rfl⟩ := gives_ok.mp h
    exact ⟨_, .last before value (blanks_of_readToken bracket)⟩
  · exact absurd h not_gives_error
termination_by (s.length, 1)

theorem exists_members_of_skipMembers {s t : List Char} (h : Gives (skipMembers s) () t) : ∃ ms, Members s ms t := by
  rw [skipMembers] at h
  split at h
  · exact absurd h not_gives_error
  · rename_i quote
    split at h
    · exact absurd h not_gives_error
    rename_i key
    obtain ⟨ps, content⟩ := exists_content_of_skipString ⟨_, key, rfl, rfl⟩
    split at h
    · exact absurd h not_gives_error
    · rename_i colon
      have name := Key.mk (blanks_of_readToken quote) content (blanks_of_readToken colon)
      split at h
      · exact absurd h not_gives_error
      rename_i first
      obtain ⟨r, v, before, value⟩ := exists_denotes_of_skipValue ⟨_, first, rfl, rfl⟩
      dsimp only at h
      split at h
      · exact absurd h not_gives_error
      · rename_i comma
        obtain ⟨p, hp, -, rfl⟩ := gives_map.mp h
        obtain ⟨ms, rest⟩ := exists_members_of_skipMembers ⟨p, hp, rfl, rfl⟩
        exact ⟨_, .more name before value (blanks_of_readToken comma) rest⟩
      · rename_i brace
        obtain ⟨-, rfl⟩ := gives_ok.mp h
        exact ⟨_, .last name before value (blanks_of_readToken brace)⟩
      · exact absurd h not_gives_error
    · exact absurd h not_gives_error
  · exact absurd h not_gives_error
termination_by (s.length, 1)

end

/-! ## A value is passed over -/

theorem stops_nil : Stops [] := ⟨rfl, by simp, by simp⟩

/-- The characters that end a value in a list or in an object. -/
def marks : List Char := [',', ']', '\x7d']

theorem Blanks.stops (h : Blanks s t) (stops : Stops t) : Stops s := by
  cases h with
  | absent => exact stops
  | more blank =>
    simp only [List.mem_cons, List.not_mem_nil, or_false] at blank
    rcases blank with rfl | rfl | rfl | rfl <;> exact ⟨rfl, by simp, by simp⟩

theorem Blanks.stops_mark {c : Char} (h : Blanks s (c :: t)) (mark : c ∈ marks) : Stops s := by
  refine h.stops ?_
  simp only [marks, List.mem_cons, List.not_mem_nil, or_false] at mark
  rcases mark with rfl | rfl | rfl <;> exact ⟨rfl, by simp, by simp⟩

theorem Digits.exists_cons {ds : List ℕ} (h : Digits s ds t) : ∃ c r, s = c :: r ∧ c.isDigit = true := by
  cases h with
  | one digit => exact ⟨_, _, rfl, digit⟩
  | more digit => exact ⟨_, _, rfl, digit⟩

theorem Number.exists_cons {token : NumberToken} (h : Number s token t) : ∃ c r, s = c :: r ∧ c.isDigit = true := by
  obtain ⟨r, q, digits, -, -⟩ := h.whole
  exact digits.exists_cons

theorem not_isBlank_of_isDigit {c : Char} (digit : c.isDigit = true) : isBlank c = false := by
  cases blank : isBlank c with
  | false => rfl
  | true =>
    simp only [isBlank_iff, List.mem_cons, List.not_mem_nil, or_false] at blank
    rcases blank with rfl | rfl | rfl | rfl <;> cases digit

/-- A value starts with no blank and with no closing bracket. -/
theorem Denotes.exists_cons (h : Denotes s v t) : ∃ c r, s = c :: r ∧ isBlank c = false ∧ c ≠ ']' := by
  cases h with
  | positive number =>
    obtain ⟨c, r, rfl, digit⟩ := number.exists_cons
    refine ⟨c, r, rfl, not_isBlank_of_isDigit digit, ?_⟩
    rintro rfl
    cases digit
  | _ => exact ⟨_, _, rfl, rfl, by decide⟩

theorem Items.exists_cons (h : Items s vs t) : ∃ c r, Blanks s (c :: r) ∧ isBlank c = false ∧ c ≠ ']' := by
  cases h with
  | last before value =>
    obtain ⟨c, r, rfl, first⟩ := value.exists_cons
    exact ⟨c, r, before, first⟩
  | more before value =>
    obtain ⟨c, r, rfl, first⟩ := value.exists_cons
    exact ⟨c, r, before, first⟩

theorem Members.exists_cons (h : Members s ms t) : ∃ r, Blanks s ('"' :: r) := by
  cases h with
  | last name =>
    obtain ⟨before, -, -⟩ := name
    exact ⟨_, before⟩
  | more name =>
    obtain ⟨before, -, -⟩ := name
    exact ⟨_, before⟩

theorem Number.skip {token : NumberToken} (h : Number r token t) (blanks : Blanks s r) (stops : Stops t) :
    Gives (skipValue s) () t := by
  obtain ⟨c, q, rfl, digit⟩ := h.exists_cons
  have blank := not_isBlank_of_isDigit digit
  have first : skipBlanks s = c :: q := by
    rw [blanks.skipBlanks_eq, skipBlanks, List.dropWhile_cons_of_neg (Bool.eq_false_iff.mp blank)]
  obtain ⟨p, hp, -, rfl⟩ := (first ▸ h).read (e := .malformed) stops
  obtain ⟨_, token⟩ := (gives_readToken_iff.mpr ⟨blanks, blank⟩).eq_ok
  rw [skipValue, token]
  dsimp only
  split
  case h_8 => exact if_pos digit ▸ gives_map.mpr ⟨p, hp, rfl, rfl⟩
  all_goals cases digit

mutual

theorem Denotes.skip {s a t : List Char} {v : Value} (blanks : Blanks s a) (h : Denotes a v t) (stops : Stops t) :
    Gives (skipValue s) () t :=
  match h with
  | .null _ => by
    obtain ⟨_, token⟩ := (gives_readToken_iff.mpr ⟨blanks, rfl⟩).eq_ok
    obtain ⟨le, word⟩ := readWord_append ['u', 'l', 'l'] t
    rw [skipValue, token]
    exact gives_map.mpr ⟨_, word, rfl, rfl⟩
  | .yes _ => by
    obtain ⟨_, token⟩ := (gives_readToken_iff.mpr ⟨blanks, rfl⟩).eq_ok
    obtain ⟨le, word⟩ := readWord_append ['r', 'u', 'e'] t
    rw [skipValue, token]
    exact gives_map.mpr ⟨_, word, rfl, rfl⟩
  | .no _ => by
    obtain ⟨_, token⟩ := (gives_readToken_iff.mpr ⟨blanks, rfl⟩).eq_ok
    obtain ⟨le, word⟩ := readWord_append ['a', 'l', 's', 'e'] t
    rw [skipValue, token]
    exact gives_map.mpr ⟨_, word, rfl, rfl⟩
  | .positive numeral => numeral.skip blanks stops
  | .negative numeral => by
    obtain ⟨_, token⟩ := (gives_readToken_iff.mpr ⟨blanks, rfl⟩).eq_ok
    obtain ⟨p, hp, -, rfl⟩ := numeral.read (e := .malformed) stops
    rw [skipValue, token]
    exact gives_map.mpr ⟨p, hp, rfl, rfl⟩
  | .string content => by
    obtain ⟨_, token⟩ := (gives_readToken_iff.mpr ⟨blanks, rfl⟩).eq_ok
    obtain ⟨p, hp, -, rfl⟩ := content.skip
    rw [skipValue, token]
    exact gives_map.mpr ⟨p, hp, rfl, rfl⟩
  | .emptyArray bracket => by
    obtain ⟨_, token⟩ := (gives_readToken_iff.mpr ⟨blanks, rfl⟩).eq_ok
    obtain ⟨_, token'⟩ := (gives_readToken_iff.mpr ⟨bracket, rfl⟩).eq_ok
    rw [skipValue]
    simp only [token, token']
    exact gives_ok.mpr ⟨rfl, rfl⟩
  | .array items => by
    obtain ⟨c, r, first, blank, open'⟩ := items.exists_cons
    obtain ⟨_, token⟩ := (gives_readToken_iff.mpr ⟨blanks, rfl⟩).eq_ok
    obtain ⟨_, token'⟩ := (gives_readToken_iff.mpr ⟨first, blank⟩).eq_ok
    obtain ⟨p, hp, -, rfl⟩ := items.skip
    rw [skipValue]
    simp only [token, token']
    split
    · rename_i failed
      cases failed
    · rename_i closed
      cases closed
      exact absurd rfl open'
    · exact gives_map.mpr ⟨p, hp, rfl, rfl⟩
  | .emptyObject brace => by
    obtain ⟨_, token⟩ := (gives_readToken_iff.mpr ⟨blanks, rfl⟩).eq_ok
    obtain ⟨_, token'⟩ := (gives_readToken_iff.mpr ⟨brace, rfl⟩).eq_ok
    rw [skipValue]
    simp only [token, token']
    exact gives_ok.mpr ⟨rfl, rfl⟩
  | .object members => by
    obtain ⟨r, first⟩ := members.exists_cons
    obtain ⟨_, token⟩ := (gives_readToken_iff.mpr ⟨blanks, rfl⟩).eq_ok
    obtain ⟨_, token'⟩ := (gives_readToken_iff.mpr ⟨first, rfl⟩).eq_ok
    obtain ⟨p, hp, -, rfl⟩ := members.skip
    rw [skipValue]
    simp only [token, token']
    exact gives_map.mpr ⟨p, hp, rfl, rfl⟩

theorem Items.skip {s t : List Char} {vs : List Value} (h : Items s vs t) : Gives (skipItems s) () t :=
  match h with
  | .last before value behind => by
    obtain ⟨_, first⟩ := (value.skip before (behind.stops_mark (by decide))).eq_ok
    obtain ⟨_, bracket⟩ := (gives_readToken_iff.mpr ⟨behind, rfl⟩).eq_ok
    rw [skipItems]
    simp only [first, bracket]
    exact gives_ok.mpr ⟨rfl, rfl⟩
  | .more before value behind rest => by
    obtain ⟨_, first⟩ := (value.skip before (behind.stops_mark (by decide))).eq_ok
    obtain ⟨_, comma⟩ := (gives_readToken_iff.mpr ⟨behind, rfl⟩).eq_ok
    obtain ⟨q, hq, -, rfl⟩ := rest.skip
    rw [skipItems]
    simp only [first, comma]
    exact gives_map.mpr ⟨q, hq, rfl, rfl⟩

theorem Members.skip {s t : List Char} {ms : List (Option String × Value)} (h : Members s ms t) :
    Gives (skipMembers s) () t :=
  match h with
  | .last (.mk ahead content between) before value behind => by
    obtain ⟨_, quote⟩ := (gives_readToken_iff.mpr ⟨ahead, rfl⟩).eq_ok
    obtain ⟨_, key⟩ := content.skip.eq_ok
    obtain ⟨_, colon⟩ := (gives_readToken_iff.mpr ⟨between, rfl⟩).eq_ok
    obtain ⟨_, first⟩ := (value.skip before (behind.stops_mark (by decide))).eq_ok
    obtain ⟨_, brace⟩ := (gives_readToken_iff.mpr ⟨behind, rfl⟩).eq_ok
    rw [skipMembers]
    simp only [quote, key, colon, first, brace]
    exact gives_ok.mpr ⟨rfl, rfl⟩
  | .more (.mk ahead content between) before value behind rest => by
    obtain ⟨_, quote⟩ := (gives_readToken_iff.mpr ⟨ahead, rfl⟩).eq_ok
    obtain ⟨_, key⟩ := content.skip.eq_ok
    obtain ⟨_, colon⟩ := (gives_readToken_iff.mpr ⟨between, rfl⟩).eq_ok
    obtain ⟨_, first⟩ := (value.skip before (behind.stops_mark (by decide))).eq_ok
    obtain ⟨_, comma⟩ := (gives_readToken_iff.mpr ⟨behind, rfl⟩).eq_ok
    obtain ⟨q, hq, -, rfl⟩ := rest.skip
    rw [skipMembers]
    simp only [quote, key, colon, first, comma]
    exact gives_map.mpr ⟨q, hq, rfl, rfl⟩

end

end BytecodeStore.Json
