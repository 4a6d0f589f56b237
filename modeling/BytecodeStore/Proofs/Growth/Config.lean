import BytecodeStore.Bytecode.Summary
import BytecodeStore.Growth.Config
import BytecodeStore.Proofs.Json.Writing
import BytecodeStore.Proofs.Text.Numeral

/-! # The texts that are growth rules

The reader of a rule takes the JSON texts of one format and no other text. The members that it enters into a draft are
those of the value that the text stands for, so neither their order nor what else there is matters, and a number that is
no 64-bit word is never made one.
-/
namespace BytecodeStore.Doubling
open Json

/-! ## The format -/

def word (w : UInt64) : Value := .natural w.toNat

def valuesAt (key : String) (members : List (Option String × Value)) : List Value :=
  (members.filter fun m => m.1 = some key).map (·.2)

/-- The value is of the format, and the rule is what it says. -/
inductive Describes : Value → Doubling → Prop where
  | object {members : List (Option String × Value)} {minimum factor : Option UInt64} (keys : ∀ m ∈ members, m.1 ≠ none)
    (first : valuesAt "minimum" members = (minimum.map word).toList)
    (second : valuesAt "factor" members = (factor.map word).toList) :
    Describes (.object members) ⟨minimum.getD 8, factor.getD 2⟩
  | array (words : List UInt64) (short : words.length ≤ 2) :
    Describes (.array (words.map word)) ⟨words[0]?.getD 8, words[1]?.getD 2⟩

/-! ## Words -/

variable {s t : List Char} {w : UInt64} {n : ℕ}

theorem word?_eq_some_iff {token : NumberToken} :
    token.word? = some n ↔ token = ⟨token.whole, [], none⟩ ∧ digitsValue token.whole = n ∧ n ≤ maxCount := by
  unfold NumberToken.word?
  split
  · rename_i whole
    rw [digitsValue, ← absorb_eq_iff (Nat.zero_le _)]
    split
    · rename_i all
      simp [all]
    · rename_i left
      simp only [reduceCtorEq, true_and, false_iff]
      exact left n
  · rename_i other
    simp only [reduceCtorEq, false_iff, not_and]
    intro plain
    exact absurd plain (other _)

theorem denotes_natural_iff :
    Denotes s (.natural n) t ↔ ∃ whole, Number s ⟨whole, [], none⟩ t ∧ digitsValue whole = n := by
  constructor
  · intro h
    generalize value : Value.natural n = v at h
    cases h with
    | positive number =>
      unfold Value.ofToken at value
      split at value
      · exact ⟨_, number, (Value.natural.inj value).symm⟩
      · cases value
    | negative number => cases value
    | _ => cases value
  · rintro ⟨whole, number, rfl⟩
    exact .positive number

theorem exists_word_of_readWord64 (h : Gives (readWord64 s) w t) : ∃ a, Blanks s a ∧ Denotes a (word w) t := by
  unfold readWord64 at h
  obtain ⟨c, hc, h⟩ := gives_bind.mp h
  split at h
  · obtain ⟨p, hp, h⟩ := gives_bind.mp h
    split at h <;> exact absurd h not_gives_error
  split at h
  · obtain ⟨p, hp, h⟩ := gives_bind.mp h
    split at h
    · rename_i n found
      obtain ⟨rfl, rfl⟩ := gives_ok.mp h
      obtain ⟨plain, value, fits⟩ := word?_eq_some_iff.mp found
      have number := number_of_readNumber ⟨p, hp, rfl, rfl⟩
      rw [plain] at number
      refine ⟨_, blanks_skipBlanks s, denotes_natural_iff.mpr ⟨_, number, value.trans ?_⟩⟩
      exact (UInt64.toNat_ofNat_of_lt' (Nat.lt_of_le_of_lt fits (by decide))).symm
    · exact absurd h not_gives_error
  · exact absurd h not_gives_error

theorem readWord64_of_word {a : List Char} (blanks : Blanks s a) (value : Denotes a (word w) t) (stops : Stops t) :
    Gives (readWord64 s) w t := by
  obtain ⟨whole, number, digits⟩ := denotes_natural_iff.mp value
  obtain ⟨c, q, rfl, digit⟩ := number.exists_cons
  have first : skipBlanks s = c :: q := blanks.skipBlanks_eq.trans value.skipBlanks_eq
  obtain ⟨_, token⟩ := (gives_readToken_iff.mpr ⟨blanks, not_isBlank_of_isDigit digit⟩).eq_ok
  obtain ⟨p, hp, plain, rfl⟩ := (first ▸ number).read (e := .endOfText) stops
  have found : p.value.word? = some w.toNat := by
    rw [plain]
    exact word?_eq_some_iff.mpr ⟨rfl, digits, toNat_le_maxCount w⟩
  refine gives_bind.mpr ⟨_, token, ?_⟩
  have positive : c ≠ '-' := by
    rintro rfl
    cases digit
  rw [if_neg positive, if_pos digit]
  refine gives_bind.mpr ⟨p, hp, ?_⟩
  rw [found]
  exact gives_ok.mpr ⟨UInt64.ofNat_toNat, rfl⟩

/-! ## Members -/

/-- What a member does to a draft. -/
inductive Entered : Draft → Option String × Value → Draft → Prop where
  | known {d : Draft} {field : Field} (new : d.get? field = none) (w : UInt64) :
    Entered d (some field.name, word w) (d.set w field)
  | unknown {d : Draft} {key : String} (other : Field.ofName? key = none) (v : Value) : Entered d (some key, v) d

theorem Field.ofName?_name (field : Field) : Field.ofName? field.name = some field := by
  cases field <;> rfl

theorem Field.name_of_ofName? {key : String} {field : Field} (h : Field.ofName? key = some field) :
    key = field.name := by
  unfold Field.ofName? at h
  split at h
  · cases h
    assumption
  · split at h
    · cases h
      assumption
    · cases h

theorem exists_entered_of_readMember {d d' : Draft} (h : Gives (readMember d s) d' t) :
    ∃ key o a v, Key s key o ∧ Blanks o a ∧ Denotes a v t ∧ Entered d (key, v) d' := by
  unfold readMember at h
  obtain ⟨⟨_, _, _⟩, quote, h⟩ := gives_bind.mp h
  dsimp only at h
  split at h
  · exact absurd h not_gives_error
  rename_i isQuote
  obtain rfl := not_not.mp isQuote
  obtain ⟨⟨cs, _, _⟩, key, h⟩ := gives_bind.mp h
  obtain ⟨ps, content, text⟩ := exists_content_of_readString ⟨_, key, rfl, rfl⟩
  dsimp only at h
  split at h
  · exact absurd h not_gives_error
  rename_i new
  obtain ⟨⟨_, _, _⟩, colon, h⟩ := gives_bind.mp h
  dsimp only at h
  split at h
  · exact absurd h not_gives_error
  rename_i isColon
  obtain rfl := not_not.mp isColon
  have name := Key.mk (blanks_of_readToken quote) content (blanks_of_readToken colon)
  rw [textOf, text, Option.map_some] at name
  split at h
  · rename_i field found
    obtain ⟨p, hp, rfl, rfl⟩ := gives_map.mp h
    obtain ⟨a, blanks, value⟩ := exists_word_of_readWord64 ⟨p, hp, rfl, rfl⟩
    rw [Field.name_of_ofName? found] at name
    rw [found, Option.bind_some, Option.map_eq_none_iff] at new
    exact ⟨_, _, a, _, name, blanks, value, .known new p.value⟩
  · rename_i other
    obtain ⟨p, hp, rfl, rfl⟩ := gives_map.mp h
    obtain ⟨a, v, blanks, value⟩ := exists_denotes_of_skipValue ⟨p, hp, rfl, rfl⟩
    exact ⟨_, _, a, v, name, blanks, value, .unknown other v⟩

theorem Entered.exists_key {d d' : Draft} {m : Option String × Value} (h : Entered d m d') : ∃ key, m.1 = some key := by
  cases h <;> exact ⟨_, rfl⟩

theorem readMember_of_entered {d d' : Draft} {key : Option String} {v : Value} {o a : List Char} (name : Key s key o)
    (blanks : Blanks o a) (value : Denotes a v t) (stops : Stops t) (entered : Entered d (key, v) d') :
    Gives (readMember d s) d' t := by
  obtain ⟨before, content, behind⟩ := name
  obtain ⟨key, text⟩ := entered.exists_key
  dsimp only at text
  rw [text] at entered
  obtain ⟨cs, joins, named⟩ := Option.map_eq_some_iff.mp text
  obtain ⟨_, quote⟩ := (gives_readToken_iff.mpr ⟨before, rfl⟩).eq_ok
  obtain ⟨_, name⟩ := (content.read joins).eq_ok
  obtain ⟨_, colon⟩ := (gives_readToken_iff.mpr ⟨behind, rfl⟩).eq_ok
  unfold readMember
  refine gives_bind.mpr ⟨_, quote, ?_⟩
  rw [if_neg (not_not.mpr rfl)]
  refine gives_bind.mpr ⟨_, name, ?_⟩
  cases entered with
  | known new w =>
    obtain ⟨p, hp, rfl, rfl⟩ := readWord64_of_word blanks value stops
    simp only [named, Field.ofName?_name, Option.bind_some, new, Option.map_none]
    refine gives_bind.mpr ⟨_, colon, ?_⟩
    rw [if_neg (not_not.mpr rfl)]
    exact gives_map.mpr ⟨p, hp, rfl, rfl⟩
  | unknown other =>
    obtain ⟨p, hp, -, rfl⟩ := value.skip blanks stops
    simp only [named, other, Option.bind_none]
    refine gives_bind.mpr ⟨_, colon, ?_⟩
    rw [if_neg (not_not.mpr rfl)]
    exact gives_map.mpr ⟨p, hp, rfl, rfl⟩

/-- What a list of members does to a draft. -/
inductive Filled : Draft → List (Option String × Value) → Draft → Prop where
  | nil (d : Draft) : Filled d [] d
  | cons {d e f : Draft} {m : Option String × Value} {ms : List (Option String × Value)} (first : Entered d m e)
    (rest : Filled e ms f) : Filled d (m :: ms) f

theorem exists_filled_of_readMembers {s t : List Char} {d d' : Draft} (h : readMembers d s = .ok (d', t)) :
    ∃ ms, Members s ms t ∧ Filled d ms d' := by
  rw [readMembers] at h
  obtain ⟨p, hp, h⟩ := ok_of_bind h
  obtain ⟨key, o, a, v, name, blanks, value, entered⟩ := exists_entered_of_readMember ⟨p, hp, rfl, rfl⟩
  obtain ⟨next, hn, h⟩ := ok_of_bind h
  have behind := blanks_of_readToken hn
  split at h
  · rename_i comma
    obtain ⟨ms, members, filled⟩ := exists_filled_of_readMembers h
    exact ⟨_, .more name blanks value (comma ▸ behind) members, .cons entered filled⟩
  split at h
  · rename_i brace
    cases h
    exact ⟨_, .last name blanks value (brace ▸ behind), .cons entered (.nil _)⟩
  · cases h
termination_by s.length
decreasing_by
  have := p.shorter
  have := next.shorter
  omega

theorem readMembers_of_filled {s t : List Char} {ms : List (Option String × Value)} {d d' : Draft} (h : Members s ms t)
    (filled : Filled d ms d') : readMembers d s = .ok (d', t) :=
  match h with
  | .last name blanks value behind => by
    cases filled with
    | cons entered rest =>
      cases rest
      obtain ⟨_, member⟩ := (readMember_of_entered name blanks value (behind.stops_mark (by decide)) entered).eq_ok
      obtain ⟨_, brace⟩ := (gives_readToken_iff.mpr ⟨behind, rfl⟩).eq_ok
      rw [readMembers, bind_of_ok member, bind_of_ok brace]
      rfl
  | .more name blanks value behind rest => by
    cases filled with
    | cons entered filled =>
      obtain ⟨_, member⟩ := (readMember_of_entered name blanks value (behind.stops_mark (by decide)) entered).eq_ok
      obtain ⟨_, comma⟩ := (gives_readToken_iff.mpr ⟨behind, rfl⟩).eq_ok
      rw [readMembers, bind_of_ok member, bind_of_ok comma, if_pos rfl]
      exact readMembers_of_filled rest filled

/-! ## Drafts -/

theorem word_injective : Function.Injective word := by
  intro w w' h
  exact UInt64.toNat_inj.mp (Value.natural.inj h)

theorem valuesAt_cons_of_eq {key : String} {m : Option String × Value} (same : m.1 = some key)
    (ms : List (Option String × Value)) : valuesAt key (m :: ms) = m.2 :: valuesAt key ms := by
  rw [valuesAt, List.filter_cons_of_pos (by simpa using same), List.map_cons, valuesAt]

theorem valuesAt_cons_of_ne {key : String} {m : Option String × Value} (other : m.1 ≠ some key)
    (ms : List (Option String × Value)) : valuesAt key (m :: ms) = valuesAt key ms := by
  rw [valuesAt, List.filter_cons_of_neg (by simpa using other), valuesAt]

namespace Draft

/-- What stands at a field, as a list. -/
def entries (d : Draft) (field : Field) : List Value := ((d.get? field).map word).toList

theorem ext_entries {d d' : Draft} (h : ∀ field, d.entries field = d'.entries field) : d = d' := by
  have same (field : Field) : d.get? field = d'.get? field := by
    have := h field
    unfold entries at this
    cases found : d.get? field <;> cases found' : d'.get? field <;> simp_all
    exact word_injective this
  cases d
  cases d'
  exact congrArg₂ Draft.mk (same .minimum) (same .factor)

theorem entries_set_self (d : Draft) (w : UInt64) (field : Field) : (d.set w field).entries field = [word w] := by
  cases field <;> rfl

theorem entries_set_of_ne (d : Draft) (w : UInt64) {field other : Field} (h : other ≠ field) :
    (d.set w field).entries other = d.entries other := by
  cases field <;> cases other <;> first | rfl | exact absurd rfl h

end Draft

theorem Entered.entries {d e : Draft} {m : Option String × Value} (h : Entered d m e) (field : Field)
    (ms : List (Option String × Value)) :
    d.entries field ++ valuesAt field.name (m :: ms) = e.entries field ++ valuesAt field.name ms := by
  cases h with
  | known new w =>
    rename_i set
    by_cases same : field = set
    · subst same
      rw [valuesAt_cons_of_eq rfl, Draft.entries_set_self, Draft.entries, new]
      rfl
    · rw [Draft.entries_set_of_ne _ _ same, valuesAt_cons_of_ne]
      intro names
      have := congrArg Field.ofName? (Option.some.inj names)
      rw [Field.ofName?_name, Field.ofName?_name] at this
      exact same (Option.some.inj this).symm
  | unknown other v =>
    rw [valuesAt_cons_of_ne]
    intro names
    rw [Option.some.inj names, Field.ofName?_name] at other
    cases other

theorem exists_entered {d d' : Draft} {m : Option String × Value} {ms : List (Option String × Value)} (key : m.1 ≠ none)
    (h : ∀ field, d.entries field ++ valuesAt field.name (m :: ms) = d'.entries field) : ∃ e, Entered d m e := by
  obtain ⟨_ | name, v⟩ := m
  · exact absurd rfl key
  cases found : Field.ofName? name with
  | none => exact ⟨d, .unknown found v⟩
  | some field =>
    obtain rfl := Field.name_of_ofName? found
    have once := h field
    rw [valuesAt_cons_of_eq rfl, Draft.entries, Draft.entries] at once
    cases old : d.get? field with
    | some w => cases new : d'.get? field <;> simp [old, new] at once
    | none =>
      cases new : d'.get? field with
      | none => simp [old, new] at once
      | some w =>
        simp only [old, new, Option.map_none, Option.toList_none, List.nil_append, Option.map_some, Option.toList_some,
          List.cons.injEq] at once
        obtain ⟨rfl, -⟩ := once
        exact ⟨_, .known old w⟩

/-- Members are entered one after the other if and only if each field is given once at most, as a word. -/
theorem filled_iff {d d' : Draft} {ms : List (Option String × Value)} :
    Filled d ms d' ↔
      (∀ m ∈ ms, m.1 ≠ none) ∧ ∀ field, d.entries field ++ valuesAt field.name ms = d'.entries field := by
  induction ms generalizing d with
  | nil =>
    constructor
    · rintro ⟨⟩
      exact ⟨by simp, fun field => List.append_nil _⟩
    · rintro ⟨-, same⟩
      obtain rfl : d = d' := Draft.ext_entries fun field => (List.append_nil _).symm.trans (same field)
      exact .nil d
  | cons m ms ih =>
    constructor
    · intro filled
      cases filled with
      | cons first rest =>
        obtain ⟨keys, same⟩ := ih.mp rest
        obtain ⟨key, text⟩ := first.exists_key
        refine ⟨List.forall_mem_cons.mpr ⟨?_, keys⟩, fun field => (first.entries field ms).trans (same field)⟩
        rw [text]
        exact Option.some_ne_none key
    · rintro ⟨keys, same⟩
      obtain ⟨key, keys⟩ := List.forall_mem_cons.mp keys
      obtain ⟨e, first⟩ := exists_entered key same
      exact .cons first (ih.mpr ⟨keys, fun field => (first.entries field ms).symm.trans (same field)⟩)

/-! ## Containers -/

theorem denotes_object_iff {ms : List (Option String × Value)} :
    Denotes s (.object ms) t ↔
      ∃ r, s = '\x7b' :: r ∧ ((ms = [] ∧ Blanks r ('\x7d' :: t)) ∨ Members r ms t) := by
  constructor
  · intro h
    generalize value : Value.object ms = v at h
    cases h with
    | positive =>
      unfold Value.ofToken at value
      split at value <;> cases value
    | emptyObject brace =>
      cases value
      exact ⟨_, rfl, .inl ⟨rfl, brace⟩⟩
    | object members =>
      cases value
      exact ⟨_, rfl, .inr members⟩
    | _ => cases value
  · rintro ⟨r, rfl, ⟨rfl, brace⟩ | members⟩
    · exact .emptyObject brace
    · exact .object members

theorem denotes_array_iff {vs : List Value} :
    Denotes s (.array vs) t ↔ ∃ r, s = '[' :: r ∧ ((vs = [] ∧ Blanks r (']' :: t)) ∨ Items r vs t) := by
  constructor
  · intro h
    generalize value : Value.array vs = v at h
    cases h with
    | positive =>
      unfold Value.ofToken at value
      split at value <;> cases value
    | emptyArray bracket =>
      cases value
      exact ⟨_, rfl, .inl ⟨rfl, bracket⟩⟩
    | array items =>
      cases value
      exact ⟨_, rfl, .inr items⟩
    | _ => cases value
  · rintro ⟨r, rfl, ⟨rfl, bracket⟩ | items⟩
    · exact .emptyArray bracket
    · exact .array items

theorem readObject_eq_ok_iff {d : Draft} :
    readObject s = .ok (d, t) ↔ ∃ ms, Denotes ('\x7b' :: s) (.object ms) t ∧ Filled {} ms d := by
  constructor
  · intro h
    obtain ⟨c, hc, h⟩ := ok_of_bind h
    split at h
    · rename_i brace
      cases h
      exact ⟨[], .emptyObject (brace ▸ blanks_of_readToken hc), .nil _⟩
    · obtain ⟨ms, members, filled⟩ := exists_filled_of_readMembers h
      exact ⟨ms, .object members, filled⟩
  · rintro ⟨ms, value, filled⟩
    obtain ⟨r, ⟨⟩, ⟨rfl, brace⟩ | members⟩ := denotes_object_iff.mp value
    · cases filled
      obtain ⟨_, token⟩ := (gives_readToken_iff.mpr ⟨brace, rfl⟩).eq_ok
      rw [readObject, bind_of_ok token, if_pos rfl]
    · obtain ⟨r, first⟩ := members.exists_cons
      obtain ⟨_, token⟩ := (gives_readToken_iff.mpr ⟨first, rfl⟩).eq_ok
      rw [readObject, bind_of_ok token]
      exact readMembers_of_filled members filled

theorem readList_eq_ok_iff {d : Draft} :
    readList s = .ok (d, t) ↔ ∃ words : List UInt64, words.length ≤ 2 ∧ Denotes ('[' :: s) (.array (words.map word)) t ∧
      d = ⟨words[0]?, words[1]?⟩ := by
  constructor
  · intro h
    obtain ⟨c, hc, h⟩ := ok_of_bind h
    split at h
    · rename_i bracket
      cases h
      exact ⟨[], by simp, .emptyArray (bracket ▸ blanks_of_readToken hc), rfl⟩
    obtain ⟨p, hp, h⟩ := ok_of_bind h
    obtain ⟨a, before, value⟩ := exists_word_of_readWord64 ⟨p, hp, rfl, rfl⟩
    obtain ⟨c, hc, h⟩ := ok_of_bind h
    have behind := blanks_of_readToken hc
    split at h
    · rename_i bracket
      cases h
      exact ⟨[p.value], by simp, .array (.last before value (bracket ▸ behind)), rfl⟩
    split at h
    · rename_i comma
      obtain ⟨q, hq, h⟩ := ok_of_bind h
      obtain ⟨a', before', value'⟩ := exists_word_of_readWord64 ⟨q, hq, rfl, rfl⟩
      obtain ⟨c, hc, h⟩ := ok_of_bind h
      have behind' := blanks_of_readToken hc
      split at h
      · rename_i bracket
        cases h
        exact ⟨[p.value, q.value], by simp,
          .array (.more before value (comma ▸ behind) (.last before' value' (bracket ▸ behind'))), rfl⟩
      · cases h
    · cases h
  · rintro ⟨words, short, value, rfl⟩
    obtain ⟨r, ⟨⟩, ⟨none, bracket⟩ | items⟩ := denotes_array_iff.mp value
    · obtain rfl := List.map_eq_nil_iff.mp none
      obtain ⟨_, token⟩ := (gives_readToken_iff.mpr ⟨bracket, rfl⟩).eq_ok
      rw [readList, bind_of_ok token, if_pos rfl]
      rfl
    obtain ⟨c, q, first, blank, open'⟩ := items.exists_cons
    obtain ⟨_, token⟩ := (gives_readToken_iff.mpr ⟨first, blank⟩).eq_ok
    rw [readList, bind_of_ok token, if_neg open']
    match words, short, items with
    | [], _, items => cases items
    | [w], _, .last before value behind =>
      obtain ⟨_, word⟩ := (readWord64_of_word before value (behind.stops_mark (by decide))).eq_ok
      obtain ⟨_, bracket⟩ := (gives_readToken_iff.mpr ⟨behind, rfl⟩).eq_ok
      rw [bind_of_ok word, bind_of_ok bracket, if_pos rfl]
      rfl
    | [w], _, .more _ _ _ empty => cases empty
    | [w, w'], _, .more before value behind (.last before' value' behind') =>
      obtain ⟨_, word⟩ := (readWord64_of_word before value (behind.stops_mark (by decide))).eq_ok
      obtain ⟨_, comma⟩ := (gives_readToken_iff.mpr ⟨behind, rfl⟩).eq_ok
      obtain ⟨_, word'⟩ := (readWord64_of_word before' value' (behind'.stops_mark (by decide))).eq_ok
      obtain ⟨_, bracket⟩ := (gives_readToken_iff.mpr ⟨behind', rfl⟩).eq_ok
      rw [bind_of_ok word, bind_of_ok comma, if_neg (show ',' ≠ ']' by decide), if_pos rfl, bind_of_ok word',
        bind_of_ok bracket, if_pos rfl]
      rfl
    | [w, w'], _, .more _ _ _ (.more _ _ _ empty) => cases empty
    | _ :: _ :: _ :: _, short, _ => simp at short

theorem describes_object_iff {ms : List (Option String × Value)} {p : Doubling} :
    Describes (.object ms) p ↔ ∃ d : Draft, Filled {} ms d ∧ p = d.rule := by
  constructor
  · intro h
    cases h with
    | @object _ minimum factor keys first second =>
      refine ⟨⟨minimum, factor⟩, filled_iff.mpr ⟨keys, ?_⟩, rfl⟩
      rintro (_ | _)
      · exact first
      · exact second
  · rintro ⟨d, filled, rfl⟩
    obtain ⟨keys, same⟩ := filled_iff.mp filled
    exact .object keys (same .minimum) (same .factor)

theorem describes_array_iff {vs : List Value} {p : Doubling} :
    Describes (.array vs) p ↔
      ∃ words : List UInt64, words.length ≤ 2 ∧ vs = words.map word ∧ p = Draft.rule ⟨words[0]?, words[1]?⟩ := by
  constructor
  · intro h
    cases h with
    | array words short => exact ⟨words, short, rfl, rfl⟩
  · rintro ⟨words, short, rfl, rfl⟩
    exact .array words short

theorem blanks_nil_iff : Blanks s [] ↔ (skipBlanks s).isEmpty = true := by
  rw [List.isEmpty_iff]
  constructor
  · intro blanks
    rw [blanks.skipBlanks_eq]
    rfl
  · intro nothing
    exact nothing ▸ blanks_skipBlanks s

theorem rest_blank_iff {d : Draft} {p : Doubling} :
    (if (skipBlanks s).isEmpty then .ok d.rule else .error .malformed : Except ReadError Doubling) = .ok p ↔
      Blanks s [] ∧ d.rule = p := by
  rw [blanks_nil_iff]
  split
  · rename_i nothing
    simp [nothing]
  · rename_i more
    simp [more]

theorem readChars_eq_ok_iff {p : Doubling} :
    readChars s = .ok p ↔ ∃ v, (∃ a r, Blanks s a ∧ Denotes a v r ∧ Blanks r []) ∧ Describes v p := by
  constructor
  · intro h
    obtain ⟨⟨c, r, _⟩, token, h⟩ := ok_of_bind h
    have before := blanks_of_readToken token
    dsimp only at h
    split at h
    · rename_i bracket
      obtain ⟨⟨d, q⟩, container, h⟩ := ok_of_bind h
      obtain ⟨behind, rfl⟩ := rest_blank_iff.mp h
      obtain ⟨words, short, value, rfl⟩ := readList_eq_ok_iff.mp container
      exact ⟨_, ⟨_, _, bracket ▸ before, value, behind⟩, describes_array_iff.mpr ⟨words, short, rfl, rfl⟩⟩
    split at h
    · rename_i brace
      obtain ⟨⟨d, q⟩, container, h⟩ := ok_of_bind h
      obtain ⟨behind, rfl⟩ := rest_blank_iff.mp h
      obtain ⟨ms, value, filled⟩ := readObject_eq_ok_iff.mp container
      exact ⟨_, ⟨_, _, brace ▸ before, value, behind⟩, describes_object_iff.mpr ⟨d, filled, rfl⟩⟩
    · cases h
  · rintro ⟨v, ⟨a, r, before, value, behind⟩, describes⟩
    cases v with
    | object ms =>
      obtain ⟨d, filled, rfl⟩ := describes_object_iff.mp describes
      obtain ⟨q, rfl, -⟩ := denotes_object_iff.mp value
      obtain ⟨_, token⟩ := (gives_readToken_iff.mpr ⟨before, rfl⟩).eq_ok
      have container := readObject_eq_ok_iff.mpr ⟨ms, value, filled⟩
      rw [readChars, bind_of_ok token]
      dsimp only
      rw [if_neg (by decide), if_pos rfl, bind_of_ok container]
      exact rest_blank_iff.mpr ⟨behind, rfl⟩
    | array vs =>
      obtain ⟨words, short, rfl, rfl⟩ := describes_array_iff.mp describes
      obtain ⟨q, rfl, -⟩ := denotes_array_iff.mp value
      obtain ⟨_, token⟩ := (gives_readToken_iff.mpr ⟨before, rfl⟩).eq_ok
      have container := readList_eq_ok_iff.mpr ⟨words, short, value, rfl⟩
      rw [readChars, bind_of_ok token]
      dsimp only
      rw [if_pos rfl, bind_of_ok container]
      exact rest_blank_iff.mpr ⟨behind, rfl⟩
    | _ => cases describes

/-! ## Whole texts -/

variable {text : String} {p : Doubling} {v : Value} {vs : List Value} {ms ms' : List (Option String × Value)}

theorem ofText_eq_ok_iff : ofText text = .ok p ↔ ∃ v, Stands text v ∧ Describes v p := readChars_eq_ok_iff

theorem ofText_of_stands (h : Stands text v) : ofText text = .ok p ↔ Describes v p := by
  rw [ofText_eq_ok_iff]
  exact ⟨fun ⟨_, h', describes⟩ => h.unique h' ▸ describes, fun describes => ⟨v, h, describes⟩⟩

theorem eq_word_of_mem {key : String} {given : Option UInt64} (once : valuesAt key ms = (given.map word).toList)
    (w : UInt64) (h : (some key, v) ∈ ms) : v = word (given.getD w) := by
  have here : v ∈ valuesAt key ms := List.mem_map.mpr ⟨_, List.mem_filter.mpr ⟨h, by simp⟩, rfl⟩
  rw [once] at here
  cases given with
  | none => cases here
  | some w' => exact List.mem_singleton.mp here

theorem eq_word_of_getElem? {words : List UInt64} {i : ℕ} (w : UInt64) (h : (words.map word)[i]? = some v) :
    v = word (words[i]?.getD w) := by
  rw [List.getElem?_map, Option.map_eq_some_iff] at h
  obtain ⟨w', there, rfl⟩ := h
  rw [there, Option.getD_some]

/-- The members that the reader does not pass over. -/
def known (members : List (Option String × Value)) : List (Option String × Value) :=
  members.filter fun m => m.1 = some "minimum" ∨ m.1 = some "factor"

theorem valuesAt_known {key : String} (h : key = "minimum" ∨ key = "factor") (ms : List (Option String × Value)) :
    valuesAt key (known ms) = valuesAt key ms := by
  rw [valuesAt, known, List.filter_filter, valuesAt]
  refine congrArg _ (List.filter_congr fun m _ => ?_)
  by_cases same : m.1 = some key
  · simp [same, h]
  · simp [same]

theorem valuesAt_of_perm {key : String} {given : Option UInt64} (h : key = "minimum" ∨ key = "factor")
    (same : (known ms).Perm (known ms')) (once : valuesAt key ms = (given.map word).toList) :
    valuesAt key ms' = (given.map word).toList := by
  have perm : (valuesAt key ms).Perm (valuesAt key ms') := by
    rw [← valuesAt_known h ms, ← valuesAt_known h ms']
    exact (same.filter _).map _
  rw [once] at perm
  cases given with
  | none => exact perm.nil_eq.symm
  | some w => exact List.perm_singleton.mp perm.symm

theorem Describes.of_perm (h : Describes (.object ms) p) (keys : ∀ m ∈ ms', m.1 ≠ none)
    (same : (known ms).Perm (known ms')) : Describes (.object ms') p := by
  cases h with
  | object _ first second =>
    exact .object keys (valuesAt_of_perm (.inl rfl) same first) (valuesAt_of_perm (.inr rfl) same second)

theorem describes_value (p : Doubling) : Describes p.toJson.value p := by
  have value : p.toJson.value = .object [(some "minimum", word p.minimum), (some "factor", word p.factor)] := by
    simp [toJson, Json.value, memberValues_eq_map, word]
  rw [value]
  exact @Describes.object _ (some p.minimum) (some p.factor) (by simp) (by simp [valuesAt]) (by simp [valuesAt])

/-- The texts of rules are those of the format. The order of members and unknown members make no difference, no number
is brought into range, and a rule that is written is read again. -/
theorem ofText_reads_its_format (text : String) (p : Doubling) :
    (ofText text = .ok p ↔ ∃ v, Stands text v ∧ Describes v p) ∧
    (∀ ms, Stands text (.object ms) → ofText text = .ok p → ∀ v,
      ((some "minimum", v) ∈ ms → v = word p.minimum) ∧ ((some "factor", v) ∈ ms → v = word p.factor)) ∧
    (∀ vs, Stands text (.array vs) → ofText text = .ok p → ∀ v,
      (vs[0]? = some v → v = word p.minimum) ∧ (vs[1]? = some v → v = word p.factor)) ∧
    (∀ text' ms ms', Stands text (.object ms) → Stands text' (.object ms') → (∀ m ∈ ms, m.1 ≠ none) →
      (∀ m ∈ ms', m.1 ≠ none) → (known ms).Perm (known ms') → (ofText text = .ok p ↔ ofText text' = .ok p)) ∧
    ofText p.toJson.compact = .ok p ∧ ofText p.toJson.pretty = .ok p := by
  refine ⟨ofText_eq_ok_iff, fun ms stands read v => ?_, fun vs stands read v => ?_,
    fun text' ms ms' stands stands' keys keys' same => ?_, ?_, ?_⟩
  · cases (ofText_of_stands stands).mp read with
    | object keys first second => exact ⟨eq_word_of_mem first 8, eq_word_of_mem second 2⟩
  · cases (ofText_of_stands stands).mp read with
    | array words short => exact ⟨eq_word_of_getElem? 8, eq_word_of_getElem? 2⟩
  · rw [ofText_of_stands stands, ofText_of_stands stands']
    exact ⟨fun h => h.of_perm keys' same, fun h => h.of_perm keys same.symm⟩
  · exact (ofText_of_stands ((stands_compact_iff _ _).mpr rfl)).mpr p.describes_value
  · exact (ofText_of_stands ((stands_pretty_iff _ _).mpr rfl)).mpr p.describes_value

/-- A rule with its members in another order and one more, and a list that is shorter than it may be. -/
theorem members_in_another_order :
    ofText (Json.object [("factor", .number 3), ("other", .array [.null]), ("minimum", .number 5)]).compact =
      .ok ⟨5, 3⟩ ∧
    Value.natural 5 = word (Doubling.mk 5 3).minimum ∧ Value.natural 3 = word (Doubling.mk 5 3).factor ∧
    ofText (Json.array [.number 5]).compact = .ok ⟨5, 2⟩ ∧ Value.natural 5 = word (Doubling.mk 5 2).minimum := by
  have object : Stands (Json.object [("factor", .number 3), ("other", .array [.null]), ("minimum", .number 5)]).compact
      (.object [(some "factor", .natural 3), (some "other", .array [.null]), (some "minimum", .natural 5)]) :=
    (stands_compact_iff _ _).mpr (by simp [Json.value, memberValues, itemValues])
  have plain : Stands (toJson ⟨5, 3⟩).compact (.object [(some "minimum", .natural 5), (some "factor", .natural 3)]) :=
    (stands_compact_iff _ _).mpr (by simp [Json.value, memberValues, toJson])
  have list : Stands (Json.array [.number 5]).compact (.array [.natural 5]) :=
    (stands_compact_iff _ _).mpr (by simp [Json.value, itemValues])
  obtain ⟨-, fields, -, order, -⟩ := ofText_reads_its_format _ ⟨5, 3⟩
  have written : ofText (toJson ⟨5, 3⟩).compact = .ok ⟨5, 3⟩ := (ofText_reads_its_format "" ⟨5, 3⟩).2.2.2.2.1
  have read := (order _ _ _ object plain (by simp) (by simp) (by simpa [known] using List.Perm.swap _ _ _)).mpr written
  obtain ⟨accepted, -, items, -⟩ := ofText_reads_its_format _ ⟨5, 2⟩
  have short := accepted.mpr ⟨_, list, Describes.array [5] (by simp)⟩
  exact ⟨read, (fields _ object read _).1 (by simp), (fields _ object read _).2 (by simp), short,
    (items _ list short _).1 rfl⟩

end BytecodeStore.Doubling
