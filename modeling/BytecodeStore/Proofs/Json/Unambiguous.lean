import BytecodeStore.Proofs.Json.Skipping

/-! # A text stands for one value

Numbers are the only values with no mark at their end: a number with its last digits left out is a number again. So two
readings of one text are compared where no number goes on behind them.
-/
namespace BytecodeStore.Json
variable {s r t t' : List Char} {v v' : Value}

theorem Blanks.unique (h : Blanks s r) (h' : Blanks s t) (start : skipBlanks r = r) (start' : skipBlanks t = t) :
    r = t := by
  rw [← start, ← start', ← h.skipBlanks_eq, h'.skipBlanks_eq]

theorem Hex4.unique {n n' : ℕ} (h : Hex4 s n t) (h' : Hex4 s n' t') : n = n' ∧ t = t' :=
  (gives_readHex4_iff.mpr h).unique (gives_readHex4_iff.mpr h')

theorem Content.unique {ps ps' : List Piece} (h : Content s ps t) (h' : Content s ps' t') : ps = ps' ∧ t = t' := by
  induction h generalizing ps' with
  | done =>
    cases h' with
    | done => exact ⟨rfl, rfl⟩
    | plain quote => exact absurd rfl quote
  | plain quote backslash _ _ ih =>
    cases h' with
    | done => exact absurd rfl quote
    | plain _ _ _ rest' =>
      obtain ⟨rfl, rfl⟩ := ih rest'
      exact ⟨rfl, rfl⟩
    | letter => exact absurd rfl backslash
    | code => exact absurd rfl backslash
  | letter escape _ ih =>
    cases h' with
    | plain _ backslash => exact absurd rfl backslash
    | letter escape' rest' =>
      obtain ⟨rfl, rfl⟩ := ih rest'
      rw [← unescape?_eq_some_iff] at escape escape'
      obtain rfl := Option.some.inj (escape.symm.trans escape')
      exact ⟨rfl, rfl⟩
    | code => cases unescape?_eq_some_iff.mpr escape
  | code digits _ ih =>
    cases h' with
    | plain _ backslash => exact absurd rfl backslash
    | letter escape => cases unescape?_eq_some_iff.mpr escape
    | code digits' rest' =>
      obtain ⟨rfl, rfl⟩ := digits.unique digits'
      obtain ⟨rfl, rfl⟩ := ih rest'
      exact ⟨rfl, rfl⟩

theorem Key.unique {key key' : Option String} (h : Key s key t) (h' : Key s key' t') : key = key' ∧ t = t' := by
  obtain ⟨before, content, behind⟩ := h
  obtain ⟨before', content', behind'⟩ := h'
  obtain ⟨-, rfl⟩ := List.cons_eq_cons.mp (before.unique before' rfl rfl)
  obtain ⟨rfl, rfl⟩ := content.unique content'
  obtain ⟨-, rfl⟩ := List.cons_eq_cons.mp (behind.unique behind' rfl rfl)
  exact ⟨rfl, rfl⟩

theorem Number.unique {token token' : NumberToken} (h : Number s token t) (h' : Number s token' t') (stops : Stops t)
    (stops' : Stops t') : token = token' ∧ t = t' :=
  (h.read (e := .malformed) stops).unique (h'.read stops')

theorem Number.isDigit {c : Char} {token : NumberToken} (h : Number (c :: s) token t) : c.isDigit = true := by
  obtain ⟨c, r, start, digit⟩ := h.exists_cons
  cases start
  exact digit

theorem Denotes.skipBlanks_eq (h : Denotes s v t) : skipBlanks s = s := by
  obtain ⟨c, r, rfl, blank, -⟩ := h.exists_cons
  exact List.dropWhile_cons_of_neg (Bool.eq_false_iff.mp blank)

theorem not_items_of_bracket {vs : List Value} (bracket : Blanks s (']' :: t)) : ¬ Items s vs t' := by
  intro items
  obtain ⟨c, r, blanks, blank, open'⟩ := items.exists_cons
  obtain ⟨rfl, -⟩ := List.cons_eq_cons.mp
    (bracket.unique blanks rfl (List.dropWhile_cons_of_neg (Bool.eq_false_iff.mp blank)))
  exact absurd rfl open'

theorem not_members_of_brace {ms : List (Option String × Value)} (brace : Blanks s ('\x7d' :: t)) :
    ¬ Members s ms t' := by
  intro members
  obtain ⟨r, blanks⟩ := members.exists_cons
  cases brace.unique blanks rfl rfl

theorem skipBlanks_mark {c : Char} (mark : c ∈ marks) (t : List Char) : skipBlanks (c :: t) = c :: t := by
  simp only [marks, List.mem_cons, List.not_mem_nil, or_false] at mark
  rcases mark with rfl | rfl | rfl <;> rfl

/-- Two readings of an item with its mark are one if those of its value are. -/
theorem item_unique {r' q q' : List Char} {c c' : Char} (value : Denotes r v q) (value' : Denotes r' v' q')
    (unique : Denotes r v' q' → Stops q' → v = v' ∧ q = q') (before : Blanks s r) (before' : Blanks s r')
    (behind : Blanks q (c :: t)) (behind' : Blanks q' (c' :: t')) (mark : c ∈ marks) (mark' : c' ∈ marks) :
    v = v' ∧ c = c' ∧ t = t' := by
  obtain rfl := before.unique before' value.skipBlanks_eq value'.skipBlanks_eq
  obtain ⟨rfl, rfl⟩ := unique value' (behind'.stops_mark mark')
  exact ⟨rfl, List.cons_eq_cons.mp (behind.unique behind' (skipBlanks_mark mark t) (skipBlanks_mark mark' t'))⟩

mutual

theorem Denotes.unique {s t t' : List Char} {v v' : Value} (h : Denotes s v t) (h' : Denotes s v' t') (stops : Stops t)
    (stops' : Stops t') : v = v' ∧ t = t' :=
  match h with
  | .null _ => by
    cases h' with
    | null => exact ⟨rfl, rfl⟩
    | positive numeral => cases numeral.isDigit
  | .yes _ => by
    cases h' with
    | yes => exact ⟨rfl, rfl⟩
    | positive numeral => cases numeral.isDigit
  | .no _ => by
    cases h' with
    | no => exact ⟨rfl, rfl⟩
    | positive numeral => cases numeral.isDigit
  | .positive numeral => by
    cases h' with
    | positive numeral' =>
      obtain ⟨rfl, rfl⟩ := numeral.unique numeral' stops stops'
      exact ⟨rfl, rfl⟩
    | _ => cases numeral.isDigit
  | .negative numeral => by
    cases h' with
    | positive numeral' => cases numeral'.isDigit
    | negative numeral' =>
      obtain ⟨rfl, rfl⟩ := numeral.unique numeral' stops stops'
      exact ⟨rfl, rfl⟩
  | .string content => by
    cases h' with
    | positive numeral => cases numeral.isDigit
    | string content' =>
      obtain ⟨rfl, rfl⟩ := content.unique content'
      exact ⟨rfl, rfl⟩
  | .emptyArray bracket => by
    cases h' with
    | positive numeral => cases numeral.isDigit
    | emptyArray bracket' =>
      obtain ⟨-, rfl⟩ := List.cons_eq_cons.mp (bracket.unique bracket' rfl rfl)
      exact ⟨rfl, rfl⟩
    | array items' => exact absurd items' (not_items_of_bracket bracket)
  | .array items => by
    cases h' with
    | positive numeral => cases numeral.isDigit
    | emptyArray bracket' => exact absurd items (not_items_of_bracket bracket')
    | array items' =>
      obtain ⟨rfl, rfl⟩ := items.unique items'
      exact ⟨rfl, rfl⟩
  | .emptyObject brace => by
    cases h' with
    | positive numeral => cases numeral.isDigit
    | emptyObject brace' =>
      obtain ⟨-, rfl⟩ := List.cons_eq_cons.mp (brace.unique brace' rfl rfl)
      exact ⟨rfl, rfl⟩
    | object members' => exact absurd members' (not_members_of_brace brace)
  | .object members => by
    cases h' with
    | positive numeral => cases numeral.isDigit
    | emptyObject brace' => exact absurd members (not_members_of_brace brace')
    | object members' =>
      obtain ⟨rfl, rfl⟩ := members.unique members'
      exact ⟨rfl, rfl⟩

theorem Items.unique {s t t' : List Char} {vs vs' : List Value} (h : Items s vs t) (h' : Items s vs' t') :
    vs = vs' ∧ t = t' :=
  match h with
  | .last before value behind => by
    have stops := behind.stops_mark (by decide)
    cases h' with
    | last before' value' behind' =>
      obtain ⟨rfl, -, rfl⟩ := item_unique value value' (value.unique · stops) before before' behind behind'
        (by decide) (by decide)
      exact ⟨rfl, rfl⟩
    | more before' value' behind' =>
      obtain ⟨-, ⟨⟩, -⟩ := item_unique value value' (value.unique · stops) before before' behind behind'
        (by decide) (by decide)
  | .more before value behind rest => by
    have stops := behind.stops_mark (by decide)
    cases h' with
    | last before' value' behind' =>
      obtain ⟨-, ⟨⟩, -⟩ := item_unique value value' (value.unique · stops) before before' behind behind'
        (by decide) (by decide)
    | more before' value' behind' rest' =>
      obtain ⟨rfl, -, rfl⟩ := item_unique value value' (value.unique · stops) before before' behind behind'
        (by decide) (by decide)
      obtain ⟨rfl, rfl⟩ := rest.unique rest'
      exact ⟨rfl, rfl⟩

theorem Members.unique {s t t' : List Char} {ms ms' : List (Option String × Value)} (h : Members s ms t)
    (h' : Members s ms' t') : ms = ms' ∧ t = t' :=
  match h with
  | .last name before value behind => by
    have stops := behind.stops_mark (by decide)
    cases h' with
    | last name' before' value' behind' =>
      obtain ⟨rfl, rfl⟩ := name.unique name'
      obtain ⟨rfl, -, rfl⟩ := item_unique value value' (value.unique · stops) before before' behind behind'
        (by decide) (by decide)
      exact ⟨rfl, rfl⟩
    | more name' before' value' behind' =>
      obtain ⟨-, rfl⟩ := name.unique name'
      obtain ⟨-, ⟨⟩, -⟩ := item_unique value value' (value.unique · stops) before before' behind behind'
        (by decide) (by decide)
  | .more name before value behind rest => by
    have stops := behind.stops_mark (by decide)
    cases h' with
    | last name' before' value' behind' =>
      obtain ⟨-, rfl⟩ := name.unique name'
      obtain ⟨-, ⟨⟩, -⟩ := item_unique value value' (value.unique · stops) before before' behind behind'
        (by decide) (by decide)
    | more name' before' value' behind' rest' =>
      obtain ⟨rfl, rfl⟩ := name.unique name'
      obtain ⟨rfl, -, rfl⟩ := item_unique value value' (value.unique · stops) before before' behind behind'
        (by decide) (by decide)
      obtain ⟨rfl, rfl⟩ := rest.unique rest'
      exact ⟨rfl, rfl⟩

end

/-- A text stands for one value at most. -/
theorem Stands.unique {text : String} (h : Stands text v) (h' : Stands text v') : v = v' := by
  obtain ⟨s, t, before, value, behind⟩ := h
  obtain ⟨s', t', before', value', behind'⟩ := h'
  obtain rfl := before.unique before' value.skipBlanks_eq value'.skipBlanks_eq
  exact (value.unique value' (behind.stops stops_nil) (behind'.stops stops_nil)).1

end BytecodeStore.Json
