import BytecodeStore.Json.Value
import BytecodeStore.Proofs.Json.Unambiguous
import Mathlib.Data.List.Forall2

/-! # What is written can be read

A layout puts blanks between the tokens of a text, and nothing else. So the text of a value stands for the value in
every layout, whatever characters its strings have and however large its numbers are.
-/
namespace BytecodeStore.Json
variable {s r t : List Char} {ps : List Piece} {cs : List Char}

mutual

/-- What a written text has to stand for. -/
def value : Json → Value
  | .null => .null
  | .bool b => .bool b
  | .number n => .natural n
  | .string s => .string (some s)
  | .array items => .array (itemValues items)
  | .object members => .object (memberValues members)

def itemValues : List Json → List Value
  | [] => []
  | item :: rest => value item :: itemValues rest

def memberValues : List (String × Json) → List (Option String × Value)
  | [] => []
  | (key, item) :: rest => (some key, value item) :: memberValues rest

end

theorem itemValues_eq_map (items : List Json) : itemValues items = items.map value := by
  induction items with
  | nil => rfl
  | cons item rest ih => rw [itemValues, ih, List.map_cons]

theorem memberValues_eq_map (members : List (String × Json)) :
    memberValues members = members.map fun m => (some m.1, m.2.value) := by
  induction members with
  | nil => rfl
  | cons member rest ih => rw [memberValues, ih, List.map_cons]

/-! ## Numbers -/

theorem Digits.concat {c : Char} {ds : List ℕ} (h : Digits s ds (c :: t)) (digit : c.isDigit = true) :
    Digits s (ds ++ [c.toNat - '0'.toNat]) t := by
  generalize behind : c :: t = r at h
  induction h with
  | one first =>
    subst behind
    exact .more first (.one digit t)
  | more first _ ih => exact .more first (ih behind)

theorem Digits.ne_nil {ds : List ℕ} (h : Digits s ds t) : ds ≠ [] := by
  cases h <;> exact List.cons_ne_nil _ _

/-- The decimal digits of a number are read as the number, and a zero stands in front of none. -/
theorem exists_digits_toDigits (n : ℕ) (t : List Char) :
    ∃ ds, Digits (Nat.toDigits 10 n ++ t) ds t ∧ digitsValue ds = n ∧ (ds.head? = some 0 → ds = [0]) := by
  induction n using Nat.strongRecOn generalizing t with
  | ind n ih =>
    have digit (d : ℕ) (small : d < 10) : (Nat.digitChar d).isDigit = true ∧ (Nat.digitChar d).toNat - '0'.toNat = d :=
      ⟨by simp [Nat.isDigit_digitChar, small], Nat.toNat_digitChar_sub_48_of_lt_ten small⟩
    by_cases small : n < 10
    · refine ⟨[n], ?_, by simp [digitsValue], by simp⟩
      have one := Digits.one (digit n small).1 t
      rw [(digit n small).2] at one
      rwa [Nat.toDigits_of_lt_base small]
    · have last := digit (n % 10) (Nat.mod_lt n (by decide))
      obtain ⟨ds, digits, value, leading⟩ := ih (n / 10) (by omega) (Nat.digitChar (n % 10) :: t)
      refine ⟨ds ++ [n % 10], ?_, ?_, fun zero => ?_⟩
      · rw [Nat.toDigits_of_base_le (by decide) (by omega), List.append_assoc]
        have more := digits.concat last.1
        rwa [last.2] at more
      · rw [digitsValue, List.foldl_append, ← digitsValue, value]
        simp only [List.foldl_cons, List.foldl_nil]
        omega
      · exfalso
        cases ds with
        | nil => exact digits.ne_nil rfl
        | cons d ds =>
          rw [leading zero, digitsValue, List.foldl_cons, List.foldl_nil] at value
          omega

theorem denotes_toString (n : ℕ) (t : List Char) : Denotes ((toString n).toList ++ t) (.natural n) t := by
  obtain ⟨ds, digits, value, leading⟩ := exists_digits_toDigits n t
  rw [Nat.toString_eq_ofList_toDigits, String.toList_ofList]
  have number : Number (Nat.toDigits 10 n ++ t) ⟨ds, [], none⟩ t := ⟨⟨t, t, digits, .absent t, .absent t⟩, leading⟩
  exact value ▸ Denotes.positive number

/-! ## Strings -/

theorem digit?_hexDigit (n : ℕ) : Hex.digit? (hexDigit n) = some (n % 16) := by
  have digit : ∀ n < 16, Hex.digit? (Nat.digitChar n) = some n := by decide
  exact digit _ (Nat.mod_lt n (by decide))

theorem hex4_control {c : Char} (control : c.toNat < 0x20) (t : List Char) :
    Hex4 ('0' :: '0' :: hexDigit (c.toNat / 16) :: hexDigit c.toNat :: t) c.toNat t := by
  have zero : Hex.digit? '0' = some 0 := by decide
  have digits := Hex4.mk zero zero (digit?_hexDigit (c.toNat / 16)) (digit?_hexDigit c.toNat) t
  have value : ((0 * 16 + 0) * 16 + c.toNat / 16 % 16) * 16 + c.toNat % 16 = c.toNat := by omega
  rwa [value] at digits

/-- A character is escaped so that the escape stands for it. -/
theorem exists_content_escape (c : Char) (content : Content r ps t) (text : joined ps = some cs) :
    ∃ ps', Content (escape c ++ r) ps' t ∧ joined ps' = some (c :: cs) := by
  have char : joined (.char c :: ps) = some (c :: cs) := by rw [joined, text, Option.map_some]
  unfold escape
  split
  case h_8 quote backslash _ _ _ _ _ =>
    split
    · rename_i control
      refine ⟨_, .code (hex4_control control r) content, ?_⟩
      have trailing : ¬ isTrailingSurrogate c.toNat = true := by
        simp only [isTrailingSurrogate, Bool.and_eq_true, decide_eq_true_eq]
        omega
      have leading : ¬ isLeadingSurrogate c.toNat = true := by
        simp only [isLeadingSurrogate, Bool.and_eq_true, decide_eq_true_eq]
        omega
      rw [joined_code trailing leading text, Char.ofNat_toNat]
    · rename_i control
      exact ⟨_, .plain (fun h => quote h) (fun h => backslash h) (Nat.le_of_not_lt control) content, char⟩
  all_goals exact ⟨_, .letter (by decide) content, char⟩

theorem exists_content_escaped (cs t : List Char) :
    ∃ ps, Content (cs.flatMap escape ++ '"' :: t) ps t ∧ joined ps = some cs := by
  induction cs with
  | nil => exact ⟨[], .done t, rfl⟩
  | cons c cs ih =>
    obtain ⟨ps, content, text⟩ := ih
    rw [List.flatMap_cons, List.append_assoc]
    exact exists_content_escape c content text

theorem exists_content_quote (text : String) (t : List Char) :
    ∃ s ps, (quote text).toList ++ t = '"' :: s ∧ Content s ps t ∧ textOf ps = some text := by
  obtain ⟨ps, content, chars⟩ := exists_content_escaped text.toList t
  refine ⟨_, ps, ?_, content, by rw [textOf, chars, Option.map_some, String.ofList_toList]⟩
  simp [quote]

/-! ## Layouts -/

/-- Whatever the layout puts between two tokens is blank. -/
structure Layout.Blank (layout : Layout) : Prop where
  newline (depth : ℕ) (t : List Char) : Blanks ((layout.newline depth).toList ++ t) t
  colon : ∃ gap, layout.colon.toList = ':' :: gap ∧ ∀ t, Blanks (gap ++ t) t

theorem Layout.Blank.compact : Layout.compact.Blank where
  newline _ t := .absent t
  colon := ⟨[], rfl, fun t => .absent t⟩

theorem blanks_replicate (n : ℕ) (t : List Char) : Blanks (List.replicate n ' ' ++ t) t := by
  induction n with
  | zero => exact .absent t
  | succ n ih => exact .more (by decide) ih

theorem Layout.Blank.pretty : Layout.pretty.Blank where
  newline depth t := by
    have line : (Layout.pretty.newline depth).toList = '\n' :: List.replicate (2 * depth) ' ' := by
      simp [Layout.pretty]
    rw [line]
    exact .more (by decide) (blanks_replicate _ t)
  colon := ⟨[' '], rfl, fun t => .more (by decide) (.absent t)⟩

/-! ## Values -/

/-- The text is read as the value, whatever follows. -/
def Reads (text : String) (v : Value) : Prop := ∀ t, Denotes (text.toList ++ t) v t

/-- The text is read as the member, whatever follows. -/
def ReadsMember (text : String) (m : Option String × Value) : Prop :=
  ∀ s t, Blanks s (text.toList ++ t) → ∃ o r, Key s m.1 o ∧ Blanks o r ∧ Denotes r m.2 t

variable {layout : Layout} {texts : List String} {text : String}

theorem items_enclosed {v : Value} {vs : List Value} (blank : layout.Blank) (depth : ℕ) (first : Reads text v)
    (rest : List.Forall₂ Reads texts vs) (blanks : Blanks s (text.toList ++
      ((String.join (texts.map fun item => "," ++ layout.newline (depth + 1) ++ item)).toList ++
        ((layout.newline depth).toList ++ ']' :: t)))) :
    Items s (v :: vs) t := by
  induction rest generalizing s text v with
  | nil => exact .last blanks (first _) (blank.newline depth _)
  | cons next _ ih =>
    refine .more blanks (first _) ?_ (ih next (blank.newline (depth + 1) _))
    simp only [List.map_cons, String.join_cons, String.toList_append, List.append_assoc]
    exact .absent _

theorem members_enclosed {m : Option String × Value} {ms : List (Option String × Value)} (blank : layout.Blank)
    (depth : ℕ) (first : ReadsMember text m) (rest : List.Forall₂ ReadsMember texts ms)
    (blanks : Blanks s (text.toList ++
      ((String.join (texts.map fun item => "," ++ layout.newline (depth + 1) ++ item)).toList ++
        ((layout.newline depth).toList ++ '\x7d' :: t)))) :
    Members s (m :: ms) t := by
  induction rest generalizing s text m with
  | nil =>
    obtain ⟨o, r, key, between, value⟩ := first _ _ blanks
    exact .last key between value (blank.newline depth _)
  | cons next _ ih =>
    obtain ⟨o, r, key, between, value⟩ := first _ _ blanks
    refine .more key between value ?_ (ih next (blank.newline (depth + 1) _))
    simp only [List.map_cons, String.join_cons, String.toList_append, List.append_assoc]
    exact .absent _

theorem reads_array {vs : List Value} (blank : layout.Blank) (depth : ℕ) (items : List.Forall₂ Reads texts vs) :
    Reads (enclose layout depth "[" "]" texts) (.array vs) := by
  intro t
  cases items with
  | nil => simpa [enclose] using Denotes.emptyArray (.absent (']' :: t))
  | cons first rest =>
    have items := items_enclosed (t := t) blank depth first rest (blank.newline (depth + 1) _)
    simpa [enclose] using Denotes.array items

theorem reads_object {ms : List (Option String × Value)} (blank : layout.Blank) (depth : ℕ)
    (members : List.Forall₂ ReadsMember texts ms) : Reads (enclose layout depth "\x7b" "\x7d" texts) (.object ms) := by
  intro t
  cases members with
  | nil => simpa [enclose] using Denotes.emptyObject (.absent ('\x7d' :: t))
  | cons first rest =>
    have members := members_enclosed (t := t) blank depth first rest (blank.newline (depth + 1) _)
    simpa [enclose] using Denotes.object members

theorem readsMember {key : String} {v : Value} (blank : layout.Blank) (value : Reads text v) :
    ReadsMember (quote key ++ layout.colon ++ text) (some key, v) := by
  intro s t blanks
  obtain ⟨gap, colon, between⟩ := blank.colon
  obtain ⟨r, ps, quoted, content, chars⟩ := exists_content_quote key (':' :: (gap ++ (text.toList ++ t)))
  simp only [String.toList_append, List.append_assoc, colon, List.cons_append, quoted] at blanks
  exact ⟨_, _, chars ▸ .mk blanks content (.absent _), between _, value t⟩

mutual

theorem reads_write (blank : layout.Blank) (depth : ℕ) (j : Json) : Reads (write layout depth j) j.value :=
  match j with
  | .null => fun t => by simpa [write, value] using Denotes.null t
  | .bool true => fun t => by simpa [write, value] using Denotes.yes t
  | .bool false => fun t => by simpa [write, value] using Denotes.no t
  | .number n => denotes_toString n
  | .string text => fun t => by
    obtain ⟨s, ps, quoted, content, chars⟩ := exists_content_quote text t
    rw [write, quoted, value, ← chars]
    exact .string content
  | .array items => reads_array blank depth (reads_writeItems blank (depth + 1) items)
  | .object members => reads_object blank depth (reads_writeMembers blank (depth + 1) members)

theorem reads_writeItems (blank : layout.Blank) (depth : ℕ) (items : List Json) :
    List.Forall₂ Reads (writeItems layout depth items) (itemValues items) :=
  match items with
  | [] => .nil
  | item :: rest => .cons (reads_write blank depth item) (reads_writeItems blank depth rest)

theorem reads_writeMembers (blank : layout.Blank) (depth : ℕ) (members : List (String × Json)) :
    List.Forall₂ ReadsMember (writeMembers layout depth members) (memberValues members) :=
  match members with
  | [] => .nil
  | (_, item) :: rest => .cons (readsMember blank (reads_write blank depth item)) (reads_writeMembers blank depth rest)

end

theorem stands_write (blank : layout.Blank) (depth : ℕ) (j : Json) : Stands (write layout depth j) j.value := by
  have value := reads_write blank depth j []
  rw [List.append_nil] at value
  exact ⟨_, [], .absent _, value, .absent _⟩

/-- The text of a value stands for the value and for no other. -/
theorem stands_compact_iff (j : Json) (v : Value) : Stands j.compact v ↔ v = j.value :=
  ⟨fun h => h.unique (stands_write .compact 0 j), fun h => h ▸ stands_write .compact 0 j⟩

theorem stands_pretty_iff (j : Json) (v : Value) : Stands j.pretty v ↔ v = j.value :=
  ⟨fun h => h.unique (stands_write .pretty 0 j), fun h => h ▸ stands_write .pretty 0 j⟩

end BytecodeStore.Json
