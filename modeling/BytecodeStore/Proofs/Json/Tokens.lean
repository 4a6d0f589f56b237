import BytecodeStore.Json.Skip
import BytecodeStore.Proofs.Json.Grammar
import BytecodeStore.Proofs.Results

/-! # Readers of tokens

Each reader takes what the grammar has at the front of a text, and refuses a text at whose front there is nothing of its
kind. Digits are taken as far as they go. So a number is read whole where no character follows that could go on with it,
and that is so wherever the grammar ends a value.
-/
namespace BytecodeStore.Json
variable {α β : Type} {s r t : List Char} {c : Char} {e : ReadError}

/-! ## What a reader gives -/

/-- A reader gives `a` and leaves `t`. -/
def Gives (x : Read α s) (a : α) (t : List Char) : Prop := ∃ p, x = .ok p ∧ p.value = a ∧ p.rest = t

theorem Gives.unique {x : Read α s} {a b : α} (h : Gives x a r) (h' : Gives x b t) : a = b ∧ r = t := by
  obtain ⟨p, hp, rfl, rfl⟩ := h
  obtain ⟨q, hq, rfl, rfl⟩ := h'
  obtain rfl := Except.ok.inj (hp.symm.trans hq)
  exact ⟨rfl, rfl⟩

theorem Gives.eq_ok {x : Read α s} {a : α} (h : Gives x a t) : ∃ shorter, x = .ok ⟨a, t, shorter⟩ := by
  obtain ⟨p, hp, rfl, rfl⟩ := h
  exact ⟨p.shorter, hp⟩

@[simp] theorem gives_ok {p : Parsed α s} {a : α} : Gives (.ok p) a t ↔ p.value = a ∧ p.rest = t := by
  simp [Gives]

@[simp] theorem not_gives_error {a : α} : ¬ Gives (.error e : Read α s) a t := by
  simp [Gives]

theorem gives_bind {x : Except ReadError α} {f : α → Read β s} {b : β} :
    Gives (x >>= f) b t ↔ ∃ p, x = .ok p ∧ Gives (f p) b t := by
  cases x with
  | error e => exact iff_of_false not_gives_error nofun
  | ok p => exact ⟨fun h => ⟨p, rfl, h⟩, fun ⟨_, hp, h⟩ => Except.ok.inj hp ▸ h⟩

theorem gives_map {x : Except ReadError α} {f : α → Parsed β s} {b : β} :
    Gives (x.map f) b t ↔ ∃ p, x = .ok p ∧ (f p).value = b ∧ (f p).rest = t := by
  cases x with
  | error e => exact iff_of_false not_gives_error nofun
  | ok p => exact ⟨fun h => ⟨p, rfl, gives_ok.mp h⟩, fun ⟨_, hp, h⟩ => Except.ok.inj hp ▸ gives_ok.mpr h⟩

/-! ## Blanks and words -/

theorem isBlank_iff : isBlank c = true ↔ c ∈ [' ', '\n', '\t', '\r'] := by
  simp [isBlank, or_assoc]

theorem blanks_skipBlanks (s : List Char) : Blanks s (skipBlanks s) := by
  induction s with
  | nil => exact .absent _
  | cons c s ih =>
    by_cases blank : isBlank c = true
    · rw [skipBlanks, List.dropWhile_cons_of_pos blank]
      exact .more (isBlank_iff.mp blank) ih
    · rw [skipBlanks, List.dropWhile_cons_of_neg blank]
      exact .absent _

theorem Blanks.skipBlanks_eq (h : Blanks s t) : skipBlanks s = skipBlanks t := by
  induction h with
  | absent => rfl
  | more blank _ ih => rw [← ih, skipBlanks, List.dropWhile_cons_of_pos (isBlank_iff.mpr blank), skipBlanks]

theorem gives_readToken_iff : Gives (readToken s) c t ↔ Blanks s (c :: t) ∧ isBlank c = false := by
  constructor
  · rintro ⟨p, h, rfl, rfl⟩
    unfold readToken at h
    split at h
    · cases h
    · rename_i d rest skipped
      cases h
      have first := List.head?_dropWhile_not isBlank s
      rw [skipBlanks] at skipped
      rw [skipped] at first
      exact ⟨skipped ▸ blanks_skipBlanks s, first⟩
  · rintro ⟨blanks, char⟩
    have skipped : skipBlanks s = c :: t := by
      rw [blanks.skipBlanks_eq, skipBlanks, List.dropWhile_cons_of_neg (by simp [char])]
    unfold readToken
    split
    · rename_i nothing
      rw [skipped] at nothing
      cases nothing
    · rename_i d rest found
      rw [skipped] at found
      cases found
      exact gives_ok.mpr ⟨rfl, rfl⟩

theorem eq_append_of_readWord {w : List Char} {p : { r : List Char // r.length ≤ s.length }}
    (h : readWord w s = .ok p) : s = w ++ p.1 := by
  induction w generalizing s with
  | nil =>
    cases h
    rfl
  | cons c w ih =>
    cases s with
    | nil => cases h
    | cons d s =>
      rw [readWord] at h
      split at h
      · rename_i same
        cases found : readWord w s with
        | error e =>
          rw [found] at h
          cases h
        | ok q =>
          rw [found] at h
          cases h
          exact List.cons_eq_cons.mpr ⟨same, ih found⟩
      · cases h

theorem readWord_append (w t : List Char) : ∃ h, readWord w (w ++ t) = .ok ⟨t, h⟩ := by
  induction w with
  | nil => exact ⟨Nat.le_refl _, rfl⟩
  | cons c w ih =>
    obtain ⟨h, found⟩ := ih
    rw [List.cons_append, readWord, if_pos rfl, found]
    exact ⟨_, rfl⟩

/-! ## Numbers -/

theorem Digits.startsWithDigit {ds : List ℕ} (h : Digits s ds t) : startsWithDigit s = true := by
  cases h with
  | one digit => exact digit
  | more digit => exact digit

theorem Digits.maximal {ds : List ℕ} (h : Digits s ds t) (stops : Json.startsWithDigit t = false) :
    digitsOf s = ds ∧ afterDigits s = t := by
  have nothing : digitsOf t = [] ∧ afterDigits t = t := by
    cases t with
    | nil => exact ⟨rfl, rfl⟩
    | cons c t =>
      have : c.isDigit = false := stops
      simp [digitsOf, afterDigits, this]
  induction h with
  | one digit t => simpa [digitsOf, afterDigits, digit] using nothing
  | more digit _ ih => simpa [digitsOf, afterDigits, digit] using ih stops nothing

theorem digits_of_startsWithDigit (h : startsWithDigit s = true) : Digits s (digitsOf s) (afterDigits s) := by
  induction s with
  | nil => cases h
  | cons c s ih =>
    have digit : c.isDigit = true := h
    simp only [digitsOf, afterDigits, List.takeWhile_cons_of_pos digit, List.dropWhile_cons_of_pos digit, List.map_cons]
    cases next : startsWithDigit s with
    | true => exact .more digit (ih next)
    | false =>
      cases s with
      | nil => exact .one digit _
      | cons d s =>
        have : ¬ d.isDigit = true := Bool.eq_false_iff.mp next
        rw [List.takeWhile_cons_of_neg this, List.dropWhile_cons_of_neg this]
        exact .one digit _

theorem digits_of_readDigits {ds : List ℕ} (h : Gives (readDigits e s) ds t) : Digits s ds t := by
  unfold readDigits at h
  split at h
  · rename_i starts
    obtain ⟨rfl, rfl⟩ := gives_ok.mp h
    exact digits_of_startsWithDigit starts
  · split at h <;> exact absurd h not_gives_error

theorem Digits.read {ds : List ℕ} (h : Digits s ds t) (stops : Json.startsWithDigit t = false) :
    Gives (readDigits e s) ds t := by
  obtain ⟨value, rest⟩ := h.maximal stops
  rw [readDigits, dif_pos h.startsWithDigit]
  exact gives_ok.mpr ⟨value, rest⟩

/-- No number goes on with the text. -/
structure Stops (t : List Char) : Prop where
  digit : startsWithDigit t = false
  point : t.head? ≠ some '.'
  letter : ¬ (t.head? = some 'e' ∨ t.head? = some 'E')

theorem Exponent.before {exponent : Option (Bool × List ℕ)} (h : Exponent s exponent t) (stops : Stops t) :
    startsWithDigit s = false ∧ s.head? ≠ some '.' := by
  cases h with
  | absent => exact ⟨stops.digit, stops.point⟩
  | present letter => rcases letter with rfl | rfl <;> exact ⟨rfl, by simp⟩

theorem Fraction.before {ds : List ℕ} (h : Fraction s ds t) (digit : startsWithDigit t = false) :
    startsWithDigit s = false := by
  cases h with
  | absent => exact digit
  | present => rfl

variable {whole fraction ds : List ℕ} {negative : Bool} {exponent : Option (Bool × List ℕ)} {token : NumberToken}
  {shorter : r.length < s.length}

theorem fraction_of_withFraction (h : Gives (withFraction e ⟨⟨whole, [], none⟩, r, shorter⟩) token t) :
    ∃ fraction, token = ⟨whole, fraction, none⟩ ∧ Fraction r fraction t := by
  unfold withFraction at h
  split at h
  · rename_i point
    obtain ⟨q, hq, rfl, rfl⟩ := gives_map.mp h
    obtain ⟨r, rfl⟩ := List.head?_eq_some_iff.mp point
    exact ⟨_, rfl, .present (digits_of_readDigits ⟨q, hq, rfl, rfl⟩)⟩
  · obtain ⟨rfl, rfl⟩ := gives_ok.mp h
    exact ⟨_, rfl, .absent _⟩

theorem Fraction.read (h : Fraction r fraction t) (digit : startsWithDigit t = false) (point : t.head? ≠ some '.') :
    Gives (withFraction e ⟨⟨whole, [], none⟩, r, shorter⟩) ⟨whole, fraction, none⟩ t := by
  unfold withFraction
  cases h with
  | absent =>
    rw [if_neg point]
    exact gives_ok.mpr ⟨rfl, rfl⟩
  | present digits =>
    obtain ⟨q, hq, rfl, rfl⟩ := digits.read (e := e) digit
    split
    · exact gives_map.mpr ⟨q, hq, rfl, rfl⟩
    · exact absurd rfl ‹_›

theorem digits_of_readExponent (h : Gives (readExponent e s) (negative, ds) t) :
    ∃ r, Sign s negative r ∧ Digits r ds t := by
  unfold readExponent at h
  split at h
  · obtain ⟨q, hq, ⟨⟩, rfl⟩ := gives_map.mp h
    exact ⟨_, .plus _, digits_of_readDigits ⟨q, hq, rfl, rfl⟩⟩
  · obtain ⟨q, hq, ⟨⟩, rfl⟩ := gives_map.mp h
    exact ⟨_, .minus _, digits_of_readDigits ⟨q, hq, rfl, rfl⟩⟩
  · obtain ⟨q, hq, ⟨⟩, rfl⟩ := gives_map.mp h
    exact ⟨_, .absent _, digits_of_readDigits ⟨q, hq, rfl, rfl⟩⟩

theorem Sign.read (sign : Sign s negative r) (digits : Digits r ds t) (stops : startsWithDigit t = false) :
    Gives (readExponent e s) (negative, ds) t := by
  obtain ⟨q, hq, rfl, rfl⟩ := digits.read (e := e) stops
  cases sign with
  | plus => exact gives_map.mpr ⟨q, hq, rfl, rfl⟩
  | minus => exact gives_map.mpr ⟨q, hq, rfl, rfl⟩
  | absent =>
    have starts := digits.startsWithDigit
    unfold readExponent
    split
    · cases starts
    · cases starts
    · exact gives_map.mpr ⟨q, hq, rfl, rfl⟩

theorem exponent_of_withExponent (h : Gives (withExponent e ⟨⟨whole, fraction, none⟩, r, shorter⟩) token t) :
    ∃ exponent, token = ⟨whole, fraction, exponent⟩ ∧ Exponent r exponent t := by
  unfold withExponent at h
  split at h
  · rename_i letter
    obtain ⟨q, hq, rfl, rfl⟩ := gives_map.mp h
    obtain ⟨c, r, rfl⟩ : ∃ c tail, r = c :: tail := by
      cases r with
      | nil => simp at letter
      | cons c tail => exact ⟨c, tail, rfl⟩
    obtain ⟨o, sign, digits⟩ := digits_of_readExponent ⟨q, hq, rfl, rfl⟩
    exact ⟨_, rfl, .present (by simpa using letter) sign digits⟩
  · obtain ⟨rfl, rfl⟩ := gives_ok.mp h
    exact ⟨_, rfl, .absent _⟩

theorem Exponent.read (h : Exponent r exponent t) (stops : Stops t) :
    Gives (withExponent e ⟨⟨whole, fraction, none⟩, r, shorter⟩) ⟨whole, fraction, exponent⟩ t := by
  unfold withExponent
  cases h with
  | absent =>
    rw [if_neg stops.letter]
    exact gives_ok.mpr ⟨rfl, rfl⟩
  | present letter sign digits =>
    obtain ⟨q, hq, value, rfl⟩ := sign.read (e := e) digits stops.digit
    split
    · exact gives_map.mpr ⟨q, hq, by rw [← value]; rfl, rfl⟩
    · exact absurd (letter.imp (congrArg some) (congrArg some)) ‹_›

theorem number_of_readNumber (h : Gives (readNumber e s) token t) : Number s token t := by
  unfold readNumber at h
  obtain ⟨⟨whole, r, short⟩, hp, h⟩ := gives_bind.mp h
  split at h
  · exact absurd h not_gives_error
  · rename_i leading
    obtain ⟨⟨part, q, short'⟩, hq, h⟩ := gives_bind.mp h
    obtain ⟨fraction, rfl, hf⟩ := fraction_of_withFraction ⟨_, hq, rfl, rfl⟩
    obtain ⟨exponent, rfl, he⟩ := exponent_of_withExponent h
    have digits := digits_of_readDigits ⟨_, hp, rfl, rfl⟩
    refine ⟨⟨r, q, digits, hf, he⟩, fun zero => ?_⟩
    obtain ⟨_ | ⟨d, more⟩, rfl⟩ := List.head?_eq_some_iff.mp zero
    · rfl
    · exact absurd ⟨zero, by simp⟩ leading

theorem Number.read (h : Number s token t) (stops : Stops t) : Gives (readNumber e s) token t := by
  obtain ⟨whole, fraction, exponent⟩ := token
  obtain ⟨r, q, digits, hf, he⟩ := h.whole
  obtain ⟨digit, point⟩ := he.before stops
  obtain ⟨p, hp, rfl, rfl⟩ := digits.read (e := e) (hf.before digit)
  refine gives_bind.mpr ⟨p, hp, ?_⟩
  have leading : ¬ (p.value.head? = some 0 ∧ 1 < p.value.length) := by
    rintro ⟨zero, long⟩
    have alone : p.value = [0] := h.leading zero
    simp [alone] at long
  rw [if_neg leading]
  obtain ⟨⟨_, _, short⟩, hq, rfl, rfl⟩ : Gives (withFraction e ⟨⟨p.value, [], none⟩, p.rest, p.shorter⟩) _ _ :=
    hf.read digit point
  exact gives_bind.mpr ⟨_, hq, he.read stops⟩

/-! ## Strings -/

variable {n m : ℕ} {ps : List Piece} {cs : List Char}

theorem gives_readHex4_iff : Gives (readHex4 s) n t ↔ Hex4 s n t := by
  constructor
  · intro h
    unfold readHex4 at h
    split at h
    · split at h
      · rename_i ha hb hc hd
        obtain ⟨rfl, rfl⟩ := gives_ok.mp h
        exact .mk ha hb hc hd _
      · exact absurd h not_gives_error
    · split at h <;> exact absurd h not_gives_error
  · rintro ⟨ha, hb, hc, hd⟩
    simp only [readHex4, ha, hb, hc, hd]
    exact gives_ok.mpr ⟨rfl, rfl⟩

theorem gives_readTrailing_iff :
    Gives (readTrailing s) n t ↔ ∃ r, s = '\\' :: 'u' :: r ∧ Hex4 r n t ∧ isTrailingSurrogate n = true := by
  constructor
  · intro h
    unfold readTrailing at h
    split at h
    · exact absurd h not_gives_error
    · exact absurd h not_gives_error
    · obtain ⟨p, hp, h⟩ := gives_bind.mp h
      split at h
      · rename_i trailing
        obtain ⟨rfl, rfl⟩ := gives_ok.mp h
        exact ⟨_, rfl, gives_readHex4_iff.mp ⟨p, hp, rfl, rfl⟩, trailing⟩
      · exact absurd h not_gives_error
    · exact absurd h not_gives_error
  · rintro ⟨r, rfl, digits, trailing⟩
    obtain ⟨p, hp, rfl, rfl⟩ := gives_readHex4_iff.mpr digits
    refine gives_bind.mpr ⟨p, hp, ?_⟩
    rw [if_pos trailing]
    exact gives_ok.mpr ⟨rfl, rfl⟩

theorem unescape?_eq_some_iff {d : Char} : unescape? c = some d ↔ (c, d) ∈ escapes := by
  constructor
  · intro h
    unfold unescape? at h
    split at h
    case h_9 => cases h
    all_goals
      cases h
      decide
  · intro h
    simp only [escapes, List.mem_cons, Prod.mk.injEq, List.not_mem_nil, or_false] at h
    rcases h with ⟨rfl, rfl⟩ | ⟨rfl, rfl⟩ | ⟨rfl, rfl⟩ | ⟨rfl, rfl⟩ | ⟨rfl, rfl⟩ | ⟨rfl, rfl⟩ | ⟨rfl, rfl⟩ | ⟨rfl, rfl⟩
    all_goals rfl

theorem joined_code (trailing : ¬ isTrailingSurrogate n = true) (leading : ¬ isLeadingSurrogate n = true)
    (text : joined ps = some cs) : joined (.unit n :: ps) = some (Char.ofNat n :: cs) := by
  unfold joined
  rw [if_neg trailing, if_neg leading, text, Option.map_some]

theorem joined_pair (trailing : ¬ isTrailingSurrogate n = true) (leading : isLeadingSurrogate n = true)
    (trailing' : isTrailingSurrogate m = true) (text : joined ps = some cs) :
    joined (.unit n :: .unit m :: ps) = some (pairSurrogates n m :: cs) := by
  rw [joined, if_neg trailing, if_pos leading, if_pos trailing', text, Option.map_some]

/-- What an escape gives is the first character of the string. -/
theorem exists_content_of_readEscape (h : Gives (readEscape s) c r) (content : Content r ps t)
    (text : joined ps = some cs) : ∃ ps', Content ('\\' :: s) ps' t ∧ joined ps' = some (c :: cs) := by
  unfold readEscape at h
  split at h
  · exact absurd h not_gives_error
  · obtain ⟨p, hp, h⟩ := gives_bind.mp h
    have digits := gives_readHex4_iff.mp ⟨p, hp, rfl, rfl⟩
    split at h
    · exact absurd h not_gives_error
    rename_i trailing
    split at h
    · rename_i leading
      -- The pair stays a name here: its value is no help, and is large to compute.
      generalize joins : pairSurrogates p.value = pair at h
      obtain ⟨q, hq, h⟩ := gives_bind.mp h
      obtain ⟨o, hr, digits', trailing'⟩ := gives_readTrailing_iff.mp ⟨q, hq, rfl, rfl⟩
      obtain ⟨value, rfl⟩ := gives_ok.mp h
      obtain rfl : pair q.value = c := value
      subst joins
      exact ⟨_, .code (hr ▸ digits) (.code digits' content), joined_pair trailing leading trailing' text⟩
    · rename_i leading
      obtain ⟨rfl, rfl⟩ := gives_ok.mp h
      exact ⟨_, .code digits content, joined_code trailing leading text⟩
  · split at h
    · rename_i escape
      obtain ⟨rfl, rfl⟩ := gives_ok.mp h
      exact ⟨_, .letter (unescape?_eq_some_iff.mp escape) content, by rw [joined, text]; rfl⟩
    · exact absurd h not_gives_error

theorem exists_content_of_readString (h : Gives (readString s) cs t) :
    ∃ ps, Content s ps t ∧ joined ps = some cs := by
  fun_induction readString s generalizing cs with
  | case1 => exact absurd h not_gives_error
  | case2 =>
    obtain ⟨rfl, rfl⟩ := gives_ok.mp h
    exact ⟨[], .done _, rfl⟩
  | case3 rest ih =>
    obtain ⟨p, hp, h⟩ := gives_bind.mp h
    obtain ⟨q, hq, h⟩ := gives_bind.mp h
    obtain ⟨rfl, rfl⟩ := gives_ok.mp h
    obtain ⟨ps, content, text⟩ := ih p ⟨q, hq, rfl, rfl⟩
    exact exists_content_of_readEscape ⟨p, hp, rfl, rfl⟩ content text
  | case4 => exact absurd h not_gives_error
  | case5 c rest quote backslash control ih =>
    obtain ⟨q, hq, rfl, rfl⟩ := gives_map.mp h
    obtain ⟨ps, content, text⟩ := ih ⟨q, hq, rfl, rfl⟩
    refine ⟨_, .plain (fun h => quote h) (fun h => backslash h) (Nat.le_of_not_lt control) content, ?_⟩
    rw [joined, text]
    rfl

/-- A string is read one escape or one character at a time. -/
theorem read_escape (escape : Gives (readEscape s) c r) (h : Gives (readString r) cs t) :
    Gives (readString ('\\' :: s)) (c :: cs) t := by
  obtain ⟨p, hp, rfl, rfl⟩ := escape
  obtain ⟨q, hq, rfl, rfl⟩ := h
  rw [readString]
  exact gives_bind.mpr ⟨p, hp, gives_bind.mpr ⟨q, hq, gives_ok.mpr ⟨rfl, rfl⟩⟩⟩

theorem read_code (digits : Hex4 s n r) (trailing : ¬ isTrailingSurrogate n = true)
    (leading : ¬ isLeadingSurrogate n = true) : Gives (readEscape ('u' :: s)) (Char.ofNat n) r := by
  obtain ⟨p, hp, rfl, rfl⟩ := gives_readHex4_iff.mpr digits
  refine gives_bind.mpr ⟨p, hp, ?_⟩
  rw [if_neg trailing, if_neg leading]
  exact gives_ok.mpr ⟨rfl, rfl⟩

theorem read_pair (digits : Hex4 s n ('\\' :: 'u' :: r)) (digits' : Hex4 r m t)
    (trailing : ¬ isTrailingSurrogate n = true) (leading : isLeadingSurrogate n = true)
    (trailing' : isTrailingSurrogate m = true) : Gives (readEscape ('u' :: s)) (pairSurrogates n m) t := by
  obtain ⟨p, hp, rfl, rest⟩ := gives_readHex4_iff.mpr digits
  refine gives_bind.mpr ⟨p, hp, ?_⟩
  rw [if_neg trailing, if_pos leading]
  obtain ⟨q, hq, rfl, rfl⟩ := gives_readTrailing_iff.mpr ⟨r, rest, digits', trailing'⟩
  generalize pairSurrogates p.value = pair
  exact gives_bind.mpr ⟨q, hq, gives_ok.mpr ⟨rfl, rfl⟩⟩

theorem read_plain (quote : c ≠ '"') (backslash : c ≠ '\\') (control : 0x20 ≤ c.toNat) (h : Gives (readString s) cs t) :
    Gives (readString (c :: s)) (c :: cs) t := by
  obtain ⟨q, hq, rfl, rfl⟩ := h
  rw [readString, if_neg (Nat.not_lt.mpr control)]
  · exact gives_map.mpr ⟨q, hq, rfl, rfl⟩
  · exact quote
  · exact backslash

theorem read_letter {d : Char} (escape : unescape? d = some c) : Gives (readEscape (d :: s)) c s := by
  rw [readEscape, escape]
  · exact gives_ok.mpr ⟨rfl, rfl⟩
  · rintro rfl
    cases escape

theorem Content.read (h : Content s ps t) (text : joined ps = some cs) : Gives (readString s) cs t := by
  fun_induction joined ps generalizing s cs with
  | case1 =>
    cases h
    cases text
    rw [readString]
    exact gives_ok.mpr ⟨rfl, rfl⟩
  | case2 c ps ih =>
    obtain ⟨cs, joins, rfl⟩ := Option.map_eq_some_iff.mp text
    cases h with
    | plain quote backslash control rest => exact read_plain quote backslash control (ih rest joins)
    | letter escape rest => exact read_escape (read_letter (unescape?_eq_some_iff.mpr escape)) (ih rest joins)
  | case4 n trailing leading m ps trailing' ih =>
    obtain ⟨cs, joins, rfl⟩ := Option.map_eq_some_iff.mp text
    cases h with
    | code digits rest =>
      cases rest with
      | code digits' rest => exact read_escape (read_pair digits digits' trailing leading trailing') (ih rest joins)
  | case7 n ps trailing leading ih =>
    obtain ⟨cs, joins, rfl⟩ := Option.map_eq_some_iff.mp text
    cases h with
    | code digits rest => exact read_escape (read_code digits trailing leading) (ih rest joins)
  | case3 => cases text
  | case5 => cases text
  | case6 => cases text

theorem exists_content_of_skipEscape (h : Gives (skipEscape s) () r) (content : Content r ps t) :
    ∃ piece, Content ('\\' :: s) (piece :: ps) t := by
  unfold skipEscape at h
  split at h
  · exact absurd h not_gives_error
  · obtain ⟨p, hp, -, rfl⟩ := gives_map.mp h
    exact ⟨_, .code (gives_readHex4_iff.mp ⟨p, hp, rfl, rfl⟩) content⟩
  · split at h
    · rename_i escape
      obtain ⟨d, escape⟩ := Option.isSome_iff_exists.mp escape
      obtain ⟨-, rfl⟩ := gives_ok.mp h
      exact ⟨_, .letter (unescape?_eq_some_iff.mp escape) content⟩
    · exact absurd h not_gives_error

theorem exists_content_of_skipString (h : Gives (skipString s) () t) : ∃ ps, Content s ps t := by
  fun_induction skipString s with
  | case1 => exact absurd h not_gives_error
  | case2 =>
    obtain ⟨-, rfl⟩ := gives_ok.mp h
    exact ⟨[], .done _⟩
  | case3 rest ih =>
    obtain ⟨p, hp, h⟩ := gives_bind.mp h
    obtain ⟨q, hq, h⟩ := gives_bind.mp h
    obtain ⟨-, rfl⟩ := gives_ok.mp h
    obtain ⟨ps, content⟩ := ih p ⟨q, hq, rfl, rfl⟩
    obtain ⟨piece, content⟩ := exists_content_of_skipEscape ⟨p, hp, rfl, rfl⟩ content
    exact ⟨_, content⟩
  | case4 => exact absurd h not_gives_error
  | case5 c rest quote backslash control ih =>
    obtain ⟨q, hq, -, rfl⟩ := gives_map.mp h
    obtain ⟨ps, content⟩ := ih ⟨q, hq, rfl, rfl⟩
    exact ⟨_, .plain (fun h => quote h) (fun h => backslash h) (Nat.le_of_not_lt control) content⟩

theorem skip_escape (escape : Gives (skipEscape s) () r) (h : Gives (skipString r) () t) :
    Gives (skipString ('\\' :: s)) () t := by
  obtain ⟨p, hp, -, rfl⟩ := escape
  obtain ⟨q, hq, -, rfl⟩ := h
  rw [skipString]
  exact gives_bind.mpr ⟨p, hp, gives_bind.mpr ⟨q, hq, gives_ok.mpr ⟨rfl, rfl⟩⟩⟩

theorem Content.skip (h : Content s ps t) : Gives (skipString s) () t := by
  induction h with
  | done =>
    rw [skipString]
    exact gives_ok.mpr ⟨rfl, rfl⟩
  | plain quote backslash control _ ih =>
    obtain ⟨q, hq, -, rfl⟩ := ih
    rw [skipString, if_neg (Nat.not_lt.mpr control)]
    · exact gives_map.mpr ⟨q, hq, rfl, rfl⟩
    · exact quote
    · exact backslash
  | letter escape _ ih =>
    have escape := unescape?_eq_some_iff.mpr escape
    refine skip_escape ?_ ih
    rw [skipEscape, escape]
    · exact gives_ok.mpr ⟨rfl, rfl⟩
    · rintro rfl
      cases escape
  | code digits _ ih =>
    obtain ⟨p, hp, -, rfl⟩ := gives_readHex4_iff.mpr digits
    exact skip_escape (gives_map.mpr ⟨p, hp, rfl, rfl⟩) ih

end BytecodeStore.Json
