import BytecodeStore.Json.NumberToken
import BytecodeStore.Text.Numeral
import Mathlib.Data.List.TakeWhile
import Mathlib.Data.Nat.Notation

/-! # The texts that are numerals

A numeral is read from the left, and its reading ends as soon as the value of the digits read so far is no word. More
digits never make a value smaller, so what is read is the value of all digits, and a text that is refused for its size
begins with digits whose value is no word, whatever stands behind them. The numbers in JSON texts take their digits in
the same way.
-/
namespace BytecodeStore.Json

theorem le_foldl_digits (v : ℕ) (ds : List ℕ) : v ≤ ds.foldl (fun n d => n * 10 + d) v := by
  induction ds generalizing v with
  | nil => exact Nat.le_refl v
  | cons d ds ih => exact Nat.le_trans (by omega) (ih (v * 10 + d))

/-- All digits are absorbed if and only if their value is a word. -/
theorem absorb_eq_iff {v n : ℕ} {ds : List ℕ} (small : v ≤ maxCount) :
    absorb v ds = (n, 0) ↔ ds.foldl (fun n d => n * 10 + d) v = n ∧ n ≤ maxCount := by
  induction ds generalizing v with
  | nil =>
    simp only [absorb, List.foldl_nil, Prod.mk.injEq, and_true]
    exact ⟨fun h => ⟨h, h ▸ small⟩, fun h => h.1⟩
  | cons d ds ih =>
    rw [absorb, List.foldl_cons]
    split
    · -- the value is no word here, and the digits behind would not make it smaller again
      rename_i large
      have := le_foldl_digits (v * 10 + d) ds
      constructor
      · simp
      · rintro ⟨rfl, fits⟩
        omega
    · rename_i fits
      exact ih (Nat.le_of_not_lt fits)

end BytecodeStore.Json

namespace BytecodeStore.Numeral
variable {text rest : List Char} {c : Char} {acc n : ℕ} {s : String} {v : UInt64} {fault : Fault}

def Digits (text : List Char) : Prop := ∀ c ∈ text, c.isDigit = true

/-- The text is one or more digits behind an optional sign, and `n` is their value. -/
def Denotes (s : String) (n : ℕ) : Prop :=
  ∃ digits, (s.toList = digits ∨ s.toList = '+' :: digits) ∧ digits ≠ [] ∧ Digits digits ∧
    Nat.ofDigitChars 10 digits 0 = n

/-- The text begins with digits that continue the value `acc` to one that is no word. -/
def Exceeds (acc : ℕ) (text : List Char) : Prop :=
  ∃ digits rest, text = digits ++ rest ∧ Digits digits ∧ maxCount < Nat.ofDigitChars 10 digits acc

/-- Behind an optional sign the text begins with digits whose value is no word. -/
def Overlong (s : String) : Prop := ∃ text, (s.toList = text ∨ s.toList = '+' :: text) ∧ Exceeds 0 text

/-! ## Digits -/

theorem digits_cons : Digits (c :: rest) ↔ c.isDigit = true ∧ Digits rest := List.forall_mem_cons

theorem ofDigitChars_cons (c : Char) (rest : List Char) (acc : ℕ) :
    Nat.ofDigitChars 10 (c :: rest) acc = Nat.ofDigitChars 10 rest (Nat.ofDigitChars 10 [c] acc) :=
  Nat.ofDigitChars_append (l := [c]) acc

theorem ofDigitChars_eq_foldl (all : Digits text) (acc : ℕ) :
    Nat.ofDigitChars 10 text acc = (Json.digitsOf text).foldl (fun n d => n * 10 + d) acc := by
  have whole : text.takeWhile Char.isDigit = text := List.takeWhile_eq_self_iff.mpr all
  rw [Json.digitsOf, whole, List.foldl_map, Nat.ofDigitChars]
  simp only [Nat.mul_comm]

theorem exceeds_cons_iff (small : acc ≤ maxCount) :
    Exceeds acc (c :: text) ↔ c.isDigit = true ∧ Exceeds (Nat.ofDigitChars 10 [c] acc) text := by
  constructor
  · rintro ⟨digits, rest, split, all, large⟩
    cases digits with
    | nil =>
      rw [Nat.ofDigitChars_nil] at large
      omega
    | cons d digits =>
      obtain ⟨rfl, rfl⟩ := List.cons.inj split
      rw [ofDigitChars_cons] at large
      exact ⟨(digits_cons.mp all).1, digits, rest, rfl, (digits_cons.mp all).2, large⟩
  · rintro ⟨digit, digits, rest, rfl, all, large⟩
    rw [← ofDigitChars_cons] at large
    exact ⟨c :: digits, rest, rfl, digits_cons.mpr ⟨digit, all⟩, large⟩

theorem exceeds_of_large (large : maxCount < acc) : Exceeds acc text := by
  refine ⟨[], text, rfl, nofun, ?_⟩
  rw [Nat.ofDigitChars_nil]
  exact large

theorem readDigits_of_not_digit (h : ¬ c.isDigit = true) : readDigits acc (c :: rest) = .error .invalidDigit := by
  have read : digit? c = none := if_neg h
  rw [readDigits, read]

theorem readDigits_of_digit (h : c.isDigit = true) :
    readDigits acc (c :: rest) =
      if Nat.ofDigitChars 10 [c] acc > maxCount then .error .tooLarge
      else readDigits (Nat.ofDigitChars 10 [c] acc) rest := by
  have read : digit? c = some (c.toNat - '0'.toNat) := if_pos h
  rw [readDigits, read, Nat.ofDigitChars_cons, Nat.ofDigitChars_nil, Nat.mul_comm]

/-- The reader comes to the end of the text if the text is digits and all of them are absorbed. -/
theorem readDigits_eq_ok_iff_absorb :
    readDigits acc text = .ok n ↔ Digits text ∧ Json.absorb acc (Json.digitsOf text) = (n, 0) := by
  induction text generalizing acc with
  | nil =>
    rw [readDigits, Except.ok.injEq]
    exact ⟨fun h => ⟨nofun, congrArg (·, 0) h⟩, fun h => congrArg Prod.fst h.2⟩
  | cons c rest ih =>
    rw [digits_cons]
    by_cases digit : c.isDigit = true
    · have value : Nat.ofDigitChars 10 [c] acc = acc * 10 + (c.toNat - '0'.toNat) := by
        rw [Nat.ofDigitChars_cons, Nat.ofDigitChars_nil, Nat.mul_comm]
      rw [readDigits_of_digit digit, value, Json.digitsOf, List.takeWhile_cons_of_pos digit, List.map_cons, Json.absorb]
      split
      · exact iff_of_false nofun (by simp)
      · rw [ih, Json.digitsOf]
        simp only [digit, true_and]
    · rw [readDigits_of_not_digit digit]
      exact iff_of_false nofun fun h => digit h.1.1

theorem readDigits_eq_ok_iff (small : acc ≤ maxCount) :
    readDigits acc text = .ok n ↔ Digits text ∧ Nat.ofDigitChars 10 text acc = n ∧ n ≤ maxCount := by
  rw [readDigits_eq_ok_iff_absorb]
  refine and_congr_right fun all => ?_
  rw [ofDigitChars_eq_foldl all, Json.absorb_eq_iff small]

theorem readDigits_eq_tooLarge_iff (small : acc ≤ maxCount) :
    readDigits acc text = .error .tooLarge ↔ Exceeds acc text := by
  induction text generalizing acc with
  | nil =>
    refine iff_of_false nofun ?_
    rintro ⟨digits, rest, split, _, large⟩
    obtain ⟨rfl, rfl⟩ := List.append_eq_nil_iff.mp split.symm
    rw [Nat.ofDigitChars_nil] at large
    omega
  | cons c text ih =>
    rw [exceeds_cons_iff small]
    by_cases digit : c.isDigit = true
    · rw [readDigits_of_digit digit]
      by_cases large : Nat.ofDigitChars 10 [c] acc > maxCount
      · rw [if_pos large]
        exact iff_of_true rfl ⟨digit, exceeds_of_large large⟩
      · rw [if_neg large, ih (Nat.le_of_not_lt large)]
        simp only [digit, true_and]
    · rw [readDigits_of_not_digit digit]
      exact iff_of_false nofun fun h => digit h.1

theorem readDigits_ne_empty : readDigits acc text ≠ .error .empty := by
  intro h
  fun_induction readDigits acc text with
  | case1 => cases h
  | case2 => cases h
  | case3 => cases h
  | case4 _ _ _ _ _ _ ih => exact ih h

/-! ## The sign -/

/-- The text behind its sign, or the whole text if it has none. -/
def unsigned : List Char → List Char
  | '+' :: rest => rest
  | text => text

theorem eq_unsigned_or (text : List Char) : text = unsigned text ∨ text = '+' :: unsigned text := by
  unfold unsigned
  split
  · exact .inr rfl
  · exact .inl rfl

theorem unsigned_of_digit (h : c.isDigit = true) : unsigned (c :: rest) = c :: rest := by
  unfold unsigned
  split
  · rename_i sign
    cases sign
    cases h
  · rfl

/-- What a sign may stand before is the text behind the sign, if it starts with a digit. -/
theorem exists_unsigned_iff {P : List Char → Prop}
    (starts : ∀ text, P text → ∃ c rest, text = c :: rest ∧ c.isDigit = true) :
    (∃ text, (s.toList = text ∨ s.toList = '+' :: text) ∧ P text) ↔ P (unsigned s.toList) := by
  constructor
  · rintro ⟨text, whole | behind, h⟩
    · obtain ⟨c, rest, rfl, digit⟩ := starts text h
      rw [whole, unsigned_of_digit digit]
      exact h
    · rw [behind]
      exact h
  · intro h
    exact ⟨unsigned s.toList, eq_unsigned_or s.toList, h⟩

theorem denotes_iff : Denotes s n ↔
    unsigned s.toList ≠ [] ∧ Digits (unsigned s.toList) ∧ Nat.ofDigitChars 10 (unsigned s.toList) 0 = n := by
  apply exists_unsigned_iff
  rintro text ⟨present, all, _⟩
  obtain ⟨c, rest, rfl⟩ := List.exists_cons_of_ne_nil present
  exact ⟨c, rest, rfl, (digits_cons.mp all).1⟩

theorem overlong_iff : Overlong s ↔ Exceeds 0 (unsigned s.toList) := by
  apply exists_unsigned_iff
  intro text h
  cases text with
  | nil =>
    have nothing := (readDigits_eq_tooLarge_iff (Nat.zero_le _)).mpr h
    cases nothing
  | cons c rest => exact ⟨c, rest, rfl, ((exceeds_cons_iff (Nat.zero_le _)).mp h).1⟩

/-- A sign alone is no numeral, and what stands behind a sign is read as it is read without. -/
theorem readChars_eq (present : text ≠ []) :
    readChars text = if unsigned text = [] then .error .invalidDigit else readDigits 0 (unsigned text) := by
  fun_cases readChars text with
  | case1 => exact absurd rfl present
  | case2 => rfl
  | case3 digits more => exact (if_neg more).symm
  | case4 _ _ _ bare =>
    have same : text = unsigned text := (eq_unsigned_or text).resolve_right (bare _)
    rw [← same, if_neg present]

/-! ## Whole texts -/

theorem unsigned_empty : unsigned "".toList = [] := rfl

theorem readChars_eq_ok_iff : readChars s.toList = .ok n ↔ Denotes s n ∧ n ≤ maxCount := by
  rw [denotes_iff]
  by_cases empty : s = ""
  · rw [empty, unsigned_empty]
    exact iff_of_false nofun fun h => h.1.1 rfl
  · rw [readChars_eq (mt String.toList_eq_nil_iff.mp empty)]
    by_cases bare : unsigned s.toList = []
    · rw [if_pos bare]
      exact iff_of_false nofun fun h => h.1.1 bare
    · rw [if_neg bare, readDigits_eq_ok_iff (Nat.zero_le _)]
      simp only [ne_eq, bare, not_false_eq_true, true_and, and_assoc]

theorem readChars_eq_tooLarge_iff : readChars s.toList = .error .tooLarge ↔ Overlong s := by
  rw [overlong_iff, ← readDigits_eq_tooLarge_iff (Nat.zero_le _)]
  by_cases empty : s = ""
  · rw [empty, unsigned_empty]
    exact iff_of_false nofun nofun
  · rw [readChars_eq (mt String.toList_eq_nil_iff.mp empty)]
    by_cases bare : unsigned s.toList = []
    · rw [if_pos bare, bare]
      exact iff_of_false nofun nofun
    · rw [if_neg bare]

theorem readChars_eq_empty_iff : readChars s.toList = .error .empty ↔ s = "" := by
  by_cases empty : s = ""
  · rw [empty]
    exact iff_of_true rfl rfl
  · refine iff_of_false ?_ empty
    rw [readChars_eq (mt String.toList_eq_nil_iff.mp empty)]
    split
    · nofun
    · exact readDigits_ne_empty

theorem parse_eq_ok_iff : parse s = .ok v ↔ Denotes s v.toNat := by
  have read_iff : Denotes s v.toNat ↔ readChars s.toList = .ok v.toNat := by
    rw [readChars_eq_ok_iff, and_iff_left (toNat_le_maxCount v)]
  rw [read_iff, parse]
  cases read : readChars s.toList with
  | error e => exact iff_of_false nofun nofun
  | ok n =>
    have fits := (readChars_eq_ok_iff.mp read).2
    rw [Except.map, Except.ok.injEq, Except.ok.injEq]
    constructor
    · rintro rfl
      exact (UInt64.toNat_ofNat_of_lt' (Nat.lt_succ_of_le fits)).symm
    · rintro rfl
      exact UInt64.ofNat_toNat

theorem parse_eq_error_iff : parse s = .error fault ↔ readChars s.toList = .error fault := by
  rw [parse]
  cases readChars s.toList with
  | error e => rw [Except.map, Except.error.injEq, Except.error.injEq]
  | ok n => exact iff_of_false nofun nofun

/-- A text that is no numeral of a word is refused, and for its first fault. -/
theorem parse_of_rejected (rejected : ∀ v : UInt64, ¬ Denotes s v.toNat) :
    ∃ fault, parse s = .error fault ∧ (fault = .empty ↔ s = "") ∧ (fault = .tooLarge ↔ Overlong s) := by
  cases read : parse s with
  | ok v => exact absurd (parse_eq_ok_iff.mp read) (rejected v)
  | error fault =>
    have read := parse_eq_error_iff.mp read
    rw [← readChars_eq_empty_iff, ← readChars_eq_tooLarge_iff, read]
    exact ⟨fault, rfl, by rw [Except.error.injEq], by rw [Except.error.injEq]⟩

end BytecodeStore.Numeral
