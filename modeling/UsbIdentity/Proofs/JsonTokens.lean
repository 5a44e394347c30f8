import UsbIdentity.Json.Text

namespace UsbIdentity.Json

/-! ## Strings -/

theorem readString_plain {c : Char} (quote : c ≠ '"') (backslash : c ≠ '\\')
    (shown : 32 ≤ c.toNat) (rest : List Char) :
    readString (c :: rest) = (readString rest).push c := by
  have low : ¬c.toNat < 32 := Nat.not_lt.2 shown
  simp [readString, backslash, low]

theorem readString_simpleEscape {c escaped : Char} (simple : simpleEscape? c = some escaped)
    (rest : List Char) : readString ('\\' :: c :: rest) = (readString rest).push escaped := by
  have other : c ≠ 'u' := by
    rintro rfl
    cases simple
  simp [readString, other, simple]

theorem readString_control {c : Char} (control : c.toNat < 32) (rest : List Char) :
    readString ('\\' :: 'u' :: '0' :: '0' :: (Hex.byte (UInt8.ofNat c.toNat) ++ rest)) =
      (readString rest).push c := by
  have codes : ∀ n < 32, Hex.number? ('0' :: '0' :: Hex.byte (UInt8.ofNat n)) = some n := by
    decide
  have code := codes _ control
  have high : isHighSurrogate c.toNat = false := by
    simp [isHighSurrogate]
    omega
  have low : isLowSurrogate c.toNat = false := by
    simp [isLowSurrogate]
    omega
  simp only [Hex.byte, List.cons_append, List.nil_append] at code ⊢
  rw [readString.eq_def]
  simp only [code, low, high, Char.ofNat_toNat, Bool.false_eq_true, if_false]

theorem readString_escape (c : Char) (rest : List Char) :
    readString (escape c ++ rest) = (readString rest).push c := by
  have short {code : Char} {escaped : Char} (simple : simpleEscape? code = some escaped)
      (same : escaped = c) : readString ('\\' :: code :: rest) = (readString rest).push c :=
    same ▸ readString_simpleEscape simple rest
  have named (code : Nat) (here : c.toNat = code) : Char.ofNat code = c := by
    rw [← here, Char.ofNat_toNat]
  unfold escape
  split
  · next quote => exact short rfl quote.symm
  split
  · next backslash => exact short rfl backslash.symm
  split
  · next code => exact short rfl (named 8 code)
  split
  · next code => exact short rfl (named 9 code)
  split
  · next code => exact short rfl (named 10 code)
  split
  · next code => exact short rfl (named 12 code)
  split
  · next code => exact short rfl (named 13 code)
  split
  · next control => exact readString_control control rest
  · next quote backslash _ _ _ _ _ shown =>
    exact readString_plain quote backslash (Nat.not_lt.1 shown) rest

theorem readString_flatMap_escape (chars rest : List Char) :
    readString (chars.flatMap escape ++ '"' :: rest) = .ok (some chars, rest) := by
  induction chars with
  | nil => rfl
  | cons c chars ih =>
    rw [List.flatMap_cons, List.append_assoc, readString_escape, ih]
    rfl

theorem readValue_stringChars (bound : Nat) (value : String) (rest : List Char) :
    readValue (bound + 1) (stringChars value ++ rest) = (.string (some value), some rest) := by
  have read := readString_flatMap_escape value.toList rest
  simp only [stringChars, List.cons_append, List.append_assoc, List.nil_append]
  simp [readValue, skipBlanks, isBlank, stringStep, read]

/-! ## Integers -/

def Stops (text : List Char) : Prop :=
  ∀ c ∈ text.head?, Numeral.isDigit c = false ∧ c ≠ '.' ∧ c ≠ 'e' ∧ c ≠ 'E'

theorem stops_nil : Stops [] := by
  simp [Stops]

namespace Numeral

def Digits (text : List Char) : Prop :=
  ∀ c ∈ text, isDigit c = true

theorem takeDigits_append {digits rest : List Char} (all : Digits digits) (stops : Stops rest) :
    takeDigits (digits ++ rest) = (digits, rest) := by
  have done : rest.takeWhile isDigit = [] ∧ rest.dropWhile isDigit = rest := by
    cases rest with
    | nil => exact ⟨rfl, rfl⟩
    | cons c rest =>
      obtain ⟨digit, _⟩ := stops c rfl
      simp [digit]
  rw [takeDigits, List.takeWhile_append_of_pos all, List.dropWhile_append_of_pos all, done.1,
    done.2, List.append_nil]

theorem readRest_of_stops {rest : List Char} (stops : Stops rest) (negative : Bool)
    (whole : List Char) :
    readRest negative whole rest = .ok (⟨negative, whole, [], none⟩, rest) := by
  cases rest with
  | nil => rfl
  | cons c rest =>
    obtain ⟨_, point, lower, upper⟩ := stops c rfl
    simp [readRest, readTail, point, lower, upper]

theorem digits_toDigits (n : Nat) : Digits (Nat.toDigits 10 n) := by
  intro c member
  have digit := Nat.isDigit_of_mem_toDigits (by decide) (by decide) member
  simpa [Char.isDigit, isDigit, Char.le_def] using digit

theorem head?_toDigits_ne_zero {n : Nat} (positive : n ≠ 0) :
    (Nat.toDigits 10 n).head? ≠ some '0' := by
  induction n using Nat.strongRecOn with
  | _ n ih =>
    by_cases small : n < 10
    · rw [Nat.toDigits_of_lt_base small]
      have table : ∀ n < 10, n ≠ 0 → [n.digitChar].head? ≠ some '0' := by decide
      exact table n small positive
    · have whole := Nat.not_lt.1 small
      have front := ih (n / 10) (by omega) (by omega)
      rw [Nat.toDigits_of_base_le (by decide) whole]
      cases digits : Nat.toDigits 10 (n / 10) with
      | nil => exact absurd digits Nat.toDigits_ne_nil
      | cons c cs =>
        rw [digits] at front
        exact front

def ofNat (negative : Bool) (n : Nat) : Numeral :=
  ⟨negative, Nat.toDigits 10 n, [], none⟩

def sign (negative : Bool) : List Char :=
  if negative then ['-'] else []

theorem read_sign_append_toDigits (negative : Bool) (n : Nat) {rest : List Char}
    (stops : Stops rest) :
    read (sign negative ++ (Nat.toDigits 10 n ++ rest)) = .ok (ofNat negative n, rest) := by
  have taken := takeDigits_append (digits_toDigits n) stops
  have ended := readRest_of_stops stops negative (Nat.toDigits 10 n)
  have leading := head?_toDigits_ne_zero (n := n)
  have digit := digits_toDigits n
  rw [ofNat, ← ended]
  cases digits : Nat.toDigits 10 n with
  | nil => exact absurd digits Nat.toDigits_ne_nil
  | cons c cs =>
    rw [digits] at taken leading digit
    have minus : c ≠ '-' := by
      rintro rfl
      cases digit '-' List.mem_cons_self
    rw [List.cons_append] at taken
    by_cases zero : n = 0
    · have single : Nat.toDigits 10 0 = ['0'] := rfl
      rw [zero, single] at digits
      cases digits
      rw [List.nil_append] at taken
      cases negative <;> simp [read, sign, taken]
    · have first : c ≠ '0' := by
        rintro rfl
        exact leading zero rfl
      cases negative <;> simp [read, sign, minus, first, taken]

theorem gather_eq {digits : List Char} {word : Nat}
    (small : Nat.ofDigitChars 10 digits word < Nat.pow 2 64) :
    gather word digits = (Nat.ofDigitChars 10 digits word, []) := by
  induction digits generalizing word with
  | nil => rfl
  | cons digit digits ih =>
    rw [Nat.ofDigitChars_cons] at small ⊢
    have next : 10 * word + digitValue digit < Nat.pow 2 64 := by
      refine Nat.lt_of_le_of_lt ?_ small
      rw [Nat.ofDigitChars_eq_ofDigitChars_zero]
      exact Nat.le_trans (Nat.le_mul_of_pos_left _ (Nat.pow_pos (by decide))) (Nat.le_add_right _ _)
    rw [gather, if_neg (Nat.not_le.2 next)]
    exact ih small

theorem gather_toDigits {n : Nat} (small : n < Nat.pow 2 64) :
    gather 0 (Nat.toDigits 10 n) = (n, []) := by
  have value := Nat.ofDigitChars_ten_toDigits (n := n)
  rw [gather_eq (by rwa [value]), value]

theorem eq_of_gather_eq_nil {digits : List Char} {word n : Nat}
    (gathered : gather word digits = (n, [])) : n = Nat.ofDigitChars 10 digits word := by
  induction digits generalizing word with
  | nil =>
    cases gathered
    rfl
  | cons digit digits ih =>
    rw [gather] at gathered
    split at gathered
    · cases gathered
    · rw [Nat.ofDigitChars_cons]
      exact ih gathered

theorem value?_ofNat {n : Nat} (small : n < Nat.pow 2 64) :
    (ofNat false n).value? = some (.integer n) := by
  simp [value?, ofNat, gather_toDigits small]

theorem value?_ofNat_negative {n : Nat} (positive : n ≠ 0) (small : n ≤ Nat.pow 2 63) :
    (ofNat true n).value? = some (.integer (-n)) := by
  have gathered := gather_toDigits (Nat.lt_of_le_of_lt small (by decide))
  simp [value?, ofNat, gathered, positive, small]

def ofInteger (value : Int) : Numeral :=
  ofNat (decide (value < 0)) value.natAbs

theorem value?_ofInteger_eq {value n : Int}
    (read : (ofInteger value).value? = some (.integer n)) : n = value := by
  have float (magnitude : Option Binary64) (negate : Binary64 → Binary64) :
      magnitude.map (fun magnitude => Number.float (negate magnitude)) ≠ some (.integer n) := by
    cases magnitude <;> simp
  unfold value? at read
  rw [if_pos ⟨rfl, rfl⟩] at read
  split at read
  · next word gathered =>
    have same : word = value.natAbs :=
      (eq_of_gather_eq_nil gathered).trans Nat.ofDigitChars_ten_toDigits
    by_cases negative : value < 0
    · have sign : (ofInteger value).negative = true := decide_eq_true negative
      simp only [sign, Bool.not_true, Bool.false_eq_true, if_false] at read
      split at read
      · cases read
        omega
      · exact absurd read (float _ _)
    · have sign : (ofInteger value).negative = false := decide_eq_false negative
      simp only [sign] at read
      cases read
      omega
  · exact absurd read (float _ _)

def Starts (c : Char) : Prop :=
  c = '-' ∨ isDigit c = true

instance (c : Char) : Decidable (Starts c) :=
  inferInstanceAs (Decidable (c = '-' ∨ isDigit c = true))

theorem Starts.ne {c d : Char} (starts : Starts c) (other : ¬Starts d) : c ≠ d := by
  rintro rfl
  exact other starts

end Numeral

open Numeral

def Fits (value : Int) : Prop :=
  -0x8000000000000000 ≤ value ∧ value ≤ 0xffffffffffffffff

theorem integerChars_eq (value : Int) :
    (Number.integer value).chars = sign (decide (value < 0)) ++ Nat.toDigits 10 value.natAbs := by
  rw [Number.chars, Int.toString_eq_repr, Int.repr_eq_if]
  by_cases negative : value < 0
  · have same : value.natAbs = (-value).toNat := by omega
    rw [if_neg (by omega), decide_eq_true negative, String.toList_append, Nat.toList_repr, same]
    rfl
  · have same : value.natAbs = value.toNat := by omega
    rw [if_pos (by omega), decide_eq_false negative, Nat.toList_repr, same]
    rfl

theorem Fits.value?_eq {value : Int} (fits : Fits value) :
    (Numeral.ofInteger value).value? = some (.integer value) := by
  obtain ⟨least, greatest⟩ := fits
  have signed : Nat.pow 2 63 = 0x8000000000000000 := rfl
  have unsigned : Nat.pow 2 64 = 0x10000000000000000 := rfl
  by_cases negative : value < 0
  · rw [ofInteger, decide_eq_true negative, value?_ofNat_negative (by omega) (by omega)]
    congr 2
    omega
  · rw [ofInteger, decide_eq_false negative, value?_ofNat (by omega)]
    congr 2
    omega

theorem starts_integerChars (value : Int) :
    ∃ c chars, (Number.integer value).chars = c :: chars ∧ Starts c := by
  rw [integerChars_eq]
  have digit := digits_toDigits value.natAbs
  by_cases negative : value < 0
  · rw [decide_eq_true negative]
    exact ⟨'-', _, rfl, .inl rfl⟩
  · rw [decide_eq_false negative]
    cases digits : Nat.toDigits 10 value.natAbs with
    | nil => exact absurd digits Nat.toDigits_ne_nil
    | cons c chars =>
      rw [digits] at digit
      exact ⟨c, chars, rfl, .inr (digit c List.mem_cons_self)⟩

theorem Numeral.Starts.isBlank_eq_false {c : Char} (starts : Starts c) : isBlank c = false := by
  have space : c ≠ ' ' := starts.ne (by decide)
  have line : c ≠ '\n' := starts.ne (by decide)
  have tab : c ≠ '\t' := starts.ne (by decide)
  have back : c ≠ '\r' := starts.ne (by decide)
  simp [isBlank, space, line, tab, back]

theorem readValue_of_starts {c : Char} (starts : Starts c) (bound : Nat) (rest : List Char) :
    readValue (bound + 1) (c :: rest) = numberStep (c :: rest) := by
  have blank := starts.isBlank_eq_false
  -- No other token starts with a minus or a digit.
  have null : c ≠ 'n' := starts.ne (by decide)
  have positive : c ≠ 't' := starts.ne (by decide)
  have negative : c ≠ 'f' := starts.ne (by decide)
  have quote : c ≠ '"' := starts.ne (by decide)
  have bracket : c ≠ '[' := starts.ne (by decide)
  have brace : c ≠ '\x7b' := starts.ne (by decide)
  have number : c = '-' ∨ isDigit c = true := starts
  simp [readValue, skipBlanks, blank, number]

def integerDraft (value : Int) : Draft :=
  .number (ofInteger value).value?

theorem Fits.integerDraft_eq {value : Int} (fits : Fits value) :
    integerDraft value = .number (some (.integer value)) := by
  rw [integerDraft, fits.value?_eq]

theorem readValue_integer (bound : Nat) (value : Int) {rest : List Char} (stops : Stops rest) :
    readValue (bound + 1) ((Number.integer value).chars ++ rest) =
      (integerDraft value, some rest) := by
  obtain ⟨c, chars, written, starts⟩ := starts_integerChars value
  have read := read_sign_append_toDigits (decide (value < 0)) value.natAbs stops
  rw [← List.append_assoc, ← integerChars_eq, written, List.cons_append] at read
  rw [written, List.cons_append, readValue_of_starts starts, numberStep, read, integerDraft,
    ofInteger]

theorem readValue_integerChars (bound : Nat) {value : Int} (fits : Fits value) {rest : List Char}
    (stops : Stops rest) :
    readValue (bound + 1) ((Number.integer value).chars ++ rest) =
      (.number (some (.integer value)), some rest) := by
  rw [readValue_integer bound value stops, fits.integerDraft_eq]

end UsbIdentity.Json
