/-
**Decimal integers as bytes**: the conversion `%d` of a printing and of a scanning call.

`integer` prints an integer, `scanInteger` skips white space and reads an optional sign and a
non-empty run of digits.

* `scanInteger_iff`: what is taken denotes the value, and no digit is left behind it;
* `scanInteger_integer`: what was printed is read back, and nothing after it.
-/

import Mathlib.Data.List.TakeWhile
import Mathlib.Data.Nat.Digits.Lemmas

namespace Decimal

def isDigit (byte : UInt8) : Bool := 48 ≤ byte.toNat && byte.toNat ≤ 57

/-- White space of the C locale. -/
def isSpace (byte : UInt8) : Bool := byte.toNat = 32 || (9 ≤ byte.toNat && byte.toNat ≤ 13)

def digit (value : Nat) : UInt8 := UInt8.ofNat (48 + value)

def minus : UInt8 := 45
def plus : UInt8 := 43

/-! ### Printing -/

/-- The digits of a natural number, most significant first. -/
def natural (value : Nat) : List UInt8 :=
  if value = 0 then [digit 0] else (Nat.digits 10 value).reverse.map digit

def integer (value : Int) : List UInt8 :=
  if value < 0 then minus :: natural value.natAbs else natural value.natAbs

/-! ### Scanning -/

def naturalOf (digits : List UInt8) : Nat :=
  digits.foldl (fun value byte => 10 * value + (byte.toNat - 48)) 0

/-- A non-empty run of digits, and the bytes after it. -/
def scanNatural (bytes : List UInt8) : Option (Nat × List UInt8) :=
  if bytes.takeWhile isDigit = [] then none
  else some (naturalOf (bytes.takeWhile isDigit), bytes.dropWhile isDigit)

/-- An optional sign before a run of digits. -/
def scanSigned : List UInt8 → Option (Int × List UInt8)
  | [] => none
  | byte :: bytes =>
    if byte = minus then (scanNatural bytes).map fun read => (-(read.1 : Int), read.2)
    else if byte = plus then (scanNatural bytes).map fun read => ((read.1 : Int), read.2)
    else (scanNatural (byte :: bytes)).map fun read => ((read.1 : Int), read.2)

/-- The scanning conversion `%d`. -/
def scanInteger (bytes : List UInt8) : Option (Int × List UInt8) :=
  scanSigned (bytes.dropWhile isSpace)

/-! ### What a number is -/

/-- A non-empty run of digits. -/
structure IsNumeral (digits : List UInt8) : Prop where
  some_digit : digits ≠ []
  all_digits : ∀ byte ∈ digits, isDigit byte = true

/-- A numeral with an optional sign, and its value. -/
inductive Signed : List UInt8 → Int → Prop
  | unsigned {digits : List UInt8} (numeral : IsNumeral digits) : Signed digits (naturalOf digits)
  | positive {digits : List UInt8} (numeral : IsNumeral digits) : Signed (plus :: digits) (naturalOf digits)
  | negative {digits : List UInt8} (numeral : IsNumeral digits) :
    Signed (minus :: digits) (-(naturalOf digits : Int))

/-- White space before a signed numeral, and its value. -/
def Denotes (bytes : List UInt8) (value : Int) : Prop :=
  ∃ spaces body, bytes = spaces ++ body ∧ (∀ byte ∈ spaces, isSpace byte = true) ∧ Signed body value

/-- The bytes after a number do not go on with a digit. -/
def StopsDigits (rest : List UInt8) : Prop := ∀ byte ∈ rest.head?, isDigit byte = false

theorem takeWhile_append_of_stops {digits rest : List UInt8}
    (all : ∀ byte ∈ digits, isDigit byte = true) (stops : StopsDigits rest) :
    (digits ++ rest).takeWhile isDigit = digits ∧ (digits ++ rest).dropWhile isDigit = rest := by
  induction digits with
  | nil =>
    cases rest with
    | nil => exact ⟨rfl, rfl⟩
    | cons byte rest =>
      have other : isDigit byte = false := stops byte rfl
      simp [other]
  | cons byte digits ih =>
    have first := all byte List.mem_cons_self
    obtain ⟨taken, dropped⟩ := ih fun other member => all other (List.mem_cons_of_mem _ member)
    rw [List.cons_append, List.takeWhile_cons_of_pos first, List.dropWhile_cons_of_pos first, taken]
    exact ⟨rfl, dropped⟩

/-- A digit is neither a sign nor white space. -/
theorem isDigit_ne {byte : UInt8} (isDig : isDigit byte = true) :
    byte ≠ minus ∧ byte ≠ plus ∧ isSpace byte = false := by
  simp only [isDigit, Bool.and_eq_true, decide_eq_true_eq] at isDig
  refine ⟨?_, ?_, ?_⟩
  · rintro rfl
    exact absurd isDig (by decide)
  · rintro rfl
    exact absurd isDig (by decide)
  · simp only [isSpace, Bool.or_eq_false_iff, Bool.and_eq_false_iff, decide_eq_false_iff_not]
    omega

theorem IsNumeral.exists_cons {digits : List UInt8} (numeral : IsNumeral digits) :
    ∃ byte others, digits = byte :: others ∧ isDigit byte = true := by
  obtain ⟨byte, others, rfl⟩ := List.exists_cons_of_ne_nil numeral.some_digit
  exact ⟨byte, others, rfl, numeral.all_digits byte List.mem_cons_self⟩

/-- A signed numeral does not begin with white space. -/
theorem Signed.exists_cons {body : List UInt8} {value : Int} (signed : Signed body value) :
    ∃ byte others, body = byte :: others ∧ isSpace byte = false := by
  cases signed with
  | unsigned numeral =>
    obtain ⟨byte, others, rfl, isDig⟩ := numeral.exists_cons
    exact ⟨byte, others, rfl, (isDigit_ne isDig).2.2⟩
  | positive numeral => exact ⟨plus, _, rfl, by decide⟩
  | negative numeral => exact ⟨minus, _, rfl, by decide⟩

/-! ### What scanning takes -/

theorem scanNatural_iff {bytes rest : List UInt8} {value : Nat} :
    scanNatural bytes = some (value, rest) ↔
      ∃ digits, bytes = digits ++ rest ∧ IsNumeral digits ∧ value = naturalOf digits ∧
        StopsDigits rest := by
  unfold scanNatural
  constructor
  · intro scanned
    split at scanned
    · cases scanned
    · rename_i some_digit
      cases scanned
      refine ⟨bytes.takeWhile isDigit, List.takeWhile_append_dropWhile.symm,
        ⟨some_digit, fun byte member => List.mem_takeWhile_imp member⟩, rfl, ?_⟩
      intro byte first
      have stopped := List.head?_dropWhile_not isDigit bytes
      rw [Option.mem_def.mp first] at stopped
      exact stopped
  · rintro ⟨digits, rfl, numeral, rfl, stops⟩
    obtain ⟨taken, dropped⟩ := takeWhile_append_of_stops numeral.all_digits stops
    rw [taken, dropped, if_neg numeral.some_digit]

/-- A run of digits, stored as some integer. -/
theorem map_scanNatural_iff (toInt : Nat → Int) {bytes rest : List UInt8} {value : Int} :
    ((scanNatural bytes).map fun read => (toInt read.1, read.2)) = some (value, rest) ↔
      ∃ digits, bytes = digits ++ rest ∧ IsNumeral digits ∧ value = toInt (naturalOf digits) ∧
        StopsDigits rest := by
  rw [Option.map_eq_some_iff]
  constructor
  · rintro ⟨⟨number, after⟩, scanned, same⟩
    cases same
    obtain ⟨digits, split, numeral, rfl, stops⟩ := scanNatural_iff.mp scanned
    exact ⟨digits, split, numeral, rfl, stops⟩
  · rintro ⟨digits, split, numeral, rfl, stops⟩
    exact ⟨_, scanNatural_iff.mpr ⟨digits, split, numeral, rfl, stops⟩, rfl⟩

theorem scanSigned_iff {bytes rest : List UInt8} {value : Int} :
    scanSigned bytes = some (value, rest) ↔
      ∃ body, bytes = body ++ rest ∧ Signed body value ∧ StopsDigits rest := by
  constructor
  · intro scanned
    cases bytes with
    | nil => cases scanned
    | cons byte bytes =>
      rw [scanSigned] at scanned
      by_cases negative : byte = minus
      · rw [if_pos negative] at scanned
        obtain ⟨digits, rfl, numeral, rfl, stops⟩ := (map_scanNatural_iff fun n => -(n : Int)).mp scanned
        exact ⟨minus :: digits, by rw [negative]; rfl, .negative numeral, stops⟩
      rw [if_neg negative] at scanned
      by_cases positive : byte = plus
      · rw [if_pos positive] at scanned
        obtain ⟨digits, rfl, numeral, rfl, stops⟩ := (map_scanNatural_iff fun n => (n : Int)).mp scanned
        exact ⟨plus :: digits, by rw [positive]; rfl, .positive numeral, stops⟩
      · rw [if_neg positive] at scanned
        obtain ⟨digits, shape, numeral, rfl, stops⟩ := (map_scanNatural_iff fun n => (n : Int)).mp scanned
        exact ⟨digits, shape, .unsigned numeral, stops⟩
  · rintro ⟨body, rfl, signed, stops⟩
    have scanned (toInt : Nat → Int) {digits : List UInt8} (numeral : IsNumeral digits) :=
      (map_scanNatural_iff toInt).mpr ⟨digits, rfl, numeral, rfl, stops⟩
    cases signed with
    | unsigned numeral =>
      have read := scanned (fun n => (n : Int)) numeral
      obtain ⟨byte, others, rfl, isDig⟩ := numeral.exists_cons
      obtain ⟨notMinus, notPlus, -⟩ := isDigit_ne isDig
      rw [List.cons_append] at read ⊢
      rw [scanSigned, if_neg notMinus, if_neg notPlus]
      exact read
    | positive numeral =>
      rw [List.cons_append, scanSigned, if_neg (by decide), if_pos rfl]
      exact scanned (fun n => (n : Int)) numeral
    | negative numeral =>
      rw [List.cons_append, scanSigned, if_pos rfl]
      exact scanned (fun n => -(n : Int)) numeral

/-- **What `%d` takes**: white space, an optional sign and all digits that follow. -/
theorem scanInteger_iff {bytes rest : List UInt8} {value : Int} :
    scanInteger bytes = some (value, rest) ↔
      ∃ taken, bytes = taken ++ rest ∧ Denotes taken value ∧ StopsDigits rest := by
  unfold scanInteger
  constructor
  · intro scanned
    obtain ⟨body, left, signed, stops⟩ := scanSigned_iff.mp scanned
    refine ⟨bytes.takeWhile isSpace ++ body, ?_, ⟨_, body, rfl, ?_, signed⟩, stops⟩
    · rw [List.append_assoc, ← left, List.takeWhile_append_dropWhile]
    · exact fun byte member => List.mem_takeWhile_imp member
  · rintro ⟨_, rfl, ⟨spaces, body, rfl, blank, signed⟩, stops⟩
    have skipped : (spaces ++ body ++ rest).dropWhile isSpace = body ++ rest := by
      obtain ⟨byte, others, rfl, noSpace⟩ := signed.exists_cons
      rw [List.append_assoc, List.dropWhile_append_of_pos blank, List.cons_append,
        List.dropWhile_cons_of_neg (by rw [noSpace]; exact Bool.false_ne_true)]
    rw [skipped]
    exact scanSigned_iff.mpr ⟨body, rfl, signed, stops⟩

/-! ### Round trip -/

theorem digit_toNat {value : Nat} (small : value < 10) : (digit value).toNat = 48 + value := by
  rw [digit, UInt8.toNat_ofNat']
  omega

theorem isDigit_digit {value : Nat} (small : value < 10) : isDigit (digit value) = true := by
  rw [isDigit, digit_toNat small, Bool.and_eq_true, decide_eq_true_eq, decide_eq_true_eq]
  omega

theorem natural_isDigit (value : Nat) : ∀ byte ∈ natural value, isDigit byte = true := by
  unfold natural
  by_cases zero : value = 0
  · rw [if_pos zero]
    simpa using isDigit_digit (show 0 < 10 by omega)
  · rw [if_neg zero]
    intro byte member
    obtain ⟨d, inside, rfl⟩ := List.mem_map.mp member
    exact isDigit_digit (Nat.digits_lt_base (by omega) (List.mem_reverse.mp inside))

theorem natural_ne_nil (value : Nat) : natural value ≠ [] := by
  unfold natural
  by_cases zero : value = 0
  · rw [if_pos zero]
    exact List.cons_ne_nil _ _
  · rw [if_neg zero, Ne, List.map_eq_nil_iff, List.reverse_eq_nil_iff]
    exact Nat.digits_ne_nil_iff_ne_zero.mpr zero

theorem isNumeral_natural (value : Nat) : IsNumeral (natural value) :=
  ⟨natural_ne_nil value, natural_isDigit value⟩

theorem naturalOf_digits {digits : List Nat} (small : ∀ d ∈ digits, d < 10) :
    naturalOf (digits.reverse.map digit) = Nat.ofDigits 10 digits := by
  unfold naturalOf
  rw [List.map_reverse, List.foldl_reverse]
  induction digits with
  | nil => rfl
  | cons d digits ih =>
    rw [List.map_cons, List.foldr_cons, Nat.ofDigits_cons,
      ih fun other member => small other (List.mem_cons_of_mem _ member),
      digit_toNat (small d List.mem_cons_self)]
    omega

theorem naturalOf_natural (value : Nat) : naturalOf (natural value) = value := by
  unfold natural
  by_cases zero : value = 0
  · rw [if_pos zero, zero]
    rfl
  · rw [if_neg zero, naturalOf_digits fun d member => Nat.digits_lt_base (by omega) member,
      Nat.ofDigits_digits]

/-- What is printed denotes the value. -/
theorem signed_integer (value : Int) : Signed (integer value) value := by
  unfold integer
  by_cases negative : value < 0
  · have signed := Signed.negative (isNumeral_natural value.natAbs)
    rw [naturalOf_natural, show -((value.natAbs : Nat) : Int) = value by omega] at signed
    rw [if_pos negative]
    exact signed
  · have signed := Signed.unsigned (isNumeral_natural value.natAbs)
    rw [naturalOf_natural, show ((value.natAbs : Nat) : Int) = value by omega] at signed
    rw [if_neg negative]
    exact signed

theorem denotes_integer (value : Int) : Denotes (integer value) value :=
  ⟨[], _, rfl, fun _ member => absurd member List.not_mem_nil, signed_integer value⟩

/-- **What `%d` prints, `%d` reads back.** -/
theorem scanInteger_integer (value : Int) {rest : List UInt8} (stops : StopsDigits rest) :
    scanInteger (integer value ++ rest) = some (value, rest) :=
  scanInteger_iff.mpr ⟨_, rfl, denotes_integer value, stops⟩

/-! ### Length -/

theorem natural_length_le {value width : Nat} (positive : 0 < width) (bound : value < 10 ^ width) :
    (natural value).length ≤ width := by
  unfold natural
  by_cases zero : value = 0
  · rw [if_pos zero]
    exact positive
  · rw [if_neg zero, List.length_map, List.length_reverse]
    exact (Nat.digits_length_le_iff (by omega) value).mpr bound

theorem integer_length_le {value : Int} {width : Nat} (positive : 0 < width)
    (bound : value.natAbs < 10 ^ width) : (integer value).length ≤ width + 1 := by
  have digits := natural_length_le positive bound
  unfold integer
  split
  · rw [List.length_cons]
    omega
  · omega

/-- A number that is not negative has no sign. -/
theorem integer_length_of_nonneg {value : Int} {width : Nat} (positive : 0 < width)
    (nonneg : 0 ≤ value) (bound : value < 10 ^ width) : (integer value).length ≤ width := by
  rw [integer, if_neg (Int.not_lt.mpr nonneg)]
  apply natural_length_le positive
  zify
  rwa [abs_of_nonneg nonneg]

end Decimal
