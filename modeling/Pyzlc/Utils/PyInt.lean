import Pyzlc.Utils.Exception
import Mathlib.Data.List.DropRight

/-!
# Reading an integer from a text

`int(text)` in base ten strips white space at both ends, takes one sign, and then wants
decimal digits with at most one underscore between two of them.  The classification
of the characters above ASCII belongs to the Unicode tables of the interpreter, as
does the number of digits it converts; both are kept as data, and no result below
depends on them beyond what ASCII fixes.
-/

namespace Pyzlc

open Foundation

/-- The part of the interpreter that the conversion consults. -/
structure Interpreter where
  isSpace : CodePoint → Bool
  decimal : CodePoint → Option (Fin 10)
  /-- `sys.get_int_max_str_digits()`, where zero is no limit. -/
  maxStrDigits : Nat
  isSpace_ascii : ∀ point : CodePoint, point.val < 128 →
    (isSpace point = true ↔ point.val = 32 ∨ 9 ≤ point.val ∧ point.val ≤ 13)
  decimal_ascii : ∀ (point : CodePoint) (digit : Fin 10), point.val < 128 →
    (decimal point = some digit ↔ point.val = 48 + digit.val)

/-- The code point of a digit. -/
def digitPoint (digit : Fin 10) : CodePoint := ⟨48 + digit.val, by omega⟩

/-- A letter of ASCII, in either case. -/
def IsLetter (point : CodePoint) : Prop :=
  65 ≤ point.val ∧ point.val ≤ 90 ∨ 97 ≤ point.val ∧ point.val ≤ 122

instance (point : CodePoint) : Decidable (IsLetter point) :=
  inferInstanceAs (Decidable (_ ∨ _))

theorem IsLetter.ne {point other : CodePoint} (letter : IsLetter point)
    (outside : ¬ IsLetter other) : point ≠ other := by
  rintro rfl
  exact outside letter

/-- The value of a string of digits, the most significant one first. -/
def decimalValue (digits : List (Fin 10)) : Nat :=
  digits.foldl (fun value digit => 10 * value + digit.val) 0

/-- A decimal numeral: digits, at least one, possibly with leading zeros. -/
structure Numeral where
  digits : List (Fin 10)
  nonempty : digits ≠ []
  deriving DecidableEq, Repr

namespace Numeral

def text (numeral : Numeral) : Text := numeral.digits.map digitPoint

def value (numeral : Numeral) : Nat := decimalValue numeral.digits

/-- A numeral holds no character outside the ten digits. -/
theorem not_mem_text {numeral : Numeral} {point : CodePoint}
    (outside : point.val < 48 ∨ 57 < point.val) : point ∉ numeral.text := by
  intro member
  rcases List.mem_map.1 member with ⟨digit, _, rfl⟩
  have value : (digitPoint digit).val = 48 + digit.val := rfl
  omega

end Numeral

/-- The sign of a numeral and what follows it. -/
def splitSign : Text → Int × Text
  | [] => (1, [])
  | point :: rest =>
      if point = CodePoint.ofChar '-' then
        (-1, rest)
      else if point = CodePoint.ofChar '+' then
        (1, rest)
      else
        (1, point :: rest)

namespace Interpreter

/-- `text.strip()`, as far as the conversion strips. -/
def strip (interpreter : Interpreter) (text : Text) : Text :=
  (text.dropWhile interpreter.isSpace).rdropWhile interpreter.isSpace

/-- The digits of a text.  An underscore may only stand directly behind a digit, and one
more digit has to follow. -/
def readDigits (interpreter : Interpreter) : Bool → Text → Option (List (Fin 10))
  | afterDigit, [] => if afterDigit then some [] else none
  | afterDigit, point :: rest =>
      match interpreter.decimal point with
      | some digit => (interpreter.readDigits true rest).map (digit :: ·)
      | none =>
          if afterDigit ∧ point = CodePoint.ofChar '_' then
            interpreter.readDigits false rest
          else
            none

/-- Whether so many digits are converted at all. -/
def Converts (interpreter : Interpreter) (count : Nat) : Prop :=
  interpreter.maxStrDigits = 0 ∨ count ≤ interpreter.maxStrDigits

instance (interpreter : Interpreter) (count : Nat) : Decidable (interpreter.Converts count) :=
  inferInstanceAs (Decidable (_ ∨ _))

/-- `int(text)`. -/
def pyInt (interpreter : Interpreter) (text : Text) : Except PyError Int :=
  match interpreter.readDigits false (splitSign (interpreter.strip text)).2 with
  | none => .error .valueError
  | some digits =>
      if interpreter.Converts digits.length then
        .ok ((splitSign (interpreter.strip text)).1 * decimalValue digits)
      else
        .error .valueError

variable (interpreter : Interpreter)

/-- The conversion of a text raises nothing but `ValueError`. -/
theorem pyInt_raises {text : Text} {error : PyError}
    (raised : interpreter.pyInt text = .error error) : error = .valueError := by
  unfold pyInt at raised
  split at raised
  next =>
    cases raised
    rfl
  next =>
    split at raised
    next => cases raised
    next =>
      cases raised
      rfl

/-! ## Digits -/

@[simp] theorem decimal_digitPoint (digit : Fin 10) :
    interpreter.decimal (digitPoint digit) = some digit := by
  have value : (digitPoint digit).val = 48 + digit.val := rfl
  exact (interpreter.decimal_ascii _ _ (by omega)).2 value

theorem isSpace_digitPoint (digit : Fin 10) :
    interpreter.isSpace (digitPoint digit) = false := by
  have value : (digitPoint digit).val = 48 + digit.val := rfl
  rw [Bool.eq_false_iff]
  intro space
  have ascii := (interpreter.isSpace_ascii _ (by omega)).1 space
  omega

theorem readDigits_map_digitPoint (afterDigit : Bool) (digits : List (Fin 10))
    (some_digit : afterDigit = true ∨ digits ≠ []) :
    interpreter.readDigits afterDigit (digits.map digitPoint) = some digits := by
  induction digits generalizing afterDigit with
  | nil =>
      rcases some_digit with after | nonempty
      · rw [after]
        rfl
      · exact absurd rfl nonempty
  | cons digit rest ih =>
      rw [List.map_cons, readDigits, decimal_digitPoint]
      simp only
      rw [ih true (Or.inl rfl), Option.map_some]

theorem strip_text (numeral : Numeral) : interpreter.strip numeral.text = numeral.text := by
  have spaceless : ∀ point ∈ numeral.text, interpreter.isSpace point = false := by
    intro point member
    rcases List.mem_map.1 member with ⟨digit, _, rfl⟩
    exact interpreter.isSpace_digitPoint digit
  have front : numeral.text.dropWhile interpreter.isSpace = numeral.text := by
    rw [List.dropWhile_eq_self_iff]
    intro inBounds
    rw [spaceless _ (List.getElem_mem inBounds)]
    exact Bool.false_ne_true
  rw [strip, front, List.rdropWhile_eq_self_iff]
  intro nonempty
  rw [spaceless _ (List.getLast_mem nonempty)]
  exact Bool.false_ne_true

theorem splitSign_text (numeral : Numeral) : splitSign numeral.text = (1, numeral.text) := by
  rcases numeral with ⟨_ | ⟨digit, rest⟩, nonempty⟩
  · exact absurd rfl nonempty
  · have value : (digitPoint digit).val = 48 + digit.val := rfl
    have minus : digitPoint digit ≠ CodePoint.ofChar '-' := by
      intro equal
      have values : (digitPoint digit).val = 45 := congrArg Fin.val equal
      omega
    have plus : digitPoint digit ≠ CodePoint.ofChar '+' := by
      intro equal
      have values : (digitPoint digit).val = 43 := congrArg Fin.val equal
      omega
    simp only [Numeral.text, List.map_cons, splitSign, if_neg minus, if_neg plus]

/-- A numeral is read as its value, unless it is longer than the interpreter converts. -/
theorem pyInt_text (numeral : Numeral) :
    interpreter.pyInt numeral.text =
      if interpreter.Converts numeral.digits.length then .ok (numeral.value : Int)
      else .error .valueError := by
  have digits :=
    interpreter.readDigits_map_digitPoint false numeral.digits (Or.inr numeral.nonempty)
  rw [pyInt, strip_text, splitSign_text]
  simp only
  rw [Numeral.text, digits, Numeral.value]
  simp only [Int.one_mul]

/-! ## Letters -/

theorem decimal_of_isLetter {point : CodePoint} (letter : IsLetter point) :
    interpreter.decimal point = none := by
  rw [Option.eq_none_iff_forall_ne_some]
  intro digit present
  unfold IsLetter at letter
  have value := (interpreter.decimal_ascii point digit (by omega)).1 present
  omega

theorem isSpace_of_isLetter {point : CodePoint} (letter : IsLetter point) :
    interpreter.isSpace point = false := by
  rw [Bool.eq_false_iff]
  intro space
  unfold IsLetter at letter
  have ascii := (interpreter.isSpace_ascii point (by omega)).1 space
  omega

theorem mem_dropWhile {text : Text} {predicate : CodePoint → Bool} {point : CodePoint}
    (kept : predicate point = false) (member : point ∈ text) :
    point ∈ text.dropWhile predicate := by
  rw [← List.takeWhile_append_dropWhile (p := predicate) (l := text)] at member
  rcases List.mem_append.1 member with dropped | remains
  · rw [List.mem_takeWhile_imp dropped] at kept
    cases kept
  · exact remains

theorem mem_strip {text : Text} {point : CodePoint} (kept : interpreter.isSpace point = false)
    (member : point ∈ text) : point ∈ interpreter.strip text := by
  have front := mem_dropWhile kept member
  exact List.mem_reverse.2 (mem_dropWhile kept (List.mem_reverse.2 front))

theorem mem_splitSign {text : Text} {point : CodePoint} (letter : IsLetter point)
    (member : point ∈ text) : point ∈ (splitSign text).2 := by
  cases text with
  | nil => cases member
  | cons first rest =>
      have minus : point ≠ CodePoint.ofChar '-' := letter.ne (by decide)
      have plus : point ≠ CodePoint.ofChar '+' := letter.ne (by decide)
      simp only [splitSign]
      split
      next signed =>
        subst signed
        exact (List.mem_cons.1 member).resolve_left minus
      next =>
        split
        next signed =>
          subst signed
          exact (List.mem_cons.1 member).resolve_left plus
        next => exact member

theorem readDigits_eq_none_of_letter {text : Text} {point : CodePoint}
    (letter : IsLetter point) (member : point ∈ text) (afterDigit : Bool) :
    interpreter.readDigits afterDigit text = none := by
  induction text generalizing afterDigit with
  | nil => cases member
  | cons first rest ih =>
      rw [readDigits]
      rcases List.mem_cons.1 member with rfl | later
      · have underscore : point ≠ CodePoint.ofChar '_' := letter.ne (by decide)
        rw [interpreter.decimal_of_isLetter letter]
        simp only [underscore, and_false, if_false]
      · cases interpreter.decimal first with
        | some digit =>
            simp only
            rw [ih later true, Option.map_none]
        | none =>
            simp only
            rw [ih later false, ite_self]

/-- A text with a letter in it is no integer. -/
theorem pyInt_of_letter {text : Text} {point : CodePoint} (letter : IsLetter point)
    (member : point ∈ text) : interpreter.pyInt text = .error .valueError := by
  have stripped := interpreter.mem_strip (interpreter.isSpace_of_isLetter letter) member
  have unread :=
    interpreter.readDigits_eq_none_of_letter letter (mem_splitSign letter stripped) false
  rw [pyInt, unread]

end Interpreter

end Pyzlc
