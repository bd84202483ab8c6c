import Mathlib.Data.List.Basic
import Mathlib.Data.Option.Basic

/-!
# Text, bytes and the strict UTF-8 codec

A text of the source language is any sequence of Unicode code points, so a lone
surrogate is a legal position although no strict UTF-8 encoder accepts it.  The
codec itself is the one of the core library; what is added here is the partiality
of the encoder and the two inverse laws between both directions.
-/

namespace Pyzlc.Foundation

/-- A byte string. -/
abbrev Bytes := List UInt8

/-- One position of a text: any Unicode code point, lone surrogates included. -/
abbrev CodePoint := Fin 0x110000

/-- A text, by value. -/
abbrev Text := List CodePoint

namespace CodePoint

/-- The code point of a Unicode scalar value. -/
def ofChar (character : Char) : CodePoint :=
  ⟨character.toNat, by
    have valid : character.toNat.isValidChar := character.valid
    unfold Nat.isValidChar at valid
    omega⟩

/-- The scalar value at a code point, absent for surrogates. -/
def toChar? (point : CodePoint) : Option Char :=
  if valid : point.val.isValidChar then some (Char.ofNatAux point.val valid) else none

@[simp] theorem toChar?_ofChar (character : Char) :
    toChar? (ofChar character) = some character := by
  have valid : character.toNat.isValidChar := character.valid
  exact dif_pos (show (ofChar character).val.isValidChar from valid)

theorem toChar?_eq_some {point : CodePoint} {character : Char} :
    point.toChar? = some character ↔ point = ofChar character := by
  constructor
  · intro present
    by_cases valid : point.val.isValidChar
    · rw [toChar?, dif_pos valid] at present
      cases present
      rfl
    · rw [toChar?, dif_neg valid] at present
      cases present
  · rintro rfl
    exact toChar?_ofChar character

end CodePoint

namespace Text

/-- A text without surrogates, from a literal. -/
def ofString (literal : String) : Text := literal.toList.map CodePoint.ofChar

instance : Coe String Text := ⟨ofString⟩

/-- Membership in a list of texts, decided in one way everywhere. -/
instance decidableMem (text : Text) (texts : List Text) : Decidable (text ∈ texts) :=
  inferInstance

/-- The scalar values of a text, absent when a surrogate occurs. -/
def toChars? : Text → Option (List Char)
  | [] => some []
  | point :: rest => do
      let character ← point.toChar?
      let characters ← toChars? rest
      return character :: characters

theorem toChars?_eq_some {text : Text} {characters : List Char} :
    text.toChars? = some characters ↔ text = characters.map CodePoint.ofChar := by
  induction text generalizing characters with
  | nil => cases characters <;> simp [toChars?]
  | cons point rest ih =>
      cases characters with
      | nil => cases h : point.toChar? <;> cases h' : toChars? rest <;> simp [toChars?, h, h']
      | cons character characters =>
          simp only [toChars?, Option.bind_eq_bind, Option.pure_def,
            Option.bind_eq_some_iff, Option.some.injEq, List.cons.injEq,
            List.map_cons]
          constructor
          · rintro ⟨_, headValid, _, tailValid, rfl, rfl⟩
            exact ⟨CodePoint.toChar?_eq_some.1 headValid, ih.1 tailValid⟩
          · rintro ⟨headEq, tailEq⟩
            exact ⟨_, CodePoint.toChar?_eq_some.2 headEq, _, ih.2 tailEq, rfl, rfl⟩

/-- Strict UTF-8 encoding; absent when the text holds a lone surrogate. -/
def encode (text : Text) : Option Bytes :=
  text.toChars?.map fun characters => characters.flatMap String.utf8EncodeChar

/-- Strict UTF-8 decoding; absent when the bytes are not UTF-8. -/
def decode (bytes : Bytes) : Option Text :=
  bytes.toByteArray.utf8Decode?.map fun characters =>
    characters.toList.map CodePoint.ofChar

/-- Decoding reverses encoding. -/
theorem decode_of_encode {text : Text} {bytes : Bytes}
    (encoded : text.encode = some bytes) : decode bytes = some text := by
  obtain ⟨characters, valid, rfl⟩ := Option.map_eq_some_iff.1 encoded
  rw [toChars?_eq_some.1 valid, decode,
    show (characters.flatMap String.utf8EncodeChar).toByteArray = characters.utf8Encode from rfl,
    List.utf8Decode?_utf8Encode, Option.map_some, List.toList_toArray]

/-- Only the encoding of the decoded text is ever accepted. -/
theorem encode_of_decode {text : Text} {bytes : Bytes}
    (decoded : decode bytes = some text) : text.encode = some bytes := by
  obtain ⟨characters, accepted, rfl⟩ := Option.map_eq_some_iff.1 decoded
  have present : bytes.toByteArray.utf8Decode?.isSome := by simp [accepted]
  have bytesEq := ByteArray.utf8Encode_get_utf8Decode? (h := present)
  simp only [accepted, Option.get_some] at bytesEq
  refine Option.map_eq_some_iff.2 ⟨characters.toList, toChars?_eq_some.2 rfl, ?_⟩
  exact List.toByteArray_inj.1 bytesEq

theorem decode_eq_some_iff {text : Text} {bytes : Bytes} :
    decode bytes = some text ↔ text.encode = some bytes :=
  ⟨encode_of_decode, decode_of_encode⟩

/-- Texts of one encoding are equal. -/
theorem encode_inj {first second : Text} {bytes : Bytes} (encoded : first.encode = some bytes)
    (otherEncoded : second.encode = some bytes) : first = second := by
  have decoded := decode_of_encode encoded
  rw [decode_of_encode otherEncoded] at decoded
  exact (Option.some.inj decoded).symm

/-! ## Encoding position by position -/

theorem encode_eq_some_iff {text : Text} {bytes : Bytes} :
    text.encode = some bytes ↔ ∃ characters : List Char,
      text = characters.map CodePoint.ofChar ∧
        characters.flatMap String.utf8EncodeChar = bytes := by
  simp only [encode, Option.map_eq_some_iff, toChars?_eq_some]

/-- Encoding works position by position. -/
theorem encode_append_eq_some_iff {left right : Text} {bytes : Bytes} :
    (left ++ right).encode = some bytes ↔ ∃ leftBytes rightBytes,
      left.encode = some leftBytes ∧ right.encode = some rightBytes ∧
        leftBytes ++ rightBytes = bytes := by
  simp only [encode_eq_some_iff]
  constructor
  · rintro ⟨characters, split, rfl⟩
    obtain ⟨before, behind, rfl, rfl, rfl⟩ := List.map_eq_append_iff.1 split.symm
    exact ⟨_, _, ⟨before, rfl, rfl⟩, ⟨behind, rfl, rfl⟩, List.flatMap_append.symm⟩
  · rintro ⟨_, _, ⟨before, rfl, rfl⟩, ⟨behind, rfl, rfl⟩, rfl⟩
    exact ⟨before ++ behind, List.map_append.symm, List.flatMap_append⟩

/-- An ASCII code point is one byte of the same value. -/
theorem encode_ascii {text : Text} (ascii : ∀ point ∈ text, point.val < 128) :
    text.encode = some (text.map fun point => UInt8.ofNat point.val) := by
  induction text with
  | nil => rfl
  | cons point rest ih =>
      have small := ascii point List.mem_cons_self
      have valid : point.val.isValidChar := Or.inl (by omega)
      have isChar : point = CodePoint.ofChar (Char.ofNatAux point.val valid) :=
        CodePoint.toChar?_eq_some.1 (dif_pos valid)
      have single : Text.encode [point] = some [UInt8.ofNat point.val] := by
        apply encode_eq_some_iff.2
        refine ⟨[Char.ofNatAux point.val valid], congrArg (· :: []) isChar, ?_⟩
        rw [List.flatMap_singleton]
        apply String.utf8EncodeChar_eq_singleton
        apply Char.utf8Size_eq_one_iff.2
        show point.val ≤ 127
        omega
      exact encode_append_eq_some_iff.2 ⟨_, _, single,
        ih fun other member => ascii other (List.mem_cons_of_mem _ member), rfl⟩

/-- NUL characters are NUL bytes. -/
theorem encode_replicate_nul (count : Nat) :
    Text.encode (List.replicate count 0) = some (List.replicate count 0) := by
  rw [encode_ascii, List.map_replicate]
  · rfl
  · intro point member
    rw [List.eq_of_mem_replicate member]
    decide

/-! ## Decimal numerals -/

/-- The decimal numeral of an integer. -/
def ofInt : Int → Text
  | .ofNat n => (Nat.toDigits 10 n).map CodePoint.ofChar
  | .negSucc n => CodePoint.ofChar '-' :: (Nat.toDigits 10 (n + 1)).map CodePoint.ofChar

theorem ofChar_injective : Function.Injective CodePoint.ofChar := by
  intro left right equal
  have same : some left = some right := by
    rw [← CodePoint.toChar?_ofChar left, equal, CodePoint.toChar?_ofChar]
  exact Option.some.inj same

private theorem toDigits_injective : Function.Injective (Nat.toDigits 10) := by
  intro left right equal
  rw [← Nat.ofDigitChars_ten_toDigits (n := left), equal, Nat.ofDigitChars_ten_toDigits]

/-- A character of a decimal numeral is a digit or the sign. -/
theorem mem_ofInt {value : Int} {character : Char}
    (member : CodePoint.ofChar character ∈ ofInt value) :
    character.isDigit ∨ character = '-' := by
  cases value with
  | ofNat n =>
      obtain ⟨digit, digitMem, digitEq⟩ := List.mem_map.1 member
      left
      rw [← ofChar_injective digitEq]
      exact Nat.isDigit_of_mem_toDigits (by decide) (by decide) digitMem
  | negSucc n =>
      rcases List.mem_cons.1 member with sign | digits
      · exact Or.inr (ofChar_injective sign)
      · obtain ⟨digit, digitMem, digitEq⟩ := List.mem_map.1 digits
        left
        rw [← ofChar_injective digitEq]
        exact Nat.isDigit_of_mem_toDigits (by decide) (by decide) digitMem

private theorem sign_not_mem_digits (n : Nat) :
    CodePoint.ofChar '-' ∉ (Nat.toDigits 10 n).map CodePoint.ofChar := by
  intro member
  obtain ⟨digit, digitMem, digitEq⟩ := List.mem_map.1 member
  have isDigit := Nat.isDigit_of_mem_toDigits (b := 10) (by decide) (by decide) digitMem
  rw [ofChar_injective digitEq] at isDigit
  exact absurd isDigit (by decide)

/-- Different integers have different numerals. -/
theorem ofInt_injective : Function.Injective ofInt := by
  intro left right equal
  have digits := List.map_injective_iff.2 ofChar_injective
  cases left with
  | ofNat m =>
      cases right with
      | ofNat n => exact congrArg Int.ofNat (toDigits_injective (digits equal))
      | negSucc n =>
          refine absurd ?_ (sign_not_mem_digits m)
          rw [show (Nat.toDigits 10 m).map CodePoint.ofChar = _ from equal]
          exact List.mem_cons_self
  | negSucc m =>
      cases right with
      | ofNat n =>
          refine absurd ?_ (sign_not_mem_digits n)
          rw [← show _ = (Nat.toDigits 10 n).map CodePoint.ofChar from equal]
          exact List.mem_cons_self
      | negSucc n =>
          have tails := (List.cons.inj equal).2
          have same := toDigits_injective (digits tails)
          rw [Nat.succ.inj same]

/-- The text before the last occurrence of a separator determines, and is
determined by, the whole. -/
theorem append_separator_inj {left left' right right' : Text} {separator : CodePoint}
    (absent : separator ∉ right) (absent' : separator ∉ right')
    (equal : left ++ separator :: right = left' ++ separator :: right') :
    left = left' ∧ right = right' := by
  rcases List.append_eq_append_iff.1 equal with
    ⟨middle, leftEq, rightEq⟩ | ⟨middle, leftEq, rightEq⟩
  · cases middle with
    | nil => exact ⟨by simpa using leftEq.symm, (List.cons.inj rightEq).2⟩
    | cons head middle =>
        obtain ⟨_, rfl⟩ := List.cons.inj rightEq
        exact absurd (by simp) absent
  · cases middle with
    | nil => exact ⟨by simpa using leftEq, (List.cons.inj rightEq).2.symm⟩
    | cons head middle =>
        obtain ⟨_, rfl⟩ := List.cons.inj rightEq
        exact absurd (by simp) absent'

end Text

end Pyzlc.Foundation
