import Pyzlc.Foundation.BigEndian

/-!
# MessagePack

The format of nested values: a head tells the type of an object and its size, and the
contents follow.  Encoding takes the shortest head; decoding takes any head and leaves
the bytes behind the first object alone.
-/

namespace Pyzlc.Foundation.MessagePack

/-- A value without parts; the keys of maps are such values. -/
inductive Scalar where
  | nil
  | bool (value : Bool)
  | int (value : Int)
  | str (value : Text)
  | bin (value : Bytes)
  deriving DecidableEq, Repr

inductive Value where
  | scalar (value : Scalar)
  | list (items : List Value)
  | map (entries : List (Scalar × Value))
  deriving Repr

/-! ## Heads -/

/-- What the first bytes of an object say. -/
inductive Head where
  | nil
  | bool (value : Bool)
  | int (value : Int)
  | str (length : Nat)
  | bin (length : Nat)
  | array (length : Nat)
  | map (length : Nat)
  deriving DecidableEq, Repr

/-- The first of some tagged fixed-width fields that holds a number. -/
def packNat : List (UInt8 × Nat) → Nat → Option Bytes
  | [], _ => none
  | (tag, width) :: wider, number =>
      if number < 256 ^ width then
        some (tag :: BigEndian.pack width number)
      else
        packNat wider number

/-- The first of some tagged fields that holds a negative number in two's complement. -/
def packNegative : List (UInt8 × Nat) → Int → Option Bytes
  | [], _ => none
  | (tag, width) :: wider, number =>
      if -(256 ^ width : Nat) ≤ 2 * number then
        some (tag :: BigEndian.packSigned width number)
      else
        packNegative wider number

def packInt (number : Int) : Option Bytes :=
  if 0 ≤ number then
    if number < 128 then
      some [UInt8.ofNat number.toNat]
    else
      packNat [(0xcc, 1), (0xcd, 2), (0xce, 4), (0xcf, 8)] number.toNat
  else if -32 ≤ number then
    some [UInt8.ofNat (number + 256).toNat]
  else
    packNegative [(0xd0, 1), (0xd1, 2), (0xd2, 4), (0xd3, 8)] number

/-- The shortest head. -/
def packHead : Head → Option Bytes
  | .nil => some [0xc0]
  | .bool false => some [0xc2]
  | .bool true => some [0xc3]
  | .int value => packInt value
  | .str length =>
      if length < 32 then some [UInt8.ofNat (0xa0 + length)]
      else packNat [(0xd9, 1), (0xda, 2), (0xdb, 4)] length
  | .bin length => packNat [(0xc4, 1), (0xc5, 2), (0xc6, 4)] length
  | .array length =>
      if length < 16 then some [UInt8.ofNat (0x90 + length)]
      else packNat [(0xdc, 2), (0xdd, 4)] length
  | .map length =>
      if length < 16 then some [UInt8.ofNat (0x80 + length)]
      else packNat [(0xde, 2), (0xdf, 4)] length

/-- Read a fixed-width field. -/
def readField {α : Type} (width : Nat) (field : Bytes → α) (data : Bytes) : Option (α × Bytes) :=
  if width ≤ data.length then some (field (data.take width), data.drop width) else none

/-- A length or an unsigned number of the given width. -/
def readNat (width : Nat) (head : Nat → Head) : Bytes → Option (Head × Bytes) :=
  readField width fun bytes => head (BigEndian.unpack bytes)

def readSigned (width : Nat) : Bytes → Option (Head × Bytes) :=
  readField width fun bytes => .int (BigEndian.unpackSigned bytes)

/-- The heads with a tag of their own. -/
def readTagged (tag : Nat) (rest : Bytes) : Option (Head × Bytes) :=
  match tag with
  | 0xc0 => some (.nil, rest)
  | 0xc2 => some (.bool false, rest)
  | 0xc3 => some (.bool true, rest)
  | 0xc4 => readNat 1 .bin rest
  | 0xc5 => readNat 2 .bin rest
  | 0xc6 => readNat 4 .bin rest
  | 0xcc => readNat 1 (fun number => .int number) rest
  | 0xcd => readNat 2 (fun number => .int number) rest
  | 0xce => readNat 4 (fun number => .int number) rest
  | 0xcf => readNat 8 (fun number => .int number) rest
  | 0xd0 => readSigned 1 rest
  | 0xd1 => readSigned 2 rest
  | 0xd2 => readSigned 4 rest
  | 0xd3 => readSigned 8 rest
  | 0xd9 => readNat 1 .str rest
  | 0xda => readNat 2 .str rest
  | 0xdb => readNat 4 .str rest
  | 0xdc => readNat 2 .array rest
  | 0xdd => readNat 4 .array rest
  | 0xde => readNat 2 .map rest
  | 0xdf => readNat 4 .map rest
  | _ => none

/-- The head of an object; floats and extension types are left out. -/
def readHead : Bytes → Option (Head × Bytes)
  | [] => none
  | tag :: rest =>
      if tag.toNat < 0x80 then some (.int tag.toNat, rest)
      else if tag.toNat < 0x90 then some (.map (tag.toNat - 0x80), rest)
      else if tag.toNat < 0xa0 then some (.array (tag.toNat - 0x90), rest)
      else if tag.toNat < 0xc0 then some (.str (tag.toNat - 0xa0), rest)
      else if 0xe0 ≤ tag.toNat then some (.int (tag.toNat - 256), rest)
      else readTagged tag.toNat rest

theorem readField_append {α : Type} {width : Nat} {field : Bytes → α} {bytes : Bytes}
    (length : bytes.length = width) (rest : Bytes) :
    readField width field (bytes ++ rest) = some (field bytes, rest) := by
  have within : width ≤ (bytes ++ rest).length := by
    rw [List.length_append]
    omega
  rw [readField, if_pos within, List.take_left' length, List.drop_left' length]

theorem readNat_pack {width number : Nat} (fits : number < 256 ^ width) (head : Nat → Head)
    (rest : Bytes) :
    readNat width head (BigEndian.pack width number ++ rest) = some (head number, rest) := by
  rw [readNat, readField_append (BigEndian.length_pack width number),
    BigEndian.unpack_pack fits]

theorem readSigned_packSigned {width : Nat} {number : Int}
    (low : -(256 ^ width : Nat) ≤ 2 * number) (negative : number < 0) (rest : Bytes) :
    readSigned width (BigEndian.packSigned width number ++ rest) = some (.int number, rest) := by
  rw [readSigned, readField_append (BigEndian.length_packSigned width number),
    BigEndian.unpackSigned_packSigned low (by omega)]

/-- The tags lead to the reader of their fields. -/
def Announces (reader : Nat → Bytes → Option (Head × Bytes)) : List (UInt8 × Nat) → Prop
  | [] => True
  | (tag, width) :: wider =>
      (∀ rest, readHead (tag :: rest) = reader width rest) ∧ Announces reader wider

theorem readHead_packNat {forms : List (UInt8 × Nat)} {number : Nat} {bytes : Bytes}
    (head : Nat → Head) (packed : packNat forms number = some bytes)
    (announced : Announces (fun width => readNat width head) forms) (rest : Bytes) :
    readHead (bytes ++ rest) = some (head number, rest) := by
  induction forms with
  | nil => cases packed
  | cons form wider ih =>
      rw [packNat] at packed
      by_cases fits : number < 256 ^ form.2
      · rw [if_pos fits] at packed
        cases packed
        rw [List.cons_append, announced.1]
        exact readNat_pack fits head rest
      · rw [if_neg fits] at packed
        exact ih packed announced.2

theorem readHead_packNegative {forms : List (UInt8 × Nat)} {number : Int} {bytes : Bytes}
    (negative : number < 0) (packed : packNegative forms number = some bytes)
    (announced : Announces readSigned forms) (rest : Bytes) :
    readHead (bytes ++ rest) = some (.int number, rest) := by
  induction forms with
  | nil => cases packed
  | cons form wider ih =>
      rw [packNegative] at packed
      by_cases fits : -(256 ^ form.2 : Nat) ≤ 2 * number
      · rw [if_pos fits] at packed
        cases packed
        rw [List.cons_append, announced.1]
        exact readSigned_packSigned fits negative rest
      · rw [if_neg fits] at packed
        exact ih packed announced.2

/-- A tag that holds the value itself. -/
theorem toNat_ofNat {number : Nat} (small : number < 256) :
    (UInt8.ofNat number).toNat = number := by
  rw [UInt8.toNat_ofNat']
  omega

theorem readHead_packInt {number : Int} {bytes : Bytes} (packed : packInt number = some bytes)
    (rest : Bytes) : readHead (bytes ++ rest) = some (.int number, rest) := by
  unfold packInt at packed
  split at packed
  next nonneg =>
    split at packed
    next small =>
      cases packed
      have tag : (UInt8.ofNat number.toNat).toNat = number.toNat := toNat_ofNat (by omega)
      rw [List.cons_append, List.nil_append, readHead, if_pos (by omega), tag,
        Int.toNat_of_nonneg nonneg]
    next =>
      have read := readHead_packNat (fun number => .int number) packed
        ⟨fun _ => rfl, fun _ => rfl, fun _ => rfl, fun _ => rfl, trivial⟩ rest
      rw [read, Int.toNat_of_nonneg nonneg]
  next =>
    split at packed
    next small =>
      cases packed
      have tag : (UInt8.ofNat (number + 256).toNat).toNat = (number + 256).toNat :=
        toNat_ofNat (by omega)
      rw [List.cons_append, List.nil_append, readHead, if_neg (by omega), if_neg (by omega),
        if_neg (by omega), if_neg (by omega), if_pos (by omega), tag,
        show (((number + 256).toNat : Int) - 256) = number by omega]
    next =>
      exact readHead_packNegative (by omega) packed
        ⟨fun _ => rfl, fun _ => rfl, fun _ => rfl, fun _ => rfl, trivial⟩ rest

/-- Every head is read back and nothing behind it is touched. -/
theorem readHead_packHead {head : Head} {bytes : Bytes} (packed : packHead head = some bytes)
    (rest : Bytes) : readHead (bytes ++ rest) = some (head, rest) := by
  cases head with
  | nil => cases packed; rfl
  | bool value => cases value <;> cases packed <;> rfl
  | int value => exact readHead_packInt packed rest
  | bin length =>
      exact readHead_packNat .bin packed
        ⟨fun _ => rfl, fun _ => rfl, fun _ => rfl, trivial⟩ rest
  | str length =>
      rw [packHead] at packed
      split at packed
      next short =>
        cases packed
        have tag : (UInt8.ofNat (0xa0 + length)).toNat = 0xa0 + length := toNat_ofNat (by omega)
        rw [List.cons_append, List.nil_append, readHead, if_neg (by omega), if_neg (by omega),
          if_neg (by omega), if_pos (by omega), tag, Nat.add_sub_cancel_left]
      next =>
        exact readHead_packNat .str packed ⟨fun _ => rfl, fun _ => rfl, fun _ => rfl, trivial⟩ rest
  | array length =>
      rw [packHead] at packed
      split at packed
      next short =>
        cases packed
        have tag : (UInt8.ofNat (0x90 + length)).toNat = 0x90 + length := toNat_ofNat (by omega)
        rw [List.cons_append, List.nil_append, readHead, if_neg (by omega), if_neg (by omega),
          if_pos (by omega), tag, Nat.add_sub_cancel_left]
      next =>
        exact readHead_packNat .array packed ⟨fun _ => rfl, fun _ => rfl, trivial⟩ rest
  | map length =>
      rw [packHead] at packed
      split at packed
      next short =>
        cases packed
        have tag : (UInt8.ofNat (0x80 + length)).toNat = 0x80 + length := toNat_ofNat (by omega)
        rw [List.cons_append, List.nil_append, readHead, if_neg (by omega), if_pos (by omega),
          tag, Nat.add_sub_cancel_left]
      next =>
        exact readHead_packNat .map packed ⟨fun _ => rfl, fun _ => rfl, trivial⟩ rest

/-! ## Encoding -/

def encodeScalar : Scalar → Option Bytes
  | .nil => packHead .nil
  | .bool value => packHead (.bool value)
  | .int value => packHead (.int value)
  | .str value => do
      let bytes ← value.encode
      let head ← packHead (.str bytes.length)
      return head ++ bytes
  | .bin value => do
      let head ← packHead (.bin value.length)
      return head ++ value

mutual

/-- The encoding of a value; absent when a number, a length or a text has none. -/
def encode : Value → Option Bytes
  | .scalar value => encodeScalar value
  | .list items => do
      let head ← packHead (.array items.length)
      let contents ← encodeItems items
      return head ++ contents
  | .map entries => do
      let head ← packHead (.map entries.length)
      let contents ← encodeEntries entries
      return head ++ contents

def encodeItems : List Value → Option Bytes
  | [] => some []
  | item :: others => do
      let first ← encode item
      let contents ← encodeItems others
      return first ++ contents

def encodeEntries : List (Scalar × Value) → Option Bytes
  | [] => some []
  | (key, value) :: others => do
      let first ← encodeScalar key
      let second ← encode value
      let contents ← encodeEntries others
      return first ++ (second ++ contents)

end

mutual

/-- How deep lists and maps are nested. -/
def depth : Value → Nat
  | .scalar _ => 0
  | .list items => itemsDepth items + 1
  | .map entries => entriesDepth entries + 1

def itemsDepth : List Value → Nat
  | [] => 0
  | item :: others => max (depth item) (itemsDepth others)

def entriesDepth : List (Scalar × Value) → Nat
  | [] => 0
  | (_, value) :: others => max (depth value) (entriesDepth others)

end

/-! ## Decoding -/

/-- The text of some bytes. -/
def readText (bytes rest : Bytes) : Option (Scalar × Bytes) :=
  (Text.decode bytes).map fun text => (.str text, rest)

/-- What a head without parts is the head of. -/
def readScalar : Head → Bytes → Option (Scalar × Bytes)
  | .nil, rest => some (.nil, rest)
  | .bool value, rest => some (.bool value, rest)
  | .int value, rest => some (.int value, rest)
  | .str length, rest => (readField length id rest).bind fun read => readText read.1 read.2
  | .bin length, rest => readField length Scalar.bin rest
  | .array _, _ => none
  | .map _, _ => none

def decodeScalar (data : Bytes) : Option (Scalar × Bytes) :=
  (readHead data).bind fun read => readScalar read.1 read.2

/-- A counted run of objects. -/
def many {α : Type} (item : Bytes → Option (α × Bytes)) : Nat → Bytes → Option (List α × Bytes)
  | 0, data => some ([], data)
  | count + 1, data => (item data).bind fun first =>
      (many item count first.2).map fun others => (first.1 :: others.1, others.2)

/-- A key and the value behind it. -/
def entry {α : Type} (item : Bytes → Option (α × Bytes)) (data : Bytes) :
    Option ((Scalar × α) × Bytes) :=
  (decodeScalar data).bind fun key => (item key.2).map fun value => ((key.1, value.1), value.2)

/-- What a head is the head of, its parts read by `item`. -/
def readContents (item : Bytes → Option (Value × Bytes)) : Head → Bytes → Option (Value × Bytes)
  | .array count, data => (many item count data).map fun items => (.list items.1, items.2)
  | .map count, data =>
      (many (entry item) count data).map fun entries => (.map entries.1, entries.2)
  | head, data => (readScalar head data).map fun value => (.scalar value.1, value.2)

/-- The first object of the data and what is behind it, nested at most to the limit. -/
def decode : Nat → Bytes → Option (Value × Bytes)
  | 0, data => (decodeScalar data).map fun value => (.scalar value.1, value.2)
  | limit + 1, data =>
      (readHead data).bind fun head => readContents (decode limit) head.1 head.2

theorem decodeScalar_encodeScalar {value : Scalar} {bytes : Bytes}
    (encoded : encodeScalar value = some bytes) (rest : Bytes) :
    decodeScalar (bytes ++ rest) = some (value, rest) := by
  cases value with
  | nil | bool value | int value =>
      rw [encodeScalar] at encoded
      rw [decodeScalar, readHead_packHead encoded rest]
      rfl
  | bin value =>
      rcases Option.bind_eq_some_iff.1 encoded with ⟨head, packed, joined⟩
      cases joined
      rw [decodeScalar, List.append_assoc, readHead_packHead packed]
      exact readField_append rfl rest
  | str value =>
      rcases Option.bind_eq_some_iff.1 encoded with ⟨text, textEncoded, later⟩
      rcases Option.bind_eq_some_iff.1 later with ⟨head, packed, joined⟩
      cases joined
      rw [decodeScalar, List.append_assoc, readHead_packHead packed]
      show (readField text.length id (text ++ rest)).bind _ = _
      rw [readField_append rfl rest, Option.bind_some, readText,
        Text.decode_of_encode (show value.encode = some (id text) from textEncoded)]
      rfl

/-- A scalar is a scalar at every limit. -/
theorem decode_of_decodeScalar {data rest : Bytes} {value : Scalar}
    (decoded : decodeScalar data = some (value, rest)) (limit : Nat) :
    decode limit data = some (.scalar value, rest) := by
  cases limit with
  | zero => rw [decode, decoded]; rfl
  | succ limit =>
      rcases Option.bind_eq_some_iff.1 decoded with ⟨⟨head, behind⟩, read, readValue⟩
      rw [decode, read]
      cases head with
      | array length => cases readValue
      | map length => cases readValue
      | nil | bool value | int value | str length | bin length =>
          exact congrArg (Option.map fun value : Scalar × Bytes => (Value.scalar value.1, value.2))
            readValue

mutual

/-- Decoding gives an encoded value back, whatever is behind it. -/
theorem decode_encode (value : Value) {bytes : Bytes} {limit : Nat}
    (encoded : encode value = some bytes) (shallow : depth value ≤ limit) (rest : Bytes) :
    decode limit (bytes ++ rest) = some (value, rest) := by
  cases value with
  | scalar value =>
      exact decode_of_decodeScalar (decodeScalar_encodeScalar encoded rest) limit
  | list items =>
      rw [encode] at encoded
      rcases Option.bind_eq_some_iff.1 encoded with ⟨head, packed, later⟩
      rcases Option.bind_eq_some_iff.1 later with ⟨contents, contentsEncoded, joined⟩
      cases joined
      cases limit with
      | zero => rw [depth] at shallow; omega
      | succ limit =>
          have run := many_encodeItems items contentsEncoded
            (by rw [depth] at shallow; omega : itemsDepth items ≤ limit) rest
          rw [decode, List.append_assoc, readHead_packHead packed]
          rw [Option.bind_some, readContents, run]
          rfl
  | map entries =>
      rw [encode] at encoded
      rcases Option.bind_eq_some_iff.1 encoded with ⟨head, packed, later⟩
      rcases Option.bind_eq_some_iff.1 later with ⟨contents, contentsEncoded, joined⟩
      cases joined
      cases limit with
      | zero => rw [depth] at shallow; omega
      | succ limit =>
          have run := many_encodeEntries entries contentsEncoded
            (by rw [depth] at shallow; omega : entriesDepth entries ≤ limit) rest
          rw [decode, List.append_assoc, readHead_packHead packed]
          rw [Option.bind_some, readContents, run]
          rfl

theorem many_encodeItems (items : List Value) {bytes : Bytes} {limit : Nat}
    (encoded : encodeItems items = some bytes) (shallow : itemsDepth items ≤ limit)
    (rest : Bytes) : many (decode limit) items.length (bytes ++ rest) = some (items, rest) := by
  cases items with
  | nil =>
      rw [encodeItems] at encoded
      cases encoded
      rfl
  | cons item others =>
      rw [encodeItems] at encoded
      rcases Option.bind_eq_some_iff.1 encoded with ⟨first, firstEncoded, later⟩
      rcases Option.bind_eq_some_iff.1 later with ⟨contents, contentsEncoded, joined⟩
      cases joined
      rw [itemsDepth] at shallow
      have head := decode_encode item firstEncoded
        (Nat.le_trans (Nat.le_max_left _ _) shallow) (contents ++ rest)
      have tail := many_encodeItems others contentsEncoded
        (Nat.le_trans (Nat.le_max_right _ _) shallow) rest
      rw [List.length_cons, many, List.append_assoc, head, Option.bind_some, tail]
      rfl

theorem many_encodeEntries (entries : List (Scalar × Value)) {bytes : Bytes} {limit : Nat}
    (encoded : encodeEntries entries = some bytes) (shallow : entriesDepth entries ≤ limit)
    (rest : Bytes) :
    many (entry (decode limit)) entries.length (bytes ++ rest) = some (entries, rest) := by
  cases entries with
  | nil =>
      rw [encodeEntries] at encoded
      cases encoded
      rfl
  | cons pair others =>
      rcases pair with ⟨key, value⟩
      rw [encodeEntries] at encoded
      rcases Option.bind_eq_some_iff.1 encoded with ⟨first, firstEncoded, later⟩
      rcases Option.bind_eq_some_iff.1 later with ⟨second, secondEncoded, latest⟩
      rcases Option.bind_eq_some_iff.1 latest with ⟨contents, contentsEncoded, joined⟩
      cases joined
      rw [entriesDepth] at shallow
      have keyRead := decodeScalar_encodeScalar firstEncoded (second ++ (contents ++ rest))
      have valueRead := decode_encode value secondEncoded
        (Nat.le_trans (Nat.le_max_left _ _) shallow) (contents ++ rest)
      have tail := many_encodeEntries others contentsEncoded
        (Nat.le_trans (Nat.le_max_right _ _) shallow) rest
      rw [List.length_cons, many, List.append_assoc, List.append_assoc, entry, keyRead,
        Option.bind_some, valueRead, Option.map_some, Option.bind_some, tail]
      rfl

end

/-- No object is empty. -/
theorem decode_nil (limit : Nat) : decode limit [] = none := by
  cases limit <;> rfl

theorem encode_ne_nil {value : Value} {bytes : Bytes} (encoded : encode value = some bytes) :
    bytes ≠ [] := by
  intro empty
  have decoded := decode_encode value encoded (Nat.le_refl _) []
  rw [empty, List.append_nil, decode_nil] at decoded
  cases decoded

/-! ## Maps -/

/-- The keys a strict decoder accepts. -/
def isStrictKey : Scalar → Bool
  | .str _ | .bin _ => true
  | .nil | .bool _ | .int _ => false

mutual

/-- Every key of every map is a text or a byte string. -/
def strictKeys : Value → Bool
  | .scalar _ => true
  | .list items => itemsStrict items
  | .map entries => entriesStrict entries

def itemsStrict : List Value → Bool
  | [] => true
  | item :: others => strictKeys item && itemsStrict others

def entriesStrict : List (Scalar × Value) → Bool
  | [] => true
  | (key, value) :: others => isStrictKey key && strictKeys value && entriesStrict others

end

mutual

/-- No map has a key twice. -/
def DistinctKeys : Value → Prop
  | .scalar _ => True
  | .list items => ItemsDistinct items
  | .map entries => (entries.map Prod.fst).Nodup ∧ EntriesDistinct entries

def ItemsDistinct : List Value → Prop
  | [] => True
  | item :: others => DistinctKeys item ∧ ItemsDistinct others

def EntriesDistinct : List (Scalar × Value) → Prop
  | [] => True
  | (_, value) :: others => DistinctKeys value ∧ EntriesDistinct others

end

/-! ## Readers look at nothing behind what they take -/

/-- What a reader takes is in front, and it reads the same before any other bytes. -/
def Prefixed {α : Type} (reader : Bytes → Option (α × Bytes)) : Prop :=
  ∀ data value rest, reader data = some (value, rest) →
    ∃ front, data = front ++ rest ∧ ∀ behind, reader (front ++ behind) = some (value, behind)

theorem prefixed_pure {α : Type} (value : α) :
    Prefixed fun data => some (value, data) := by
  intro data result rest read
  cases read
  exact ⟨[], rfl, fun _ => rfl⟩

theorem prefixed_none {α : Type} : Prefixed fun _ => (none : Option (α × Bytes)) := by
  intro data result rest read
  cases read

theorem prefixed_bind {α β : Type} {first : Bytes → Option (α × Bytes)}
    (second : α → Bytes → Option (β × Bytes)) (firstPrefixed : Prefixed first)
    (secondPrefixed : ∀ value, Prefixed (second value)) :
    Prefixed fun data => (first data).bind fun read => second read.1 read.2 := by
  intro data value rest read
  rcases Option.bind_eq_some_iff.1 read with ⟨⟨middle, between⟩, firstRead, secondRead⟩
  rcases firstPrefixed _ _ _ firstRead with ⟨front, rfl, firstAgain⟩
  rcases secondPrefixed _ _ _ _ secondRead with ⟨back, rfl, secondAgain⟩
  refine ⟨front ++ back, (List.append_assoc _ _ _).symm, fun behind => ?_⟩
  show (first (front ++ back ++ behind)).bind _ = _
  rw [List.append_assoc, firstAgain, Option.bind_some]
  exact secondAgain behind

theorem prefixed_map {α β : Type} {first : Bytes → Option (α × Bytes)} (image : α → β)
    (prefixed : Prefixed first) :
    Prefixed fun data => (first data).map fun read => (image read.1, read.2) := by
  intro data value rest read
  rcases Option.map_eq_some_iff.1 read with ⟨⟨middle, between⟩, firstRead, same⟩
  cases same
  rcases prefixed _ _ _ firstRead with ⟨front, rfl, again⟩
  refine ⟨front, rfl, fun behind => ?_⟩
  show (first (front ++ behind)).map _ = _
  rw [again behind]
  rfl

theorem prefixed_ite {α : Type} {condition : Prop} [Decidable condition]
    {first second : Bytes → Option (α × Bytes)} (firstPrefixed : Prefixed first)
    (secondPrefixed : Prefixed second) :
    Prefixed fun data => if condition then first data else second data := by
  by_cases holds : condition
  · simp only [if_pos holds]
    exact firstPrefixed
  · simp only [if_neg holds]
    exact secondPrefixed

theorem prefixed_readField {α : Type} (width : Nat) (field : Bytes → α) :
    Prefixed (readField width field) := by
  intro data value rest read
  unfold readField at read
  split at read
  next within =>
    cases read
    refine ⟨data.take width, (List.take_append_drop _ _).symm, fun behind => ?_⟩
    exact readField_append (List.length_take_of_le within) behind
  next => cases read

theorem prefixed_readTagged (tag : Nat) : Prefixed (readTagged tag) := by
  unfold readTagged
  split
  all_goals first
    | exact prefixed_pure _
    | exact prefixed_none
    | exact prefixed_readField _ _

theorem prefixed_readHead : Prefixed readHead := by
  intro data head rest read
  cases data with
  | nil => cases read
  | cons tag tail =>
      have later : Prefixed fun tail => readHead (tag :: tail) :=
        prefixed_ite (prefixed_pure _) <| prefixed_ite (prefixed_pure _) <|
          prefixed_ite (prefixed_pure _) <| prefixed_ite (prefixed_pure _) <|
            prefixed_ite (prefixed_pure _) (prefixed_readTagged _)
      rcases later _ _ _ read with ⟨front, rfl, again⟩
      exact ⟨tag :: front, rfl, again⟩

theorem prefixed_readText (bytes : Bytes) : Prefixed (readText bytes) := by
  cases decoded : Text.decode bytes with
  | none =>
      intro data text rest read
      rw [readText, decoded] at read
      cases read
  | some found =>
      have constant : readText bytes = fun data => some (Scalar.str found, data) := by
        funext data
        rw [readText, decoded]
        rfl
      rw [constant]
      exact prefixed_pure _

theorem prefixed_readScalar (head : Head) : Prefixed (readScalar head) := by
  cases head with
  | nil | bool value | int value => exact prefixed_pure _
  | array length | map length => exact prefixed_none
  | bin length => exact prefixed_readField _ _
  | str length => exact prefixed_bind readText (prefixed_readField length id) prefixed_readText

theorem prefixed_decodeScalar : Prefixed decodeScalar :=
  prefixed_bind readScalar prefixed_readHead prefixed_readScalar

theorem prefixed_many {α : Type} {item : Bytes → Option (α × Bytes)} (prefixed : Prefixed item)
    (count : Nat) : Prefixed (many item count) := by
  induction count with
  | zero => exact prefixed_pure _
  | succ count ih => exact prefixed_bind _ prefixed fun first => prefixed_map (first :: ·) ih

theorem prefixed_entry {α : Type} {item : Bytes → Option (α × Bytes)}
    (prefixed : Prefixed item) : Prefixed (entry item) :=
  prefixed_bind _ prefixed_decodeScalar fun key => prefixed_map (Prod.mk key) prefixed

theorem prefixed_readContents {item : Bytes → Option (Value × Bytes)} (prefixed : Prefixed item)
    (head : Head) : Prefixed (readContents item head) := by
  cases head with
  | array count => exact prefixed_map Value.list (prefixed_many prefixed count)
  | map count => exact prefixed_map Value.map (prefixed_many (prefixed_entry prefixed) count)
  | nil => exact prefixed_map Value.scalar (prefixed_readScalar .nil)
  | bool value => exact prefixed_map Value.scalar (prefixed_readScalar (.bool value))
  | int value => exact prefixed_map Value.scalar (prefixed_readScalar (.int value))
  | str length => exact prefixed_map Value.scalar (prefixed_readScalar (.str length))
  | bin length => exact prefixed_map Value.scalar (prefixed_readScalar (.bin length))

theorem prefixed_decode (limit : Nat) : Prefixed (decode limit) := by
  induction limit with
  | zero => exact prefixed_map Value.scalar prefixed_decodeScalar
  | succ limit ih => exact prefixed_bind _ prefixed_readHead (prefixed_readContents ih)

/-! ## Complete objects -/

/-- What the first bytes of an object announce: some bytes, or some objects. -/
inductive Frame where
  | bytes (length : Nat)
  | objects (count : Nat)
  deriving DecidableEq, Repr

def Head.frame : Head → Frame
  | .nil | .bool _ | .int _ => .bytes 0
  | .str length | .bin length => .bytes length
  | .array length => .objects length
  | .map length => .objects (2 * length)

/-- The tags of floats and of extension types, whose data follow a byte for the type. -/
def readExtended (tag : Nat) (rest : Bytes) : Option (Frame × Bytes) :=
  match tag with
  | 0xc7 => readField 1 (fun bytes => .bytes (BigEndian.unpack bytes + 1)) rest
  | 0xc8 => readField 2 (fun bytes => .bytes (BigEndian.unpack bytes + 1)) rest
  | 0xc9 => readField 4 (fun bytes => .bytes (BigEndian.unpack bytes + 1)) rest
  | 0xca => some (.bytes 4, rest)
  | 0xcb => some (.bytes 8, rest)
  | 0xd4 => some (.bytes 2, rest)
  | 0xd5 => some (.bytes 3, rest)
  | 0xd6 => some (.bytes 5, rest)
  | 0xd7 => some (.bytes 9, rest)
  | 0xd8 => some (.bytes 17, rest)
  | _ => none

/-- The first bytes of an object of any type. -/
def readFrame (data : Bytes) : Option (Frame × Bytes) :=
  match readHead data, data with
  | some (head, rest), _ => some (head.frame, rest)
  | none, tag :: rest => readExtended tag.toNat rest
  | none, [] => none

mutual

/-- The bytes of exactly one object, of any type and nested to any depth. -/
inductive Object : Bytes → Prop where
  | plain {data payload : Bytes} (frame : readFrame data = some (.bytes payload.length, payload)) :
      Object data
  | nested {data contents : Bytes} {count : Nat}
      (frame : readFrame data = some (.objects count, contents))
      (complete : Objects count contents) : Object data

/-- The bytes of so many objects, one behind the other. -/
inductive Objects : Nat → Bytes → Prop where
  | none : Objects 0 []
  | more {count : Nat} {first others : Bytes} (object : Object first)
      (complete : Objects count others) : Objects (count + 1) (first ++ others)

end

theorem not_object_nil : ¬ Object [] := by
  intro object
  cases object with
  | plain frame | nested frame => cases frame

theorem readFrame_of_readHead {data rest : Bytes} {head : Head}
    (read : readHead data = some (head, rest)) : readFrame data = some (head.frame, rest) := by
  simp only [readFrame, read]

/-- What a reader takes is in front, and has a certain shape. -/
def Takes {α : Type} (shape : Bytes → Prop) (reader : Bytes → Option (α × Bytes)) : Prop :=
  ∀ data value rest, reader data = some (value, rest) →
    ∃ front, data = front ++ rest ∧ shape front

theorem takes_map {α β : Type} {shape : Bytes → Prop} {reader : Bytes → Option (α × Bytes)}
    (image : α → β) (takes : Takes shape reader) :
    Takes shape fun data => (reader data).map fun read => (image read.1, read.2) := by
  intro data value rest read
  rcases Option.map_eq_some_iff.1 read with ⟨⟨taken, behind⟩, first, same⟩
  cases same
  exact takes data taken behind first

theorem takes_readField {α : Type} (width : Nat) (field : Bytes → α) :
    Takes (fun bytes => bytes.length = width) (readField width field) := by
  intro data value rest read
  unfold readField at read
  split at read
  next within =>
    cases read
    exact ⟨data.take width, (List.take_append_drop _ _).symm, List.length_take_of_le within⟩
  next => cases read

/-- What is read behind a head is what the head announces. -/
def Head.Announces (head : Head) (contents : Bytes) : Prop :=
  head.frame = .bytes contents.length ∨ ∃ count, head.frame = .objects count ∧
    Objects count contents

theorem takes_readScalar (head : Head) : Takes head.Announces (readScalar head) := by
  intro data value rest read
  cases head with
  | nil | bool | int =>
      cases read
      exact ⟨[], rfl, Or.inl rfl⟩
  | array | map => cases read
  | bin length =>
      rcases takes_readField length _ data value rest read with ⟨front, split, long⟩
      exact ⟨front, split, Or.inl (congrArg Frame.bytes long.symm)⟩
  | str length =>
      rcases Option.bind_eq_some_iff.1 read with ⟨⟨bytes, behind⟩, field, text⟩
      rcases Option.map_eq_some_iff.1 text with ⟨_, _, same⟩
      cases same
      rcases takes_readField length _ data bytes behind field with ⟨front, split, long⟩
      exact ⟨front, split, Or.inl (congrArg Frame.bytes long.symm)⟩

/-- A head with what it announces is one object. -/
theorem takes_bind_readHead {α : Type} {contents : Head → Bytes → Option (α × Bytes)}
    (takes : ∀ head, Takes head.Announces (contents head)) :
    Takes Object fun data => (readHead data).bind fun read => contents read.1 read.2 := by
  intro data value rest read
  rcases Option.bind_eq_some_iff.1 read with ⟨⟨head, body⟩, headRead, contentsRead⟩
  rcases takes head body value rest contentsRead with ⟨payload, rfl, announced⟩
  rcases prefixed_readHead _ _ _ headRead with ⟨front, rfl, again⟩
  have frame := readFrame_of_readHead (again payload)
  refine ⟨front ++ payload, (List.append_assoc _ _ _).symm, ?_⟩
  rcases announced with plain | ⟨count, nested, complete⟩
  · rw [plain] at frame
    exact .plain frame
  · rw [nested] at frame
    exact .nested frame complete

theorem takes_decodeScalar : Takes Object decodeScalar :=
  takes_bind_readHead takes_readScalar

theorem takes_many {α : Type} {item : Bytes → Option (α × Bytes)} (takes : Takes Object item)
    (count : Nat) : Takes (Objects count) (many item count) := by
  induction count with
  | zero =>
      intro data values rest read
      cases read
      exact ⟨[], rfl, .none⟩
  | succ count ih =>
      intro data values rest read
      rcases Option.bind_eq_some_iff.1 read with ⟨⟨first, behind⟩, firstRead, othersRead⟩
      rcases Option.map_eq_some_iff.1 othersRead with ⟨⟨others, last⟩, run, same⟩
      cases same
      rcases takes data first behind firstRead with ⟨front, rfl, object⟩
      rcases ih behind others last run with ⟨back, rfl, complete⟩
      exact ⟨front ++ back, (List.append_assoc _ _ _).symm, .more object complete⟩

/-- A key and a value are two objects. -/
theorem takes_entries {α : Type} {item : Bytes → Option (α × Bytes)} (takes : Takes Object item)
    (count : Nat) : Takes (Objects (2 * count)) (many (entry item) count) := by
  induction count with
  | zero =>
      intro data values rest read
      cases read
      exact ⟨[], rfl, .none⟩
  | succ count ih =>
      intro data values rest read
      rcases Option.bind_eq_some_iff.1 read with ⟨⟨first, behind⟩, firstRead, othersRead⟩
      rcases Option.map_eq_some_iff.1 othersRead with ⟨⟨others, last⟩, run, same⟩
      cases same
      rcases Option.bind_eq_some_iff.1 firstRead with ⟨⟨key, afterKey⟩, keyRead, valueRead⟩
      rcases Option.map_eq_some_iff.1 valueRead with ⟨⟨value, afterValue⟩, itemRead, together⟩
      cases together
      rcases takes_decodeScalar data key afterKey keyRead with ⟨keyBytes, rfl, keyObject⟩
      rcases takes afterKey value afterValue itemRead with ⟨valueBytes, rfl, valueObject⟩
      rcases ih afterValue others last run with ⟨back, rfl, complete⟩
      refine ⟨keyBytes ++ (valueBytes ++ back), ?_, .more keyObject (.more valueObject complete)⟩
      rw [List.append_assoc, List.append_assoc]

theorem takes_readContents {item : Bytes → Option (Value × Bytes)} (takes : Takes Object item)
    (head : Head) : Takes head.Announces (readContents item head) := by
  cases head with
  | nil => exact takes_map Value.scalar (takes_readScalar .nil)
  | bool value => exact takes_map Value.scalar (takes_readScalar (.bool value))
  | int value => exact takes_map Value.scalar (takes_readScalar (.int value))
  | str length => exact takes_map Value.scalar (takes_readScalar (.str length))
  | bin length => exact takes_map Value.scalar (takes_readScalar (.bin length))
  | array count =>
      intro data value rest read
      rcases takes_map Value.list (takes_many takes count) data value rest read with
        ⟨front, split, complete⟩
      exact ⟨front, split, Or.inr ⟨count, rfl, complete⟩⟩
  | map count =>
      intro data value rest read
      rcases takes_map Value.map (takes_entries takes count) data value rest read with
        ⟨front, split, complete⟩
      exact ⟨front, split, Or.inr ⟨2 * count, rfl, complete⟩⟩

/-- What is decoded is one complete object. -/
theorem takes_decode (limit : Nat) : Takes Object (decode limit) := by
  induction limit with
  | zero => exact takes_map Value.scalar takes_decodeScalar
  | succ limit ih => exact takes_bind_readHead (takes_readContents ih)

end Pyzlc.Foundation.MessagePack
