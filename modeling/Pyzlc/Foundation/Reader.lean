import Mathlib.Data.List.Basic

/-!
# Positional readers and the formats they read

A reader walks over constant data from a position and may fail.  Reading a slice
may silently run past the end of the data, so a reader is compared with a format,
the relation between values and their encodings, in three parts:

* `Complete`: at an encoding, whatever surrounds it, the value is read back and the
  position ends behind the encoding;
* `Sound`: a position that ends inside the data has moved over an encoding of the
  value that was read;
* `Checked`: the position always ends inside the data.

A lax reader is sound but not checked; one checked read behind it, at a position
that can only have grown, makes the whole checked again.
-/

namespace Pyzlc.Foundation

theorem except_bind_eq_ok {ε α γ : Type} {first : Except ε α} {second : α → Except ε γ}
    {result : γ} :
    (first >>= second) = .ok result ↔
      ∃ value, first = .ok value ∧ second value = .ok result := by
  cases first with
  | error error => simp [bind, Except.bind]
  | ok value => simp [bind, Except.bind]

/-- A relation between values and their encodings. -/
abbrev Format (β α : Type) := α → List β → Prop

namespace Format

variable {β α γ : Type}

/-- The empty encoding of a known value. -/
def pure (value : α) : Format β α := fun read bytes => read = value ∧ bytes = []

/-- An encoding followed by one that may depend on the first value. -/
def bind (first : Format β α) (second : α → Format β γ) : Format β γ :=
  fun read bytes => ∃ value head tail,
    first value head ∧ second value read tail ∧ bytes = head ++ tail

/-- A known number of encodings one after another. -/
def times (format : Format β α) : Nat → Format β (List α)
  | 0 => pure []
  | count + 1 => bind format fun value =>
      bind (times format count) fun values => pure (value :: values)

/-- The encodings of the elements of a list one after another, by an encoder that
may raise. -/
def encodeAll {ε : Type} (encode : α → Except ε (List β)) : List α → Except ε (List β)
  | [] => .ok []
  | value :: rest => do
      let head ← encode value
      let tail ← encodeAll encode rest
      .ok (head ++ tail)

/-- A list can be encoded exactly when every element can. -/
theorem exists_encodeAll {ε : Type} {encode : α → Except ε (List β)} {values : List α} :
    (∃ bytes, encodeAll encode values = .ok bytes) ↔
      ∀ value ∈ values, ∃ bytes, encode value = .ok bytes := by
  induction values with
  | nil => simp [encodeAll]
  | cons value rest ih =>
      simp only [encodeAll, except_bind_eq_ok, List.mem_cons, forall_eq_or_imp, ← ih]
      constructor
      · rintro ⟨_, head, headEq, tail, tailEq, -⟩
        exact ⟨⟨head, headEq⟩, tail, tailEq⟩
      · rintro ⟨⟨head, headEq⟩, tail, tailEq⟩
        exact ⟨head ++ tail, head, headEq, tail, tailEq, rfl⟩

/-- Counted repetition of what an encoder produces on a domain is what it produces
element by element. -/
theorem times_iff {ε : Type} {format : Format β α} {encode : α → Except ε (List β)}
    {domain : α → Prop}
    (element : ∀ value bytes, format value bytes ↔ domain value ∧ encode value = .ok bytes)
    (count : Nat) (values : List α) (bytes : List β) :
    format.times count values bytes ↔
      values.length = count ∧ (∀ value ∈ values, domain value) ∧
        encodeAll encode values = .ok bytes := by
  induction count generalizing values bytes with
  | zero =>
      simp only [times, pure, List.length_eq_zero_iff]
      constructor
      · rintro ⟨rfl, rfl⟩
        simp [encodeAll]
      · rintro ⟨rfl, -, encoded⟩
        cases encoded
        exact ⟨rfl, rfl⟩
  | succ count ih =>
      simp only [times, bind, pure, element, ih]
      constructor
      · rintro ⟨value, head, tail, ⟨valid, headEq⟩, ⟨rest, body, last,
          ⟨length, valids, bodyEq⟩, ⟨rfl, rfl⟩, rfl⟩, rfl⟩
        refine ⟨by simp [length], ?_, ?_⟩
        · intro other member
          rcases List.mem_cons.1 member with equal | later
          · exact equal ▸ valid
          · exact valids other later
        · exact except_bind_eq_ok.2 ⟨head, headEq,
            except_bind_eq_ok.2 ⟨body, bodyEq, by rw [List.append_nil]⟩⟩
      · rintro ⟨length, valids, encoded⟩
        cases values with
        | nil => cases length
        | cons value rest =>
            rcases except_bind_eq_ok.1 encoded with ⟨head, headEq, tailEncoded⟩
            rcases except_bind_eq_ok.1 tailEncoded with ⟨tail, tailEq, joined⟩
            cases joined
            refine ⟨value, head, tail, ⟨valids value (by simp), headEq⟩,
              ⟨rest, tail, [], ⟨Nat.succ.inj length, ?_, tailEq⟩, ⟨rfl, rfl⟩, by simp⟩, rfl⟩
            intro other member
            exact valids other (List.mem_cons_of_mem _ member)

end Format

/-- A reader over constant data with a position and exceptions. -/
abbrev Reader (β ε α : Type) := ReaderT (List β) (StateT Nat (Except ε)) α

namespace Reader

variable {β ε α γ : Type}

/-- Read at a position: the value and the position behind it, or an exception. -/
def readAt (reader : Reader β ε α) (data : List β) (pos : Nat) : Except ε (α × Nat) :=
  (reader.run data).run pos

/-- Read one field with access to the whole data, then move over its width. -/
def field (parse : List β → Nat → Except ε α) (width : Nat) : Reader β ε α := do
  let data ← read
  let pos ← get
  let value ← parse data pos
  set (pos + width)
  return value

/-- Read a known number of times, collecting the values. -/
def times (reader : Reader β ε α) : Nat → Reader β ε (List α)
  | 0 => pure []
  | count + 1 => do
      let value ← reader
      let values ← times reader count
      pure (value :: values)

variable {reader : Reader β ε α} {rest : α → Reader β ε γ} {data : List β}

@[simp] theorem readAt_pure (value : α) (data : List β) (pos : Nat) :
    (pure value : Reader β ε α).readAt data pos = .ok (value, pos) := rfl

theorem readAt_field (parse : List β → Nat → Except ε α) (width : Nat) (data : List β)
    (pos : Nat) :
    (field parse width).readAt data pos =
      (parse data pos).map fun value => (value, pos + width) := by
  change ((parse data pos).bind fun value => Except.ok (value, pos)) >>= _ = _
  cases parse data pos <;> rfl

theorem readAt_field_eq_ok {parse : List β → Nat → Except ε α} {width pos next : Nat}
    {value : α} :
    (field parse width).readAt data pos = .ok (value, next) ↔
      parse data pos = .ok value ∧ next = pos + width := by
  rw [readAt_field]
  cases parse data pos with
  | error error => simp [Except.map]
  | ok read => simp [Except.map, eq_comm]

theorem readAt_bind (reader : Reader β ε α) (rest : α → Reader β ε γ) (data : List β)
    (pos : Nat) :
    (reader >>= rest).readAt data pos =
      match reader.readAt data pos with
      | .ok (value, next) => (rest value).readAt data next
      | .error error => .error error := by
  simp only [readAt, ReaderT.run_bind, StateT.run_bind]
  cases (reader.run data).run pos <;> rfl

theorem readAt_bind_of_ok {pos next : Nat} {value : α}
    (read : reader.readAt data pos = .ok (value, next)) :
    (reader >>= rest).readAt data pos = (rest value).readAt data next := by
  rw [readAt_bind, read]

theorem readAt_bind_eq_ok {pos final : Nat} {read : γ} :
    (reader >>= rest).readAt data pos = .ok (read, final) ↔
      ∃ value next, reader.readAt data pos = .ok (value, next) ∧
        (rest value).readAt data next = .ok (read, final) := by
  rw [readAt_bind]
  cases outcome : reader.readAt data pos with
  | ok pair => cases pair; simp
  | error error => simp

/-! ## The three laws -/

/-- The part of the data between two positions. -/
def slice (data : List β) (pos next : Nat) : List β := (data.drop pos).take (next - pos)

theorem slice_append_slice {pos middle next : Nat} (first : pos ≤ middle)
    (second : middle ≤ next) :
    slice data pos middle ++ slice data middle next = slice data pos next := by
  have split : next - pos = (middle - pos) + (next - middle) := by omega
  have shift : pos + (middle - pos) = middle := by omega
  rw [slice, slice, slice, split, List.take_add, List.drop_drop, shift]

/-- Every encoding is read back. -/
def Complete (format : Format β α) (reader : Reader β ε α) : Prop :=
  ∀ value bytes, format value bytes → ∀ before behind : List β,
    reader.readAt (before ++ bytes ++ behind) before.length =
      .ok (value, before.length + bytes.length)

/-- Positions never go back, and what was read inside the data was encoded there. -/
def Sound (format : Format β α) (reader : Reader β ε α) : Prop :=
  ∀ data pos value next, reader.readAt data pos = .ok (value, next) →
    pos ≤ next ∧ (next ≤ data.length → format value (slice data pos next))

/-- Reading ends inside the data. -/
def Checked (reader : Reader β ε α) : Prop :=
  ∀ data pos value next, reader.readAt data pos = .ok (value, next) → next ≤ data.length

/-- Reading from inside the data ends inside it. -/
def Bounded (reader : Reader β ε α) : Prop :=
  ∀ data pos value next, pos ≤ data.length →
    reader.readAt data pos = .ok (value, next) → next ≤ data.length

theorem Checked.bounded (checked : Checked reader) : Bounded reader :=
  fun data pos value next _ read => checked data pos value next read

/-! ### Returning -/

theorem complete_pure (value : α) :
    Complete (ε := ε) (Format.pure (β := β) value) (pure value) := by
  intro read bytes encoded before behind
  rcases encoded with ⟨rfl, rfl⟩
  simp

theorem sound_pure (value : α) :
    Sound (ε := ε) (Format.pure (β := β) value) (pure value) := by
  intro data pos read next outcome
  cases outcome
  exact ⟨Nat.le_refl _, fun _ => ⟨rfl, by simp [slice]⟩⟩

theorem bounded_pure (value : α) : Bounded (pure value : Reader β ε α) := by
  intro data pos read next within outcome
  cases outcome
  exact within

/-! ### Reading in sequence -/

theorem complete_bind {first : Format β α} {second : α → Format β γ}
    (head : Complete first reader) (tail : ∀ value, Complete (second value) (rest value)) :
    Complete (first.bind second) (reader >>= rest) := by
  intro read bytes encoded before behind
  rcases encoded with ⟨value, left, right, firstHolds, secondHolds, rfl⟩
  have headRead := head value left firstHolds before (right ++ behind)
  have tailRead := tail value read right secondHolds (before ++ left) behind
  simp only [List.append_assoc, List.length_append] at headRead tailRead ⊢
  rw [readAt_bind_of_ok headRead, tailRead, Nat.add_assoc]

theorem sound_bind {first : Format β α} {second : α → Format β γ}
    (head : Sound first reader) (tail : ∀ value, Sound (second value) (rest value)) :
    Sound (first.bind second) (reader >>= rest) := by
  intro data pos read final outcome
  rcases readAt_bind_eq_ok.1 outcome with ⟨value, next, headRead, tailRead⟩
  have headSound := head data pos value next headRead
  have tailSound := tail value data next read final tailRead
  refine ⟨Nat.le_trans headSound.1 tailSound.1, ?_⟩
  intro within
  exact ⟨value, slice data pos next, slice data next final,
    headSound.2 (Nat.le_trans tailSound.1 within), tailSound.2 within,
    (slice_append_slice headSound.1 tailSound.1).symm⟩

/-- A checked continuation checks everything read before it. -/
theorem checked_bind (tail : ∀ value, Checked (rest value)) :
    Checked (reader >>= rest) := by
  intro data pos read final outcome
  rcases readAt_bind_eq_ok.1 outcome with ⟨value, next, -, tailRead⟩
  exact tail value data next read final tailRead

theorem checked_bind_of_bounded (head : Checked reader)
    (tail : ∀ value, Bounded (rest value)) : Checked (reader >>= rest) := by
  intro data pos read final outcome
  rcases readAt_bind_eq_ok.1 outcome with ⟨value, next, headRead, tailRead⟩
  exact tail value data next read final (head data pos value next headRead) tailRead

theorem bounded_bind (head : Bounded reader) (tail : ∀ value, Bounded (rest value)) :
    Bounded (reader >>= rest) := by
  intro data pos read final within outcome
  rcases readAt_bind_eq_ok.1 outcome with ⟨value, next, headRead, tailRead⟩
  exact tail value data next read final (head data pos value next within headRead) tailRead

/-! ### Reading a known number of times -/

theorem complete_times {format : Format β α} (element : Complete format reader)
    (count : Nat) : Complete (format.times count) (times reader count) := by
  induction count with
  | zero => exact complete_pure []
  | succ count ih =>
      exact complete_bind element fun _ =>
        complete_bind ih fun _ => complete_pure _

theorem sound_times {format : Format β α} (element : Sound format reader)
    (count : Nat) : Sound (format.times count) (times reader count) := by
  induction count with
  | zero => exact sound_pure []
  | succ count ih =>
      exact sound_bind element fun _ => sound_bind ih fun _ => sound_pure _

theorem bounded_times (element : Bounded reader) (count : Nat) :
    Bounded (times reader count) := by
  induction count with
  | zero => exact bounded_pure []
  | succ count ih =>
      exact bounded_bind element fun _ => bounded_bind ih fun _ => bounded_pure _

/-! ### Reading a whole value -/

/-- A checked reader accepts no strict prefix of what it accepts. -/
theorem readAt_take_of_lt {format : Format β α} (complete : Complete format reader)
    (sound : Sound format reader) (checked : Checked reader) {value : α} {final : Nat}
    (read : reader.readAt data 0 = .ok (value, final)) {length : Nat}
    (shorter : length < final) (outcome : α × Nat) :
    reader.readAt (data.take length) 0 ≠ .ok outcome := by
  intro early
  rcases outcome with ⟨earlyValue, earlyFinal⟩
  have within := checked _ _ _ _ early
  have encoded := (sound _ _ _ _ early).2 within
  have again := complete earlyValue _ encoded [] (data.drop earlyFinal)
  have bound : earlyFinal ≤ length := Nat.le_trans within (List.length_take_le _ _)
  have sameStart : slice (data.take length) 0 earlyFinal = data.take earlyFinal := by
    simp [slice, List.take_take, Nat.min_eq_left bound]
  rw [sameStart, List.nil_append, List.take_append_drop, List.length_nil] at again
  have same := again.symm.trans read
  have finalEq := congrArg (fun result => result.toOption.map Prod.snd) same
  simp only [Except.toOption, Option.map_some, Option.some.injEq, List.length_take] at finalEq
  omega

end Reader

end Pyzlc.Foundation
