import Pyzlc.Utils.VersionSuffix

/-!
# The protocol version

`_parse_version` splits the version of the installed package on dots first and cuts a
suffix from the third piece only, at `-` and at `+`.  A suffix that begins with
neither of these nor with a dot therefore stays with the third number, which is then
no integer, and every heartbeat announces version 0.0.0.
-/

namespace Pyzlc

open Foundation

/-- The version in the package metadata, absent where `importlib.metadata.version` raises
`PackageNotFoundError`. -/
def getZlcVersion (installed : Option Text) : Text := installed.getD "unknown"

/-- `items[index]`. -/
def item (items : List Text) (index : Nat) : Except PyError Text :=
  match items[index]? with
  | some found => .ok found
  | none => .error (.exception "IndexError")

/-- `text.split(separator)[0]`. -/
def firstPiece (separator : CodePoint) (text : Text) : Except PyError Text :=
  item (text.splitOn separator) 0

/-- `piece.split("-")[0].split("+")[0]`. -/
def cutSuffix (piece : Text) : Except PyError Text :=
  firstPiece (CodePoint.ofChar '-') piece >>= firstPiece (CodePoint.ofChar '+')

/-- `int(trim(parts[index])) if len(parts) > index else 0`. -/
def numberAt (interpreter : Interpreter) (parts : List Text) (index : Nat)
    (trim : Text → Except PyError Text) : Except PyError Int :=
  if index < parts.length then
    item parts index >>= trim >>= interpreter.pyInt
  else
    .ok 0

/-- The release numbers of a version, as the guarded part of `_parse_version` reads them. -/
def readVersion (interpreter : Interpreter) (versionStr : Text) :
    Except PyError (Int × Int × Int) := do
  let parts := versionStr.splitOn (CodePoint.ofChar '.')
  let major ← numberAt interpreter parts 0 .ok
  let minor ← numberAt interpreter parts 1 .ok
  let patch ← numberAt interpreter parts 2 cutSuffix
  return (major, minor, patch)

/-- The classes that `except (ValueError, IndexError)` names. -/
def IsInvalidVersion (error : PyError) : Prop :=
  error = .valueError ∨ error = .exception "IndexError"

instance (error : PyError) : Decidable (IsInvalidVersion error) :=
  inferInstanceAs (Decidable (_ ∨ _))

/-- Parse a version string like '1.2.3' into a tuple, and an unknown or invalid version into
(0, 0, 0). -/
def parseVersion (interpreter : Interpreter) (installed : Option Text) :
    Except PyError (Int × Int × Int) :=
  if getZlcVersion installed = "unknown" then
    .ok (0, 0, 0)
  else
    match readVersion interpreter (getZlcVersion installed) with
    | .ok version => .ok version
    | .error error => if IsInvalidVersion error then .ok (0, 0, 0) else .error error

/-! ## Every version is parsed -/

/-- A computation that raises only what the parser handles. -/
def RaisesInvalidVersion {α : Type} (computed : Except PyError α) : Prop :=
  ∀ error, computed = .error error → IsInvalidVersion error

namespace RaisesInvalidVersion

variable {α β : Type}

theorem ok (value : α) : RaisesInvalidVersion (.ok value) := by
  intro error raised
  cases raised

theorem bind {computed : Except PyError α} {next : α → Except PyError β}
    (first : RaisesInvalidVersion computed) (later : ∀ value, RaisesInvalidVersion (next value)) :
    RaisesInvalidVersion (computed >>= next) := by
  cases computed with
  | ok value => exact later value
  | error raised =>
      intro error same
      cases same
      exact first _ rfl

theorem pyInt (interpreter : Interpreter) (text : Text) :
    RaisesInvalidVersion (interpreter.pyInt text) := by
  intro error raised
  exact Or.inl (interpreter.pyInt_raises raised)

theorem item (items : List Text) (index : Nat) : RaisesInvalidVersion (item items index) := by
  intro error raised
  unfold Pyzlc.item at raised
  split at raised
  next => cases raised
  next =>
    cases raised
    exact Or.inr rfl

theorem cutSuffix (piece : Text) : RaisesInvalidVersion (cutSuffix piece) :=
  (item _ 0).bind fun _ => item _ 0

theorem numberAt (interpreter : Interpreter) (parts : List Text) (index : Nat)
    {trim : Text → Except PyError Text} (trims : ∀ piece, RaisesInvalidVersion (trim piece)) :
    RaisesInvalidVersion (numberAt interpreter parts index trim) := by
  unfold Pyzlc.numberAt
  split
  next => exact ((item parts index).bind trims).bind (pyInt interpreter)
  next => exact ok 0

theorem readVersion (interpreter : Interpreter) (versionStr : Text) :
    RaisesInvalidVersion (readVersion interpreter versionStr) := by
  apply bind (numberAt interpreter _ 0 ok)
  intro major
  apply bind (numberAt interpreter _ 1 ok)
  intro minor
  apply bind (numberAt interpreter _ 2 cutSuffix)
  intro patch
  exact ok (major, minor, patch)

end RaisesInvalidVersion

/-- Whatever the metadata holds, a triple is returned. -/
theorem parseVersion_isOk (interpreter : Interpreter) (installed : Option Text) :
    ∃ version, parseVersion interpreter installed = .ok version := by
  unfold parseVersion
  split
  next => exact ⟨_, rfl⟩
  next =>
    cases read : readVersion interpreter (getZlcVersion installed) with
    | ok version => exact ⟨version, rfl⟩
    | error error =>
        have handled := RaisesInvalidVersion.readVersion interpreter _ error read
        exact ⟨_, if_pos handled⟩

/-! ## Three numbers and a suffix -/

/-- Three dot-separated numerals and what follows them. -/
def versionText (major minor patch : Numeral) (suffix : Text) : Text :=
  major.text ++ CodePoint.ofChar '.' ::
    (minor.text ++ CodePoint.ofChar '.' :: (patch.text ++ suffix))

theorem head?_splitOn (separator : CodePoint) (text : Text) :
    (text.splitOn separator).head? = some (text.takeWhile (· != separator)) := by
  induction text with
  | nil => rfl
  | cons first rest ih =>
      rw [List.splitOn_cons_eq_if_modifyHead, List.takeWhile_cons]
      by_cases same : first = separator
      · rw [if_pos (beq_iff_eq.2 same), same, bne_self_eq_false]
        rfl
      · rw [if_neg (mt beq_iff_eq.1 same), List.head?_modifyHead, ih, bne_iff_ne.2 same]
        rfl

/-- The first piece of a split ends before the first separator. -/
theorem firstPiece_eq (separator : CodePoint) (text : Text) :
    firstPiece separator text = .ok (text.takeWhile (· != separator)) := by
  rw [firstPiece, item, ← List.head?_eq_getElem?, head?_splitOn]

/-- Cut at a dot, then at a dash, then at a plus: cut at the first of them. -/
theorem takeWhile_cuts (text : Text) :
    ((text.takeWhile (· != CodePoint.ofChar '.')).takeWhile (· != CodePoint.ofChar '-')).takeWhile
      (· != CodePoint.ofChar '+') = text.takeWhile fun point => !isCut point := by
  rw [List.takeWhile_takeWhile, List.takeWhile_takeWhile]
  congr 1
  funext point
  simp only [isCut, bne, Bool.not_or]
  grind

theorem numberAt_of_trim (interpreter : Interpreter) {parts : List Text} {index : Nat}
    {trim : Text → Except PyError Text} {piece text : Text} (present : parts[index]? = some piece)
    (trimmed : trim piece = .ok text) :
    numberAt interpreter parts index trim = interpreter.pyInt text := by
  have inBounds := (List.getElem?_eq_some_iff.1 present).1
  have found : item parts index = .ok piece := by rw [item, present]
  rw [numberAt, if_pos inBounds, found]
  change trim piece >>= interpreter.pyInt = interpreter.pyInt text
  rw [trimmed]
  rfl

theorem numberAt_ok (interpreter : Interpreter) {parts : List Text} {index : Nat} {piece : Text}
    (present : parts[index]? = some piece) :
    numberAt interpreter parts index .ok = interpreter.pyInt piece :=
  numberAt_of_trim interpreter present rfl

/-- A numeral holds none of the signs at which a version is cut. -/
theorem isCut_of_mem_text {numeral : Numeral} {point : CodePoint} (member : point ∈ numeral.text) :
    isCut point = false := by
  rw [Bool.eq_false_iff]
  intro cut
  simp only [isCut, Bool.or_eq_true, beq_iff_eq] at cut
  rcases cut with (rfl | rfl) | rfl
  · exact Numeral.not_mem_text (Or.inl (by decide)) member
  · exact Numeral.not_mem_text (Or.inl (by decide)) member
  · exact Numeral.not_mem_text (Or.inl (by decide)) member

theorem cutSuffix_takeWhile (text : Text) :
    cutSuffix (text.takeWhile (· != CodePoint.ofChar '.')) =
      .ok (text.takeWhile fun point => !isCut point) := by
  rw [← takeWhile_cuts, cutSuffix, firstPiece_eq]
  exact firstPiece_eq _ _

theorem takeWhile_text_append (numeral : Numeral) (suffix : Text) :
    (numeral.text ++ suffix).takeWhile (fun point => !isCut point) =
      numeral.text ++ glued suffix := by
  apply List.takeWhile_append_of_pos
  intro point member
  rw [isCut_of_mem_text member]
  rfl

/-- The first two numbers are read alone, the third one with what a suffix leaves glued to it. -/
theorem readVersion_versionText (interpreter : Interpreter) (major minor patch : Numeral)
    (suffix : Text) :
    readVersion interpreter (versionText major minor patch suffix) = do
      let major ← interpreter.pyInt major.text
      let minor ← interpreter.pyInt minor.text
      let patch ← interpreter.pyInt (patch.text ++ glued suffix)
      return (major, minor, patch) := by
  have dotless (numeral : Numeral) : CodePoint.ofChar '.' ∉ numeral.text :=
    Numeral.not_mem_text (Or.inl (by decide))
  have third := head?_splitOn (CodePoint.ofChar '.') (patch.text ++ suffix)
  rcases List.head?_eq_some_iff.1 third with ⟨more, split⟩
  have parts : (versionText major minor patch suffix).splitOn (CodePoint.ofChar '.') =
      major.text :: minor.text ::
        (patch.text ++ suffix).takeWhile (· != CodePoint.ofChar '.') :: more := by
    rw [versionText, List.splitOn_append_cons_self_of_not_mem (dotless major),
      List.splitOn_append_cons_self_of_not_mem (dotless minor), split]
  have cut : cutSuffix ((patch.text ++ suffix).takeWhile (· != CodePoint.ofChar '.')) =
      .ok (patch.text ++ glued suffix) := by
    rw [cutSuffix_takeWhile, takeWhile_text_append]
  rw [readVersion, parts, numberAt_ok interpreter rfl, numberAt_ok interpreter rfl,
    numberAt_of_trim interpreter rfl cut]

/-- The three numerals are short enough to be converted. -/
def Convertible (interpreter : Interpreter) (major minor patch : Numeral) : Prop :=
  interpreter.Converts major.digits.length ∧ interpreter.Converts minor.digits.length ∧
    interpreter.Converts patch.digits.length

instance (interpreter : Interpreter) (major minor patch : Numeral) :
    Decidable (Convertible interpreter major minor patch) :=
  inferInstanceAs (Decidable (_ ∧ _ ∧ _))

/-- The triple of three numerals. -/
def release (major minor patch : Numeral) : Int × Int × Int :=
  (major.value, minor.value, patch.value)

theorem readVersion_of_separated {interpreter : Interpreter} {major minor patch : Numeral}
    {suffix : Text} (separated : Separated suffix)
    (convertible : Convertible interpreter major minor patch) :
    readVersion interpreter (versionText major minor patch suffix) =
      .ok (release major minor patch) := by
  rcases convertible with ⟨first, second, third⟩
  rw [readVersion_versionText, glued_of_separated separated, List.append_nil,
    interpreter.pyInt_text, interpreter.pyInt_text, interpreter.pyInt_text, if_pos first,
    if_pos second, if_pos third]
  rfl

/-- A number that is not read makes the version invalid, whichever of the three it is. -/
theorem readVersion_of_failure {interpreter : Interpreter} {major minor patch : Numeral}
    {suffix : Text} (fails : ¬ interpreter.Converts major.digits.length ∨
      ¬ interpreter.Converts minor.digits.length ∨
      interpreter.pyInt (patch.text ++ glued suffix) = .error .valueError) :
    readVersion interpreter (versionText major minor patch suffix) = .error .valueError := by
  rw [readVersion_versionText, interpreter.pyInt_text, interpreter.pyInt_text]
  by_cases first : interpreter.Converts major.digits.length
  · by_cases second : interpreter.Converts minor.digits.length
    · have third := (fails.resolve_left (not_not_intro first)).resolve_left (not_not_intro second)
      rw [if_pos first, if_pos second, third]
      rfl
    · rw [if_pos first, if_neg second]
      rfl
  · rw [if_neg first]
    rfl

theorem readVersion_of_not_convertible {interpreter : Interpreter} {major minor patch : Numeral}
    {suffix : Text} (separated : Separated suffix)
    (long : ¬ Convertible interpreter major minor patch) :
    readVersion interpreter (versionText major minor patch suffix) = .error .valueError := by
  apply readVersion_of_failure
  rw [glued_of_separated separated, List.append_nil, interpreter.pyInt_text]
  rcases Decidable.not_and_iff_or_not.1 long with first | others
  · exact Or.inl first
  · rcases Decidable.not_and_iff_or_not.1 others with second | third
    · exact Or.inr (Or.inl second)
    · exact Or.inr (Or.inr (if_neg third))

theorem readVersion_of_letter {interpreter : Interpreter} {major minor patch : Numeral}
    {suffix : Text} {letter : CodePoint} (member : letter ∈ glued suffix)
    (isLetter : IsLetter letter) :
    readVersion interpreter (versionText major minor patch suffix) = .error .valueError := by
  apply readVersion_of_failure
  have unread := interpreter.pyInt_of_letter isLetter (List.mem_append_right patch.text member)
  exact Or.inr (Or.inr unread)

theorem versionText_ne_unknown (major minor patch : Numeral) (suffix : Text) :
    versionText major minor patch suffix ≠ "unknown" := by
  intro equal
  have dot : CodePoint.ofChar '.' ∈ versionText major minor patch suffix :=
    List.mem_append_right _ List.mem_cons_self
  rw [equal] at dot
  exact absurd dot (by decide)

/-- The release numbers behind a cut, and version 0.0.0 otherwise. -/
theorem parseVersion_versionText (interpreter : Interpreter) (major minor patch : Numeral)
    {suffix : Text} (settled : Settled suffix) :
    parseVersion interpreter (some (versionText major minor patch suffix)) =
      .ok (if Separated suffix ∧ Convertible interpreter major minor patch then
        release major minor patch
      else
        (0, 0, 0)) := by
  have known : getZlcVersion (some (versionText major minor patch suffix)) =
      versionText major minor patch suffix := rfl
  rw [parseVersion, known, if_neg (versionText_ne_unknown major minor patch suffix)]
  by_cases separated : Separated suffix
  · by_cases convertible : Convertible interpreter major minor patch
    · rw [readVersion_of_separated separated convertible, if_pos ⟨separated, convertible⟩]
    · rw [readVersion_of_not_convertible separated convertible,
        if_neg fun both => convertible both.2]
      rfl
  · rcases settled with cut | ⟨letter, member, isLetter⟩
    · exact absurd cut separated
    · rw [readVersion_of_letter member isLetter, if_neg fun both => separated both.1]
      rfl

/-! ## The release numbers come back -/

/-- The parsed version is the release the version was made of. -/
def RecoversRelease (interpreter : Interpreter) (major minor patch : Numeral)
    (suffix : Suffix) : Prop :=
  parseVersion interpreter (some (versionText major minor patch suffix.text)) =
    .ok (release major minor patch)

instance (interpreter : Interpreter) (major minor patch : Numeral) (suffix : Suffix) :
    Decidable (RecoversRelease interpreter major minor patch suffix) :=
  inferInstanceAs (Decidable (parseVersion _ _ = _))

/-- The tables of an interpreter, cut down to ASCII, with its usual limit. -/
def asciiInterpreter : Interpreter where
  isSpace point := point.val == 32 || 9 ≤ point.val && point.val ≤ 13
  decimal point :=
    if digit : 48 ≤ point.val ∧ point.val ≤ 57 then some ⟨point.val - 48, by omega⟩ else none
  maxStrDigits := 4300
  isSpace_ascii := by
    intro point _
    simp
  decimal_ascii := by
    intro point digit _
    by_cases range : 48 ≤ point.val ∧ point.val ≤ 57
    · rw [dif_pos range, Option.some.injEq, Fin.ext_iff]
      simp only
      omega
    · rw [dif_neg range]
      constructor
      · intro absent
        cases absent
      · intro value
        omega

/-- A numeral of one digit. -/
def oneDigit (digit : Fin 10) : Numeral := ⟨[digit], List.cons_ne_nil _ _⟩

/-- The suffix `rc1`. -/
def releaseCandidate : Suffix :=
  .packageIndex {
    preRelease := some {
      before := none
      word := "rc"
      known := by decide
      after := none
      number := [1] }
    postRelease := none
    devRelease := none
    localVersion := none }

/-- A triple is returned for every version, and it is the release exactly when the suffix is empty
or begins with `.`, `-` or `+` and no number is too long to be converted, or when all three
numbers are zero. -/
theorem recoversRelease_iff_and_isOk (interpreter : Interpreter) :
    (∀ (major minor patch : Numeral) (suffix : Suffix),
      RecoversRelease interpreter major minor patch suffix ↔
        (Separated suffix.text ∧ Convertible interpreter major minor patch) ∨
          release major minor patch = (0, 0, 0)) ∧
      ∀ installed, ∃ version, parseVersion interpreter installed = .ok version := by
  constructor
  · intro major minor patch suffix
    rw [RecoversRelease, parseVersion_versionText interpreter major minor patch suffix.settled]
    by_cases condition : Separated suffix.text ∧ Convertible interpreter major minor patch
    · rw [if_pos condition]
      exact iff_of_true rfl (Or.inl condition)
    · rw [if_neg condition]
      constructor
      · intro recovered
        exact Or.inr (Except.ok.inj recovered).symm
      · rintro (met | zero)
        · exact absurd met condition
        · rw [zero]
  · exact parseVersion_isOk interpreter

/-- Version 1.2.3rc1 is announced as 0.0.0. -/
theorem not_recoversRelease_releaseCandidate :
    ¬ RecoversRelease asciiInterpreter (oneDigit 1) (oneDigit 2) (oneDigit 3) releaseCandidate ∧
      parseVersion asciiInterpreter (some "1.2.3rc1") = .ok (0, 0, 0) := by
  decide +kernel

example : parseVersion asciiInterpreter (some "1.2.3-alpha.1+build") = .ok (1, 2, 3) := by
  decide +kernel

end Pyzlc
