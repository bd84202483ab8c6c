import Pyzlc.Utils.PyInt

/-!
# What may follow the release numbers of a version

The suffixes of both published version schemes: a pre-release, post-release and
development marker with a local version in the scheme of the package index, and a
pre-release and build tag in semantic versioning.  The forms that the first scheme
reads and then normalises belong to it: either case, and an optional separator on
both sides of a marker's word.
-/

namespace Pyzlc

open Foundation

/-! ## The package index scheme -/

inductive Separator where
  | dash
  | underscore
  | dot
  deriving DecidableEq, Repr

namespace Separator

def point : Separator → CodePoint
  | dash => CodePoint.ofChar '-'
  | underscore => CodePoint.ofChar '_'
  | dot => CodePoint.ofChar '.'

/-- The text of a separator that may be left out. -/
def optional : Option Separator → Text
  | none => []
  | some separator => [separator.point]

end Separator

/-- The lower case of an ASCII letter. -/
def lower (point : CodePoint) : CodePoint :=
  if upper : 65 ≤ point.val ∧ point.val ≤ 90 then ⟨point.val + 32, by omega⟩ else point

/-- A marker such as `rc1`, `-alpha.1`, `.post2` or `_DEV`: one of some words in either case,
separators around it, and a number that may be missing. -/
structure Marker (words : List Text) where
  before : Option Separator
  word : Text
  known : word.map lower ∈ words
  after : Option Separator
  number : List (Fin 10)

def Marker.text {words : List Text} (marker : Marker words) : Text :=
  Separator.optional marker.before ++
    (marker.word ++ (Separator.optional marker.after ++ marker.number.map digitPoint))

def preReleaseWords : List Text :=
  ["a", "b", "c", "rc", "alpha", "beta", "pre", "preview"]

def postReleaseWords : List Text := ["post", "rev", "r"]

def devReleaseWords : List Text := ["dev"]

/-- A post-release is marked by a word or is a bare number behind a dash. -/
inductive PostRelease where
  | bare (number : Numeral)
  | marked (marker : Marker postReleaseWords)

def PostRelease.text : PostRelease → Text
  | bare number => CodePoint.ofChar '-' :: number.text
  | marked marker => marker.text

/-- A letter or a digit of ASCII. -/
def IsAlphanumeric (point : CodePoint) : Prop :=
  IsLetter point ∨ 48 ≤ point.val ∧ point.val ≤ 57

structure Segment where
  text : Text
  nonempty : text ≠ []
  characters : ∀ point ∈ text, IsAlphanumeric point

structure LocalVersion where
  first : Segment
  rest : List (Separator × Segment)

def LocalVersion.text (version : LocalVersion) : Text :=
  CodePoint.ofChar '+' ::
    (version.first.text ++ version.rest.flatMap fun entry => entry.1.point :: entry.2.text)

/-- A part that may be left out. -/
def optionalText {α : Type} (text : α → Text) : Option α → Text
  | none => []
  | some part => text part

structure PackageIndexSuffix where
  preRelease : Option (Marker preReleaseWords)
  postRelease : Option PostRelease
  devRelease : Option (Marker devReleaseWords)
  localVersion : Option LocalVersion

def PackageIndexSuffix.text (suffix : PackageIndexSuffix) : Text :=
  optionalText Marker.text suffix.preRelease ++
    (optionalText PostRelease.text suffix.postRelease ++
      (optionalText Marker.text suffix.devRelease ++
        optionalText LocalVersion.text suffix.localVersion))

/-! ## Semantic versioning -/

/-- An identifier of a build tag. -/
structure Identifier where
  text : Text
  nonempty : text ≠ []
  characters : ∀ point ∈ text, IsAlphanumeric point ∨ point = CodePoint.ofChar '-'

/-- An identifier of a pre-release: one made of digits only has no leading zero. -/
structure PreReleaseIdentifier extends Identifier where
  noLeadingZero : (∀ point ∈ text, 48 ≤ point.val ∧ point.val ≤ 57) →
    text.head? = some (CodePoint.ofChar '0') → text.length = 1

/-- Identifiers between dots behind an introducing sign, or nothing. -/
def tagText (sign : CodePoint) : List Text → Text
  | [] => []
  | identifiers => sign :: [CodePoint.ofChar '.'].intercalate identifiers

/-- A tag that is left out is the one without identifiers. -/
structure SemanticSuffix where
  preRelease : List PreReleaseIdentifier
  build : List Identifier

def SemanticSuffix.text (suffix : SemanticSuffix) : Text :=
  tagText (CodePoint.ofChar '-') (suffix.preRelease.map fun identifier => identifier.text) ++
    tagText (CodePoint.ofChar '+') (suffix.build.map Identifier.text)

/-- What follows the three release numbers; nothing at all is a suffix of both schemes. -/
inductive Suffix where
  | packageIndex (suffix : PackageIndexSuffix)
  | semantic (suffix : SemanticSuffix)

def Suffix.text : Suffix → Text
  | packageIndex suffix => suffix.text
  | semantic suffix => suffix.text

/-! ## Where a suffix can be told from a number -/

/-- The signs at which a version is split or cut. -/
def isCut (point : CodePoint) : Bool :=
  point == CodePoint.ofChar '.' || point == CodePoint.ofChar '-' || point == CodePoint.ofChar '+'

/-- A suffix that leaves the number before it alone: it is empty or begins at a cut. -/
def Separated : Text → Prop
  | [] => True
  | first :: _ => isCut first = true

instance (suffix : Text) : Decidable (Separated suffix) :=
  match suffix with
  | [] => isTrue trivial
  | first :: _ => inferInstanceAs (Decidable (isCut first = true))

/-- What of a suffix stays with the number before it. -/
def glued (suffix : Text) : Text := suffix.takeWhile fun point => !isCut point

theorem glued_of_separated {suffix : Text} (separated : Separated suffix) : glued suffix = [] := by
  cases suffix with
  | nil => rfl
  | cons first rest =>
      apply List.takeWhile_cons_of_neg
      rw [show isCut first = true from separated]
      exact Bool.false_ne_true

/-- A text that begins at a cut, or has a letter before the first one. -/
def Settled (text : Text) : Prop := Separated text ∨ ∃ letter ∈ glued text, IsLetter letter

theorem settled_nil : Settled [] := Or.inl trivial

theorem settled_of_cut {first : CodePoint} (rest : Text) (cut : isCut first = true) :
    Settled (first :: rest) :=
  Or.inl cut

theorem isCut_of_isLetter {point : CodePoint} (letter : IsLetter point) : isCut point = false := by
  have dot : point ≠ CodePoint.ofChar '.' := letter.ne (by decide)
  have dash : point ≠ CodePoint.ofChar '-' := letter.ne (by decide)
  have plus : point ≠ CodePoint.ofChar '+' := letter.ne (by decide)
  simp only [isCut, beq_eq_false_iff_ne.2 dot, beq_eq_false_iff_ne.2 dash,
    beq_eq_false_iff_ne.2 plus, Bool.or_self]

theorem settled_of_letter {letter : CodePoint} (rest : Text) (isLetter : IsLetter letter) :
    Settled (letter :: rest) := by
  right
  refine ⟨letter, ?_, isLetter⟩
  rw [glued, List.takeWhile_cons_of_pos (by rw [isCut_of_isLetter isLetter]; rfl)]
  exact List.mem_cons_self

theorem settled_of_underscore {letter : CodePoint} (rest : Text) (isLetter : IsLetter letter) :
    Settled (CodePoint.ofChar '_' :: letter :: rest) := by
  right
  refine ⟨letter, ?_, isLetter⟩
  rw [glued, List.takeWhile_cons_of_pos (by decide),
    List.takeWhile_cons_of_pos (by rw [isCut_of_isLetter isLetter]; rfl)]
  exact List.mem_cons_of_mem _ List.mem_cons_self

theorem glued_append_left (text rest : Text) : glued text <+: glued (text ++ rest) := by
  induction text with
  | nil => exact List.nil_prefix
  | cons first text ih =>
      rw [glued, glued, List.cons_append, List.takeWhile_cons, List.takeWhile_cons]
      split
      next => exact List.cons_prefix_cons.2 ⟨rfl, ih⟩
      next => exact List.nil_prefix

/-- Parts that are settled make up a settled text, whichever of them are left out. -/
theorem Settled.append {text rest : Text} (settled : Settled text) (settledRest : Settled rest) :
    Settled (text ++ rest) := by
  cases text with
  | nil => exact settledRest
  | cons first text =>
      rcases settled with separated | ⟨letter, member, isLetter⟩
      · exact settled_of_cut _ separated
      · exact Or.inr ⟨letter, (glued_append_left _ _).subset member, isLetter⟩

/-- Whether a text begins with a letter. -/
def BeginsWithLetter : Text → Prop
  | [] => False
  | first :: _ => IsLetter first

instance (text : Text) : Decidable (BeginsWithLetter text) :=
  match text with
  | [] => isFalse id
  | first :: _ => inferInstanceAs (Decidable (IsLetter first))

theorem isLetter_of_lower {point : CodePoint} (letter : IsLetter (lower point)) :
    IsLetter point := by
  unfold lower at letter
  split at letter
  next upper => exact Or.inl upper
  next => exact letter

theorem Marker.settled {words : List Text} (letters : ∀ word ∈ words, BeginsWithLetter word)
    (marker : Marker words) : Settled marker.text := by
  rcases marker with ⟨before, word, known, after, number⟩
  have begins := letters _ known
  rcases word with _ | ⟨head, word⟩
  · cases begins
  · have isLetter : IsLetter head := isLetter_of_lower begins
    rcases before with _ | before
    · exact settled_of_letter _ isLetter
    · cases before with
      | dash => exact settled_of_cut _ (by decide)
      | underscore => exact settled_of_underscore _ isLetter
      | dot => exact settled_of_cut _ (by decide)

theorem PostRelease.settled (postRelease : PostRelease) : Settled postRelease.text := by
  cases postRelease with
  | bare number => exact settled_of_cut _ (by decide)
  | marked marker => exact marker.settled (by decide)

theorem LocalVersion.settled (version : LocalVersion) : Settled version.text :=
  settled_of_cut _ (by decide)

theorem settled_optionalText {α : Type} {text : α → Text} (settled : ∀ part, Settled (text part))
    (part : Option α) : Settled (optionalText text part) := by
  cases part with
  | none => exact settled_nil
  | some part => exact settled part

theorem settled_tagText (sign : CodePoint) (cut : isCut sign = true) (identifiers : List Text) :
    Settled (tagText sign identifiers) := by
  cases identifiers with
  | nil => exact settled_nil
  | cons identifier rest => exact settled_of_cut _ cut

/-- Every suffix begins at a cut, or leaves a letter with the number before it. -/
theorem Suffix.settled (suffix : Suffix) : Settled suffix.text := by
  cases suffix with
  | packageIndex suffix =>
      have preRelease := settled_optionalText
        (fun marker : Marker preReleaseWords => marker.settled (by decide)) suffix.preRelease
      have postRelease := settled_optionalText PostRelease.settled suffix.postRelease
      have devRelease := settled_optionalText
        (fun marker : Marker devReleaseWords => marker.settled (by decide)) suffix.devRelease
      have localVersion := settled_optionalText LocalVersion.settled suffix.localVersion
      exact preRelease.append (postRelease.append (devRelease.append localVersion))
  | semantic suffix =>
      have preRelease := settled_tagText (CodePoint.ofChar '-') (by decide)
        (suffix.preRelease.map fun identifier => identifier.text)
      have build := settled_tagText (CodePoint.ofChar '+') (by decide)
        (suffix.build.map Identifier.text)
      exact preRelease.append build

end Pyzlc
