import Pyzlc.Foundation.Text

/-!
# Absolute paths

The resolution of absolute paths where no component is a symbolic link: repeated slashes
and `.` are dropped, and `..` leads to the parent, which for the root is the root.
-/

namespace Pyzlc.Foundation.Path

/-- A directory or file by the components that lead to it from the root. -/
abbrev Location := List Text

def slash : CodePoint := CodePoint.ofChar '/'

/-- The components of a path, without empty ones and `.`. -/
def components (path : Text) : List Text :=
  (path.splitOn slash).filter fun component => component ≠ [] ∧ component ≠ "."

/-- Where a component leads from a directory. -/
def enter (directory : Location) (component : Text) : Location :=
  if component = ".." then directory.dropLast else directory ++ [component]

/-- Where a sequence of components leads from a directory. -/
def walk (directory : Location) (route : List Text) : Location := route.foldl enter directory

/-- What an absolute path names. -/
def resolve (path : Text) : Location := walk [] (components path)

/-- A name that is one component of a path and leads to an entry of the directory. -/
structure IsEntry (name : Text) : Prop where
  one : slash ∉ name
  nonempty : name ≠ []
  not_current : name ≠ "."
  not_parent : name ≠ ".."

/-- A slash separates the components before it from those behind it. -/
theorem components_append_slash (first second : Text) :
    components (first ++ slash :: second) = components first ++ components second := by
  rw [components, List.splitOn_append_cons_self, List.filter_append]
  rfl

theorem IsEntry.components_eq {name : Text} (entry : IsEntry name) : components name = [name] := by
  rw [components, List.splitOn_eq_singleton entry.one]
  apply List.filter_eq_self.2
  intro component member
  rw [List.mem_singleton.1 member]
  exact decide_eq_true ⟨entry.nonempty, entry.not_current⟩

theorem IsEntry.enter_eq {name : Text} (entry : IsEntry name) (directory : Location) :
    enter directory name = directory ++ [name] :=
  if_neg entry.not_parent

theorem walk_append (directory : Location) (first second : List Text) :
    walk directory (first ++ second) = walk (walk directory first) second :=
  List.foldl_append

@[simp] theorem walk_cons (directory : Location) (component : Text) (route : List Text) :
    walk directory (component :: route) = walk (enter directory component) route := rfl

@[simp] theorem walk_nil (directory : Location) : walk directory [] = directory := rfl

/-- Below a directory that an absolute path names, the rest of the path is walked. -/
theorem resolve_append_slash (first second : Text) :
    resolve (first ++ slash :: second) = walk (resolve first) (components second) := by
  rw [resolve, components_append_slash, walk_append]
  rfl

/-- An entry of the directory a path names. -/
theorem IsEntry.resolve_append {name : Text} (entry : IsEntry name) (path : Text) :
    resolve (path ++ slash :: name) = resolve path ++ [name] := by
  rw [resolve_append_slash, entry.components_eq, walk_cons, entry.enter_eq, walk_nil]

/-- Entries of one name are the same if and only if their directories are. -/
theorem IsEntry.resolve_append_inj {name : Text} (entry : IsEntry name) (path other : Text) :
    resolve (path ++ slash :: name) = resolve (other ++ slash :: name) ↔
      resolve path = resolve other := by
  rw [entry.resolve_append, entry.resolve_append]
  exact List.append_left_inj [name]

example : resolve "/tmp//a/./b/../c" = ["tmp", "a", "c"] := by decide

end Pyzlc.Foundation.Path
