import LojbanTree.Rendering.Format

/-!
# Registries of formats

A registry knows formats by their names, one for each name, and keeps them in
the order of the names.
-/

namespace LojbanTree

/-- Formats in the order of their names. -/
structure Registry where
  formats : List Format

namespace Registry

/-- The registry without a format. -/
def empty : Registry := ⟨[]⟩

/-- Put a format in its place; a format of the same name gives way. -/
def insert (format : Format) : List Format → List Format
  | [] => [format]
  | other :: rest =>
      if format.name = other.name then format :: rest
      else if format.name < other.name then format :: other :: rest
      else other :: insert format rest

/-- Make a format known. -/
def register (registry : Registry) (format : Format) : Registry :=
  ⟨insert format registry.formats⟩

/-- The two formats that are always known. -/
def standard : Registry := (empty.register .json).register .text

/-- The format with a name. -/
def get? (registry : Registry) (name : String) : Option Format :=
  registry.formats.find? fun format => format.name == name

/-- Whether a name is known. -/
def has (registry : Registry) (name : String) : Bool := (registry.get? name).isSome

/-- The names of all formats in ascending order. -/
def names (registry : Registry) : List String := registry.formats.map (·.name)

/-- Write a tree in the format with a name. -/
def write (registry : Registry) (name : String) (view : View) (tree : Tree) :
    Run String :=
  match registry.get? name with
  | some format => format.write view tree
  | none => .fail (.format (.notFound name))

/-! ## Registering a format -/

theorem find?_insert_self (format : Format) (formats : List Format) :
    (insert format formats).find? (·.name == format.name) = some format := by
  induction formats with
  | nil => simp [insert]
  | cons other rest inRest =>
      rw [insert]
      split
      case isTrue => simp
      case isFalse different =>
        split
        case isTrue => simp
        case isFalse =>
          rw [List.find?_cons_of_neg (by simpa using Ne.symm different)]
          exact inRest

theorem find?_insert_of_ne {format : Format} {name : String}
    (different : format.name ≠ name) (formats : List Format) :
    (insert format formats).find? (·.name == name) =
      formats.find? (·.name == name) := by
  have skipped (rest : List Format) :
      (format :: rest).find? (·.name == name) = rest.find? (·.name == name) :=
    List.find?_cons_of_neg (by simpa using different)
  induction formats with
  | nil => exact skipped []
  | cons other rest inRest =>
      rw [insert]
      split
      case isTrue same =>
        rw [skipped, List.find?_cons_of_neg (by simpa [← same] using different)]
      case isFalse =>
        split
        case isTrue => exact skipped (other :: rest)
        case isFalse => rw [List.find?_cons, List.find?_cons, inRest]

variable (registry : Registry)

/-- A format that is made known is found under its name. -/
theorem get?_register_self (format : Format) :
    (registry.register format).get? format.name = some format :=
  find?_insert_self format registry.formats

/-- What is found under other names stays the same. -/
theorem get?_register_of_ne {format : Format} {name : String}
    (different : format.name ≠ name) :
    (registry.register format).get? name = registry.get? name :=
  find?_insert_of_ne different registry.formats

/-- A tree is written in a format that has been made known, whatever it does. -/
theorem write_register_self (format : Format) (view : View) (tree : Tree) :
    (registry.register format).write format.name view tree =
      format.write view tree := by
  rw [write, get?_register_self]

/--
A format that is known with a fixed output writes this, whatever it is given.
-/
theorem write_register_fixed (name output : String) (view : View) (tree : Tree) :
    (registry.register (.fixed name output)).write name view tree = .done output :=
  write_register_self registry (.fixed name output) view tree

/-- The fault of a format that cannot write any tree is the fault of the run. -/
theorem write_register_failing (name reason : String) (view : View) (tree : Tree) :
    (registry.register (.failing name reason)).write name view tree =
      .fail (.format (.failed reason)) :=
  write_register_self registry (.failing name reason) view tree

end Registry

end LojbanTree
