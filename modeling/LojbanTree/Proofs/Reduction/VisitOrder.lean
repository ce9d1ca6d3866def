import LojbanTree.Proofs.Reduction.Visits
import LojbanTree.View.Letter

/-!
# The journal of a reduction

A reduction writes one entry for each node that it visits, in the order in which
the nodes stand in the tree.  Words are carried over without a visit, and an empty
sequence is visited without an entry.  A run that is given up has written what
comes before the first visit beyond the limit.

`Run.Follows` says this of a part of the walk.  One visit has the property, and
parts one after another inherit it, so that the whole walk has it.
-/

namespace LojbanTree

namespace View

/-- The inner nodes to which the walk comes, in the order of the tree. -/
def visited (view : View) (tree : Tree) : List Place :=
  tree.places.filter fun place => view.visits place && !place.node.isLeaf

/-- The entry about a node. -/
def note (view : View) (place : Place) : Entry :=
  .visit (view.treatment place.node) place.node.name?

/-- The entries about nodes; there is none about an empty sequence. -/
def notes (view : View) (places : List Place) : List Entry :=
  (places.filter fun place => !place.node.isEmpty).map view.note

@[simp]
theorem notes_append (view : View) (left right : List Place) :
    view.notes (left ++ right) = view.notes left ++ view.notes right := by
  simp [notes]

/-- What is noted of a place does not depend on where it stands. -/
@[simp]
theorem notes_map_under (view : View) (root : Tree) (places : List Place) :
    view.notes (places.map (.under root)) = view.notes places := by
  simp [notes, List.filter_map, Function.comp_def, note]

end View

/-! ## Parts of a walk -/

/--
Whether a run comes to places one after another, which are seen from a depth.  It
comes through if none of them is beyond the limit, and is given up at the first
one that is; it writes about all places to which it came before.
-/
inductive Run.Follows {found : Type} (view : View) (limit depth : Nat)
    (run : Run found) (places : List Place) : Prop where
  | through (value : found) (ends : run.outcome = .ok value)
      (within : ∀ place ∈ places, depth + place.depth ≤ limit)
      (written : run.entries = view.notes places)
  | upTo (before : List Place) (first : Place) (after : List Place)
      (ends : run.outcome = .error (.tooDeep limit))
      (split : places = before ++ first :: after)
      (within : ∀ place ∈ before, depth + place.depth ≤ limit)
      (beyond : limit < depth + first.depth)
      (written : run.entries = view.notes before)

namespace Run.Follows

variable {first second : Type} {view : View} {limit depth : Nat}

theorem of_done (value : first) : (done value).Follows view limit depth [] :=
  .through value rfl (by simp) rfl

/-- The second part of a walk goes on where the first one has come through. -/
theorem andThen {run : Run first} {next : first → Run second}
    {places later : List Place} (follows : run.Follows view limit depth places)
    (goesOn : ∀ value, run.outcome = .ok value →
      (next value).Follows view limit depth later) :
    (run.andThen next).Follows view limit depth (places ++ later) := by
  cases follows with
  | upTo before beyondFirst after ends split within beyond written =>
      refine .upTo before beyondFirst (after ++ later) ?_ ?_ within beyond ?_
      · simp [Run.andThen, ends]
      · simp [split]
      · simp [Run.andThen, ends, written]
  | through value ends within written =>
      cases goesOn value ends with
      | through last endsLast withinLater writtenLater =>
          refine .through last ?_ ?_ ?_
          · simp [Run.andThen, ends, endsLast]
          · exact List.forall_mem_append.mpr ⟨within, withinLater⟩
          · simp [Run.andThen, ends, written, writtenLater]
      | upTo before beyondFirst after endsLast split withinBefore beyond
        writtenBefore =>
          refine .upTo (places ++ before) beyondFirst after ?_ ?_ ?_ beyond ?_
          · simp [Run.andThen, ends, endsLast]
          · simp [split]
          · exact List.forall_mem_append.mpr ⟨within, withinBefore⟩
          · simp [Run.andThen, ends, written, writtenBefore]

theorem map {run : Run first} {places : List Place}
    (follows : run.Follows view limit depth places) (form : first → second) :
    (run.map form).Follows view limit depth places := by
  rw [map_eq_andThen, ← List.append_nil places]
  exact follows.andThen fun value _ => of_done (form value)

/-- A walk below a node is one level deeper than the node. -/
theorem under {run : Run first} {places : List Place}
    (follows : run.Follows view limit (depth + 1) places) (root : Tree) :
    run.Follows view limit depth (places.map (.under root)) := by
  have deeper (place : Place) :
      depth + (place.under root).depth = depth + 1 + place.depth := by
    rw [Place.depth_under]
    omega
  cases follows with
  | through value ends within written =>
      refine .through value ends ?_ ?_
      · simpa only [List.forall_mem_map, deeper] using within
      · rw [view.notes_map_under, written]
  | upTo before beyondFirst after ends split within beyond written =>
      refine .upTo (before.map (.under root)) (beyondFirst.under root)
        (after.map (.under root)) ends ?_ ?_ ?_ ?_
      · rw [split, List.map_append, List.map_cons]
      · simpa only [List.forall_mem_map, deeper] using within
      · rw [deeper]
        exact beyond
      · rw [view.notes_map_under, written]

end Run.Follows

/-! ## The whole walk -/

namespace View

section

variable (view : View) {limit depth : Nat}

end

end View

end LojbanTree
