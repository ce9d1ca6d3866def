import LojbanTree.Fault
import LojbanTree.Reduction.Treatment
import LojbanTree.Text.Padding

/-!
# Runs that keep a journal

A run ends with a result or a fault, and on the way it writes entries into a
journal: a warning for what is odd in the input or the output, and a line for
each node that a reduction visits.  The entries written before a fault stay in
the journal.
-/

namespace LojbanTree

/-- How much an entry matters. -/
inductive Level where
  | warning
  | trace
  deriving DecidableEq, Repr

/-- An entry of the journal. -/
inductive Entry where
  /-- An element of a tree is neither a string nor an array. -/
  | oddElement (kind : Json.Kind)
  /-- A closing bracket in a drawn tree closes nothing. -/
  | strayBracket
  /-- A node is treated. -/
  | visit (treatment : Treatment) (name? : Option String)
  deriving DecidableEq, Repr

namespace Entry

/-- How much an entry matters. -/
def level : Entry → Level
  | .oddElement _ | .strayBracket => .warning
  | .visit _ _ => .trace

/-- An entry in words. -/
def message : Entry → String
  | .oddElement kind =>
      s!"unexpected {kind.name} in parse tree, keeping it as opaque leaf text"
  | .strayBracket => "unbalanced closing bracket in rendered tree"
  | .visit treatment name? =>
      Text.alignLeft 8 treatment.name ++ " " ++ name?.getD "[..]"

end Entry

/-- A journal, and how the run that wrote it ended. -/
structure Run (found : Type) where
  entries : List Entry
  outcome : Except Fault found

namespace Run

/-- The run that writes nothing and finds a value. -/
def done {found : Type} (value : found) : Run found := ⟨[], .ok value⟩

/-- The run that is given up at once. -/
def fail {found : Type} (fault : Fault) : Run found := ⟨[], .error fault⟩

/-- The run that writes entries. -/
def write (entries : List Entry) : Run Unit := ⟨entries, .ok ()⟩

/-- The run that writes nothing and ends in the given way. -/
def ofExcept {found : Type} (outcome : Except Fault found) : Run found :=
  ⟨[], outcome⟩

/-- Two runs in turn; the second needs what the first has found. -/
def andThen {first second : Type}
    (run : Run first) (next : first → Run second) : Run second :=
  match run.outcome with
  | .ok value => ⟨run.entries ++ (next value).entries, (next value).outcome⟩
  | .error fault => ⟨run.entries, .error fault⟩

/-- A run whose result is put into another form. -/
def map {first second : Type} (form : first → second) (run : Run first) :
    Run second :=
  ⟨run.entries, run.outcome.map form⟩

instance : Monad Run where
  pure := done
  bind := andThen
  map := map

@[simp]
theorem pure_eq {found : Type} (value : found) :
    (pure value : Run found) = done value :=
  rfl

@[simp]
theorem bind_eq {first second : Type}
    (run : Run first) (next : first → Run second) :
    run >>= next = run.andThen next :=
  rfl

/-- Putting a result into another form is a second run that writes nothing. -/
theorem map_eq_andThen {first second : Type} (form : first → second)
    (run : Run first) :
    run.map form = run.andThen fun value => done (form value) := by
  obtain ⟨entries, outcome⟩ := run
  cases outcome <;> simp [map, andThen, done, Except.map]

@[simp]
theorem functor_map_eq {first second : Type} (form : first → second)
    (run : Run first) :
    form <$> run = run.map form :=
  rfl

@[simp]
theorem map_done {first second : Type} (form : first → second) (value : first) :
    (done value).map form = done (form value) := by
  simp [map, done, Except.map]

@[simp]
theorem map_fail {first second : Type} (form : first → second) (fault : Fault) :
    (fail fault).map form = fail fault := by
  simp [map, fail, Except.map]

@[simp]
theorem outcome_done {found : Type} (value : found) :
    (done value).outcome = .ok value :=
  rfl

@[simp]
theorem outcome_fail {found : Type} (fault : Fault) :
    (fail fault : Run found).outcome = .error fault :=
  rfl

@[simp]
theorem outcome_map {first second : Type} (form : first → second)
    (run : Run first) :
    (run.map form).outcome = run.outcome.map form :=
  rfl

theorem outcome_andThen {first second : Type}
    (run : Run first) (next : first → Run second) :
    (run.andThen next).outcome =
      match run.outcome with
      | .ok value => (next value).outcome
      | .error fault => .error fault := by
  obtain ⟨entries, outcome⟩ := run
  cases outcome <;> simp [andThen]

@[simp]
theorem andThen_done {first second : Type} (value : first)
    (next : first → Run second) :
    (done value).andThen next = next value := by
  simp [andThen, done]

@[simp]
theorem andThen_fail {first second : Type} (fault : Fault)
    (next : first → Run second) :
    (fail fault).andThen next = fail fault := by
  simp [andThen, fail]

@[simp]
theorem andThen_done_right {found : Type} (run : Run found) :
    run.andThen done = run := by
  obtain ⟨entries, outcome⟩ := run
  cases outcome <;> simp [andThen, done]

theorem andThen_map {first second third : Type}
    (form : first → second) (run : Run first) (next : second → Run third) :
    (run.map form).andThen next = run.andThen fun value => next (form value) := by
  obtain ⟨entries, outcome⟩ := run
  cases outcome <;> simp [andThen, map, Except.map]

theorem map_andThen {first second third : Type}
    (form : second → third) (run : Run first) (next : first → Run second) :
    (run.andThen next).map form =
      run.andThen fun value => (next value).map form := by
  obtain ⟨entries, outcome⟩ := run
  cases outcome <;> simp [andThen, map, Except.map]

@[simp]
theorem map_map {first second third : Type}
    (form : first → second) (form' : second → third) (run : Run first) :
    (run.map form).map form' = run.map fun value => form' (form value) := by
  obtain ⟨entries, outcome⟩ := run
  cases outcome <;> simp [map, Except.map]

theorem andThen_assoc {first second third : Type}
    (run : Run first) (next : first → Run second) (last : second → Run third) :
    (run.andThen next).andThen last =
      run.andThen fun value => (next value).andThen last := by
  obtain ⟨entries, outcome⟩ := run
  cases outcome with
  | error _ => simp [andThen]
  | ok value =>
      simp only [andThen]
      cases (next value).outcome <;> simp [List.append_assoc]

end Run

end LojbanTree
