import LojbanTree.Processor

/-!
# Choices of a limit and a format

`Processor.Configured` says how a processor comes about: a view is given, and
then limits and formats are chosen in any order.  A processor has two limits,
one for inputs and one for its reducer, and looks for its format by a name.
`Processor.IsSound` is what every choice keeps: both limits are the last one
that was chosen, and the registry knows the name.
-/

namespace LojbanTree

namespace Processor

/--
A processor of a view after choices of limits and formats, with the last limit
that was chosen or else the standard one.
-/
inductive Configured (view : View) : Nat → Processor → Prop where
  | fresh : Configured view standardLimit (.ofView view)
  | limited {limit : Nat} {processor : Processor} (last : Nat)
      (before : Configured view limit processor) :
      Configured view last (processor.withLimit last)
  | formatted {limit : Nat} {processor next : Processor} {name : String}
      (before : Configured view limit processor)
      (choice : processor.withFormat name = .ok next) :
      Configured view limit next

/-- A choice of a format that succeeds changes the name only, to a known one. -/
theorem eq_of_withFormat {processor next : Processor} {name : String}
    (choice : processor.withFormat name = .ok next) :
    next = { processor with chosen := name } ∧
      (name = automatic ∨ processor.registry.has name = true) := by
  unfold withFormat at choice
  split at choice
  case isTrue known =>
    rw [Except.ok.injEq] at choice
    exact ⟨choice.symm, known⟩
  case isFalse => simp at choice

/-- What every choice keeps of the view, the registry, both limits and the name. -/
structure IsSound (view : View) (limit : Nat) (processor : Processor) : Prop where
  reducer_eq : processor.reducer = ⟨view, limit⟩
  registry_eq : processor.registry = .standard
  limit_eq : processor.limit = limit
  known : processor.chosen = automatic ∨
    Registry.standard.has processor.chosen = true

namespace IsSound

variable {view : View} {limit : Nat} {processor : Processor}

theorem ofView (view : View) : IsSound view standardLimit (.ofView view) where
  reducer_eq := rfl
  registry_eq := rfl
  limit_eq := rfl
  known := .inl rfl

theorem withLimit (sound : IsSound view limit processor) (last : Nat) :
    IsSound view last (processor.withLimit last) where
  reducer_eq := by simp [Processor.withLimit, Reducer.withLimit, sound.reducer_eq]
  registry_eq := sound.registry_eq
  limit_eq := rfl
  known := sound.known

theorem withFormat (sound : IsSound view limit processor) {next : Processor}
    {name : String} (choice : processor.withFormat name = .ok next) :
    IsSound view limit next := by
  obtain ⟨rfl, known⟩ := eq_of_withFormat choice
  rw [sound.registry_eq] at known
  exact ⟨sound.reducer_eq, sound.registry_eq, sound.limit_eq, known⟩

/--
A processor is sound for its view and its last limit, whatever was chosen before.
-/
theorem of_configured (configured : Configured view limit processor) :
    IsSound view limit processor := by
  induction configured with
  | fresh => exact ofView view
  | limited last before inBefore => exact inBefore.withLimit last
  | formatted before choice inBefore => exact inBefore.withFormat choice

theorem view_eq (sound : IsSound view limit processor) :
    processor.view = view := by
  rw [Processor.view, sound.reducer_eq]

/-- The name in use is known, whether it was chosen or left to the view. -/
theorem has_format (sound : IsSound view limit processor) :
    Registry.standard.has processor.format.name = true := by
  unfold format
  split
  case isTrue => cases processor.view.json <;> rfl
  case isFalse named => exact sound.known.resolve_left named

theorem reduce_eq (sound : IsSound view limit processor) (input : Input) :
    processor.reduce input = (input.toTree limit).andThen (view.reduce limit) := by
  rw [reduce, sound.limit_eq, Run.bind_eq]
  unfold Reducer.reduce
  rw [sound.reducer_eq]

/-- A processor reduces its input, and writes what is left of it in its format. -/
theorem process_eq (sound : IsSound view limit processor) (input : Input) :
    processor.process input =
      (processor.reduce input).andThen fun left? =>
        Registry.standard.write processor.format.name view
          (left?.getD .empty) := by
  rw [process, sound.registry_eq, sound.view_eq, Run.bind_eq]

end IsSound

end Processor

end LojbanTree
