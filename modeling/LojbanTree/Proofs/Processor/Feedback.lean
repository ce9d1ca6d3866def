import LojbanTree.Proofs.Processor.Failures

/-!
# Processing what was processed

The array form that a processor writes is JSON text of a tree within the limit
of that processor, however deep the tree was that came in.  So it can be handed
to the same processor again: only a single word is refused, because a word is
no tree.
-/

namespace LojbanTree

/--
What is left of a tree is nested no deeper than the tree and the limit allow.
-/
theorem View.nesting_reduce {view : View} {limit : Nat} {tree result : Tree}
    (left : (view.reduce limit tree).outcome = .ok (some result)) :
    result.nesting ≤ tree.nesting ∧ result.nesting ≤ limit := by
  have remaining := (eq_remains_of_outcome left).symm
  constructor
  · calc
      result.nesting ≤ view.reach tree :=
        view.nesting_remains tree result remaining
      _ ≤ tree.nesting := view.reach_le_nesting tree
  · exact nesting_le_of_outcome left

namespace Processor

namespace IsSound

variable {view : View} {limit : Nat} {processor : Processor}

/--
A processor that writes JSON ends as its reduction does, with the array form.
-/
theorem outcome_process_of_json (sound : IsSound view limit processor)
    (json : processor.format.name = "json") (input : Input) :
    (processor.process input).outcome =
      (processor.reduce input).outcome.map fun left? =>
        (left?.getD .empty).jsonText := by
  rw [sound.process_eq, json, Run.outcome_andThen]
  cases (processor.reduce input).outcome <;> rfl

/-- What a processor leaves is within its limit, also if it leaves nothing. -/
theorem nesting_of_reduce (sound : IsSound view limit processor) {input : Input}
    {left? : Option Tree} (left : (processor.reduce input).outcome = .ok left?) :
    (left?.getD .empty).nesting ≤ limit := by
  rw [sound.reduce_eq, Run.outcome_andThen] at left
  cases read : (input.toTree limit).outcome with
  | error fault => simp [read] at left
  | ok tree =>
      simp only [read] at left
      cases left? with
      | none => exact Nat.zero_le _
      | some result => exact (View.nesting_reduce left).2

/-- The array form of a word is refused. -/
theorem outcome_process_word (sound : IsSound view limit processor) {tree : Tree}
    (word : tree.isLeaf = true) :
    (processor.process (.text tree.jsonText)).outcome =
      .error (.input (.notArray .string)) := by
  have refused := Tree.ofText_jsonText_of_isLeaf limit word
  rw [sound.process_eq, sound.reduce_eq]
  simp [Input.toTree, Input.anyTree, refused]

/--
The array form of a node within the limit is processed.  A word in front is read
back as a label, which makes the tree no deeper.
-/
theorem exists_process_node (sound : IsSound view limit processor)
    (json : processor.format.name = "json") {tree : Tree}
    (node : tree.isLeaf = false) (fits : tree.nesting ≤ limit) :
    ∃ again, (processor.process (.text tree.jsonText)).outcome = .ok again := by
  have read : (Tree.ofText limit tree.jsonText).outcome = .ok tree.relabeled := by
    rw [Tree.ofText_jsonText_of_node limit node, if_pos fits]
    rfl
  have reduced :=
    view.outcome_reduce_of_nesting_le (Tree.nesting_le_of_ofText read)
  rw [sound.outcome_process_of_json json, sound.reduce_eq, Run.outcome_andThen]
  simp [Input.toTree, Input.anyTree, read, reduced, Except.map]

end IsSound

/--
What a processor writes as JSON can be read again as what it has left, and can
be processed again under the same limit unless it is a single word.  The reason
is that a reduction makes no tree deeper, and none deeper than its limit.
-/
theorem process_again :
    (∀ (view : View) (limit : Nat) (tree result : Tree),
      (view.reduce limit tree).outcome = .ok (some result) →
        result.nesting ≤ tree.nesting ∧ result.nesting ≤ limit) ∧
    ∀ (view : View) (limit : Nat) (processor : Processor) (input : Input)
      (output : String),
      Configured view limit processor → processor.format.name = "json" →
        (processor.process input).outcome = .ok output →
          ∃ left?, (processor.reduce input).outcome = .ok left? ∧
            Json.read output = .ok (left?.getD .empty).toJson ∧
            (left? = none → output = "[]") ∧
            if (left?.getD .empty).isLeaf then
              (processor.process (.text output)).outcome =
                .error (.input (.notArray .string))
            else
              ∃ again, (processor.process (.text output)).outcome = .ok again := by
  constructor
  · intro view limit tree result
    exact View.nesting_reduce
  · intro view limit processor input output configured json written
    have sound := IsSound.of_configured configured
    rw [sound.outcome_process_of_json json] at written
    cases left : (processor.reduce input).outcome with
    | error fault => simp [left, Except.map] at written
    | ok left? =>
        simp only [left, Except.map, Except.ok.injEq] at written
        subst written
        refine ⟨left?, rfl, Json.read_compact (Tree.isTextual_toJson _), ?_, ?_⟩
        · rintro rfl
          rfl
        · split
          case isTrue word => exact sound.outcome_process_word word
          case isFalse node =>
            rw [Bool.not_eq_true] at node
            exact sound.exists_process_node json node
              (sound.nesting_of_reduce left)

/-- The words that are left of the deep sentence. -/
def spokenWords : Tree := .unlabeled [.leaf "klama", .leaf "klama"]

/--
A sentence that is deeper than the limit is written, read and processed again.
-/
theorem process_again_deepSentence :
    deepSentence.nesting = 3 ∧
      (wordsOnly.reduce 2 deepSentence).outcome = .ok (some spokenWords) ∧
      spokenWords.nesting ≤ deepSentence.nesting ∧ spokenWords.nesting ≤ 2 ∧
      (rechosen 2).format.name = "json" ∧
      ((rechosen 2).process (.tree deepSentence)).outcome =
        .ok spokenWords.jsonText ∧
      Json.read spokenWords.jsonText = .ok spokenWords.toJson ∧
      ∃ again, ((rechosen 2).process (.text spokenWords.jsonText)).outcome =
        .ok again := by
  have left :
      (wordsOnly.reduce 2 deepSentence).outcome = .ok (some spokenWords) := by
    with_unfolding_all rfl
  have leftAgain : ((rechosen 2).reduce (.tree deepSentence)).outcome =
      .ok (some spokenWords) := by
    exact left
  have written : ((rechosen 2).process (.tree deepSentence)).outcome =
      .ok spokenWords.jsonText := by
    have sound := IsSound.of_configured (configured_rechosen 2)
    rw [sound.outcome_process_of_json rfl, leftAgain]
    rfl
  obtain ⟨nested, processed⟩ := process_again
  obtain ⟨shallower, within⟩ := nested wordsOnly 2 deepSentence spokenWords left
  obtain ⟨left?, found, read, _, repeated⟩ :=
    processed wordsOnly 2 (rechosen 2) (.tree deepSentence) _
      (configured_rechosen 2) rfl
      written
  rw [leftAgain, Except.ok.injEq] at found
  subst found
  exact ⟨rfl, left, shallower, within, rfl, written, read, repeated⟩

end Processor

end LojbanTree
