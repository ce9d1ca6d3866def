import LojbanTree.Proofs.Processor.Choices
import LojbanTree.Proofs.Reduction.Depth
import LojbanTree.Proofs.Reduction.Visits
import LojbanTree.Proofs.Tree.Values

/-!
# What can make a run fail

Writing never fails, because the name of the format is known, and neither does
reducing what was read, because reading has measured it under the same limit.
Only a tree that was built may be too deep for the walk, and only where the
walk really comes.
-/

namespace LojbanTree

/-- Every format that is always known writes every tree. -/
theorem Registry.exists_write_of_has {name : String}
    (known : standard.has name = true) (view : View) (tree : Tree) :
    ∃ output, (standard.write name view tree).outcome = .ok output := by
  obtain ⟨format, found⟩ := Option.isSome_iff_exists.mp known
  have formats : standard.formats = [.json, .text] := by rfl
  have member := List.mem_of_find?_eq_some found
  rw [formats, List.mem_cons, List.mem_singleton] at member
  rw [write, found]
  rcases member with rfl | rfl
  · exact ⟨tree.jsonText, rfl⟩
  · exact ⟨_, rfl⟩

namespace Processor

namespace IsSound

variable {view : View} {limit : Nat} {processor : Processor}

/-- Writing never fails, so that a run fails where its reduction does. -/
theorem outcome_process_error_iff (sound : IsSound view limit processor)
    (input : Input) (fault : Fault) :
    (processor.process input).outcome = .error fault ↔
      (processor.reduce input).outcome = .error fault := by
  rw [sound.process_eq, Run.outcome_andThen]
  cases (processor.reduce input).outcome with
  | error other => simp
  | ok left? =>
      obtain ⟨output, written⟩ :=
        Registry.exists_write_of_has sound.has_format view (left?.getD .empty)
      simp [written]

/-- What was read within the limit is reduced within the limit. -/
theorem outcome_reduce_error_iff (sound : IsSound view limit processor)
    {input : Input}
    (fits : ∀ tree, (input.toTree limit).outcome = .ok tree → tree.nesting ≤ limit)
    (fault : Fault) :
    (processor.reduce input).outcome = .error fault ↔
      (input.toTree limit).outcome = .error fault := by
  rw [sound.reduce_eq, Run.outcome_andThen]
  cases read : (input.toTree limit).outcome with
  | error other => simp
  | ok tree => simp [View.outcome_reduce_of_nesting_le _ (fits tree read)]

/-- A tree that was built fails where the walk comes to a node that is too deep. -/
theorem outcome_reduce_tree_error_iff (sound : IsSound view limit processor)
    {tree : Tree} (inner : tree.isLeaf = false) (fault : Fault) :
    (processor.reduce (.tree tree)).outcome = .error fault ↔
      fault = .tooDeep limit ∧
        ∃ place ∈ tree.places, view.visits place = true ∧
          place.node.isLeaf = false ∧ limit < place.depth := by
  have given : (Input.tree tree).toTree limit = .done tree := by
    cases tree with
    | leaf text => simp [Tree.isLeaf] at inner
    | labeled name children => rfl
    | unlabeled children => rfl
  rw [sound.reduce_eq, given, Run.andThen_done, View.outcome_reduce,
    ← view.lt_reach_iff inner]
  by_cases deep : limit < view.reach tree
  · have beyond : ¬ view.reach tree ≤ limit := Nat.not_le.mpr deep
    simp [deep, beyond, eq_comm]
  · have within : view.reach tree ≤ limit := Nat.not_lt.mp deep
    simp [deep, within]

/-- Nothing is written before a tree is reduced, so that no format can fail. -/
theorem outcome_reduce_ne_format (sound : IsSound view limit processor)
    (input : Input) (fault : FormatFault) :
    (processor.reduce input).outcome ≠ .error (.format fault) := by
  intro failed
  rw [sound.reduce_eq, Run.outcome_andThen] at failed
  cases read : (input.toTree limit).outcome with
  | ok tree =>
      simp only [read, View.outcome_reduce] at failed
      split at failed <;> simp at failed
  | error other =>
      simp only [read, Except.error.injEq] at failed
      subst failed
      match input with
      | .text written => exact Tree.outcome_ofText_ne_format _ _ _ read
      | .value decoded => exact Tree.outcome_ofJson_ne_format _ _ _ read
      | .tree (.leaf word) => simp [Input.toTree] at read
      | .tree (.labeled name children) =>
          simp [Input.toTree, Input.anyTree] at read
      | .tree (.unlabeled children) => simp [Input.toTree, Input.anyTree] at read

end IsSound

/--
What can make a run fail.  No run fails for its format.  A text or a value fails
for what its reading fails, and for nothing else.  A tree that was built fails
if it is a word, and otherwise if and only if some inner node that is visited
lies beyond the limit.
-/
theorem process_fails_iff {view : View} {limit : Nat} {processor : Processor}
    (configured : Configured view limit processor) :
    (∀ input fault, (processor.process input).outcome ≠ .error (.format fault)) ∧
    (∀ written fault,
      (processor.process (.text written)).outcome = .error fault ↔
        (Tree.ofText limit written).outcome = .error fault) ∧
    (∀ decoded fault,
      (processor.process (.value decoded)).outcome = .error fault ↔
        (Tree.ofJson limit decoded).outcome = .error fault) ∧
    (∀ word,
      (processor.process (.tree (.leaf word))).outcome =
        .error (.input (.bareLeaf word))) ∧
    (∀ tree fault, tree.isLeaf = false →
      ((processor.process (.tree tree)).outcome = .error fault ↔
        fault = .tooDeep limit ∧
          ∃ place ∈ tree.places, view.visits place = true ∧
            place.node.isLeaf = false ∧ limit < place.depth)) := by
  have sound := IsSound.of_configured configured
  have ends := sound.outcome_process_error_iff
  refine ⟨?_, ?_, ?_, ?_, ?_⟩
  · intro input fault
    rw [Ne, ends]
    exact sound.outcome_reduce_ne_format input fault
  · intro written fault
    have fits (tree : Tree)
        (read : ((Input.text written).toTree limit).outcome = .ok tree) :
        tree.nesting ≤ limit :=
      Tree.nesting_le_of_ofText read
    rw [ends]
    exact sound.outcome_reduce_error_iff fits fault
  · intro decoded fault
    have fits (tree : Tree)
        (read : ((Input.value decoded).toTree limit).outcome = .ok tree) :
        tree.nesting ≤ limit :=
      Tree.nesting_le_of_ofJson read
    rw [ends]
    exact sound.outcome_reduce_error_iff fits fault
  · intro word
    rw [ends]
    rfl
  · intro tree fault inner
    rw [ends]
    exact sound.outcome_reduce_tree_error_iff inner fault

/-- A view of words only. -/
def wordsOnly : View := .ofLetterSet fun _ => false

/-- A processor of words for which a format was chosen between two limits. -/
def rechosen (limit : Nat) : Processor :=
  ⟨⟨wordsOnly, limit⟩, .standard, "json", limit⟩

theorem configured_rechosen (limit : Nat) :
    Configured wordsOnly limit (rechosen limit) := by
  have first : Configured wordsOnly 9 ((ofView wordsOnly).withLimit 9) :=
    .limited 9 .fresh
  have second : Configured wordsOnly 9 (rechosen 9) := by
    apply first.formatted
    show withFormat _ "json" = .ok (rechosen 9)
    rfl
  exact second.limited limit

/--
A sentence with nodes down to depth three in its first word, and to depth two in
its second.
-/
def deepSentence : Tree :=
  .labeled "sentence"
    [ .labeled "gismu" [.unlabeled [.unlabeled [.leaf "klama"]]],
      .labeled "selbri" [.unlabeled [.leaf "klama"]] ]

/--
The nodes in the first word are never visited, so that only the second one counts.
-/
theorem process_fails_iff_deepSentence :
    Configured wordsOnly 1 (rechosen 1) ∧ Configured wordsOnly 2 (rechosen 2) ∧
      deepSentence.isLeaf = false ∧
      ((rechosen 1).process (.tree deepSentence)).outcome = .error (.tooDeep 1) ∧
      ∀ fault, ((rechosen 2).process (.tree deepSentence)).outcome ≠
        .error fault := by
  have inner : deepSentence.isLeaf = false := rfl
  have deep :
      ∃ place ∈ deepSentence.places, wordsOnly.visits place = true ∧
        place.node.isLeaf = false ∧ 1 < place.depth := by
    decide
  have shallow :
      ¬ ∃ place ∈ deepSentence.places, wordsOnly.visits place = true ∧
        place.node.isLeaf = false ∧ 2 < place.depth := by
    decide
  obtain ⟨_, _, _, _, atOne⟩ := process_fails_iff (configured_rechosen 1)
  obtain ⟨_, _, _, _, atTwo⟩ := process_fails_iff (configured_rechosen 2)
  refine ⟨configured_rechosen 1, configured_rechosen 2, inner, ?_, ?_⟩
  · exact (atOne deepSentence _ inner).mpr ⟨rfl, deep⟩
  · intro fault failed
    exact shallow ((atTwo deepSentence fault inner).mp failed).2

end Processor

end LojbanTree
