import LojbanTree.Processor
import LojbanTree.Proofs.Reduction.Remainder
import LojbanTree.Proofs.Tree.DepthLimit

/-!
# Raising the limit

A limit decides whether a run is given up, and nothing else.  `Run.Raises` ties
the run at one limit to the run at a higher one: they are the same unless the
lower limit has ended the first.  A single guard has this property, and runs
one after another inherit it, so that reading, reducing and processing have it
too.  The order of the guards does not matter: what ends a run for another
reason comes at the same place under both limits.
-/

namespace LojbanTree

/-! ## Two runs under two limits -/

namespace Run

variable {first second : Type}

/-- Whether a run is given up because something is nested too deeply. -/
def IsTooDeep (run : Run first) : Prop :=
  ∃ limit, run.outcome = .error (.tooDeep limit)

/-- Whether the second run goes just like the first, unless that is too deep. -/
def Raises (lower higher : Run first) : Prop :=
  ¬ lower.IsTooDeep → higher = lower

namespace Raises

theorem refl (run : Run first) : run.Raises run := by
  intro _
  rfl

theorem of_isTooDeep {lower higher : Run first} (tooDeep : lower.IsTooDeep) :
    lower.Raises higher := by
  intro settled
  exact absurd tooDeep settled

/--
What the first run finds is the same, and so is what happens to it.  Once the first
run has come through, only the second is left to be too deep.
-/
theorem andThen {lower higher : Run first} {next next' : first → Run second}
    (raised : lower.Raises higher)
    (later : ∀ value, (next value).Raises (next' value)) :
    (lower.andThen next).Raises (higher.andThen next') := by
  intro settled
  have settledFirst : ¬ lower.IsTooDeep := by
    rintro ⟨limit, given⟩
    exact settled ⟨limit, by simp [outcome_andThen, given]⟩
  obtain rfl := raised settledFirst
  cases ends : higher.outcome with
  | error fault => simp [Run.andThen, ends]
  | ok value =>
      have settledLater : ¬ (next value).IsTooDeep := by
        rintro ⟨limit, given⟩
        exact settled ⟨limit, by simp [outcome_andThen, ends, given]⟩
      simp [Run.andThen, ends, later value settledLater]

theorem map {lower higher : Run first} (raised : lower.Raises higher)
    (form : first → second) : (lower.map form).Raises (higher.map form) := by
  rw [map_eq_andThen, map_eq_andThen]
  exact raised.andThen fun value => refl (done (form value))

/-- A guard lets more pass if it is raised, and refuses the rest as too deep. -/
theorem guard {lower higher : Run first} {ceiling ceiling' : Nat}
    (above : ceiling ≤ ceiling') (raised : lower.Raises higher)
    (limit limit' depth : Nat) :
    Run.Raises (if ceiling < depth then .fail (.tooDeep limit) else lower)
      (if ceiling' < depth then .fail (.tooDeep limit') else higher) := by
  by_cases deep : ceiling < depth
  · rw [if_pos deep]
    exact .of_isTooDeep ⟨limit, rfl⟩
  · have shallow : ¬ ceiling' < depth := by omega
    rw [if_neg deep, if_neg shallow]
    exact raised

end Raises

end Run

variable {lower higher : Nat}

/-! ## Reading trees -/

namespace Tree

theorem raises_checkDepth (raised : lower ≤ higher) (depth : Nat) :
    (checkDepth lower depth).Raises (checkDepth higher depth) :=
  .guard raised (.refl (.done ())) lower higher depth

mutual

theorem raises_ofElement (raised : lower ≤ higher) :
    (value : Json) → (depth : Nat) →
      (ofElement lower depth value).Raises (ofElement higher depth value)
  | .string _, _ | .null, _ | .boolean _, _ | .number _, _ | .object _, _ =>
      .refl _
  | .array elements, depth => by
      have inside := raises_ofElements raised elements (depth + 1)
      rw [ofElement_array, ofElement_array]
      exact (raises_checkDepth raised depth).andThen fun _ =>
        inside.map (arrayNode elements)

theorem raises_ofElements (raised : lower ≤ higher) :
    (elements : List Json) → (depth : Nat) →
      (ofElements lower depth elements).Raises (ofElements higher depth elements)
  | [], _ => .refl _
  | element :: rest, depth => by
      have atElement := raises_ofElement raised element depth
      have atRest := raises_ofElements raised rest depth
      exact atElement.andThen fun tree => atRest.map (tree :: ·)

end

/-- A value that is not too deep is read under a higher limit as before. -/
theorem raises_ofJson (raised : lower ≤ higher) (value : Json) :
    (ofJson lower value).Raises (ofJson higher value) := by
  cases value with
  | array elements => exact raises_ofElement raised (.array elements) 0
  | null | boolean _ | number _ | string _ | object _ => exact .refl _

/-- A text that is no JSON is refused for that under every limit that it fits. -/
theorem raises_ofText (raised : lower ≤ higher) (text : String) :
    (ofText lower text).Raises (ofText higher text) := by
  apply Run.Raises.guard (Nat.succ_le_succ raised)
  cases Json.read text with
  | ok value => exact raises_ofJson raised value
  | error failure => exact .refl _

end Tree

/-! ## Reducing -/

namespace View

theorem raises_enter (view : View) (raised : lower ≤ higher) (depth : Nat)
    (tree : Tree) :
    (view.enter lower depth tree).Raises (view.enter higher depth tree) :=
  .guard raised (.refl _) lower higher depth

theorem raises_reduceAll (view : View) (trees : List Tree)
    (each : ∀ tree ∈ trees, ∀ depth,
      (view.reduceAt lower depth tree).Raises (view.reduceAt higher depth tree))
    (depth : Nat) :
    (view.reduceAll lower depth trees).Raises
      (view.reduceAll higher depth trees) := by
  induction trees with
  | nil => exact .refl _
  | cons head tail inTail =>
      obtain ⟨atHead, atTail⟩ := List.forall_mem_cons.mp each
      have later (reduced? : Option Tree) :=
        (inTail atTail).map (reduced?.toList ++ ·)
      rw [reduceAll, reduceAll]
      cases head.isLeaf with
      | true => exact Run.Raises.andThen (.refl (.done (some head))) later
      | false => exact (atHead depth).andThen later

/-- A walk that does not go too deep is the same under a higher limit. -/
theorem raises_reduceAt (view : View) (raised : lower ≤ higher) (tree : Tree)
    (depth : Nat) :
    (view.reduceAt lower depth tree).Raises (view.reduceAt higher depth tree) := by
  induction tree using Tree.induction generalizing depth with
  | node tree below =>
      rw [reduceAt_eq, reduceAt_eq]
      apply (view.raises_enter raised depth tree).andThen
      intro answer
      cases answer with
      | settled result => exact .refl _
      | rebuild treatment label? =>
          exact (view.raises_reduceAll tree.children below (depth + 1)).map _

end View

/-! ## Processing -/

namespace Processor

/-- An input that is not too deep gives the same tree under a higher limit. -/
theorem raises_toTree (raised : lower ≤ higher) (input : Input) :
    (input.toTree lower).Raises (input.toTree higher) := by
  match input with
  | .text written => exact Tree.raises_ofText raised written
  | .value decoded => exact Tree.raises_ofJson raised decoded
  | .tree (.leaf _) | .tree (.labeled _ _) | .tree (.unlabeled _) => exact .refl _

/--
The limit is only a guard.  If a run of any processor ends for another reason
than its limit, then the run with a higher limit ends in the same way and
writes the same journal.
-/
theorem process_withLimit_of_le (processor : Processor) (input : Input)
    (raised : lower ≤ higher)
    (settled : ∀ limit,
      ((processor.withLimit lower).process input).outcome ≠
        .error (.tooDeep limit)) :
    (processor.withLimit higher).process input =
      (processor.withLimit lower).process input := by
  have reducing :
      ((processor.withLimit lower).reduce input).Raises
        ((processor.withLimit higher).reduce input) :=
    (raises_toTree raised input).andThen fun tree =>
      processor.view.raises_reduceAt raised tree 0
  have processing :
      ((processor.withLimit lower).process input).Raises
        ((processor.withLimit higher).process input) :=
    reducing.andThen fun left? => .refl _
  apply processing
  rintro ⟨limit, tooDeep⟩
  exact settled limit tooDeep

/-- A processor of words that writes them as JSON. -/
def wordWriter : Processor :=
  { ofView (.ofLetterSet fun _ => false) with chosen := "json" }

/-- A sentence with a deep node in a flattened word. -/
def flattenedSentence : Tree :=
  .labeled "sentence" [.labeled "KOhA" [.unlabeled [.unlabeled [.leaf "mi"]]]]

/-- The limit one is enough, and so the limit nine makes no difference. -/
theorem process_withLimit_of_le_flattenedSentence :
    1 ≤ 9 ∧
      ((wordWriter.withLimit 0).process (.tree flattenedSentence)).outcome =
        .error (.tooDeep 0) ∧
      ((wordWriter.withLimit 1).process (.tree flattenedSentence)).outcome =
        .ok "\"mi\"" ∧
      ((wordWriter.withLimit 9).process (.tree flattenedSentence)).outcome =
        .ok "\"mi\"" := by
  have raised : 1 ≤ 9 := by decide
  have enough :
      ((wordWriter.withLimit 1).process (.tree flattenedSentence)).outcome =
      .ok "\"mi\"" := by
    with_unfolding_all rfl
  have settled (limit : Nat) :
      ((wordWriter.withLimit 1).process (.tree flattenedSentence)).outcome ≠
        .error (.tooDeep limit) := by
    simp [enough]
  refine ⟨raised, rfl, enough, ?_⟩
  rw [process_withLimit_of_le wordWriter (.tree flattenedSentence) raised settled,
    enough]

end Processor

end LojbanTree
