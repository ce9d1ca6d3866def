import LojbanTree.Proofs.Json.Arrays
import LojbanTree.Proofs.Rendering.Passes
import LojbanTree.Proofs.Tree.Nodes
import LojbanTree.Rendering.Format

/-!
# The reading form as a drawing of a tree

`Tree.drawn` draws a tree by recursion on its nodes: each in brackets of its
level, with its slots side by side, and with a colon after a label that stands
before a node.  A node whose bracket already follows a colon takes none itself.
`Format.write_text` says that the passes over the array form draw exactly this,
as long as no name and no word has a character with a meaning in that form.
-/

namespace LojbanTree

/-! ## Drawings -/

namespace Drawing

/-- The shapes of an opening bracket, from the outermost level inwards. -/
def openings : List Char := ['(', '[', '\x7b', '<']

/-- The shapes of a closing bracket, from the outermost level inwards. -/
def closings : List Char := [')', ']', '\x7d', '>']

/-- The raised form of a decimal digit. -/
def raised : Char → Char
  | '0' => '⁰'
  | '1' => '¹'
  | '2' => '²'
  | '3' => '³'
  | '4' => '⁴'
  | '5' => '⁵'
  | '6' => '⁶'
  | '7' => '⁷'
  | '8' => '⁸'
  | '9' => '⁹'
  | char => char

/-- The number of a later round of shapes, at the level where it begins. -/
def round (level : Nat) : List Char :=
  if 0 < level ∧ level % 4 = 0 then (Nat.toDigits 10 (level / 4)).map raised
  else []

/-- Slots in the brackets of a level, with one space between two of them. -/
def enclosed (level : Nat) (slots : List (List Char)) : List Char :=
  round level ++ openings.getD (level % 4) '(' ::
    ([' '].intercalate slots ++ closings.getD (level % 4) ')' :: round level)

/-- Whether a character may stand in a label that gets a colon. -/
def isLabelLetter (char : Char) : Bool :=
  ('a' ≤ char && char ≤ 'z') || ('A' ≤ char && char ≤ 'Z') ||
    ('0' ≤ char && char ≤ '9') || char == '_' || char == '-'

/-- Whether a text is a label that may get a colon. -/
def isLabel (text : String) : Bool :=
  !text.toList.isEmpty && text.toList.all isLabelLetter

/-- Whether a text in the first slot is a label right before a node. -/
def labelsNode (text : String) (others : List Tree) : Bool :=
  isLabel text && others.head?.any fun second => !second.isLeaf

/-- A text in the first slot of a node. -/
def firstSlot (colon : Bool) (text : String) : List Char :=
  if colon then text.toList ++ [':'] else text.toList

end Drawing

namespace Tree

open Drawing

mutual

/--
A tree drawn at a level.  The colon of a node is left out if its bracket is
not free, that is, if it follows the colon of the node around it.
-/
def drawn (colons free : Bool) (level : Nat) : Tree → List Char
  | .leaf text => text.toList
  | .labeled name children =>
      let colon := colons && free && labelsNode name children
      enclosed level
        (firstSlot colon name :: drawnAll colons (!colon) (level + 1) children)
  | .unlabeled (.leaf text :: children) =>
      let colon := colons && free && labelsNode text children
      enclosed level
        (firstSlot colon text :: drawnAll colons (!colon) (level + 1) children)
  | .unlabeled children =>
      enclosed level (drawnAll colons true (level + 1) children)

/-- Several trees drawn at a level, the bracket of the first one free or not. -/
def drawnAll (colons free : Bool) (level : Nat) : List Tree → List (List Char)
  | [] => []
  | tree :: rest => drawn colons free level tree :: drawnAll colons true level rest

end

/-- The text that a node has by itself: its label or its word. -/
def ownText : Tree → String
  | .leaf text => text
  | .labeled name _ => name
  | .unlabeled _ => ""

end Tree

namespace Drawing

/-- A character without a meaning in the array form. -/
def IsReadable (char : Char) : Prop :=
  char ≠ '"' ∧ char ≠ '\\' ∧ char ≠ ',' ∧ char ≠ '[' ∧ char ≠ ']' ∧
    ¬ char.toNat < 0x20

instance (char : Char) : Decidable (IsReadable char) :=
  inferInstanceAs (Decidable (_ ∧ _))

/-! ## Brackets and labels -/

/--
What holds of the ten characters from `0` to `9` holds of every decimal digit.
-/
theorem forall_isDigit {motive : Char → Prop}
    (each : ∀ value : Fin 10, motive (Char.ofNat (48 + value))) {digit : Char}
    (decimal : digit.isDigit = true) : motive digit := by
  have bounds : 48 ≤ digit.toNat ∧ digit.toNat ≤ 57 := by
    simp only [Char.isDigit, Bool.and_eq_true, decide_eq_true_eq] at decimal
    exact decimal
  have same : Char.ofNat (48 + (digit.toNat - 48)) = digit := by
    rw [Nat.add_sub_cancel' bounds.1, Char.ofNat_toNat]
  have atDigit := each ⟨digit.toNat - 48, by omega⟩
  rwa [same] at atDigit

theorem raise_eq_raised {digit : Char} (decimal : digit.isDigit = true) :
    Superscript.raise digit = raised digit := by
  apply forall_isDigit (motive := fun digit =>
    Superscript.raise digit = raised digit)
  · decide
  · exact decimal

theorem tag_eq_round (level : Nat) : Brackets.tag level = round level := by
  unfold Brackets.tag round Superscript.numeral
  by_cases begins : level % 4 = 0
  · by_cases outermost : level = 0
    · simp [outermost]
    · have later : level / 4 ≠ 0 := by omega
      have inner : 0 < level := Nat.pos_of_ne_zero outermost
      simp only [begins, later, inner, and_self, if_true, if_false]
      apply List.map_congr_left
      intro digit member
      exact raise_eq_raised
        (Nat.isDigit_of_mem_toDigits (by decide) (by decide) member)
  · simp [begins]

theorem openShape_eq (level : Nat) :
    Brackets.openShape level = openings.getD (level % 4) '(' := by
  have small : level % 4 < 4 := Nat.mod_lt level (by decide)
  unfold Brackets.openShape
  generalize level % 4 = shape at small
  match shape with
  | 0 | 1 | 2 | 3 => rfl

theorem closeShape_eq (level : Nat) :
    Brackets.closeShape level = closings.getD (level % 4) ')' := by
  have small : level % 4 < 4 := Nat.mod_lt level (by decide)
  unfold Brackets.closeShape
  generalize level % 4 = shape at small
  match shape with
  | 0 | 1 | 2 | 3 => rfl

theorem enclosed_eq (level : Nat) (slots : List (List Char)) :
    enclosed level slots =
      (Brackets.Mark.opening level).drawn ++
        ([' '].intercalate slots ++ (Brackets.Mark.closing level).drawn) := by
  simp [enclosed, Brackets.Mark.drawn, tag_eq_round, openShape_eq, closeShape_eq]

/-- Two slots or more are the first one and the others after a space each. -/
theorem intercalate_cons (slot : List Char) (slots : List (List Char)) :
    [' '].intercalate (slot :: slots) =
      slot ++ slots.flatMap fun other => ' ' :: other := by
  induction slots generalizing slot with
  | nil => simp [List.intercalate_singleton]
  | cons next rest inRest => simp [List.intercalate_cons_cons, inRest]

theorem isLabelChar_eq (char : Char) :
    Bracketed.isLabelChar char = isLabelLetter char := by
  have lower : char.isLower = ('a' ≤ char && char ≤ 'z') := rfl
  have upper : char.isUpper = ('A' ≤ char && char ≤ 'Z') :=
    Bool.decide_and ('A' ≤ char) (char ≤ 'Z')
  have digit : char.isDigit = ('0' ≤ char && char ≤ '9') := rfl
  have letter : char.isAlpha = (char.isUpper || char.isLower) := rfl
  have alphanumeric : char.isAlphanum = (char.isAlpha || char.isDigit) := rfl
  rw [Bracketed.isLabelChar, isLabelLetter, alphanumeric, letter, lower, upper,
    digit, Bool.or_comm (_ && _) (_ && _)]

/-- A label is made of the characters of a label, and has at least one of them. -/
theorem isLabel_iff (text : String) :
    isLabel text = true ↔
      text.toList ≠ [] ∧
        ∀ char ∈ text.toList, Bracketed.isLabelChar char = true := by
  simp [isLabel, isLabelChar_eq]

end Drawing

/-! ## Array forms without quotes -/

namespace Json

theorem elementChars_cons (value : Json) (rest : List Json) :
    elementChars (value :: rest) =
      value.chars ++ rest.flatMap fun other => ',' :: other.chars := by
  induction rest generalizing value with
  | nil => simp [elementChars]
  | cons next rest inRest => simp [elementChars_cons_cons, inRest]

end Json

namespace Tree

open Drawing

/-- The array form of a tree without quotes. -/
def bare (tree : Tree) : List Char := Bracketed.withoutQuotes tree.toJson.chars

/-- Slots after the first one, each with its comma. -/
def bareSlots (trees : List Tree) : List Char :=
  trees.flatMap fun tree => ',' :: tree.bare

theorem escape_of_isReadable {char : Char} (readable : IsReadable char) :
    Json.escape char = [char] := by
  obtain ⟨noQuote, noBackslash, _, _, _, printable⟩ := readable
  have notControl (control : Char) (low : control.toNat < 0x20) :
      char ≠ control := by
    rintro rfl
    exact printable low
  simp [Json.escape, noQuote, noBackslash, printable,
    notControl '\x08' (by decide), notControl '\t' (by decide),
    notControl '\n' (by decide), notControl '\x0c' (by decide),
    notControl '\r' (by decide)]

/-- A readable text keeps all its characters when the quotes go. -/
theorem withoutQuotes_quoted {text : String}
    (readable : ∀ char ∈ text.toList, IsReadable char) :
    Bracketed.withoutQuotes (Json.quoted text) = text.toList := by
  have escaped : text.toList.flatMap Json.escape = text.toList := by
    have each : text.toList.map Json.escape = text.toList.map fun char => [char] :=
      List.map_congr_left fun char member =>
        escape_of_isReadable (readable char member)
    rw [List.flatMap_def, each, ← List.flatMap_def]
    simp
  have noQuotes : text.toList.filter (· != '"') = text.toList := by
    rw [List.filter_eq_self]
    intro char member
    simpa using (readable char member).1
  simp [Bracketed.withoutQuotes, Json.quoted, escaped, noQuotes]

theorem withoutQuotes_slots (trees : List Tree) :
    Bracketed.withoutQuotes
        ((toJsonAll trees).flatMap fun other => ',' :: other.chars) =
      bareSlots trees := by
  induction trees with
  | nil => rfl
  | cons head tail inTail =>
      simpa [toJsonAll, bareSlots, bare, Bracketed.withoutQuotes] using inTail

theorem bare_leaf {text : String}
    (readable : ∀ char ∈ text.toList, IsReadable char) :
    (Tree.leaf text).bare = text.toList := by
  rw [bare, toJson, Json.chars, withoutQuotes_quoted readable]

theorem bare_labeled {name : String} (children : List Tree)
    (readable : ∀ char ∈ name.toList, IsReadable char) :
    (Tree.labeled name children).bare =
      '[' :: (name.toList ++ (bareSlots children ++ [']'])) := by
  rw [bare, toJson, Json.chars, Json.elementChars_cons, Json.chars,
    ← withoutQuotes_slots, ← withoutQuotes_quoted readable]
  simp [Bracketed.withoutQuotes]

theorem bare_unlabeled_nil : (Tree.unlabeled []).bare = ['[', ']'] := by
  simp [bare, toJson, toJsonAll, Json.chars, Json.elementChars,
    Bracketed.withoutQuotes]

theorem bare_unlabeled_cons (first : Tree) (rest : List Tree) :
    (Tree.unlabeled (first :: rest)).bare =
      '[' :: (first.bare ++ (bareSlots rest ++ [']'])) := by
  rw [bare, toJson, toJsonAll, Json.chars, Json.elementChars_cons,
    ← withoutQuotes_slots, bare]
  simp [Bracketed.withoutQuotes]

/-! ## The passes over a tree -/

/--
Whether the passes draw a tree in front of any text that they draw.  The
bracket of a node may be free or follow a comma that becomes a colon.
-/
structure IsDrawn (colons : Bool) (tree : Tree) : Prop where
  word : tree.isLeaf = true → tree.bare.head? ≠ some '['
  free : ∀ {level : Nat} {progress : Bracketed.Progress}
    {text picture : List Char}, (tree.isLeaf = true → progress = .outside) →
      Bracketed.Draws colons level .outside text picture →
        Bracketed.Draws colons level progress (tree.bare ++ text)
          (tree.drawn colons true level ++ picture)
  taken : ∀ {level : Nat} {text picture : List Char},
    colons = true → tree.isLeaf = false →
      Bracketed.Draws colons level .outside text picture →
        Bracketed.Draws colons level .named (',' :: (tree.bare ++ text))
          (':' :: ' ' :: (tree.drawn colons false level ++ picture))

/-- Whether the passes draw the inside of a node, up to its closing bracket. -/
def Fills (colons free : Bool) (level : Nat) (inside : List Char)
    (slots : List (List Char)) : Prop :=
  ∀ text picture, text.head? ≠ some '[' →
    (∀ progress, Bracketed.Draws colons level progress text picture) →
      Bracketed.Draws colons level (if free then .opened else .outside)
        (inside ++ text) ([' '].intercalate slots ++ picture)

section

variable {colons : Bool}

/-- A node is drawn as soon as its inside is, with a free bracket and without. -/
theorem isDrawn_of_fills {tree : Tree} (inside : List Char)
    (slots : Bool → Nat → List (List Char)) (node : tree.isLeaf = false)
    (bare : tree.bare = '[' :: (inside ++ [']']))
    (drawn : ∀ free level,
      tree.drawn colons free level = enclosed level (slots free level))
    (fills : ∀ free level,
      Fills colons free (level + 1) inside (slots free level)) :
    tree.IsDrawn colons := by
  have filled (free : Bool) {level : Nat} {text picture : List Char}
      (known : Bracketed.Draws colons level .outside text picture) :
      Bracketed.Draws colons (level + 1) (if free then .opened else .outside)
        (inside ++ ']' :: text)
        ([' '].intercalate (slots free level) ++
          ((Brackets.Mark.closing level).drawn ++ picture)) := by
    apply fills free level
    · simp
    · intro progress
      exact known.closing
  constructor
  · intro word
    simp [node] at word
  · intro level progress text picture _ known
    rw [bare, drawn, enclosed_eq]
    simpa using (filled true known).opening
  · intro level text picture wanted _ known
    subst wanted
    rw [bare, drawn, enclosed_eq]
    simpa using (filled false known).colon

theorem head?_bareSlots_append (trees : List Tree) {text : List Char}
    (apart : text.head? ≠ some '[') :
    (bareSlots trees ++ text).head? ≠ some '[' := by
  cases trees with
  | nil => exact apart
  | cons head tail => simp [bareSlots]

/-- The slots after the first one are drawn one by one. -/
theorem draws_bareSlots {level : Nat} {text picture : List Char}
    (trees : List Tree) (each : ∀ tree ∈ trees, tree.IsDrawn colons)
    (known : Bracketed.Draws colons level .outside text picture) :
    Bracketed.Draws colons level .outside (bareSlots trees ++ text)
      ((drawnAll colons true level trees).flatMap (fun slot => ' ' :: slot) ++
        picture) := by
  induction trees with
  | nil => simpa [bareSlots, drawnAll] using known
  | cons head tail inTail =>
      have atTail := inTail fun tree member =>
        each tree (List.mem_cons_of_mem head member)
      have atHead : Bracketed.Draws colons level .outside
          (head.bare ++ (bareSlots tail ++ text)) _ :=
        (each head List.mem_cons_self).free (fun _ => rfl) atTail
      have atBoth : Bracketed.Draws colons level .outside
          (',' :: (head.bare ++ (bareSlots tail ++ text))) _ :=
        atHead.comma (by simp)
      simpa [bareSlots, drawnAll] using atBoth

/-- The characters of a text before a bracket, if the passes read it as a label. -/
theorem foldl_next_eq_named_iff (name : String) (free : Bool) :
    name.toList.foldl Bracketed.Progress.next
      (if free then .opened else .outside) =
        .named ↔
      free = true ∧ isLabel name = true := by
  cases free with
  | false => simp [Bracketed.foldl_next_outside]
  | true =>
      rw [isLabel_iff]
      simpa using Bracketed.foldl_next_opened_eq_named_iff name.toList

theorem isInner_of_isReadable {char : Char} (readable : IsReadable char) :
    Bracketed.IsInner char := by
  obtain ⟨_, _, noComma, noOpening, noClosing, _⟩ := readable
  exact ⟨noOpening, noClosing, noComma⟩

/-- A text in the first slot gets a colon exactly where one belongs. -/
theorem fills_text {name : String} (children : List Tree)
    (readable : ∀ char ∈ name.toList, IsReadable char)
    (each : ∀ child ∈ children, child.IsDrawn colons) (free : Bool) (level : Nat) :
    Fills colons free level (name.toList ++ bareSlots children)
      (firstSlot (colons && free && labelsNode name children) name ::
        drawnAll colons (!(colons && free && labelsNode name children)) level
          children) := by
  intro text picture apart known
  have inner : ∀ char ∈ name.toList, Bracketed.IsInner char :=
    fun char member => isInner_of_isReadable (readable char member)
  rw [intercalate_cons]
  cases children with
  | nil =>
      have drawn :
          Bracketed.Draws colons level (if free then .opened else .outside)
          (name.toList ++ text) _ :=
        .append inner (known _)
      simpa [labelsNode, firstSlot, bareSlots, drawnAll] using drawn
  | cons second rest =>
      have atSecond := each second List.mem_cons_self
      have atRest := draws_bareSlots rest
        (fun tree member => each tree (List.mem_cons_of_mem second member))
        (known .outside)
      cases colon : colons && free && labelsNode name (second :: rest) with
      | true =>
          simp only [labelsNode, List.head?_cons, Option.any_some,
            Bool.and_eq_true, Bool.not_eq_true'] at colon
          obtain ⟨⟨wanted, isFree⟩, label, node⟩ := colon
          have named := (foldl_next_eq_named_iff name free).mpr ⟨isFree, label⟩
          have atBracket := atSecond.taken wanted node atRest
          rw [← named] at atBracket
          have drawn := Bracketed.Draws.append inner atBracket
          simpa [firstSlot, bareSlots, drawnAll] using drawn
      | false =>
          have atHead : Bracketed.Draws colons level .outside
              (second.bare ++ (bareSlots rest ++ text)) _ :=
            atSecond.free (fun _ => rfl) atRest
          have noColon : ¬ (colons = true ∧
              name.toList.foldl Bracketed.Progress.next
                (if free then .opened else .outside) = .named ∧
              (second.bare ++ (bareSlots rest ++ text)).head? = some '[') := by
            rintro ⟨wanted, named, opens⟩
            obtain ⟨isFree, label⟩ := (foldl_next_eq_named_iff name free).mp named
            have word : second.isLeaf = true := by
              simpa [labelsNode, wanted, isFree, label] using colon
            rw [List.head?_append, Option.or_eq_some_iff] at opens
            rcases opens with atWord | ⟨_, after⟩
            · exact atSecond.word word atWord
            · exact head?_bareSlots_append rest apart after
          have drawn :
              Bracketed.Draws colons level (if free then .opened else .outside)
                (name.toList ++
                  (',' :: (second.bare ++ (bareSlots rest ++ text)))) _ :=
            .append inner (atHead.comma noColon)
          simpa [firstSlot, bareSlots, drawnAll] using drawn

/-- A node in the first slot never gets a colon. -/
theorem fills_node {first : Tree} (rest : List Tree) (node : first.isLeaf = false)
    (atFirst : first.IsDrawn colons) (each : ∀ tree ∈ rest, tree.IsDrawn colons)
    (free : Bool) (level : Nat) :
    Fills colons free level (first.bare ++ bareSlots rest)
      (drawnAll colons true level (first :: rest)) := by
  intro text picture _ known
  have atRest := draws_bareSlots rest each (known .outside)
  have drawn : Bracketed.Draws colons level (if free then .opened else .outside)
      (first.bare ++ (bareSlots rest ++ text)) _ :=
    atFirst.free (by simp [node]) atRest
  rw [drawnAll, intercalate_cons]
  simpa using drawn

theorem isDrawn_leaf {text : String}
    (readable : ∀ char ∈ text.toList, IsReadable char) :
    (Tree.leaf text).IsDrawn colons := by
  have inner : ∀ char ∈ text.toList, Bracketed.IsInner char :=
    fun char member => isInner_of_isReadable (readable char member)
  have bare := bare_leaf readable
  constructor
  · intro _ opens
    rw [bare] at opens
    have bracket := inner '[' (List.mem_of_mem_head? opens)
    exact bracket.1 rfl
  · intro level progress after picture word known
    obtain rfl := word rfl
    rw [← Bracketed.foldl_next_outside text.toList] at known
    rw [bare, drawn]
    exact .append inner known
  · intro level after picture _ node
    simp [isLeaf] at node

theorem isDrawn_labeled {name : String} {children : List Tree}
    (readable : ∀ char ∈ name.toList, IsReadable char)
    (each : ∀ child ∈ children, child.IsDrawn colons) :
    (Tree.labeled name children).IsDrawn colons := by
  apply isDrawn_of_fills (name.toList ++ bareSlots children) _ rfl
  · rw [bare_labeled children readable]
    simp
  · intro free level
    rw [drawn]
  · intro free level
    exact fills_text children readable each free (level + 1)

theorem isDrawn_unlabeled_nil : (Tree.unlabeled []).IsDrawn colons := by
  apply isDrawn_of_fills [] (fun _ _ => []) rfl
  · exact bare_unlabeled_nil
  · intro free level
    rfl
  · intro free level text picture _ known
    simpa using known _

/-- A word in the first slot of a node without a label stands for its label. -/
theorem isDrawn_unlabeled_leaf {text : String} {rest : List Tree}
    (readable : ∀ char ∈ text.toList, IsReadable char)
    (each : ∀ tree ∈ rest, tree.IsDrawn colons) :
    (Tree.unlabeled (.leaf text :: rest)).IsDrawn colons := by
  apply isDrawn_of_fills (text.toList ++ bareSlots rest) _ rfl
  · rw [bare_unlabeled_cons, bare_leaf readable]
    simp
  · intro free level
    rw [drawn]
  · intro free level
    exact fills_text rest readable each free (level + 1)

theorem isDrawn_unlabeled_node {first : Tree} {rest : List Tree}
    (node : first.isLeaf = false) (atFirst : first.IsDrawn colons)
    (each : ∀ tree ∈ rest, tree.IsDrawn colons) :
    (Tree.unlabeled (first :: rest)).IsDrawn colons := by
  apply isDrawn_of_fills (first.bare ++ bareSlots rest)
    (fun _ level => drawnAll colons true (level + 1) (first :: rest)) rfl
  · rw [bare_unlabeled_cons]
    simp
  · intro free level
    rw [drawn]
    rintro text children leaf
    simp [List.cons.inj leaf, isLeaf] at node
  · intro free level
    exact fills_node rest node atFirst each free (level + 1)

/-- The passes draw every tree whose names and words are readable. -/
theorem isDrawn_of_isReadable (tree : Tree)
    (readable : ∀ node ∈ tree.nodes, ∀ char ∈ node.ownText.toList,
      IsReadable char) :
    tree.IsDrawn colons := by
  induction tree using Tree.induction with
  | node tree inChildren =>
      obtain ⟨atRoot, below⟩ := (forall_mem_nodes_iff _ tree).mp readable
      have each : ∀ child ∈ tree.children, child.IsDrawn colons :=
        fun child member => inChildren child member (below child member)
      match tree with
      | .leaf text => exact isDrawn_leaf atRoot
      | .labeled name children => exact isDrawn_labeled atRoot each
      | .unlabeled [] => exact isDrawn_unlabeled_nil
      | .unlabeled (first :: rest) =>
          obtain ⟨atFirst, atRest⟩ := List.forall_mem_cons.mp each
          cases node : first.isLeaf with
          | true =>
              obtain ⟨text, rfl⟩ := first.isLeaf_iff.mp node
              have word := below (.leaf text) List.mem_cons_self (.leaf text)
                (by simp [nodes])
              exact isDrawn_unlabeled_leaf word atRest
          | false => exact isDrawn_unlabeled_node node atFirst atRest

end

end Tree

/-! ## The reading form -/

namespace Format

open Drawing

/-- The reading form of a readable tree is its drawing, and nothing is logged. -/
theorem write_text (view : View) (tree : Tree)
    (readable : ∀ node ∈ tree.nodes, ∀ char ∈ node.ownText.toList,
      IsReadable char) :
    text.write view tree =
      .done (String.ofList (tree.drawn view.showWordClasses true 0)) := by
  obtain ⟨drawn, noStray⟩ :
      Bracketed.Draws view.showWordClasses 0 .outside tree.bare
        (tree.drawn view.showWordClasses true 0) := by
    have atTree := (Tree.isDrawn_of_isReadable tree readable).free (fun _ => rfl)
      (Bracketed.Draws.nil view.showWordClasses 0 .outside)
    simpa using atTree
  have flat : (Bracketed.flat view.showWordClasses tree.jsonText).toList =
      Bracketed.passed view.showWordClasses .outside tree.bare := by
    simp [Bracketed.flat, Bracketed.passed, Tree.jsonText, Json.compact, Tree.bare]
  have noEntries : Bracketed.strays view.showWordClasses tree.jsonText = 0 := by
    rw [Bracketed.strays, Brackets.strays, flat]
    exact List.count_eq_zero.mpr noStray
  have picture : Bracketed.ofJsonText view.showWordClasses tree.jsonText =
      String.ofList (tree.drawn view.showWordClasses true 0) := by
    rw [Bracketed.ofJsonText, Brackets.prettify, flat, drawn]
  simp only [text, noEntries, picture]
  rfl

/-- Every part of a tree is shown, and labels get their colons. -/
def allShown : View where
  keepMorphology := true
  showSpaces := true
  showTerminators := true
  showWordClasses := true
  trim := false
  showMainParts := false
  json := false
  plainLeaves := false

/-- Four labels in a chain around a word with an empty node, and a word besides. -/
def chainedLabels : Tree :=
  .labeled "text"
    [ .labeled "sentence"
        [.labeled "sumti"
          [.labeled "KOhA" [.unlabeled [.leaf "mi", .unlabeled []]]]],
      .leaf "mu'i" ]

/-- Every other label of the chain gets a colon, and the fifth level a number. -/
theorem write_text_chainedLabels :
    (∀ node ∈ chainedLabels.nodes, ∀ char ∈ node.ownText.toList, IsReadable char) ∧
      text.write allShown chainedLabels =
        .done "(text: [sentence \x7bsumti: <KOhA ¹(mi: [])¹>\x7d] mu'i)" := by
  have readable :
      ∀ node ∈ chainedLabels.nodes, ∀ char ∈ node.ownText.toList,
        IsReadable char := by
    simp [chainedLabels, Tree.nodes, Tree.nodesAll, Tree.ownText, IsReadable]
  have picture : chainedLabels.drawn allShown.showWordClasses true 0 =
      "(text: [sentence \x7bsumti: <KOhA ¹(mi: [])¹>\x7d] mu'i)".toList := by
    decide
  have written := write_text allShown chainedLabels readable
  rw [picture, String.ofList_toList] at written
  exact ⟨readable, written⟩

end Format

end LojbanTree
