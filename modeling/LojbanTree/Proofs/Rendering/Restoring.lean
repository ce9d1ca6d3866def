import LojbanTree.Proofs.Rendering.Drawing

/-!
# Texts read back from their drawing

The shape and the number of a bracket follow from its depth, so they can be
taken away again.  `Brackets.undrawn` drops the raised digits of a drawing and
makes every bracket a square one.  `Brackets.undrawn_prettify` says that this
gives the text back, whether its brackets match or not, and that a drawing has
numbers if and only if five brackets are open somewhere in the text.
-/

namespace LojbanTree

namespace Brackets

open Drawing

/-! ## Drawings without shapes and numbers -/

/-- The raised digits in ascending order. -/
def raisedDigits : List Char := ['⁰', '¹', '²', '³', '⁴', '⁵', '⁶', '⁷', '⁸', '⁹']

/-- A character that is no raised digit, and no bracket unless a square one. -/
def IsUndrawn (char : Char) : Prop :=
  char ∉ raisedDigits ∧ char ∉ ['(', ')', '\x7b', '\x7d', '<', '>']

instance (char : Char) : Decidable (IsUndrawn char) :=
  inferInstanceAs (Decidable (_ ∧ _))

/-- A bracket of any shape as a square one; other characters stay as they are. -/
def squared (char : Char) : Char :=
  if char ∈ openings then '[' else if char ∈ closings then ']' else char

/-- Characters of a drawing without raised digits and with square brackets only. -/
def undrawnChars (picture : List Char) : List Char :=
  (picture.filter fun char => char ∉ raisedDigits).map squared

/-- A drawing without raised digits and with square brackets only. -/
def undrawn (picture : String) : String :=
  String.ofList (undrawnChars picture.toList)

theorem undrawnChars_append (left right : List Char) :
    undrawnChars (left ++ right) = undrawnChars left ++ undrawnChars right := by
  simp [undrawnChars]

theorem undrawnChars_raised {number : List Char}
    (raised : ∀ char ∈ number, char ∈ raisedDigits) :
    undrawnChars number = [] := by
  rw [undrawnChars, List.map_eq_nil_iff, List.filter_eq_nil_iff]
  intro char member
  simpa using raised char member

theorem undrawnChars_singleton {char : Char} (noDigit : char ∉ raisedDigits) :
    undrawnChars [char] = [squared char] := by
  simp [undrawnChars, noDigit]

theorem squared_of_isUndrawn {char : Char} (undrawn : IsUndrawn char) :
    squared char = char := by
  obtain ⟨_, noBracket⟩ := undrawn
  simp only [List.mem_cons, List.not_mem_nil, or_false, not_or] at noBracket
  obtain ⟨round, roundEnd, brace, braceEnd, angle, angleEnd⟩ := noBracket
  unfold squared
  split
  case isTrue opens =>
    simpa [openings, round, brace, angle, eq_comm] using opens
  case isFalse =>
    split
    case isTrue closes =>
      simpa [closings, roundEnd, braceEnd, angleEnd, eq_comm] using closes
    case isFalse => rfl

/-! ## Numbers and shapes -/

theorem raised_mem_raisedDigits {digit : Char} (decimal : digit.isDigit = true) :
    raised digit ∈ raisedDigits :=
  forall_isDigit (motive := fun digit => raised digit ∈ raisedDigits)
    (by decide) decimal

theorem mem_raisedDigits_of_mem_round {level : Nat} {char : Char}
    (member : char ∈ Drawing.round level) : char ∈ raisedDigits := by
  unfold Drawing.round at member
  split at member
  case isTrue =>
    obtain ⟨digit, isDigit, rfl⟩ := List.mem_map.mp member
    exact raised_mem_raisedDigits
      (Nat.isDigit_of_mem_toDigits (by decide) (by decide) isDigit)
  case isFalse => simp at member

theorem mem_raisedDigits_of_mem_tag {level : Nat} {char : Char}
    (member : char ∈ tag level) : char ∈ raisedDigits := by
  rw [tag_eq_round] at member
  exact mem_raisedDigits_of_mem_round member

/-- The first four levels have no number. -/
theorem tag_of_lt {level : Nat} (outer : level < 4) : tag level = [] := by
  match level with
  | 0 | 1 | 2 | 3 => rfl

theorem openShape_mem (level : Nat) : openShape level ∈ openings := by
  unfold openShape
  split <;> decide

theorem closeShape_mem (level : Nat) : closeShape level ∈ closings := by
  unfold closeShape
  split <;> decide

theorem not_mem_raisedDigits_of_shape {shape : Char}
    (isShape : shape ∈ openings ++ closings) : shape ∉ raisedDigits := by
  have each : ∀ shape ∈ openings ++ closings, shape ∉ raisedDigits := by
    simp [openings, closings, raisedDigits]
  exact each shape isShape

theorem openShape_not_mem_raisedDigits (level : Nat) :
    openShape level ∉ raisedDigits :=
  not_mem_raisedDigits_of_shape (List.mem_append_left _ (openShape_mem level))

theorem closeShape_not_mem_raisedDigits (level : Nat) :
    closeShape level ∉ raisedDigits :=
  not_mem_raisedDigits_of_shape (List.mem_append_right _ (closeShape_mem level))

/-- Every closing shape stands for a square closing bracket. -/
theorem squared_closeShape (level : Nat) : squared (closeShape level) = ']' := by
  have each : ∀ shape ∈ closings, squared shape = ']' := by
    simp [closings, squared, openings]
  exact each _ (closeShape_mem level)

/-! ## Reading a drawing back -/

theorem undrawnChars_opening (level : Nat) :
    undrawnChars (Mark.opening level).drawn = ['['] := by
  have square : squared (openShape level) = '[' := if_pos (openShape_mem level)
  rw [Mark.drawn, undrawnChars_append,
    undrawnChars_raised fun _ => mem_raisedDigits_of_mem_tag,
    undrawnChars_singleton (openShape_not_mem_raisedDigits level), square]
  rfl

theorem undrawnChars_closing (level : Nat) :
    undrawnChars (Mark.closing level).drawn = [']'] := by
  rw [Mark.drawn, ← List.singleton_append, undrawnChars_append,
    undrawnChars_raised fun _ => mem_raisedDigits_of_mem_tag,
    undrawnChars_singleton (closeShape_not_mem_raisedDigits level),
    squared_closeShape]
  rfl

/-- Marks drawn from any depth are read back, because no mark needs its level. -/
theorem undrawnChars_marks (depth : Nat) (text : List Char)
    (undrawn : ∀ char ∈ text, IsUndrawn char) :
    undrawnChars ((marks depth text).flatMap Mark.drawn) = text := by
  fun_induction marks depth text with
  | case1 => rfl
  | case2 depth rest inRest =>
      rw [List.flatMap_cons, undrawnChars_append, undrawnChars_opening,
        inRest (List.forall_mem_cons.mp undrawn).2]
      rfl
  | case3 rest inRest =>
      rw [List.flatMap_cons, undrawnChars_append,
        inRest (List.forall_mem_cons.mp undrawn).2]
      rfl
  | case4 rest level inRest =>
      rw [List.flatMap_cons, undrawnChars_append, undrawnChars_closing,
        inRest (List.forall_mem_cons.mp undrawn).2]
      rfl
  | case5 depth char rest _ _ inRest =>
      rcases List.forall_mem_cons.mp undrawn with ⟨atChar, atRest⟩
      rw [List.flatMap_cons, undrawnChars_append, inRest atRest, Mark.drawn,
        undrawnChars_singleton atChar.1, squared_of_isUndrawn atChar]
      rfl

/-! ## The running depth -/

/-- How many brackets are open after a character, if `depth` are open before it. -/
def depthAfter (depth : Nat) (char : Char) : Nat :=
  if char = '[' then depth + 1 else if char = ']' then depth - 1 else depth

/-- How many brackets are open at the start of a text and after each character. -/
def depths (text : String) : List Nat := text.toList.scanl depthAfter 0

/-- Whether a drawing has a number. -/
def IsNumbered (picture : List Char) : Prop :=
  ∃ char ∈ picture, char ∈ raisedDigits

theorem isNumbered_append_iff {left right : List Char}
    (bare : ∀ char ∈ left, char ∉ raisedDigits) :
    IsNumbered (left ++ right) ↔ IsNumbered right := by
  constructor
  · rintro ⟨char, member, raised⟩
    rcases List.mem_append.mp member with before | after
    · exact absurd raised (bare char before)
    · exact ⟨char, after, raised⟩
  · rintro ⟨char, member, raised⟩
    exact ⟨char, List.mem_append_right left member, raised⟩

theorem five_mem_scanl_iff {depth : Nat} (shallow : depth ≤ 4) (char : Char)
    (rest : List Char) :
    5 ∈ (char :: rest).scanl depthAfter depth ↔
      5 ∈ rest.scanl depthAfter (depthAfter depth char) := by
  have apart : 5 ≠ depth := by omega
  simp [List.scanl_cons, apart]

theorem not_mem_raisedDigits_of_opening {level : Nat} (outer : level < 4) :
    ∀ char ∈ (Mark.opening level).drawn, char ∉ raisedDigits := by
  rw [Mark.drawn, tag_of_lt outer]
  simpa using openShape_not_mem_raisedDigits level

theorem not_mem_raisedDigits_of_closing {level : Nat} (outer : level < 4) :
    ∀ char ∈ (Mark.closing level).drawn, char ∉ raisedDigits := by
  rw [Mark.drawn, tag_of_lt outer]
  simpa using closeShape_not_mem_raisedDigits level

/--
The first number of a drawing stands at the first bracket of the fifth level.  From
there on it does not matter what follows.
-/
theorem isNumbered_marks_iff {depth : Nat} (shallow : depth ≤ 4) (text : List Char)
    (undrawn : ∀ char ∈ text, IsUndrawn char) :
    IsNumbered ((marks depth text).flatMap Mark.drawn) ↔
      5 ∈ text.scanl depthAfter depth := by
  fun_induction marks depth text with
  | case1 depth =>
      have apart : 5 ≠ depth := by omega
      simp [IsNumbered, apart]
  | case2 depth rest inRest =>
      rw [five_mem_scanl_iff shallow, List.flatMap_cons]
      rcases Nat.lt_or_eq_of_le shallow with outer | rfl
      · rw [isNumbered_append_iff (not_mem_raisedDigits_of_opening outer)]
        exact inRest outer (List.forall_mem_cons.mp undrawn).2
      · constructor
        · intro _
          cases rest <;> simp [depthAfter]
        · intro _
          exact ⟨'¹', List.mem_append_left _ (by decide), by decide⟩
  | case3 rest inRest =>
      have noDigit : ∀ char ∈ Mark.stray.drawn, char ∉ raisedDigits := by
        simp [Mark.drawn, raisedDigits]
      rw [five_mem_scanl_iff shallow, List.flatMap_cons,
        isNumbered_append_iff noDigit]
      exact inRest shallow (List.forall_mem_cons.mp undrawn).2
  | case4 rest level inRest =>
      rw [five_mem_scanl_iff shallow, List.flatMap_cons,
        isNumbered_append_iff (not_mem_raisedDigits_of_closing (by omega))]
      exact inRest (by omega) (List.forall_mem_cons.mp undrawn).2
  | case5 depth char rest noOpening noClosing inRest =>
      rcases List.forall_mem_cons.mp undrawn with ⟨atChar, atRest⟩
      have noDigit : ∀ other ∈ (Mark.other char).drawn, other ∉ raisedDigits := by
        simpa [Mark.drawn] using atChar.1
      have same : depthAfter depth char = depth := by
        rw [depthAfter, if_neg noOpening, if_neg noClosing]
      rw [five_mem_scanl_iff shallow, List.flatMap_cons,
        isNumbered_append_iff noDigit, same]
      exact inRest shallow atRest

/-! ## Drawings of texts -/

/-- Whether a text has nothing that only a drawing should have. -/
def IsUndrawnText (text : String) : Prop := ∀ char ∈ text.toList, IsUndrawn char

instance (text : String) : Decidable (IsUndrawnText text) :=
  List.decidableBAll IsUndrawn text.toList

/-- A text without brackets of other shapes is restored from its drawing. -/
theorem undrawn_of_prettify {text : String} (plain : IsUndrawnText text) :
    undrawn (prettify text) = text := by
  rw [undrawn, prettify, String.toList_ofList,
    undrawnChars_marks 0 text.toList plain, String.ofList_toList]

/--
A text is read back from its drawing, so texts with one drawing are the same.
The drawing has numbers if and only if the running depth of the text reaches five.
-/
theorem undrawn_prettify (text : String) (plain : IsUndrawnText text) :
    undrawn (prettify text) = text ∧
      (IsNumbered (prettify text).toList ↔ 5 ∈ depths text) ∧
      ∀ other, IsUndrawnText other → prettify other = prettify text →
        other = text := by
  have back := undrawn_of_prettify plain
  constructor
  · exact back
  constructor
  · rw [prettify, String.toList_ofList]
    exact isNumbered_marks_iff (Nat.zero_le 4) text.toList plain
  · intro other plainOther same
    calc
      other = undrawn (prettify other) := (undrawn_of_prettify plainOther).symm
      _ = undrawn (prettify text) := by rw [same]
      _ = text := back

/-- A text with a bracket that closes nothing and with two that stay open. -/
def unbalanced : String := "a]b[[c[d[e[f]]g]"

/--
The drawing of that text, with numbers around the only pair of the fifth level.
-/
def unbalancedDrawing : String := "a]b([c\x7bd<e¹(f)¹>g\x7d"

theorem undrawn_prettify_unbalanced :
    IsUndrawnText unbalanced ∧ prettify unbalanced = unbalancedDrawing ∧
      undrawn unbalancedDrawing = unbalanced ∧
      IsNumbered unbalancedDrawing.toList ∧ 5 ∈ depths unbalanced ∧
      ∀ other, IsUndrawnText other → prettify other = unbalancedDrawing →
        other = unbalanced := by
  have plain : IsUndrawnText unbalanced := by decide
  have drawing : prettify unbalanced = unbalancedDrawing := by decide
  have five : 5 ∈ depths unbalanced := by decide
  rcases undrawn_prettify unbalanced plain with ⟨back, numbered, only⟩
  rw [drawing] at back numbered only
  exact ⟨plain, drawing, back, numbered.mpr five, five, only⟩

end Brackets

end LojbanTree
