import LojbanTree.Rendering.Bracketed

/-!
# The passes of the reading form

The reading form is made in passes over the characters of a text: labels get
their colons, commas become spaces, and brackets are drawn by their depth.
`Bracketed.Draws` says what the passes together make of a text from a given
depth and a given progress with labels, and that no bracket closes nothing.

Each lemma puts something in front of a text of which this is known already,
because a label gets its colon only when the text goes on with a bracket.
-/

namespace LojbanTree

namespace Bracketed

/-! ## Colons and spaces -/

/-- A text with colons if they are wanted, and with spaces for its commas. -/
def passed (colons : Bool) (progress : Progress) (text : List Char) : List Char :=
  spaced (if colons then labelColons progress text else text)

/-- A character is kept unless it is the comma that a colon replaces. -/
theorem labelColons_cons {progress : Progress} {char : Char} {rest : List Char}
    (apart : ¬ (progress = .named ∧ char = ',' ∧ rest.head? = some '[')) :
    labelColons progress (char :: rest) =
      char ::
        labelColons (if char = '[' then .opened else progress.next char) rest := by
  rw [labelColons]
  rintro other rfl rfl rfl
  simp at apart

theorem passed_cons {colons : Bool} {progress : Progress} {char : Char}
    {rest : List Char} (noComma : char ≠ ',') :
    passed colons progress (char :: rest) =
      char ::
        passed colons
          (if char = '[' then .opened else progress.next char) rest := by
  cases colons with
  | false => simp [passed, spaced, noComma]
  | true =>
      have apart : ¬ (progress = .named ∧ char = ',' ∧ rest.head? = some '[') := by
        rintro ⟨_, comma, _⟩
        exact noComma comma
      simp [passed, spaced, labelColons_cons apart, noComma]

/-- A comma becomes a space, unless it stands between a label and a bracket. -/
theorem passed_comma {colons : Bool} {progress : Progress} {rest : List Char}
    (apart : ¬ (colons = true ∧ progress = .named ∧ rest.head? = some '[')) :
    passed colons progress (',' :: rest) = ' ' :: passed colons .outside rest := by
  cases colons with
  | false => simp [passed, spaced]
  | true =>
      have noColon :
          ¬ (progress = .named ∧ ',' = ',' ∧ rest.head? = some '[') := by
        rintro ⟨named, _, opens⟩
        exact apart ⟨rfl, named, opens⟩
      have left : progress.next ',' = .outside := by
        cases progress <;> rfl
      simp [passed, spaced, labelColons_cons noColon, left]

/--
A comma between a label and a bracket becomes a colon, and takes the bracket along.
-/
theorem passed_colon (rest : List Char) :
    passed true .named (',' :: '[' :: rest) =
      ':' :: ' ' :: '[' :: passed true .outside rest := by
  simp [passed, spaced, labelColons]

/-! ## Labels -/

theorem foldl_next_outside (text : List Char) :
    text.foldl Progress.next .outside = .outside := by
  induction text with
  | nil => rfl
  | cons char rest inRest => exact inRest

theorem foldl_next_named (text : List Char) :
    text.foldl Progress.next .named =
      if text.all isLabelChar then .named else .outside := by
  induction text with
  | nil => rfl
  | cons char rest inRest =>
      cases label : isLabelChar char with
      | true => simp [Progress.next, label, inRest]
      | false => simp [Progress.next, label, foldl_next_outside]

/-- After a bracket, exactly the characters of a label prepare for a colon. -/
theorem foldl_next_opened_eq_named_iff (text : List Char) :
    text.foldl Progress.next .opened = .named ↔
      text ≠ [] ∧ ∀ char ∈ text, isLabelChar char = true := by
  cases text with
  | nil => simp
  | cons char rest =>
      cases label : isLabelChar char with
      | true => simp [Progress.next, label, foldl_next_named]
      | false => simp [Progress.next, label, foldl_next_outside]

/-! ## What the passes draw -/

/-- Whether the passes make a picture of a text without a stray bracket. -/
def Draws (colons : Bool) (level : Nat) (progress : Progress)
    (text picture : List Char) : Prop :=
  (Brackets.marks level (passed colons progress text)).flatMap
    Brackets.Mark.drawn =
      picture ∧
    Brackets.Mark.stray ∉ Brackets.marks level (passed colons progress text)

theorem Draws.nil (colons : Bool) (level : Nat) (progress : Progress) :
    Draws colons level progress [] [] := by
  cases colons <;> simp [Draws, passed, spaced, labelColons, Brackets.marks]

theorem marks_other (level : Nat) {char : Char} (rest : List Char)
    (noOpening : char ≠ '[') (noClosing : char ≠ ']') :
    Brackets.marks level (char :: rest) =
      .other char :: Brackets.marks level rest := by
  rw [Brackets.marks]
  · exact noOpening
  · exact noClosing

/-- A character that is part of a name or a word. -/
def IsInner (char : Char) : Prop := char ≠ '[' ∧ char ≠ ']' ∧ char ≠ ','

section

variable {colons : Bool} {level : Nat} {progress : Progress}
variable {text picture : List Char}

theorem Draws.cons {char : Char} (inner : IsInner char)
    (known : Draws colons level (progress.next char) text picture) :
    Draws colons level progress (char :: text) (char :: picture) := by
  obtain ⟨noOpening, noClosing, noComma⟩ := inner
  obtain ⟨drawn, noStray⟩ := known
  rw [Draws, passed_cons noComma, if_neg noOpening,
    marks_other level _ noOpening noClosing]
  constructor
  · simp [Brackets.Mark.drawn, drawn]
  · simpa using noStray

/-- Names and words are drawn as they are. -/
theorem Draws.append {word : List Char} (inner : ∀ char ∈ word, IsInner char)
    (known : Draws colons level (word.foldl Progress.next progress) text picture) :
    Draws colons level progress (word ++ text) (word ++ picture) := by
  induction word generalizing progress with
  | nil => exact known
  | cons char rest inRest =>
      apply Draws.cons
      · exact inner char List.mem_cons_self
      · apply inRest
        · intro other member
          exact inner other (List.mem_cons_of_mem char member)
        · exact known

theorem Draws.opening (known : Draws colons (level + 1) .opened text picture) :
    Draws colons level progress ('[' :: text)
      ((Brackets.Mark.opening level).drawn ++ picture) := by
  obtain ⟨drawn, noStray⟩ := known
  rw [Draws, passed_cons (by decide), if_pos rfl, Brackets.marks]
  constructor
  · simp [drawn]
  · simpa using noStray

theorem Draws.closing (known : Draws colons level .outside text picture) :
    Draws colons (level + 1) progress (']' :: text)
      ((Brackets.Mark.closing level).drawn ++ picture) := by
  have left : progress.next ']' = .outside := by
    cases progress <;> rfl
  obtain ⟨drawn, noStray⟩ := known
  rw [Draws, passed_cons (by decide), if_neg (by decide), left, Brackets.marks]
  constructor
  · simp [drawn]
  · simpa using noStray

/-- A comma becomes a space unless it stands between a label and a bracket. -/
theorem Draws.comma
    (apart : ¬ (colons = true ∧ progress = .named ∧ text.head? = some '['))
    (known : Draws colons level .outside text picture) :
    Draws colons level progress (',' :: text) (' ' :: picture) := by
  obtain ⟨drawn, noStray⟩ := known
  rw [Draws, passed_comma apart, marks_other level _ (by decide) (by decide)]
  constructor
  · simp [Brackets.Mark.drawn, drawn]
  · simpa using noStray

/-- Between a label and a bracket the comma becomes a colon and a space. -/
theorem Draws.colon (known : Draws true (level + 1) .outside text picture) :
    Draws true level .named (',' :: '[' :: text)
      (':' :: ' ' :: ((Brackets.Mark.opening level).drawn ++ picture)) := by
  obtain ⟨drawn, noStray⟩ := known
  rw [Draws, passed_colon, marks_other level _ (by decide) (by decide),
    marks_other level _ (by decide) (by decide), Brackets.marks]
  constructor
  · simp [Brackets.Mark.drawn, drawn]
  · simpa using noStray

end

end Bracketed

end LojbanTree
