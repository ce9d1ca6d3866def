import LojbanTree.Proofs.Rendering.Restoring

/-!
# Matching brackets in drawings

A closing bracket closes the nearest bracket before it that is still open.
`Brackets.openBefore` keeps the places of the open brackets as a stack, while a
drawing is made with a count of them only.  The count is enough because the
stack below an open bracket is the one that stood when it was read, so both
brackets of a pair are drawn for the same level.

`Brackets.prettify_matching` says what is drawn at every place of a text, what
the numbers read, and which closing brackets are warned of.
-/

namespace LojbanTree

namespace Brackets

open Drawing

/-! ## Open brackets -/

/-- The places of the brackets that are open before a place, the nearest first. -/
def openBefore (text : List Char) : Nat → List Nat
  | 0 => []
  | place + 1 =>
      match text[place]? with
      | some '[' => place :: openBefore text place
      | some ']' => (openBefore text place).tail
      | _ => openBefore text place

/-- The number of brackets that are open before a place. -/
def levelBefore (text : List Char) (place : Nat) : Nat :=
  (openBefore text place).length

section

variable {text : List Char} {place : Nat}

/-- An opening bracket is put on the stack with its place. -/
theorem openBefore_opening (here : text[place]? = some '[') :
    openBefore text (place + 1) = place :: openBefore text place := by
  simp [openBefore, here]

/--
A closing bracket takes the last opening one from the stack, if there is one.
-/
theorem openBefore_closing (here : text[place]? = some ']') :
    openBefore text (place + 1) = (openBefore text place).tail := by
  simp [openBefore, here]

/-- Any other character leaves the stack as it is. -/
theorem openBefore_other {char : Char} (here : text[place]? = some char)
    (noOpening : char ≠ '[') (noClosing : char ≠ ']') :
    openBefore text (place + 1) = openBefore text place := by
  simp [openBefore, here, noOpening, noClosing]

end

/-- Below an open bracket are those that were open when it was read. -/
theorem openBefore_of_suffix {text : List Char} {place opener : Nat}
    {below : List Nat} (suffix : opener :: below <:+ openBefore text place) :
    below = openBefore text opener := by
  induction place with
  | zero => simp [openBefore] at suffix
  | succ place inPlace =>
      unfold openBefore at suffix
      split at suffix
      · rcases List.suffix_cons_iff.mp suffix with whole | earlier
        · rcases List.cons.inj whole with ⟨rfl, rfl⟩
          rfl
        · exact inPlace earlier
      · exact inPlace (suffix.trans (List.tail_suffix _))
      · exact inPlace suffix

/-! ## What a character is at its place -/

/-- The mark of a character at its place. -/
def markAt (text : List Char) : Char × Nat → Mark
  | ('[', place) => .opening (levelBefore text place)
  | (']', place) =>
      match openBefore text place with
      | opener :: _ => .closing (levelBefore text opener)
      | [] => .stray
  | (char, _) => .other char

/--
The first mark is the one of its place, and the others begin at the next place.
-/
theorem marks_cons {text : List Char} {place : Nat} {char : Char}
    (here : text[place]? = some char) (rest : List Char) :
    marks (levelBefore text place) (char :: rest) =
      markAt text (char, place) :: marks (levelBefore text (place + 1)) rest := by
  by_cases opens : char = '['
  · subst opens
    rw [marks, levelBefore, levelBefore, openBefore_opening here]
    rfl
  by_cases closes : char = ']'
  · subst closes
    cases stack : openBefore text place with
    | nil => simp [marks, markAt, levelBefore, openBefore_closing here, stack]
    | cons opener below =>
        have suffix : opener :: below <:+ openBefore text place := by simp [stack]
        have level : below = openBefore text opener := openBefore_of_suffix suffix
        simp [marks, markAt, levelBefore, openBefore_closing here, stack, ← level]
  · rw [Bracketed.marks_other _ _ opens closes, levelBefore, levelBefore,
      openBefore_other here opens closes, markAt]
    · exact opens
    · exact closes

/--
The marks from a cut on are the marks at the places behind it.  The text stays
whole in the induction, and the cut moves over one character at a time.
-/
theorem marks_eq_map {text before after : List Char}
    (split : before ++ after = text) :
    marks (levelBefore text before.length) after =
      (after.zipIdx before.length).map (markAt text) := by
  induction after generalizing before with
  | nil => rfl
  | cons char rest inRest =>
      have here : text[before.length]? = some char := by
        simp [← split]
      have next := @inRest (before ++ [char]) (by simp [← split])
      rw [List.length_append, List.length_singleton] at next
      rw [marks_cons here, next, List.zipIdx_cons, List.map_cons]

theorem marks_zero (text : List Char) :
    marks 0 text = text.zipIdx.map (markAt text) :=
  @marks_eq_map text [] text rfl

/-! ## Numbers -/

/-- The number that raised digits spell in decimal. -/
def spelled (number : List Char) : Nat :=
  number.foldl (fun value digit => 10 * value + raisedDigits.idxOf digit) 0

/--
Whether raised digits are the decimal form of a number, without a zero in front.
-/
structure IsNumeral (value : Nat) (number : List Char) : Prop where
  raised : ∀ digit ∈ number, digit ∈ raisedDigits
  noZero : number.head? ≠ some '⁰'
  spelled_eq : spelled number = value

theorem idxOf_raised {digit : Char} (decimal : digit.isDigit = true) :
    raisedDigits.idxOf (raised digit) = digit.toNat - '0'.toNat :=
  forall_isDigit
    (motive := fun digit => raisedDigits.idxOf (raised digit) =
      digit.toNat - '0'.toNat)
    (by decide) decimal

theorem eq_zero_of_raised {digit : Char} (decimal : digit.isDigit = true)
    (zero : raised digit = '⁰') : digit = '0' :=
  forall_isDigit (motive := fun digit => raised digit = '⁰' → digit = '0')
    (by decide) decimal zero

theorem foldl_raised {digits : List Char}
    (decimal : ∀ digit ∈ digits, digit.isDigit = true) (start : Nat) :
    (digits.map raised).foldl
        (fun value digit => 10 * value + raisedDigits.idxOf digit) start =
      Nat.ofDigitChars 10 digits start := by
  induction digits generalizing start with
  | nil => rfl
  | cons digit rest inRest =>
      rcases List.forall_mem_cons.mp decimal with ⟨atDigit, atRest⟩
      rw [List.map_cons, List.foldl_cons, inRest atRest, idxOf_raised atDigit]
      rfl

/-- A positive number is written without a zero in front. -/
theorem head?_toDigits {value : Nat} (positive : 0 < value) :
    (Nat.toDigits 10 value).head? ≠ some '0' := by
  induction value using Nat.strongRecOn with
  | ind value inSmaller =>
      rcases Nat.lt_or_ge value 10 with single | several
      · have each :
            ∀ digit : Fin 10, 0 < digit.val → Nat.digitChar digit ≠ '0' := by
          decide
        rw [Nat.toDigits_of_lt_base single]
        simpa using each ⟨value, single⟩ positive
      · have first := inSmaller (value / 10) (by omega) (by omega)
        rw [Nat.toDigits_of_base_le (by decide) several, List.head?_append]
        cases leading : (Nat.toDigits 10 (value / 10)).head? with
        | none =>
            exact absurd (List.head?_eq_none_iff.mp leading) Nat.toDigits_ne_nil
        | some digit =>
            rw [leading] at first
            exact first

/-- The raised digits of a positive number are read back as that number. -/
theorem isNumeral_raised {value : Nat} (positive : 0 < value) :
    IsNumeral value ((Nat.toDigits 10 value).map raised) := by
  have decimal : ∀ digit ∈ Nat.toDigits 10 value, digit.isDigit = true :=
    fun _ member => Nat.isDigit_of_mem_toDigits (by decide) (by decide) member
  constructor
  · intro char member
    rcases List.mem_map.mp member with ⟨digit, isDigit, rfl⟩
    exact raised_mem_raisedDigits (decimal digit isDigit)
  · intro zero
    rw [List.head?_map, Option.map_eq_some_iff] at zero
    rcases zero with ⟨digit, first, raisedZero⟩
    have member := List.mem_of_mem_head? first
    rw [eq_zero_of_raised (decimal digit member) raisedZero] at first
    exact head?_toDigits positive first
  · rw [spelled, foldl_raised decimal, Nat.ofDigitChars_ten_toDigits]

/-! ## Drawings of texts -/

/-- What is drawn for a character at its place. -/
def drawnAt (text : List Char) : Char × Nat → List Char
  | ('[', place) =>
      Drawing.round (levelBefore text place) ++
        [openings.getD (levelBefore text place % 4) '(']
  | (']', place) =>
      match openBefore text place with
      | opener :: _ =>
          closings.getD (levelBefore text opener % 4) ')' ::
            Drawing.round (levelBefore text opener)
      | [] => [']']
  | (char, _) => [char]

/-- Whether a character is a closing bracket that closes nothing. -/
def isUnmatched (text : List Char) : Char × Nat → Bool
  | (char, place) => char == ']' && (openBefore text place).isEmpty

/-- The closing brackets that close nothing, each with its place. -/
def unmatched (text : List Char) : List (Char × Nat) :=
  text.zipIdx.filter (isUnmatched text)

theorem drawn_opening (level : Nat) :
    (Mark.opening level).drawn =
      Drawing.round level ++ [openings.getD (level % 4) '('] := by
  rw [Mark.drawn, tag_eq_round, openShape_eq]

theorem drawn_closing (level : Nat) :
    (Mark.closing level).drawn =
      closings.getD (level % 4) ')' :: Drawing.round level := by
  rw [Mark.drawn, tag_eq_round, closeShape_eq]

/-- Each place is drawn for its own level, however the scanner came to it. -/
theorem drawn_markAt (text : List Char) (placed : Char × Nat) :
    (markAt text placed).drawn = drawnAt text placed := by
  unfold markAt drawnAt
  split
  · exact drawn_opening _
  · split
    · exact drawn_closing _
    · rfl
  · rfl

theorem markAt_eq_stray_iff (text : List Char) (placed : Char × Nat) :
    markAt text placed = .stray ↔ isUnmatched text placed = true := by
  unfold markAt isUnmatched
  split
  · simp
  · split
    next stack => simp [stack]
    next stack => simp [stack]
  next char _ _ noClosing =>
    have inner : char ≠ ']' := noClosing
    simp [inner]

/-- The scanner counts every closing bracket that closes nothing, and no other. -/
theorem strays_eq (text : String) :
    strays text = (unmatched text.toList).length := by
  rw [strays, marks_zero, unmatched, List.count, List.countP_map,
    ← List.countP_eq_length_filter]
  apply List.countP_congr
  intro placed _
  rw [Function.comp_apply, beq_iff_eq]
  exact markAt_eq_stray_iff text.toList placed

/--
Every bracket is drawn for the level at which its pair begins, with the number of
the round on the outer side of both of them, and all else is left as it is.  Each
closing bracket that closes nothing has one warning, which says no more than that.
-/
theorem prettify_matching (text : String) :
    (prettify text).toList = text.toList.zipIdx.flatMap (drawnAt text.toList) ∧
      (∀ level,
        if 0 < level ∧ level % 4 = 0 then
          IsNumeral (level / 4) (Drawing.round level)
        else Drawing.round level = []) ∧
      strays text = (unmatched text.toList).length ∧
      ∀ (view : View) (tree : Tree),
        let flat := (Bracketed.flat view.showWordClasses tree.jsonText).toList
        (Format.text.write view tree).entries =
            List.replicate (unmatched flat).length .strayBracket ∧
          (Format.text.write view tree).entries.map
              (fun entry => (entry.level, entry.message)) =
            List.replicate (unmatched flat).length
              (.warning, "unbalanced closing bracket in rendered tree") := by
  constructor
  · rw [prettify, String.toList_ofList, marks_zero, List.flatMap_map]
    exact congrArg (text.toList.zipIdx.flatMap ·)
      (funext (drawn_markAt text.toList))
  constructor
  · intro level
    split
    case isTrue numbered =>
      rw [Drawing.round, if_pos numbered]
      exact isNumeral_raised (by omega)
    case isFalse plain => rw [Drawing.round, if_neg plain]
  constructor
  · exact strays_eq text
  · intro view tree flat
    have warned :
        (Format.text.write view tree).entries =
          List.replicate (unmatched flat).length .strayBracket := by
      rw [← strays_eq]
      exact List.append_nil _
    constructor
    · exact warned
    · rw [warned, List.map_replicate]
      rfl

end Brackets

end LojbanTree
