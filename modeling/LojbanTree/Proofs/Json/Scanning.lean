import LojbanTree.Proofs.Json.Arrays
import LojbanTree.Proofs.Json.Passing

/-!
# The scan for nesting and what is read

The scan for nesting sees the characters of a text and not its values.  But
where a value is read, the scan passes the same characters: it skips strings
with whatever is escaped in them, and for an array or an object it rises by one
and comes back.  So the peak of a text is at least the number of levels of its
value, and exactly that if the value has no object in it.

The same walk shows that a reader never leaves more than it was given.
-/

namespace LojbanTree

namespace Json

/-! ## Skipping strings -/

/--
Whether the scan comes from one text to a later one without a bracket on the
way, with where it stands before and after.
-/
structure Skips (before : Quoting) (text : List Char) (after : Quoting)
    (rest : List Char) : Prop where
  peakFrom_eq : ∀ peak depth,
    peakFrom peak depth before text = peakFrom peak depth after rest
  length_le : rest.length ≤ text.length

namespace Skips

theorem refl (quoting : Quoting) (text : List Char) :
    Skips quoting text quoting text :=
  ⟨fun _ _ => rfl, Nat.le_refl _⟩

theorem trans {before middle after : Quoting} {text between rest : List Char}
    (first : Skips before text middle between)
    (second : Skips middle between after rest) : Skips before text after rest := by
  constructor
  · intro peak depth
    rw [first.peakFrom_eq, second.peakFrom_eq]
  · exact Nat.le_trans second.length_le first.length_le

theorem cons {before middle after : Quoting} {char : Char} {text rest : List Char}
    (step : ∀ peak depth,
      peakFrom peak depth before (char :: text) = peakFrom peak depth middle text)
    (later : Skips middle text after rest) :
    Skips before (char :: text) after rest := by
  have first : Skips before (char :: text) middle text :=
    ⟨step, Nat.le_succ text.length⟩
  exact first.trans later

/-- Outside an escape, plain characters do not change where the scan stands. -/
theorem of_passes {quoting : Quoting} {text rest : List Char}
    (noEscape : quoting ≠ .escaped) (passes : Passes text rest) :
    Skips quoting text quoting rest := by
  induction passes with
  | refl text => exact .refl quoting text
  | cons plain later inLater =>
      apply Skips.cons _ inLater
      intro peak depth
      simp only [IsPlain, marks, List.mem_cons, List.not_mem_nil, or_false,
        not_or] at plain
      obtain ⟨noQuote, noBackslash, noBracket, noEnd, noBrace, noEndBrace⟩ := plain
      cases quoting with
      | outside => simp [peakFrom, noQuote, noBracket, noEnd, noBrace, noEndBrace]
      | inside => simp [peakFrom, noQuote, noBackslash]
      | escaped => exact absurd rfl noEscape

/-- What is read inside a string without a mark is skipped. -/
theorem of_readUnit {text rest : List Char} {unit : Nat}
    (read : readUnit text = .ok (unit, rest)) : Skips .inside text .inside rest :=
  of_passes (by decide) (.of_readUnit read)

theorem of_readSecondHalf {text rest : List Char} {unit : Nat}
    (read : readSecondHalf text = .ok (unit, rest)) :
    Skips .inside text .inside rest := by
  unfold readSecondHalf at read
  split at read
  · simp at read
  · split at read
    · simp at read
    · exact .cons (fun _ _ => rfl) (.cons (fun _ _ => rfl) (of_readUnit read))
    · simp at read
  · simp at read

theorem of_readHexEscape {text rest : List Char} {char : Char}
    (read : readHexEscape text = .ok (char, rest)) :
    Skips .inside text .inside rest := by
  unfold readHexEscape at read
  obtain ⟨⟨unit, afterUnit⟩, atUnit, read⟩ := exists_of_bind read
  apply (of_readUnit atUnit).trans
  dsimp only at read
  split at read
  · simp at read
  · split at read
    · obtain ⟨⟨second, afterSecond⟩, atSecond, read⟩ := exists_of_bind read
      apply (of_readSecondHalf atSecond).trans
      dsimp only at read
      split at read
      · exact of_passes (by decide) (.of_ok read)
      · simp at read
    · exact of_passes (by decide) (.of_ok read)

/-- An escape brings the scan back into the string that it belongs to. -/
theorem of_readEscape {text rest : List Char} {char : Char}
    (read : readEscape text = .ok (char, rest)) :
    Skips .escaped text .inside rest := by
  unfold readEscape at read
  split at read
  case h_1 | h_11 => simp at read
  case h_10 => exact .cons (fun _ _ => rfl) (of_readHexEscape read)
  all_goals exact .cons (fun _ _ => rfl) (of_passes (by decide) (.of_ok read))

/-- The scan leaves a string where reading it ends. -/
theorem of_readChars {fuel : Nat} {text rest chars : List Char}
    (read : readChars fuel text = .ok (chars, rest)) :
    Skips .inside text .outside rest := by
  induction fuel generalizing text rest chars with
  | zero => simp [readChars] at read
  | succ fuel inFuel =>
      cases text with
      | nil => simp [readChars] at read
      | cons char text =>
          rw [readChars] at read
          split at read
          case isTrue quote =>
            apply Skips.cons _ (of_passes (by decide) (.of_ok read))
            intro peak depth
            simp [peakFrom, quote]
          case isFalse noQuote =>
            split at read
            case isTrue backslash =>
              obtain ⟨⟨escaped, afterEscape⟩, atEscape, read⟩ :=
                exists_of_bind read
              obtain ⟨⟨later, afterLater⟩, atLater, read⟩ := exists_of_bind read
              cases read
              apply Skips.cons _ ((of_readEscape atEscape).trans (inFuel atLater))
              intro peak depth
              simp [peakFrom, backslash]
            case isFalse noBackslash =>
              split at read
              · simp at read
              · obtain ⟨⟨later, afterLater⟩, atLater, read⟩ := exists_of_bind read
                cases read
                apply Skips.cons _ (inFuel atLater)
                intro peak depth
                simp [peakFrom, noQuote, noBackslash]

theorem of_readString {fuel : Nat} {text rest : List Char} {string : String}
    (read : readString fuel text = .ok (string, rest)) :
    Skips .inside text .outside rest := by
  obtain ⟨⟨chars, afterChars⟩, atChars, read⟩ := exists_of_bind read
  cases read
  exact of_readChars atChars

end Skips

theorem Passes.length_le {text rest : List Char} (passes : Passes text rest) :
    rest.length ≤ text.length :=
  (Skips.of_passes (by decide : Quoting.outside ≠ .escaped) passes).length_le

/-! ## Rising and coming back -/

/--
Whether the scan goes from one text to a later one, rises by a height on the
way and comes back to the depth where it began.
-/
structure Rises (text rest : List Char) (height : Nat) : Prop where
  peakFrom_eq : ∀ peak depth, depth ≤ peak →
    peakFrom peak depth .outside text =
      peakFrom (max peak (depth + height)) depth .outside rest
  length_le : rest.length ≤ text.length

namespace Rises

theorem of_skips {text rest : List Char}
    (skips : Skips .outside text .outside rest) :
    Rises text rest 0 := by
  constructor
  · intro peak depth below
    rw [Nat.add_zero, Nat.max_eq_left below]
    exact skips.peakFrom_eq peak depth
  · exact skips.length_le

theorem of_passes {text rest : List Char} (passes : Passes text rest) :
    Rises text rest 0 :=
  of_skips (.of_passes (by decide) passes)

theorem of_readString {fuel : Nat} {text rest : List Char} {string : String}
    (read : readString fuel text = .ok (string, rest)) :
    Rises ('"' :: text) rest 0 :=
  of_skips (.cons (fun _ _ => rfl) (.of_readString read))

theorem trans {text between rest : List Char} {left right : Nat}
    (first : Rises text between left) (second : Rises between rest right) :
    Rises text rest (max left right) := by
  constructor
  · intro peak depth below
    have still : depth ≤ max peak (depth + left) :=
      Nat.le_trans below (Nat.le_max_left _ _)
    rw [first.peakFrom_eq peak depth below, second.peakFrom_eq _ depth still,
      Nat.max_assoc, Nat.add_max_add_left]
  · exact Nat.le_trans second.length_le first.length_le

/-- The scan rises by one for brackets around a text. -/
theorem bracket {opens closes : Char} {inside rest : List Char} {height : Nat}
    (opening : opens = '[' ∨ opens = '\x7b')
    (closing : closes = ']' ∨ closes = '\x7d')
    (within : Rises inside (closes :: rest) height) :
    Rises (opens :: inside) rest (height + 1) := by
  constructor
  · intro peak depth below
    have enters : peakFrom peak depth .outside (opens :: inside) =
        peakFrom (max peak (depth + 1)) (depth + 1) .outside inside := by
      rcases opening with rfl | rfl <;> simp [peakFrom]
    have leaves (peak : Nat) :
        peakFrom peak (depth + 1) .outside (closes :: rest) =
          peakFrom peak depth .outside rest := by
      rcases closing with rfl | rfl <;> simp [peakFrom]
    have still : depth + 1 ≤ max peak (depth + 1) :=
      Nat.le_max_right peak (depth + 1)
    rw [enters, within.peakFrom_eq _ _ still, leaves, Nat.max_assoc]
    congr 2
    omega
  · have shorter := within.length_le
    simp only [List.length_cons] at shorter ⊢
    omega

theorem of_passes_trans {text between rest : List Char} {height : Nat}
    (first : Passes text between) (second : Rises between rest height) :
    Rises text rest height := by
  simpa using (of_passes first).trans second

end Rises

/-! ## Levels of what is read -/

mutual

/-- Whether a value has no object in it. -/
def isObjectFree : Json → Bool
  | .array elements => areObjectFree elements
  | .object _ => false
  | .null | .boolean _ | .number _ | .string _ => true

/-- Whether the values of a list have no object in them. -/
def areObjectFree : List Json → Bool
  | [] => true
  | value :: rest => isObjectFree value && areObjectFree rest

end

/--
Whether the scan goes from one text to a later one and rises by at least the
given number of levels, and by no more if there are no objects on the way.
-/
def Covers (text rest : List Char) (levels : Nat) (objectFree : Bool) : Prop :=
  ∃ height, Rises text rest height ∧ levels ≤ height ∧
    (objectFree = true → height = levels)

namespace Covers

theorem of_rises {text rest : List Char} {objectFree : Bool}
    (rises : Rises text rest 0) : Covers text rest 0 objectFree :=
  ⟨0, rises, Nat.le_refl 0, fun _ => rfl⟩

theorem length_le {text rest : List Char} {levels : Nat} {objectFree : Bool}
    (covers : Covers text rest levels objectFree) : rest.length ≤ text.length := by
  obtain ⟨height, rises, _⟩ := covers
  exact rises.length_le

theorem of_passes_trans {text between rest : List Char} {levels : Nat}
    {objectFree : Bool} (first : Passes text between)
    (second : Covers between rest levels objectFree) :
    Covers text rest levels objectFree := by
  obtain ⟨height, rises, atLeast, exactly⟩ := second
  exact ⟨height, rises.of_passes_trans first, atLeast, exactly⟩

theorem trans {text between rest : List Char} {left right : Nat}
    {leftFree rightFree : Bool} (first : Covers text between left leftFree)
    (second : Covers between rest right rightFree) :
    Covers text rest (max left right) (leftFree && rightFree) := by
  obtain ⟨height, rises, atLeast, exactly⟩ := first
  obtain ⟨height', rises', atLeast', exactly'⟩ := second
  refine ⟨max height height', rises.trans rises', ?_, ?_⟩
  · exact Nat.max_le.mpr
      ⟨Nat.le_trans atLeast (Nat.le_max_left _ _),
        Nat.le_trans atLeast' (Nat.le_max_right _ _)⟩
  · intro free
    rw [Bool.and_eq_true] at free
    rw [exactly free.1, exactly' free.2]

/-- An array has one level more than its elements. -/
theorem array {inside rest : List Char} {levels : Nat} {objectFree : Bool}
    (elements : Covers inside (']' :: rest) levels objectFree) :
    Covers ('[' :: inside) rest (levels + 1) objectFree := by
  obtain ⟨height, rises, atLeast, exactly⟩ := elements
  refine ⟨height + 1, rises.bracket (.inl rfl) (.inl rfl), ?_, ?_⟩
  · exact Nat.succ_le_succ atLeast
  · intro free
    rw [exactly free]

/-- The scan rises for an object, which has no level. -/
theorem object {inside rest : List Char} {height : Nat}
    (members : Rises inside ('\x7d' :: rest) height) :
    Covers ('\x7b' :: inside) rest 0 false :=
  ⟨height + 1, members.bracket (.inr rfl) (.inr rfl), Nat.zero_le _, by simp⟩

end Covers

mutual

/-- The scan covers what is read as a value. -/
theorem covers_readValue :
    (fuel : Nat) → {text rest : List Char} → {value : Json} →
      readValue fuel text = .ok (value, rest) →
        Covers text rest value.levels value.isObjectFree
  | 0, _, _, _, read => by simp [readValue] at read
  | fuel + 1, text, rest, value, read => by
      apply Covers.of_passes_trans (Passes.dropBlanks text)
      rw [readValue] at read
      split at read
      case h_1 => simp at read
      case h_2 word begins | h_3 word begins | h_4 word begins =>
        rw [begins]
        obtain ⟨rfl, passes⟩ := Passes.of_readWord (by simp [IsPlain, marks]) read
        exact .of_rises (.of_passes (.cons (by decide) passes))
      case h_5 inside begins =>
        rw [begins]
        obtain ⟨⟨string, after⟩, atString, read⟩ := exists_of_bind read
        cases read
        exact .of_rises (.of_readString atString)
      case h_6 inside begins =>
        rw [begins]
        have blanks := Passes.dropBlanks inside
        split at read
        · simp at read
        next after ends =>
          cases read
          rw [ends] at blanks
          exact .array (.of_rises (.of_passes blanks))
        next =>
          obtain ⟨⟨elements, after⟩, atElements, read⟩ := exists_of_bind read
          cases read
          exact .array
            ((covers_readElements fuel atElements).of_passes_trans blanks)
      case h_7 inside begins =>
        rw [begins]
        have blanks := Passes.dropBlanks inside
        split at read
        · simp at read
        next after ends =>
          cases read
          rw [ends] at blanks
          exact .object (.of_passes blanks)
        next key quote =>
          obtain ⟨⟨members, after⟩, atMembers, read⟩ := exists_of_bind read
          obtain ⟨height, rises⟩ := rises_readMembers fuel atMembers
          cases read
          rw [quote] at blanks
          exact .object (rises.of_passes_trans blanks)
        · simp at read
      case h_8 begins =>
        rw [begins]
        split at read
        next =>
          obtain ⟨⟨number, after⟩, atNumber, read⟩ := exists_of_bind read
          cases read
          exact .of_rises (.of_passes (.of_readNumber atNumber))
        · simp at read

/-- The scan covers what is read as elements, up to the bracket after them. -/
theorem covers_readElements :
    (fuel : Nat) → {text rest : List Char} → {elements : List Json} →
      readElements fuel text = .ok (elements, rest) →
        Covers text (']' :: rest) (levelsAll elements) (areObjectFree elements)
  | 0, _, _, _, read => by simp [readElements] at read
  | fuel + 1, text, rest, elements, read => by
      rw [readElements] at read
      obtain ⟨⟨element, after⟩, atElement, read⟩ := exists_of_bind read
      have first := covers_readValue fuel atElement
      have blanks := Passes.dropBlanks after
      dsimp only at read
      split at read
      · simp at read
      next ends =>
        cases read
        rw [ends] at blanks
        exact first.trans (.of_rises (.of_passes blanks))
      next next comma =>
        rw [comma] at blanks
        have between := blanks.trans (.cons (by decide) (Passes.dropBlanks next))
        split at read
        · simp at read
        · simp at read
        · obtain ⟨⟨later, afterLater⟩, atLater, read⟩ := exists_of_bind read
          cases read
          exact first.trans
            ((covers_readElements fuel atLater).of_passes_trans between)
      · simp at read

/-- The scan rises over what is read as members, up to the brace after them. -/
theorem rises_readMembers :
    (fuel : Nat) → {text rest : List Char} → {members : List (String × Json)} →
      readMembers fuel text = .ok (members, rest) →
        ∃ height, Rises ('"' :: text) ('\x7d' :: rest) height
  | 0, _, _, _, read => by simp [readMembers] at read
  | fuel + 1, text, rest, members, read => by
      rw [readMembers] at read
      obtain ⟨⟨key, afterKey⟩, atKey, read⟩ := exists_of_bind read
      obtain ⟨⟨⟨⟩, afterColon⟩, atColon, read⟩ := exists_of_bind read
      obtain ⟨⟨value, after⟩, atValue, read⟩ := exists_of_bind read
      obtain ⟨height, atFirst, _⟩ := covers_readValue fuel atValue
      have member : Rises ('"' :: text) after (max 0 height) :=
        (Rises.of_readString atKey).trans
          (atFirst.of_passes_trans (Passes.of_readColon atColon))
      have blanks := Passes.dropBlanks after
      dsimp only at read
      split at read
      · simp at read
      next ends =>
        cases read
        rw [ends] at blanks
        exact ⟨_, member.trans (.of_passes blanks)⟩
      next next comma =>
        rw [comma] at blanks
        have between := blanks.trans (.cons (by decide) (Passes.dropBlanks next))
        split at read
        · simp at read
        · simp at read
        next quote =>
          obtain ⟨⟨later, afterLater⟩, atLater, read⟩ := exists_of_bind read
          obtain ⟨_, rises⟩ := rises_readMembers fuel atLater
          cases read
          rw [quote] at between
          exact ⟨_, member.trans (rises.of_passes_trans between)⟩
        · simp at read
      · simp at read

end

/-! ## Texts -/

/-- A text is nested as its value, or more deeply if there are objects in it. -/
theorem covers_of_read {text : String} {value : Json}
    (decoded : read text = .ok value) :
    Covers text.toList [] value.levels value.isObjectFree := by
  have whole : readAll text.toList = .ok value := by
    rw [read] at decoded
    cases outcome : readAll text.toList with
    | error stop =>
        rw [outcome] at decoded
        cases decoded
    | ok found =>
        rw [outcome] at decoded
        cases decoded
        rfl
  obtain ⟨⟨found, after⟩, atValue, ends⟩ := exists_of_bind whole
  have blanks := Passes.dropBlanks after
  dsimp only at ends
  split at ends
  next nothing =>
    cases ends
    rw [nothing] at blanks
    have toEnd : Covers after [] 0 true := .of_rises (.of_passes blanks)
    simpa using (covers_readValue _ atValue).trans toEnd
  · simp at ends

theorem Rises.peak_eq {text : String} {height : Nat}
    (rises : Rises text.toList [] height) : peak text = height := by
  rw [peak, rises.peakFrom_eq 0 0 (Nat.le_refl 0)]
  simp [peakFrom]

/--
The brackets of a text are nested at least as deeply as the arrays that it holds.
-/
theorem levels_le_peak {text : String} {value : Json}
    (decoded : read text = .ok value) :
    value.levels ≤ peak text := by
  obtain ⟨height, rises, atLeast, _⟩ := covers_of_read decoded
  rw [rises.peak_eq]
  exact atLeast

/-- Without objects they are nested exactly as deeply. -/
theorem peak_eq_levels {text : String} {value : Json}
    (decoded : read text = .ok value)
    (objectFree : value.isObjectFree = true) : peak text = value.levels := by
  obtain ⟨height, rises, _, exactly⟩ := covers_of_read decoded
  rw [rises.peak_eq]
  exact exactly objectFree

/-! ## Counters of bounded size -/

theorem peakFrom_le (peak depth : Nat) (quoting : Quoting) (text : List Char) :
    peakFrom peak depth quoting text ≤ max peak (depth + text.length) := by
  fun_induction peakFrom peak depth quoting text with
  | case1 => exact Nat.le_max_left _ _
  | _ => simp only [List.length_cons]; omega

/-- A text is not nested more deeply than it is long. -/
theorem peak_le_length (text : String) : peak text ≤ text.length := by
  have bound := peakFrom_le 0 0 .outside text.toList
  rwa [Nat.zero_add, Nat.zero_max, String.length_toList] at bound

/--
A limit is exceeded in the same texts if the sum is cut off at a greatest
number, as long as no text is longer than that.
-/
theorem min_lt_peak_iff {text : String} {greatest : Nat} (limit : Nat)
    (short : text.length ≤ greatest) :
    min (limit + 1) greatest < peak text ↔ limit + 1 < peak text := by
  have bounded : peak text ≤ greatest := Nat.le_trans (peak_le_length text) short
  rcases Nat.le_total (limit + 1) greatest with small | large
  · rw [Nat.min_eq_left small]
  · rw [Nat.min_eq_right large]
    constructor
    · intro exceeds
      exact absurd bounded (Nat.not_le.mpr exceeds)
    · intro exceeds
      exact Nat.lt_of_le_of_lt large exceeds

end Json

end LojbanTree
