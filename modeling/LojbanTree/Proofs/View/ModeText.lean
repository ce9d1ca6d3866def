import LojbanTree.View.Mode

/-!
# Modes as texts

A mode is written as letters or as a number from 0 to 31.  `Mode.IsModeText`
says which texts these are.  `Mode.decoded_iff` says that no other text describes
a view, what the view of a text depends on, and that views and modes have texts
of their own from which they are read back.
-/

namespace LojbanTree

/-! ## Letters -/

namespace Letter

theorem mem_all (letter : Letter) : letter ∈ all := by
  cases letter <;> decide

theorem char_injective {left right : Letter} (same : left.char = right.char) :
    left = right := by
  have each :
      ∀ left ∈ all, ∀ right ∈ all, left.char = right.char → left = right := by
    decide
  exact each left left.mem_all right right.mem_all same

end Letter

namespace Mode

/-- The characters of the letters of views. -/
def letterChars : List Char := ['M', 'S', 'T', 'C', 'R', 'N', 'J', '!']

/-- Whether a text has letters of views only, in any order and number. -/
def IsLetterText (text : String) : Prop := ∀ char ∈ text.toList, char ∈ letterChars

/-- Whether a text has decimal digits only, and at least one. -/
def IsDigitText (text : String) : Prop :=
  text.toList ≠ [] ∧ ∀ char ∈ text.toList, char.isDigit = true

/-- The number that a text of digits writes. -/
def number (text : String) : Nat := Nat.ofDigitChars 10 text.toList 0

/-- Whether a text is letters or a number in range. -/
def IsModeText (text : String) : Prop :=
  IsLetterText text ∨ IsDigitText text ∧ number text ≤ 31

theorem isCode_iff (text : String) : isCode text = true ↔ IsDigitText text := by
  simp [isCode, IsDigitText]

instance (text : String) : Decidable (IsLetterText text) :=
  List.decidableBAll (· ∈ letterChars) text.toList

instance (text : String) : Decidable (IsDigitText text) :=
  decidable_of_iff (isCode text = true) (isCode_iff text)

instance (text : String) : Decidable (IsModeText text) :=
  inferInstanceAs (Decidable (_ ∨ _ ∧ _))

/-- The view that a text describes, or the fault for which the text is refused. -/
def decoded (text : String) : Except Fault View := do
  let mode ← (ofText text).mapError .option
  mode.view.mapError .option

end Mode

namespace View

open Mode

/-! ## Views of letters -/

/-- The view of a text of letters. -/
def ofLetterText (text : String) : View :=
  ofLetterSet fun letter => text.toList.contains letter.char

theorem find?_stranger_eq_none_iff (text : String) :
    (text.toList.find? fun char => !Letter.alphabet.contains char) = none ↔
      IsLetterText text := by
  have letters : Letter.alphabet = letterChars := rfl
  rw [List.find?_eq_none, letters, IsLetterText]
  simp only [Bool.not_eq_true', Bool.not_eq_false, List.contains_iff_mem]

theorem ofLetters_of_isLetterText {text : String} (letters : IsLetterText text) :
    ofLetters text = .ok (ofLetterText text) := by
  rw [ofLetters, (find?_stranger_eq_none_iff text).mpr letters]
  rfl

/-- A text with any other character than the letters is refused for it. -/
theorem exists_stranger {text : String} (noLetters : ¬ IsLetterText text) :
    ∃ stranger, ofLetters text = .error stranger := by
  rw [← find?_stranger_eq_none_iff, ← ne_eq,
    Option.ne_none_iff_exists'] at noLetters
  rcases noLetters with ⟨stranger, found⟩
  exact ⟨stranger, by rw [ofLetters, found]⟩

theorem ofLetterText_congr {text other : String}
    (same : ∀ char, char ∈ text.toList ↔ char ∈ other.toList) :
    ofLetterText text = ofLetterText other := by
  have each (letter : Letter) :
      text.toList.contains letter.char = other.toList.contains letter.char := by
    rw [Bool.eq_iff_iff, List.contains_iff_mem, List.contains_iff_mem]
    exact same letter.char
  rw [ofLetterText, ofLetterText, funext each]

theorem toList_letters (view : View) :
    view.letters.toList =
      (Letter.all.filter (Letter.holds view)).map Letter.char := by
  rw [letters, String.toList_ofList]

theorem isLetterText_letters (view : View) : IsLetterText view.letters := by
  intro char member
  rw [toList_letters] at member
  rcases List.mem_map.mp member with ⟨letter, _, rfl⟩
  exact List.mem_map_of_mem letter.mem_all

theorem ofLetterText_letters (view : View) : ofLetterText view.letters = view := by
  have each (letter : Letter) :
      view.letters.toList.contains letter.char = letter.holds view := by
    rw [Bool.eq_iff_iff, List.contains_iff_mem, toList_letters, List.mem_map]
    constructor
    · rintro ⟨other, member, same⟩
      rw [← Letter.char_injective same]
      exact (List.mem_filter.mp member).2
    · intro holds
      exact ⟨letter, List.mem_filter.mpr ⟨letter.mem_all, holds⟩, rfl⟩
  calc
    ofLetterText view.letters = ofLetterSet (Letter.holds view) :=
      congrArg ofLetterSet (funext each)
    _ = view := ofLetterSet_holds view

/-- The letters of a view are read back as that view. -/
theorem ofLetters_letters (view : View) : ofLetters view.letters = .ok view := by
  rw [ofLetters_of_isLetterText (isLetterText_letters view), ofLetterText_letters]

end View

/-! ## Views of numbers -/

namespace LegacyCode

/-- The table of presets and the letters of a number agree. -/
theorem view?_eq_ofLetterText {code : Nat} (inRange : code ≤ 31) :
    view? code = some (View.ofLetterText (letters code)) := by
  have each : ∀ code : Fin 32,
      view? (code.val : Int) = some (View.ofLetterText (letters code)) := by
    decide
  exact each ⟨code, by omega⟩

theorem view?_eq_none {code : Nat} (outside : 31 < code) : view? code = none := by
  have apart : ¬ (0 ≤ (code : Int) ∧ (code : Int) ≤ greatest) := by
    simp only [greatest]
    omega
  rw [view?, if_neg apart]

theorem isLetterText_letters {code : Nat} (inRange : code ≤ 31) :
    Mode.IsLetterText (letters code) := by
  have each : ∀ code : Fin 32, Mode.IsLetterText (letters code) := by decide
  exact each ⟨code, by omega⟩

end LegacyCode

namespace Mode

/-! ## Which texts describe a view -/

theorem not_isDigitText_of_isLetterText {text : String}
    (letters : IsLetterText text) :
    ¬ IsDigitText text := by
  rintro ⟨nonempty, digits⟩
  rcases List.exists_mem_of_ne_nil _ nonempty with ⟨char, member⟩
  have each : ∀ char ∈ letterChars, char.isDigit = false := by simp [letterChars]
  have noDigit := each char (letters char member)
  rw [digits char member] at noDigit
  simp at noDigit

theorem ofText_letters {text : String} (noDigits : ¬ IsDigitText text) :
    ofText text = .ok (.letters text) := by
  rw [← isCode_iff] at noDigits
  rw [ofText, if_neg noDigits]

theorem ofText_digits {text : String} (digits : IsDigitText text) :
    ofText text =
      if number text ≤ greatestCode then .ok (.code (number text))
      else .error (.codeTooLarge text) := by
  rw [← isCode_iff] at digits
  rw [ofText, if_pos digits]
  rfl

/-- A text of letters is decoded as the set of its letters. -/
theorem decoded_of_isLetterText {text : String} (letters : IsLetterText text) :
    decoded text = .ok (View.ofLetterText text) := by
  rw [decoded, ofText_letters (not_isDigitText_of_isLetterText letters)]
  show (Mode.letters text).view.mapError Fault.option = _
  rw [view, View.ofLetters_of_isLetterText letters]
  rfl

/-- A number in range is decoded as the letters that it stands for. -/
theorem decoded_of_isDigitText {text : String} (digits : IsDigitText text)
    (inRange : number text ≤ 31) :
    decoded text = .ok (View.ofLetterText (LegacyCode.letters (number text))) := by
  have writable : number text ≤ greatestCode := Nat.le_trans inRange (by decide)
  rw [decoded, ofText_digits digits, if_pos writable]
  show (Mode.code (number text)).view.mapError Fault.option = _
  rw [view, LegacyCode.view?_eq_ofLetterText inRange]
  rfl

/--
A text that is no mode has a stranger among its letters or too great a number.
-/
theorem exists_fault {text : String} (noMode : ¬ IsModeText text) :
    ∃ fault, decoded text = .error (.option fault) := by
  rw [IsModeText, not_or, not_and] at noMode
  rcases noMode with ⟨noLetters, outside⟩
  by_cases digits : IsDigitText text
  · rw [decoded, ofText_digits digits]
    split
    case isTrue =>
      refine ⟨.codeOutOfRange (number text) LegacyCode.greatest, ?_⟩
      show (Mode.code (number text)).view.mapError Fault.option = _
      rw [view, LegacyCode.view?_eq_none (Nat.lt_of_not_le (outside digits))]
      rfl
    case isFalse => exact ⟨.codeTooLarge text, rfl⟩
  · rcases View.exists_stranger noLetters with ⟨stranger, refused⟩
    refine ⟨.unknownLetter stranger text, ?_⟩
    rw [decoded, ofText_letters digits]
    show (Mode.letters text).view.mapError Fault.option = _
    rw [view, refused]
    rfl

theorem exists_view {text : String} (isMode : IsModeText text) :
    ∃ view, decoded text = .ok view := by
  rcases isMode with letters | ⟨digits, inRange⟩
  · exact ⟨_, decoded_of_isLetterText letters⟩
  · exact ⟨_, decoded_of_isDigitText digits inRange⟩

/-- Exactly the texts of modes are decoded. -/
theorem exists_view_iff (text : String) :
    (∃ view, decoded text = .ok view) ↔ IsModeText text := by
  constructor
  · rintro ⟨view, described⟩
    by_cases isMode : IsModeText text
    · exact isMode
    · rcases exists_fault isMode with ⟨fault, refused⟩
      rw [described] at refused
      contradiction
  · exact exists_view

/-! ## Texts of modes -/

theorem isDigitText_toString (value : Nat) : IsDigitText (toString value) := by
  rw [IsDigitText, Nat.toString_eq_ofList_toDigits, String.toList_ofList]
  constructor
  · exact Nat.toDigits_ne_nil
  · intro char member
    exact Nat.isDigit_of_mem_toDigits (by decide) (by decide) member

theorem number_toString (value : Nat) : number (toString value) = value := by
  rw [number, Nat.toString_eq_ofList_toDigits, String.toList_ofList,
    Nat.ofDigitChars_ten_toDigits]

/-- The text of a mode is another way to write it, without zeros in front. -/
theorem ofText_text_of_ofText {text : String} {mode : Mode}
    (read : ofText text = .ok mode) : ofText mode.text = .ok mode := by
  by_cases digits : IsDigitText text
  · rw [ofText_digits digits] at read
    split at read
    case isFalse => simp at read
    case isTrue writable =>
      obtain rfl := Except.ok.inj read
      show ofText (toString (number text)) = _
      rw [ofText_digits (isDigitText_toString _), number_toString, if_pos writable]
  · have same := read
    rw [ofText_letters digits] at same
    obtain rfl := Except.ok.inj same
    exact read

/--
A text describes a view if and only if it is letters, or a number up to 31 with any
zeros in front; every other text is refused as an option.  Letters count once and
in any order, a number stands for its letters, and every view and every mode that
was read has a text from which it is read back.
-/
theorem decoded_iff :
    (∀ text, (∃ view, decoded text = .ok view) ↔ IsModeText text) ∧
      (∀ text, ¬ IsModeText text → ∃ fault,
        decoded text = .error (.option fault)) ∧
      (∀ text other, IsLetterText text →
        (∀ char, char ∈ text.toList ↔ char ∈ other.toList) →
          ∃ view, decoded text = .ok view ∧ decoded other = .ok view) ∧
      (∀ text, IsDigitText text → number text ≤ 31 →
        ∃ view, decoded text = .ok view ∧
          View.ofLetters (LegacyCode.letters (number text)) = .ok view) ∧
      (∀ view : View, View.ofLetters view.letters = .ok view) ∧
      ∀ text mode, ofText text = .ok mode → ofText mode.text = .ok mode := by
  refine ⟨exists_view_iff, fun _ => exists_fault, ?_, ?_, View.ofLetters_letters,
    fun _ _ => ofText_text_of_ofText⟩
  · intro text other letters same
    have otherLetters : IsLetterText other :=
      fun char member => letters char ((same char).mpr member)
    refine ⟨View.ofLetterText text, decoded_of_isLetterText letters, ?_⟩
    rw [View.ofLetterText_congr same]
    exact decoded_of_isLetterText otherLetters
  · intro text digits inRange
    have letters := LegacyCode.isLetterText_letters inRange
    exact ⟨_, decoded_of_isDigitText digits inRange,
      View.ofLetters_of_isLetterText letters⟩

/-- A number in range with zeros in front, one out of range, and a mixture. -/
theorem decoded_iff_paddedNumber :
    (IsDigitText "0031" ∧ number "0031" ≤ 31 ∧
        ∃ view, decoded "0031" = .ok view ∧
          View.ofLetters (LegacyCode.letters (number "0031")) = .ok view) ∧
      (¬ IsModeText "032" ∧ ∃ fault, decoded "032" = .error (.option fault)) ∧
      (¬ IsModeText "1R" ∧ ∃ fault, decoded "1R" = .error (.option fault)) ∧
      (IsLetterText "TCT" ∧ ∃ view, decoded "TCT" = .ok view ∧
        decoded "CT" = .ok view) ∧
      ofText "0031" = .ok (.code 31) ∧
        ofText (text (.code 31)) = .ok (.code 31) := by
  rcases decoded_iff with ⟨_, refused, letters, numbers, _, again⟩
  have digits : IsDigitText "0031" := by decide
  have inRange : number "0031" ≤ 31 := by decide
  have outside : ¬ IsModeText "032" := by decide
  have mixed : ¬ IsModeText "1R" := by decide
  have repeated : IsLetterText "TCT" := by decide
  have same : ∀ char, char ∈ "TCT".toList ↔ char ∈ "CT".toList := by
    intro char
    grind
  have read : ofText "0031" = .ok (.code 31) := by
    rw [ofText_digits digits]
    rfl
  exact
    ⟨⟨digits, inRange, numbers "0031" digits inRange⟩,
      ⟨outside, refused _ outside⟩, ⟨mixed, refused _ mixed⟩,
      ⟨repeated, letters _ _ repeated same⟩, read, again "0031" (.code 31) read⟩

end Mode

end LojbanTree
