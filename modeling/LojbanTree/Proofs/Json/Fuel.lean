import LojbanTree.Proofs.Json.Scanning

/-!
# The fuel of reading

What is read from a text does not depend on the fuel, as long as there are two
units for each character.  A reader is called again with one unit less, either
on the same text or on a text that is shorter by a bracket, a quote or a comma
at least, so one unit more never changes anything.
-/

namespace LojbanTree

namespace Json

/-- Two readings agree if they do the same with what the first of them find. -/
theorem bind_congr_of_ok {first second : Type} {reading : Reading first}
    {next other : first → Reading second}
    (same : ∀ value, reading = .ok value → next value = other value) :
    reading >>= next = reading >>= other := by
  cases reading with
  | error stop => rfl
  | ok value => exact same value rfl

/-! ## Strings -/

/-- As much fuel as there are characters is enough for the rest of a string. -/
theorem readChars_succ {fuel : Nat} {text : List Char}
    (enough : text.length ≤ fuel) :
    readChars (fuel + 1) text = readChars fuel text := by
  induction fuel generalizing text with
  | zero =>
      obtain rfl := List.length_eq_zero_iff.mp (Nat.le_zero.mp enough)
      simp [readChars]
  | succ fuel inFuel =>
      cases text with
      | nil => simp [readChars]
      | cons char rest =>
          rw [List.length_cons, Nat.succ_le_succ_iff] at enough
          rw [readChars, readChars]
          split
          · rfl
          · split
            · apply bind_congr_of_ok
              rintro ⟨escaped, after⟩ atEscape
              have shorter := (Skips.of_readEscape atEscape).length_le
              simp only [inFuel (Nat.le_trans shorter enough)]
            · split
              · rfl
              · rw [inFuel enough]

theorem readString_succ {fuel : Nat} {text : List Char}
    (enough : text.length ≤ fuel) :
    readString (fuel + 1) text = readString fuel text := by
  rw [readString, readString, readChars_succ enough]

/-! ## Values -/

mutual

/-- One unit more does not change what is read as a value. -/
theorem readValue_succ :
    (fuel : Nat) → (text : List Char) → 2 * text.length ≤ fuel →
      readValue (fuel + 1) text = readValue fuel text
  | 0, text, enough => by
      have empty : text = [] := by
        apply List.length_eq_zero_iff.mp
        omega
      simp [empty, readValue, dropBlanks]
  | fuel + 1, text, enough => by
      have fits := (Passes.dropBlanks text).length_le
      rw [readValue, readValue]
      split
      case h_5 inside begins =>
        simp only [begins, List.length_cons] at fits
        rw [readString_succ (by omega)]
      case h_6 inside begins =>
        simp only [begins, List.length_cons] at fits
        have inner := (Passes.dropBlanks inside).length_le
        split
        · rfl
        · rfl
        · rw [readElements_succ fuel _ (by omega)]
      case h_7 inside begins =>
        simp only [begins, List.length_cons] at fits
        have inner := (Passes.dropBlanks inside).length_le
        split
        · rfl
        · rfl
        next key quote =>
          simp only [quote, List.length_cons] at inner
          rw [readMembers_succ fuel key (by omega)]
        · rfl
      all_goals rfl

/-- One unit more does not change what is read as elements. -/
theorem readElements_succ :
    (fuel : Nat) → (text : List Char) → 2 * text.length + 1 ≤ fuel →
      readElements (fuel + 1) text = readElements fuel text
  | fuel + 1, text, enough => by
      rw [readElements, readElements, readValue_succ fuel text (by omega)]
      apply bind_congr_of_ok
      rintro ⟨element, after⟩ atElement
      have shorter := (covers_readValue fuel atElement).length_le
      have fits := (Passes.dropBlanks after).length_le
      dsimp only
      split
      · rfl
      · rfl
      next next comma =>
        simp only [comma, List.length_cons] at fits
        have inner := (Passes.dropBlanks next).length_le
        split
        · rfl
        · rfl
        · rw [readElements_succ fuel _ (by omega)]
      · rfl

/-- One unit more does not change what is read as members. -/
theorem readMembers_succ :
    (fuel : Nat) → (text : List Char) → 2 * text.length + 1 ≤ fuel →
      readMembers (fuel + 1) text = readMembers fuel text
  | fuel + 1, text, enough => by
      rw [readMembers, readMembers, readString_succ (by omega)]
      apply bind_congr_of_ok
      rintro ⟨key, afterKey⟩ atKey
      have shorter := (Skips.of_readString atKey).length_le
      dsimp only
      apply bind_congr_of_ok
      rintro ⟨_, afterColon⟩ atColon
      have shorterColon := (Passes.of_readColon atColon).length_le
      dsimp only
      rw [readValue_succ fuel afterColon (by omega)]
      apply bind_congr_of_ok
      rintro ⟨value, after⟩ atValue
      have shorterValue := (covers_readValue fuel atValue).length_le
      have fits := (Passes.dropBlanks after).length_le
      dsimp only
      split
      · rfl
      · rfl
      next next comma =>
        simp only [comma, List.length_cons] at fits
        have inner := (Passes.dropBlanks next).length_le
        split
        · rfl
        · rfl
        next other quote =>
          simp only [quote, List.length_cons] at inner
          rw [readMembers_succ fuel other (by omega)]
        · rfl
      · rfl

end

/-- With two units for each character, any fuel gives the same. -/
theorem readValue_eq_of_le {fuel : Nat} {text : List Char}
    (enough : 2 * text.length ≤ fuel) :
    readValue fuel text = readValue (2 * text.length) text := by
  induction enough with
  | refl => rfl
  | step enough inFuel => rw [readValue_succ _ text enough, inFuel]

/-- What a text holds is read with any fuel that is enough. -/
theorem readAll_eq_of_le {fuel : Nat} {text : List Char}
    (enough : 2 * text.length ≤ fuel) :
    readAll text = (do
      let (value, rest) ← readValue fuel text
      match dropBlanks rest with
      | [] => .ok value
      | rest => .error (.before .trailingText rest)) := by
  have given : 2 * text.length ≤ 2 * text.length + 2 := Nat.le_add_right _ _
  have same : readValue (2 * text.length + 2) text = readValue fuel text := by
    rw [readValue_eq_of_le given, readValue_eq_of_le enough]
  exact congrArg (fun reading => reading >>= _) same

end Json

end LojbanTree
