import LojbanTree.Json.Nesting
import LojbanTree.Json.Printer
import LojbanTree.Json.Reader

/-!
# Strings in JSON text

A printed string is read back as it was, whatever characters it has, and the
scan for nesting passes over it without a change.  Both follow from the three
ways in which a character is written, listed by `Json.Written`.
-/

namespace LojbanTree

namespace Text

theorem hexValue?_hexDigit {value : Nat} (small : value < 16) :
    hexValue? (hexDigit value) = some value := by
  have all : ∀ digit : Fin 16, hexValue? (hexDigit digit) = some digit.val := by
    decide
  exact all ⟨value, small⟩

theorem utf8Size_hexDigit {value : Nat} (small : value < 16) :
    (hexDigit value).utf8Size = 1 := by
  have all : ∀ digit : Fin 16, (hexDigit digit).utf8Size = 1 := by decide
  exact all ⟨value, small⟩

/-- A digit does not end a string and does not begin an escape. -/
theorem hexDigit_ne {value : Nat} (small : value < 16) :
    hexDigit value ≠ '"' ∧ hexDigit value ≠ '\\' := by
  have all : ∀ digit : Fin 16,
      hexDigit digit ≠ '"' ∧ hexDigit digit ≠ '\\' := by decide
  exact all ⟨value, small⟩

end Text

namespace Json

/-! ## How a character is written -/

/-- The ways in which a character is written inside a string. -/
inductive Written (char : Char) : List Char → Prop where
  | plain (noQuote : char ≠ '"') (noBackslash : char ≠ '\\')
      (printable : ¬ char.toNat < 0x20) : Written char [char]
  | letter (mark : Char)
      (meant : ∀ rest, readEscape (mark :: rest) = .ok (char, rest)) :
      Written char ['\\', mark]
  | code (control : char.toNat < 0x20) :
      Written char
        ['\\', 'u', '0', '0', Text.hexDigit (char.toNat / 16),
          Text.hexDigit (char.toNat % 16)]

/-- An escaped character is read back as the character. -/
theorem written_escape (char : Char) : Written char (escape char) := by
  unfold escape
  split
  case isTrue quote => exact quote ▸ .letter '"' fun _ => rfl
  case isFalse noQuote =>
  split
  case isTrue backslash => exact backslash ▸ .letter '\\' fun _ => rfl
  case isFalse noBackslash =>
  split
  case isTrue backspace => exact backspace ▸ .letter 'b' fun _ => rfl
  split
  case isTrue tabulator => exact tabulator ▸ .letter 't' fun _ => rfl
  split
  case isTrue lineBreak => exact lineBreak ▸ .letter 'n' fun _ => rfl
  split
  case isTrue formFeed => exact formFeed ▸ .letter 'f' fun _ => rfl
  split
  case isTrue carriage => exact carriage ▸ .letter 'r' fun _ => rfl
  split
  case isTrue control => exact .code control
  case isFalse printable => exact .plain noQuote noBackslash printable

/-- Four digits are read as the code of a control character. -/
theorem readEscape_code {char : Char} (control : char.toNat < 0x20)
    (rest : List Char) :
    readEscape ('u' :: '0' :: '0' :: Text.hexDigit (char.toNat / 16) ::
      Text.hexDigit (char.toNat % 16) :: rest) = .ok (char, rest) := by
  have high : char.toNat / 16 < 16 := by omega
  have low : char.toNat % 16 < 16 := by omega
  have zero : Text.hexValue? '0' = some 0 := by decide
  have value : char.toNat / 16 * 16 + char.toNat % 16 = char.toNat := by omega
  have noTrailing : isTrailing char.toNat = false := by
    simp [isTrailing]
    omega
  have noLeading : isLeading char.toNat = false := by
    simp [isLeading]
    omega
  have unit :
      readUnit ('0' :: '0' :: Text.hexDigit (char.toNat / 16) ::
        Text.hexDigit (char.toNat % 16) :: rest) = .ok (char.toNat, rest) := by
    simp [readUnit, byteCount, Text.utf8Size_hexDigit, high, low, zero,
      Text.hexValue?_hexDigit, value, show '0'.utf8Size = 1 by decide]
  simp [readEscape, readHexEscape, unit, noTrailing, noLeading, bind, Except.bind]

/-! ## Strings -/

/-- A written character is read in one go. -/
theorem readChars_escape (char : Char) (fuel : Nat) (rest : List Char) :
    readChars (fuel + 1) (escape char ++ rest) =
      (readChars fuel rest).map fun (chars, rest) => (char :: chars, rest) := by
  have written := written_escape char
  generalize escape char = text at written
  cases written with
  | plain noQuote noBackslash printable =>
      simp only [List.singleton_append, readChars, noQuote, noBackslash, printable,
        if_false, bind, Except.bind]
      cases readChars fuel rest <;> simp [Except.map]
  | letter mark meant =>
      simp only [List.cons_append, List.nil_append, readChars, meant, bind,
        Except.bind, if_true]
      cases readChars fuel rest <;> simp [Except.map]
  | code control =>
      simp only [List.cons_append, List.nil_append, readChars,
        readEscape_code control, bind, Except.bind]
      cases readChars fuel rest <;> simp [Except.map]

/-- Characters are read back up to the closing quote. -/
theorem readChars_escaped (chars : List Char) (fuel : Nat) (rest : List Char)
    (enough : chars.length < fuel) :
    readChars fuel (chars.flatMap escape ++ '"' :: rest) = .ok (chars, rest) := by
  induction chars generalizing fuel with
  | nil =>
      cases fuel with
      | zero => simp at enough
      | succ fuel => simp [readChars]
  | cons char chars inRest =>
      cases fuel with
      | zero => simp at enough
      | succ fuel =>
          have fewer : chars.length < fuel := by simpa using enough
          rw [List.flatMap_cons, List.append_assoc, readChars_escape,
            inRest fuel fewer]
          rfl

/-- A string is read back from the rest of its text, after the quote. -/
theorem readString_escaped (text : String) (fuel : Nat) (rest : List Char)
    (enough : text.toList.length < fuel) :
    readString fuel (text.toList.flatMap escape ++ '"' :: rest) =
      .ok (text, rest) := by
  simp [readString, readChars_escaped _ _ _ enough, bind, Except.bind]

theorem length_le_length_escaped (chars : List Char) :
    chars.length ≤ (chars.flatMap escape).length := by
  induction chars with
  | nil => simp
  | cons char chars inRest =>
      have written := written_escape char
      have atLeastOne : 1 ≤ (escape char).length := by
        generalize escape char = text at written
        cases written <;> simp
      simp only [List.flatMap_cons, List.length_append, List.length_cons]
      omega

/-- The scan for nesting stays inside a string over a written character. -/
theorem peakFrom_escape (peak depth : Nat) (char : Char) (rest : List Char) :
    peakFrom peak depth .inside (escape char ++ rest) =
      peakFrom peak depth .inside rest := by
  have written := written_escape char
  generalize escape char = text at written
  cases written with
  | plain noQuote noBackslash printable =>
      simp [peakFrom, noQuote, noBackslash]
  | letter mark meant => simp [peakFrom]
  | code control =>
      have high : char.toNat / 16 < 16 := by omega
      have low : char.toNat % 16 < 16 := by omega
      simp [peakFrom, Text.hexDigit_ne high, Text.hexDigit_ne low]

/-- The scan for nesting passes over a string. -/
theorem peakFrom_quoted (peak depth : Nat) (text : String) (rest : List Char) :
    peakFrom peak depth .outside (quoted text ++ rest) =
      peakFrom peak depth .outside rest := by
  have inside (chars : List Char) :
      peakFrom peak depth .inside (chars.flatMap escape ++ '"' :: rest) =
        peakFrom peak depth .outside rest := by
    induction chars with
    | nil => simp [peakFrom]
    | cons char chars inRest =>
        rw [List.flatMap_cons, List.append_assoc, peakFrom_escape, inRest]
  simp [quoted, peakFrom, inside]

end Json

end LojbanTree
