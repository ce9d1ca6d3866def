import LojbanTree.Json.Reader

/-!
# Text that is passed over

Everything in JSON text but strings, arrays and objects is written without
quotes, brackets and braces: blanks, words, numbers, commas and colons.
`Passes text rest` says that a text goes on as `rest` after such characters.

Each reader of such a part is shown to pass from the text that it is given to
the text that it leaves.
-/

namespace LojbanTree

namespace Json

/-- What two readings find in turn rests on what the first one finds. -/
theorem exists_of_bind {first second : Type} {reading : Reading first}
    {next : first → Reading second} {result : second}
    (found : reading >>= next = .ok result) :
    ∃ value, reading = .ok value ∧ next value = .ok result := by
  cases reading with
  | error stop => simp [bind, Except.bind] at found
  | ok value => exact ⟨value, rfl, found⟩

/-! ## Plain characters -/

/-- The characters that begin or end a string, an escape, an array or an object. -/
def marks : List Char := ['"', '\\', '[', ']', '\x7b', '\x7d']

/-- A character without a meaning for the nesting of a text. -/
def IsPlain (char : Char) : Prop := char ∉ marks

instance (char : Char) : Decidable (IsPlain char) :=
  inferInstanceAs (Decidable (char ∉ marks))

/-- A test that fails for each of the marks holds for plain characters only. -/
theorem isPlain_of_test (test : Char → Bool)
    (apart : marks.all (fun mark => !test mark) = true) {char : Char}
    (holds : test char = true) : IsPlain char := by
  intro mark
  have fails := List.all_eq_true.mp apart char mark
  simp [holds] at fails

theorem isPlain_of_isBlank {char : Char} (blank : isBlank char = true) :
    IsPlain char :=
  isPlain_of_test isBlank (by decide) blank

theorem isPlain_of_isDigit {char : Char} (digit : char.isDigit = true) :
    IsPlain char :=
  isPlain_of_test Char.isDigit (by decide) digit

theorem isPlain_of_hexValue? {char : Char} {value : Nat}
    (digit : Text.hexValue? char = some value) : IsPlain char := by
  have isSome : (Text.hexValue? char).isSome = true := by simp [digit]
  exact isPlain_of_test (fun char => (Text.hexValue? char).isSome)
    (by decide) isSome

/-! ## Passing over plain characters -/

/-- Whether a text goes on as another one after plain characters. -/
inductive Passes : List Char → List Char → Prop where
  | refl (text : List Char) : Passes text text
  | cons {char : Char} {text rest : List Char} (plain : IsPlain char)
      (later : Passes text rest) : Passes (char :: text) rest

namespace Passes

theorem trans {text between rest : List Char} (first : Passes text between)
    (second : Passes between rest) : Passes text rest := by
  induction first with
  | refl text => exact second
  | cons plain later inLater => exact .cons plain (inLater second)

theorem dropWhile {test : Char → Bool}
    (plain : ∀ char, test char = true → IsPlain char) (text : List Char) :
    Passes text (text.dropWhile test) := by
  induction text with
  | nil => exact .refl []
  | cons char rest inRest =>
      rw [List.dropWhile_cons]
      split
      case isTrue holds => exact .cons (plain char holds) inRest
      case isFalse fails => exact .refl (char :: rest)

theorem dropBlanks (text : List Char) : Passes text (dropBlanks text) :=
  dropWhile (fun _ => isPlain_of_isBlank) text

theorem dropDigits (text : List Char) :
    Passes text (text.dropWhile Char.isDigit) :=
  dropWhile (fun _ => isPlain_of_isDigit) text

theorem of_ok {found : Type} {value value' : found} {text rest : List Char}
    (read : (.ok (value, text) : Reading (found × List Char)) =
      .ok (value', rest)) :
    Passes text rest := by
  simp only [Except.ok.injEq, Prod.mk.injEq] at read
  exact read.2 ▸ .refl text

/-! ## Words -/

theorem of_readWord {value found : Json} {letters text rest : List Char}
    (plain : ∀ letter ∈ letters, IsPlain letter)
    (read : readWord value letters text = .ok (found, rest)) :
    found = value ∧ Passes text rest := by
  induction letters generalizing text with
  | nil =>
      simp only [readWord, Except.ok.injEq, Prod.mk.injEq] at read
      obtain ⟨rfl, rfl⟩ := read
      exact ⟨rfl, .refl text⟩
  | cons letter letters inLetters =>
      obtain ⟨atLetter, atLetters⟩ := List.forall_mem_cons.mp plain
      cases text with
      | nil => simp [readWord] at read
      | cons char text =>
          rw [readWord] at read
          split at read
          case isTrue same =>
            obtain ⟨isValue, later⟩ := inLetters atLetters read
            exact ⟨isValue, .cons (same ▸ atLetter) later⟩
          case isFalse => simp at read

theorem of_readColon {text rest : List Char}
    (read : readColon text = .ok ((), rest)) :
    Passes text rest := by
  have blanks := dropBlanks text
  unfold readColon at read
  split at read
  · simp at read
  next after colon =>
    rw [colon] at blanks
    exact blanks.trans (.cons (by decide) (of_ok read))
  · simp at read

/-! ## Digits -/

theorem of_readUnit {text rest : List Char} {unit : Nat}
    (read : readUnit text = .ok (unit, rest)) : Passes text rest := by
  unfold readUnit at read
  split at read
  · simp at read
  · split at read
    · split at read
      next atFirst atSecond atThird atFourth =>
        exact .cons (isPlain_of_hexValue? atFirst) <|
          .cons (isPlain_of_hexValue? atSecond) <|
          .cons (isPlain_of_hexValue? atThird) <|
          .cons (isPlain_of_hexValue? atFourth) (of_ok read)
      next => simp at read
    · simp at read

/-! ## Numbers -/

theorem of_readWhole {text digits rest : List Char}
    (read : Number.readWhole text = .ok (digits, rest)) : Passes text rest := by
  unfold Number.readWhole at read
  split at read
  · simp at read
  · have zero : IsPlain '0' := by decide
    split at read
    · split at read
      · simp at read
      · exact .cons zero (of_ok read)
    · exact .cons zero (of_ok read)
  · split at read
    case isTrue digit =>
      exact .cons (isPlain_of_isDigit digit) ((dropDigits _).trans (of_ok read))
    case isFalse => simp at read

theorem of_readFraction {text rest : List Char} {digits? : Option (List Char)}
    (read : Number.readFraction text = .ok (digits?, rest)) :
    Passes text rest := by
  unfold Number.readFraction at read
  split at read
  · split at read
    · split at read <;> simp at read
    · exact .cons (by decide) ((dropDigits _).trans (of_ok read))
  · exact of_ok read

theorem of_readSize {size : Nat} {text rest : List Char} {size? : Option Nat}
    (read : Number.readSize size text = (size?, rest)) : Passes text rest := by
  induction text generalizing size with
  | nil =>
      cases read
      exact .refl []
  | cons char text inText =>
      unfold Number.readSize at read
      split at read
      case isTrue digit =>
        dsimp only at read
        split at read
        · cases read
          exact .cons (isPlain_of_isDigit digit) (.refl _)
        · exact .cons (isPlain_of_isDigit digit) (inText read)
      case isFalse =>
        cases read
        exact .refl _

theorem of_readPower {text rest : List Char} {power? : Option Number.Power}
    (read : Number.readPower text = .ok (power?, rest)) : Passes text rest := by
  unfold Number.readPower at read
  split at read
  next letter tail =>
    split at read
    case isTrue mark =>
      have isPlain : IsPlain letter := by
        rcases mark with rfl | rfl <;> decide
      split at read
      next negative digits sign =>
        have atSign : Passes tail digits := by
          split at sign <;> cases sign
          · exact .cons (by decide) (.refl _)
          · exact .cons (by decide) (.refl _)
          · exact .refl _
        split at read
        · simp at read
        · split at read
          case isTrue =>
            split at read
            next size? after atSize =>
              have atDigits := (of_readSize atSize).trans (of_ok read)
              exact .cons isPlain (atSign.trans atDigits)
          case isFalse => simp at read
    case isFalse => exact of_ok read
  next => exact of_ok read

theorem of_nearest {negative : Bool} {digits : Nat} {power : Int}
    {text rest : List Char} {number : Number}
    (read : Number.nearest negative digits power text = .ok (number, rest)) :
    Passes text rest := by
  unfold Number.nearest at read
  split at read
  · exact of_ok read
  · simp at read

theorem of_ofWhole {negative : Bool} {value : Nat} {text rest : List Char}
    {number : Number}
    (read : Number.ofWhole negative value text = .ok (number, rest)) :
    Passes text rest := by
  unfold Number.ofWhole at read
  split at read
  · exact of_ok read
  · split at read
    · exact of_ok read
    · exact of_nearest read

theorem of_ofParts {negative : Bool} {whole fraction : List Char}
    {power? : Option Number.Power} {text rest : List Char} {number : Number}
    (read : Number.ofParts negative whole fraction power? text =
      .ok (number, rest)) :
    Passes text rest := by
  unfold Number.ofParts at read
  dsimp only at read
  split at read
  · exact of_nearest read
  · exact of_nearest read
  · split at read
    · simp at read
    · exact (dropDigits _).trans (of_ok read)

/-- A number is read from plain characters, which change nothing in the nesting. -/
theorem of_readNumber {text rest : List Char} {number : Number}
    (read : Number.read text = .ok (number, rest)) : Passes text rest := by
  unfold Number.read at read
  split at read
  next negative unsigned sign =>
    have atSign : Passes text unsigned := by
      split at sign <;> cases sign
      · exact .cons (by decide) (.refl _)
      · exact .refl _
    obtain ⟨⟨whole, afterWhole⟩, atWhole, read⟩ := exists_of_bind read
    obtain ⟨⟨fraction?, afterFraction⟩, atFraction, read⟩ := exists_of_bind read
    obtain ⟨⟨power?, afterPower⟩, atPower, read⟩ := exists_of_bind read
    have atParts : Passes afterPower rest := by
      dsimp only at read
      split at read
      · exact of_ofWhole read
      · exact of_ofParts read
    exact atSign.trans <| (of_readWhole atWhole).trans <|
      (of_readFraction atFraction).trans <| (of_readPower atPower).trans atParts

end Passes

end Json

end LojbanTree
