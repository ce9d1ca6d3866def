import LojbanTree.Proofs.Processor.Choices
import LojbanTree.Proofs.Tree.RoundTrip

/-!
# Written trees have no control characters

The compact array form writes every character below U+0020 by an escape, and
none of the passes that make the reading form of it brings one in.  So whatever
a processor writes is a single line without control characters, whatever
characters the words and labels of the tree have.
-/

namespace LojbanTree

namespace Text

/-- Whether no character lies below U+0020. -/
def IsPrintable (chars : List Char) : Prop := ∀ char ∈ chars, 0x20 ≤ char.toNat

/-- The members are gone through, and not all characters that there are. -/
instance (chars : List Char) : Decidable (IsPrintable chars) :=
  List.decidableBAll (fun char : Char => 0x20 ≤ char.toNat) chars

namespace IsPrintable

@[simp]
theorem nil : IsPrintable [] := by
  simp [IsPrintable]

@[simp]
theorem cons_iff (char : Char) (rest : List Char) :
    IsPrintable (char :: rest) ↔ 0x20 ≤ char.toNat ∧ IsPrintable rest :=
  List.forall_mem_cons

@[simp]
theorem append_iff (left right : List Char) :
    IsPrintable (left ++ right) ↔ IsPrintable left ∧ IsPrintable right :=
  List.forall_mem_append

theorem flatMap {found : Type} {parts : List found} {write : found → List Char}
    (each : ∀ part ∈ parts, IsPrintable (write part)) :
    IsPrintable (parts.flatMap write) := by
  intro char member
  obtain ⟨part, isPart, written⟩ := List.mem_flatMap.mp member
  exact each part isPart char written

theorem not_mem {chars : List Char} (printable : IsPrintable chars)
    {control : Char}
    (low : control.toNat < 0x20) : control ∉ chars := by
  intro member
  exact absurd (printable control member) (Nat.not_le.mpr low)

end IsPrintable

theorem isPrintable_hexDigit {value : Nat} (small : value < 16) :
    0x20 ≤ (hexDigit value).toNat := by
  have all : ∀ digit : Fin 16, 0x20 ≤ (hexDigit digit).toNat := by decide
  exact all ⟨value, small⟩

/-- Decimal digits lie between U+0030 and U+0039. -/
theorem isPrintable_toDigits (value : Nat) :
    IsPrintable (Nat.toDigits 10 value) := by
  intro digit member
  have decimal : digit.isDigit = true :=
    Nat.isDigit_of_mem_toDigits (by decide) (by decide) member
  have bounds : 48 ≤ digit.toNat ∧ digit.toNat ≤ 57 := by
    simp only [Char.isDigit, Bool.and_eq_true, decide_eq_true_eq] at decimal
    exact decimal
  omega

theorem isPrintable_toString (number : Nat) :
    IsPrintable (toString number).toList := by
  rw [Nat.toString_eq_ofList_toDigits, String.toList_ofList]
  exact isPrintable_toDigits number

theorem isPrintable_append {left right : String} (first : IsPrintable left.toList)
    (second : IsPrintable right.toList) : IsPrintable (left ++ right).toList := by
  rw [String.toList_append]
  exact (IsPrintable.append_iff _ _).mpr ⟨first, second⟩

end Text

open Text

/-! ## The array form -/

namespace Json

/--
No character is written with control characters.  Seven have an escape of their
own, the others below U+0020 have a hexadecimal one, and the rest stay.
-/
theorem isPrintable_escape (char : Char) : IsPrintable (escape char) := by
  unfold escape
  iterate 7
    split
    case isTrue => decide
  split
  case isTrue control =>
    have high : 0x20 ≤ (hexDigit (char.toNat / 16)).toNat :=
      isPrintable_hexDigit (by omega)
    have low : 0x20 ≤ (hexDigit (char.toNat % 16)).toNat :=
      isPrintable_hexDigit (by omega)
    simp [high, low]
  case isFalse above => simpa using above

theorem isPrintable_quoted (text : String) : IsPrintable (quoted text) := by
  have inside : IsPrintable (text.toList.flatMap escape) :=
    .flatMap fun char _ => isPrintable_escape char
  simpa [quoted] using inside

mutual

theorem isPrintable_chars :
    (value : Json) → value.isTextual = true → IsPrintable value.chars
  | .string text, _ => by
      rw [chars]
      exact isPrintable_quoted text
  | .array elements, textual => by
      simpa [chars] using isPrintable_elementChars elements textual

theorem isPrintable_elementChars :
    (elements : List Json) → areTextual elements = true →
      IsPrintable (elementChars elements)
  | [], _ => by simp [elementChars]
  | [element], textual => by
      rw [areTextual, Bool.and_eq_true] at textual
      rw [elementChars]
      exact isPrintable_chars element textual.1
  | element :: next :: rest, textual => by
      rw [areTextual, Bool.and_eq_true] at textual
      have first := isPrintable_chars element textual.1
      have others := isPrintable_elementChars (next :: rest) textual.2
      simp [elementChars_cons_cons, first, others]

end

end Json

theorem Tree.isPrintable_jsonText (tree : Tree) :
    IsPrintable tree.jsonText.toList := by
  simpa [jsonText, Json.compact]
    using Json.isPrintable_chars _ tree.isTextual_toJson

/-! ## The reading form -/

namespace Bracketed

theorem isPrintable_labelColons (progress : Progress) (text : List Char)
    (printable : IsPrintable text) : IsPrintable (labelColons progress text) := by
  fun_induction labelColons progress text with
  | case1 => exact .nil
  | case2 rest inRest =>
      simp only [IsPrintable.cons_iff] at printable ⊢
      exact ⟨by decide, by decide, by decide, inRest printable.2.2⟩
  | case3 progress char rest _ inRest =>
      simp only [IsPrintable.cons_iff] at printable ⊢
      exact ⟨printable.1, inRest printable.2⟩

theorem isPrintable_withoutQuotes {text : List Char}
    (printable : IsPrintable text) :
    IsPrintable (withoutQuotes text) := by
  intro char member
  exact printable char ((List.mem_filter.mp member).1)

theorem isPrintable_spaced {text : List Char} (printable : IsPrintable text) :
    IsPrintable (spaced text) := by
  intro char member
  obtain ⟨former, isFormer, rfl⟩ := List.mem_map.mp member
  split
  case isTrue => decide
  case isFalse => exact printable former isFormer

theorem isPrintable_flat (colons : Bool) {json : String}
    (printable : IsPrintable json.toList) :
    IsPrintable (flat colons json).toList := by
  have bare := isPrintable_withoutQuotes printable
  rw [flat, String.toList_ofList]
  apply isPrintable_spaced
  split
  case isTrue => exact isPrintable_labelColons .outside _ bare
  case isFalse => exact bare

end Bracketed

namespace Brackets

theorem isPrintable_raise {digit : Char} (printable : 0x20 ≤ digit.toNat) :
    0x20 ≤ (Superscript.raise digit).toNat := by
  have raised : IsPrintable Superscript.digits := by decide
  rw [Superscript.raise, List.getD_eq_getElem?_getD]
  cases found : Superscript.digits[digit.toNat - '0'.toNat]? with
  | none => exact printable
  | some raise => exact raised raise (List.mem_of_getElem? found)

theorem isPrintable_numeral (value : Nat) :
    IsPrintable (Superscript.numeral value) := by
  unfold Superscript.numeral
  split
  case isTrue => exact .nil
  case isFalse =>
    intro char member
    obtain ⟨digit, isDigit, rfl⟩ := List.mem_map.mp member
    exact isPrintable_raise (isPrintable_toDigits value digit isDigit)

theorem isPrintable_tag (level : Nat) : IsPrintable (tag level) := by
  unfold tag
  split
  case isTrue => exact isPrintable_numeral _
  case isFalse => exact .nil

theorem isPrintable_openShape (level : Nat) : 0x20 ≤ (openShape level).toNat := by
  unfold openShape
  split <;> decide

theorem isPrintable_closeShape (level : Nat) :
    0x20 ≤ (closeShape level).toNat := by
  unfold closeShape
  split <;> decide

theorem isPrintable_marks (depth : Nat) (text : List Char)
    (printable : IsPrintable text) :
    IsPrintable ((marks depth text).flatMap Mark.drawn) := by
  fun_induction marks depth text with
  | case1 => exact .nil
  | case2 depth rest inRest =>
      rw [IsPrintable.cons_iff] at printable
      simp [Mark.drawn, isPrintable_tag, isPrintable_openShape, inRest printable.2]
  | case3 rest inRest =>
      rw [IsPrintable.cons_iff] at printable
      simpa [Mark.drawn] using inRest printable.2
  | case4 rest level inRest =>
      rw [IsPrintable.cons_iff] at printable
      simp [Mark.drawn, isPrintable_tag, isPrintable_closeShape,
        inRest printable.2]
  | case5 depth char rest _ _ inRest =>
      rw [IsPrintable.cons_iff] at printable
      simp [Mark.drawn, printable.1, inRest printable.2]

/-- Drawing brackets brings no control characters into a text. -/
theorem isPrintable_prettify {text : String}
    (printable : IsPrintable text.toList) :
    IsPrintable (prettify text).toList := by
  simpa [prettify] using isPrintable_marks 0 _ printable

end Brackets

/-! ## What a processor writes -/

/-- No known format writes a control character. -/
theorem Registry.isPrintable_of_write {name : String} {view : View} {tree : Tree}
    {output : String}
    (written : (standard.write name view tree).outcome = .ok output) :
    IsPrintable output.toList := by
  have formats : standard.formats = [.json, .text] := by rfl
  unfold write at written
  split at written
  case h_2 => simp at written
  case h_1 format found =>
    have member := List.mem_of_find?_eq_some found
    rw [formats, List.mem_cons, List.mem_singleton] at member
    rcases member with rfl | rfl
    · have array : tree.jsonText = output := Except.ok.inj written
      exact array ▸ tree.isPrintable_jsonText
    · have drawn :
          Bracketed.ofJsonText view.showWordClasses tree.jsonText = output :=
        Except.ok.inj written
      rw [← drawn]
      exact Brackets.isPrintable_prettify
        (Bracketed.isPrintable_flat _ tree.isPrintable_jsonText)

/-- No output of a processor has a control character, whatever its input. -/
theorem Processor.isPrintable_of_process {view : View} {limit : Nat}
    {processor : Processor}
    (configured : Configured view limit processor) {input : Input}
    {output : String} (written : (processor.process input).outcome = .ok output) :
    IsPrintable output.toList := by
  have sound := IsSound.of_configured configured
  rw [sound.process_eq, Run.outcome_andThen] at written
  split at written
  case h_1 => exact Registry.isPrintable_of_write written
  case h_2 => simp at written

end LojbanTree
