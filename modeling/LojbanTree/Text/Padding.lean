/-!
# Blanks and columns

The characters that separate words without being seen, in every script, and
the two of them that formal notations allow between the parts of a line.

A short text is brought to the width of a column with spaces; a text of that
width or more stays as it is.
-/

namespace LojbanTree

namespace Text

/-! ## Blank characters -/

/-- The first and last code point of each range of blanks. -/
def blankRanges : List (Nat × Nat) :=
  [ (0x09, 0x0d), (0x20, 0x20), (0x85, 0x85), (0xa0, 0xa0), (0x1680, 0x1680),
    (0x2000, 0x200a), (0x2028, 0x2029), (0x202f, 0x202f), (0x205f, 0x205f),
    (0x3000, 0x3000) ]

/-- Whether a character is blank. -/
def isBlank (char : Char) : Bool :=
  blankRanges.any fun (first, last) => first ≤ char.toNat && char.toNat ≤ last

/-- Whether a text holds nothing but blanks. -/
def isBlankText (text : String) : Bool := text.toList.all isBlank

/-- Whether a character is a space or a tab. -/
def isSpacing (char : Char) : Bool := char == ' ' || char == '\t'

/-! ## Columns -/

/-- A number of spaces. -/
def blanks (count : Nat) : String := String.ofList (List.replicate count ' ')

/-- A text at the left of a column. -/
def alignLeft (width : Nat) (text : String) : String :=
  text ++ blanks (width - text.length)

/-- A text at the right of a column. -/
def alignRight (width : Nat) (text : String) : String :=
  blanks (width - text.length) ++ text

/-- A text in the middle of a column; an odd space goes to its right. -/
def center (width : Nat) (text : String) : String :=
  let missing := width - text.length
  blanks (missing / 2) ++ text ++ blanks (missing - missing / 2)

@[simp]
theorem length_blanks (count : Nat) : (blanks count).length = count := by
  simp [blanks]

/-- A text at the left of a column fills it, or is as long as before. -/
theorem length_alignLeft (width : Nat) (text : String) :
    (alignLeft width text).length = max width text.length := by
  rw [alignLeft, String.length_append, length_blanks]
  omega

/-- A text at the right of a column fills it, or is as long as before. -/
theorem length_alignRight (width : Nat) (text : String) :
    (alignRight width text).length = max width text.length := by
  rw [alignRight, String.length_append, length_blanks]
  omega

/-- A text in the middle of a column fills it, or is as long as before. -/
theorem length_center (width : Nat) (text : String) :
    (center width text).length = max width text.length := by
  rw [center, String.length_append, String.length_append, length_blanks,
    length_blanks]
  omega

/--
A text in the middle of a column is as far from the left end as from the right one,
or one place nearer.
-/
theorem exists_center_eq (width : Nat) (text : String) :
    ∃ left right, center width text = blanks left ++ text ++ blanks right ∧
      left ≤ right ∧ right ≤ left + 1 := by
  refine ⟨(width - text.length) / 2, _, rfl, ?_, ?_⟩
  · omega
  · omega

end Text

end LojbanTree
