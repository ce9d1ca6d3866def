import LojbanTree.Label.WordClass

/-!
# How the names of word classes are spelled

The grammar of these names has three parts: an initial letter that may be
missing, a nucleus, and further nuclei with `h` before each.  A `Label.Spelling`
is one way to cut a name into these parts.  `Label.isWordClass_iff_spelling`
says that `Label.isWordClass`, which reads a name once from left to right,
accepts exactly the names that can be cut so, although `I` and `U` are initial
letters as well as vowels and every diphthong begins with a vowel.
-/

namespace LojbanTree

namespace Label

/-! ## The grammar -/

/-- The letters with which a name may begin before its first nucleus. -/
def initialLetters : List Char :=
  ['I', 'U', 'B', 'C', 'D', 'F', 'G', 'J', 'K', 'L', 'M', 'N', 'P', 'R', 'S', 'T',
    'V', 'X', 'Z']

/-- The nuclei: six vowels and four diphthongs. -/
def nuclei : List (List Char) :=
  [['A'], ['E'], ['I'], ['O'], ['U'], ['Y'],
    ['A', 'I'], ['E', 'I'], ['O', 'I'], ['A', 'U']]

/-- The letters of all names. -/
def alphabet : List Char := initialLetters ++ ['A', 'E', 'O', 'Y', 'h']

/-- Nuclei with `h` between two of them. -/
def joined (first : List Char) (others : List (List Char)) : List Char :=
  first ++ others.flatMap ('h' :: ·)

/-- A name cut into an initial letter, if it has one, and its nuclei. -/
structure Spelling where
  initial? : Option Char
  first : List Char
  others : List (List Char)
  initial_mem : ∀ letter ∈ initial?, letter ∈ initialLetters
  first_mem : first ∈ nuclei
  others_mem : ∀ other ∈ others, other ∈ nuclei

/-- The name that is spelled. -/
def Spelling.letters (spelling : Spelling) : List Char :=
  spelling.initial?.toList ++ joined spelling.first spelling.others

/-! ## Nuclei -/

theorem contains_initials_iff (letter : Char) :
    initials.contains letter = true ↔ letter ∈ initialLetters := by
  have same : initials = initialLetters := by decide
  rw [same, List.contains_iff_mem]

theorem contains_vowels_iff (vowel : Char) :
    vowels.contains vowel = true ↔ [vowel] ∈ nuclei := by
  have same : vowels = ['A', 'E', 'I', 'O', 'U', 'Y'] := by decide
  simp [same, nuclei]

theorem contains_diphthongs_iff (first second : Char) :
    diphthongs.contains (first, second) = true ↔ [first, second] ∈ nuclei := by
  simp [diphthongs, nuclei]

theorem isNuclei_of_mem {nucleus : List Char} (isNucleus : nucleus ∈ nuclei) :
    isNuclei nucleus = true := by
  have each : ∀ nucleus ∈ nuclei, isNuclei nucleus = true := by decide
  exact each nucleus isNucleus

/-- A nucleus before an `h` is read in one way only. -/
theorem isNuclei_append {nucleus : List Char} (isNucleus : nucleus ∈ nuclei)
    (rest : List Char) : isNuclei (nucleus ++ 'h' :: rest) = isNuclei rest := by
  simp only [nuclei, List.mem_cons, List.not_mem_nil, or_false] at isNucleus
  rcases isNucleus with rfl | rfl | rfl | rfl | rfl | rfl | rfl | rfl | rfl | rfl
  all_goals rfl

theorem isNuclei_joined {first : List Char} {others : List (List Char)}
    (atFirst : first ∈ nuclei) (atOthers : ∀ other ∈ others, other ∈ nuclei) :
    isNuclei (joined first others) = true := by
  induction others generalizing first with
  | nil => simpa [joined] using isNuclei_of_mem atFirst
  | cons next rest inRest =>
      rcases List.forall_mem_cons.mp atOthers with ⟨atNext, atRest⟩
      have onward := inRest atNext atRest
      rw [joined, List.flatMap_cons, List.cons_append, isNuclei_append atFirst]
      exact onward

/-- Whether a word consists of nuclei with `h` between two of them. -/
def IsJoined (word : List Char) : Prop :=
  ∃ first ∈ nuclei, ∃ others : List (List Char),
    (∀ other ∈ others, other ∈ nuclei) ∧ joined first others = word

theorem isJoined_of_mem {nucleus : List Char} (isNucleus : nucleus ∈ nuclei) :
    IsJoined nucleus :=
  ⟨nucleus, isNucleus, [], by simp, by simp [joined]⟩

theorem IsJoined.append {nucleus rest : List Char} (atRest : IsJoined rest)
    (isNucleus : nucleus ∈ nuclei) : IsJoined (nucleus ++ 'h' :: rest) := by
  rcases atRest with ⟨next, isNext, others, areNuclei, rfl⟩
  refine ⟨nucleus, isNucleus, next :: others, ?_, ?_⟩
  · exact List.forall_mem_cons.mpr ⟨isNext, areNuclei⟩
  · simp [joined]

/--
The one pass finds the nuclei, because it looks two letters ahead for an `h`.
-/
theorem isJoined_of_isNuclei {word : List Char} (read : isNuclei word = true) :
    IsJoined word := by
  fun_induction isNuclei word with
  | case1 => simp at read
  | case2 vowel => exact isJoined_of_mem ((contains_vowels_iff vowel).mp read)
  | case3 vowel rest inRest =>
      rcases (Bool.and_eq_true _ _).mp read with ⟨atVowel, atRest⟩
      exact (inRest atRest).append ((contains_vowels_iff vowel).mp atVowel)
  | case4 first second =>
      exact isJoined_of_mem ((contains_diphthongs_iff first second).mp read)
  | case5 first second rest _ inRest =>
      rcases (Bool.and_eq_true _ _).mp read with ⟨atPair, atRest⟩
      exact (inRest atRest).append
        ((contains_diphthongs_iff first second).mp atPair)
  | case6 => simp at read

/-- What is accepted behind an initial is one nucleus, or several joined by `h`. -/
theorem isNuclei_iff (word : List Char) :
    isNuclei word = true ↔ IsJoined word := by
  constructor
  · exact isJoined_of_isNuclei
  · rintro ⟨first, atFirst, others, atOthers, rfl⟩
    exact isNuclei_joined atFirst atOthers

/-! ## Names -/

/-- A name is that of a word class with an initial in front, or without one. -/
theorem isWordClass_iff (name : String) :
    isWordClass name = true ↔
      IsJoined name.toList ∨
        ∃ initial ∈ initialLetters, ∃ rest,
          IsJoined rest ∧ name.toList = initial :: rest := by
  unfold isWordClass
  cases name.toList with
  | nil => simp [← isNuclei_iff, isNuclei]
  | cons first rest =>
      simp only [Bool.or_eq_true, Bool.and_eq_true, isNuclei_iff,
        contains_initials_iff]
      constructor
      · rintro (whole | ⟨begins, atRest⟩)
        · exact .inl whole
        · exact .inr ⟨first, begins, rest, atRest, rfl⟩
      · rintro (whole | ⟨initial, begins, tail, atTail, same⟩)
        · exact .inl whole
        · rcases List.cons.inj same with ⟨rfl, rfl⟩
          exact .inr ⟨begins, atTail⟩

theorem exists_spelling_iff (word : List Char) :
    (∃ spelling : Spelling, spelling.letters = word) ↔
      IsJoined word ∨
        ∃ initial ∈ initialLetters, ∃ rest, IsJoined rest ∧
          word = initial :: rest := by
  constructor
  · rintro ⟨⟨initial?, first, others, atInitial, atFirst, atOthers⟩, rfl⟩
    have nucleic : IsJoined (joined first others) :=
      ⟨first, atFirst, others, atOthers, rfl⟩
    cases initial? with
    | none => exact .inl nucleic
    | some initial => exact .inr ⟨initial, atInitial initial rfl, _, nucleic, rfl⟩
  · rintro (⟨first, atFirst, others, atOthers, rfl⟩ |
      ⟨initial, begins, rest, ⟨first, atFirst, others, atOthers, rfl⟩, rfl⟩)
    · exact ⟨⟨none, first, others, by simp, atFirst, atOthers⟩, rfl⟩
    · exact ⟨⟨some initial, first, others, by simpa using begins, atFirst,
        atOthers⟩, rfl⟩

/-- A name has no other letters than those of the grammar. -/
theorem Spelling.mem_alphabet (spelling : Spelling) :
    ∀ letter ∈ spelling.letters, letter ∈ alphabet := by
  have inNucleus : ∀ nucleus ∈ nuclei, ∀ letter ∈ nucleus, letter ∈ alphabet := by
    simp [nuclei, alphabet, initialLetters]
  intro letter member
  rcases List.mem_append.mp member with atStart | inside
  · have begins := spelling.initial_mem letter (Option.mem_toList.mp atStart)
    exact List.mem_append_left _ begins
  rcases List.mem_append.mp inside with inFirst | inOthers
  · exact inNucleus spelling.first spelling.first_mem letter inFirst
  · rcases List.mem_flatMap.mp inOthers with ⟨other, isOther, inOther⟩
    rcases List.mem_cons.mp inOther with rfl | inner
    · decide
    · exact inNucleus other (spelling.others_mem other isOther) letter inner

/--
A name is that of a word class if and only if it can be spelled so.  The empty
text, a text with a line break at its end, and a text with any letter outside the
alphabet are no such names.
-/
theorem isWordClass_iff_spelling :
    (∀ name, isWordClass name = true ↔
        ∃ spelling : Spelling, spelling.letters = name.toList) ∧
      isWordClass "" = false ∧
      (∀ name, isWordClass (name ++ "\n") = false) ∧
      ∀ name, ∀ letter ∈ name.toList, letter ∉ alphabet →
        isWordClass name = false := by
  have spelled (name : String) : isWordClass name = true ↔
      ∃ spelling : Spelling, spelling.letters = name.toList := by
    rw [isWordClass_iff, exists_spelling_iff]
  have foreign (name : String) (letter : Char) (member : letter ∈ name.toList)
      (outside : letter ∉ alphabet) : isWordClass name = false := by
    rw [← Bool.not_eq_true, spelled]
    rintro ⟨spelling, same⟩
    exact outside (spelling.mem_alphabet letter (same ▸ member))
  refine ⟨spelled, rfl, ?_, foreign⟩
  intro name
  apply foreign (name ++ "\n") '\n'
  · simp
  · decide

/-- An initial `I`, a diphthong and two more nuclei. -/
def ambiguousSpelling : Spelling where
  initial? := some 'I'
  first := ['A', 'U']
  others := [['O', 'I'], ['I']]
  initial_mem := by simp [initialLetters]
  first_mem := by decide
  others_mem := by decide

/--
A name with an initial vowel letter is accepted, and with a small one it is not.
-/
theorem isWordClass_iff_spelling_ambiguous :
    isWordClass "IAUhOIhI" = true ∧ 'i' ∈ "iAUhOIhI".toList ∧ 'i' ∉ alphabet ∧
      isWordClass "iAUhOIhI" = false := by
  rcases isWordClass_iff_spelling with ⟨spelled, _, _, foreign⟩
  have member : 'i' ∈ "iAUhOIhI".toList := by decide
  have outside : 'i' ∉ alphabet := by decide
  refine ⟨?_, member, outside, foreign _ 'i' member outside⟩
  exact (spelled "IAUhOIhI").mpr ⟨ambiguousSpelling, by decide⟩

end Label

end LojbanTree
