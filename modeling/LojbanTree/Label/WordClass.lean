/-!
# Word class names

Grammatical words are sorted into classes, and a class is named after one of
its members: `UI`, `KOhA`, `BAhE`.  Such a name is an optional initial letter
followed by nuclei joined with `h`.  A nucleus is one vowel letter or one of
four diphthongs.

`isWordClass` decides the form in one pass.  A vowel letter that is followed
by another vowel can only begin a diphthong, and an initial `I` or `U` is
tried both as a vowel and as an initial letter, so no reading is missed.
-/

namespace LojbanTree

namespace Label

/-- The letters that may stand before the first nucleus. -/
def initials : List Char := "IUBCDFGJKLMNPRSTVXZ".toList

/-- The letters that are a nucleus by themselves. -/
def vowels : List Char := "AEIOUY".toList

/-- The pairs of letters that form one nucleus. -/
def diphthongs : List (Char × Char) :=
  [('A', 'I'), ('E', 'I'), ('O', 'I'), ('A', 'U')]

/-- Whether a text is a nucleus followed by any number of `h` and a nucleus. -/
def isNuclei : List Char → Bool
  | [] => false
  | [vowel] => vowels.contains vowel
  | vowel :: 'h' :: rest => vowels.contains vowel && isNuclei rest
  | [first, second] => diphthongs.contains (first, second)
  | first :: second :: 'h' :: rest =>
      diphthongs.contains (first, second) && isNuclei rest
  | _ => false

/-- Whether a name is the name of a word class. -/
def isWordClass (name : String) : Bool :=
  match name.toList with
  | [] => false
  | first :: rest =>
      isNuclei (first :: rest) || (initials.contains first && isNuclei rest)

end Label

end LojbanTree
