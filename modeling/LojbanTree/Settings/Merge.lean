import LojbanTree.Settings.Setting
import LojbanTree.Text.Padding

/-!
# Merging settings

A later setting replaces an earlier one, but a table is merged into a table
entry by entry, so that it leaves alone what it does not mention.  Names are
taken in lower case.

A place is a name, and below it further names or positions in a list:
`postprocess.mode`, `words[2].text`.  Writing to a place makes the tables and
lists on the way to it.
-/

namespace LojbanTree

namespace Setting

/-- Put an entry among entries; an entry of the same name gives way. -/
def putEntry (name : String) (setting : Setting) :
    List (String × Setting) → List (String × Setting)
  | [] => [(name, setting)]
  | (other, found) :: rest =>
      if name = other then (name, setting) :: rest
      else (other, found) :: putEntry name setting rest

/-- Put an item at a position of a list, which is made long enough. -/
def putItem (position : Nat) (setting : Setting) (items : List Setting) :
    List Setting :=
  let missing := List.replicate (position + 1 - items.length) Setting.absent
  (items ++ missing).set position setting

mutual

/-- Write a setting under a name of a table. -/
def assign (name : String) (setting : Setting) (target : Setting) : Setting :=
  let key := name.toLower
  match setting with
  | .table incoming =>
      let found := (target.entries.lookup key).getD (.table [])
      .table (putEntry key (assignAll incoming found) target.entries)
  | plain => .table (putEntry key plain target.entries)

/-- Write settings under their names of a table. -/
def assignAll (incoming : List (String × Setting)) (target : Setting) : Setting :=
  match incoming with
  | [] => target
  | (name, setting) :: rest => assignAll rest (assign name setting target)

end

/-- A step on the way to a place below a name. -/
inductive Step where
  | name (name : String)
  /-- A position in a list, counted from its end if it is negative. -/
  | position (position : Int)
  deriving DecidableEq, Repr

/-- The place of a setting. -/
structure Place where
  first : String
  rest : List Step
  deriving DecidableEq, Repr

/-- The position that is meant in a list of the given length. -/
def positionIn (length : Nat) (position : Int) : Nat :=
  if 0 ≤ position then position.toNat else length - position.natAbs

/-- Write a setting to the end of a way that begins with a name. -/
def write (name : String) (way : List Step) (setting : Setting)
    (target : Setting) :
    Setting :=
  match way with
  | [] => assign name setting target
  | .name next :: rest =>
      let key := name.toLower
      let found := (target.entries.lookup key).getD .absent
      .table (putEntry key (write next rest setting found) target.entries)
  | .position position :: rest =>
      let key := name.toLower
      let found := (target.entries.lookup key).getD .absent
      .table (putEntry key (writeItem position rest setting found) target.entries)
where
  /-- Write a setting to the end of a way that begins with a position. -/
  writeItem (position : Int) (way : List Step) (setting : Setting)
    (target : Setting) :
      Setting :=
    let index := positionIn target.items.length position
    let found := target.items[index]?.getD .absent
    match way with
    | [] => .list (putItem index setting target.items)
    | .name next :: rest =>
        .list (putItem index (write next rest setting found) target.items)
    | .position next :: rest =>
        .list (putItem index (writeItem next rest setting found) target.items)

/-- Whether a character may occur in the name of a place. -/
def isPlaceChar (char : Char) : Bool :=
  char.isAlphanum || char == '_' || char == '-' || char == ' '

/-- The number in brackets at the start of a text. -/
def readPosition? (chars : List Char) : Option (Int × List Char) :=
  let chars := chars.dropWhile Text.isSpacing
  let negative := chars.head? = some '-'
  let chars := if negative then chars.drop 1 else chars
  let digits := chars.takeWhile Char.isDigit
  let number : Int := Nat.ofDigitChars 10 digits 0
  match (chars.dropWhile Char.isDigit).dropWhile Text.isSpacing with
  | ']' :: rest =>
      if digits.isEmpty ∨ Bounds.signed < number then none
      else some (if negative then -number else number, rest)
  | _ => none

/-- The steps that a text spells; `fuel` bounds their number. -/
def readSteps? : Nat → List Char → Option (List Step)
  | _, [] => some []
  | fuel + 1, '.' :: chars =>
      match chars.takeWhile isPlaceChar with
      | [] => none
      | name => do
          let steps ← readSteps? fuel (chars.dropWhile isPlaceChar)
          some (.name (String.ofList name) :: steps)
  | fuel + 1, '[' :: chars => do
      let (position, rest) ← readPosition? chars
      let steps ← readSteps? fuel rest
      some (.position position :: steps)
  | _, _ => none

/-- The place that a text spells. -/
def Place.ofText? (spelling : String) : Option Place :=
  let chars := spelling.toList
  match chars.takeWhile isPlaceChar with
  | [] => none
  | name => do
      let steps ← readSteps? chars.length (chars.dropWhile isPlaceChar)
      some ⟨String.ofList name, steps⟩

/-- Write a setting to a place. -/
def writeAt (place : Place) (setting : Setting) (target : Setting) : Setting :=
  write place.first place.rest setting target

/--
Merge a table into settings.  A name at the top may spell a place; a name that
spells none is taken as it is.
-/
def merge (incoming : List (String × Setting)) (target : Setting) : Setting :=
  incoming.foldl
    (fun target (name, setting) =>
      match Place.ofText? name with
      | some place => writeAt place setting target
      | none => assign name setting target)
    target

end Setting

end LojbanTree
