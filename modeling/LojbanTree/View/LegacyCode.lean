import LojbanTree.View.Letter

/-!
# Views written as a number

Before there were letters, a view was a number from 0 to 31.  Its lowest three
bits select one of eight presets, the next bit shows spaces and the highest
one keeps the morphology.

The number is read in two ways: `LegacyCode.view?` fills in the switches from
a table of presets, and `LegacyCode.letters` spells the number as letters.
-/

namespace LojbanTree

/-- One of the eight presets that the lowest bits of a code select. -/
structure Preset where
  json : Bool
  raw : Bool
  wordClasses : Bool
  mainParts : Bool
  terminators : Bool
  deriving DecidableEq, Repr

namespace Preset

/-- The presets in the order of the codes that select them. -/
def all : Vector Preset 8 :=
  #v[ ⟨true, true, false, false, true⟩,
      ⟨false, true, false, false, true⟩,
      ⟨false, false, false, false, true⟩,
      ⟨false, false, true, false, true⟩,
      ⟨false, false, true, true, true⟩,
      ⟨false, false, false, false, false⟩,
      ⟨false, false, true, false, false⟩,
      ⟨false, false, true, true, false⟩ ]

/-- The preset that the lowest three bits of a code select. -/
def ofCode (code : Nat) : Preset :=
  all.get ⟨code % 8, Nat.mod_lt _ (by decide)⟩

end Preset

namespace LegacyCode

/-- The highest code. -/
def greatest : Nat := 31

/-- Whether a code shows the space between words. -/
def showsSpaces (code : Nat) : Bool := code.testBit 3

/-- Whether a code keeps the morphology. -/
def keepsMorphology (code : Nat) : Bool := code.testBit 4

/-- The view that a code stands for, if it is in range. -/
def view? (code : Int) : Option View :=
  if 0 ≤ code ∧ code ≤ greatest then
    let preset := Preset.ofCode code.toNat
    some
      { keepMorphology := keepsMorphology code.toNat
        showSpaces := showsSpaces code.toNat
        showTerminators := preset.terminators
        showWordClasses := preset.wordClasses
        trim := !preset.raw
        showMainParts := preset.mainParts
        json := preset.json
        plainLeaves := false }
  else
    none

/-- The letters that a code stands for; only its lowest five bits count. -/
def letters (code : Nat) : String :=
  let preset := code % 8
  String.ofList <| List.flatten
    [ if showsSpaces code then ['S'] else [],
      if keepsMorphology code then ['M'] else [],
      if preset = 0 then ['J'] else [],
      if preset ≤ 1 then ['R'] else [],
      if 2 < preset ∧ preset ≠ 5 then ['C'] else [],
      if preset = 4 ∨ preset = 7 then ['N'] else [],
      if preset < 5 then ['T'] else [] ]

end LegacyCode

end LojbanTree
