import LojbanTree.Settings.Setting

/-!
# Tables in the making

The lines of a TOML document define tables piece by piece, and each table may
be defined in one way only: by its own header, by dotted keys, or by being
mentioned on the way to a table below it.  The last can still be followed by
the table's own header.  A key is set at most once.
-/

namespace LojbanTree

namespace Toml

/-- How a table came about. -/
inductive Origin where
  /-- It lies on the way to a table with a header. -/
  | implied
  /-- It lies on the way to a dotted key. -/
  | dotted
  /-- It has a header of its own. -/
  | header
  deriving DecidableEq, Repr

/-- What a key of a table in the making stands for. -/
inductive Node where
  /-- A setting that cannot be added to. -/
  | value (setting : Setting)
  | table (origin : Origin) (entries : List (String × Node))
  /-- A list of tables, of which the last can be added to. -/
  | tables (earlier : List (List (String × Node))) (last : List (String × Node))

/-- The entries of a table in the making. -/
abbrev Entries := List (String × Node)

namespace Node

mutual

/-- The setting that a node stands for. -/
def toSetting : Node → Setting
  | .value setting => setting
  | .table _ entries => .table (settings entries)
  | .tables earlier last =>
      .list (tableSettings earlier ++ [.table (settings last)])

/-- The settings that entries stand for. -/
def settings : List (String × Node) → List (String × Setting)
  | [] => []
  | (key, node) :: rest => (key, toSetting node) :: settings rest

/-- The settings that the entries of several tables stand for. -/
def tableSettings : List (List (String × Node)) → List Setting
  | [] => []
  | entries :: rest => .table (settings entries) :: tableSettings rest

end

end Node

namespace Entries

/-- Replace the node of a key. -/
def replace (key : String) (node : Node) (entries : Entries) : Entries :=
  entries.map fun (other, found) => (other, if other = key then node else found)

/-- Add the node of a key that is not there yet. -/
def add? (key : String) (node : Node) (entries : Entries) : Option Entries :=
  match entries.lookup key with
  | none => some (entries ++ [(key, node)])
  | some _ => none

/--
Set a dotted key.  The way may lead through the last table of a list and
through tables without a header of their own, but it ends in a table that
dotted keys made.  `isOpen` says whether the table at the beginning of what is
left of the way takes a key itself.
-/
def setBelow? (setting : Setting) : Bool → List String → Entries → Option Entries
  | _, [], _ => none
  | isOpen, [key], entries =>
      if isOpen then entries.add? key (.value setting) else none
  | _, key :: rest, entries =>
      match entries.lookup key with
      | none => do
          let below ← setBelow? setting true rest []
          some (entries ++ [(key, .table .dotted below)])
      | some (.table .dotted below) => do
          let below ← setBelow? setting true rest below
          some (entries.replace key (.table .dotted below))
      | some (.table .implied below) => do
          let below ← setBelow? setting false rest below
          some (entries.replace key (.table .implied below))
      | some (.tables earlier last) => do
          let last ← setBelow? setting false rest last
          some (entries.replace key (.tables earlier last))
      | some (.table .header _) | some (.value _) => none

/-- Set a key, dotted or not, of the table that is being defined. -/
def set? (setting : Setting) (key : List String) (entries : Entries) :
    Option Entries :=
  setBelow? setting true key entries

/-- Open the table of a header. -/
def openTable? (key : String) (entries : Entries) : Option Entries :=
  match entries.lookup key with
  | none => some (entries ++ [(key, .table .header [])])
  | some (.table .implied below) =>
      some (entries.replace key (.table .header below))
  | some _ => none

/-- Open one more table of a list of tables. -/
def openItem? (key : String) (entries : Entries) : Option Entries :=
  match entries.lookup key with
  | none => some (entries ++ [(key, .tables [] [])])
  | some (.tables earlier last) =>
      some (entries.replace key (.tables (earlier ++ [last]) []))
  | some _ => none

/-- Change the table at the end of a path; tables that are missing are implied. -/
def change? (change : Entries → Option Entries) :
    List String → Entries → Option Entries
  | [], entries => change entries
  | key :: rest, entries =>
      match entries.lookup key with
      | none => do
          let below ← change? change rest []
          some (entries ++ [(key, .table .implied below)])
      | some (.table origin below) => do
          let below ← change? change rest below
          some (entries.replace key (.table origin below))
      | some (.tables earlier last) => do
          let last ← change? change rest last
          some (entries.replace key (.tables earlier last))
      | some (.value _) => none

end Entries

/-- A document of which some lines were read. -/
structure Document where
  entries : Entries
  /-- The path to the table that the next lines belong to. -/
  current : List String

namespace Document

/-- The document without a line. -/
def empty : Document := ⟨[], []⟩

/-- Add a line that sets a key. -/
def set? (document : Document) (key : List String) (setting : Setting) :
    Option Document := do
  let entries ← document.entries.change?
    (Entries.set? setting key) document.current
  some { document with entries := entries }

/-- Add a header; `openLast` opens its last key. -/
def header? (openLast : String → Entries → Option Entries) (document : Document)
    (path : List String) : Option Document := do
  let last ← path.getLast?
  let entries ← document.entries.change? (openLast last) path.dropLast
  some ⟨entries, path⟩

end Document

end Toml

end LojbanTree
