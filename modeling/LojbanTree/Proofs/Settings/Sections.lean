import LojbanTree.Settings.Basic

/-!
# Sections of settings

Merging writes entry by entry, and an entry can reach a section in two ways: as
a table of its fields, or by a place that names one field.  Either way what
comes of a section is what its fields come to when they are assigned one after
another, whatever else is merged (`Setting.sectionOf_merge`).  A field that is
assigned is read back, and one that is not keeps what it was
(`Setting.readField_assignAll`).
-/

namespace LojbanTree

namespace Setting

/-! ## Entries of a table -/

theorem lookup_putEntry_self (name : String) (setting : Setting)
    (entries : List (String × Setting)) :
    (putEntry name setting entries).lookup name = some setting := by
  induction entries with
  | nil => simp [putEntry]
  | cons entry rest inRest =>
      obtain ⟨other, found⟩ := entry
      by_cases same : name = other
      · simp [putEntry, same]
      · have goesOn : (name == other) = false := by simpa using same
        simp [putEntry, same, List.lookup_cons, goesOn, inRest]

theorem lookup_putEntry_of_ne {name key : String} (differs : key ≠ name)
    (setting : Setting) (entries : List (String × Setting)) :
    (putEntry name setting entries).lookup key = entries.lookup key := by
  have goesOn : (key == name) = false := by simpa using differs
  induction entries with
  | nil => simp [putEntry, List.lookup_cons, goesOn]
  | cons entry rest inRest =>
      obtain ⟨other, found⟩ := entry
      by_cases same : name = other
      · subst same
        simp [putEntry, List.lookup_cons, goesOn]
      · simp [putEntry, same, List.lookup_cons, inRest]

theorem assign_of_plain {setting : Setting}
    (plain : ∀ fields, setting ≠ .table fields)
    (name : String) (target : Setting) :
    assign name setting target =
      .table (putEntry name.toLower setting target.entries) := by
  rw [assign]
  exact plain

/--
Writing changes one entry of a table, and it is the one that the way begins with.
-/
theorem exists_write_eq (name : String) (way : List Step)
    (setting target : Setting) :
    ∃ inner, write name way setting target =
      .table (putEntry name.toLower inner target.entries) := by
  cases way with
  | nil =>
      rw [write]
      by_cases isTable : ∃ fields, setting = .table fields
      · obtain ⟨fields, rfl⟩ := isTable
        exact ⟨_, by rw [assign]⟩
      · exact ⟨setting, assign_of_plain (not_exists.mp isTable) name target⟩
  | cons step rest => cases step <;> exact ⟨_, by rw [write]⟩

/-- A write leaves the fields of other names alone. -/
theorem lookup_write_of_ne {name key : String} (differs : key ≠ name.toLower)
    (way : List Step) (setting target : Setting) :
    (write name way setting target).entries.lookup key =
      target.entries.lookup key := by
  obtain ⟨inner, written⟩ := exists_write_eq name way setting target
  rw [written, entries, lookup_putEntry_of_ne differs]

theorem lookup_assign_of_ne {name key : String} (differs : key ≠ name.toLower)
    (setting target : Setting) :
    (assign name setting target).entries.lookup key =
      target.entries.lookup key := by
  have written := lookup_write_of_ne differs [] setting target
  rwa [write] at written

/-- Assigning a table assigns its fields to the one that is there. -/
theorem lookup_assign_table (name : String) (fields : List (String × Setting))
    (target : Setting) :
    (assign name (.table fields) target).entries.lookup name.toLower =
      some (assignAll fields
        ((target.entries.lookup name.toLower).getD (.table []))) := by
  rw [assign, entries, lookup_putEntry_self]

/-- What is assigned and is no table takes the place of what was there. -/
theorem lookup_assign_of_plain {setting : Setting}
    (plain : ∀ fields, setting ≠ .table fields)
    (name : String) (target : Setting) :
    (assign name setting target).entries.lookup name.toLower = some setting := by
  rw [assign_of_plain plain, entries, lookup_putEntry_self]

/-- What is assigned to depends on its entries only. -/
theorem assign_congr {target other : Setting}
    (same : target.entries = other.entries) (name : String) (setting : Setting) :
    assign name setting target = assign name setting other := by
  by_cases isTable : ∃ fields, setting = .table fields
  · obtain ⟨fields, rfl⟩ := isTable
    rw [assign, assign, same]
  · have plain := not_exists.mp isTable
    rw [assign_of_plain plain, assign_of_plain plain, same]

theorem exists_assignAll_eq_table (fields entries : List (String × Setting)) :
    ∃ found, assignAll fields (.table entries) = .table found := by
  induction fields generalizing entries with
  | nil => exact ⟨entries, by rw [assignAll]⟩
  | cons field rest inRest =>
      obtain ⟨name, setting⟩ := field
      obtain ⟨inner, written⟩ := exists_write_eq name [] setting (.table entries)
      rw [write] at written
      rw [assignAll, written]
      exact inRest _

theorem assignAll_append (fields others : List (String × Setting))
    (target : Setting) :
    assignAll (fields ++ others) target =
      assignAll others (assignAll fields target) := by
  induction fields generalizing target with
  | nil => rw [assignAll, List.nil_append]
  | cons field rest inRest =>
      obtain ⟨name, setting⟩ := field
      rw [List.cons_append, assignAll, assignAll, inRest]

/-! ## Fields of a section -/

/-- A section of settings; one that was never written has no fields. -/
def sectionOf (part : String) (root : Setting) : Setting :=
  (root.entries.lookup part).getD (.table [])

/--
The fields that an entry gives to a section, unless it makes something else of
the section than a table of fields.
-/
def fieldsOf? (part : String) (entry : String × Setting) :
    Option (List (String × Setting)) :=
  let place := (Place.ofText? entry.1).getD ⟨entry.1, []⟩
  if place.first.toLower = part then
    match place.rest, entry.2 with
    | [], .table fields => some fields
    | [.name name], setting => some [(name, setting)]
    | _, _ => none
  else
    some []

/--
The fields that entries give to a section, unless one makes something else of it.
-/
def allFieldsOf? (part : String) :
    List (String × Setting) → Option (List (String × Setting))
  | [] => some []
  | entry :: rest => do
      let fields ← fieldsOf? part entry
      let others ← allFieldsOf? part rest
      some (fields ++ others)

theorem merge_nil (target : Setting) : merge [] target = target := rfl

/-- An entry is written to the place that its name spells, if it spells one. -/
theorem merge_cons (entry : String × Setting) (rest : List (String × Setting))
    (target : Setting) :
    merge (entry :: rest) target =
      merge rest
        (writeAt ((Place.ofText? entry.1).getD ⟨entry.1, []⟩) entry.2 target) := by
  obtain ⟨name, setting⟩ := entry
  rw [merge, List.foldl_cons, merge]
  congr 1
  dsimp only
  cases Place.ofText? name with
  | some place => rfl
  | none => rw [Option.getD_none, writeAt, write]

/--
An entry assigns its fields to a section and leaves every other section alone.
-/
theorem sectionOf_writeAt {part : String} {entry : String × Setting}
    {fields : List (String × Setting)} (given : fieldsOf? part entry = some fields)
    (target : Setting) :
    sectionOf part
        (writeAt ((Place.ofText? entry.1).getD ⟨entry.1, []⟩) entry.2 target) =
      assignAll fields (sectionOf part target) := by
  obtain ⟨name, setting⟩ := entry
  unfold fieldsOf? at given
  generalize (Place.ofText? name).getD ⟨name, []⟩ = place at given ⊢
  obtain ⟨first, way⟩ := place
  dsimp only at given
  by_cases inPart : first.toLower = part
  · subst inPart
    rw [if_pos rfl] at given
    split at given
    case h_1 inner =>
      obtain rfl := Option.some.inj given
      rw [writeAt, write, sectionOf, lookup_assign_table, Option.getD_some,
        sectionOf]
    case h_2 next setting =>
      obtain rfl := Option.some.inj given
      have known :
          ((target.entries.lookup first.toLower).getD .absent).entries =
            (sectionOf first.toLower target).entries := by
        rw [sectionOf]
        cases target.entries.lookup first.toLower <;> rfl
      rw [writeAt, write, write, sectionOf, entries, lookup_putEntry_self,
        Option.getD_some, assign_congr known, assignAll, assignAll]
    case h_3 => cases given
  · rw [if_neg inPart] at given
    obtain rfl := Option.some.inj given
    rw [writeAt, sectionOf, lookup_write_of_ne (Ne.symm inPart), assignAll,
      sectionOf]

/--
Merging assigns the fields that the entries give to a section, in their order.
-/
theorem sectionOf_merge {part : String} {entries fields : List (String × Setting)}
    (given : allFieldsOf? part entries = some fields) (target : Setting) :
    sectionOf part (merge entries target) =
      assignAll fields (sectionOf part target) := by
  induction entries generalizing fields target with
  | nil =>
      obtain rfl := Option.some.inj given
      rw [merge_nil, assignAll]
  | cons entry rest inRest =>
      simp only [allFieldsOf?, bind, Option.bind_eq_some_iff] at given
      obtain ⟨here, givenHere, others, givenRest, all⟩ := given
      obtain rfl := Option.some.inj all
      rw [merge_cons, inRest givenRest, sectionOf_writeAt givenHere,
        assignAll_append]

/-! ## Reading a field -/

section

variable {found : Type} (convert : Setting → Option found)

/-- A field of a table, read in the given way. -/
def readField (key : String) (fields : Setting) : Option found :=
  (fields.entries.lookup key).bind convert

/-- What fields give under a name, which is taken in lower case. -/
def givenUnder (key : String) (fields : List (String × Setting)) : List Setting :=
  (fields.filter (·.1.toLower = key)).map (·.2)

/--
Fields give a name at most once, and if they do, it reads as what was chosen.
-/
def Chooses (key : String) (fields : List (String × Setting))
    (choice? : Option found) : Prop :=
  (givenUnder key fields).map convert = (choice?.map some).toList

instance [DecidableEq found] (key : String) (fields : List (String × Setting))
    (choice? : Option found) : Decidable (Chooses convert key fields choice?) :=
  inferInstanceAs (Decidable (_ = _))

variable {convert}

/--
What is assigned counts more than what was there, which is kept if nothing is
assigned.  Behind the field with the choice no other has the same name.
-/
theorem readField_assignAll {key : String} {fields : List (String × Setting)}
    {choice? : Option found} (noTable : ∀ entries, convert (.table entries) = none)
    (chosen : Chooses convert key fields choice?) (target : Setting) :
    readField convert key (assignAll fields target) =
      choice?.or (readField convert key target) := by
  induction fields generalizing choice? target with
  | nil =>
      have nothing : choice? = none := by
        cases choice? with
        | none => rfl
        | some choice => simp [Chooses, givenUnder] at chosen
      rw [nothing, assignAll, Option.none_or]
  | cons field rest inRest =>
      obtain ⟨name, setting⟩ := field
      rw [assignAll]
      by_cases named : name.toLower = key
      · subst named
        obtain ⟨choice, rfl⟩ : ∃ choice, choice? = some choice := by
          cases choice? with
          | none => simp [Chooses, givenUnder] at chosen
          | some choice => exact ⟨choice, rfl⟩
        obtain ⟨reads, others⟩ :
            convert setting = some choice ∧
              Chooses convert name.toLower rest none := by
          simpa [Chooses, givenUnder] using chosen
        have plain : ∀ fields, setting ≠ .table fields := by
          rintro fields rfl
          simp [noTable] at reads
        rw [inRest others, Option.none_or, readField, lookup_assign_of_plain plain,
          Option.bind_some, reads, Option.some_or]
      · have others : Chooses convert key rest choice? := by
          simpa [Chooses, givenUnder, named] using chosen
        rw [inRest others, readField, lookup_assign_of_ne (Ne.symm named),
          readField]

end

end Setting

namespace Settings

/--
A field of a section that is a table is read as it is found there.  A section that
was never written has no field to be read.
-/
theorem read_eq_ok {found : Type} {convert : Setting → Option found}
    {root : Setting}
    {part name : String} {entries : List (String × Setting)} {value : found}
    (isTable : Setting.sectionOf part root = .table entries)
    (reads :
      Setting.readField convert name (Setting.sectionOf part root) = some value)
    (position : Nat) : read root part position name convert = .ok value := by
  rw [isTable] at reads
  have written : root.entries.lookup part = some (.table entries) := by
    rw [Setting.sectionOf] at isTable
    cases there : root.entries.lookup part with
    | some inner => rw [there, Option.getD_some] at isTable; rw [isTable]
    | none =>
        rw [there, Option.getD_none] at isTable
        cases isTable
        cases reads
  rw [Setting.readField, Setting.entries] at reads
  simp only [read, written, Option.bind_some, Setting.field?, reads]

end Settings

end LojbanTree
