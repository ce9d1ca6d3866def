import LojbanTree.Decimal.Binary64

/-!
# Command line arguments

An option takes a value, in the same word or in the next one; a flag takes
none.  Each may occur once.  Any other word is the path of the input, of which
there is at most one, and after `--` every word is.

Words are taken from left to right, and a request for help or for the version
ends the matter as soon as it is reached.
-/

namespace LojbanTree

namespace CommandLine

/-- What the arguments ask for. -/
structure Arguments where
  path? : Option String
  mode? : Option String
  format? : Option String
  config? : Option String
  limit? : Option Nat
  loop : Bool
  listOptions : Bool
  deriving DecidableEq, Repr

namespace Arguments

/-- The arguments that ask for nothing. -/
def empty : Arguments := ⟨none, none, none, none, none, false, false⟩

end Arguments

/-- What is to be done. -/
inductive Request where
  | run (arguments : Arguments)
  | help
  | version
  deriving DecidableEq, Repr

/-- Why arguments cannot be followed. -/
inductive UsageFault where
  | unexpected (word : String)
  | missingValue (name : String)
  | unexpectedValue (name value : String)
  | repeated (name : String)
  | invalidValue (name value : String)
  deriving DecidableEq, Repr

namespace UsageFault

/-- A fault of the arguments in words. -/
def message : UsageFault → String
  | .unexpected word => s!"unexpected argument '{word}' found"
  | .missingValue name =>
      s!"a value is required for '{name}' but none was supplied"
  | .unexpectedValue name value =>
      s!"unexpected value '{value}' for '{name}' found"
  | .repeated name => s!"the argument '{name}' cannot be used multiple times"
  | .invalidValue name value => s!"invalid value '{value}' for '{name}'"

end UsageFault

/-- The options, which take a value. -/
inductive Setter where
  | mode
  | format
  | config
  | limit
  deriving DecidableEq, Repr

/-- The flags, which take none. -/
inductive Switch where
  | loop
  | listOptions
  | help
  | version
  deriving DecidableEq, Repr

/-- What a name on the command line stands for. -/
inductive Known where
  | setter (setter : Setter)
  | switch (switch : Switch)
  deriving DecidableEq, Repr

/-- What a name behind two dashes stands for. -/
def ofLong? (name : String) : Option Known :=
  match name with
  | "mode" => some (.setter .mode)
  | "format" => some (.setter .format)
  | "config" => some (.setter .config)
  | "max-depth" => some (.setter .limit)
  | "loop" => some (.switch .loop)
  | "list-options" => some (.switch .listOptions)
  | "help" => some (.switch .help)
  | "version" => some (.switch .version)
  | _ => none

/-- What a letter behind one dash stands for. -/
def ofShort? (letter : Char) : Option Known :=
  match letter with
  | 'm' => some (.setter .mode)
  | 'f' => some (.setter .format)
  | 'c' => some (.setter .config)
  | 'h' => some (.switch .help)
  | 'V' => some (.switch .version)
  | _ => none

/-- The greatest limit that can be asked for. -/
def greatestLimit : Nat := Bounds.unsigned

/-- A limit in decimal digits, which a plus sign may precede. -/
def limit? (value : String) : Option Nat :=
  let word := value.toList
  let digits := if word.head? = some '+' then word.drop 1 else word
  let number := Nat.ofDigitChars 10 digits 0
  if !digits.isEmpty && digits.all Char.isDigit && number ≤ greatestLimit then
    some number
  else
    none

namespace Arguments

/-- Set an option to a value. -/
def set (arguments : Arguments) (name : String) (setter : Setter)
    (value : String) :
    Except UsageFault Arguments :=
  match setter with
  | .mode =>
      if arguments.mode?.isSome then .error (.repeated name)
      else .ok { arguments with mode? := some value }
  | .format =>
      if arguments.format?.isSome then .error (.repeated name)
      else .ok { arguments with format? := some value }
  | .config =>
      if arguments.config?.isSome then .error (.repeated name)
      else .ok { arguments with config? := some value }
  | .limit =>
      if arguments.limit?.isSome then .error (.repeated name)
      else
        match CommandLine.limit? value with
        | some limit => .ok { arguments with limit? := some limit }
        | none => .error (.invalidValue name value)

/-- Set the path of the input. -/
def setPath (arguments : Arguments) (path : String) :
    Except UsageFault Arguments :=
  if arguments.path?.isSome then .error (.unexpected path)
  else .ok { arguments with path? := some path }

end Arguments

/-- Whether a word can be the value of the option in front of it. -/
def isValue (word : String) : Bool := word == "-" || !word.startsWith "-"

/-- A word, taken apart. -/
inductive Word where
  | path (path : String)
  /-- Two dashes, after which every word is a path. -/
  | separator
  /-- A name behind two dashes, with the value behind its equals sign. -/
  | long (name : String) (value? : Option String)
  /-- Letters behind one dash. -/
  | short (letters : List Char)
  deriving DecidableEq, Repr

/-- Take a word apart. -/
def Word.of (word : String) : Word :=
  match word.toList with
  | ['-', '-'] => .separator
  | '-' :: '-' :: rest =>
      let name := String.ofList (rest.takeWhile (· != '='))
      match rest.dropWhile (· != '=') with
      | [] => .long name none
      | _ :: value => .long name (some (String.ofList value))
  | ['-'] => .path word
  | '-' :: letters => .short letters
  | _ => .path word

/-- What a word turns out to ask for. -/
inductive Demand where
  /-- The option takes the next word as its value. -/
  | next (name : String) (setter : Setter)
  | set (name : String) (setter : Setter) (value : String)
  | switch (name : String) (switch : Switch)

/-- What letters behind one dash ask for.  None of the flags among them goes on. -/
def demandOfShort (letters : List Char) : Except UsageFault Demand :=
  match letters with
  | [] => .error (.unexpected "-")
  | letter :: rest =>
      let name := String.ofList ['-', letter]
      match ofShort? letter with
      | none => .error (.unexpected name)
      | some (.switch switch) => .ok (.switch name switch)
      | some (.setter setter) =>
          match rest with
          | [] => .ok (.next name setter)
          | '=' :: value => .ok (.set name setter (String.ofList value))
          | value => .ok (.set name setter (String.ofList value))

/-- What a name behind two dashes asks for. -/
def demandOfLong (name : String) (value? : Option String) :
    Except UsageFault Demand :=
  let shown := "--" ++ name
  match ofLong? name, value? with
  | none, _ => .error (.unexpected shown)
  | some (.setter setter), none => .ok (.next shown setter)
  | some (.setter setter), some value => .ok (.set shown setter value)
  | some (.switch switch), none => .ok (.switch shown switch)
  | some (.switch _), some value => .error (.unexpectedValue shown value)

/-- Take the words behind two dashes. -/
def readPaths (arguments : Arguments) : List String → Except UsageFault Request
  | [] => .ok (.run arguments)
  | path :: rest => do
      let arguments ← arguments.setPath path
      readPaths arguments rest

/--
Take words one after another.  If `awaited?` is an option, the first word is
its value.
-/
def readFrom (arguments : Arguments) (awaited? : Option (String × Setter)) :
    List String → Except UsageFault Request
  | [] =>
      match awaited? with
      | none => .ok (.run arguments)
      | some (name, _) => .error (.missingValue name)
  | word :: rest =>
      match awaited? with
      | some (name, setter) => do
          if isValue word then
            let arguments ← arguments.set name setter word
            readFrom arguments none rest
          else
            .error (.missingValue name)
      | none =>
          match Word.of word with
          | .separator => readPaths arguments rest
          | .path path => do
              let arguments ← arguments.setPath path
              readFrom arguments none rest
          | .long name value? => do
              perform rest (← demandOfLong name value?)
          | .short letters => do
              perform rest (← demandOfShort letters)
where
  /-- Do what a word asks for and take the words behind it. -/
  perform (rest : List String) (demand : Demand) : Except UsageFault Request :=
    match demand with
    | .next name setter => readFrom arguments (some (name, setter)) rest
    | .set name setter value => do
        let arguments ← arguments.set name setter value
        readFrom arguments none rest
    | .switch _ .help => .ok .help
    | .switch _ .version => .ok .version
    | .switch name .loop =>
        if arguments.loop then .error (.repeated name)
        else readFrom { arguments with loop := true } none rest
    | .switch name .listOptions =>
        if arguments.listOptions then .error (.repeated name)
        else readFrom { arguments with listOptions := true } none rest

/-- What the words of a command line ask for. -/
def read (words : List String) : Except UsageFault Request :=
  readFrom .empty none words

end CommandLine

end LojbanTree
