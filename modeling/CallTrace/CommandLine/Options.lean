/-
# Options on a command line

A command knows some options. On a command line an option is written by its name
after two hyphens or by its letter after one, and letters may share a hyphen. The
value of an option follows an equals sign, or its letter directly, or is the next
argument. Arguments are taken in order, so a request for help counts only if all
that stands before it was understood.
-/

namespace CallTrace

/-- Why a command line leads to no command. -/
inductive Halt where
  /-- It is not understood. -/
  | misuse
  /-- It asks how the program is used. -/
  | help
  /-- It asks for the version of the program. -/
  | version
  deriving DecidableEq, Repr

/-- What an option is there for. -/
inductive OptionKind where
  | flag
  /-- The option has a value, and these texts are acceptable. -/
  | value (accepts : String → Bool)
  | request (answer : Halt)

/-- An option that a command knows. -/
structure KnownOption where
  name : String
  letter : Option Char
  kind : OptionKind

/-- How far a command line has been read. -/
structure OptionReader where
  /-- The options read so far, with their values; a flag has the empty value. -/
  values : List (String × String) := []
  /-- The option whose value must be the next argument. -/
  awaiting : Option KnownOption := none
  /-- After two hyphens alone there are no more options. -/
  closed : Bool := false

namespace OptionReader

/-- Whether an argument is no option: it starts with no hyphen or is one. -/
def isWord (argument : String) : Bool :=
  argument.toList.head? != some '-' || argument == "-"

/-- Takes in an option with its value. No option is given twice. -/
def assign (known : KnownOption) (value : String) (reader : OptionReader) :
    Except Halt OptionReader :=
  let accepted := match known.kind with
    | .value accepts => accepts value
    | _ => true
  if (reader.values.lookup known.name).isSome || !accepted then .error .misuse
  else .ok { reader with values := (known.name, value) :: reader.values, awaiting := none }

/-- An option written by its name, with the text after an equals sign if there is
one. -/
def named (options : List KnownOption) (name : List Char) (value : Option (List Char))
    (reader : OptionReader) : Except Halt OptionReader :=
  match options.find? (·.name.toList == name) with
  | none => .error .misuse
  | some known =>
    match known.kind, value with
    | .flag, none => reader.assign known ""
    | .request answer, none => .error answer
    | .value _, none => .ok { reader with awaiting := some known }
    | .value _, some value => reader.assign known (String.ofList value)
    | _, some _ => .error .misuse

/-- Options written by their letters. What follows a letter with a value is that
value. -/
def letters (options : List KnownOption) : List Char → OptionReader → Except Halt OptionReader
  | [], reader => .ok reader
  | letter :: rest, reader =>
    match options.find? (·.letter == some letter) with
    | none => .error .misuse
    | some known =>
      match known.kind with
      | .flag => do letters options rest (← reader.assign known "")
      | .request answer => .error answer
      | .value _ =>
        match rest with
        | [] => .ok { reader with awaiting := some known }
        | '=' :: value => reader.assign known (String.ofList value)
        | value => reader.assign known (String.ofList value)

/-- Takes in one argument. -/
def step (options : List KnownOption) (reader : OptionReader) (argument : String) :
    Except Halt OptionReader :=
  if reader.closed then .error .misuse
  else
    match reader.awaiting with
    | some known => if isWord argument then reader.assign known argument else .error .misuse
    | none =>
      if isWord argument then .error .misuse
      else
        match argument.toList with
        | ['-', '-'] => .ok { reader with closed := true }
        | '-' :: '-' :: text =>
          let value := match text.dropWhile (· != '=') with
            | [] => none
            | _ :: value => some value
          named options (text.takeWhile (· != '=')) value reader
        | _ :: text => letters options text reader
        | [] => .error .misuse

/-- The options on a command line that holds nothing else. -/
def readAll (options : List KnownOption) (arguments : List String) :
    Except Halt (List (String × String)) := do
  let reader ← arguments.foldlM (step options) {}
  if reader.awaiting.isSome then throw .misuse
  return reader.values

/-- Passes over options up to the first word, which names a command; the result is
the command and what follows it. -/
def readCommand (options : List KnownOption) :
    List String → OptionReader → Except Halt (String × List String)
  | [], _ => .error .misuse
  | argument :: rest, reader =>
    if isWord argument && !reader.closed then .ok (argument, rest)
    else do readCommand options rest (← step options reader argument)

end OptionReader

end CallTrace
