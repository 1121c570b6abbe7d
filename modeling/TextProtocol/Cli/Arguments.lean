/-!
# Command lines

What the words of a command line ask for. An option takes the word after it as its value, or what
follows it in the same word: after an equals sign if its name is long, at once if it is one letter.
-/

namespace TextProtocol.Cli

structure Flag where
  name : String
  letter : Option Char := none
  takesValue : Bool := true

structure Sorted where
  /-- The options that are given, with their values, in order. -/
  given : List (String × String) := []
  words : List String := []

namespace Sorted

def withFlag (s : Sorted) (name value : String) : Sorted :=
  { s with given := (name, value) :: s.given }

def values (s : Sorted) (name : String) : List String :=
  (s.given.filter (·.1 == name)).map (·.2)

def value? (s : Sorted) (name : String) : Option String :=
  (s.values name).getLast?

def has (s : Sorted) (name : String) : Bool :=
  s.given.any (·.1 == name)

end Sorted

inductive Mention where
  | word
  /-- The word says that no options follow. -/
  | stop
  | flag (flag : Flag) (value : Option String)
  | unknown

/-- The option that a word names, with the value that stands in the same word. -/
def mention (flags : List Flag) (word : String) : Mention :=
  match word.toList with
  | ['-', '-'] => .stop
  | '-' :: '-' :: rest =>
    let name := String.ofList (rest.takeWhile (· != '='))
    let value := (rest.dropWhile (· != '=')).tail?.map String.ofList
    match flags.find? (·.name == name) with
    | some flag => .flag flag value
    | none => .unknown
  | '-' :: letter :: rest =>
    match flags.find? (·.letter == some letter) with
    | some flag => .flag flag (if rest.isEmpty then none else some (String.ofList rest))
    | none => .unknown
  | _ => .word

/-- The words of a command line sorted out; none if they are wrong. Unless options are `mixed` with
other words, the first other word ends the options. -/
def sortWords (flags : List Flag) (mixed : Bool) : List String → Option Sorted
  | [] => some {}
  | word :: rest => match mention flags word with
    | .stop => some { words := rest }
    | .unknown => none
    | .word =>
      if mixed then (sortWords flags mixed rest).map fun s ↦ { s with words := word :: s.words }
      else some { words := word :: rest }
    | .flag flag value =>
      if !flag.takesValue then
        if value.isSome then none else (sortWords flags mixed rest).map (·.withFlag flag.name "")
      else match value, rest with
        | some v, rest => (sortWords flags mixed rest).map (·.withFlag flag.name v)
        | none, v :: rest => (sortWords flags mixed rest).map (·.withFlag flag.name v)
        | none, [] => none

inductive Topic where
  | program
  | generate
  | support
  | info
  deriving DecidableEq, Repr

inductive Command where
  | help (topic : Topic)
  /-- Generate packages. Without languages, all are meant. -/
  | generate (languages : List String) (input : String) (output : Option String)
      (runtime : Option String)
  /-- Write the code that generated Python shares. -/
  | support (language output name : String)
  | info (input : String) (json : Bool)

def Command.input? : Command → Option String
  | .generate _ input _ _ | .info input _ => some input
  | .help _ | .support _ _ _ => none

def helpFlag : Flag :=
  ⟨"help", none, false⟩

def programFlags : List Flag :=
  [⟨"log-level", none, true⟩, helpFlag]

def topic? : String → Option Topic
  | "gen" => some .generate
  | "runtime" => some .support
  | "info" => some .info
  | _ => none

def Topic.flags : Topic → List Flag
  | .program => programFlags
  | .generate => [⟨"language", some 'l', true⟩, ⟨"input", some 'i', true⟩,
      ⟨"output", some 'o', true⟩, ⟨"runtime-import", none, true⟩, ⟨"serial", none, false⟩, helpFlag]
  | .support => [⟨"language", some 'l', true⟩, ⟨"output", some 'o', true⟩, ⟨"name", none, true⟩,
      helpFlag]
  | .info => [⟨"input", some 'i', true⟩, ⟨"json", none, false⟩, helpFlag]

/-- What options ask of a command; none if something required is missing. -/
def Topic.command : Topic → Sorted → Option Command
  | .program, _ => none
  | .generate, s => do
    let input ← s.value? "input"
    return .generate (s.values "language") input (s.value? "output") (s.value? "runtime-import")
  | .support, s => some (.support ((s.value? "language").getD "python")
      ((s.value? "output").getD ".") ((s.value? "name").getD "wirecraft_runtime"))
  | .info, s => do return .info (← s.value? "input") (s.has "json")

/-- What the words after a command ask for; none if they are wrong. Help comes before everything
else. -/
def Topic.parse (topic : Topic) (words : List String) : Option Command := do
  let s ← sortWords topic.flags true words
  if s.has "help" then return .help topic
  guard s.words.isEmpty
  topic.command s

def logLevels : List String :=
  ["CRITICAL", "FATAL", "ERROR", "WARN", "WARNING", "INFO", "DEBUG", "NOTSET"]

inductive Misuse where
  | usage
  | logLevel

/-- The command that a command line asks for. The level of logging is looked at after the name of
the command and before its options. -/
def parseCommand (args : List String) : Except Misuse Command := do
  let some s := sortWords programFlags false args | throw .usage
  if s.has "help" then return .help .program
  let name :: rest := s.words | throw .usage
  let some topic := topic? name | throw .usage
  let level := ((s.value? "log-level").getD "").toUpper
  if !level.isEmpty && !logLevels.contains level then throw .logLevel
  let some command := topic.parse rest | throw .usage
  return command

end TextProtocol.Cli
