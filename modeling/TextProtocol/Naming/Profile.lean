import TextProtocol.Naming.Casing
import TextProtocol.Text.Digit

/-!
# Profiles of target languages

How a target language spells identifiers: a casing for each kind of name, its reserved words and
the way around them. A profile also records the idioms that its generated packages follow.
-/

namespace TextProtocol.Naming

/-- A casing for each kind of name. Members without a casing of their own take that of variables. -/
structure Rules where
  typeNames : Casing
  functionNames : Casing
  variableNames : Casing
  constantNames : Casing
  privateNames : Casing
  fileNames : Casing
  memberNames : Option Casing := none
  privatePrefix : String := ""
  deriving Repr

/-- How a name that is a reserved word is spelled instead. -/
inductive ReservedSpelling where
  | underscore
  /-- As a raw identifier, with `r#` in front. -/
  | raw
  deriving DecidableEq, Repr

def ReservedSpelling.pattern : ReservedSpelling → String
  | .underscore => "\x7b\x7d_"
  | .raw => "r#\x7b\x7d"

def ReservedSpelling.apply : ReservedSpelling → String → String
  | .underscore, name => name ++ "_"
  | .raw, name => "r#" ++ name

/-- A target language. -/
structure Profile where
  language : String
  displayName : String
  fileExtension : String
  naming : Rules
  errorIdiom : String
  bytesType : String
  asyncPattern : String
  testFramework : String
  reservedWords : List String
  reservedSpelling : ReservedSpelling
  aliases : List String
  /-- Reserved words that the reserved spelling does not apply to; they get an underscore. -/
  fallbackReserved : List String := []
  deriving Repr

namespace Profile

def escape (p : Profile) (name : String) : String :=
  if p.fallbackReserved.contains name then name ++ "_"
  else if p.reservedWords.contains name then p.reservedSpelling.apply name
  else match name.toList with
    | c :: _ => if Text.isDigit c then "_" ++ name else name
    | [] => name

def typeName (p : Profile) (parts : List String) : String :=
  p.escape (p.naming.typeNames.ofParts parts)

def functionName (p : Profile) (parts : List String) : String :=
  p.escape (p.naming.functionNames.ofParts parts)

def variableName (p : Profile) (parts : List String) : String :=
  p.escape (p.naming.variableNames.ofParts parts)

/-- The name of a field of a generated message type. -/
def memberName (p : Profile) (parts : List String) : String :=
  p.escape ((p.naming.memberNames.getD p.naming.variableNames).ofParts parts)

def constantName (p : Profile) (parts : List String) : String :=
  p.escape (p.naming.constantNames.ofParts parts)

def privateName (p : Profile) (parts : List String) : String :=
  p.naming.privatePrefix ++ p.naming.privateNames.ofParts parts

def fileStem (p : Profile) (parts : List String) : String :=
  p.naming.fileNames.ofParts parts

def fileName (p : Profile) (parts : List String) : String :=
  p.fileStem parts ++ p.fileExtension

def python : Profile where
  language := "python"
  displayName := "Python"
  fileExtension := ".py"
  naming := {
    typeNames := .pascal, functionNames := .snake, variableNames := .snake,
    constantNames := .upperSnake, privateNames := .snake, fileNames := .snake,
    privatePrefix := "_" }
  errorIdiom := "exceptions"
  bytesType := "bytes"
  asyncPattern := "asyncio"
  testFramework := "pytest+hypothesis"
  reservedWords :=
    ["False", "None", "True", "and", "as", "assert", "async", "await", "break", "class",
      "continue", "def", "del", "elif", "else", "except", "finally", "for", "from", "global", "if",
      "import", "in", "is", "lambda", "nonlocal", "not", "or", "pass", "raise", "return", "try",
      "while", "with", "yield", "_", "case", "match"]
  reservedSpelling := .underscore
  aliases := ["py"]

def typescript : Profile where
  language := "typescript"
  displayName := "TypeScript"
  fileExtension := ".ts"
  naming := {
    typeNames := .pascal, functionNames := .camel, variableNames := .camel,
    constantNames := .upperSnake, privateNames := .camel, fileNames := .kebab }
  errorIdiom := "exceptions"
  bytesType := "Uint8Array"
  asyncPattern := "promises"
  testFramework := "vitest+fast-check"
  reservedWords :=
    ["break", "case", "catch", "class", "const", "continue", "debugger", "default", "delete", "do",
      "else", "enum", "export", "extends", "false", "finally", "for", "function", "if", "import",
      "in", "instanceof", "new", "null", "return", "super", "switch", "this", "throw", "true",
      "try", "typeof", "var", "void", "while", "with", "as", "implements", "interface", "let",
      "package", "private", "protected", "public", "static", "yield", "await"]
  reservedSpelling := .underscore
  aliases := ["ts"]

def go : Profile where
  language := "go"
  displayName := "Go"
  fileExtension := ".go"
  naming := {
    typeNames := .pascal, functionNames := .pascal, variableNames := .camel,
    constantNames := .pascal, privateNames := .camel, fileNames := .snake,
    memberNames := some .pascal }
  errorIdiom := "error-returns"
  bytesType := "[]byte"
  asyncPattern := "goroutines"
  testFramework := "testing+testing/quick"
  reservedWords :=
    ["break", "case", "chan", "const", "continue", "default", "defer", "else", "fallthrough",
      "for", "func", "go", "goto", "if", "import", "interface", "map", "package", "range",
      "return", "select", "struct", "switch", "type", "var"]
  reservedSpelling := .underscore
  aliases := ["golang"]

def rust : Profile where
  language := "rust"
  displayName := "Rust"
  fileExtension := ".rs"
  naming := {
    typeNames := .pascal, functionNames := .snake, variableNames := .snake,
    constantNames := .upperSnake, privateNames := .snake, fileNames := .snake }
  errorIdiom := "result-types"
  bytesType := "Vec<u8>"
  asyncPattern := "tokio"
  testFramework := "proptest"
  reservedWords :=
    ["as", "async", "await", "break", "const", "continue", "dyn", "else", "enum", "extern",
      "false", "fn", "for", "if", "impl", "in", "let", "loop", "match", "mod", "move", "mut", "pub",
      "ref", "return", "static", "struct", "trait", "true", "type", "unsafe", "use", "where",
      "while", "abstract", "become", "box", "do", "final", "macro", "override", "priv", "try",
      "typeof", "unsized", "virtual", "yield"]
  reservedSpelling := .raw
  aliases := ["rs"]
  fallbackReserved := ["self", "Self", "super", "crate"]

def builtin : List Profile :=
  [python, typescript, go, rust]

end Profile

/-- A table of profiles, each under its language and its aliases. -/
structure Registry where
  profiles : List Profile

namespace Registry

/-- A table of profiles with different languages; otherwise the first language that repeats. -/
def ofProfiles (profiles : List Profile) : Except String Registry :=
  let rec go : List String → List Profile → Except String Registry
    | _, [] => .ok ⟨profiles⟩
    | seen, p :: ps => if seen.contains p.language then .error p.language
      else go (p.language :: seen) ps
  go [] profiles

/-- The table of the profiles that come with the library. -/
def builtin : Registry :=
  ⟨Profile.builtin⟩

/-- The language that a word names, itself or as an alias. The last profile with an alias has it. -/
def languageOf (r : Registry) (word : String) : String :=
  let key := word.toLower
  ((r.profiles.reverse.find? fun p ↦ p.aliases.contains key).map (·.language)).getD key

def find? (r : Registry) (word : String) : Option Profile :=
  let language := r.languageOf word
  r.profiles.find? fun p ↦ p.language == language

def languages (r : Registry) : List String :=
  r.profiles.map (·.language)

def unknownMessage (r : Registry) (word : String) : String :=
  let known := ", ".intercalate (r.languages.mergeSort)
  s!"Unknown language: {word} (known: {known})"

end Registry

end TextProtocol.Naming
