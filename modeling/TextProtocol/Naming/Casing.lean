import TextProtocol.Naming.Words

/-!
# Casings

The ways in which the words of a name are joined to an identifier.
-/

namespace TextProtocol.Naming

/-- A way of joining words. -/
inductive Casing where
  | camel
  | pascal
  | snake
  | upperSnake
  | kebab
  | flat
  deriving DecidableEq, Repr

def Casing.name : Casing → String
  | .camel => "camelCase"
  | .pascal => "PascalCase"
  | .snake => "snake_case"
  | .upperSnake => "UPPER_SNAKE_CASE"
  | .kebab => "kebab-case"
  | .flat => "flatcase"

def Casing.all : List Casing :=
  [.camel, .pascal, .snake, .upperSnake, .kebab, .flat]

/-- A word with a capital first letter. -/
def capitalize : List Char → List Char
  | [] => []
  | c :: cs => c.toUpper :: cs

def joinWords (separator : List Char) (words : List (List Char)) : List Char :=
  separator.intercalate words

def Casing.join (casing : Casing) (words : List (List Char)) : List Char :=
  match casing with
  | .camel => match words with
    | [] => []
    | w :: ws => w ++ (ws.map capitalize).flatten
  | .pascal => (words.map capitalize).flatten
  | .snake => joinWords ['_'] words
  | .upperSnake => (joinWords ['_'] words).map Char.toUpper
  | .kebab => joinWords ['-'] words
  | .flat => words.flatten

def Casing.apply (casing : Casing) (name : String) : String :=
  String.ofList (casing.join (splitWords name.toList))

def Casing.ofParts (casing : Casing) (parts : List String) : String :=
  casing.apply (" ".intercalate parts)

end TextProtocol.Naming
