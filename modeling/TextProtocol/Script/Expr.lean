import TextProtocol.Double.Basic

/-!
# Expressions and statements of Python modules
-/

namespace TextProtocol.Script

inductive Constant where
  | none | true | false | ellipsis
  deriving DecidableEq, Repr

inductive Collection where
  | list | set | dict | generator
  deriving DecidableEq, Repr

/-- An expression. Entries of calls, subscripts and dictionaries are expressions too, though they
have a meaning only in their place. -/
inductive Expr where
  | text (chars : List Char)
  | bytes (data : List Char)
  /-- A formatted string literal: texts and holes. -/
  | formatted (parts : List Expr)
  /-- A hole in a formatted literal, whether its value is converted to a text first, and the parts
  of its format. -/
  | hole (value : Expr) (converted : Bool) (format : List Expr)
  | natural (value : Nat)
  | real (value : Double)
  | imaginary
  | constant (which : Constant)
  | name (name : String)
  | tuple (items : List Expr)
  | list (items : List Expr)
  | set (items : List Expr)
  | dict (entries : List Expr)
  | pair (key value : Expr)
  | starred (value : Expr)
  | unpacked (value : Expr)
  | keyword (name : String) (value : Expr)
  | unary (sign : String) (operand : Expr)
  | binary (sign : String) (left right : Expr)
  | compare (first : Expr) (rest : List (String × Expr))
  | both (left right : Expr)
  | either (left right : Expr)
  | choice (condition yes no : Expr)
  | attribute (value : Expr) (name : String)
  | call (function : Expr) (arguments : List Expr)
  | item (value index : Expr)
  | slice (bounds : List (Option Expr))
  | walrus (name : String) (value : Expr)
  /-- A function without a name, of which only the defaults are looked at. -/
  | lambda (defaults : List Expr)
  /-- A comprehension, by what it makes, its element, and its loops: target, source, conditions. -/
  | comprehension (makes : Collection) (element : Expr)
      (loops : List (Expr × Expr × List Expr))

inductive Statement where
  | expr (value : Expr)
  | assign (targets : List Expr) (value : Expr)
  | augment (target : Expr) (sign : String) (value : Expr)
  | annotate (target annotation : Expr) (value? : Option Expr)
  | pass
  | throw (value? cause? : Option Expr)
  | assert (condition : Expr) (message? : Option Expr)
  | delete (targets : List Expr)
  /-- Imports of modules, each with the name that it is bound to. -/
  | load (names : List (String × String))
  /-- Imports from a module, each with the name that it is bound to. -/
  | loadFrom (source : String) (names : List (String × String))
  | branch (condition : Expr) (yes no : List Statement)
  | loop (condition : Expr) (body otherwise : List Statement)
  | each (target source : Expr) (body otherwise : List Statement)
  | within (items : List (Expr × Option Expr)) (body : List Statement)
  /-- A body with its handlers: class, name, body. -/
  | attempt (body : List Statement)
      (handlers : List (Option Expr × Option String × List Statement))
      (otherwise last : List Statement)
  /-- A function, of which only what is evaluated at its definition is kept. -/
  | function (name : String) (evaluated : List Expr)
  | type (name : String) (decorators arguments : List Expr) (body : List Statement)

end TextProtocol.Script
