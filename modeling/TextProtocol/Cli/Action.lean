import TextProtocol.Cli.Files
import TextProtocol.Console.Markup
import TextProtocol.Console.Table
import TextProtocol.Fault

/-!
# What a run does

A run prints to its two outputs, writes files, and may stop before its end. What it has printed and
written by then stays.
-/

namespace TextProtocol.Cli

inductive Crash where
  | file (error : FileError)
  | fault (fault : Fault)
  /-- Text for the console closes a tag that is not open. -/
  | markup
  | logLevel

def Crash.message : Crash → String
  | .file .notFound => "no such file or directory"
  | .file .isDirectory => "is a directory"
  | .file .notDirectory => "not a directory"
  | .file .occupied => "a file is in the way"
  | .file .nameTooLong => "file name too long"
  | .file .badName => "a path holds a character that no name may hold"
  | .fault _ => "the specification holds a value of the wrong kind"
  | .markup => "a text closes a tag that is not open"
  | .logLevel => "unknown log level"

inductive Stop where
  | exit (code : Nat)
  | crash (crash : Crash)

structure Output where
  stdout : String := ""
  stderr : String := ""
  written : List (String × String) := []

abbrev Action := ExceptT Stop (StateM Output)

namespace Action

def crash {α : Type} (c : Crash) : Action α :=
  throw (.crash c)

def orCrash {ε α : Type} (f : ε → Crash) : Except ε α → Action α
  | .ok a => return a
  | .error e => crash (f e)

def print (text : String) : Action Unit :=
  modify fun o ↦ { o with stdout := o.stdout ++ text }

def printError (text : String) : Action Unit :=
  modify fun o ↦ { o with stderr := o.stderr ++ text }

def render (markup : String) : Action (List Char) :=
  match Console.shown markup with
  | .ok text => return text
  | .error .unopened | .error .badParameters => crash .markup
  | .error .badNumber => crash (.fault .invalid)

def printMarkup (markup : String) : Action Unit := do
  print (Console.line (← render markup))

def printPlain (text : String) : Action Unit :=
  print (Console.line (Console.shownText text.toList))

/-- A line of marked-up text on the output for errors. -/
def printErrorMarkup (markup : String) : Action Unit := do
  printError (Console.line (← render markup))

def printErrorPlain (text : String) : Action Unit :=
  printError (Console.line (Console.shownText text.toList))

def write (path content : String) : Action Unit :=
  modify fun o ↦ { o with written := o.written ++ [(path, content)] }

end Action

end TextProtocol.Cli
