import TextProtocol.Fault
import TextProtocol.Pattern.Reader
import TextProtocol.Pattern.Search
import TextProtocol.Text.Codes

/-!
# Using patterns

Searching a text with a pattern that is given as text.
-/

namespace TextProtocol.Pattern

def ReadError.toFault : ReadError → Fault
  | .malformed => .pattern
  | .tooManyRounds => .overflow
  | .clashingFlags | .tooManyDigits => .invalid
  | .tooDeep => .tooDeep

/-- Whether a text is a pattern. Some texts that are none are a fault even to ask about. -/
def isPattern (pattern : String) : Except Fault Bool :=
  match read pattern with
  | .ok _ => .ok true
  | .error .malformed => .ok false
  | .error e => .error e.toFault

/-- Whether a pattern matches somewhere in a text, given by its code points. It is a fault if a
group of the match ends before it begins. -/
def foundIn (pattern : String) (codes : List Nat) : Except Fault Bool :=
  match read pattern with
  | .error e => .error e.toFault
  | .ok e =>
    match (Program.ofItems e.flags e.items).search codes.toArray with
    | none => .ok false
    | some trace =>
      if (List.range e.groups).any (isTwisted trace.marks) then .error .inconsistent else .ok true

def found (pattern text : String) : Except Fault Bool :=
  foundIn pattern (Text.codes text)

end TextProtocol.Pattern
