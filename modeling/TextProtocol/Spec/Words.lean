import TextProtocol.Spec.Basic

/-!
# The words of specifications

How a document spells the choices of a specification.
-/

namespace TextProtocol.Spec

class Choice (α : Type) where
  /-- What is chosen, as messages call it. -/
  title : String
  all : List α
  word : α → String

def Choice.find? {α : Type} [Choice α] (text : String) : Option α :=
  (Choice.all : List α).find? fun a ↦ Choice.word a == text

instance : Choice Direction where
  title := "Direction"
  all := [.request, .response, .bidirectional]
  word
    | .request => "request"
    | .response => "response"
    | .bidirectional => "bidirectional"

instance : Choice Transport where
  title := "Transport"
  all := [.tcp, .udp]
  word
    | .tcp => "TCP"
    | .udp => "UDP"

instance : Choice ParsePolicy where
  title := "ParseErrorPolicy"
  all := [.throw, .answer, .log]
  word
    | .throw => "throw"
    | .answer => "return"
    | .log => "log"

instance : Choice NetworkPolicy where
  title := "NetworkErrorPolicy"
  all := [.throw, .retry, .answer]
  word
    | .throw => "throw"
    | .retry => "retry"
    | .answer => "return"

end TextProtocol.Spec
