/-!
# Replacing text

Every occurrence of a text, from the left and without overlaps, replaced by another text.
-/

namespace TextProtocol.Text

def replaceAfter (old new : List Char) : (skip : Nat) → List Char → List Char
  | _, [] => []
  | skip + 1, _ :: rest => replaceAfter old new skip rest
  | 0, c :: rest =>
    if old.isPrefixOf (c :: rest) then new ++ replaceAfter old new (old.length - 1) rest
    else c :: replaceAfter old new 0 rest

def replaceAll (old new : String) (text : List Char) : List Char :=
  replaceAfter old.toList new.toList 0 text

end TextProtocol.Text
