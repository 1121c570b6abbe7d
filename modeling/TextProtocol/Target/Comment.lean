import TextProtocol.Text.Blank
import TextProtocol.Text.Replace

/-!
# Comments

Descriptions go into the comments of generated sources, on one line and without the signs that would
end a comment.
-/

namespace TextProtocol.Target

def commentText (description : String) : String :=
  let line := (Text.words description.toList).intersperse [' ']
  String.ofList (Text.replaceAll "*/" "* /" (Text.replaceAll "\"\"\"" "'''" line.flatten))

end TextProtocol.Target
