import TextProtocol.Text.Codes
import TextProtocol.Text.Hex
import TextProtocol.Text.Printable

/-!
# Quoted text

How texts and byte strings are shown in messages: between single quotes, or between double quotes
when the text holds a single quote and no double quote. The quote in use and the backslash are
escaped, as are line breaks, tabs and everything that is not printable.
-/

namespace TextProtocol.Text

/-- The quote that shows a text: `'`, unless that would need escaping and `"` would not. -/
def quoteFor (hasSingle hasDouble : Bool) : Char :=
  if hasSingle && !hasDouble then '"' else '\''

def quotedChar (quote c : Char) : List Char :=
  if c == quote || c == '\\' then ['\\', c]
  else if c == '\n' then ['\\', 'n']
  else if c == '\r' then ['\\', 'r']
  else if c == '\t' then ['\\', 't']
  else if isPrintable c then [c]
  else if c.toNat < 0x100 then '\\' :: 'x' :: hexPadded 2 c.toNat
  else if c.toNat < 0x10000 then '\\' :: 'u' :: hexPadded 4 c.toNat
  else '\\' :: 'U' :: hexPadded 8 c.toNat

def quotedChars (text : List Char) : List Char :=
  let quote := quoteFor (text.contains '\'') (text.contains '"')
  quote :: text.flatMap (quotedChar quote) ++ [quote]

def quoted (s : String) : String :=
  String.ofList (quotedChars s.toList)

def quotedCodes (codes : List Nat) : String :=
  let quote := quoteFor (codes.contains 39) (codes.contains 34)
  let item (code : Nat) : List Char :=
    if isSurrogate code then '\\' :: 'u' :: hexPadded 4 code else quotedChar quote (Char.ofNat code)
  String.ofList (quote :: codes.flatMap item ++ [quote])

def quotedByte (quote : Char) (b : UInt8) : List Char :=
  let c := Char.ofNat b.toNat
  if c == quote || c == '\\' then ['\\', c]
  else if c == '\n' then ['\\', 'n']
  else if c == '\r' then ['\\', 'r']
  else if c == '\t' then ['\\', 't']
  else if 0x20 ≤ b && b < 0x7F then [c]
  else '\\' :: 'x' :: hexByte b

def quotedBytes (data : List UInt8) : String :=
  let quote := quoteFor (data.contains 0x27) (data.contains 0x22)
  String.ofList ('b' :: quote :: data.flatMap (quotedByte quote) ++ [quote])

end TextProtocol.Text
