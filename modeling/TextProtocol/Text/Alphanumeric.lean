import TextProtocol.Text.Digit
import TextProtocol.Text.Identifier

/-!
# Letters and numbers

Characters that are letters or numbers of any script. Letters are what an identifier may begin with,
but for a few signs; numbers are digits and numerals. With the underscore they are the word
characters of patterns. The tables are those of Unicode 14.
-/

namespace TextProtocol.Text

def startingSigns : List Nat :=
  [0x1885, 0x1886, 0x2118, 0x212E]

/-- The numbers that are neither digits nor letters. -/
def numerals : CodeSet := ⟨
  [188,3,699,1,1657,6,376,6,120,3,133,7,217,7,17,9,186,1,127,1,118,10,1086,11,1139,10,2390,16,41,1,
   735,11,9,11,9,11,79,10,9,1,640,1,9,1,9,1,1385,1,305,1,866,4,138,10,30,8,1,15,32,10,39,15,30064,
   6,21544,6,406,2,116,1,1,1,1,1,1,1,1,1,1,1,1,1,1,1,287,2,359,45,65,4,17,2,341,27,36,4,1332,8,25,
   7,39,9,75,5,22,6,160,2,2,16,2,46,68,5,52,2,30,3,75,5,104,8,24,8,41,7,330,6,361,22,158,10,42,4,
   112,7,143,11,379,20,1349,2,430,9,871,19,851,21,19334,7,798,23,25673,20,108,25,5454,9,929,59,1,3,
   1,4,76,45,1,15,973,2]⟩

def isAlphanumeric (c : Char) : Bool :=
  if c.toNat < 128 then c.isAlphanum
  else identifierStarts.has c && !startingSigns.contains c.toNat || digits.has c || numerals.has c

/-- Whether a character is a letter, a number or the underscore. -/
def isWordChar (c : Char) : Bool :=
  isAlphanumeric c || c == '_'

end TextProtocol.Text
