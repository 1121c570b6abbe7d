/-!
# Code points

A text is a row of characters and has bytes. What documents and callers hand over may also hold
surrogates: code points that are no characters and have no bytes. A text with surrogates is known by
its code points alone.
-/

namespace TextProtocol.Text

def codes (s : String) : List Nat :=
  s.toList.map Char.toNat

def isSurrogate (code : Nat) : Bool :=
  0xD800 ≤ code && code < 0xE000

/-- A text that holds a surrogate, by its code points. -/
structure Unpaired where
  codes : List Nat
  holds : codes.any isSurrogate = true
  deriving DecidableEq, Repr

def replacement (code : Nat) : Char :=
  if isSurrogate code then '�' else Char.ofNat code

namespace Unpaired

def readable (t : Unpaired) : String :=
  String.ofList (t.codes.map replacement)

end Unpaired

/-- Code points in order of the first different one. -/
def codesLt : List Nat → List Nat → Bool
  | _, [] => false
  | [], _ :: _ => true
  | a :: as, b :: bs => if a == b then codesLt as bs else a < b

end TextProtocol.Text
