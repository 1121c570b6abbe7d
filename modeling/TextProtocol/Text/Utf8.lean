/-!
# UTF-8

Encoding of text to bytes, and two readings of bytes as text: the strict one, which refuses
anything that is not UTF-8, and the lenient one, which shows each maximal part that cannot begin
or continue a character as one replacement character.

Both readings go through `next`, which takes the first character off a byte string together with
what is left.
-/

namespace TextProtocol.Utf8

def encodeChar (c : Char) : List UInt8 :=
  let n := c.toNat
  if n < 0x80 then [UInt8.ofNat n]
  else if n < 0x800 then
    [UInt8.ofNat (0xC0 + n / 0x40), UInt8.ofNat (0x80 + n % 0x40)]
  else if n < 0x10000 then
    [UInt8.ofNat (0xE0 + n / 0x1000), UInt8.ofNat (0x80 + n / 0x40 % 0x40),
      UInt8.ofNat (0x80 + n % 0x40)]
  else
    [UInt8.ofNat (0xF0 + n / 0x40000), UInt8.ofNat (0x80 + n / 0x1000 % 0x40),
      UInt8.ofNat (0x80 + n / 0x40 % 0x40), UInt8.ofNat (0x80 + n % 0x40)]

def encode (text : List Char) : List UInt8 :=
  text.flatMap encodeChar

def ofString (s : String) : List UInt8 :=
  encode s.toList

def isTail (b : UInt8) : Bool :=
  0x80 ≤ b && b ≤ 0xBF

/-- The least and the greatest byte that may follow the first byte of a longer character. -/
def secondRange (b : UInt8) : UInt8 × UInt8 :=
  if b == 0xE0 then (0xA0, 0xBF)
  else if b == 0xED then (0x80, 0x9F)
  else if b == 0xF0 then (0x90, 0xBF)
  else if b == 0xF4 then (0x80, 0x8F)
  else (0x80, 0xBF)

def isSecond (b t : UInt8) : Bool :=
  (secondRange b).1 ≤ t && t ≤ (secondRange b).2

/-- The first character of `b :: rest` and what follows it; `none` when the bytes do not begin with
a character, and then what follows the longest part that could have begun one. -/
def next (b : UInt8) (rest : List UInt8) : Option Char × List UInt8 :=
  if b < 0x80 then (some (Char.ofNat b.toNat), rest)
  else if 0xC2 ≤ b && b ≤ 0xDF then
    match rest with
    | t :: r =>
      if isTail t then
        (some (Char.ofNat ((b.toNat - 0xC0) * 0x40 + (t.toNat - 0x80))), r)
      else (none, t :: r)
    | [] => (none, [])
  else if 0xE0 ≤ b && b ≤ 0xEF then
    match rest with
    | t :: r =>
      if isSecond b t then
        match r with
        | u :: r' =>
          if isTail u then
            (some (Char.ofNat ((b.toNat - 0xE0) * 0x1000 + (t.toNat - 0x80) * 0x40
              + (u.toNat - 0x80))), r')
          else (none, u :: r')
        | [] => (none, [])
      else (none, t :: r)
    | [] => (none, [])
  else if 0xF0 ≤ b && b ≤ 0xF4 then
    match rest with
    | t :: r =>
      if isSecond b t then
        match r with
        | u :: r' =>
          if isTail u then
            match r' with
            | v :: r'' =>
              if isTail v then
                (some (Char.ofNat ((b.toNat - 0xF0) * 0x40000 + (t.toNat - 0x80) * 0x1000
                  + (u.toNat - 0x80) * 0x40 + (v.toNat - 0x80))), r'')
              else (none, v :: r'')
            | [] => (none, [])
          else (none, u :: r')
        | [] => (none, [])
      else (none, t :: r)
    | [] => (none, [])
  else (none, rest)

theorem next_length (b : UInt8) (rest : List UInt8) : (next b rest).2.length ≤ rest.length := by
  unfold next
  repeat' split
  all_goals simp <;> omega

def decode? : List UInt8 → Option (List Char)
  | [] => some []
  | b :: rest =>
    match h : next b rest with
    | (some c, rest') =>
      have : rest'.length ≤ rest.length := by simpa [h] using next_length b rest
      (decode? rest').map (c :: ·)
    | (none, _) => none
termination_by data => data.length
decreasing_by simp; omega

def replacement : Char := Char.ofNat 0xFFFD

/-- The text of the bytes, with one replacement character for each part that is no character. -/
def decodeLenient : List UInt8 → List Char
  | [] => []
  | b :: rest =>
    have := next_length b rest
    (next b rest).1.getD replacement :: decodeLenient (next b rest).2
termination_by data => data.length
decreasing_by simp; omega

end TextProtocol.Utf8
