import TextProtocol.Text.Utf8

/-!
# Searching for separators

A field on the wire ends at the earliest of its stops. A value may be written only if none of the
field's stops would be found before the end of the value, also where a stop begins in the value and
runs on into the stop that follows it.
-/

namespace TextProtocol

abbrev Bytes := List UInt8

namespace Wire

def indexOf? (pattern : Bytes) : Bytes → Option Nat
  | [] => if pattern.isEmpty then some 0 else none
  | b :: rest =>
    if pattern.isPrefixOf (b :: rest) then some 0
    else (indexOf? pattern rest).map (· + 1)

/-- The place that a position in data of some length stands for: a position below zero counts from
the end, and one before the beginning is the beginning. -/
def placeOf (length : Nat) (position : Int) : Nat :=
  if position < 0 then (position + length).toNat else position.toNat

/-- A position from the beginning is its own place. -/
@[simp] theorem placeOf_natCast (length n : Nat) : placeOf length n = n := by
  simp [placeOf, Int.not_lt.mpr (Int.natCast_nonneg n)]

def between (data : Bytes) (start stop : Int) : Bytes :=
  let first := placeOf data.length start
  (data.drop first).take (placeOf data.length stop - first)

def standsAt (data : Bytes) (position : Int) (pattern : Bytes) : Bool :=
  let place := placeOf data.length position
  place ≤ data.length && pattern.isPrefixOf (data.drop place)

/-- The place of the first occurrence of a pattern at `start` or later. -/
def indexFrom? (pattern data : Bytes) (start : Int) : Option Nat :=
  let place := placeOf data.length start
  if place ≤ data.length then (indexOf? pattern (data.drop place)).map (· + place) else none

def earlier : Option Nat → Option Nat → Option Nat
  | some a, some b => some (min a b)
  | some a, none => some a
  | none, b => b

def findStop (data : Bytes) (start : Int) (stops : List Bytes) : Option Nat :=
  stops.foldl (fun best stop ↦ earlier best (indexFrom? stop data start)) none

/-- Whether a stop that follows a value would be found before the end of the value. -/
def hidesStop (raw stop : Bytes) : Bool :=
  (indexOf? stop (raw ++ stop)).any (· < raw.length)

def hiddenStop? (raw : Bytes) (stops : List Bytes) : Option Bytes :=
  stops.find? (hidesStop raw)

end Wire

end TextProtocol
