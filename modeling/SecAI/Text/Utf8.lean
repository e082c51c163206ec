/-
Module: SecAI.Text.Utf8
Purpose: Reading bytes as UTF-8, where whatever is no text is replaced or
  refused.
Trusted boundary: none
Main exports:
  decodeReplacing, decodeStrict
-/
import Mathlib.Data.List.Basic

namespace SecAI.Text

def replacementCharacter : Char := Char.ofNat 0xFFFD

/-- A sequence whose first bytes have been read: how many are still to come,
the bits read so far, and the bounds of the next byte. -/
structure Partial where
  missing : Nat
  bits : Nat
  low : Nat
  high : Nat

/-- What one byte does: the characters that are complete with it, and the
sequence that it begins or continues. -/
abbrev Progress := List Char × Option Partial

/-- A byte at the start of a sequence. -/
def startSequence (code : Nat) : Progress :=
  if code < 0x80 then ([Char.ofNat code], none)
  else if code < 0xC2 then ([replacementCharacter], none)
  else if code < 0xE0 then
    ([], some { missing := 0, bits := code - 0xC0, low := 0x80, high := 0xBF })
  else if code < 0xF0 then
    ([], some
      { missing := 1
        bits := code - 0xE0
        low := if code = 0xE0 then 0xA0 else 0x80
        high := if code = 0xED then 0x9F else 0xBF })
  else if code < 0xF5 then
    ([], some
      { missing := 2
        bits := code - 0xF0
        low := if code = 0xF0 then 0x90 else 0x80
        high := if code = 0xF4 then 0x8F else 0xBF })
  else ([replacementCharacter], none)

/-- A byte inside a sequence; one that does not belong there ends it, and
starts the next. -/
def continueSequence (begun : Partial) (code : Nat) : Progress :=
  if begun.low ≤ code ∧ code ≤ begun.high then
    match begun.missing with
    | 0 => ([Char.ofNat (begun.bits * 64 + (code - 0x80))], none)
    | missing + 1 =>
        ([], some
          { missing := missing
            bits := begun.bits * 64 + (code - 0x80)
            low := 0x80
            high := 0xBF })
  else
    (replacementCharacter :: (startSequence code).1, (startSequence code).2)

/-- One byte, inside or outside of a sequence. -/
def readByte : Option Partial → UInt8 → Progress
  | none, byte => startSequence byte.toNat
  | some begun, byte => continueSequence begun byte.toNat

/-- The characters of the bytes behind those that have been read. -/
def decodeFrom : Option Partial → List UInt8 → List Char
  | none, [] => []
  | some _, [] => [replacementCharacter]
  | begun, byte :: bytes =>
      (readByte begun byte).1 ++ decodeFrom (readByte begun byte).2 bytes

/-- `bytes.decode("utf-8", errors="replace")`. -/
def decodeReplacing (bytes : List UInt8) : List Char :=
  decodeFrom none bytes

/-- The byte begins or continues a sequence. -/
def acceptsByte : Option Partial → UInt8 → Bool
  | none, byte =>
      decide (byte.toNat < 0x80) ||
        decide (0xC2 ≤ byte.toNat ∧ byte.toNat < 0xF5)
  | some begun, byte =>
      decide (begun.low ≤ byte.toNat ∧ byte.toNat ≤ begun.high)

/-- The characters of the bytes behind those that have been read, if they are
a text. -/
def decodeStrictFrom : Option Partial → List UInt8 → Option (List Char)
  | none, [] => some []
  | some _, [] => none
  | begun, byte :: bytes =>
      if acceptsByte begun byte then
        (decodeStrictFrom (readByte begun byte).2 bytes).map
          ((readByte begun byte).1 ++ ·)
      else none

/-- `bytes.decode("utf-8")`; `none` for a `UnicodeDecodeError`. -/
def decodeStrict (bytes : List UInt8) : Option (List Char) :=
  decodeStrictFrom none bytes

end SecAI.Text
