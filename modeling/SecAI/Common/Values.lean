/-
Module: SecAI.Common.Values
Purpose: Identifiers and instants shared by the services.
Trusted boundary: none
Main exports:
  Uuid, Uuid.text, DateTime, minutes
-/
import Mathlib.Data.Int.Basic

namespace SecAI

/-- A UUID, by its 128-bit value. -/
structure Uuid where
  value : Nat
deriving Inhabited, DecidableEq

/-- The comparison of texts decides their equality. -/
instance lawfulBEqText : LawfulBEq (List Char) := List.instLawfulBEq

/-- The lowercase hexadecimal digit of a number below sixteen. -/
def hexDigit (digit : Nat) : Char :=
  if digit < 10 then Char.ofNat (48 + digit) else Char.ofNat (87 + digit)

/-- `str(uuid)`. -/
def Uuid.text (uuid : Uuid) : String :=
  let digits := (List.range 32).map fun place =>
    hexDigit ((uuid.value >>> (4 * (31 - place))) % 16)
  String.ofList (digits.take 8 ++ ['-'] ++ (digits.drop 8).take 4 ++ ['-'] ++
    (digits.drop 12).take 4 ++ ['-'] ++ (digits.drop 16).take 4 ++ ['-'] ++
    digits.drop 20)

/-- A timezone-aware instant, in microseconds of UTC. -/
abbrev DateTime := Int

/-- `timedelta(seconds=n)`. -/
def seconds (count : Int) : Int := count * 1000000

/-- `timedelta(minutes=n)`. -/
def minutes (count : Int) : Int := seconds (count * 60)

/-- `timedelta(hours=n)`. -/
def hours (count : Int) : Int := minutes (count * 60)

/-- `timedelta(days=n)`. -/
def days (count : Int) : Int := hours (count * 24)

end SecAI
