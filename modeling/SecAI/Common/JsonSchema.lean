/-
Module: SecAI.Common.JsonSchema
Purpose: The keywords of JSON Schema, draft 2020-12, as checks of documents.
Trusted boundary: none
Main exports:
  Schema, properties, required, closed
-/
import SecAI.Package.Json
import Mathlib.Data.Rat.Defs
import Mathlib.Algebra.Order.Ring.Nat

namespace SecAI.JsonSchema

/-- A schema, by the documents it accepts. -/
abbrev Schema := Json → Bool

def doubleValue (bits : UInt64) : Option Rat :=
  let exponent := (bits.toNat >>> 52) % 2048
  let fraction := bits.toNat % 4503599627370496
  let sign : Rat := if bits.toNat < 9223372036854775808 then 1 else -1
  if exponent = 2047 then none
  else if exponent = 0 then some (sign * mkRat fraction (2 ^ 1074))
  else
    let mantissa : Rat := (fraction + 4503599627370496 : Nat)
    if 1075 ≤ exponent then some (sign * mantissa * (2 : Rat) ^ (exponent - 1075))
    else some (sign * mantissa / (2 : Rat) ^ (1075 - exponent))

def numberValue : Json → Option Rat
  | .int value => some value
  | .float bits => doubleValue bits
  | _ => none

/-- `type: string`. -/
def isString : Schema
  | .str _ => true
  | _ => false

/-- `type: boolean`. -/
def isBoolean : Schema
  | .bool _ => true
  | _ => false

/-- `type: null`. -/
def isNull : Schema
  | .null => true
  | _ => false

/-- `type: array`. -/
def isArray : Schema
  | .arr _ => true
  | _ => false

/-- `type: object`. -/
def isObject : Schema
  | .obj _ => true
  | _ => false

/-- `type: integer`: a float without a fraction is one. -/
def isInteger : Schema
  | .int _ => true
  | .float bits =>
      match doubleValue bits with
      | some value => decide (value.den = 1)
      | none => false
  | _ => false

def const (value : Json) : Schema := fun document =>
  decide (document = value)

/-- `enum`, of strings. -/
def oneString (values : List String) : Schema
  | .str value => decide (value ∈ values)
  | _ => false

/-- `minimum` and `maximum`. -/
def between (minimum maximum : Int) : Schema := fun document =>
  match numberValue document with
  | some value => decide ((minimum : Rat) ≤ value ∧ value ≤ (maximum : Rat))
  | none => true

def minLength (bound : Nat) : Schema
  | .str value => decide (bound ≤ value.length)
  | _ => true

def maxLength (bound : Nat) : Schema
  | .str value => decide (value.length ≤ bound)
  | _ => true

/-- `pattern`, by the strings in which the expression is found. -/
def pattern (found : String → Bool) : Schema
  | .str value => found value
  | _ => true

def items (schema : Schema) : Schema
  | .arr values => values.all schema
  | _ => true

def minItems (bound : Nat) : Schema
  | .arr values => decide (bound ≤ values.length)
  | _ => true

def maxItems (bound : Nat) : Schema
  | .arr values => decide (values.length ≤ bound)
  | _ => true

def uniqueItems : Schema
  | .arr values => decide values.Nodup
  | _ => true

def contains (schema : Schema) : Schema
  | .arr values => values.any schema
  | _ => true

def properties (members : List (String × Schema)) : Schema
  | .obj values => members.all fun entry =>
      match (Json.obj values).member entry.1 with
      | some value => entry.2 value
      | none => true
  | _ => true

def required (keys : List String) : Schema
  | .obj values => keys.all fun key => ((Json.obj values).member key).isSome
  | _ => true

/-- `additionalProperties: false`, and `unevaluatedProperties: false` of a
schema whose parts name these properties. -/
def closed (keys : List String) : Schema
  | .obj values => values.all fun entry => decide (entry.1 ∈ keys)
  | _ => true

/-- `additionalProperties`, where no property is named. -/
def additionalProperties (schema : Schema) : Schema
  | .obj values => values.all fun entry => schema entry.2
  | _ => true

def propertyNames (found : String → Bool) : Schema
  | .obj values => values.all fun entry => found entry.1
  | _ => true

def maxProperties (bound : Nat) : Schema
  | .obj values => decide (values.length ≤ bound)
  | _ => true

/-- `allOf`, and the keywords of one schema. -/
def allOf (schemas : List Schema) : Schema := fun document =>
  schemas.all fun schema => schema document

def anyOf (schemas : List Schema) : Schema := fun document =>
  schemas.any fun schema => schema document

def oneOf (schemas : List Schema) : Schema := fun document =>
  decide ((schemas.filter fun schema => schema document).length = 1)

/-- `not`. -/
def negated (schema : Schema) : Schema := fun document => !schema document

/-- `if` and `then`. -/
def ifThen (condition consequence : Schema) : Schema := fun document =>
  !condition document || consequence document

/-- `if`, `then` and `else`. -/
def ifThenElse (condition consequence alternative : Schema) : Schema :=
  fun document =>
    if condition document then consequence document else alternative document

/-- An expression `^…$`: `$` also stands before a last newline. -/
def anchored (whole : List Char → Bool) (text : String) : Bool :=
  whole text.toList ||
    (decide (text.toList.getLast? = some '\n') && whole text.toList.dropLast)

/-- `[0-9]`. -/
def isDigit (character : Char) : Bool :=
  decide ('0' ≤ character ∧ character ≤ '9')

/-- `[A-Za-z]`. -/
def isLetter (character : Char) : Bool :=
  decide ('a' ≤ character ∧ character ≤ 'z') ||
    decide ('A' ≤ character ∧ character ≤ 'Z')

/-- Between `minimum` and `maximum` characters of a class. -/
def charactersOf (isMember : Char → Bool) (minimum maximum : Nat)
    (text : List Char) : Bool :=
  decide (minimum ≤ text.length ∧ text.length ≤ maximum) && text.all isMember

theorem nonempty_of_schema {schema : Schema} {text : String}
    (rejects : schema (.str "") = false) (accepted : schema (.str text) = true) :
    text ≠ "" := by
  rintro rfl
  rw [rejects] at accepted
  cases accepted

end SecAI.JsonSchema
