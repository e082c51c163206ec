/-
Module: SecAI.Credential.Token
Purpose: The format check of a presented collector token.
Trusted boundary: the Unicode database is a parameter
Main exports:
  UnicodeDigits, uuidAccepts, base64Length, splitToken
-/
import Mathlib.Data.List.SplitOn

namespace SecAI.Credential

inductive CollectorCredentialCode where
  | malformed
  | invalid
  | expired
  | revoked
  | alreadyUsed
  | attemptsExceeded
  | scopeMismatch
  | nonceReplayed

/-- Exceptions that leave a credential call. -/
inductive CredentialError where
  | credential (code : CollectorCredentialCode) (message : String)
  /-- A `ValueError` of the store. -/
  | value (message : String)
  /-- `str.encode("ascii")` on a text that is not ASCII. -/
  | unicodeEncode

/-- What `int` reads of the Unicode database outside ASCII. -/
structure UnicodeDigits where
  isSpace : Char → Bool
  decimalDigit : Char → Option Nat

/-- `text.replace(needle, "")`; `skip` characters of a match are left. -/
def removeText (needle : List Char) : Nat → List Char → List Char
  | _, [] => []
  | skip + 1, _ :: tail => removeText needle skip tail
  | 0, head :: tail =>
      if needle.isPrefixOf (head :: tail) then
        removeText needle (needle.length - 1) tail
      else head :: removeText needle 0 tail

/-- `text.strip("{}")`. -/
def stripBraces (text : List Char) : List Char :=
  let isBrace (character : Char) : Bool :=
    decide (character.toNat = 0x7b) || decide (character.toNat = 0x7d)
  ((text.dropWhile isBrace).reverse.dropWhile isBrace).reverse

/-- `Py_ISSPACE`. -/
def isAsciiSpace (character : Char) : Bool :=
  decide (character = ' ') ||
    decide (9 ≤ character.toNat ∧ character.toNat ≤ 13)

def isHexDigit (character : Char) : Bool :=
  decide ('0' ≤ character ∧ character ≤ '9') ||
    decide ('a' ≤ character ∧ character ≤ 'f') ||
    decide ('A' ≤ character ∧ character ≤ 'F')

/-- Decimal digits and blanks as `int` sees them; any other character outside
ASCII ends the number in error. -/
def transformDecimalAndSpace (unicode : UnicodeDigits) (text : List Char) :
    List Char :=
  if text.all fun character => decide (character.toNat < 128) then text
  else text.map fun character =>
    if character.toNat < 127 then character
    else if unicode.isSpace character then ' '
    else
      match unicode.decimalDigit character with
      | some digit => Char.ofNat (48 + digit)
      | none => '?'

/-- The digits of a number, with single underscores between them, up to the
first other character. -/
def scanHexDigits : (afterUnderscore : Bool) → List Char → Option (List Char)
  | afterUnderscore, [] => if afterUnderscore then none else some []
  | afterUnderscore, head :: tail =>
      if isHexDigit head then scanHexDigits false tail
      else if head = '_' then
        if afterUnderscore then none else scanHexDigits true tail
      else if afterUnderscore then none else some (head :: tail)

def dropSign : List Char → List Char
  | '+' :: tail | '-' :: tail => tail
  | text => text

/-- Drop a base prefix, after which one underscore is allowed. -/
def dropBasePrefix : List Char → List Char
  | '0' :: 'x' :: '_' :: tail | '0' :: 'X' :: '_' :: tail => tail
  | '0' :: 'x' :: tail | '0' :: 'X' :: tail => tail
  | text => text

/-- `int(text, 16)` accepts the text. -/
def hexIntegerAccepts (unicode : UnicodeDigits) (text : List Char) : Bool :=
  let number := dropBasePrefix (dropSign
    ((transformDecimalAndSpace unicode text).dropWhile isAsciiSpace))
  match number with
  | [] => false
  | head :: _ =>
      isHexDigit head &&
        match scanHexDigits false number with
        | some tail => tail.all isAsciiSpace
        | none => false

/-- `UUID(text)` accepts the text. -/
def uuidAccepts (unicode : UnicodeDigits) (text : String) : Bool :=
  let bare := removeText ['-'] 0 (stripBraces
    (removeText "uuid:".toList 0 (removeText "urn:".toList 0 text.toList)))
  decide (bare.length = 32) && hexIntegerAccepts unicode bare

/-- A character of the base64 alphabet, in either of its two spellings. -/
def isBase64 (character : Char) : Bool :=
  decide ('0' ≤ character ∧ character ≤ '9') ||
    decide ('a' ≤ character ∧ character ≤ 'z') ||
    decide ('A' ≤ character ∧ character ≤ 'Z') ||
    ['+', '/', '-', '_'].contains character

/-- How many bytes the tolerant decoder reads from an ASCII text: `quad` is
the position in the current group of four, `pads` the padding seen since the
last data character.  Other characters are skipped, and a completed padding
ends the data. -/
def base64Length (quad pads bytes : Nat) : List Char → Option Nat
  | [] => if quad = 0 then some bytes else none
  | head :: tail =>
      if head = '=' then
        if 2 ≤ quad then
          if 4 ≤ quad + (pads + 1) then some bytes
          else base64Length quad (pads + 1) bytes tail
        else base64Length quad pads bytes tail
      else if isBase64 head then
        base64Length ((quad + 1) % 4) 0
          (if quad = 0 then bytes else bytes + 1) tail
      else base64Length quad pads bytes tail

/-- The number of bytes a padded text decodes to, if it decodes. -/
def decodedLength (text : String) : Option Nat :=
  let padded := text.toList ++
    List.replicate ((4 - text.length % 4) % 4) '='
  if padded.all fun character => decide (character.toNat < 128) then
    base64Length 0 0 0 padded
  else none

def credentialScheme : String := "secai_job_v1"

/-- The refusal of `_split_token`. -/
def malformed : CredentialError :=
  .credential .malformed "Collector credential format is invalid."

/-- `_split_token`: the credential identifier a token names. -/
def splitToken (unicode : UnicodeDigits) (token : String) :
    Except CredentialError String :=
  match (token.toList.splitOn '.').map String.ofList with
  | [scheme, credentialId, secret] =>
      if scheme ≠ credentialScheme then .error malformed
      else if uuidAccepts unicode credentialId = false then .error malformed
      else if decodedLength secret ≠ some 32 then .error malformed
      else .ok credentialId
  | _ => .error malformed

end SecAI.Credential
