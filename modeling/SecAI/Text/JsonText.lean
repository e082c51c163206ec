/-
Module: SecAI.Text.JsonText
Purpose: The JSON texts that `json.dumps` writes and `json.loads` reads, over
  strings of code points that need not be scalar values.
Trusted boundary: which number literals are accepted is a parameter; the
  nesting stays within the recursion limit
Main exports:
  CodePoint, joinPairs, NoPair, JsonText
-/
import Mathlib.Data.List.Chain
import SecAI.Common.Values
import SecAI.Text.Characters

namespace SecAI.Text

/-! ## Code points -/

/-- A code point: what a Python `str` consists of. -/
abbrev CodePoint := Fin 0x110000

/-- The comparison of texts decides their equality. -/
instance lawfulBEqPoints : LawfulBEq (List CodePoint) := List.instLawfulBEq

namespace CodePoint

def ofNat (number : Nat) : CodePoint := Fin.ofNat 0x110000 number

def ofChar (character : Char) : CodePoint := ofNat character.toNat

def isHigh (point : CodePoint) : Bool :=
  decide (0xD800 ≤ point.val ∧ point.val ≤ 0xDBFF)

def isLow (point : CodePoint) : Bool :=
  decide (0xDC00 ≤ point.val ∧ point.val ≤ 0xDFFF)

/-- The code point that a pair of surrogates stands for. -/
def join (high low : CodePoint) : CodePoint :=
  ofNat (0x10000 + (high.val - 0xD800) * 0x400 + (low.val - 0xDC00))

/-- The surrogates that a code point above the first plane is written as. -/
def highOf (point : CodePoint) : Nat := 0xD800 + (point.val - 0x10000) / 0x400

def lowOf (point : CodePoint) : Nat := 0xDC00 + (point.val - 0x10000) % 0x400

/-- The code point as a character.  A lone surrogate is shown as the
replacement character: it is in the same classes of characters. -/
def shown (point : CodePoint) : Char :=
  if point.isHigh || point.isLow then '\uFFFD' else Char.ofNat point.val

end CodePoint

def points (text : List Char) : List CodePoint := text.map CodePoint.ofChar

/-- Every pair of surrogates becomes the code point it stands for. -/
def joinPairs : List CodePoint → List CodePoint
  | [] => []
  | [point] => [point]
  | high :: low :: rest =>
      if high.isHigh && low.isLow then high.join low :: joinPairs rest
      else high :: joinPairs (low :: rest)

/-- No high surrogate stands directly before a low one. -/
def NoPair (text : List CodePoint) : Prop :=
  text.IsChain fun first second => ¬(first.isHigh = true ∧ second.isLow = true)

/-- A decoded JSON document; the members of an object are in the order of the
text. -/
inductive JsonText where
  | null
  | bool (value : Bool)
  | number (literal : List Char)
  | string (content : List CodePoint)
  | array (items : List JsonText)
  | object (members : List (List CodePoint × JsonText))

/-! ## Writing -/

section Writing

def hexUnit (number : Nat) : List Char :=
  [hexDigit (number / 4096 % 16), hexDigit (number / 256 % 16),
    hexDigit (number / 16 % 16), hexDigit (number % 16)]

/-- An escaped unit of sixteen bits. -/
def escapeUnit (number : Nat) : List Char := '\\' :: 'u' :: hexUnit number

/-- One code point as `ensure_ascii` writes it. -/
def escapePoint (point : CodePoint) : List Char :=
  if point.val = 0x22 then ['\\', '"']
  else if point.val = 0x5C then ['\\', '\\']
  else if point.val = 0xA then ['\\', 'n']
  else if point.val = 0xD then ['\\', 'r']
  else if point.val = 0x9 then ['\\', 't']
  else if point.val = 0xC then ['\\', 'f']
  else if point.val = 0x8 then ['\\', 'b']
  else if 0x20 ≤ point.val ∧ point.val ≤ 0x7E then [Char.ofNat point.val]
  else if point.val < 0x10000 then escapeUnit point.val
  else escapeUnit point.highOf ++ escapeUnit point.lowOf

/-- A string as `ensure_ascii` writes it, with its closing quote. -/
def dumpString (content : List CodePoint) : List Char :=
  '"' :: (content.flatMap escapePoint ++ ['"'])

mutual

/-- `json.dumps`. -/
def dumps : JsonText → List Char
  | .null => ['n', 'u', 'l', 'l']
  | .bool true => ['t', 'r', 'u', 'e']
  | .bool false => ['f', 'a', 'l', 's', 'e']
  | .number literal => literal
  | .string content => dumpString content
  | .array items => '[' :: (dumpItems items ++ [']'])
  | .object members => '{' :: (dumpMembers members ++ ['}'])

def dumpItems : List JsonText → List Char
  | [] => []
  | [item] => dumps item
  | item :: rest => dumps item ++ ',' :: ' ' :: dumpItems rest

def dumpMembers : List (List CodePoint × JsonText) → List Char
  | [] => []
  | [(key, value)] => dumpString key ++ ':' :: ' ' :: dumps value
  | (key, value) :: rest =>
      dumpString key ++ ':' :: ' ' :: (dumps value ++
        ',' :: ' ' :: dumpMembers rest)

end

end Writing

/-! ## Reading -/

section Reading

/-- The value of a hexadecimal digit. -/
def hexValue (character : Char) : Option Nat :=
  let code := character.toNat
  if 48 ≤ code ∧ code ≤ 57 then some (code - 48)
  else if 97 ≤ code ∧ code ≤ 102 then some (code - 87)
  else if 65 ≤ code ∧ code ≤ 70 then some (code - 55)
  else none

/-- The code point of four hexadecimal digits. -/
def unitPoint (first second third fourth : Char) : Option CodePoint := do
  let first ← hexValue first
  let second ← hexValue second
  let third ← hexValue third
  let fourth ← hexValue fourth
  return .ofNat (first * 4096 + second * 256 + third * 16 + fourth)

def simpleEscape : Char → Option CodePoint
  | '"' => some (.ofNat 0x22)
  | '\\' => some (.ofNat 0x5C)
  | '/' => some (.ofNat 0x2F)
  | 'b' => some (.ofNat 0x8)
  | 'f' => some (.ofNat 0xC)
  | 'n' => some (.ofNat 0xA)
  | 'r' => some (.ofNat 0xD)
  | 't' => some (.ofNat 0x9)
  | _ => none

/-- The units of a string behind its opening quote, and the text behind its
closing one. -/
def scanUnits : List Char → Option (List CodePoint × List Char)
  | [] => none
  | '"' :: rest => some ([], rest)
  | '\\' :: 'u' :: first :: second :: third :: fourth :: rest => do
      let point ← unitPoint first second third fourth
      let (content, rest) ← scanUnits rest
      return (point :: content, rest)
  | '\\' :: escaped :: rest => do
      let point ← simpleEscape escaped
      let (content, rest) ← scanUnits rest
      return (point :: content, rest)
  | character :: rest => do
      if character = '\\' ∨ character.toNat < 0x20 then none
      let (content, rest) ← scanUnits rest
      return (.ofChar character :: content, rest)

/-- A string behind its opening quote.  Characters are no surrogates, so that
only escaped units are joined. -/
def scanString (text : List Char) : Option (List CodePoint × List Char) :=
  (scanUnits text).map fun (content, rest) => (joinPairs content, rest)

/-- The text without the blanks of JSON at its start. -/
def skipBlanks (text : List Char) : List Char :=
  text.dropWhile fun character =>
    decide (character ∈ [' ', '\t', '\n', '\r'])

/-- The digits at the start of a text. -/
def scanDigits (text : List Char) : List Char × List Char :=
  (text.takeWhile Char.isDigit, text.dropWhile Char.isDigit)

/-- `(\.\d+)?`. -/
def scanFraction (text : List Char) : List Char × List Char :=
  match text with
  | '.' :: rest =>
      match scanDigits rest with
      | ([], _) => ([], text)
      | (digits, behind) => ('.' :: digits, behind)
  | _ => ([], text)

/-- `([eE][-+]?\d+)?`. -/
def scanExponent (text : List Char) : List Char × List Char :=
  match text with
  | letter :: rest =>
      if letter = 'e' ∨ letter = 'E' then
        let (sign, digitsAndRest) := match rest with
          | '-' :: behind => (['-'], behind)
          | '+' :: behind => (['+'], behind)
          | _ => ([], rest)
        match scanDigits digitsAndRest with
        | ([], _) => ([], text)
        | (digits, behind) => (letter :: (sign ++ digits), behind)
      else ([], text)
  | [] => ([], text)

/-- `-?(0|[1-9]\d*)` with a fraction and an exponent. -/
def scanNumber (text : List Char) : Option (List Char × List Char) :=
  let (sign, unsigned) := match text with
    | '-' :: rest => (['-'], rest)
    | _ => ([], text)
  let whole := match unsigned with
    | '0' :: rest => (['0'], rest)
    | _ => scanDigits unsigned
  match whole with
  | ([], _) => none
  | (digits, rest) =>
      let (fraction, rest) := scanFraction rest
      let (exponent, rest) := scanExponent rest
      some (sign ++ digits ++ fraction ++ exponent, rest)

/-- The text behind a word it starts with. -/
def behindWord (word text : List Char) : Option (List Char) :=
  if word.isPrefixOf text then some (text.drop word.length) else none

/-- `NaN`, `Infinity` and `-Infinity`. -/
def nonFinite : List (List Char) :=
  [['N', 'a', 'N'], ['I', 'n', 'f', 'i', 'n', 'i', 't', 'y'],
    ['-', 'I', 'n', 'f', 'i', 'n', 'i', 't', 'y']]

/-- `null`, `true`, `false`, and the numbers that JSON does not have. -/
def scanWord (text : List Char) : Option (JsonText × List Char) :=
  match behindWord ['n', 'u', 'l', 'l'] text with
  | some rest => some (.null, rest)
  | none =>
      match behindWord ['t', 'r', 'u', 'e'] text with
      | some rest => some (.bool true, rest)
      | none =>
          match behindWord ['f', 'a', 'l', 's', 'e'] text with
          | some rest => some (.bool false, rest)
          | none => nonFinite.findSome? fun word =>
              (behindWord word text).map fun rest => (.number word, rest)

variable (accepted : List Char → Bool)

mutual

/-- One value at the start of a text, and the text behind it. -/
def scanValue : Nat → List Char → Option (JsonText × List Char)
  | 0, _ => none
  | _ + 1, '"' :: rest =>
      (scanString rest).map fun (content, rest) => (.string content, rest)
  | fuel + 1, '{' :: rest =>
      match skipBlanks rest with
      | '}' :: rest => some (.object [], rest)
      | rest => (scanMembers fuel rest).map fun (members, rest) =>
          (.object members, rest)
  | fuel + 1, '[' :: rest =>
      match skipBlanks rest with
      | ']' :: rest => some (.array [], rest)
      | rest => (scanItems fuel rest).map fun (items, rest) =>
          (.array items, rest)
  | _ + 1, text =>
      match scanWord text with
      | some found => some found
      | none =>
          match scanNumber text with
          | some (literal, rest) =>
              if accepted literal then some (.number literal, rest) else none
          | none => none

/-- The items of an array up to its end. -/
def scanItems : Nat → List Char → Option (List JsonText × List Char)
  | 0, _ => none
  | fuel + 1, text =>
      match scanValue fuel text with
      | none => none
      | some (item, behind) =>
          match skipBlanks behind with
          | ']' :: rest => some ([item], rest)
          | ',' :: rest => (scanItems fuel (skipBlanks rest)).map
              fun (items, rest) => (item :: items, rest)
          | _ => none

/-- The members of an object up to its end. -/
def scanMembers :
    Nat → List Char → Option (List (List CodePoint × JsonText) × List Char)
  | fuel + 1, '"' :: text =>
      match scanString text with
      | none => none
      | some (key, behindKey) =>
          match skipBlanks behindKey with
          | ':' :: behindColon =>
              match scanValue fuel (skipBlanks behindColon) with
              | none => none
              | some (value, behind) =>
                  match skipBlanks behind with
                  | '}' :: rest => some ([(key, value)], rest)
                  | ',' :: rest => (scanMembers fuel (skipBlanks rest)).map
                      fun (members, rest) => ((key, value) :: members, rest)
                  | _ => none
          | _ => none
  | _, _ => none

end

/-- `json.loads`. -/
def loads (text : List Char) : Option JsonText :=
  match scanValue accepted (text.length + 1) (skipBlanks text) with
  | some (value, rest) => if skipBlanks rest = [] then some value else none
  | none => none

end Reading

/-! ## Strings -/

section Strings

variable {number : Nat}

theorem CodePoint.val_ofNat (small : number < 0x110000) :
    (CodePoint.ofNat number).val = number := Nat.mod_eq_of_lt small

theorem CodePoint.ofNat_val (point : CodePoint) :
    CodePoint.ofNat point.val = point :=
  Fin.ext (CodePoint.val_ofNat point.isLt)

theorem hexValue_hexDigit : ∀ digit < 16,
    hexValue (hexDigit digit) = some digit := by
  decide

theorem unitPoint_hexUnit (small : number < 0x10000) :
    unitPoint (hexDigit (number / 4096 % 16)) (hexDigit (number / 256 % 16))
      (hexDigit (number / 16 % 16)) (hexDigit (number % 16)) =
        some (.ofNat number) := by
  have sixteen : 0 < 16 := by decide
  simp only [unitPoint, hexValue_hexDigit _ (Nat.mod_lt _ sixteen)]
  have whole : number / 4096 % 16 * 4096 + number / 256 % 16 * 256 +
      number / 16 % 16 * 16 + number % 16 = number := by
    omega
  exact congrArg (fun total => some (CodePoint.ofNat total)) whole

/-- The units that a code point is escaped as. -/
def units (point : CodePoint) : List CodePoint :=
  if point.val < 0x10000 then [point]
  else [.ofNat point.highOf, .ofNat point.lowOf]

variable {content : List CodePoint}

theorem scanUnits_escapeUnit (small : number < 0x10000)
    {rest behind : List Char}
    (scanned : scanUnits rest = some (content, behind)) :
    scanUnits (escapeUnit number ++ rest) =
      some (.ofNat number :: content, behind) := by
  simp only [escapeUnit, hexUnit, List.cons_append, List.nil_append, scanUnits,
    unitPoint_hexUnit small, scanned]
  rfl

theorem scanUnits_simple {escaped : Char} {point : CodePoint}
    (isSimple : simpleEscape escaped = some point) (notUnit : escaped ≠ 'u')
    {rest behind : List Char} {content : List CodePoint}
    (scanned : scanUnits rest = some (content, behind)) :
    scanUnits ('\\' :: escaped :: rest) = some (point :: content, behind) := by
  rw [scanUnits]
  · rw [isSimple, scanned]
    rfl
  · intro first second third fourth others same
    exact absurd same notUnit

theorem scanUnits_plain {character : Char} (notQuote : character ≠ '"')
    (notEscape : character ≠ '\\') (printable : 0x20 ≤ character.toNat)
    {rest behind : List Char} {content : List CodePoint}
    (scanned : scanUnits rest = some (content, behind)) :
    scanUnits (character :: rest) =
      some (.ofChar character :: content, behind) := by
  rw [scanUnits]
  · rw [if_neg, scanned]
    · rfl
    · rintro (isEscape | control)
      · exact notEscape isEscape
      · exact Nat.not_lt_of_le printable control
  · exact notQuote
  · intro first second third fourth others isEscape
    exact absurd isEscape notEscape
  · intro escaped others isEscape
    exact absurd isEscape notEscape

theorem CodePoint.bounds (point : CodePoint) (astral : 0x10000 ≤ point.val) :
    (0xD800 ≤ point.highOf ∧ point.highOf ≤ 0xDBFF) ∧
      (0xDC00 ≤ point.lowOf ∧ point.lowOf ≤ 0xDFFF) := by
  have small := point.isLt
  rw [highOf, lowOf]
  omega

/-- An escaped code point is read as its units. -/
theorem scanUnits_escapePoint (point : CodePoint) {rest behind : List Char}
    (scanned : scanUnits rest = some (content, behind)) :
    scanUnits (escapePoint point ++ rest) =
      some (units point ++ content, behind) := by
  have small := point.isLt
  have simple : ∀ {number : Nat} {escaped : Char}, point.val = number →
      simpleEscape escaped = some (.ofNat number) → escaped ≠ 'u' →
      point.val < 0x10000 →
      scanUnits ('\\' :: escaped :: rest) =
        some (units point ++ content, behind) := by
    intro number escaped isNumber isSimple notUnit inPlane
    subst isNumber
    rw [scanUnits_simple isSimple notUnit scanned, CodePoint.ofNat_val, units,
      if_pos inPlane]
    rfl
  rw [escapePoint]
  split_ifs with quote escape _ _ _ _ _ printable inPlane
  iterate 7 exact simple ‹point.val = _› rfl (by decide) (by omega)
  · have number : (Char.ofNat point.val).toNat = point.val := by
      rw [Char.ofNat, dif_pos (.inl (by omega))]
      rfl
    have different : ∀ {other : Char}, point.val ≠ other.toNat →
        Char.ofNat point.val ≠ other := by
      intro other apart same
      rw [← same, number] at apart
      exact apart rfl
    rw [List.singleton_append, scanUnits_plain (different quote)
      (different escape) (by omega) scanned, CodePoint.ofChar, number,
      CodePoint.ofNat_val, units, if_pos (by omega)]
    rfl
  · rw [scanUnits_escapeUnit inPlane scanned, CodePoint.ofNat_val, units,
      if_pos inPlane]
    rfl
  · have bounds := point.bounds (by omega)
    rw [List.append_assoc, scanUnits_escapeUnit (by omega)
      (scanUnits_escapeUnit (by omega) scanned), units, if_neg inPlane]
    rfl

theorem scanUnits_escaped (content : List CodePoint) (rest : List Char) :
    scanUnits (content.flatMap escapePoint ++ '"' :: rest) =
      some (content.flatMap units, rest) := by
  induction content with
  | nil => rfl
  | cons point content ih =>
      rw [List.flatMap_cons, List.append_assoc,
        scanUnits_escapePoint point ih, List.flatMap_cons]

end Strings

/-! ## Pairs of surrogates -/

section Pairs

variable {rest : List CodePoint} {point : CodePoint}

theorem joinPairs_cons_of_not_high (notHigh : point.isHigh = false) :
    joinPairs (point :: rest) = point :: joinPairs rest := by
  cases rest with
  | nil => rfl
  | cons next rest => rw [joinPairs, notHigh, Bool.false_and, if_neg nofun]

theorem joinPairs_cons_of_not_low {next : CodePoint}
    (notLow : next.isLow = false) :
    joinPairs (point :: next :: rest) = point :: joinPairs (next :: rest) := by
  rw [joinPairs, notLow, Bool.and_false, if_neg nofun]

theorem joinPairs_pair {high low : CodePoint} (isHigh : high.isHigh = true)
    (isLow : low.isLow = true) :
    joinPairs (high :: low :: rest) = high.join low :: joinPairs rest := by
  rw [joinPairs, isHigh, isLow, Bool.and_self, if_pos rfl]

/-- The units of an astral code point are a pair that stands for it. -/
theorem units_astral (astral : ¬point.val < 0x10000) :
    ∃ high low, units point = [high, low] ∧ high.isHigh = true ∧
      high.isLow = false ∧ low.isLow = true ∧ high.join low = point ∧
      point.isHigh = false ∧ point.isLow = false := by
  have small := point.isLt
  have bounds := point.bounds (by omega)
  have highValue : (CodePoint.ofNat point.highOf).val = point.highOf :=
    CodePoint.val_ofNat (by omega)
  have lowValue : (CodePoint.ofNat point.lowOf).val = point.lowOf :=
    CodePoint.val_ofNat (by omega)
  refine ⟨.ofNat point.highOf, .ofNat point.lowOf, if_neg astral, ?_, ?_, ?_,
    ?_, ?_, ?_⟩
  · rw [CodePoint.isHigh, highValue, decide_eq_true_eq]
    exact bounds.1
  · rw [CodePoint.isLow, highValue, decide_eq_false_iff_not]
    omega
  · rw [CodePoint.isLow, lowValue, decide_eq_true_eq]
    exact bounds.2
  · have whole : 0x10000 + (point.highOf - 0xD800) * 0x400 +
        (point.lowOf - 0xDC00) = point.val := by
      rw [CodePoint.highOf, CodePoint.lowOf]
      omega
    rw [CodePoint.join, highValue, lowValue, whole, CodePoint.ofNat_val]
  · rw [CodePoint.isHigh, decide_eq_false_iff_not]
    omega
  · rw [CodePoint.isLow, decide_eq_false_iff_not]
    omega

/-- Joining the units joins the pairs of the code points themselves. -/
theorem joinPairs_units : ∀ content : List CodePoint,
    joinPairs (content.flatMap units) = joinPairs content
  | [] => rfl
  | point :: rest => by
      rw [List.flatMap_cons]
      by_cases inPlane : point.val < 0x10000
      · rw [units, if_pos inPlane, List.singleton_append]
        cases rest with
        | nil => rfl
        | cons next rest =>
            have later := joinPairs_units (next :: rest)
            rw [List.flatMap_cons] at later ⊢
            by_cases nextInPlane : next.val < 0x10000
            · have isUnit : units next = [next] := if_pos nextInPlane
              rw [isUnit, List.singleton_append] at later ⊢
              rw [joinPairs, joinPairs, later, joinPairs_units rest]
            obtain ⟨high, low, isUnits, _, notLow, _, _, _, nextNotLow⟩ :=
              units_astral nextInPlane
            rw [isUnits, List.cons_append] at later ⊢
            rw [joinPairs_cons_of_not_low notLow, later,
              joinPairs_cons_of_not_low nextNotLow]
      · obtain ⟨high, low, isUnits, isHigh, _, isLow, joined, notHigh, _⟩ :=
          units_astral inPlane
        rw [isUnits, List.cons_append, List.singleton_append,
          joinPairs_pair isHigh isLow, joined, joinPairs_units rest,
          joinPairs_cons_of_not_high notHigh]

theorem length_joinPairs_le : ∀ content : List CodePoint,
    (joinPairs content).length ≤ content.length
  | [] => Nat.le_refl 0
  | [_] => Nat.le_refl 1
  | high :: low :: rest => by
      have shorter := length_joinPairs_le rest
      have later := length_joinPairs_le (low :: rest)
      rw [joinPairs]
      split
      · simp only [List.length_cons]
        omega
      · simp only [List.length_cons] at later ⊢
        omega

/-- A string without pairs is left as it is, and no other one is. -/
theorem joinPairs_eq_self_iff : ∀ content : List CodePoint,
    joinPairs content = content ↔ NoPair content
  | [] => ⟨fun _ => .nil, fun _ => rfl⟩
  | [_] => ⟨fun _ => .singleton _, fun _ => rfl⟩
  | high :: low :: rest => by
      rw [joinPairs, NoPair, List.isChain_cons_cons, ← NoPair,
        ← joinPairs_eq_self_iff (low :: rest)]
      by_cases pair : high.isHigh = true ∧ low.isLow = true
      · rw [pair.1, pair.2, Bool.and_self, if_pos rfl]
        constructor
        · intro same
          have shorter := length_joinPairs_le rest
          have lengths := congrArg List.length same
          simp only [List.length_cons] at lengths
          omega
        · rintro ⟨noPair, _⟩
          exact (noPair ⟨rfl, rfl⟩).elim
      · rw [if_neg (by rwa [Bool.and_eq_true]), List.cons.injEq]
        constructor
        · rintro ⟨_, same⟩
          exact ⟨pair, same⟩
        · rintro ⟨_, same⟩
          exact ⟨rfl, same⟩

theorem joinPairs_ne_nil {content : List CodePoint} (filled : content ≠ []) :
    joinPairs content ≠ [] := by
  match content with
  | [] => exact absurd rfl filled
  | [_] => exact filled
  | high :: low :: rest =>
      rw [joinPairs]
      split <;> exact List.cons_ne_nil _ _

theorem scanString_dumped (content : List CodePoint) (rest : List Char) :
    scanString (content.flatMap escapePoint ++ '"' :: rest) =
      some (joinPairs content, rest) := by
  rw [scanString, scanUnits_escaped, Option.map_some]
  exact congrArg (fun joined => some (joined, rest)) (joinPairs_units content)

end Pairs

/-! ## Documents that are read back -/

section Documents

mutual

/-- A document of strings, truth values and objects. -/
def JsonText.Plain : JsonText → Prop
  | .null | .bool _ | .string _ => True
  | .number _ | .array _ => False
  | .object members => PlainMembers members

def PlainMembers : List (List CodePoint × JsonText) → Prop
  | [] => True
  | (_, value) :: rest => value.Plain ∧ PlainMembers rest

end

mutual

/-- The document with the pairs of its strings joined. -/
def JsonText.joined : JsonText → JsonText
  | .null => .null
  | .bool value => .bool value
  | .number literal => .number literal
  | .string content => .string (joinPairs content)
  | .array items => .array items
  | .object members => .object (joinedMembers members)

/-- The members with the pairs of their strings joined. -/
def joinedMembers :
    List (List CodePoint × JsonText) → List (List CodePoint × JsonText)
  | [] => []
  | (key, value) :: rest => (joinPairs key, value.joined) :: joinedMembers rest

end

variable {accepted : List Char → Bool}

theorem skipBlanks_cons {character : Char} {rest : List Char}
    (notBlank : character ∉ [' ', '\t', '\n', '\r']) :
    skipBlanks (character :: rest) = character :: rest :=
  List.dropWhile_cons_of_neg (by simpa using notBlank)

theorem skipBlanks_space (rest : List Char) :
    skipBlanks (' ' :: rest) = skipBlanks rest :=
  List.dropWhile_cons_of_pos (by decide)

/-- The text of a plain document starts with none of the marks that end or
separate one. -/
theorem dumps_head : ∀ {value : JsonText}, value.Plain →
    ∃ character text, dumps value = character :: text ∧
      character ∉ [' ', '\t', '\n', '\r', '}', ']', ',']
  | .null, _ => ⟨'n', _, rfl, by decide⟩
  | .bool true, _ => ⟨'t', _, rfl, by decide⟩
  | .bool false, _ => ⟨'f', _, rfl, by decide⟩
  | .string _, _ => ⟨'"', _, rfl, by decide⟩
  | .object _, _ => ⟨'{', _, rfl, by decide⟩

variable {value : JsonText}

theorem skipBlanks_dumps (plain : value.Plain) (rest : List Char) :
    skipBlanks (dumps value ++ rest) = dumps value ++ rest := by
  obtain ⟨character, text, isText, notMark⟩ := dumps_head plain
  rw [isText, List.cons_append]
  apply skipBlanks_cons
  intro blank
  apply notMark
  simp only [List.mem_cons, List.not_mem_nil, or_false] at blank ⊢
  tauto

/-- The text of one member and what stands behind its value. -/
def memberText (key : List CodePoint) (value : JsonText) (behind : List Char) :
    List Char :=
  '"' :: (key.flatMap escapePoint ++ '"' :: ':' :: ' ' ::
    (dumps value ++ behind))

theorem dumpMembers_single (key : List CodePoint) (value : JsonText)
    (behind : List Char) :
    dumpMembers [(key, value)] ++ behind = memberText key value behind := by
  simp [dumpMembers, dumpString, memberText]

variable {members : List (List CodePoint × JsonText)}

theorem dumpMembers_cons (key : List CodePoint) (value : JsonText)
    (filled : members ≠ []) (behind : List Char) :
    dumpMembers ((key, value) :: members) ++ behind =
      memberText key value (',' :: ' ' :: (dumpMembers members ++ behind)) := by
  cases members with
  | nil => exact absurd rfl filled
  | cons member members => simp [dumpMembers, dumpString, memberText]

theorem dumpMembers_head (filled : members ≠ []) :
    ∃ text, dumpMembers members = '"' :: text := by
  match members with
  | [] => exact absurd rfl filled
  | [(key, value)] =>
      exact ⟨_, (List.append_nil _).symm.trans (dumpMembers_single key value [])⟩
  | (key, value) :: other :: members =>
      exact ⟨_, (List.append_nil _).symm.trans
        (dumpMembers_cons key value (List.cons_ne_nil other members) [])⟩

theorem length_memberText (key : List CodePoint) (value : JsonText)
    (behind : List Char) :
    (dumps value).length + behind.length < (memberText key value behind).length := by
  simp only [memberText, List.length_cons, List.length_append]
  omega

theorem scanMembers_memberText {key : List CodePoint} {fuel : Nat}
    {behind : List Char} (plain : value.Plain)
    (read : scanValue accepted fuel (dumps value ++ behind) =
      some (value.joined, behind)) :
    scanMembers accepted (fuel + 1) (memberText key value behind) =
      match skipBlanks behind with
      | '}' :: rest => some ([(joinPairs key, value.joined)], rest)
      | ',' :: rest => (scanMembers accepted fuel (skipBlanks rest)).map
          fun (members, rest) =>
            ((joinPairs key, value.joined) :: members, rest)
      | _ => none := by
  rw [memberText, scanMembers, scanString_dumped]
  simp only [skipBlanks_cons (show ':' ∉ [' ', '\t', '\n', '\r'] by decide),
    skipBlanks_space, skipBlanks_dumps plain, read]

mutual

/-- A plain document is read back at the start of any text. -/
theorem scanValue_dumps : ∀ {value : JsonText}, value.Plain →
    ∀ (fuel : Nat) (rest : List Char), (dumps value).length ≤ fuel →
      scanValue accepted fuel (dumps value ++ rest) = some (value.joined, rest)
  | value, plain, 0, rest, short => by
      obtain ⟨character, text, isText, _⟩ := dumps_head plain
      rw [isText] at short
      cases short
  | .null, _, fuel + 1, rest, _ => by
      simp [dumps, scanValue, scanWord, behindWord, JsonText.joined]
  | .bool true, _, fuel + 1, rest, _ => by
      simp [dumps, scanValue, scanWord, behindWord, JsonText.joined]
  | .bool false, _, fuel + 1, rest, _ => by
      simp [dumps, scanValue, scanWord, behindWord, JsonText.joined]
  | .string content, _, fuel + 1, rest, _ => by
      rw [dumps, dumpString, List.cons_append, scanValue, List.append_assoc,
        List.singleton_append, scanString_dumped]
      rfl
  | .object [], _, fuel + 1, rest, _ => rfl
  | .object (member :: members), plain, fuel + 1, rest, short => by
      have filled : member :: members ≠ [] := List.cons_ne_nil _ _
      have read := scanMembers_dumps plain filled fuel rest (by
        rw [dumps, List.length_cons, List.length_append] at short
        omega)
      obtain ⟨text, isText⟩ := dumpMembers_head filled
      rw [dumps, List.cons_append, scanValue, List.append_assoc,
        List.singleton_append]
      rw [isText, List.cons_append] at read ⊢
      rw [skipBlanks_cons (by decide)]
      simp [read, JsonText.joined]

/-- So are the members of an object up to its end. -/
theorem scanMembers_dumps : ∀ {members : List (List CodePoint × JsonText)},
    PlainMembers members → members ≠ [] →
    ∀ (fuel : Nat) (rest : List Char), (dumpMembers members).length ≤ fuel →
      scanMembers accepted fuel (dumpMembers members ++ '}' :: rest) =
        some (joinedMembers members, rest)
  | [], _, filled, _, _, _ => absurd rfl filled
  | members, _, filled, 0, rest, short => by
      obtain ⟨text, isText⟩ := dumpMembers_head filled
      rw [isText] at short
      cases short
  | [(key, value)], plain, _, fuel + 1, rest, short => by
      have isText := dumpMembers_single key value []
      rw [List.append_nil] at isText
      have shorter := length_memberText key value []
      rw [← isText] at shorter
      rw [dumpMembers_single, scanMembers_memberText plain.1
        (scanValue_dumps plain.1 fuel _ (by omega)),
        skipBlanks_cons (by decide)]
      rfl
  | (key, value) :: other :: members, plain, _, fuel + 1, rest, short => by
      have filled : other :: members ≠ [] := List.cons_ne_nil other members
      have isText := dumpMembers_cons key value filled []
      rw [List.append_nil] at isText
      have shorter := length_memberText key value
        (',' :: ' ' :: (dumpMembers (other :: members) ++ []))
      rw [← isText] at shorter
      simp only [List.length_cons, List.append_nil] at shorter
      have later := scanMembers_dumps plain.2 filled fuel rest
        (by omega)
      obtain ⟨text, isRest⟩ := dumpMembers_head filled
      rw [dumpMembers_cons key value filled, scanMembers_memberText plain.1
        (scanValue_dumps plain.1 fuel _ (by omega)), skipBlanks_cons (by decide)]
      simp only [skipBlanks_space]
      rw [isRest, List.cons_append] at later ⊢
      rw [skipBlanks_cons (by decide), later]
      rfl

end

theorem loads_dumps (plain : value.Plain) :
    loads accepted (dumps value) = some value.joined := by
  have read := @scanValue_dumps accepted value plain
    ((dumps value).length + 1) [] (Nat.le_succ _)
  have unblanked := skipBlanks_dumps plain []
  rw [List.append_nil] at read unblanked
  rw [loads, unblanked, read]
  rfl

end Documents

/-! ## What stands in a written text -/

section Printable

/-- The characters that `ensure_ascii` leaves. -/
def IsPrintable (character : Char) : Prop :=
  0x20 ≤ character.toNat ∧ character.toNat ≤ 0x7E

instance : DecidablePred IsPrintable :=
  fun _ => inferInstanceAs (Decidable (_ ∧ _))

theorem IsPrintable.not_lineBreak {character : Char}
    (printable : IsPrintable character) : isLineBreak character = false := by
  obtain ⟨low, high⟩ := printable
  simp only [isLineBreak, Bool.or_eq_false_iff, decide_eq_false_iff_not,
    List.mem_cons, List.not_mem_nil, or_false]
  omega

theorem hexUnit_printable (number : Nat) :
    ∀ character ∈ hexUnit number, IsPrintable character := by
  have digits : ∀ digit < 16, IsPrintable (hexDigit digit) := by
    unfold IsPrintable
    decide
  intro character member
  simp only [hexUnit, List.mem_cons, List.not_mem_nil, or_false] at member
  rcases member with rfl | rfl | rfl | rfl
  all_goals exact digits _ (Nat.mod_lt _ (by decide))

theorem escapeUnit_printable (number : Nat) :
    ∀ character ∈ escapeUnit number, IsPrintable character := by
  intro character member
  simp only [escapeUnit, List.mem_cons] at member
  rcases member with rfl | rfl | digit
  · exact ⟨by decide, by decide⟩
  · exact ⟨by decide, by decide⟩
  · exact hexUnit_printable number character digit

theorem escapePoint_printable (point : CodePoint) :
    ∀ character ∈ escapePoint point, IsPrintable character := by
  have simple : ∀ escaped : Char, IsPrintable escaped →
      ∀ character ∈ ['\\', escaped], IsPrintable character := by
    intro escaped printable character member
    simp only [List.mem_cons, List.not_mem_nil, or_false] at member
    rcases member with rfl | rfl
    · exact ⟨by decide, by decide⟩
    · exact printable
  rw [escapePoint]
  split_ifs with _ _ _ _ _ _ _ printable
  iterate 7 exact simple _ ⟨by decide, by decide⟩
  · intro character member
    rw [List.mem_singleton] at member
    have number : (Char.ofNat point.val).toNat = point.val := by
      rw [Char.ofNat, dif_pos (.inl (by omega))]
      rfl
    rw [member, IsPrintable, number]
    exact printable
  · exact escapeUnit_printable _
  intro character member
  rcases List.mem_append.mp member with high | low
  · exact escapeUnit_printable _ character high
  · exact escapeUnit_printable _ character low

theorem dumpString_printable (content : List CodePoint) :
    ∀ character ∈ dumpString content, IsPrintable character := by
  intro character member
  simp only [dumpString, List.mem_cons, List.mem_append, List.mem_flatMap,
    List.not_mem_nil, or_false] at member
  rcases member with rfl | ⟨point, _, escaped⟩ | rfl
  · exact ⟨by decide, by decide⟩
  · exact escapePoint_printable point character escaped
  · exact ⟨by decide, by decide⟩

mutual

theorem dumps_printable : ∀ {value : JsonText}, value.Plain →
    ∀ character ∈ dumps value, IsPrintable character
  | .null, _ => @of_decide_eq_true _ (List.decidableBAll _ _) rfl
  | .bool true, _ => @of_decide_eq_true _ (List.decidableBAll _ _) rfl
  | .bool false, _ => @of_decide_eq_true _ (List.decidableBAll _ _) rfl
  | .string content, _ => dumpString_printable content
  | .object members, plain => by
      intro character member
      simp only [dumps, List.mem_cons, List.mem_append, List.not_mem_nil,
        or_false] at member
      rcases member with rfl | inside | rfl
      · exact ⟨by decide, by decide⟩
      · exact dumpMembers_printable plain character inside
      · exact ⟨by decide, by decide⟩

/-- So are its members. -/
theorem dumpMembers_printable :
    ∀ {members : List (List CodePoint × JsonText)}, PlainMembers members →
      ∀ character ∈ dumpMembers members, IsPrintable character
  | [], _ => nofun
  | [(key, value)], plain => by
      intro character member
      simp only [dumpMembers, List.mem_cons, List.mem_append] at member
      rcases member with inKey | rfl | rfl | inValue
      · exact dumpString_printable key character inKey
      · exact ⟨by decide, by decide⟩
      · exact ⟨by decide, by decide⟩
      · exact dumps_printable plain.1 character inValue
  | (key, value) :: other :: members, plain => by
      intro character member
      simp only [dumpMembers, List.mem_cons, List.mem_append] at member
      rcases member with inKey | rfl | rfl | inValue | rfl | rfl | later
      · exact dumpString_printable key character inKey
      · exact ⟨by decide, by decide⟩
      · exact ⟨by decide, by decide⟩
      · exact dumps_printable plain.1 character inValue
      · exact ⟨by decide, by decide⟩
      · exact ⟨by decide, by decide⟩
      · exact dumpMembers_printable plain.2 character later

end

theorem scalar_toNat (character : Char) :
    character.toNat < 0xD800 ∨
      0xDFFF < character.toNat ∧ character.toNat < 0x110000 := by
  have valid := character.valid
  have same : character.val.toNat = character.toNat := rfl
  rw [UInt32.isValidChar, Nat.isValidChar, same] at valid
  exact valid

theorem CodePoint.val_ofChar (character : Char) :
    (CodePoint.ofChar character).val = character.toNat := by
  have scalar := scalar_toNat character
  rw [CodePoint.ofChar, CodePoint.val_ofNat (by omega)]

theorem CodePoint.isHigh_ofChar (character : Char) :
    (CodePoint.ofChar character).isHigh = false := by
  have scalar := scalar_toNat character
  rw [CodePoint.isHigh, CodePoint.val_ofChar, decide_eq_false_iff_not]
  omega

theorem CodePoint.isLow_ofChar (character : Char) :
    (CodePoint.ofChar character).isLow = false := by
  have scalar := scalar_toNat character
  rw [CodePoint.isLow, CodePoint.val_ofChar, decide_eq_false_iff_not]
  omega

theorem joinPairs_points (text : List Char) :
    joinPairs (points text) = points text := by
  induction text with
  | nil => rfl
  | cons first text ih =>
      rw [points, List.map_cons,
        joinPairs_cons_of_not_high (CodePoint.isHigh_ofChar first)]
      exact congrArg _ ih

theorem CodePoint.ofChar_injective : Function.Injective CodePoint.ofChar := by
  intro one other equal
  have values := congrArg Fin.val equal
  rw [CodePoint.val_ofChar, CodePoint.val_ofChar] at values
  exact Char.toNat_inj.mp values

theorem points_injective {first second : List Char}
    (same : points first = points second) : first = second :=
  List.map_injective_iff.mpr CodePoint.ofChar_injective same

end Printable

end SecAI.Text
