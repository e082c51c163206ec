/-
Module: SecAI.Text.Numerals
Purpose: The values that `json.loads` returns, with their lookups, and numbers
  as texts: what `int` reads, and how a number is printed.
Trusted boundary: the keys of a dict are distinct; the Unicode database is a
  parameter
Main exports:
  Decoded, Members, getItem, integerOf, decimalText, wholeNumber
-/
import SecAI.Common.JsonSchema
import SecAI.Text.JsonText
import Mathlib.Tactic.SplitIfs

namespace SecAI.Text

open SecAI.JsonSchema (doubleValue)

/-- A value of Python that stands for a JSON document. -/
inductive Decoded where
  | null
  | bool (value : Bool)
  | int (value : Int)
  /-- A float, by the bits of its double. -/
  | float (bits : UInt64)
  | str (content : List CodePoint)
  | list (items : List Decoded)
  | dict (members : List (List CodePoint × Decoded))

/-- The items of a dict, in the order of their insertion. -/
abbrev Members := List (List CodePoint × Decoded)

/-- `members.get(key, default)`. -/
def getItemOr (members : Members) (key : String) (default : Decoded) :
    Decoded :=
  ((members.find? fun entry => decide (entry.1 = points key.toList)).map
    Prod.snd).getD default

/-- `members.get(key)`. -/
def getItem (members : Members) (key : String) : Decoded :=
  getItemOr members key .null

namespace Decoded

/-- `value is True`. -/
def isTrue : Decoded → Bool
  | .bool value => value
  | _ => false

/-- `value == text`. -/
def isText (text : String) : Decoded → Bool
  | .str content => decide (content = points text.toList)
  | _ => false

/-- `isinstance(value, dict)`. -/
def isDict : Decoded → Bool
  | .dict _ => true
  | _ => false

/-- `bool(value)`. -/
def isTruthy : Decoded → Bool
  | .null => false
  | .bool value => value
  | .int value => decide (value ≠ 0)
  | .float bits => decide (doubleValue bits ≠ some 0)
  | .str content => decide (content ≠ [])
  | .list items => !items.isEmpty
  | .dict members => !members.isEmpty

/-- `value in texts`, for a set of texts; a list and a dict have no hash. -/
def isAmong (texts : List String) : Decoded → Option Bool
  | .str content => some (decide (content ∈ texts.map (points ·.toList)))
  | .list _ | .dict _ => none
  | _ => some false

/-- A text that UTF-8 can encode. -/
def isScalarText (content : List CodePoint) : Bool :=
  content.all fun point => !point.isHigh && !point.isLow

mutual

/-- The value is in the domain of `rfc8785.dumps`. -/
def isRepresentable : Decoded → Bool
  | .null | .bool _ => true
  | .int value => decide (value.natAbs < 2 ^ 53)
  | .float bits => (doubleValue bits).isSome
  | .str content => isScalarText content
  | .list items => itemsAreRepresentable items
  | .dict members => membersAreRepresentable members

def itemsAreRepresentable : List Decoded → Bool
  | [] => true
  | item :: items => isRepresentable item && itemsAreRepresentable items

/-- All keys and values of a dict are. -/
def membersAreRepresentable : List (List CodePoint × Decoded) → Bool
  | [] => true
  | (key, value) :: members =>
      isScalarText key && isRepresentable value &&
        membersAreRepresentable members

end

theorem isScalarText_points (text : List Char) :
    isScalarText (points text) = true := by
  rw [isScalarText, List.all_eq_true]
  intro point member
  obtain ⟨character, _, rfl⟩ := List.mem_map.mp member
  rw [CodePoint.isHigh_ofChar, CodePoint.isLow_ofChar]
  rfl

@[simp] theorem isRepresentable_points (text : List Char) :
    isRepresentable (.str (points text)) = true := isScalarText_points text

@[simp] theorem isRepresentable_bool (value : Bool) :
    isRepresentable (.bool value) = true := rfl

@[simp] theorem isRepresentable_null : isRepresentable .null = true := rfl

@[simp] theorem isRepresentable_count {count : Nat} :
    isRepresentable (.int count) = true ↔ count < 2 ^ 53 := by
  rw [isRepresentable, decide_eq_true_eq, Int.natAbs_natCast]

theorem membersAreRepresentable_iff {members : Members} :
    membersAreRepresentable members = true ↔
      ∀ entry ∈ members, isScalarText entry.1 = true ∧
        isRepresentable entry.2 = true := by
  induction members with
  | nil => simp [membersAreRepresentable]
  | cons entry members ih =>
      rw [membersAreRepresentable, Bool.and_eq_true, Bool.and_eq_true,
        List.forall_mem_cons, ih]

@[simp] theorem isRepresentable_dict {members : Members} :
    isRepresentable (.dict members) = true ↔
      ∀ entry ∈ members, isScalarText entry.1 = true ∧
        isRepresentable entry.2 = true := by
  rw [isRepresentable, membersAreRepresentable_iff]

mutual

/-- One of the texts of the value is accepted; the keys of a dict are none of
them. -/
def anyText (accepts : List CodePoint → Bool) : Decoded → Bool
  | .str content => accepts content
  | .dict members => anyMemberText accepts members
  | .list items => anyItemText accepts items
  | .null | .bool _ | .int _ | .float _ => false

/-- One of the texts of the items is. -/
def anyItemText (accepts : List CodePoint → Bool) : List Decoded → Bool
  | [] => false
  | item :: items => anyText accepts item || anyItemText accepts items

/-- One of the texts of the values of a dict is. -/
def anyMemberText (accepts : List CodePoint → Bool) :
    List (List CodePoint × Decoded) → Bool
  | [] => false
  | (_, value) :: members =>
      anyText accepts value || anyMemberText accepts members

end

mutual

theorem anyText_or (one two : List CodePoint → Bool) :
    ∀ value, anyText (fun text => one text || two text) value =
      (anyText one value || anyText two value)
  | .str _ => rfl
  | .dict members => anyMemberText_or one two members
  | .list items => anyItemText_or one two items
  | .null | .bool _ | .int _ | .float _ => rfl

theorem anyItemText_or (one two : List CodePoint → Bool) :
    ∀ items, anyItemText (fun text => one text || two text) items =
      (anyItemText one items || anyItemText two items)
  | [] => rfl
  | item :: items => by
      rw [anyItemText, anyItemText, anyItemText, anyText_or one two item,
        anyItemText_or one two items]
      ac_rfl

theorem anyMemberText_or (one two : List CodePoint → Bool) :
    ∀ members, anyMemberText (fun text => one text || two text) members =
      (anyMemberText one members || anyMemberText two members)
  | [] => rfl
  | (_, value) :: members => by
      rw [anyMemberText, anyMemberText, anyMemberText,
        anyText_or one two value, anyMemberText_or one two members]
      ac_rfl

end

end Decoded

/-- A character as `int` sees it: digits and blanks of every script become
those of ASCII. -/
def numeralCharacter (database : CharacterDatabase) (character : Char) : Char :=
  if character.toNat < 127 then character
  else if isSpace character then ' '
  else
    match database.decimal character with
    | some digit => Char.ofNat (48 + digit)
    | none => '?'

/-- The blanks that `int` skips at both ends. -/
def isNumeralBlank (character : Char) : Bool :=
  decide (character ∈ [' ', '\t', '\n', '\x0B', '\x0C', '\r'])

/-- A numeral without the blanks at its ends. -/
def trimmedNumeral (text : List Char) : List Char :=
  (text.dropWhile isNumeralBlank).rdropWhile isNumeralBlank

/-- Whether a numeral is negative, and what stands behind its sign. -/
def withoutSign : List Char → Bool × List Char
  | '-' :: rest => (true, rest)
  | '+' :: rest => (false, rest)
  | text => (false, text)

/-- An octal numeral without its prefix; one underscore may stand behind
it. -/
def withoutOctalPrefix : List Char → List Char
  | '0' :: 'o' :: '_' :: rest | '0' :: 'O' :: '_' :: rest => rest
  | '0' :: 'o' :: rest | '0' :: 'O' :: rest => rest
  | text => text

def digitOf (base : Nat) (character : Char) : Option Nat :=
  if character.isDigit ∧ character.toNat - 48 < base then
    some (character.toNat - 48)
  else none

/-- The digits of a numeral; a single underscore may stand between two. -/
def digitsOf (base : Nat) : List Char → Option (List Nat)
  | [] => none
  | [character] => (digitOf base character).map fun digit => [digit]
  | character :: '_' :: rest =>
      (digitOf base character).bind fun digit =>
        (digitsOf base rest).map (digit :: ·)
  | character :: rest =>
      (digitOf base character).bind fun digit =>
        (digitsOf base rest).map (digit :: ·)

def numberOf (base : Nat) (digits : List Nat) : Nat :=
  digits.foldl (fun number digit => number * base + digit) 0

/-- `sys.int_info.default_max_str_digits`. -/
def maximumDigits : Nat := 4300

/-- `int(text, base)` for base 8 and base 10, without what raises
`ValueError`.  Only decimal numerals have a limit on their digits. -/
def integerOf (database : CharacterDatabase) (base : Nat) (text : List Char) :
    Option Int :=
  let (negative, body) :=
    withoutSign (trimmedNumeral (text.map (numeralCharacter database)))
  match digitsOf base (if base = 8 then withoutOctalPrefix body else body) with
  | none => none
  | some digits =>
      if base = 10 ∧ maximumDigits < digits.length then none
      else if negative then some (-(numberOf base digits : Int))
      else some (numberOf base digits : Int)

/-- `str(number)`. -/
def decimalText (number : Nat) : List Char := Nat.toDigits 10 number

/-- `str(number)`, of a number that may be negative. -/
def integerText : Int → List Char
  | .ofNat number => decimalText number
  | .negSucc number => '-' :: decimalText (number + 1)

variable {character : Char}

theorem isSpace_of_isDigit (digit : character.isDigit = true) :
    isSpace character = false := by
  simp only [Char.isDigit, Bool.and_eq_true, decide_eq_true_eq] at digit
  have low : 48 ≤ character.toNat := digit.1
  have high : character.toNat ≤ 57 := digit.2
  simp only [isSpace, Bool.or_eq_false_iff, decide_eq_false_iff_not,
    List.mem_cons, List.not_mem_nil, or_false]
  omega

section Decimals

variable (database : CharacterDatabase)

/-- Every character is a decimal digit. -/
def AllDecimal (text : List Char) : Prop :=
  ∀ character ∈ text, (database.decimal character).isSome = true

/-- The values of the digits of a text. -/
def decimalsOf (text : List Char) : List Nat :=
  text.map fun character => (database.decimal character).getD 0

variable {database}

theorem numeralCharacter_decimal {digit : Nat}
    (decimal : database.decimal character = some digit) :
    numeralCharacter database character = Char.ofNat (48 + digit) := by
  unfold numeralCharacter
  split
  · next ascii =>
      have known := database.decimal_ascii character (by omega)
      rw [decimal] at known
      split at known
      · next isDigit =>
          simp only [Char.isDigit, Bool.and_eq_true, decide_eq_true_eq]
            at isDigit
          have low : 48 ≤ character.toNat := isDigit.1
          cases known
          rw [Nat.add_sub_cancel' low, Char.ofNat_toNat]
      · cases known
  · rw [if_neg (by rw [database.decimal_not_space decimal]; decide), decimal]

theorem digit_cases {digit : Nat} (small : digit < 10) :
    isNumeralBlank (Char.ofNat (48 + digit)) = false ∧
      digitOf 10 (Char.ofNat (48 + digit)) = some digit ∧
      Char.ofNat (48 + digit) ∉ ['-', '+', '_'] := by
  have all : ∀ other : Fin 10,
      isNumeralBlank (Char.ofNat (48 + other.val)) = false ∧
        digitOf 10 (Char.ofNat (48 + other.val)) = some other.val ∧
        Char.ofNat (48 + other.val) ∉ ['-', '+', '_'] := by
    decide
  exact all ⟨digit, small⟩

/-- The digits of a text, as `int` sees them. -/
def digitCharacters (digits : List Nat) : List Char :=
  digits.map fun digit => Char.ofNat (48 + digit)

variable {text : List Char}

theorem map_numeralCharacter (decimals : AllDecimal database text) :
    text.map (numeralCharacter database) =
      digitCharacters (decimalsOf database text) := by
  rw [digitCharacters, decimalsOf, List.map_map]
  refine List.map_congr_left fun character member => ?_
  obtain ⟨digit, decimal⟩ := Option.isSome_iff_exists.mp
    (decimals character member)
  rw [numeralCharacter_decimal decimal, Function.comp_apply, decimal,
    Option.getD_some]

theorem decimalsOf_lt (decimals : AllDecimal database text) :
    ∀ digit ∈ decimalsOf database text, digit < 10 := by
  intro digit member
  obtain ⟨character, inText, rfl⟩ := List.mem_map.mp member
  obtain ⟨value, decimal⟩ := Option.isSome_iff_exists.mp
    (decimals character inText)
  rw [decimal]
  exact database.decimal_lt decimal

theorem trimmedNumeral_digits {digits : List Nat}
    (small : ∀ digit ∈ digits, digit < 10) :
    trimmedNumeral (digitCharacters digits) = digitCharacters digits := by
  have kept : ∀ character ∈ digitCharacters digits,
      isNumeralBlank character = false := by
    intro character member
    obtain ⟨digit, inDigits, rfl⟩ := List.mem_map.mp member
    exact (digit_cases (small digit inDigits)).1
  have front : (digitCharacters digits).dropWhile isNumeralBlank =
      digitCharacters digits := by
    rw [List.dropWhile_eq_self_iff]
    intro filled
    exact kept _ (List.getElem_mem filled) ▸ Bool.false_ne_true
  rw [trimmedNumeral, front, List.rdropWhile_eq_self_iff]
  intro filled
  exact kept _ (List.getLast_mem filled) ▸ Bool.false_ne_true

theorem digitsOf_digits : ∀ {digits : List Nat}, digits ≠ [] →
    (∀ digit ∈ digits, digit < 10) →
    digitsOf 10 (digitCharacters digits) = some digits
  | [digit], _, small => by
      have known := (digit_cases (small digit List.mem_cons_self)).2.1
      rw [digitCharacters, List.map_singleton, digitsOf, known, Option.map_some]
  | digit :: next :: digits, _, small => by
      have known := (digit_cases (small digit List.mem_cons_self)).2.1
      have noUnderscore := (digit_cases
        (small next (List.mem_cons_of_mem _ List.mem_cons_self))).2.2
      have rest := digitsOf_digits (List.cons_ne_nil next digits)
        fun other later => small other (List.mem_cons_of_mem _ later)
      simp only [digitCharacters, List.map_cons] at rest noUnderscore ⊢
      rw [digitsOf, known, rest]
      · rfl
      · exact List.cons_ne_nil _ _
      · intro rest same
        rw [(List.cons.inj same).1] at noUnderscore
        simp at noUnderscore

theorem withoutSign_digits {digits : List Nat}
    (small : ∀ digit ∈ digits, digit < 10) :
    withoutSign (digitCharacters digits) = (false, digitCharacters digits) := by
  cases digits with
  | nil => rfl
  | cons digit digits =>
      have noSign := (digit_cases (small digit List.mem_cons_self)).2.2
      simp only [digitCharacters, List.map_cons]
      unfold withoutSign
      split
      · next same =>
          rw [(List.cons.inj same).1] at noSign
          simp at noSign
      · next same =>
          rw [(List.cons.inj same).1] at noSign
          simp at noSign
      · rfl

theorem integerOf_decimals (decimals : AllDecimal database text)
    (filled : text ≠ []) :
    integerOf database 10 text =
      if text.length ≤ maximumDigits then
        some (numberOf 10 (decimalsOf database text) : Int)
      else none := by
  have small := decimalsOf_lt decimals
  have length : (decimalsOf database text).length = text.length := by
    rw [decimalsOf, List.length_map]
  have some_digit : decimalsOf database text ≠ [] := by
    rw [← List.length_pos_iff, length]
    exact List.length_pos_iff.mpr filled
  rw [integerOf, map_numeralCharacter decimals, trimmedNumeral_digits small,
    withoutSign_digits small]
  simp only [show (10 : Nat) ≠ 8 by decide, if_false,
    digitsOf_digits some_digit small, true_and, length]
  by_cases short : text.length ≤ maximumDigits
  · rw [if_pos short, if_neg (by omega)]
    rfl
  · rw [if_neg short, if_pos (by omega)]

end Decimals

theorem digit_lt_ten (digit : character.isDigit = true) :
    character.toNat - 48 < 10 := by
  simp only [Char.isDigit, Bool.and_eq_true, decide_eq_true_eq] at digit
  have high : character.toNat ≤ 57 := digit.2
  omega

/-- The database that knows the ASCII characters only. -/
def asciiDatabase : CharacterDatabase where
  decimal := fun character =>
    if character.isDigit then some (character.toNat - 48) else none
  isWord := fun character =>
    character.isAlphanum || decide (character = '_')
  casefold := fun character => [character.toLower]
  decimal_lt := by
    intro character digit isDecimal
    split at isDecimal
    · next isDigit =>
        cases isDecimal
        exact digit_lt_ten isDigit
    · cases isDecimal
  decimal_not_space := by
    intro character digit isDecimal
    split at isDecimal
    · next isDigit => exact isSpace_of_isDigit isDigit
    · cases isDecimal
  decimal_ascii := fun _ _ => rfl
  isWord_ascii := fun _ _ => rfl
  casefold_ascii := fun _ _ => rfl

/-- The whole number that a literal stands for. -/
def wholeNumber (literal : List Char) : Option Int :=
  match literal with
  | '-' :: digits => (digitsOf 10 digits).map fun values =>
      -(numberOf 10 values : Int)
  | digits => (digitsOf 10 digits).map fun values => (numberOf 10 values : Int)

end SecAI.Text
