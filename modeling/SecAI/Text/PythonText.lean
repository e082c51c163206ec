/-
Module: SecAI.Text.PythonText
Purpose: The texts that `str` makes of values, what keeps a value within the
  domain of canonical documents, and when a written document can be encoded.
Trusted boundary: how a float is written, and which characters are printable,
  are parameters
Main exports:
  isScalarText_foldPoints, pythonStr, isScalarText_render
-/
import SecAI.Text.Rendered

namespace SecAI.Text

open Decoded

theorem isScalarText_iff {text : List CodePoint} :
    isScalarText text = true ↔
      ∀ point ∈ text, point.isHigh = false ∧ point.isLow = false := by
  simp only [isScalarText, List.all_eq_true, Bool.and_eq_true,
    Bool.not_eq_true']

theorem isScalarText_append {one two : List CodePoint} :
    isScalarText (one ++ two) = true ↔
      isScalarText one = true ∧ isScalarText two = true := by
  rw [isScalarText, List.all_append, Bool.and_eq_true]
  rfl

theorem isScalarText_foldPoints {text : List CodePoint}
    (scalar : isScalarText text = true) :
    isScalarText (foldPoints text) = true := by
  rw [isScalarText_iff] at *
  intro point member
  rcases mem_intercalate member with rfl | ⟨word, inWords, inWord⟩
  · exact ⟨CodePoint.isHigh_ofChar _, CodePoint.isLow_ofChar _⟩
  · have inSplit := (List.mem_filter.mp inWords).1
    exact scalar point (not_mem_of_mem_splitOnP inSplit point inWord).2

theorem isScalarText_of_foldPoints {text : List CodePoint}
    (folded : isScalarText (foldPoints text) = true) :
    isScalarText text = true := by
  rw [isScalarText_iff] at *
  intro point member
  cases blank : point.isBlank with
  | false =>
      obtain ⟨word, inSplit, inWord⟩ := mem_splitOnP_of_mem member blank
      have filled : word ≠ [] := List.ne_nil_of_mem inWord
      have inWords : word ∈ pointWords text :=
        List.mem_filter.mpr ⟨inSplit, decide_eq_true filled⟩
      exact folded point (mem_intercalate_of_mem inWords inWord)
  | true =>
      rw [← Bool.or_eq_false_iff]
      by_contra surrogate
      rw [Bool.not_eq_false] at surrogate
      rw [CodePoint.isBlank, CodePoint.shown, if_pos surrogate] at blank
      exact absurd blank (by decide)

/-- A number of sixteen hexadecimal digits at most, written with eight. -/
def hexLong (number : Nat) : List Char :=
  hexUnit (number / 65536) ++ hexUnit number

section Str

variable (floats : FloatTexts) (isPrintable : Char → Bool)

/-- One code point of `repr` of a text. -/
def reprPoint (quote : Char) (point : CodePoint) : List CodePoint :=
  if point.val = 0x5C ∨ point.val = quote.toNat then
    [CodePoint.ofChar '\\', point]
  else if point.val = 0x9 then points ['\\', 't']
  else if point.val = 0xA then points ['\\', 'n']
  else if point.val = 0xD then points ['\\', 'r']
  else if 0x20 ≤ point.val ∧ point.val < 0x7F then [point]
  else if 0x7F < point.val ∧ point.isHigh = false ∧ point.isLow = false ∧
      isPrintable point.shown = true then [point]
  else if point.val < 0x100 then
    points ('\\' :: 'x' :: (hexUnit point.val).drop 2)
  else if point.val < 0x10000 then points (escapeUnit point.val)
  else points ('\\' :: 'U' :: hexLong point.val)

/-- The quotation mark of `repr` of a text. -/
def reprQuote (content : List CodePoint) : Char :=
  if CodePoint.ofChar '\'' ∈ content ∧ CodePoint.ofChar '"' ∉ content then '"'
  else '\''

def reprText (content : List CodePoint) : List CodePoint :=
  points [reprQuote content] ++
    content.flatMap (reprPoint isPrintable (reprQuote content)) ++
    points [reprQuote content]

mutual

def pythonRepr : Decoded → List CodePoint
  | .null => points ['N', 'o', 'n', 'e']
  | .bool true => points ['T', 'r', 'u', 'e']
  | .bool false => points ['F', 'a', 'l', 's', 'e']
  | .int value => points (integerText value)
  | .float bits => points (floats.text bits)
  | .str content => reprText isPrintable content
  | .list items => points ['['] ++ reprItems items ++ points [']']
  | .dict members =>
      points ['\x7b'] ++ reprMembers members ++ points ['\x7d']

/-- `repr` of the items of a list. -/
def reprItems : List Decoded → List CodePoint
  | [] => []
  | [item] => pythonRepr item
  | item :: rest => pythonRepr item ++ points [',', ' '] ++ reprItems rest

/-- `repr` of the members of a dict. -/
def reprMembers : List (List CodePoint × Decoded) → List CodePoint
  | [] => []
  | [(key, value)] =>
      reprText isPrintable key ++ points [':', ' '] ++ pythonRepr value
  | (key, value) :: rest =>
      reprText isPrintable key ++ points [':', ' '] ++
        (pythonRepr value ++ points [',', ' '] ++ reprMembers rest)

end

def pythonStr : Decoded → List CodePoint
  | .str content => content
  | value => pythonRepr floats isPrintable value

end Str

end SecAI.Text

namespace SecAI.Text

open Decoded (isScalarText isScalarText_points anyString anyItemString
  anyMemberString)

def hasSurrogate (text : List CodePoint) : Bool := !isScalarText text

theorem isScalarText_append_eq (first second : List CodePoint) :
    isScalarText (first ++ second) =
      (isScalarText first && isScalarText second) := by
  rw [Bool.eq_iff_iff, isScalarText_append, Bool.and_eq_true]

theorem isScalarText_rawPoint (point : CodePoint) :
    isScalarText (rawPoint point) = isScalarText [point] := by
  have ascii (low : point.val < 0x80) : isScalarText [point] = true := by
    rw [isScalarText_iff]
    intro other member
    cases List.mem_singleton.mp member
    rw [CodePoint.isHigh, CodePoint.isLow, decide_eq_false_iff_not,
      decide_eq_false_iff_not]
    omega
  unfold rawPoint
  split_ifs
  all_goals first
    | rfl
    | rw [isScalarText_points, ascii (by omega)]

theorem isScalarText_flatMap_rawPoint (content : List CodePoint) :
    isScalarText (content.flatMap rawPoint) = isScalarText content := by
  induction content with
  | nil => rfl
  | cons point content ih =>
      rw [List.flatMap_cons, isScalarText_append_eq, ih,
        isScalarText_rawPoint, ← isScalarText_append_eq]
      rfl

theorem isScalarText_renderString (content : List CodePoint) :
    isScalarText (renderString content) = isScalarText content := by
  simp only [renderString, isScalarText_append_eq, isScalarText_points,
    isScalarText_flatMap_rawPoint, Bool.true_and, Bool.and_true]

section Documents

variable (floats : FloatTexts) (style : JsonStyle)

theorem isScalarText_blank : isScalarText style.blank = true := by
  cases style
  · exact isScalarText_points _
  · rfl

mutual

theorem isScalarText_render : ∀ value : Decoded,
    isScalarText (render floats style value) = !anyString hasSurrogate value
  | .null | .bool true | .bool false | .int _ | .float _ =>
      isScalarText_points _
  | .str content => by
      rw [render, isScalarText_renderString, anyString, hasSurrogate,
        Bool.not_not]
  | .list items => by
      rw [render, anyString]
      simp only [isScalarText_append_eq, isScalarText_points, Bool.true_and,
        Bool.and_true]
      exact isScalarText_renderItems items
  | .dict members => by
      rw [render, anyString]
      simp only [isScalarText_append_eq, isScalarText_points, Bool.true_and,
        Bool.and_true]
      exact isScalarText_renderMembers members

theorem isScalarText_renderItems : ∀ items : List Decoded,
    isScalarText (renderItems floats style items) =
      !anyItemString hasSurrogate items
  | [] => rfl
  | [item] => by
      rw [renderItems, isScalarText_render item, anyItemString, anyItemString,
        Bool.or_false]
  | item :: next :: rest => by
      rw [renderItems, anyItemString, Bool.not_or,
        ← isScalarText_render item, ← isScalarText_renderItems (next :: rest)]
      · simp only [isScalarText_append_eq, isScalarText_points,
          isScalarText_blank, Bool.true_and, Bool.and_true]
      · simp

theorem isScalarText_renderMembers :
    ∀ members : List (List CodePoint × Decoded),
      isScalarText (renderMembers floats style members) =
        !anyMemberString hasSurrogate members
  | [] => rfl
  | [(key, value)] => by
      rw [renderMembers, anyMemberString, anyMemberString, Bool.or_false,
        Bool.not_or, ← isScalarText_render value, hasSurrogate, Bool.not_not]
      simp only [isScalarText_append_eq, isScalarText_points,
        isScalarText_blank, isScalarText_renderString, Bool.true_and,
        Bool.and_true]
  | (key, value) :: next :: rest => by
      rw [renderMembers, anyMemberString, Bool.not_or, Bool.not_or,
        ← isScalarText_render value,
        ← isScalarText_renderMembers (next :: rest), hasSurrogate, Bool.not_not]
      · simp only [isScalarText_append_eq, isScalarText_points,
          isScalarText_blank, isScalarText_renderString, Bool.true_and,
          Bool.and_true, Bool.and_assoc]
      · simp

end

end Documents

end SecAI.Text
