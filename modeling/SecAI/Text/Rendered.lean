/-
Module: SecAI.Text.Rendered
Purpose: The texts that `json.dumps` writes without `ensure_ascii` and with
  sorted keys, what occurs in them, `str` on texts of code points, and what
  folding blanks twice does.
Trusted boundary: how a float is written is a parameter
Main exports:
  Decoded.sortKeys, render, Decoded.anyString, stripPoints, foldPoints
-/
import SecAI.Common.Ordered
import SecAI.Text.Delimited
import SecAI.Text.Numerals
import Mathlib.Data.List.Lex

namespace SecAI.Text

open Delimited

/-- The separators of `json.dumps`. -/
inductive JsonStyle where
  /-- `(", ", ": ")`. -/
  | spaced
  /-- `(",", ":")`. -/
  | compact

/-- What stands behind a comma or a colon. -/
def JsonStyle.blank : JsonStyle → List CodePoint
  | .spaced => points [' ']
  | .compact => []

/-- `<`. -/
def markPoint : CodePoint := CodePoint.ofChar '<'

/-- `float.__repr__`. -/
structure FloatTexts where
  text : UInt64 → List Char
  unmarked : ∀ bits, '<' ∉ text bits

/-- One code point as it is written without `ensure_ascii`. -/
def rawPoint (point : CodePoint) : List CodePoint :=
  if point.val = 0x22 then points ['\\', '"']
  else if point.val = 0x5C then points ['\\', '\\']
  else if point.val = 0xA then points ['\\', 'n']
  else if point.val = 0xD then points ['\\', 'r']
  else if point.val = 0x9 then points ['\\', 't']
  else if point.val = 0xC then points ['\\', 'f']
  else if point.val = 0x8 then points ['\\', 'b']
  else if point.val < 0x20 then points (escapeUnit point.val)
  else [point]

/-- A string with its quotation marks. -/
def renderString (content : List CodePoint) : List CodePoint :=
  points ['"'] ++ content.flatMap rawPoint ++ points ['"']

section Writing

variable (floats : FloatTexts) (style : JsonStyle)

mutual

/-- `json.dumps(value, ensure_ascii=False)`. -/
def render : Decoded → List CodePoint
  | .null => points ['n', 'u', 'l', 'l']
  | .bool true => points ['t', 'r', 'u', 'e']
  | .bool false => points ['f', 'a', 'l', 's', 'e']
  | .int value => points (integerText value)
  | .float bits => points (floats.text bits)
  | .str content => renderString content
  | .list items => points ['['] ++ renderItems items ++ points [']']
  | .dict members => points ['\x7b'] ++ renderMembers members ++ points ['\x7d']

def renderItems : List Decoded → List CodePoint
  | [] => []
  | [item] => render item
  | item :: rest =>
      render item ++ points [','] ++ (style.blank ++ renderItems rest)

def renderMembers : List (List CodePoint × Decoded) → List CodePoint
  | [] => []
  | [(key, value)] =>
      renderString key ++ points [':'] ++ (style.blank ++ render value)
  | (key, value) :: rest =>
      renderString key ++ points [':'] ++
        (style.blank ++ (render value ++ points [','] ++
          (style.blank ++ renderMembers rest)))

end

end Writing

namespace Decoded

mutual

/-- `sort_keys=True`. -/
def sortKeys : Decoded → Decoded
  | .dict members => .dict (Ordered.sortedBy Prod.fst (sortMembers members))
  | .list items => .list (sortItems items)
  | value => value

/-- The items with their keys sorted. -/
def sortItems : List Decoded → List Decoded
  | [] => []
  | item :: items => sortKeys item :: sortItems items

/-- The values with their keys sorted. -/
def sortMembers :
    List (List CodePoint × Decoded) → List (List CodePoint × Decoded)
  | [] => []
  | (key, value) :: members => (key, sortKeys value) :: sortMembers members

end

mutual

/-- One of the strings of the value is accepted, a key or a text. -/
def anyString (accepts : List CodePoint → Bool) : Decoded → Bool
  | .str content => accepts content
  | .dict members => anyMemberString accepts members
  | .list items => anyItemString accepts items
  | .null | .bool _ | .int _ | .float _ => false

/-- One of the strings of the items is. -/
def anyItemString (accepts : List CodePoint → Bool) : List Decoded → Bool
  | [] => false
  | item :: items => anyString accepts item || anyItemString accepts items

/-- One of the strings of the members of a dict is. -/
def anyMemberString (accepts : List CodePoint → Bool) :
    List (List CodePoint × Decoded) → Bool
  | [] => false
  | (key, value) :: members =>
      accepts key || anyString accepts value || anyMemberString accepts members

end

theorem anyMemberString_eq (accepts : List CodePoint → Bool)
    (members : List (List CodePoint × Decoded)) :
    anyMemberString accepts members = members.any fun member =>
      accepts member.1 || anyString accepts member.2 := by
  induction members with
  | nil => rfl
  | cons member members ih =>
      rw [anyMemberString, ih, List.any_cons]

mutual

theorem anyString_sortKeys (accepts : List CodePoint → Bool) :
    ∀ value, anyString accepts (sortKeys value) = anyString accepts value
  | .dict members => by
      have sorted := Ordered.sortedBy_perm Prod.fst (sortMembers members)
      rw [sortKeys, anyString, anyString, anyMemberString_eq, sorted.any_eq,
        ← anyMemberString_eq, anyMemberString_sortMembers accepts members]
  | .list items => by
      rw [sortKeys, anyString, anyString,
        anyItemString_sortItems accepts items]
  | .str _ | .null | .bool _ | .int _ | .float _ => rfl

theorem anyItemString_sortItems (accepts : List CodePoint → Bool) :
    ∀ items, anyItemString accepts (sortItems items) =
      anyItemString accepts items
  | [] => rfl
  | item :: items => by
      rw [sortItems, anyItemString, anyItemString,
        anyString_sortKeys accepts item, anyItemString_sortItems accepts items]

theorem anyMemberString_sortMembers (accepts : List CodePoint → Bool) :
    ∀ members, anyMemberString accepts (sortMembers members) =
      anyMemberString accepts members
  | [] => rfl
  | (key, value) :: members => by
      rw [sortMembers, anyMemberString, anyMemberString,
        anyString_sortKeys accepts value,
        anyMemberString_sortMembers accepts members]

end

end Decoded

end SecAI.Text

namespace SecAI.Text

open Delimited

/-- `str.isspace` of one code point. -/
def CodePoint.isBlank (point : CodePoint) : Bool := isSpace point.shown

/-- `text.strip()`. -/
def stripPoints (text : List CodePoint) : List CodePoint :=
  (text.dropWhile CodePoint.isBlank).rdropWhile CodePoint.isBlank

def pointWords (text : List CodePoint) : List (List CodePoint) :=
  (text.splitOnP CodePoint.isBlank).filter (· ≠ [])

/-- `re.sub(r"\s+", " ", text).strip()`. -/
def foldPoints (text : List CodePoint) : List CodePoint :=
  [CodePoint.ofChar ' '].intercalate (pointWords text)

theorem stripPoints_eq_self {text : List CodePoint} {first last : CodePoint}
    (starts : text.head? = some first) (firstVisible : first.isBlank = false)
    (ends : text.getLast? = some last) (lastVisible : last.isBlank = false) :
    stripPoints text = text := by
  have front : text.dropWhile CodePoint.isBlank = text := by
    cases text with
    | nil => rfl
    | cons head rest =>
        cases starts
        rw [List.dropWhile_cons_of_neg]
        simp [firstVisible]
  rw [stripPoints, front, List.rdropWhile_eq_self_iff]
  intro filled
  rw [List.getLast?_eq_some_getLast filled, Option.some.injEq] at ends
  simp [ends, lastVisible]

/-- The case of ASCII is that of its characters. -/
theorem flatMap_casefold_ascii (database : CharacterDatabase)
    {text : List Char} (ascii : ∀ character ∈ text, character.toNat < 128) :
    ((points text).flatMap fun point =>
      if point.isHigh || point.isLow then [point]
      else points (database.casefold point.shown)) =
      points (text.map Char.toLower) := by
  induction text with
  | nil => rfl
  | cons character text ih =>
      obtain ⟨low, rest⟩ := List.forall_mem_cons.mp ascii
      have plain : ((CodePoint.ofChar character).isHigh ||
          (CodePoint.ofChar character).isLow) = false := by
        rw [CodePoint.isHigh_ofChar, CodePoint.isLow_ofChar]
        rfl
      have shown : (CodePoint.ofChar character).shown = character := by
        rw [CodePoint.shown, plain, if_neg Bool.false_ne_true,
          CodePoint.val_ofChar, Char.ofNat_toNat]
      rw [points, List.map_cons, List.flatMap_cons, plain,
        if_neg Bool.false_ne_true, shown, database.casefold_ascii character low]
      exact congrArg _ (ih rest)

theorem isBlank_space : (CodePoint.ofChar ' ').isBlank = true := by decide

/-- A word: it is not empty and has no blank. -/
def IsWord (word : List CodePoint) : Prop :=
  word ≠ [] ∧ ∀ point ∈ word, point.isBlank = false

theorem isWord_of_mem_pointWords {text word : List CodePoint}
    (member : word ∈ pointWords text) : IsWord word := by
  obtain ⟨inSplit, filled⟩ := List.mem_filter.mp member
  exact ⟨of_decide_eq_true filled, fun point inWord =>
    (not_mem_of_mem_splitOnP inSplit point inWord).1⟩

/-- The words of words that are joined by blanks. -/
theorem pointWords_intercalate : ∀ {words : List (List CodePoint)},
    (∀ word ∈ words, IsWord word) →
    pointWords ([CodePoint.ofChar ' '].intercalate words) = words
  | [], _ => by
      rw [pointWords, show [CodePoint.ofChar ' '].intercalate [] = [] from rfl,
        List.splitOnP_nil]
      rfl
  | [word], areWords => by
      obtain ⟨filled, plain⟩ := areWords word List.mem_cons_self
      have alone : [CodePoint.ofChar ' '].intercalate [word] = word := by
        simp [List.intercalate]
      rw [pointWords, alone, List.splitOnP_eq_singleton plain,
        List.filter_cons, if_pos (decide_eq_true filled)]
      rfl
  | word :: next :: rest, areWords => by
      obtain ⟨filled, plain⟩ := areWords word List.mem_cons_self
      have later := pointWords_intercalate fun other member =>
        areWords other (List.mem_cons_of_mem word member)
      have joined : [CodePoint.ofChar ' '].intercalate (word :: next :: rest) =
          word ++ CodePoint.ofChar ' ' ::
            [CodePoint.ofChar ' '].intercalate (next :: rest) := by
        simp [List.intercalate]
      rw [pointWords, joined,
        List.splitOnP_append_cons_of_forall_mem plain _ isBlank_space,
        List.filter_cons, if_pos (decide_eq_true filled)]
      exact congrArg (word :: ·) later

theorem pointWords_foldPoints (text : List CodePoint) :
    pointWords (foldPoints text) = pointWords text :=
  pointWords_intercalate fun _ => isWord_of_mem_pointWords

theorem head?_intercalate {word : List CodePoint} {rest : List (List CodePoint)}
    (filled : word ≠ []) :
    ([CodePoint.ofChar ' '].intercalate (word :: rest)).head? = word.head? := by
  cases word with
  | nil => exact absurd rfl filled
  | cons first others => cases rest <;> simp [List.intercalate]

/-- They end with the last of them. -/
theorem getLast?_intercalate : ∀ {words : List (List CodePoint)}
    {last : List CodePoint}, last ≠ [] → words.getLast? = some last →
    ([CodePoint.ofChar ' '].intercalate words).getLast? = last.getLast?
  | [word], last, _, isLast => by
      cases isLast
      simp [List.intercalate]
  | word :: next :: rest, last, filled, isLast => by
      rw [List.getLast?_cons_cons] at isLast
      have later := getLast?_intercalate filled isLast
      have joined : [CodePoint.ofChar ' '].intercalate (word :: next :: rest) =
          word ++ CodePoint.ofChar ' ' ::
            [CodePoint.ofChar ' '].intercalate (next :: rest) := by
        simp [List.intercalate]
      have nonempty : [CodePoint.ofChar ' '].intercalate (next :: rest) ≠ [] := by
        intro empty
        rw [empty, List.getLast?_nil, eq_comm, List.getLast?_eq_none_iff]
          at later
        exact filled later
      rw [joined, List.getLast?_append_cons, List.getLast?_cons]
      cases found : ([CodePoint.ofChar ' '].intercalate
          (next :: rest)).getLast? with
      | none => exact absurd (List.getLast?_eq_none_iff.mp found) nonempty
      | some point => rw [← later, found]; rfl

theorem stripPoints_foldPoints (text : List CodePoint) :
    stripPoints (foldPoints text) = foldPoints text := by
  unfold foldPoints
  cases found : pointWords text with
  | nil => rfl
  | cons word rest =>
      have isWord : ∀ other ∈ word :: rest, IsWord other := by
        rw [← found]
        exact fun _ => isWord_of_mem_pointWords
      obtain ⟨filled, plain⟩ := isWord word List.mem_cons_self
      obtain ⟨last, isLast⟩ : ∃ last, (word :: rest).getLast? = some last :=
        ⟨_, List.getLast?_eq_some_getLast (List.cons_ne_nil word rest)⟩
      obtain ⟨lastFilled, lastPlain⟩ :=
        isWord last (List.mem_of_getLast? isLast)
      refine stripPoints_eq_self
        ((head?_intercalate filled).trans (List.head?_eq_some_head filled))
        (plain _ (List.head_mem filled))
        ((getLast?_intercalate lastFilled isLast).trans
          (List.getLast?_eq_some_getLast lastFilled))
        (lastPlain _ (List.getLast_mem lastFilled))

theorem foldPoints_stripPoints_foldPoints (text : List CodePoint) :
    foldPoints (stripPoints (foldPoints text)) = foldPoints text := by
  rw [stripPoints_foldPoints]
  exact congrArg [CodePoint.ofChar ' '].intercalate (pointWords_foldPoints text)

theorem length_foldPoints_le (text : List CodePoint) :
    (foldPoints text).length ≤ text.length := by
  by_cases filled : pointWords text = []
  · rw [foldPoints, filled]
    exact Nat.zero_le _
  have whole := length_intercalate (CodePoint.ofChar ' ') filled
  have less := room_filter_le (· ≠ []) (text.splitOnP CodePoint.isBlank)
  rw [room_splitOnP] at less
  have same : room (pointWords text) ≤ text.length + 1 := less
  rw [foldPoints]
  omega

theorem length_stripPoints_le (text : List CodePoint) :
    (stripPoints text).length ≤ text.length :=
  ((List.rdropWhile_prefix _ _).length_le).trans
    (List.dropWhile_suffix _).length_le

theorem foldPoints_ne_nil {text : List CodePoint}
    (filled : stripPoints text ≠ []) : foldPoints (stripPoints text) ≠ [] := by
  have visible := List.rdropWhile_last_not CodePoint.isBlank
    (text.dropWhile CodePoint.isBlank) filled
  have member : (stripPoints text).getLast filled ∈ stripPoints text :=
    List.getLast_mem filled
  obtain ⟨word, inSplit, inWord⟩ :=
    mem_splitOnP_of_mem member (eq_false_of_ne_true visible)
  have inWords : word ∈ pointWords (stripPoints text) :=
    List.mem_filter.mpr ⟨inSplit, decide_eq_true (List.ne_nil_of_mem inWord)⟩
  exact List.ne_nil_of_mem (mem_intercalate_of_mem inWords inWord)

end SecAI.Text
