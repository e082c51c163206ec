/-
Module: SecAI.Text.Characters
Purpose: Texts as lists of characters: the operations of Python's `str` that
  look at single characters, and what they leave of a text.
Trusted boundary: the Unicode database is a parameter
Main exports:
  CharacterDatabase, isSpace, isLineBreak, strip
-/
import Mathlib.Algebra.GroupWithZero.Nat
import Mathlib.Data.List.DropRight
import Mathlib.Data.List.TakeWhile

namespace SecAI.Text

/-- `str.isspace`. -/
def isSpace (character : Char) : Bool :=
  let code := character.toNat
  decide (0x9 ≤ code ∧ code ≤ 0xD) || decide (0x1C ≤ code ∧ code ≤ 0x20) ||
    decide (0x2000 ≤ code ∧ code ≤ 0x200A) ||
    decide (code ∈ [0x85, 0xA0, 0x1680, 0x2028, 0x2029, 0x202F, 0x205F, 0x3000])

/-- The line boundaries of `str.splitlines`. -/
def isLineBreak (character : Char) : Bool :=
  let code := character.toNat
  decide (0xA ≤ code ∧ code ≤ 0xD) || decide (0x1C ≤ code ∧ code ≤ 0x1E) ||
    decide (code ∈ [0x85, 0x2028, 0x2029])

/-- The parts of the Unicode database that texts are read with. -/
structure CharacterDatabase where
  /-- `unicodedata.decimal`. -/
  decimal : Char → Option Nat
  /-- `\w` of a regular expression. -/
  isWord : Char → Bool
  /-- `str.casefold` of one character. -/
  casefold : Char → List Char
  decimal_lt : ∀ {character digit}, decimal character = some digit → digit < 10
  decimal_not_space : ∀ {character digit}, decimal character = some digit →
    isSpace character = false
  decimal_ascii : ∀ character : Char, character.toNat < 128 →
    decimal character =
      if character.isDigit then some (character.toNat - 48) else none
  isWord_ascii : ∀ character : Char, character.toNat < 128 →
    isWord character = (character.isAlphanum || decide (character = '_'))
  casefold_ascii : ∀ character : Char, character.toNat < 128 →
    casefold character = [character.toLower]

theorem isSpace_of_isLineBreak {character : Char}
    (breaks : isLineBreak character = true) : isSpace character = true := by
  simp only [isLineBreak, isSpace, Bool.or_eq_true, decide_eq_true_eq,
    List.mem_cons, List.not_mem_nil, or_false] at breaks ⊢
  omega

/-- `text.strip()`. -/
def strip (text : List Char) : List Char :=
  ((text.dropWhile isSpace).reverse.dropWhile isSpace).reverse

/-- `text.split()`. -/
def words (text : List Char) : List (List Char) :=
  (text.splitOnP isSpace).filter (· ≠ [])

/-- `" ".join(text.split())`. -/
def collapse (text : List Char) : List Char :=
  [' '].intercalate (words text)

/-- The text with `\r\n` as one boundary. -/
def withoutReturns : List Char → List Char
  | [] => []
  | '\r' :: '\n' :: rest => '\n' :: withoutReturns rest
  | character :: rest => character :: withoutReturns rest

/-- `text.splitlines()`. -/
def lines (text : List Char) : List (List Char) :=
  let parts := (withoutReturns text).splitOnP isLineBreak
  if parts.getLast? = some [] then parts.dropLast else parts

/-- `text.casefold()`. -/
def casefold (database : CharacterDatabase) (text : List Char) : List Char :=
  text.flatMap database.casefold

/-- `text.split(separator)`. -/
def splitAt (separator : Char) (text : List Char) : List (List Char) :=
  text.splitOn separator

section Words

variable {character : Char} {text word first second : List Char}

theorem not_mem_of_mem_splitOnP {α : Type} {accepts : α → Bool} :
    ∀ {text part : List α}, part ∈ text.splitOnP accepts →
      ∀ character ∈ part, accepts character = false ∧ character ∈ text
  | [], part, member, character, inPart => by
      rw [List.splitOnP_nil, List.mem_singleton] at member
      subst member
      exact absurd inPart List.not_mem_nil
  | head :: text, part, member, character, inPart => by
      rw [List.splitOnP_cons_eq_if_modifyHead] at member
      split at member
      · rcases List.mem_cons.mp member with rfl | later
        · exact absurd inPart List.not_mem_nil
        · have known := not_mem_of_mem_splitOnP later character inPart
          exact ⟨known.1, List.mem_cons_of_mem _ known.2⟩
      · next kept =>
          obtain ⟨front, others, split⟩ := List.exists_cons_of_ne_nil
            (List.splitOnP_ne_nil accepts text)
          rw [split, List.modifyHead_cons] at member
          have known : ∀ other ∈ text.splitOnP accepts, character ∈ other →
              accepts character = false ∧ character ∈ head :: text := by
            intro other inSplit inOther
            have found := not_mem_of_mem_splitOnP inSplit character inOther
            exact ⟨found.1, List.mem_cons_of_mem _ found.2⟩
          rcases List.mem_cons.mp member with rfl | later
          · rcases List.mem_cons.mp inPart with rfl | inFront
            · exact ⟨by simpa using kept, List.mem_cons_self⟩
            · exact known front (split ▸ List.mem_cons_self) inFront
          · exact known part (split ▸ List.mem_cons_of_mem _ later) inPart

theorem mem_splitOnP_of_mem {α : Type} {accepts : α → Bool} :
    ∀ {text : List α} {character : α}, character ∈ text →
      accepts character = false → ∃ part ∈ text.splitOnP accepts,
        character ∈ part
  | head :: text, character, member, kept => by
      rw [List.splitOnP_cons_eq_if_modifyHead]
      split
      · next splits =>
          rcases List.mem_cons.mp member with rfl | later
          · rw [splits] at kept
            cases kept
          · obtain ⟨part, inSplit, inPart⟩ := mem_splitOnP_of_mem later kept
            exact ⟨part, List.mem_cons_of_mem _ inSplit, inPart⟩
      · obtain ⟨front, others, split⟩ := List.exists_cons_of_ne_nil
          (List.splitOnP_ne_nil accepts text)
        rw [split, List.modifyHead_cons]
        rcases List.mem_cons.mp member with rfl | later
        · exact ⟨_, List.mem_cons_self, List.mem_cons_self⟩
        · obtain ⟨part, inSplit, inPart⟩ := mem_splitOnP_of_mem later kept
          rw [split] at inSplit
          rcases List.mem_cons.mp inSplit with rfl | other
          · exact ⟨_, List.mem_cons_self, List.mem_cons_of_mem _ inPart⟩
          · exact ⟨part, List.mem_cons_of_mem _ other, inPart⟩

theorem mem_words (member : word ∈ words text) :
    word ≠ [] ∧ ∀ character ∈ word,
      isSpace character = false ∧ character ∈ text := by
  obtain ⟨inSplit, filled⟩ := List.mem_filter.mp member
  exact ⟨by simpa using filled, not_mem_of_mem_splitOnP inSplit⟩

theorem mem_words_of_mem (member : character ∈ text)
    (filled : isSpace character = false) :
    ∃ word ∈ words text, character ∈ word := by
  obtain ⟨part, inSplit, inPart⟩ := mem_splitOnP_of_mem member filled
  refine ⟨part, List.mem_filter.mpr ⟨inSplit, ?_⟩, inPart⟩
  exact decide_eq_true (List.ne_nil_of_mem inPart)

theorem words_append_space (first second : List Char)
    (blank : isSpace character = true) :
    words (first ++ character :: second) = words first ++ words second := by
  rw [words, List.splitOnP_append_cons first second blank, List.filter_append]
  rfl

theorem words_cons_space (text : List Char)
    (blank : isSpace character = true) :
    words (character :: text) = words text :=
  words_append_space [] text blank

theorem words_eq_nil (blank : ∀ character ∈ text, isSpace character = true) :
    words text = [] := by
  refine List.eq_nil_iff_forall_not_mem.mpr fun word member => ?_
  obtain ⟨filled, letters⟩ := mem_words member
  obtain ⟨character, rest, rfl⟩ := List.exists_cons_of_ne_nil filled
  obtain ⟨notBlank, inText⟩ := letters character List.mem_cons_self
  rw [blank character inText] at notBlank
  cases notBlank

theorem words_of_forall_not_space (filled : text ≠ [])
    (letters : ∀ character ∈ text, isSpace character = false) :
    words text = [text] := by
  rw [words, List.splitOnP_eq_singleton letters, List.filter_singleton,
    decide_eq_true filled]
  rfl

theorem words_append_of_forall_space :
    ∀ {first : List Char} (second : List Char),
      (∀ character ∈ first, isSpace character = true) →
      words (first ++ second) = words second
  | [], _, _ => rfl
  | character :: first, second, blank => by
      rw [List.cons_append, words_cons_space _ (blank _ List.mem_cons_self)]
      exact words_append_of_forall_space second fun other later =>
        blank other (List.mem_cons_of_mem _ later)

theorem words_append_blanks (first : List Char) :
    ∀ {second : List Char},
      (∀ character ∈ second, isSpace character = true) →
      words (first ++ second) = words first
  | [], _ => by rw [List.append_nil]
  | character :: second, blank => by
      rw [words_append_space first second (blank _ List.mem_cons_self),
        words_eq_nil fun other later => blank other (List.mem_cons_of_mem _ later),
        List.append_nil]

end Words

section Folded

variable {character : Char} {text first second : List Char}

/-- The room that parts of a text take with one separator behind each. -/
def room {α : Type} (parts : List (List α)) : Nat :=
  (parts.map fun part => part.length + 1).sum

theorem room_cons {α : Type} (part : List α) (parts : List (List α)) :
    room (part :: parts) = part.length + 1 + room parts := by
  simp [room]

theorem length_intercalate {α : Type} (separator : α) :
    ∀ {parts : List (List α)}, parts ≠ [] →
      ([separator].intercalate parts).length + 1 = room parts
  | [part], _ => by simp [room]
  | part :: next :: parts, _ => by
      have rest := length_intercalate separator
        (List.cons_ne_nil next parts)
      rw [List.intercalate_cons_cons, room_cons, ← rest]
      simp only [List.length_append, List.length_singleton]
      omega

theorem room_splitOnP {α : Type} (accepts : α → Bool) :
    ∀ text : List α, room (text.splitOnP accepts) = text.length + 1
  | [] => rfl
  | head :: text => by
      have rest := room_splitOnP accepts text
      rw [List.splitOnP_cons_eq_if_modifyHead]
      split
      · rw [room_cons, rest, List.length_cons, List.length_nil]
        omega
      obtain ⟨front, others, split⟩ := List.exists_cons_of_ne_nil
        (List.splitOnP_ne_nil accepts text)
      rw [split, room_cons] at rest
      rw [split, List.modifyHead_cons, room_cons, List.length_cons,
        List.length_cons]
      omega

theorem room_filter_le {α : Type} (keeps : List α → Bool) :
    ∀ parts : List (List α), room (parts.filter keeps) ≤ room parts
  | [] => Nat.le_refl _
  | part :: parts => by
      have rest := room_filter_le keeps parts
      rw [List.filter_cons, room_cons]
      split
      · rw [room_cons]
        omega
      · omega

theorem length_collapse_le (text : List Char) :
    (collapse text).length ≤ text.length := by
  by_cases filled : words text = []
  · rw [collapse, filled]
    exact Nat.zero_le _
  have whole := length_intercalate ' ' filled
  have less := room_filter_le (· ≠ []) (text.splitOnP isSpace)
  rw [room_splitOnP] at less
  rw [collapse]
  have same : room (words text) ≤ text.length + 1 := less
  omega

theorem mem_intercalate {α : Type} {separator : α} :
    ∀ {parts : List (List α)} {character : α},
      character ∈ [separator].intercalate parts →
      character = separator ∨ ∃ part ∈ parts, character ∈ part
  | [part], character, member => by
      rw [List.intercalate_singleton] at member
      exact .inr ⟨part, List.mem_cons_self, member⟩
  | part :: next :: parts, character, member => by
      rw [List.intercalate_cons_cons] at member
      rcases List.mem_append.mp member with inFront | inRest
      · rcases List.mem_append.mp inFront with inPart | isSeparator
        · exact .inr ⟨part, List.mem_cons_self, inPart⟩
        · exact .inl (List.mem_singleton.mp isSeparator)
      · rcases mem_intercalate inRest with same | ⟨other, inParts, inOther⟩
        · exact .inl same
        · exact .inr ⟨other, List.mem_cons_of_mem _ inParts, inOther⟩

theorem mem_intercalate_of_mem {α : Type} {separator : α} :
    ∀ {parts : List (List α)} {part : List α} {character : α},
      part ∈ parts → character ∈ part →
      character ∈ [separator].intercalate parts
  | [only], part, character, inParts, inPart => by
      rw [List.intercalate_singleton]
      exact List.mem_singleton.mp inParts ▸ inPart
  | first :: next :: parts, part, character, inParts, inPart => by
      rw [List.intercalate_cons_cons]
      rcases List.mem_cons.mp inParts with rfl | later
      · exact List.mem_append_left _ (List.mem_append_left _ inPart)
      · exact List.mem_append_right _ (mem_intercalate_of_mem later inPart)

theorem mem_collapse_iff (filled : isSpace character = false) :
    character ∈ collapse text ↔ character ∈ text := by
  constructor
  · intro member
    rcases mem_intercalate member with rfl | ⟨word, inWords, inWord⟩
    · cases filled
    · exact ((mem_words inWords).2 character inWord).2
  · intro member
    obtain ⟨word, inWords, inWord⟩ := mem_words_of_mem member filled
    exact mem_intercalate_of_mem inWords inWord

theorem words_strip (text : List Char) : words (strip text) = words text := by
  have front : words (text.dropWhile isSpace) = words text := by
    conv_rhs => rw [← List.takeWhile_append_dropWhile (p := isSpace) (l := text)]
    exact (words_append_of_forall_space _ fun character member =>
      List.mem_takeWhile_imp member).symm
  rw [← front, strip]
  generalize text.dropWhile isSpace = rest
  have ends := List.takeWhile_append_dropWhile (p := isSpace)
    (l := rest.reverse)
  have whole : rest = ((rest.reverse.dropWhile isSpace).reverse) ++
      (rest.reverse.takeWhile isSpace).reverse := by
    rw [← List.reverse_append, ends, List.reverse_reverse]
  conv_rhs => rw [whole]
  exact (words_append_blanks _ fun character member =>
    List.mem_takeWhile_imp (List.mem_reverse.mp member)).symm

theorem collapse_strip (text : List Char) :
    collapse (strip text) = collapse text := by
  rw [collapse, words_strip, collapse]

end Folded

section Stripped

variable {character : Char} {text : List Char}

theorem strip_eq_rdropWhile (text : List Char) :
    strip text = (text.dropWhile isSpace).rdropWhile isSpace := rfl

theorem mem_strip_of_mem (member : character ∈ text)
    (filled : isSpace character = false) : character ∈ strip text := by
  rw [← mem_collapse_iff filled, collapse_strip]
  exact (mem_collapse_iff filled).mpr member

theorem strip_getLast (filled : strip text ≠ []) :
    isSpace ((strip text).getLast filled) = false := by
  have ends := List.rdropWhile_last_not isSpace (text.dropWhile isSpace) filled
  exact eq_false_of_ne_true ends

theorem strip_head (filled : strip text ≠ []) :
    isSpace ((strip text).head filled) = false := by
  have prefixed : strip text <+: text.dropWhile isSpace :=
    List.rdropWhile_prefix isSpace _
  obtain ⟨tail, whole⟩ := prefixed
  have nonempty : text.dropWhile isSpace ≠ [] := by
    rw [← whole]
    exact List.append_ne_nil_of_left_ne_nil filled tail
  have same : (strip text).head filled =
      (text.dropWhile isSpace).head nonempty := by
    simp only [← whole, List.head_append_of_ne_nil filled]
  rw [same]
  exact List.head_dropWhile_not isSpace nonempty

theorem rdropWhile_eq_self {text : List Char}
    (ends : ∀ filled : text ≠ [], isSpace (text.getLast filled) = false) :
    text.rdropWhile isSpace = text := by
  rw [List.rdropWhile_eq_self_iff]
  intro filled
  rw [ends filled]
  exact Bool.false_ne_true

theorem dropWhile_eq_self {text : List Char}
    (starts : ∀ filled : text ≠ [], isSpace (text.head filled) = false) :
    text.dropWhile isSpace = text := by
  cases text with
  | nil => rfl
  | cons head rest =>
      have notBlank := starts (List.cons_ne_nil head rest)
      rw [List.head_cons] at notBlank
      exact List.dropWhile_cons_of_neg (by simp [notBlank])

theorem strip_append_blank (text : List Char) {blanks : List Char}
    (blank : ∀ character ∈ blanks, isSpace character = true) :
    strip (text ++ blanks) = strip text := by
  have dropped : blanks.dropWhile isSpace = [] :=
    List.dropWhile_eq_nil_iff.mpr blank
  have behind : ∀ front : List Char,
      (front ++ blanks).reverse.dropWhile isSpace =
        front.reverse.dropWhile isSpace := by
    intro front
    rw [List.reverse_append, List.dropWhile_append_of_pos]
    intro character member
    exact blank character (List.mem_reverse.mp member)
  rw [strip, strip, List.dropWhile_append]
  split
  · next empty =>
      rw [dropped, List.isEmpty_iff.mp empty]
  · rw [behind]

theorem strip_eq_self {text : List Char}
    (starts : ∀ filled : text ≠ [], isSpace (text.head filled) = false)
    (ends : ∀ filled : text ≠ [], isSpace (text.getLast filled) = false) :
    strip text = text := by
  rw [strip_eq_rdropWhile, dropWhile_eq_self starts, rdropWhile_eq_self ends]

theorem strip_strip (text : List Char) : strip (strip text) = strip text :=
  strip_eq_self (fun filled => strip_head filled) fun filled =>
    strip_getLast filled

end Stripped

section Lines

variable {character : Char} {text line : List Char}

theorem withoutReturns_append {front : List Char}
    (noReturn : '\r' ∉ front) (rest : List Char) :
    withoutReturns (front ++ '\n' :: rest) =
      front ++ '\n' :: withoutReturns rest := by
  induction front with
  | nil => rfl
  | cons first front ih =>
      rw [List.mem_cons, not_or] at noReturn
      rw [List.cons_append, withoutReturns,
        ih noReturn.2, List.cons_append]
      intro others isReturn
      exact absurd isReturn.symm noReturn.1

theorem lines_cons {front : List Char}
    (oneLine : ∀ character ∈ front, isLineBreak character = false)
    (rest : List Char) :
    lines (front ++ '\n' :: rest) = front :: lines rest := by
  have noReturn : '\r' ∉ front := fun member =>
    absurd (oneLine _ member) (by decide)
  have filled := List.splitOnP_ne_nil isLineBreak (withoutReturns rest)
  rw [lines, withoutReturns_append noReturn, List.splitOnP_append_cons_of_forall_mem]
  · obtain ⟨first, others, isSplit⟩ := List.exists_cons_of_ne_nil filled
    rw [lines, isSplit, List.getLast?_cons_cons]
    simp only [List.dropLast_cons_cons]
    split <;> rfl
  · intro other member
    simp [oneLine other member]
  · decide

end Lines

end SecAI.Text
