/-
Module: SecAI.Text.Pattern
Purpose: Regular expressions with the priorities of a backtracking matcher:
  where they occur in a text, in the order in which they are tried.
Trusted boundary: none
Main exports:
  Pattern, Pattern.occurrences, Pattern.search, Pattern.findAll
-/
import Mathlib.Data.List.Basic

namespace SecAI.Text

/-- A regular expression.  Only classes of characters are repeated, and a
zero-width check looks at the characters on its two sides. -/
inductive Pattern where
  | one (accepts : Char → Bool)
  | seq (first second : Pattern)
  | alt (first second : Pattern)
  | optional (inner : Pattern)
  | many (accepts : Char → Bool) (atLeast : Nat) (atMost : Option Nat)
  | group (inner : Pattern)
  | check (holds : Option Char → Option Char → Bool)

/-- One way to match: the text that is matched, what stands behind it, and the
text of the group. -/
structure Occurrence where
  matched : List Char
  rest : List Char
  captured : Option (List Char)

/-- The ways to take characters of a class from the front, the most first. -/
def repetitions (accepts : Char → Bool) :
    Nat → Option Nat → List Char → List Occurrence
  | atLeast, _, [] => if atLeast = 0 then [⟨[], [], none⟩] else []
  | atLeast, atMost, character :: rest =>
      let stop : List Occurrence :=
        if atLeast = 0 then [⟨[], character :: rest, none⟩] else []
      if atMost = some 0 ∨ accepts character = false then stop
      else
        (repetitions accepts (atLeast - 1) (atMost.map (· - 1)) rest).map
            (fun found => { found with
              matched := character :: found.matched }) ++
          stop

def Occurrence.followedBy (first second : Occurrence) : Occurrence :=
  { matched := first.matched ++ second.matched
    rest := second.rest
    captured := second.captured.or first.captured }

/-- The character before what stands behind an occurrence. -/
def Occurrence.last (found : Occurrence) (before : Option Char) :
    Option Char :=
  found.matched.getLast?.or before

/-- The ways in which a pattern matches at the front of a text, by priority. -/
def Pattern.occurrences :
    Pattern → Option Char → List Char → List Occurrence
  | .one accepts, _, text =>
      match text with
      | [] => []
      | character :: rest =>
          if accepts character then [⟨[character], rest, none⟩] else []
  | .seq first second, before, text =>
      (first.occurrences before text).flatMap fun found =>
        (second.occurrences (found.last before) found.rest).map
          found.followedBy
  | .alt first second, before, text =>
      first.occurrences before text ++ second.occurrences before text
  | .optional inner, before, text =>
      inner.occurrences before text ++ [⟨[], text, none⟩]
  | .many accepts atLeast atMost, _, text =>
      repetitions accepts atLeast atMost text
  | .group inner, before, text =>
      (inner.occurrences before text).map fun found =>
        { found with captured := some found.matched }
  | .check holds, before, text =>
      if holds before text.head? then [⟨[], text, none⟩] else []

/-- The match at the front of a text. -/
def Pattern.here (pattern : Pattern) (before : Option Char)
    (text : List Char) : Option Occurrence :=
  (pattern.occurrences before text).head?

/-- `re.search`, behind a character. -/
def Pattern.searchFrom (pattern : Pattern) :
    Option Char → List Char → Option Occurrence
  | before, [] => pattern.here before []
  | before, character :: rest =>
      (pattern.here before (character :: rest)).or
        (pattern.searchFrom (some character) rest)

/-- `re.search`. -/
def Pattern.search (pattern : Pattern) (text : List Char) :
    Option Occurrence :=
  pattern.searchFrom none text

/-- `re.search(text) is not None`. -/
def Pattern.occursIn (pattern : Pattern) (text : List Char) : Bool :=
  (pattern.search text).isSome

/-- `re.finditer`, of a pattern that matches no empty text, behind a character
and with so many characters left of the last match. -/
def Pattern.findAllFrom (pattern : Pattern) :
    Option Char → Nat → List Char → List Occurrence
  | before, _, [] => (pattern.here before []).toList
  | _, skipped + 1, character :: rest =>
      pattern.findAllFrom (some character) skipped rest
  | before, 0, character :: rest =>
      match pattern.here before (character :: rest) with
      | some found =>
          found :: pattern.findAllFrom (some character)
            (found.matched.length - 1) rest
      | none => pattern.findAllFrom (some character) 0 rest

/-- `re.finditer`. -/
def Pattern.findAll (pattern : Pattern) (text : List Char) :
    List Occurrence :=
  pattern.findAllFrom none 0 text

/-- Two characters that `re.IGNORECASE` takes for the same. -/
def ignoringCase (expected character : Char) : Bool :=
  decide (character.toLower = expected.toLower) ||
    decide (expected.toLower = 'i' ∧ character.toNat ∈ [0x130, 0x131]) ||
    decide (expected.toLower = 's' ∧ character.toNat = 0x17F) ||
    decide (expected.toLower = 'k' ∧ character.toNat = 0x212A)

/-- Two characters that are the same. -/
def sameCharacter (expected character : Char) : Bool :=
  decide (character = expected)

/-- A pattern that matches the characters of a text, one by one. -/
def Pattern.literalBy (same : Char → Char → Bool) : List Char → Pattern
  | [] => .check fun _ _ => true
  | [character] => .one (same character)
  | character :: rest => .seq (.one (same character)) (literalBy same rest)

def Pattern.literal (text : String) : Pattern :=
  .literalBy sameCharacter text.toList

/-- A literal text under `re.IGNORECASE`. -/
def Pattern.literalIgnoringCase (text : String) : Pattern :=
  .literalBy ignoringCase text.toList

def Pattern.sequence : List Pattern → Pattern
  | [] => .check fun _ _ => true
  | [pattern] => pattern
  | pattern :: rest => .seq pattern (sequence rest)

/-- One of the patterns, the first one first. -/
def Pattern.oneOf : List Pattern → Pattern
  | [] => .check fun _ _ => false
  | [pattern] => pattern
  | pattern :: rest => .alt pattern (oneOf rest)

/-- `^` under `re.MULTILINE`. -/
def Pattern.lineStart : Pattern :=
  .check fun before _ => before.all (· = '\n')

/-- `$` under `re.MULTILINE`. -/
def Pattern.lineEnd : Pattern :=
  .check fun _ next => next.all (· = '\n')

/-- `\b`, for a class of word characters. -/
def Pattern.wordBoundary (isWord : Char → Bool) : Pattern :=
  .check fun before next => before.any isWord != next.any isWord

section Occurrences

variable {pattern first second : Pattern} {accepts : Char → Bool}
  {text : List Char} {before : Option Char} {found : Occurrence}

theorem repetitions_cases {text : List Char} :
    ∀ {atLeast : Nat} {atMost : Option Nat} {found : Occurrence},
      found ∈ repetitions accepts atLeast atMost text →
      found.matched ++ found.rest = text ∧
        (∀ character ∈ found.matched, accepts character = true) ∧
        atLeast ≤ found.matched.length ∧
        (∀ most ∈ atMost, found.matched.length ≤ most) ∧
        found.captured = none := by
  induction text with
  | nil =>
      intro atLeast atMost found member
      rw [repetitions] at member
      split at member
      · next enough =>
          cases List.mem_singleton.mp member
          exact ⟨rfl, nofun, Nat.le_of_eq enough, fun _ _ => Nat.zero_le _, rfl⟩
      · cases member
  | cons character rest ih =>
      intro atLeast atMost found member
      have stops : found ∈ (if atLeast = 0 then
          [(⟨[], character :: rest, none⟩ : Occurrence)] else []) →
          found.matched ++ found.rest = character :: rest ∧
            (∀ character ∈ found.matched, accepts character = true) ∧
            atLeast ≤ found.matched.length ∧
            (∀ most ∈ atMost, found.matched.length ≤ most) ∧
            found.captured = none := by
        intro stopped
        split at stopped
        · next enough =>
            cases List.mem_singleton.mp stopped
            exact ⟨rfl, nofun, Nat.le_of_eq enough,
              fun _ _ => Nat.zero_le _, rfl⟩
        · cases stopped
      rw [repetitions] at member
      split at member
      · exact stops member
      rename_i continues
      rw [not_or] at continues
      rcases List.mem_append.mp member with taken | stopped
      · obtain ⟨later, inRest, rfl⟩ := List.mem_map.mp taken
        obtain ⟨whole, all, enough, few, none⟩ := ih inRest
        refine ⟨congrArg (character :: ·) whole, ?_, ?_, ?_, none⟩
        · intro other inMatched
          rcases List.mem_cons.mp inMatched with rfl | behind
          · exact eq_true_of_ne_false continues.2
          · exact all other behind
        · rw [List.length_cons]
          omega
        · intro most bounded
          have positive : most ≠ 0 := by
            rintro rfl
            exact continues.1 bounded
          have rest := few (most - 1)
            (by rw [Option.mem_def.mp bounded]; rfl)
          rw [List.length_cons]
          omega
      · exact stops stopped

/-- An occurrence is a front part of the text, and the rest of it. -/
theorem Pattern.matched_append_rest :
    ∀ {pattern : Pattern} {before : Option Char} {text : List Char}
      {found : Occurrence}, found ∈ pattern.occurrences before text →
      found.matched ++ found.rest = text
  | .one accepts, before, text, found, member => by
      cases text with
      | nil => cases member
      | cons character rest =>
          rw [occurrences] at member
          split at member
          · cases List.mem_singleton.mp member
            rfl
          · cases member
  | .seq first second, before, text, found, member => by
      rw [occurrences] at member
      obtain ⟨front, inFirst, later⟩ := List.mem_flatMap.mp member
      obtain ⟨behind, inSecond, rfl⟩ := List.mem_map.mp later
      rw [Occurrence.followedBy, List.append_assoc,
        matched_append_rest inSecond]
      exact matched_append_rest inFirst
  | .alt first second, before, text, found, member => by
      rw [occurrences] at member
      rcases List.mem_append.mp member with inFirst | inSecond
      · exact matched_append_rest inFirst
      · exact matched_append_rest inSecond
  | .optional inner, before, text, found, member => by
      rw [occurrences] at member
      rcases List.mem_append.mp member with inInner | skipped
      · exact matched_append_rest inInner
      · cases List.mem_singleton.mp skipped
        rfl
  | .many accepts atLeast atMost, before, text, found, member =>
      (repetitions_cases member).1
  | .group inner, before, text, found, member => by
      rw [occurrences] at member
      obtain ⟨inside, inInner, rfl⟩ := List.mem_map.mp member
      have whole := matched_append_rest inInner
      exact whole
  | .check holds, before, text, found, member => by
      rw [occurrences] at member
      split at member
      · cases List.mem_singleton.mp member
        rfl
      · cases member

/-- The groups of a pattern take only texts with a property. -/
def Pattern.GroupsTake (property : List Char → Prop) : Pattern → Prop
  | .one _ | .many _ _ _ | .check _ => True
  | .seq first second | .alt first second =>
      first.GroupsTake property ∧ second.GroupsTake property
  | .optional inner => inner.GroupsTake property
  | .group inner =>
      ∀ before text, ∀ found ∈ inner.occurrences before text,
        property found.matched

/-- Every match takes a text for its group. -/
def Pattern.hasGroup : Pattern → Bool
  | .one _ | .many _ _ _ | .check _ | .optional _ => false
  | .seq first second => first.hasGroup || second.hasGroup
  | .alt first second => first.hasGroup && second.hasGroup
  | .group _ => true

theorem Pattern.captured_property {property : List Char → Prop} :
    ∀ {pattern : Pattern} {before : Option Char} {text : List Char}
      {found : Occurrence}, pattern.GroupsTake property →
      found ∈ pattern.occurrences before text →
      ∀ captured ∈ found.captured, property captured
  | .one accepts, before, text, found, _, member => by
      cases text with
      | nil => cases member
      | cons character rest =>
          rw [occurrences] at member
          split at member
          · cases List.mem_singleton.mp member
            exact nofun
          · cases member
  | .seq first second, before, text, found, takes, member => by
      rw [occurrences] at member
      obtain ⟨front, inFirst, later⟩ := List.mem_flatMap.mp member
      obtain ⟨behind, inSecond, rfl⟩ := List.mem_map.mp later
      intro captured isCaptured
      rw [Occurrence.followedBy, Option.mem_def, Option.or_eq_some_iff]
        at isCaptured
      rcases isCaptured with last | ⟨_, earlier⟩
      · exact captured_property takes.2 inSecond captured last
      · exact captured_property takes.1 inFirst captured earlier
  | .alt first second, before, text, found, takes, member => by
      rw [occurrences] at member
      rcases List.mem_append.mp member with inFirst | inSecond
      · exact captured_property takes.1 inFirst
      · exact captured_property takes.2 inSecond
  | .optional inner, before, text, found, takes, member => by
      rw [occurrences] at member
      rcases List.mem_append.mp member with inInner | skipped
      · exact captured_property (show inner.GroupsTake property from takes)
          inInner
      · cases List.mem_singleton.mp skipped
        exact nofun
  | .many accepts atLeast atMost, before, text, found, _, member => by
      intro captured isCaptured
      rw [(repetitions_cases member).2.2.2.2] at isCaptured
      cases isCaptured
  | .group inner, before, text, found, takes, member => by
      rw [occurrences] at member
      obtain ⟨inside, inInner, rfl⟩ := List.mem_map.mp member
      intro captured isCaptured
      cases isCaptured
      exact takes before text inside inInner
  | .check holds, before, text, found, _, member => by
      rw [occurrences] at member
      split at member
      · cases List.mem_singleton.mp member
        exact nofun
      · cases member

theorem Pattern.captured_isSome :
    ∀ {pattern : Pattern} {before : Option Char} {text : List Char}
      {found : Occurrence}, pattern.hasGroup = true →
      found ∈ pattern.occurrences before text → found.captured.isSome = true
  | .seq first second, before, text, found, has, member => by
      rw [occurrences] at member
      obtain ⟨front, inFirst, later⟩ := List.mem_flatMap.mp member
      obtain ⟨behind, inSecond, rfl⟩ := List.mem_map.mp later
      rw [Occurrence.followedBy, Option.isSome_or, Bool.or_eq_true]
      rcases (Bool.or_eq_true _ _).mp has with inFront | inBack
      · exact .inr (captured_isSome inFront inFirst)
      · exact .inl (captured_isSome inBack inSecond)
  | .alt first second, before, text, found, has, member => by
      have both := (Bool.and_eq_true _ _).mp has
      rw [occurrences] at member
      rcases List.mem_append.mp member with inFirst | inSecond
      · exact captured_isSome both.1 inFirst
      · exact captured_isSome both.2 inSecond
  | .group inner, before, text, found, _, member => by
      rw [occurrences] at member
      obtain ⟨inside, _, rfl⟩ := List.mem_map.mp member
      rfl

end Occurrences

section Searches

variable {pattern : Pattern} {text : List Char} {found : Occurrence}

theorem Pattern.mem_of_here {before : Option Char}
    (front : pattern.here before text = some found) :
    found ∈ pattern.occurrences before text :=
  List.mem_of_mem_head? front

theorem Pattern.findAllFrom_cases :
    ∀ {text : List Char} {before : Option Char} {skipped : Nat},
      found ∈ pattern.findAllFrom before skipped text →
      ∃ left right previous, text = left ++ right ∧
        found ∈ pattern.occurrences previous right
  | [], before, skipped, member => by
      cases skipped <;>
        exact ⟨[], [], before, rfl,
          mem_of_here (Option.mem_toList.mp member)⟩
  | character :: rest, before, skipped + 1, member => by
      have inRest : found ∈ pattern.findAllFrom (some character) skipped rest :=
        member
      obtain ⟨left, right, previous, whole, inRight⟩ := findAllFrom_cases inRest
      exact ⟨character :: left, right, previous, by rw [whole]; rfl, inRight⟩
  | character :: rest, before, 0, member => by
      have later : ∀ {skipped : Nat},
          found ∈ pattern.findAllFrom (some character) skipped rest →
          ∃ left right previous, character :: rest = left ++ right ∧
            found ∈ pattern.occurrences previous right := by
        intro skipped inRest
        obtain ⟨left, right, previous, whole, inRight⟩ := findAllFrom_cases inRest
        exact ⟨character :: left, right, previous, by rw [whole]; rfl, inRight⟩
      rw [findAllFrom] at member
      split at member
      · next first front =>
          rcases List.mem_cons.mp member with rfl | inRest
          · exact ⟨[], character :: rest, before, rfl, mem_of_here front⟩
          · exact later inRest
      · exact later member

theorem Pattern.findAll_cases (member : found ∈ pattern.findAll text) :
    ∃ left right previous, text = left ++ right ∧
      found ∈ pattern.occurrences previous right :=
  findAllFrom_cases member

end Searches

section First

variable {accepts : Char → Bool} {holds : Option Char → Option Char → Bool}
  {first second third : Pattern} {before : Option Char} {text : List Char}

theorem Pattern.here_one_seq (character : Char) :
    (Pattern.seq (.one accepts) second).here before (character :: text) =
      if accepts character = true then
        (second.here (some character) text).map
          (Occurrence.followedBy ⟨[character], text, none⟩)
      else none := by
  unfold here
  rw [occurrences, occurrences]
  split
  · rw [List.flatMap_singleton, List.head?_map]
    rfl
  · rfl

end First

theorem Pattern.here_isSome (pattern : Pattern) (before : Option Char)
    (text : List Char) :
    (pattern.here before text).isSome =
      !(pattern.occurrences before text).isEmpty := by
  unfold here
  cases pattern.occurrences before text <;> rfl

/-- A pattern that matches where one of two patterns does occurs in a text when
one of them does. -/
theorem Pattern.occursIn_or {whole one two : Pattern}
    (splits : ∀ before text, (whole.occurrences before text).isEmpty =
      ((one.occurrences before text).isEmpty &&
        (two.occurrences before text).isEmpty)) (text : List Char) :
    whole.occursIn text = (one.occursIn text || two.occursIn text) := by
  have here : ∀ before text, (whole.here before text).isSome =
      ((one.here before text).isSome || (two.here before text).isSome) := by
    intro before text
    rw [here_isSome, here_isSome, here_isSome, splits, Bool.not_and]
  have searches : ∀ (text : List Char) (before : Option Char),
      (whole.searchFrom before text).isSome =
        ((one.searchFrom before text).isSome ||
          (two.searchFrom before text).isSome) := by
    intro text
    induction text with
    | nil =>
        intro before
        exact here before []
    | cons character rest ih =>
        intro before
        simp only [searchFrom, Option.isSome_or, here, ih]
        ac_rfl
  exact searches text none

theorem Pattern.isEmpty_alt_seq (one two behind : Pattern)
    (before : Option Char) (text : List Char) :
    ((Pattern.seq (.alt one two) behind).occurrences before text).isEmpty =
      (((Pattern.seq one behind).occurrences before text).isEmpty &&
        ((Pattern.seq two behind).occurrences before text).isEmpty) := by
  simp only [occurrences, List.flatMap_append]
  rw [Bool.eq_iff_iff, Bool.and_eq_true, List.isEmpty_iff, List.isEmpty_iff,
    List.isEmpty_iff, List.append_eq_nil_iff]

end SecAI.Text
