/-
Module: SecAI.Text.PatternMatches
Purpose: Which parts of a text a regular expression takes, whatever the order in
  which a matcher tries them, and that `re.finditer` misses no match that begins
  with a mark and holds no other.
Trusted boundary: none
Main exports:
  Pattern.Takes, Pattern.occursIn_iff_takes, Pattern.mem_findAll_iff
-/
import Mathlib.Data.List.Forall2
import SecAI.Text.Pattern
import SecAI.Text.Characters

namespace SecAI.Text

/-- The pattern takes `front`, between a character and a text. -/
def Pattern.Takes :
    Pattern → Option Char → List Char → List Char → Prop
  | .one accepts, _, front, _ =>
      ∃ character, front = [character] ∧ accepts character = true
  | .seq first second, before, front, rest =>
      ∃ left right, front = left ++ right ∧
        first.Takes before left (right ++ rest) ∧
        second.Takes (left.getLast?.or before) right rest
  | .alt first second, before, front, rest =>
      first.Takes before front rest ∨ second.Takes before front rest
  | .optional inner, before, front, rest =>
      inner.Takes before front rest ∨ front = []
  | .many accepts atLeast atMost, _, front, _ =>
      (∀ character ∈ front, accepts character = true) ∧
        atLeast ≤ front.length ∧ ∀ most ∈ atMost, front.length ≤ most
  | .group inner, before, front, rest => inner.Takes before front rest
  | .check holds, before, front, rest =>
      front = [] ∧ holds before rest.head? = true

section Occurrences

variable {accepts : Char → Bool}

/-- Every front part of characters of a class is one of its repetitions. -/
theorem mem_repetitions :
    ∀ {front rest : List Char} {atLeast : Nat} {atMost : Option Nat},
      (∀ character ∈ front, accepts character = true) →
      atLeast ≤ front.length → (∀ most ∈ atMost, front.length ≤ most) →
      ⟨front, rest, none⟩ ∈
        repetitions accepts atLeast atMost (front ++ rest)
  | [], rest, atLeast, atMost, _, enough, _ => by
      have none : atLeast = 0 := Nat.le_zero.mp enough
      cases rest with
      | nil =>
          rw [List.nil_append, repetitions, if_pos none]
          exact List.mem_singleton_self _
      | cons character rest =>
          rw [List.nil_append, repetitions, if_pos none]
          split
          · exact List.mem_singleton_self _
          · exact List.mem_append_right _ (List.mem_singleton_self _)
  | character :: front, rest, atLeast, atMost, all, enough, few => by
      have taken : ¬(atMost = some 0 ∨ accepts character = false) := by
        rintro (none | refused)
        · exact absurd (few 0 none) (by simp)
        · rw [all character List.mem_cons_self] at refused
          cases refused
      have later : ⟨front, rest, none⟩ ∈ repetitions accepts (atLeast - 1)
          (atMost.map (· - 1)) (front ++ rest) := by
        apply mem_repetitions
        case a =>
          exact fun other inFront => all other (List.mem_cons_of_mem _ inFront)
        case a =>
          rw [List.length_cons] at enough
          omega
        case a =>
          intro most bounded
          obtain ⟨bound, isBound, rfl⟩ := Option.map_eq_some_iff.mp bounded
          have short := few bound isBound
          rw [List.length_cons] at short
          omega
      rw [List.cons_append, repetitions, if_neg taken]
      exact List.mem_append_left _ (List.mem_map.mpr ⟨_, later, rfl⟩)

end Occurrences

/-- The occurrences of a pattern at the front of a text are the parts that it
takes. -/
theorem Pattern.mem_occurrences_iff :
    ∀ {pattern : Pattern} {before : Option Char} {front rest text : List Char},
      (∃ found ∈ pattern.occurrences before text,
          found.matched = front ∧ found.rest = rest) ↔
        front ++ rest = text ∧ pattern.Takes before front rest
  | .one accepts, before, front, rest, text => by
      constructor
      case mp =>
        rintro ⟨found, member, rfl, rfl⟩
        refine ⟨matched_append_rest member, ?_⟩
        cases text with
        | nil => cases member
        | cons character later =>
            rw [occurrences] at member
            split at member
            · next accepted =>
                cases List.mem_singleton.mp member
                exact ⟨character, rfl, accepted⟩
            · cases member
      case mpr =>
        rintro ⟨rfl, character, rfl, accepted⟩
        refine ⟨⟨[character], rest, none⟩, ?_, rfl, rfl⟩
        rw [List.singleton_append, occurrences, if_pos accepted]
        exact List.mem_singleton_self _
  | .seq first second, before, front, rest, text => by
      constructor
      case mp =>
        rintro ⟨found, member, rfl, rfl⟩
        refine ⟨matched_append_rest member, ?_⟩
        rw [occurrences] at member
        obtain ⟨early, inFirst, later⟩ := List.mem_flatMap.mp member
        obtain ⟨late, inSecond, rfl⟩ := List.mem_map.mp later
        obtain ⟨whole, takesSecond⟩ := mem_occurrences_iff.mp
          ⟨late, inSecond, rfl, rfl⟩
        obtain ⟨_, takesFirst⟩ := mem_occurrences_iff.mp
          ⟨early, inFirst, rfl, rfl⟩
        refine ⟨early.matched, late.matched, rfl, ?_, takesSecond⟩
        rw [← whole] at takesFirst
        exact takesFirst
      case mpr =>
        rintro ⟨rfl, left, right, rfl, takesFirst, takesSecond⟩
        obtain ⟨early, inFirst, rfl, earlyRest⟩ := mem_occurrences_iff.mpr
          ⟨rfl, takesFirst⟩
        obtain ⟨late, inSecond, rfl, rfl⟩ := mem_occurrences_iff.mpr
          ⟨rfl, takesSecond⟩
        refine ⟨early.followedBy late, ?_, rfl, rfl⟩
        rw [occurrences, List.append_assoc]
        refine List.mem_flatMap.mpr ⟨early, inFirst, ?_⟩
        rw [earlyRest]
        exact List.mem_map.mpr ⟨late, inSecond, rfl⟩
  | .alt first second, before, front, rest, text => by
      have one : (∃ found ∈ first.occurrences before text,
          found.matched = front ∧ found.rest = rest) ↔
            front ++ rest = text ∧ first.Takes before front rest :=
        mem_occurrences_iff
      have two : (∃ found ∈ second.occurrences before text,
          found.matched = front ∧ found.rest = rest) ↔
            front ++ rest = text ∧ second.Takes before front rest :=
        mem_occurrences_iff
      simp only [occurrences, List.mem_append, Takes, or_and_right, exists_or,
        one, two, and_or_left]
  | .optional inner, before, front, rest, text => by
      have taken : (∃ found ∈ inner.occurrences before text,
          found.matched = front ∧ found.rest = rest) ↔
            front ++ rest = text ∧ inner.Takes before front rest :=
        mem_occurrences_iff
      simp only [occurrences, List.mem_append, List.mem_singleton, Takes,
        or_and_right, exists_or, taken, and_or_left, exists_eq_left]
      refine or_congr_right ⟨?_, ?_⟩
      · rintro ⟨rfl, rfl⟩
        exact ⟨rfl, rfl⟩
      · rintro ⟨whole, rfl⟩
        exact ⟨rfl, whole.symm⟩
  | .many accepts atLeast atMost, before, front, rest, text => by
      constructor
      case mp =>
        rintro ⟨found, member, rfl, rfl⟩
        obtain ⟨whole, all, enough, few, _⟩ := repetitions_cases member
        exact ⟨whole, all, enough, few⟩
      case mpr =>
        rintro ⟨rfl, all, enough, few⟩
        exact ⟨_, mem_repetitions all enough few, rfl, rfl⟩
  | .group inner, before, front, rest, text => by
      have taken : (∃ found ∈ inner.occurrences before text,
          found.matched = front ∧ found.rest = rest) ↔
            front ++ rest = text ∧ inner.Takes before front rest :=
        mem_occurrences_iff
      simp only [occurrences, List.mem_map, Takes, ← taken,
        exists_exists_and_eq_and]
  | .check holds, before, front, rest, text => by
      constructor
      case mp =>
        rintro ⟨found, member, rfl, rfl⟩
        rw [occurrences] at member
        split at member
        · next held =>
            cases List.mem_singleton.mp member
            exact ⟨rfl, rfl, held⟩
        · cases member
      case mpr =>
        rintro ⟨rfl, rfl, held⟩
        refine ⟨⟨[], rest, none⟩, ?_, rfl, rfl⟩
        rw [List.nil_append, occurrences, if_pos held]
        exact List.mem_singleton_self _

theorem Pattern.here_isSome_iff_takes {pattern : Pattern} {before : Option Char}
    {text : List Char} : (pattern.here before text).isSome = true ↔
      ∃ front rest, text = front ++ rest ∧ pattern.Takes before front rest := by
  rw [here, List.isSome_head?]
  constructor
  case mp =>
    intro some
    obtain ⟨found, member⟩ := List.exists_mem_of_ne_nil _ some
    obtain ⟨whole, takes⟩ := mem_occurrences_iff.mp ⟨found, member, rfl, rfl⟩
    exact ⟨_, _, whole.symm, takes⟩
  case mpr =>
    rintro ⟨front, rest, rfl, takes⟩
    obtain ⟨found, member, _⟩ := mem_occurrences_iff.mpr ⟨rfl, takes⟩
    exact List.ne_nil_of_mem member

theorem Pattern.searchFrom_isSome_iff {pattern : Pattern} :
    ∀ {text : List Char} {before : Option Char},
      (pattern.searchFrom before text).isSome = true ↔
        ∃ left front rest, text = left ++ (front ++ rest) ∧
          pattern.Takes (left.getLast?.or before) front rest
  | [], before => by
      rw [searchFrom, here_isSome_iff_takes]
      constructor
      case mp =>
        rintro ⟨front, rest, whole, takes⟩
        exact ⟨[], front, rest, whole, takes⟩
      case mpr =>
        rintro ⟨left, front, rest, whole, takes⟩
        obtain ⟨rfl, behind⟩ := List.append_eq_nil_iff.mp whole.symm
        exact ⟨front, rest, behind.symm, takes⟩
  | character :: text, before => by
      rw [searchFrom, Option.isSome_or, Bool.or_eq_true, here_isSome_iff_takes,
        searchFrom_isSome_iff]
      constructor
      case mp =>
        rintro (⟨front, rest, whole, takes⟩ | ⟨left, front, rest, rfl, takes⟩)
        · exact ⟨[], front, rest, whole, takes⟩
        · refine ⟨character :: left, front, rest, rfl, ?_⟩
          rw [List.getLast?_cons, Option.some_or]
          cases last : left.getLast? <;> rw [last] at takes <;> exact takes
      case mpr =>
        rintro ⟨left, front, rest, whole, takes⟩
        cases left with
        | nil => exact .inl ⟨front, rest, whole, takes⟩
        | cons first left =>
            obtain ⟨rfl, rfl⟩ := List.cons_eq_cons.mp whole
            refine .inr ⟨left, front, rest, rfl, ?_⟩
            rw [List.getLast?_cons, Option.some_or] at takes
            cases last : left.getLast? <;> rw [last] at takes <;> exact takes

theorem Pattern.occursIn_iff_takes {pattern : Pattern} {text : List Char} :
    pattern.occursIn text = true ↔
      ∃ left front rest, text = left ++ (front ++ rest) ∧
        pattern.Takes left.getLast? front rest := by
  rw [occursIn, search, searchFrom_isSome_iff]
  simp only [Option.or_none]

/-- A literal takes the texts with the same characters. -/
theorem Pattern.takes_literal {same : Char → Char → Bool} :
    ∀ {word : List Char} {before : Option Char} {front rest : List Char},
      (Pattern.literalBy same word).Takes before front rest ↔
        List.Forall₂ (fun expected character => same expected character = true)
          word front
  | [], before, front, rest => by
      rw [literalBy, Takes, List.forall₂_nil_left_iff]
      exact and_iff_left rfl
  | [expected], before, front, rest => by
      rw [literalBy, Takes]
      simp only [List.forall₂_cons_left_iff, List.forall₂_nil_left_iff]
      constructor
      case mp =>
        rintro ⟨character, rfl, accepted⟩
        exact ⟨character, [], accepted, rfl, rfl⟩
      case mpr =>
        rintro ⟨character, _, accepted, rfl, rfl⟩
        exact ⟨character, rfl, accepted⟩
  | expected :: next :: word, before, front, rest => by
      rw [literalBy, Takes, List.forall₂_cons_left_iff]
      · constructor
        case mp =>
          rintro ⟨_, later, rfl, ⟨character, rfl, accepted⟩, takes⟩
          exact ⟨character, later, accepted, takes_literal.mp takes, rfl⟩
        case mpr =>
          rintro ⟨character, later, accepted, takes, rfl⟩
          exact ⟨[character], later, rfl, ⟨character, rfl, accepted⟩,
            takes_literal.mpr takes⟩
      · nofun

section Matches

variable {pattern : Pattern} {found : Occurrence}

/-- What `re.finditer` yields is the match at a place of the text. -/
theorem Pattern.here_of_mem_findAllFrom :
    ∀ {text : List Char} {before : Option Char} {skipped : Nat},
      found ∈ pattern.findAllFrom before skipped text →
      ∃ left right, text = left ++ right ∧
        pattern.here (left.getLast?.or before) right = some found
  | [], before, skipped, member => by
      refine ⟨[], [], rfl, ?_⟩
      cases skipped <;> exact Option.mem_toList.mp member
  | character :: rest, before, skipped, member => by
      have later : ∀ {skipped : Nat},
          found ∈ pattern.findAllFrom (some character) skipped rest →
          ∃ left right, character :: rest = left ++ right ∧
            pattern.here (left.getLast?.or before) right = some found := by
        intro skipped inRest
        obtain ⟨left, right, rfl, here⟩ := here_of_mem_findAllFrom inRest
        refine ⟨character :: left, right, rfl, ?_⟩
        rw [List.getLast?_cons, Option.some_or]
        cases last : left.getLast? <;> rw [last] at here <;> exact here
      cases skipped with
      | succ skipped => exact later member
      | zero =>
          rw [findAllFrom] at member
          split at member
          · next first front =>
              rcases List.mem_cons.mp member with rfl | inRest
              · exact ⟨[], character :: rest, rfl, front⟩
              · exact later inRest
          · exact later member

/-- Each match begins with a mark, and holds no other. -/
def Pattern.BeginsWithMark (pattern : Pattern) (mark : Char) : Prop :=
  ∀ before text found, pattern.here before text = some found →
    ∃ inner, found.matched = mark :: inner ∧ mark ∉ inner

/-- No mark is skipped, so no match is missed. -/
theorem Pattern.mem_findAllFrom {mark : Char}
    (begins : pattern.BeginsWithMark mark) {right : List Char} :
    ∀ {left : List Char} {before : Option Char} {skipped : Nat},
      mark ∉ (left ++ mark :: right).take skipped →
      pattern.here (left.getLast?.or before) (mark :: right) = some found →
      found ∈ pattern.findAllFrom before skipped (left ++ mark :: right)
  | [], before, skipped, unmarked, here => by
      cases skipped with
      | succ skipped => exact absurd List.mem_cons_self unmarked
      | zero =>
          have front : pattern.here before (mark :: right) = some found := here
          rw [List.nil_append, findAllFrom, front]
          exact List.mem_cons_self
  | character :: left, before, skipped, unmarked, here => by
      have inRest : pattern.here (left.getLast?.or (some character))
          (mark :: right) = some found := by
        rw [List.getLast?_cons, Option.some_or] at here
        cases last : left.getLast? <;> rw [last] at here <;> exact here
      rw [List.cons_append]
      cases skipped with
      | succ skipped =>
          refine mem_findAllFrom begins ?_ inRest
          exact fun member => unmarked (List.mem_cons_of_mem _ member)
      | zero =>
          rw [findAllFrom]
          split
          · next first front =>
              refine List.mem_cons_of_mem _ (mem_findAllFrom begins ?_ inRest)
              obtain ⟨inner, isMatch, single⟩ := begins _ _ _ front
              have whole := matched_append_rest (mem_of_here front)
              rw [isMatch, List.cons_append] at whole
              obtain ⟨-, behind⟩ := List.cons.inj whole
              rw [isMatch, List.length_cons, Nat.add_sub_cancel, ← behind,
                List.take_left]
              exact single
          · exact mem_findAllFrom begins (by simp) inRest

theorem Pattern.mem_findAll_iff {mark : Char}
    (begins : pattern.BeginsWithMark mark) {text : List Char} :
    found ∈ pattern.findAll text ↔
      ∃ left right, text = left ++ right ∧
        pattern.here left.getLast? right = some found := by
  constructor
  case mp =>
    intro member
    obtain ⟨left, right, whole, here⟩ := here_of_mem_findAllFrom member
    rw [Option.or_none] at here
    exact ⟨left, right, whole, here⟩
  case mpr =>
    rintro ⟨left, right, rfl, here⟩
    obtain ⟨inner, isMatch, -⟩ := begins _ _ _ here
    have whole := matched_append_rest (mem_of_here here)
    rw [isMatch, List.cons_append] at whole
    rw [← whole] at here ⊢
    refine mem_findAllFrom begins (by simp) ?_
    rw [Option.or_none]
    exact here

end Matches

/-- Repetitions that cannot be cut short leave only the longest, if there are
not too many. -/
theorem flatMap_repetitions_within {α : Type} {accepts : Char → Bool} :
    ∀ {text : List Char} {atLeast : Nat} {atMost : Option Nat}
      {next : Occurrence → List α},
      (∀ found character rest, accepts character = true →
        found.rest = character :: rest → next found = []) →
      (repetitions accepts atLeast atMost text).flatMap next =
        if atLeast ≤ (text.takeWhile accepts).length ∧
            ∀ most ∈ atMost, (text.takeWhile accepts).length ≤ most then
          next ⟨text.takeWhile accepts, text.dropWhile accepts, none⟩
        else []
  | [], atLeast, atMost, next, _ => by
      rw [repetitions]
      by_cases enough : atLeast = 0
      case pos =>
        rw [if_pos enough, if_pos ⟨Nat.le_of_eq enough,
          fun _ _ => Nat.zero_le _⟩]
        exact List.flatMap_singleton next _
      case neg =>
        rw [if_neg enough, if_neg fun both => enough (Nat.le_zero.mp both.1)]
        rfl
  | character :: rest, atLeast, atMost, next, stops => by
      rw [repetitions]
      by_cases accepted : accepts character = true
      case neg =>
        rw [if_pos (.inr (by simpa using accepted)),
          List.takeWhile_cons_of_neg accepted,
          List.dropWhile_cons_of_neg accepted]
        by_cases enough : atLeast = 0
        case pos =>
          rw [if_pos enough, if_pos ⟨Nat.le_of_eq enough,
            fun _ _ => Nat.zero_le _⟩]
          exact List.flatMap_singleton next _
        case neg =>
          rw [if_neg enough, if_neg fun both => enough (Nat.le_zero.mp both.1)]
          rfl
      case pos =>
        have stopped : (if atLeast = 0 then
            [(⟨[], character :: rest, none⟩ : Occurrence)] else []).flatMap
              next = [] := by
          split
          · rw [List.flatMap_singleton]
            exact stops _ character rest accepted rfl
          · rfl
        rw [List.takeWhile_cons_of_pos accepted,
          List.dropWhile_cons_of_pos accepted, List.length_cons]
        by_cases none' : atMost = some 0
        case pos =>
          rw [if_pos (.inl none'), stopped, if_neg]
          exact fun both => absurd (both.2 0 none') (Nat.not_succ_le_zero _)
        case neg =>
          have later := @flatMap_repetitions_within α accepts rest (atLeast - 1)
            (atMost.map (· - 1)) (fun found => next { found with
              matched := character :: found.matched })
            fun found character rest accepted behind =>
              stops _ character rest accepted behind
          rw [if_neg (by simp [none', accepted]), List.flatMap_append, stopped,
            List.append_nil, List.flatMap_map, later]
          refine if_congr ?_ rfl rfl
          refine and_congr (by omega) ?_
          cases atMost with
          | none => exact iff_of_true (by simp) (by simp)
          | some most =>
              have positive : most ≠ 0 := fun zero =>
                none' (congrArg some zero)
              simp only [Option.map_some, Option.mem_some_iff, forall_eq']
              omega

/-- The parts between separators: the first at the front of the text, each
other one behind a separator. -/
theorem splitOnP_parts {α : Type} (separates : α → Bool) :
    ∀ text : List α, ∃ first others,
      text.splitOnP separates = first :: others ∧
      (∃ right, text = first ++ right ∧
        ∀ next ∈ right.head?, separates next = true) ∧
      ∀ part ∈ others, ∃ left last right, text = left ++ last :: (part ++ right) ∧
        separates last = true ∧ ∀ next ∈ right.head?, separates next = true
  | [] => ⟨[], [], List.splitOnP_nil, ⟨[], rfl, nofun⟩, nofun⟩
  | head :: text => by
      obtain ⟨first, others, split, ⟨right, whole, ends⟩, behind⟩ :=
        splitOnP_parts separates text
      have later : ∀ part ∈ others, ∃ left last right,
          head :: text = left ++ last :: (part ++ right) ∧
            separates last = true ∧
            ∀ next ∈ right.head?, separates next = true := by
        intro part member
        obtain ⟨left, last, right, rest, separated, ends⟩ := behind part member
        exact ⟨head :: left, last, right, congrArg (head :: ·) rest, separated,
          ends⟩
      rw [List.splitOnP_cons_eq_if_modifyHead, split]
      by_cases separated : separates head = true
      case pos =>
        rw [if_pos separated]
        refine ⟨[], first :: others, rfl, ⟨head :: text, rfl, ?_⟩, ?_⟩
        · intro next isNext
          cases isNext
          exact separated
        · intro part member
          rcases List.mem_cons.mp member with rfl | inOthers
          · exact ⟨[], head, right, congrArg (head :: ·) whole, separated, ends⟩
          · exact later part inOthers
      case neg =>
        rw [if_neg separated, List.modifyHead_cons]
        exact ⟨head :: first, others, rfl,
          ⟨right, congrArg (head :: ·) whole, ends⟩, later⟩

/-- A word is a part of the text between two blanks, or the ends. -/
theorem mem_words_iff {word text : List Char} :
    word ∈ words text ↔ word ≠ [] ∧
      (∀ character ∈ word, isSpace character = false) ∧
      ∃ left right, text = left ++ (word ++ right) ∧
        (∀ last ∈ left.getLast?, isSpace last = true) ∧
        ∀ next ∈ right.head?, isSpace next = true := by
  constructor
  case mp =>
    intro member
    obtain ⟨filled, letters⟩ := mem_words member
    refine ⟨filled, fun character inWord => (letters character inWord).1, ?_⟩
    obtain ⟨inSplit, -⟩ := List.mem_filter.mp member
    obtain ⟨first, others, split, ⟨right, whole, ends⟩, behind⟩ :=
      splitOnP_parts isSpace text
    rw [split] at inSplit
    rcases List.mem_cons.mp inSplit with rfl | later
    · exact ⟨[], right, whole, nofun, ends⟩
    · obtain ⟨left, last, right, rest, separated, ends⟩ := behind word later
      refine ⟨left ++ [last], right, ?_, ?_, ends⟩
      · rw [rest, List.append_assoc, List.singleton_append]
      · intro other isLast
        rw [List.getLast?_concat] at isLast
        cases isLast
        exact separated
  case mpr =>
    rintro ⟨filled, letters, left, right, rfl, blankBefore, blankBehind⟩
    have inner : word ∈ words (word ++ right) := by
      cases right with
      | nil =>
          rw [List.append_nil, words_of_forall_not_space filled letters]
          exact List.mem_singleton_self _
      | cons next right =>
          rw [words_append_space word right (blankBehind next rfl),
            words_of_forall_not_space filled letters]
          exact List.mem_append_left _ (List.mem_singleton_self _)
    induction left using List.reverseRecOn with
    | nil => exact inner
    | append_singleton left last _ =>
        rw [List.append_assoc, List.singleton_append,
          words_append_space left _ (blankBefore last (by simp))]
        exact List.mem_append_right _ inner

/-- A return before a line feed belongs to no word: the parts between blanks
are the same, but for empty ones behind the first. -/
theorem splitOnP_withoutReturns (text : List Char) :
    ∃ first others others', (withoutReturns text).splitOnP isSpace =
        first :: others ∧ text.splitOnP isSpace = first :: others' ∧
      others.filter (· ≠ []) = others'.filter (· ≠ []) := by
  induction text using withoutReturns.induct with
  | case1 => exact ⟨[], [], [], List.splitOnP_nil, List.splitOnP_nil, rfl⟩
  | case2 rest ih =>
      obtain ⟨first, others, others', split, split', same⟩ :=
        ih
      have blank : isSpace '\n' = true ∧ isSpace '\r' = true := by decide
      refine ⟨[], first :: others, [] :: first :: others', ?_, ?_, ?_⟩
      · rw [withoutReturns, List.splitOnP_cons_eq_if_modifyHead,
          if_pos blank.1, split]
      · rw [List.splitOnP_cons_eq_if_modifyHead, if_pos blank.2,
          List.splitOnP_cons_eq_if_modifyHead, if_pos blank.1, split']
      · rw [List.filter_cons_of_neg (a := []) (by simp), List.filter_cons,
          List.filter_cons, same]
  | case3 character rest noReturn ih =>
      obtain ⟨first, others, others', split, split', same⟩ :=
        ih
      rw [withoutReturns, List.splitOnP_cons_eq_if_modifyHead,
        List.splitOnP_cons_eq_if_modifyHead, split, split']
      · by_cases blank : isSpace character = true
        case pos =>
          rw [if_pos blank, if_pos blank]
          refine ⟨[], first :: others, first :: others', rfl, rfl, ?_⟩
          rw [List.filter_cons, List.filter_cons, same]
        case neg =>
          rw [if_neg blank, if_neg blank]
          exact ⟨character :: first, others, others', rfl, rfl, same⟩
      · exact noReturn

theorem words_withoutReturns (text : List Char) :
    words (withoutReturns text) = words text := by
  obtain ⟨first, others, others', split, split', same⟩ :=
    splitOnP_withoutReturns text
  rw [words, words, split, split', List.filter_cons, List.filter_cons, same]

/-- Words do not go beyond a line boundary. -/
theorem words_splitOnP (text : List Char) :
    words text = (text.splitOnP isLineBreak).flatMap words := by
  cases behind : text.dropWhile fun character => !isLineBreak character with
  | nil =>
      have whole := List.dropWhile_eq_nil_iff.mp behind
      rw [List.splitOnP_eq_singleton fun character member => by
        simpa using whole character member, List.flatMap_singleton]
  | cons breaks rest =>
      have isBreak : isLineBreak breaks = true := by
        have stops := List.head?_dropWhile_not
          (fun character => !isLineBreak character) text
        rw [behind] at stops
        simpa using stops
      have whole : text = (text.takeWhile fun character =>
          !isLineBreak character) ++ breaks :: rest := by
        rw [← behind, List.takeWhile_append_dropWhile]
      have shorter : rest.length < text.length := by
        rw [whole, List.length_append, List.length_cons]
        omega
      rw [whole, words_append_space _ _ (isSpace_of_isLineBreak isBreak),
        words_splitOnP rest,
        List.splitOnP_append_cons_of_forall_mem (fun character member => by
          simpa using List.mem_takeWhile_imp member) _ isBreak,
        List.flatMap_cons]
termination_by text.length

theorem words_lines (text : List Char) :
    (lines text).flatMap words = words text := by
  rw [← words_withoutReturns, words_splitOnP, lines]
  split
  · next last =>
      obtain ⟨front, whole⟩ := List.getLast?_eq_some_iff.mp last
      rw [whole, List.dropLast_concat, List.flatMap_append,
        List.flatMap_singleton, words_eq_nil (List.forall_mem_nil _),
        List.append_nil]
  · rfl

end SecAI.Text
