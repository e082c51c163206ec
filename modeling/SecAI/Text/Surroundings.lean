/-
Module: SecAI.Text.Surroundings
Purpose: What is known of a pattern in a text from the text without the blanks
  around it.
Trusted boundary: none
Main exports:
  Pattern.TakesEndsForBlanks, Pattern.occursIn_surrounded, Pattern.Visible
-/
import SecAI.Text.Pattern

namespace SecAI.Text

section Surroundings

variable {blank : Char → Bool}

/-- A side of a text at which there is nothing, or the same side at which there
may be a blank. -/
inductive SameSide (blank : Char → Bool) : Option Char → Option Char → Prop
  | same (side : Option Char) : SameSide blank side side
  | blank (character : Char) (isBlank : blank character = true) :
      SameSide blank none (some character)

/-- No check of a pattern tells the end of the text from a blank. -/
def Pattern.TakesEndsForBlanks (blank : Char → Bool) : Pattern → Prop
  | .one _ => True
  | .seq first second =>
      first.TakesEndsForBlanks blank ∧ second.TakesEndsForBlanks blank
  | .alt first second =>
      first.TakesEndsForBlanks blank ∧ second.TakesEndsForBlanks blank
  | .optional inner => inner.TakesEndsForBlanks blank
  | .many _ _ _ => True
  | .group inner => inner.TakesEndsForBlanks blank
  | .check holds => ∀ before around next behind,
      SameSide blank before around → SameSide blank next behind →
        holds around behind = holds before next

/-- An occurrence with more text behind it. -/
def Occurrence.extended (found : Occurrence) (behind : List Char) :
    Occurrence :=
  { found with rest := found.rest ++ behind }

theorem SameSide.last {before around : Option Char}
    (sides : SameSide blank before around) (found : Occurrence) :
    SameSide blank (found.last before) (found.last around) := by
  unfold Occurrence.last
  cases found.matched.getLast? with
  | none => exact sides
  | some character => exact .same _

/-- The text is empty, or starts with a blank. -/
def StartsBlank (blank : Char → Bool) (text : List Char) : Prop :=
  ∀ character ∈ text.head?, blank character = true

variable {text : List Char}

theorem StartsBlank.of_forall
    (blanks : ∀ character ∈ text, blank character = true) :
    StartsBlank blank text := fun character first =>
  blanks character (List.mem_of_mem_head? first)

variable {behind : List Char}

theorem SameSide.head? (opens : StartsBlank blank behind) (text : List Char) :
    SameSide blank text.head? (text ++ behind).head? := by
  cases text with
  | cons character rest => exact .same _
  | nil =>
      cases behind with
      | nil => exact .same _
      | cons character rest => exact .blank character (opens character rfl)

theorem repetitions_extended {accepts : Char → Bool} :
    ∀ {atLeast : Nat} {atMost : Option Nat} {found : Occurrence},
      found ∈ repetitions accepts atLeast atMost text →
        found.extended behind ∈
          repetitions accepts atLeast atMost (text ++ behind) := by
  induction text with
  | nil =>
      intro atLeast atMost found member
      rw [repetitions] at member
      split at member
      · next enough =>
          cases List.mem_singleton.mp member
          cases behind with
          | nil =>
              rw [List.nil_append, repetitions, if_pos enough]
              exact List.mem_singleton_self _
          | cons character rest =>
              rw [List.nil_append, repetitions, if_pos enough]
              split_ifs
              · exact List.mem_singleton_self _
              · exact List.mem_append_right _ (List.mem_singleton_self _)
      · cases member
  | cons character rest ih =>
      intro atLeast atMost found member
      have stops : found ∈ (if atLeast = 0 then
          [(⟨[], character :: rest, none⟩ : Occurrence)] else []) →
          found.extended behind ∈ (if atLeast = 0 then
            [(⟨[], character :: (rest ++ behind), none⟩ : Occurrence)]
            else []) := by
        intro stop
        split_ifs at stop with enough
        · cases List.mem_singleton.mp stop
          rw [if_pos enough]
          exact List.mem_singleton_self _
        · cases stop
      rw [repetitions] at member
      rw [List.cons_append, repetitions]
      by_cases stopped : atMost = some 0 ∨ accepts character = false
      · rw [if_pos stopped] at member ⊢
        exact stops member
      rw [if_neg stopped] at member ⊢
      rcases List.mem_append.mp member with longer | stop
      · obtain ⟨inner, inRest, rfl⟩ := List.mem_map.mp longer
        apply List.mem_append_left
        exact List.mem_map.mpr ⟨_, ih inRest, rfl⟩
      · exact List.mem_append_right _ (stops stop)

/-- A match stays one when more text follows behind a blank. -/
theorem Pattern.occurrences_extended (opens : StartsBlank blank behind) :
    ∀ {pattern : Pattern}, pattern.TakesEndsForBlanks blank →
      ∀ {before around : Option Char} {text : List Char} {found : Occurrence},
        SameSide blank before around →
          found ∈ pattern.occurrences before text →
            found.extended behind ∈
              pattern.occurrences around (text ++ behind)
  | .one accepts, _, before, around, text, found, _, member => by
      cases text with
      | nil => cases member
      | cons character rest =>
          rw [occurrences] at member
          rw [List.cons_append, occurrences]
          split_ifs at member ⊢
          · cases List.mem_singleton.mp member
            exact List.mem_singleton_self _
          · cases member
  | .seq first second, ends, before, around, text, found, sides, member => by
      rw [occurrences] at member ⊢
      obtain ⟨front, inFirst, later⟩ := List.mem_flatMap.mp member
      obtain ⟨back, inSecond, rfl⟩ := List.mem_map.mp later
      apply List.mem_flatMap.mpr
      refine ⟨front.extended behind,
        occurrences_extended opens ends.1 sides inFirst, ?_⟩
      exact List.mem_map.mpr ⟨back.extended behind,
        occurrences_extended opens ends.2 (sides.last front) inSecond, rfl⟩
  | .alt first second, ends, before, around, text, found, sides, member => by
      rw [occurrences] at member ⊢
      rcases List.mem_append.mp member with inFirst | inSecond
      · exact List.mem_append_left _
          (occurrences_extended opens ends.1 sides inFirst)
      · exact List.mem_append_right _
          (occurrences_extended opens ends.2 sides inSecond)
  | .optional inner, ends, before, around, text, found, sides, member => by
      have innerEnds : inner.TakesEndsForBlanks blank := ends
      rw [occurrences] at member ⊢
      rcases List.mem_append.mp member with inside | empty
      · exact List.mem_append_left _
          (occurrences_extended opens innerEnds sides inside)
      · cases List.mem_singleton.mp empty
        exact List.mem_append_right _ (List.mem_singleton_self _)
  | .many accepts atLeast atMost, _, before, around, text, found, _,
      member => repetitions_extended member
  | .group inner, ends, before, around, text, found, sides, member => by
      have innerEnds : inner.TakesEndsForBlanks blank := ends
      rw [occurrences] at member ⊢
      obtain ⟨inside, inInner, rfl⟩ := List.mem_map.mp member
      exact List.mem_map.mpr ⟨inside.extended behind,
        occurrences_extended opens innerEnds sides inInner, rfl⟩
  | .check holds, ends, before, around, text, found, sides, member => by
      rw [occurrences] at member ⊢
      rw [ends _ _ _ _ sides (SameSide.head? opens text)]
      split_ifs at member ⊢
      · cases List.mem_singleton.mp member
        exact List.mem_singleton_self _
      · cases member

variable {pattern : Pattern}

theorem Pattern.here_isSome_iff (before : Option Char) (text : List Char) :
    (pattern.here before text).isSome = true ↔
      ∃ found, found ∈ pattern.occurrences before text := by
  rw [here_isSome, Bool.not_eq_true', ← Bool.not_eq_true, List.isEmpty_iff,
    List.eq_nil_iff_forall_not_mem]
  simp only [not_forall, not_not]

theorem Pattern.searchFrom_append_right
    (ends : pattern.TakesEndsForBlanks blank)
    (opens : StartsBlank blank behind) :
    ∀ {before around : Option Char}, SameSide blank before around →
      (pattern.searchFrom before text).isSome = true →
        (pattern.searchFrom around (text ++ behind)).isSome = true := by
  have here : ∀ {before around : Option Char} {text : List Char},
      SameSide blank before around → (pattern.here before text).isSome = true →
        (pattern.here around (text ++ behind)).isSome = true := by
    intro before around text sides isHere
    obtain ⟨found, member⟩ := (here_isSome_iff _ _).mp isHere
    exact (here_isSome_iff _ _).mpr
      ⟨_, occurrences_extended opens ends sides member⟩
  induction text with
  | nil =>
      intro before around sides found
      have front := here sides found
      cases behind with
      | nil => exact front
      | cons character rest =>
          rw [List.nil_append] at front ⊢
          rw [searchFrom, Option.isSome_or, front, Bool.true_or]
  | cons character rest ih =>
      intro before around sides found
      rw [searchFrom, Option.isSome_or, Bool.or_eq_true] at found
      rw [List.cons_append, searchFrom, Option.isSome_or, Bool.or_eq_true]
      rcases found with front | later
      · exact .inl (here sides front)
      · exact .inr (ih (.same _) later)

theorem Pattern.searchFrom_append_left
    (found : ∀ around, SameSide blank none around →
      (pattern.searchFrom around text).isSome = true) :
    ∀ {front : List Char} {before : Option Char},
      (∀ character ∈ front, blank character = true) →
        SameSide blank none before →
          (pattern.searchFrom before (front ++ text)).isSome = true
  | [], before, _, side => found before side
  | character :: front, before, blanks, _ => by
      have later := searchFrom_append_left found
        (fun other member => blanks other (List.mem_cons_of_mem _ member))
        (.blank character (blanks character List.mem_cons_self))
      rw [List.cons_append, searchFrom, Option.isSome_or, later, Bool.or_true]

theorem Pattern.occursIn_surrounded {front : List Char}
    (ends : pattern.TakesEndsForBlanks blank)
    (frontBlanks : ∀ character ∈ front, blank character = true)
    (blanks : ∀ character ∈ behind, blank character = true)
    (occurs : pattern.occursIn text = true) :
    pattern.occursIn (front ++ (text ++ behind)) = true := by
  apply searchFrom_append_left _ frontBlanks (.same none)
  intro around side
  exact searchFrom_append_right ends (.of_forall blanks) side occurs

/-- Every match takes a character that is not blank. -/
def Pattern.Visible (blank : Char → Bool) : Pattern → Prop
  | .one accepts =>
      ∀ character, blank character = true → accepts character = false
  | .seq first second => first.Visible blank ∨ second.Visible blank
  | .alt first second => first.Visible blank ∧ second.Visible blank
  | .many accepts atLeast _ => 0 < atLeast ∧
      ∀ character, blank character = true → accepts character = false
  | .group inner => inner.Visible blank
  | .optional _ => False
  | .check _ => False

theorem Pattern.occurrences_blank :
    ∀ {pattern : Pattern}, pattern.Visible blank →
      ∀ {before : Option Char} {text : List Char},
        (∀ character ∈ text, blank character = true) →
          pattern.occurrences before text = []
  | .one accepts, visible, before, text, blanks => by
      cases text with
      | nil => rfl
      | cons character rest =>
          have refused := visible character
            (blanks character List.mem_cons_self)
          rw [occurrences, refused, if_neg Bool.false_ne_true]
  | .seq first second, visible, before, text, blanks => by
      rw [occurrences]
      rcases visible with inFirst | inSecond
      · rw [occurrences_blank inFirst blanks]
        rfl
      · rw [List.flatMap_eq_nil_iff]
        intro front member
        have whole := matched_append_rest member
        have behind : ∀ character ∈ front.rest, blank character = true := by
          intro character inRest
          apply blanks
          rw [← whole]
          exact List.mem_append_right _ inRest
        rw [occurrences_blank inSecond behind]
        rfl
  | .alt first second, visible, before, text, blanks => by
      rw [occurrences, occurrences_blank visible.1 blanks,
        occurrences_blank visible.2 blanks]
      rfl
  | .many accepts atLeast atMost, visible, before, text, blanks => by
      rw [occurrences]
      have some := Nat.pos_iff_ne_zero.mp visible.1
      cases text with
      | nil => rw [repetitions, if_neg some]
      | cons character rest =>
          have refused := visible.2 character
            (blanks character List.mem_cons_self)
          rw [repetitions]
          rw [if_pos (.inr refused), if_neg some]
  | .group inner, visible, before, text, blanks => by
      have inside : inner.Visible blank := visible
      rw [occurrences, occurrences_blank inside blanks]
      rfl

theorem Pattern.occursIn_blank (visible : pattern.Visible blank)
    (blanks : ∀ character ∈ text, blank character = true) :
    pattern.occursIn text = false := by
  have nowhere : ∀ {text : List Char} {before : Option Char},
      (∀ character ∈ text, blank character = true) →
        (pattern.searchFrom before text).isSome = false := by
    intro text
    induction text with
    | nil =>
        intro before blanks
        rw [searchFrom, here, occurrences_blank visible blanks]
        rfl
    | cons character rest ih =>
        intro before blanks
        rw [searchFrom, here, occurrences_blank visible blanks]
        exact ih fun other member =>
          blanks other (List.mem_cons_of_mem _ member)
  exact nowhere blanks

theorem Pattern.literalBy_takesEnds (same : Char → Char → Bool) :
    ∀ characters, (Pattern.literalBy same characters).TakesEndsForBlanks blank
  | [] => fun _ _ _ _ _ _ => rfl
  | [_] => trivial
  | _ :: next :: rest => ⟨trivial, literalBy_takesEnds same (next :: rest)⟩

theorem Pattern.literalBy_visible {same : Char → Char → Bool} {first : Char}
    (visible : ∀ character, blank character = true →
      same first character = false) :
    ∀ rest, (Pattern.literalBy same (first :: rest)).Visible blank
  | [] => visible
  | _ :: _ => .inl visible

theorem Pattern.oneOf_takesEnds :
    ∀ {patterns : List Pattern},
      (∀ pattern ∈ patterns, pattern.TakesEndsForBlanks blank) →
        (Pattern.oneOf patterns).TakesEndsForBlanks blank
  | [], _ => fun _ _ _ _ _ _ => rfl
  | [pattern], ends => ends pattern (List.mem_singleton_self _)
  | pattern :: _ :: _, ends =>
      ⟨ends pattern List.mem_cons_self, oneOf_takesEnds fun other member =>
        ends other (List.mem_cons_of_mem _ member)⟩

theorem Pattern.oneOf_visible :
    ∀ {pattern : Pattern} {patterns : List Pattern},
      (∀ other ∈ pattern :: patterns, other.Visible blank) →
        (Pattern.oneOf (pattern :: patterns)).Visible blank
  | pattern, [], visible => visible pattern (List.mem_singleton_self _)
  | pattern, _ :: _, visible =>
      ⟨visible pattern List.mem_cons_self, oneOf_visible fun other member =>
        visible other (List.mem_cons_of_mem _ member)⟩

theorem Pattern.wordBoundary_takesEnds {isWord : Char → Bool}
    (wordless : ∀ character, blank character = true →
      isWord character = false) :
    (Pattern.wordBoundary isWord).TakesEndsForBlanks blank := by
  have alike : ∀ {side around : Option Char}, SameSide blank side around →
      around.any isWord = side.any isWord := by
    intro side around sides
    cases sides with
    | same => rfl
    | blank character isBlank => exact wordless character isBlank
  intro before around next behind left right
  dsimp only
  rw [alike left, alike right]

end Surroundings

end SecAI.Text
