/-
Module: SecAI.RestrictedMarkdown.LineEndings
Purpose: The passes over a source before its lines are cut, and what they make
  of its line endings.
Trusted boundary: none
Main exports:
  withEnding, unifyLineEndings_withEnding, normalizeCitationSyntax_withEnding
-/
import SecAI.RestrictedMarkdown.BlockParser
import SecAI.RestrictedMarkdown.SafeLinks

namespace SecAI.RestrictedMarkdown

/-! ## The endings of a text -/

def withEnding (ending text : Units) : Units :=
  text.flatMap fun code => if code = unit '\n' then ending else [code]

/-- The endings of lines that are no line feed: a return, with a line feed
behind it or not. -/
def returnEndings : List Units := [[unit '\r', unit '\n'], [unit '\r']]

section Endings

variable {ending : Units}

theorem withEnding_cons_of_ne {code : UInt16} (text : Units)
    (other : code ≠ unit '\n') :
    withEnding ending (code :: text) = code :: withEnding ending text := by
  rw [withEnding, List.flatMap_cons, if_neg other]
  rfl

theorem withEnding_cons_feed (text : Units) :
    withEnding ending (unit '\n' :: text) =
      ending ++ withEnding ending text := by
  rw [withEnding, List.flatMap_cons, if_pos rfl]
  rfl

theorem withEnding_append_of_plain {front : Units} (text : Units)
    (plain : unit '\n' ∉ front) :
    withEnding ending (front ++ text) = front ++ withEnding ending text := by
  induction front with
  | nil => rfl
  | cons code front ih =>
      have own := List.ne_of_not_mem_cons plain
      have others := List.not_mem_of_not_mem_cons plain
      rw [List.cons_append, withEnding_cons_of_ne _ (Ne.symm own),
        ih others, List.cons_append]

theorem not_mem_unifyLineEndings (afterReturn : Bool) (text : Units) :
    unit '\r' ∉ unifyLineEndings afterReturn text := by
  induction text generalizing afterReturn with
  | nil => exact List.not_mem_nil
  | cons code rest ih =>
      rw [unifyLineEndings]
      split_ifs with isReturn isSecond
      · exact List.not_mem_cons_of_ne_of_not_mem (by decide)
          (ih true)
      · exact ih false
      · exact List.not_mem_cons_of_ne_of_not_mem
          (fun same => isReturn same.symm) (ih false)

theorem unifyLineEndings_withEnding (isReturn : ending ∈ returnEndings) :
    ∀ {text : Units} (afterReturn : Bool), unit '\r' ∉ text →
      unifyLineEndings afterReturn (withEnding ending text) = text
  | [], _, _ => rfl
  | code :: rest, afterReturn, plain => by
      have own := List.ne_of_not_mem_cons plain
      have others := List.not_mem_of_not_mem_cons plain
      have next : ∀ afterReturn,
          unifyLineEndings afterReturn (withEnding ending rest) = rest :=
        fun afterReturn =>
          unifyLineEndings_withEnding isReturn afterReturn others
      by_cases isFeed : code = unit '\n'
      case pos =>
        rw [isFeed, withEnding_cons_feed]
        rcases List.mem_pair.mp isReturn with rfl | rfl
        · exact congrArg (unit '\n' :: ·) (next false)
        · exact congrArg (unit '\n' :: ·) (next true)
      case neg =>
        rw [withEnding_cons_of_ne _ isFeed, unifyLineEndings,
          if_neg (Ne.symm own), if_neg fun both => isFeed both.1, next]

theorem unifyLineEndings_of_feeds :
    ∀ {text : Units}, unit '\r' ∉ text → unifyLineEndings false text = text
  | [], _ => rfl
  | code :: rest, plain => by
      have own := List.ne_of_not_mem_cons plain
      have others := List.not_mem_of_not_mem_cons plain
      rw [unifyLineEndings, if_neg (Ne.symm own),
        if_neg fun both => Bool.false_ne_true both.2,
        unifyLineEndings_of_feeds others]

end Endings

/-! ## Paragraphs of a strong text -/

/-- Line feeds stand behind returns only. -/
def FeedsFollowReturns (text : Units) : Prop :=
  text.IsChain fun first second => second = unit '\n' → first = unit '\r'

/-- Such line feeds leave no empty line between them. -/
theorem lineBreakAt_of_feedsFollowReturns {code : UInt16}
    {text behind : Units} (follows : FeedsFollowReturns (code :: text))
    (breaks : lineBreakAt text = some behind) : lineBreakAt behind = none := by
  cases text with
  | nil => cases breaks
  | cons feed rest =>
      rw [lineBreakAt] at breaks
      split at breaks
      case isFalse => cases breaks
      case isTrue isFeed =>
        cases breaks
        cases after : rest.dropWhile isBlank with
        | nil => rfl
        | cons last others =>
            refine if_neg fun isBreak => ?_
            -- The code unit before the second line feed is the first, or a
            -- blank.
            have whole : feed :: rest =
                (feed :: rest.takeWhile isBlank) ++ last :: others := by
              rw [← after, List.cons_append, List.takeWhile_append_dropWhile]
            have chain := (List.isChain_cons.mp follows).2
            rw [whole] at chain
            obtain ⟨_, _, apart⟩ := List.isChain_append.mp chain
            have isReturn := apart _
              (List.getLast?_eq_some_getLast (by simp)) last rfl isBreak
            have member := List.getLast_mem
              (l := feed :: rest.takeWhile isBlank) (by simp)
            rw [isReturn] at member
            rcases List.mem_cons.mp member with same | inBlanks
            · rw [isFeed] at same
              revert same
              decide
            · have blank := List.mem_takeWhile_imp inBlanks
              revert blank
              decide

theorem normalizeInlineStrongParagraphs_of_returns {source : Units}
    (follows : FeedsFollowReturns source) :
    normalizeInlineStrongParagraphs source = source := by
  refine replaceAll_eq_self fun rest atEnd => ?_
  have chain : FeedsFollowReturns rest := follows.suffix atEnd
  cases rest with
  | nil => rfl
  | cons code rest =>
      rw [strongParagraphAt]
      split
      · rfl
      cases breaks : lineBreakAt rest with
      | none => rfl
      | some behind =>
          rw [Option.bind_some,
            lineBreakAt_of_feedsFollowReturns chain breaks]
          rfl

/-- Where the lines end with a return, line feeds stand behind returns only. -/
theorem feedsFollowReturns_withEnding {ending : Units}
    (isReturn : ending ∈ returnEndings) (text : Units) :
    FeedsFollowReturns (withEnding ending text) := by
  have starts : ∀ text : Units, ∀ code ∈ (withEnding ending text).head?,
      code ≠ unit '\n' := by
    intro text code isHead
    cases text with
    | nil => cases isHead
    | cons first rest =>
        by_cases isFeed : first = unit '\n'
        case pos =>
          rw [isFeed, withEnding_cons_feed] at isHead
          rcases List.mem_pair.mp isReturn with rfl | rfl <;>
            (cases isHead; decide)
        case neg =>
          rw [withEnding_cons_of_ne _ isFeed] at isHead
          cases isHead
          exact isFeed
  induction text with
  | nil => exact .nil
  | cons first rest ih =>
      have apart : ∀ {front : Units}, FeedsFollowReturns front →
          FeedsFollowReturns (front ++ withEnding ending rest) :=
        fun inFront => List.isChain_append.mpr ⟨inFront, ih,
          fun _ _ code isHead isFeed =>
            (starts rest code isHead isFeed).elim⟩
      by_cases isFeed : first = unit '\n'
      case pos =>
        rw [isFeed, withEnding_cons_feed]
        rcases List.mem_pair.mp isReturn with rfl | rfl
        · exact apart (.cons_cons (fun _ => rfl) (.singleton _))
        · exact apart (.singleton _)
      case neg =>
        rw [withEnding_cons_of_ne _ isFeed]
        have alone : FeedsFollowReturns [first] := .singleton _
        exact apart alone

/-! ## Citations -/

/-- A number in brackets, and what stands behind it. -/
theorem numberBetween_eq_some_iff {opening closing : UInt16}
    (noDigit : isDigit closing = false) {text digits : Units} :
    numberBetween opening closing text = some digits ↔
      ∃ behind, text = opening :: (digits ++ closing :: behind) ∧
        digits ≠ [] ∧ digits.length ≤ 2 ∧ ∀ code ∈ digits, isDigit code := by
  constructor
  case mp =>
    intro found
    rw [numberBetween.eq_def] at found
    split at found
    case h_2 => cases found
    case h_1 code rest =>
      dsimp only at found
      split at found
      case isFalse => cases found
      case isTrue isNumber =>
        cases found
        obtain ⟨rfl, filled, closes⟩ := isNumber
        have front : (rest.take 2).takeWhile isDigit <+: rest :=
          (List.takeWhile_prefix _).trans (List.take_prefix _ _)
        have isPart := List.prefix_iff_eq_append.mp front
        obtain ⟨behind, isBehind⟩ := List.head?_eq_some_iff.mp closes
        rw [isBehind] at isPart
        refine ⟨behind, congrArg _ isPart.symm, filled, ?_,
          fun code => List.mem_takeWhile_imp⟩
        exact ((List.takeWhile_prefix _).length_le).trans
          (List.length_take_le _ _)
  case mpr =>
    rintro ⟨behind, rfl, filled, short, all⟩
    have isFront : ((digits ++ closing :: behind).take 2).takeWhile isDigit =
        digits := by
      have stops : (closing :: behind).takeWhile isDigit = [] :=
        List.takeWhile_cons_of_neg (by rw [noDigit]; decide)
      rw [List.take_append, List.take_of_length_le short,
        List.takeWhile_append_of_pos all]
      cases 2 - digits.length with
      | zero => exact List.append_nil _
      | succ room =>
          rw [List.take_succ_cons, List.takeWhile_cons_of_neg
            (by rw [noDigit]; decide), List.append_nil]
    rw [numberBetween, isFront, List.drop_left, if_pos ⟨rfl, filled, rfl⟩]

/-- A front without returns and line feeds is the front of the text of line
feeds. -/
theorem front_of_withEnding {ending : Units} (isReturn : ending ∈ returnEndings) :
    ∀ {front text behind : Units}, (∀ code ∈ front, code ≠ unit '\r') →
      withEnding ending text = front ++ behind →
      ∃ rest, text = front ++ rest ∧ behind = withEnding ending rest
  | [], text, behind, _, whole => ⟨text, rfl, whole.symm⟩
  | code :: front, [], behind, _, whole => nomatch whole
  | code :: front, first :: text, behind, plain, whole => by
      obtain ⟨own, others⟩ := List.forall_mem_cons.mp plain
      by_cases isFeed : first = unit '\n'
      case pos =>
        rw [isFeed, withEnding_cons_feed] at whole
        have isFirst : some (unit '\r') = some code := by
          rcases List.mem_pair.mp isReturn with rfl | rfl <;>
            exact congrArg List.head? whole
        exact (own (Option.some_inj.mp isFirst).symm).elim
      case neg =>
        rw [withEnding_cons_of_ne _ isFeed, List.cons_append] at whole
        obtain ⟨rfl, same⟩ := List.cons.inj whole
        obtain ⟨rest, rfl, isBehind⟩ :=
          front_of_withEnding isReturn others same
        exact ⟨rest, rfl, isBehind⟩

theorem isDigit_ne {code : UInt16} (digit : isDigit code = true) :
    code ≠ unit '\r' ∧ code ≠ unit '\n' := by
  constructor
  all_goals
    rintro rfl
    revert digit
    decide

/-- A number in brackets has no line ending, so the endings do not matter. -/
theorem numberBetween_withEnding {ending : Units}
    (isReturn : ending ∈ returnEndings) {opening closing : UInt16}
    (plainOpening : opening ≠ unit '\r' ∧ opening ≠ unit '\n')
    (plainClosing : closing ≠ unit '\r' ∧ closing ≠ unit '\n')
    (noDigit : isDigit closing = false) (text : Units) :
    numberBetween opening closing (withEnding ending text) =
      numberBetween opening closing text := by
  refine Option.ext fun digits => ?_
  rw [numberBetween_eq_some_iff noDigit, numberBetween_eq_some_iff noDigit]
  have marks : ∀ {behind : Units}, opening :: (digits ++ closing :: behind) =
      (opening :: (digits ++ [closing])) ++ behind := by
    intro behind
    rw [List.cons_append, List.append_assoc, List.singleton_append]
  constructor
  case mp =>
    rintro ⟨behind, whole, filled, short, all⟩
    rw [marks] at whole
    obtain ⟨rest, rfl, -⟩ := front_of_withEnding isReturn
      (List.forall_mem_cons.mpr ⟨plainOpening.1, List.forall_mem_append.mpr
        ⟨fun code member => (isDigit_ne (all code member)).1,
          List.forall_mem_singleton.mpr plainClosing.1⟩⟩) whole
    exact ⟨rest, marks.symm, filled, short, all⟩
  case mpr =>
    rintro ⟨behind, rfl, filled, short, all⟩
    have noFeed : unit '\n' ∉ opening :: (digits ++ [closing]) := by
      refine List.not_mem_cons_of_ne_of_not_mem plainOpening.2.symm ?_
      rw [List.mem_append, not_or]
      exact ⟨fun member => (isDigit_ne (all _ member)).2 rfl,
        List.not_mem_cons_of_ne_of_not_mem plainClosing.2.symm
          List.not_mem_nil⟩
    exact ⟨withEnding ending behind, (congrArg _ marks).trans
      ((withEnding_append_of_plain _ noFeed).trans marks.symm), filled, short,
      all⟩

def citationDigitsAt (text : Units) : Option Units :=
  (numberBetween (unit '(') (unit ')') text).or
    ((numberBetween (unit '（') (unit '）') text).or
      (numberBetween (unit '【') (unit '】') text))

/-- What stands in place of a citation in other brackets. -/
def citationInPlace (options : Options) (text digits : Units) : Units :=
  if citationAllowed options (unit '[' :: (digits ++ [unit ']'])) then
    unit '[' :: (digits ++ [unit ']'])
  else text.take (digits.length + 2)

theorem citationSyntaxAt_eq (options : Options) (text : Units) :
    citationSyntaxAt options text = (citationDigitsAt text).map fun digits =>
      (citationInPlace options text digits, digits.length + 2) := rfl

/-- A citation in other brackets is one of three, without a line ending. -/
theorem citationDigitsAt_eq_some {text digits : Units}
    (found : citationDigitsAt text = some digits) :
    (∀ code ∈ digits, isDigit code) ∧
      ∃ opening closing behind, text = opening :: (digits ++ closing :: behind) ∧
        (opening ≠ unit '\r' ∧ opening ≠ unit '\n') ∧
        (closing ≠ unit '\r' ∧ closing ≠ unit '\n') := by
  have one : ∀ {opening closing : UInt16}, isDigit closing = false →
      (opening ≠ unit '\r' ∧ opening ≠ unit '\n') →
      (closing ≠ unit '\r' ∧ closing ≠ unit '\n') →
      numberBetween opening closing text = some digits →
      (∀ code ∈ digits, isDigit code) ∧ ∃ opening closing behind,
        text = opening :: (digits ++ closing :: behind) ∧
        (opening ≠ unit '\r' ∧ opening ≠ unit '\n') ∧
        (closing ≠ unit '\r' ∧ closing ≠ unit '\n') := by
    intro opening closing noDigit plainOpening plainClosing isNumber
    obtain ⟨behind, whole, -, -, all⟩ :=
      (numberBetween_eq_some_iff noDigit).mp isNumber
    exact ⟨all, opening, closing, behind, whole, plainOpening, plainClosing⟩
  rw [citationDigitsAt, Option.or_eq_some_iff, Option.or_eq_some_iff] at found
  rcases found with round | ⟨-, wide | ⟨-, square⟩⟩
  · exact one (by decide) (by decide) (by decide) round
  · exact one (by decide) (by decide) (by decide) wide
  · exact one (by decide) (by decide) (by decide) square

theorem citationDigitsAt_withEnding {ending : Units}
    (isReturn : ending ∈ returnEndings) (text : Units) :
    citationDigitsAt (withEnding ending text) = citationDigitsAt text := by
  rw [citationDigitsAt, citationDigitsAt,
    numberBetween_withEnding isReturn (by decide) (by decide) (by decide),
    numberBetween_withEnding isReturn (by decide) (by decide) (by decide),
    numberBetween_withEnding isReturn (by decide) (by decide) (by decide)]

/-- What stands in place of a citation has no line feed. -/
theorem not_mem_citationInPlace {options : Options} {text digits : Units}
    (found : citationDigitsAt text = some digits) :
    unit '\n' ∉ text.take (digits.length + 2) ∧
      unit '\n' ∉ citationInPlace options text digits ∧
      ∀ ending, ending ∈ returnEndings →
        citationInPlace options (withEnding ending text) digits =
          citationInPlace options text digits := by
  obtain ⟨all, opening, closing, behind, rfl, plainOpening, plainClosing⟩ :=
    citationDigitsAt_eq_some found
  have noFeed : unit '\n' ∉ digits := fun member =>
    (isDigit_ne (all _ member)).2 rfl
  have marks : ∀ {behind : Units}, opening :: (digits ++ closing :: behind) =
      (opening :: (digits ++ [closing])) ++ behind := by
    intro behind
    rw [List.cons_append, List.append_assoc, List.singleton_append]
  have taken : ∀ {behind : Units},
      (opening :: (digits ++ closing :: behind)).take (digits.length + 2) =
        opening :: (digits ++ [closing]) := by
    intro behind
    rw [marks]
    exact List.take_left' (by simp)
  have notTaken : unit '\n' ∉ opening :: (digits ++ [closing]) := by
    refine List.not_mem_cons_of_ne_of_not_mem plainOpening.2.symm ?_
    rw [List.mem_append, not_or]
    exact ⟨noFeed, List.not_mem_cons_of_ne_of_not_mem plainClosing.2.symm
      List.not_mem_nil⟩
  refine ⟨?_, ?_, fun ending isReturn => ?_⟩
  · rw [taken]
    exact notTaken
  · rw [citationInPlace, taken]
    split
    · refine List.not_mem_cons_of_ne_of_not_mem (by decide) ?_
      rw [List.mem_append, not_or]
      exact ⟨noFeed, by decide⟩
    · exact notTaken
  · rw [citationInPlace, citationInPlace, taken, marks,
      withEnding_append_of_plain _ notTaken, ← marks, taken]

/-- The endings of the lines stay what they are. -/
theorem replaceAll_withEnding {ending : Units}
    (isReturn : ending ∈ returnEndings) (options : Options) :
    ∀ {text : Units} {taken : Nat}, unit '\n' ∉ text.take taken →
      replaceAll (citationSyntaxAt options) taken (withEnding ending text) =
        withEnding ending (replaceAll (citationSyntaxAt options) taken text)
  | [], 0, _ => rfl
  | [], _ + 1, _ => rfl
  | code :: rest, taken + 1, plain => by
      rw [List.take_succ_cons] at plain
      rw [withEnding_cons_of_ne _ (List.ne_of_not_mem_cons plain).symm,
        replaceAll, replaceAll]
      exact replaceAll_withEnding isReturn options
        (List.not_mem_of_not_mem_cons plain)
  | code :: rest, 0, _ => by
      have next : replaceAll (citationSyntaxAt options) 0
          (withEnding ending rest) =
          withEnding ending (replaceAll (citationSyntaxAt options) 0 rest) :=
        replaceAll_withEnding isReturn options List.not_mem_nil
      have nowhere : ∀ code rest, code = unit '\n' ∨ code = unit '\r' →
          citationSyntaxAt options (code :: rest) = none := by
        intro code rest isEnding
        rw [citationSyntaxAt_eq, Option.map_eq_none_iff]
        refine Option.eq_none_iff_forall_ne_some.mpr fun digits found => ?_
        obtain ⟨-, opening, _, _, same, plain, -⟩ :=
          citationDigitsAt_eq_some found
        obtain ⟨rfl, -⟩ := List.cons.inj same
        exact isEnding.elim plain.2 plain.1
      by_cases isFeed : code = unit '\n'
      case pos =>
        rw [isFeed, withEnding_cons_feed, replaceAll,
          nowhere _ _ (.inl rfl)]
        dsimp only
        rw [withEnding_cons_feed, ← next]
        rcases List.mem_pair.mp isReturn with rfl | rfl
        · change replaceAll _ 0 (unit '\r' :: unit '\n' :: _) = _
          rw [replaceAll, nowhere _ _ (.inr rfl)]
          dsimp only
          rw [replaceAll, nowhere _ _ (.inl rfl)]
          rfl
        · change replaceAll _ 0 (unit '\r' :: _) = _
          rw [replaceAll, nowhere _ _ (.inr rfl)]
          rfl
      case neg =>
        have whole := citationDigitsAt_withEnding isReturn (code :: rest)
        rw [withEnding_cons_of_ne _ isFeed] at whole ⊢
        rw [replaceAll, replaceAll, citationSyntaxAt_eq, citationSyntaxAt_eq,
          whole]
        cases found : citationDigitsAt (code :: rest) with
        | none =>
            dsimp only [Option.map_none]
            rw [withEnding_cons_of_ne _ isFeed, next]
        | some digits =>
            obtain ⟨notTaken, notPlaced, same⟩ :=
              not_mem_citationInPlace found
            have inPlace := same ending isReturn
            rw [withEnding_cons_of_ne _ isFeed] at inPlace
            dsimp only [Option.map_some]
            rw [inPlace, withEnding_append_of_plain _ notPlaced]
            refine congrArg _ (replaceAll_withEnding isReturn options ?_)
            rw [List.take_succ_cons] at notTaken
            exact List.not_mem_of_not_mem_cons notTaken

theorem normalizeCitationSyntax_withEnding {ending : Units}
    (isReturn : ending ∈ returnEndings) (options : Options) (text : Units) :
    normalizeCitationSyntax options (withEnding ending text) =
      withEnding ending (normalizeCitationSyntax options text) := by
  rw [normalizeCitationSyntax, normalizeCitationSyntax]
  split
  · rfl
  · exact replaceAll_withEnding isReturn options List.not_mem_nil

/-- Citations bring no code unit into a text but digits and brackets. -/
theorem not_mem_normalizeCitationSyntax (options : Options) {text : Units}
    (plain : unit '\r' ∉ text) :
    unit '\r' ∉ normalizeCitationSyntax options text := by
  have placed : ∀ {text : Units} {taken : Nat}, unit '\r' ∉ text →
      unit '\r' ∉ replaceAll (citationSyntaxAt options) taken text := by
    intro text
    induction text with
    | nil =>
        intro taken _
        cases taken <;> exact List.not_mem_nil
    | cons code rest ih =>
        intro taken plain
        have later : ∀ taken, unit '\r' ∉
            replaceAll (citationSyntaxAt options) taken rest := fun _ =>
          ih (List.not_mem_of_not_mem_cons plain)
        cases taken with
        | succ taken => exact later taken
        | zero =>
            rw [replaceAll, citationSyntaxAt_eq]
            cases found : citationDigitsAt (code :: rest) with
            | none =>
                exact List.not_mem_cons_of_ne_of_not_mem
                  (List.ne_of_not_mem_cons plain) (later 0)
            | some digits =>
                refine List.not_mem_append ?_ (later _)
                rw [citationInPlace]
                split
                · refine List.not_mem_cons_of_ne_of_not_mem (by decide)
                    (List.not_mem_append (fun member => ?_) (by decide))
                  exact (isDigit_ne ((citationDigitsAt_eq_some found).1 _
                    member)).1 rfl
                · exact fun member => plain (List.mem_of_mem_take member)
  rw [normalizeCitationSyntax]
  split
  · exact plain
  · exact placed plain

/-! ## Sources -/

theorem linesOf_withEnding {ending : Units}
    (isReturn : ending ∈ returnEndings) {text : Units}
    (plain : unit '\r' ∉ text) :
    linesOf (withEnding ending text) = linesOf text := by
  rw [linesOf, linesOf, unifyLineEndings_withEnding isReturn false plain,
    unifyLineEndings_of_feeds plain]

theorem length_withEnding_le {ending : Units}
    (isReturn : ending ∈ returnEndings) (text : Units) :
    text.length ≤ (withEnding ending text).length ∧
      (withEnding ending text).length ≤
        (withEnding [unit '\r', unit '\n'] text).length := by
  induction text with
  | nil => exact ⟨le_refl _, le_refl _⟩
  | cons code rest ih =>
      obtain ⟨low, high⟩ := ih
      by_cases isFeed : code = unit '\n'
      case pos =>
        rw [isFeed, withEnding_cons_feed, withEnding_cons_feed]
        rcases List.mem_pair.mp isReturn with rfl | rfl <;>
          (simp only [List.length_append, List.length_cons, List.length_nil] at *
           omega)
      case neg =>
        rw [withEnding_cons_of_ne _ isFeed, withEnding_cons_of_ne _ isFeed]
        simp only [List.length_cons]
        omega

def withFeeds (source : Units) : Units := unifyLineEndings false source

/-- Where no paragraph is joined and the endings do not decide about the limit,
the line endings do not matter. -/
theorem line_endings_do_not_matter (library : PageLibrary) (options : Options)
    (source : Units)
    (unjoined : normalizeInlineStrongParagraphs (withFeeds source) =
      withFeeds source)
    (fitting : (withEnding [unit '\r', unit '\n'] (withFeeds source)).length ≤
        maxSourceChars ∨
      maxSourceChars < (withFeeds source).length) :
    ∀ ending ∈ returnEndings,
      parse library options (.string (withEnding ending (withFeeds source))) =
        parse library options (.string (withFeeds source)) := by
  intro ending isReturn
  have plain : unit '\r' ∉ withFeeds source := not_mem_unifyLineEndings _ _
  obtain ⟨low, high⟩ := length_withEnding_le isReturn (withFeeds source)
  have sameLines : linesOf (normalizeCitationSyntax options
        (normalizeInlineStrongParagraphs
          (withEnding ending (withFeeds source)))) =
      linesOf (normalizeCitationSyntax options
        (normalizeInlineStrongParagraphs (withFeeds source))) := by
    rw [normalizeInlineStrongParagraphs_of_returns
        (feedsFollowReturns_withEnding isReturn _), unjoined,
      normalizeCitationSyntax_withEnding isReturn,
      linesOf_withEnding isReturn
        (not_mem_normalizeCitationSyntax options plain)]
  rw [parse, parse, parseSource, parseSource, sameLines]
  rcases fitting with short | long
  · rw [if_neg (by omega), if_neg (by omega)]
  · rw [if_pos (by omega), if_pos long]

/-- Two lines are the same with all endings. -/
theorem two_lines_are_the_same :
    normalizeInlineStrongParagraphs (withFeeds (['a', '\r', 'b'].map unit)) =
        withFeeds (['a', '\r', 'b'].map unit) ∧
      ∀ ending ∈ returnEndings,
        parse samplePage sampleOptions
            (.string (withEnding ending
              (withFeeds (['a', '\r', 'b'].map unit)))) =
          parse samplePage sampleOptions
            (.string (withFeeds (['a', '\r', 'b'].map unit))) :=
  ⟨by decide, line_endings_do_not_matter samplePage sampleOptions
    (['a', '\r', 'b'].map unit) (by decide) (.inl (by decide))⟩

/-- A text whose last paragraphs are joined, for it has line feeds. -/
def joinedText : Units :=
  ['a', '\n', '\n', '*', '*', 'b', '*', '*', '\n', '\n', '은', ' ', 'c'].map
    unit

/-- With line feeds there is one paragraph, with returns there are three. -/
theorem returns_split_paragraphs :
    parse samplePage sampleOptions
          (.string (withEnding [unit '\r', unit '\n'] joinedText)) =
        .ok ⟨[.paragraph [.text [unit 'a']],
          .paragraph [.strong [.text [unit 'b']]],
          .paragraph [.text (['은', ' ', 'c'].map unit)]]⟩ ∧
      parse samplePage sampleOptions
          (.string (withEnding [unit '\r', unit '\n'] joinedText)) ≠
        parse samplePage sampleOptions (.string joinedText) := by
  have withFeeds : parse samplePage sampleOptions (.string joinedText) =
      .ok ⟨[.paragraph [.text (['a', ' '].map unit), .strong [.text [unit 'b']],
        .text (['은', ' ', 'c'].map unit)]]⟩ := rfl
  have withReturns : parse samplePage sampleOptions
      (.string (withEnding [unit '\r', unit '\n'] joinedText)) =
      .ok ⟨[.paragraph [.text [unit 'a']], .paragraph [.strong [.text [unit 'b']]],
        .paragraph [.text (['은', ' ', 'c'].map unit)]]⟩ := rfl
  refine ⟨withReturns, fun same => ?_⟩
  rw [withReturns, withFeeds] at same
  have lengths := congrArg List.length
    (Ast.mk.inj (Except.ok.inj same))
  exact absurd lengths (by decide)

end SecAI.RestrictedMarkdown
