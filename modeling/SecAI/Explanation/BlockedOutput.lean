/-
Module: SecAI.Explanation.BlockedOutput
Purpose: When no part of an output that `GroundedAIService.generate` blocks has
  been handed to the callback.
Trusted boundary: as in the answers; no blank is a word character
Main exports:
  ModelRun.output, NothingForbidden, blocked_output_not_shown_iff
-/
import SecAI.Text.Surroundings
import SecAI.Explanation.AllowedEvidence

namespace SecAI.Explanation

open SecAI.Text
open SecAI.Chat (GuideEnvironment GuideHit)

/-- What is shown has no executable pattern, and no character beyond the limit
of an answer. -/
def NothingForbidden (database : CharacterDatabase)
    (tokens : List (List CodePoint)) : Prop :=
  containsExecutableOutput database tokens.flatten = false ∧
    tokens.flatten.length ≤ maxAnswerChars

def ModelRun.output (run : ModelRun) : List CodePoint :=
  match run.stream with
  | some (chunks, _) => (chunks.map Chat.StreamChunk.contentDelta).flatten
  | none =>
      match run.complete with
      | .ok completion => completion.content
      | .error _ => []

section Patterns

variable {database : CharacterDatabase}

theorem oneOfTexts_takesEnds {blank : Char → Bool} (texts : List String) :
    (oneOfTexts texts).TakesEndsForBlanks blank := by
  apply Pattern.oneOf_takesEnds
  intro pattern member
  obtain ⟨text, -, rfl⟩ := List.mem_map.mp member
  exact Pattern.literalBy_takesEnds _ _

theorem executablePatterns_takeEnds
    (wordless : ∀ character, isSpace character = true →
      database.isWord character = false) :
    ∀ pattern ∈ executablePatterns database,
      pattern.TakesEndsForBlanks isSpace := by
  have boundary := Pattern.wordBoundary_takesEnds wordless
  intro pattern member
  simp only [executablePatterns, List.mem_cons, List.not_mem_nil, or_false]
    at member
  rcases member with rfl | rfl | rfl
  · exact ⟨Pattern.literalBy_takesEnds _ _, oneOfTexts_takesEnds _⟩
  · exact ⟨boundary, oneOfTexts_takesEnds _, boundary⟩
  · exact ⟨Pattern.literalBy_takesEnds _ _, boundary⟩

theorem sameCharacter_blank {expected : Char} (visible : isSpace expected = false)
    (character : Char) (blank : isSpace character = true) :
    sameCharacter expected character = false := by
  apply decide_eq_false
  rintro rfl
  rw [visible] at blank
  cases blank

theorem toLower_of_isSpace {character : Char}
    (blank : isSpace character = true) : character.toLower = character := by
  rw [isSpace] at blank
  simp only [Bool.or_eq_true, decide_eq_true_eq, List.mem_cons,
    List.not_mem_nil, or_false] at blank
  delta Char.toLower
  rw [dif_neg]
  rintro ⟨above, below⟩
  have first : 65 ≤ character.toNat := above
  have last : character.toNat ≤ 90 := below
  omega

theorem ignoringCase_blank {expected : Char}
    (visible : isSpace expected.toLower = false)
    (character : Char) (blank : isSpace character = true) :
    ignoringCase expected character = false := by
  have differs : ¬character.toLower = expected.toLower := by
    rw [toLower_of_isSpace blank]
    rintro same
    rw [same, visible] at blank
    cases blank
  have outside : character.toNat ∉ [0x130, 0x131] ∧
      character.toNat ≠ 0x17F ∧ character.toNat ≠ 0x212A := by
    rw [isSpace] at blank
    simp only [Bool.or_eq_true, decide_eq_true_eq, List.mem_cons,
      List.not_mem_nil, or_false] at blank ⊢
    omega
  simp [ignoringCase, differs, outside]

theorem executablePatterns_visible :
    ∀ pattern ∈ executablePatterns database, pattern.Visible isSpace := by
  intro pattern member
  simp only [executablePatterns, List.mem_cons, List.not_mem_nil, or_false]
    at member
  rcases member with rfl | rfl | rfl
  · left
    exact Pattern.literalBy_visible (sameCharacter_blank (by decide)) _
  · right
    left
    apply Pattern.oneOf_visible
    intro pattern member
    simp only [List.map_cons, List.map_nil, List.mem_cons, List.not_mem_nil,
      or_false] at member
    rcases member with rfl | rfl | rfl | rfl
    all_goals exact Pattern.literalBy_visible (ignoringCase_blank (by decide)) _
  · left
    exact Pattern.literalBy_visible (ignoringCase_blank (by decide)) _

theorem exists_stripPoints_eq (text : List CodePoint) : ∃ front behind,
    (∀ point ∈ front, point.isBlank = true) ∧
      (∀ point ∈ behind, point.isBlank = true) ∧
      text = front ++ (stripPoints text ++ behind) := by
  refine ⟨text.takeWhile CodePoint.isBlank,
    (text.dropWhile CodePoint.isBlank).rtakeWhile CodePoint.isBlank,
    fun _ member => List.mem_takeWhile_imp member,
    fun _ member => List.mem_rtakeWhile_imp member, ?_⟩
  rw [stripPoints, List.rdropWhile_append_rtakeWhile,
    List.takeWhile_append_dropWhile]

theorem shown_isSpace {text : List CodePoint}
    (blanks : ∀ point ∈ text, point.isBlank = true) :
    ∀ character ∈ text.map CodePoint.shown, isSpace character = true := by
  intro character member
  obtain ⟨point, inText, rfl⟩ := List.mem_map.mp member
  exact blanks point inText

theorem executable_of_stripped
    (wordless : ∀ character, isSpace character = true →
      database.isWord character = false) {text : List CodePoint}
    (executable : containsExecutableOutput database (stripPoints text) = true) :
    containsExecutableOutput database text = true := by
  obtain ⟨front, behind, frontBlanks, blanks, whole⟩ :=
    exists_stripPoints_eq text
  obtain ⟨pattern, member, occurs⟩ := List.any_eq_true.mp executable
  apply List.any_eq_true.mpr
  refine ⟨pattern, member, ?_⟩
  rw [whole, List.map_append, List.map_append]
  exact Pattern.occursIn_surrounded
    (executablePatterns_takeEnds wordless pattern member)
    (shown_isSpace frontBlanks) (shown_isSpace blanks) occurs

theorem not_executable_of_blank {text : List CodePoint}
    (blank : stripPoints text = []) :
    containsExecutableOutput database text = false := by
  obtain ⟨front, behind, frontBlanks, blanks, whole⟩ :=
    exists_stripPoints_eq text
  rw [blank, List.nil_append] at whole
  have allBlank : ∀ point ∈ text, point.isBlank = true := by
    intro point member
    rw [whole] at member
    exact (List.mem_append.mp member).elim (frontBlanks point) (blanks point)
  rw [← Bool.not_eq_true]
  intro executable
  obtain ⟨pattern, member, occurs⟩ := List.any_eq_true.mp executable
  rw [Pattern.occursIn_blank (executablePatterns_visible pattern member)
    (shown_isSpace allBlank)] at occurs
  cases occurs

theorem length_stripPoints_le (text : List CodePoint) :
    (stripPoints text).length ≤ text.length := by
  obtain ⟨front, behind, -, -, whole⟩ := exists_stripPoints_eq text
  have lengths := congrArg List.length whole
  rw [List.length_append, List.length_append] at lengths
  omega

end Patterns

section Tokens

variable {env : GuideEnvironment} {library : ResultLibrary}
  {database : CharacterDatabase} {request : GroundedRequest}
  {sources : GroundedSources} {run : ModelRun} {asked : Asked}
  {answer : GroundedAnswer}

theorem handedOn_flatten (chunks : List Chat.StreamChunk) :
    (handedOn chunks).flatten =
      (chunks.map Chat.StreamChunk.contentDelta).flatten :=
  List.flatten_filter_ne_nil

/-- A callback that listens has seen the whole completion. -/
theorem heard_listening {completion : Chat.Completion}
    (completes : (run.heard true).completion = .ok completion) :
    completion.content = run.output ∧
      (run.heard true).tokens.flatten = run.output := by
  unfold ModelRun.heard at completes ⊢
  unfold ModelRun.output
  cases streams : run.stream with
  | some streamed =>
      obtain ⟨chunks, fault⟩ := streamed
      rw [streams] at completes
      cases fault with
      | none =>
          cases completes
          exact ⟨rfl, handedOn_flatten chunks⟩
      | some fault => cases completes
  | none =>
      rw [streams] at completes
      dsimp only at completes ⊢
      cases whole : run.complete with
      | ok other =>
          rw [whole] at completes
          cases completes
          exact ⟨rfl, List.append_nil _⟩
      | error fault =>
          rw [whole] at completes
          cases completes

theorem heard_silent : (run.heard false).tokens = [] := by
  unfold ModelRun.heard
  dsimp only
  split
  · rfl
  · rfl

theorem completion_of_blocked {heard : Heard} {findingAfter : Option Members}
    (answered : answerHeard library database asked heard findingAfter =
      .ok answer) (blocked : answer.status = .securityBlocked) :
    ∃ completion, heard.completion = .ok completion ∧
      isBlocked database (stripPoints completion.content) = true := by
  unfold answerHeard at answered
  split at answered
  · next completion completes =>
      obtain ⟨-, outputSha256, ⟨fails, -⟩ | ⟨-, same⟩⟩ :=
        completedAnswer_eq_ok answered
      · exact ⟨completion, completes, fails⟩
      · rw [same] at blocked
        cases blocked
  · have refused := (providerAnswer_eq_ok answered).1
    rw [blocked] at refused
    simp at refused
  · cases answered

/-- When the model's output is blocked, nothing forbidden was shown if and only
if nobody listened, or the output is blank and short enough. -/
theorem blocked_output_not_shown_iff
    (wordless : ∀ character, isSpace character = true →
      database.isWord character = false) (listens : Bool)
    (asks : (generate env library database request sources listens
      run).asked = some asked)
    (answered : (generate env library database request sources listens
      run).result = .ok answer)
    (blocked : answer.status = .securityBlocked) :
    NothingForbidden database (generate env library database request sources
        listens run).tokens ↔
      listens = false ∨
        (stripPoints run.output = [] ∧ run.output.length ≤ maxAnswerChars) := by
  have tokens : (generate env library database request sources listens
        run).tokens = (run.heard listens).tokens ∧
      answerHeard library database asked (run.heard listens)
        run.findingAfter = .ok answer := by
    unfold generate at asks answered ⊢
    split at asks
    · cases asks
    · cases asks
    rename_i prepares
    rw [prepares] at answered
    cases asks
    exact ⟨rfl, answered⟩
  rw [tokens.1]
  obtain ⟨completion, completes, fails⟩ :=
    completion_of_blocked tokens.2 blocked
  cases listens with
  | false =>
      rw [heard_silent]
      simp only [true_or, iff_true]
      exact ⟨not_executable_of_blank rfl, Nat.zero_le _⟩
  | true =>
      obtain ⟨content, whole⟩ := heard_listening completes
      rw [content] at fails
      simp only [NothingForbidden, whole, Bool.true_eq_false, false_or]
      constructor
      · rintro ⟨plain, short⟩
        refine ⟨?_, short⟩
        simp only [isBlocked, Bool.or_eq_true, decide_eq_true_eq] at fails
        rcases fails with (blank | long) | executable
        · exact blank
        · have := length_stripPoints_le run.output
          omega
        · rw [executable_of_stripped wordless executable] at plain
          cases plain
      · rintro ⟨blank, short⟩
        exact ⟨not_executable_of_blank blank, short⟩

end Tokens

def exampleStream (first second : List CodePoint) (filled : first ≠ [])
    (also : second ≠ []) : ModelRun where
  stream := some ([⟨literal "model", first, none, model_name_not_blank, .inl filled⟩,
    ⟨literal "model", second, some (literal "stop"), model_name_not_blank,
      .inl also⟩],
    none)
  complete := .error (.raised .type)
  findingAfter := none

/-- What is streamed is blocked when it fails a check. -/
theorem exampleStream_blocked {first second : List CodePoint}
    {filled : first ≠ []} {also : second ≠ []}
    (digest : canonicalSha256 exampleLibrary (.dict [
      (literal "model_id", literalValue "model"),
      (literal "content", .str (stripPoints (first ++ (second ++ [])))),
      (literal "finish_reason", literalValue "stop")]) = .ok [])
    (fails : isBlocked asciiDatabase (stripPoints (first ++ (second ++ []))) =
      true) :
    ∃ asked answer,
      generate exampleGroundingGuides exampleLibrary asciiDatabase
          exampleGuideRequest exampleSearched true
          (exampleStream first second filled also) =
        ⟨.ok answer, some asked, handedOn
          [⟨literal "model", first, none, model_name_not_blank, .inl filled⟩,
            ⟨literal "model", second, some (literal "stop"),
              model_name_not_blank, .inl also⟩]⟩ ∧
      answer.status = .securityBlocked := by
  obtain ⟨asked, asks, hashes⟩ := example_asks
  have answers := @completedAnswer_of_unchanged exampleLibrary asciiDatabase
    asked ⟨literal "model", first ++ (second ++ []), literal "stop"⟩ none []
    digest (hashes ▸ rfl)
  rw [fails, if_pos rfl] at answers
  refine ⟨asked, asked.blocked [], ?_, rfl⟩
  rw [generate_of_asked asks true]
  exact congrArg (fun result => (⟨result, some asked, _⟩ : Generation)) answers

theorem asciiDatabase_wordless (character : Char)
    (blank : isSpace character = true) :
    asciiDatabase.isWord character = false := by
  rw [isSpace] at blank
  simp only [Bool.or_eq_true, decide_eq_true_eq, List.mem_cons,
    List.not_mem_nil, or_false] at blank
  rw [← Bool.not_eq_true]
  intro word
  dsimp only [asciiDatabase] at word
  delta Char.isAlphanum Char.isAlpha Char.isUpper Char.isLower Char.isDigit
    at word
  simp only [Bool.or_eq_true, Bool.and_eq_true, decide_eq_true_eq,
    UInt32.le_iff_toNat_le, ge_iff_le] at word
  have range : ((65 ≤ character.toNat ∧ character.toNat ≤ 90 ∨
      97 ≤ character.toNat ∧ character.toNat ≤ 122) ∨
      48 ≤ character.toNat ∧ character.toNat ≤ 57) ∨ character = '_' := word
  rcases range with letter | underscore
  · omega
  · have code : character.toNat = 95 := by
      rw [underscore]
      rfl
    omega

/-- A stream of blanks is blocked, and shows nothing that is forbidden. -/
theorem blank_output_shows_nothing_forbidden :
    ∃ first second filled also,
      NothingForbidden asciiDatabase (generate exampleGroundingGuides
        exampleLibrary asciiDatabase exampleGuideRequest exampleSearched true
        (exampleStream first second filled also)).tokens := by
  obtain ⟨asked, answer, whole, blocked⟩ := @exampleStream_blocked
    (literal " ") (literal "\n") (by decide) (by decide) (by decide)
    (by decide)
  refine ⟨literal " ", literal "\n", by decide, by decide, ?_⟩
  exact (blocked_output_not_shown_iff asciiDatabase_wordless true
    (congrArg Generation.asked whole) (congrArg Generation.result whole)
    blocked).mpr (.inr (by decide))

/-- A command that is cut within its name has been shown when it is blocked. -/
theorem blocked_command_was_shown :
    ∃ first second filled also answer,
      (generate exampleGroundingGuides exampleLibrary asciiDatabase
        exampleGuideRequest exampleSearched true
        (exampleStream first second filled also)).result = .ok answer ∧
      answer.status = .securityBlocked ∧
      ¬NothingForbidden asciiDatabase (generate exampleGroundingGuides
        exampleLibrary asciiDatabase exampleGuideRequest exampleSearched true
        (exampleStream first second filled also)).tokens := by
  obtain ⟨asked, answer, whole, blocked⟩ := @exampleStream_blocked
    (literal "Remove-") (literal "Item C:") (by decide) (by decide)
    (by decide) (by decide)
  refine ⟨literal "Remove-", literal "Item C:", by decide, by decide, answer,
    congrArg Generation.result whole, blocked, ?_⟩
  rw [whole]
  rintro ⟨plain, -⟩
  have shown : containsExecutableOutput asciiDatabase
      (literal "Remove-" ++ (literal "Item C:" ++ [])) = true := by
    decide
  rw [handedOn_flatten] at plain
  cases shown.symm.trans plain

end SecAI.Explanation
