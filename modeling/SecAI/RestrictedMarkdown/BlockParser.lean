/-
Module: SecAI.RestrictedMarkdown.BlockParser
Purpose: The parser of restricted Markdown: of a line, with the shape of what it
  returns, and of a source, from its normalizations to its blocks.
Trusted boundary: the URL parser of the page is a parameter
Main exports:
  enclosed, citationAt, inlineStep, normalizeCitationSyntax, parseBlock
-/
import SecAI.RestrictedMarkdown.Shape

namespace SecAI.RestrictedMarkdown

/-- What stands between two marks, and what stands behind them; something has
to stand between. -/
def enclosed (opening closing rest : Units) : Option (Units × Units) :=
  if opening.isPrefixOf rest then
    match splitAtFirst closing (rest.drop opening.length) with
    | some (content, behind) =>
        if content = [] then none else some (content, behind)
    | none => none
  else none

def strongMark : Units := [unit '*', unit '*']

def emphasisMark : Units := [unit '*']

def inlineCodeMark : Units := [0x60]

/-- The marks of a link, and the one between its label and its target. -/
def labelMark : Units := [unit '[']
def targetMark : Units := [unit ']', unit '(']
def linkEnd : Units := [unit ')']

/-- An emphasis, whose mark is no mark of a strong text. -/
def emphasisAt (rest : Units) : Option (Units × Units) :=
  if strongMark.isPrefixOf rest then none
  else enclosed emphasisMark emphasisMark rest

/-- The label and the target of a link, and what stands behind it. -/
def linkAt (rest : Units) : Option (Units × Units × Units) :=
  (enclosed labelMark targetMark rest).bind fun (label, more) =>
    (enclosed [] linkEnd more).map fun (target, behind) =>
      (label, target, behind)

/-- What a text goes on with: no mark at which anything can start. -/
def isPlain (code : UInt16) : Bool :=
  decide (code ∉ emphasisMark ++ inlineCodeMark ++ labelMark)

section Parsing

variable (library : PageLibrary) (options : Options)

/-- A citation that is allowed: one digit or two in brackets. -/
def citationAt (rest : Units) : Option (Units × Units) :=
  if isCitationId (rest.take 3) then
    if citationAllowed options (rest.take 3) then
      some (rest.take 3, rest.drop 3)
    else none
  else if isCitationId (rest.take 4) then
    if citationAllowed options (rest.take 4) then
      some (rest.take 4, rest.drop 4)
    else none
  else none

/-- One turn of the loop of `parseInline`: the node that is pushed, and what is
left. -/
def inlineStep (nested : Units → Except MarkdownFault (List Inline))
    (rest : Units) : Except MarkdownFault (Inline × Units) :=
  match enclosed strongMark strongMark rest with
  | some (content, behind) =>
      (nested content).map fun children => (.strong children, behind)
  | none =>
  match emphasisAt rest with
  | some (content, behind) =>
      (nested content).map fun children => (.emphasis children, behind)
  | none =>
  match enclosed inlineCodeMark inlineCodeMark rest with
  | some (content, behind) => .ok (.inlineCode content, behind)
  | none =>
  match citationAt options rest with
  | some (citationId, behind) => .ok (.citationRef citationId, behind)
  | none =>
  match linkAt rest with
  | some (label, target, behind) =>
      match sanitizeLinkTarget library target options.allowedOrigins with
      | some (kind, href) =>
          (nested label).map fun children => (.link href kind children, behind)
      | none => .ok (.text label, behind)
  | none =>
      .ok (.text (rest.take 1 ++ (rest.drop 1).takeWhile isPlain),
        (rest.drop 1).dropWhile isPlain)

/-- The loop of `parseInline`, with the turns that are left. -/
def inlineLoop (step : Units → Except MarkdownFault (Inline × Units)) :
    Nat → Units → List Inline → Except MarkdownFault (List Inline)
  | 0, _, nodes => .ok nodes
  | turns + 1, rest, nodes =>
      if rest = [] then .ok nodes
      else if maxInlineNodes < nodes.length then
        .error (.rangeError "restricted Markdown exceeds maximum inline nodes")
      else
        match step rest with
        | .error fault => .error fault
        | .ok (node, behind) =>
            inlineLoop step turns behind (pushNode nodes node)

/-- `parseInline`, with the levels that are left; where none is, `nested` has
made a text. -/
def parseNested : Nat → Units → Except MarkdownFault (List Inline)
  | 0, value => .ok [.text value]
  | room + 1, value =>
      inlineLoop (inlineStep library options (parseNested room)) value.length
        value []

/-- `parseInline` without a depth. -/
def parseInline (source : Units) : Except MarkdownFault (List Inline) :=
  parseNested library options 4 source

end Parsing

variable {rest content behind : Units}

theorem enclosed_eq_some {opening closing : Units} (filled : closing ≠ [])
    (found : enclosed opening closing rest = some (content, behind)) :
    rest = opening ++ (content ++ (closing ++ behind)) ∧ content ≠ [] ∧
      ¬closing <:+: content := by
  rw [enclosed] at found
  split at found
  case isFalse => cases found
  case isTrue opens =>
    split at found
    case h_2 => cases found
    case h_1 before after isSplit =>
      split at found
      case isTrue => cases found
      case isFalse something =>
        cases found
        refine ⟨?_, something, not_infix_of_splitAtFirst filled isSplit⟩
        rw [← splitAtFirst_eq_some isSplit]
        exact (List.prefix_iff_eq_append.mp
          (List.isPrefixOf_iff_prefix.mp opens)).symm

theorem emphasisAt_eq_some
    (found : emphasisAt rest = some (content, behind)) :
    enclosed emphasisMark emphasisMark rest = some (content, behind) := by
  rw [emphasisAt] at found
  split at found
  · cases found
  · exact found

theorem linkAt_eq_some {label target : Units}
    (found : linkAt rest = some (label, target, behind)) :
    ∃ more, enclosed labelMark targetMark rest = some (label, more) ∧
      enclosed [] linkEnd more = some (target, behind) := by
  obtain ⟨⟨front, more⟩, isLabel, rest'⟩ := Option.bind_eq_some_iff.mp found
  obtain ⟨⟨inner, after⟩, isTarget, same⟩ := Option.map_eq_some_iff.mp rest'
  cases same
  exact ⟨more, isLabel, isTarget⟩

/-- A citation that is read is allowed, and it is at the front. -/
theorem citationAt_eq_some {options : Options} {citationId : Units}
    (found : citationAt options rest = some (citationId, behind)) :
    citationAllowed options citationId = true ∧ citationId ≠ [] ∧
      rest = citationId ++ behind := by
  have notEmpty : ∀ {count : Nat}, isCitationId (rest.take count) = true →
      rest.take count ≠ [] := by
    intro count isId empty
    rw [empty] at isId
    cases isId
  rw [citationAt] at found
  split at found
  · next isId =>
      split at found
      · next allowed =>
          cases found
          exact ⟨allowed, notEmpty isId, (List.take_append_drop 3 rest).symm⟩
      · cases found
  · split at found
    · next isId =>
        split at found
        · next allowed =>
            cases found
            exact ⟨allowed, notEmpty isId, (List.take_append_drop 4 rest).symm⟩
        · cases found
    · cases found

variable {nested : Units → Except MarkdownFault (List Inline)}

/-- What one turn leaves is at the end of the text, and shorter. -/
theorem inlineStep_behind {library : PageLibrary} {options : Options}
    {node : Inline} (something : rest ≠ [])
    (turned : inlineStep library options nested rest = .ok (node, behind)) :
    behind <:+ rest ∧ behind.length < rest.length := by
  have cut : ∀ front : Units, front ≠ [] → rest = front ++ behind →
      behind <:+ rest ∧ behind.length < rest.length := by
    intro front filled whole
    have long := List.length_pos_of_ne_nil filled
    rw [whole]
    refine ⟨List.suffix_append _ _, ?_⟩
    rw [List.length_append]
    omega
  have within : ∀ {opening closing content : Units}, closing ≠ [] →
      enclosed opening closing rest = some (content, behind) →
      behind <:+ rest ∧ behind.length < rest.length := by
    intro opening closing content filled found
    obtain ⟨whole, something, -⟩ := enclosed_eq_some filled found
    refine cut (opening ++ (content ++ closing)) ?_ ?_
    · exact List.append_ne_nil_of_right_ne_nil _
        (List.append_ne_nil_of_left_ne_nil something _)
    · rw [whole, List.append_assoc, List.append_assoc]
  have mapped : ∀ {content after : Units} {build : List Inline → Inline},
      ((nested content).map fun children => (build children, after)) =
        .ok (node, behind) → after = behind := by
    intro content after build built
    cases answer : nested content with
    | error fault =>
        rw [answer] at built
        cases built
    | ok children =>
        rw [answer] at built
        cases built
        rfl
  rw [inlineStep] at turned
  split at turned
  · next content after found =>
      cases mapped turned
      exact within (by decide) found
  split at turned
  · next content after found =>
      cases mapped turned
      exact within (by decide) (emphasisAt_eq_some found)
  split at turned
  · next content after found =>
      cases turned
      exact within (by decide) found
  split at turned
  · next citationId after found =>
      cases turned
      obtain ⟨-, filled, whole⟩ := citationAt_eq_some found
      exact cut _ filled whole
  split at turned
  · next label target after found =>
      have same : after = behind := by
        split at turned
        · exact mapped turned
        · cases turned
          rfl
      cases same
      obtain ⟨more, isLabel, isTarget⟩ := linkAt_eq_some found
      obtain ⟨whole, something, -⟩ := enclosed_eq_some (by decide) isLabel
      obtain ⟨rest', -, -⟩ := enclosed_eq_some (by decide) isTarget
      refine cut (labelMark ++ (label ++ (targetMark ++ (target ++ linkEnd))))
        (by simp [labelMark]) ?_
      rw [whole, rest']
      simp only [List.append_assoc, List.nil_append]
  · cases turned
    cases rest with
    | nil => exact (something rfl).elim
    | cons first others =>
        refine cut (first :: others.takeWhile isPlain) nofun ?_
        rw [List.cons_append]
        exact congrArg _ List.takeWhile_append_dropWhile.symm

def nestingMarks : List Units := [strongMark, emphasisMark, targetMark]

/-- How many of these marks stand in a text: no content between two of them
has as many as the text around it. -/
def marksIn (source : Units) : Nat :=
  nestingMarks.countP fun mark => decide (mark <:+: source)

variable {part source : Units}

theorem countP_marks_le (inside : part <:+: source) (marks : List Units) :
    (marks.countP fun mark => decide (mark <:+: part)) ≤
      marks.countP fun mark => decide (mark <:+: source) := by
  refine List.countP_mono_left fun mark _ isIn => ?_
  exact decide_eq_true ((of_decide_eq_true isIn).trans inside)

theorem marksIn_le (inside : part <:+: source) :
    marksIn part ≤ marksIn source :=
  countP_marks_le inside nestingMarks

theorem marksIn_lt {mark : Units} (inside : part <:+: source)
    (isMark : mark ∈ nestingMarks) (inSource : mark <:+: source)
    (notInPart : ¬mark <:+: part) : marksIn part < marksIn source := by
  obtain ⟨front, behind, whole⟩ := List.append_of_mem isMark
  have before := countP_marks_le inside front
  have after := countP_marks_le inside behind
  rw [marksIn, marksIn, whole, List.countP_append, List.countP_append,
    List.countP_cons_of_neg (by simpa using notInPart),
    List.countP_cons_of_pos (by simpa using inSource)]
  omega

theorem marksIn_enclosed {opening closing : Units}
    (isMark : closing ∈ nestingMarks) (filled : closing ≠ [])
    (found : enclosed opening closing rest = some (content, behind)) :
    marksIn content < marksIn rest := by
  obtain ⟨whole, -, without⟩ := enclosed_eq_some filled found
  refine marksIn_lt ⟨opening, closing ++ behind, ?_⟩ isMark
    ⟨opening ++ content, behind, ?_⟩ without
  · rw [whole, List.append_assoc]
  · rw [whole]
    simp only [List.append_assoc]

theorem marksIn_le_three (source : Units) : marksIn source ≤ 3 :=
  List.countP_le_length

section Shapes

variable {library : PageLibrary} {options : Options}

/-- A node that is pushed is kept, but for texts without content. -/
theorem inlineStep_kept (standard : FollowsUrlStandard library)
    {inner : List Inline → Prop} {node : Inline}
    (nestedHolds : ∀ content children, marksIn content < marksIn rest →
      nested content = .ok children → inner children)
    (turned : inlineStep library options nested rest = .ok (node, behind))
    (noText : node.isText = false) : KeptNode library options inner node := by
  have mapped : ∀ {content after : Units} {build : List Inline → Inline},
      ((nested content).map fun children => (build children, after)) =
        .ok (node, behind) →
      ∃ children, nested content = .ok children ∧ node = build children := by
    intro content after build built
    cases answer : nested content with
    | error fault =>
        rw [answer] at built
        cases built
    | ok children =>
        rw [answer] at built
        cases built
        exact ⟨children, rfl, rfl⟩
  rw [inlineStep] at turned
  split at turned
  · next content after found =>
      obtain ⟨children, answered, rfl⟩ := mapped turned
      exact nestedHolds _ _
        (marksIn_enclosed (by decide) (by decide) found) answered
  split at turned
  · next content after found =>
      obtain ⟨children, answered, rfl⟩ := mapped turned
      exact nestedHolds _ _ (marksIn_enclosed (by decide) (by decide)
        (emphasisAt_eq_some found)) answered
  split at turned
  · cases turned
    trivial
  split at turned
  · next citationId after found =>
      cases turned
      exact (citationAt_eq_some found).1
  split at turned
  · next label target after found =>
      obtain ⟨more, isLabel, -⟩ := linkAt_eq_some found
      split at turned
      · next kind href passed =>
          obtain ⟨children, answered, rfl⟩ := mapped turned
          exact ⟨sanitizeLinkTarget_href standard passed, nestedHolds _ _
            (marksIn_enclosed (by decide) (by decide) isLabel) answered⟩
      · cases turned
        cases noText
  · cases turned
    cases noText

/-- Whatever was pushed before, the loop keeps texts apart and pushes what is
kept. -/
theorem inlineLoop_kept (standard : FollowsUrlStandard library)
    {inner : List Inline → Prop}
    (nestedHolds : ∀ content children, marksIn content < marksIn source →
      nested content = .ok children → inner children) :
    ∀ {turns : Nat} {rest : Units} {nodes result : List Inline},
      rest <:+ source → Joined nodes →
      (∀ node ∈ nodes, KeptNode library options inner node) →
      inlineLoop (inlineStep library options nested) turns rest nodes =
        .ok result →
      Joined result ∧ ∀ node ∈ result, KeptNode library options inner node
  | 0, rest, nodes, result, _, joined, kept, ended => by
      cases ended
      exact ⟨joined, kept⟩
  | turns + 1, rest, nodes, result, atEnd, joined, kept, ended => by
      rw [inlineLoop] at ended
      split at ended
      · cases ended
        exact ⟨joined, kept⟩
      next something =>
      split at ended
      · cases ended
      split at ended
      · cases ended
      rename_i node behind turned
      refine inlineLoop_kept standard nestedHolds
        ((inlineStep_behind something turned).1.trans atEnd)
        (pushNode_joined joined node) ?_ ended
      refine pushNode_all (fun content filled => filled) kept fun noText =>
        inlineStep_kept standard (fun content children fewer => ?_) turned
          noText
      exact nestedHolds content children
        (fewer.trans_le (marksIn_le atEnd.isInfix))

theorem parseNested_shaped (standard : FollowsUrlStandard library) :
    ∀ {room : Nat} {source : Units} {nodes : List Inline},
      marksIn source ≤ room →
      parseNested library options (room + 1) source = .ok nodes →
      Shaped library options (room + 1) nodes
  | 0, source, nodes, few, parsed => by
      rw [parseNested] at parsed
      refine inlineLoop_kept standard (fun content children fewer _ => ?_)
        (List.suffix_refl _) .nil nofun parsed
      omega
  | room + 1, source, nodes, few, parsed => by
      rw [parseNested] at parsed
      refine inlineLoop_kept standard (fun content children fewer answered => ?_)
        (List.suffix_refl _) .nil nofun parsed
      exact parseNested_shaped standard (by omega) answered

theorem parseInline_shaped (standard : FollowsUrlStandard library)
    {nodes : List Inline}
    (parsed : parseInline library options source = .ok nodes) :
    Shaped library options 4 nodes :=
  parseNested_shaped standard (marksIn_le_three source) parsed

end Shapes

/-- `source.replace(pattern, …)` of all places of a pattern: what stands at a
place with the number of code units that it takes.  What is `taken` is not
searched again. -/
def replaceAll (at' : Units → Option (Units × Nat)) : Nat → Units → Units
  | _, [] => []
  | taken + 1, _ :: rest => replaceAll at' taken rest
  | 0, code :: rest =>
      match at' (code :: rest) with
      | some (replacement, count) =>
          replacement ++ replaceAll at' (count - 1) rest
      | none => code :: replaceAll at' 0 rest

theorem replaceAll_eq_self {at' : Units → Option (Units × Nat)} :
    ∀ {text : Units}, (∀ rest, rest <:+ text → at' rest = none) →
      replaceAll at' 0 text = text
  | [], _ => rfl
  | code :: rest, nowhere => by
      rw [replaceAll, nowhere _ (List.suffix_refl _)]
      exact congrArg _ (replaceAll_eq_self fun part atEnd =>
        nowhere part (atEnd.trans (List.suffix_cons _ _)))

/-- `[ \t]`. -/
def isBlank (code : UInt16) : Bool :=
  decide (code = unit ' ' ∨ code = unit '\t')

/-- The particles that go on with a sentence, in the order in which they are
looked for. -/
def particles : List Units :=
  [['에', '서'], ['으', '로'], ['부', '터'], ['까', '지'], ['처', '럼'], ['보', '다'],
    ['이', '며'], ['이', '고'], ['이', '라'], ['라', '고'], ['이', '라', '는'], ['은'],
    ['는'], ['이'], ['가'], ['을'], ['를'], ['의'], ['에'], ['로'], ['와'], ['과'],
    ['도'], ['만']].map (·.map unit)

/-- `[\s가-힣]`. -/
def followsParticle (code : UInt16) : Bool :=
  isSpace code || decide (unit '가' ≤ code ∧ code ≤ unit '힣')

def particleAt (text : Units) : Option Units :=
  particles.find? fun particle =>
    particle.isPrefixOf text &&
      (text.drop particle.length).head?.any followsParticle

/-- `\n[ \t]*`, at the front of a text: what stands behind. -/
def lineBreakAt (text : Units) : Option Units :=
  match text with
  | [] => none
  | code :: rest =>
      if code = unit '\n' then some (rest.dropWhile isBlank) else none

/-- A strong text that fills a line: the text with its marks, and what stands
behind its blanks. -/
def strongLineAt (text : Units) : Option (Units × Units) :=
  let line := text.takeWhile (· ≠ unit '\n')
  let strong := line.rdropWhile isBlank
  if strongMark.isPrefixOf strong ∧ strongMark.isSuffixOf strong ∧
      5 ≤ strong.length then
    some (strong, text.drop line.length)
  else none

/-- A strong text between two empty lines, with the code unit before it and the
particle behind it. -/
def strongParagraphAt (text : Units) : Option (Units × Nat) :=
  match text with
  | [] => none
  | code :: rest =>
      if code = unit '\n' then none
      else
        (lineBreakAt rest).bind fun empty =>
        (lineBreakAt empty).bind fun line =>
        (strongLineAt line).bind fun (strong, behind) =>
        (lineBreakAt behind).bind fun empty' =>
        (lineBreakAt empty').bind fun sentence =>
        (particleAt sentence).map fun particle =>
          ([code, unit ' '] ++ strong ++ particle,
            text.length - sentence.length + particle.length)

def normalizeInlineStrongParagraphs (source : Units) : Units :=
  replaceAll strongParagraphAt 0 source

theorem normalizeInlineStrongParagraphs_of_one_line {source : Units}
    (oneLine : unit '\n' ∉ source) :
    normalizeInlineStrongParagraphs source = source := by
  refine replaceAll_eq_self fun rest atEnd => ?_
  cases rest with
  | nil => rfl
  | cons code rest =>
      have noBreak : lineBreakAt rest = none := by
        cases rest with
        | nil => rfl
        | cons next rest =>
            refine if_neg fun isBreak => oneLine ?_
            rw [← isBreak]
            exact atEnd.subset (by simp)
      rw [strongParagraphAt, noBreak]
      split <;> rfl

/-- A number of one digit or two, in brackets. -/
def numberBetween (opening closing : UInt16) (text : Units) : Option Units :=
  match text with
  | code :: rest =>
      let digits := (rest.take 2).takeWhile isDigit
      if code = opening ∧ digits ≠ [] ∧
          (rest.drop digits.length).head? = some closing then
        some digits
      else none
  | [] => none

/-- A citation in other brackets, and what takes its place. -/
def citationSyntaxAt (options : Options) (text : Units) :
    Option (Units × Nat) :=
  ((numberBetween (unit '(') (unit ')') text).or
    ((numberBetween (unit '（') (unit '）') text).or
      (numberBetween (unit '【') (unit '】') text))).map fun digits =>
    let citationId := unit '[' :: (digits ++ [unit ']'])
    (if citationAllowed options citationId then citationId
      else text.take (digits.length + 2), digits.length + 2)

def normalizeCitationSyntax (options : Options) (source : Units) : Units :=
  if normalizedCitationIds options.allowedCitationIds = [] then source
  else replaceAll (citationSyntaxAt options) 0 source

/-- `.replace(/\r\n?/g, "\n")`; a line feed behind a return is dropped. -/
def unifyLineEndings (afterReturn : Bool) : Units → Units
  | [] => []
  | code :: rest =>
      if code = unit '\r' then unit '\n' :: unifyLineEndings true rest
      else if code = unit '\n' ∧ afterReturn then unifyLineEndings false rest
      else code :: unifyLineEndings false rest

/-- The lines of a text, without null characters. -/
def linesOf (text : Units) : List Units :=
  ((unifyLineEndings false text).map fun code =>
    if code = 0 then 0xFFFD else code).splitOn (unit '\n')

theorem linesOf_of_one_line {text : Units}
    (plain : ∀ code ∈ text, code ≠ unit '\n' ∧ code ≠ unit '\r' ∧ code ≠ 0) :
    linesOf text = [text] := by
  have unified : ∀ {text : Units},
      (∀ code ∈ text, code ≠ unit '\n' ∧ code ≠ unit '\r' ∧ code ≠ 0) →
      unifyLineEndings false text = text := by
    intro text plain
    induction text with
    | nil => rfl
    | cons code rest ih =>
        obtain ⟨own, others⟩ := List.forall_mem_cons.mp plain
        rw [unifyLineEndings, if_neg own.2.1, if_neg fun both => own.1 both.1,
          ih others]
  have kept : (text.map fun code => if code = 0 then 0xFFFD else code) =
      text := by
    conv => rhs; rw [← List.map_id text]
    exact List.map_congr_left fun code member =>
      if_neg (plain code member).2.2
  rw [linesOf, unified plain, kept]
  exact List.splitOn_eq_singleton fun isIn => (plain _ isIn).1 rfl

/-- `\s+(.+)$`: the blanks give their last one away where nothing else is
left. -/
def itemText (rest : Units) : Option Units :=
  let blanks := rest.takeWhile isSpace
  let content := rest.dropWhile isSpace
  if blanks = [] then none
  else if content ≠ [] then
    if content.any isLineTerminator then none else some content
  else
    blanks.tail.getLast?.bind fun last =>
      if isLineTerminator last then none else some [last]

/-- `\s+(.+?)\s*$`. -/
def headingText (rest : Units) : Option Units :=
  let blanks := rest.takeWhile isSpace
  let content := (rest.dropWhile isSpace).rdropWhile isSpace
  if blanks = [] then none
  else if content ≠ [] then
    if content.any isLineTerminator then none else some content
  else
    ((blanks.tail.filter fun code => !isLineTerminator code).getLast?).map
      fun last => [last]

/-- `headingMatch`: the level and the text of a heading. -/
def headingMatch (line : Units) : Option (Nat × Units) :=
  let marks := line.takeWhile (· = unit '#')
  if 2 ≤ marks.length ∧ marks.length ≤ 6 then
    (headingText (line.drop marks.length)).map fun content =>
      (marks.length, content)
  else none

def unorderedMatch (line : Units) : Option Units :=
  match line with
  | code :: rest =>
      if code ∈ [unit '-', unit '+', unit '*'] then itemText rest else none
  | [] => none

def orderedMatch (line : Units) : Option Units :=
  if (line.takeWhile isDigit) = [] then none
  else
    match line.dropWhile isDigit with
    | code :: rest =>
        if code ∈ [unit '.', unit ')'] then itemText rest else none
    | [] => none

def splitTableRow (line : Units) : Option (List Units) :=
  let value := trim line
  if value.head? = some (unit '|') ∧ value.getLast? = some (unit '|') then
    let cells := (value.tail.dropLast.splitOn (unit '|')).map trim
    if 2 ≤ cells.length ∧ cells.length ≤ maxTableColumns ∧
        cells.any (· ≠ []) then some cells
    else none
  else none

def tableAlignment (cell : Units) : Option Alignment :=
  let value := trim cell
  let fromLeft := decide (value.head? = some (unit ':'))
  let behind := if fromLeft then value.tail else value
  let fromRight := decide (behind.getLast? = some (unit ':'))
  let dashes := if fromRight then behind.dropLast else behind
  if 3 ≤ dashes.length ∧ dashes.all (· = unit '-') then
    some (if fromRight then (if fromLeft then .center else .right) else .left)
  else none

/-- `tableMatch`, at the first of the lines. -/
def tableMatch (lines : List Units) : Option (List Units × List Alignment) :=
  match lines with
  | first :: second :: _ =>
      (splitTableRow first).bind fun headers =>
      (splitTableRow second).bind fun separators =>
        if headers.length ≠ separators.length then none
        else
          (separators.mapM tableAlignment).map fun alignments =>
            (headers, alignments)
  | _ => none

/-- `isBlockStart`, at the first of the lines. -/
def isBlockStart (lines : List Units) : Bool :=
  match lines with
  | line :: _ =>
      (headingMatch line).isSome || (unorderedMatch line).isSome ||
        (orderedMatch line).isSome || (tableMatch lines).isSome
  | [] => false

section Parsing

variable (library : PageLibrary) (options : Options)

/-- The rows of a table, and the lines behind them. -/
def parseRows (columnCount : Nat) :
    List Units → List (List (List Inline)) →
    Except MarkdownFault (List (List (List Inline)) × List Units)
  | [], rows => .ok (rows, [])
  | line :: rest, rows =>
      if trim line = [] then .ok (rows, line :: rest)
      else
        match splitTableRow line with
        | none => .ok (rows, line :: rest)
        | some cells =>
            if cells.length ≠ columnCount then .ok (rows, line :: rest)
            else if maxTableRows ≤ rows.length then
              .error (.rangeError
                "restricted Markdown exceeds maximum table rows")
            else do
              let row ← cells.mapM (parseInline library options)
              parseRows columnCount rest (rows ++ [row])

/-- The items of a list, and the lines behind them. -/
def parseItems (itemMatch : Units → Option Units) :
    List Units → List (List Inline) →
    Except MarkdownFault (List (List Inline) × List Units)
  | [], items => .ok (items, [])
  | line :: rest, items =>
      match itemMatch line with
      | none => .ok (items, line :: rest)
      | some content =>
          if maxListItems ≤ items.length then
            .error (.rangeError
              "restricted Markdown exceeds maximum list items")
          else do
            let item ← parseInline library options content
            parseItems itemMatch rest (items ++ [item])

/-- The lines that go on with a paragraph, and the lines behind them. -/
def paragraphLines : List Units → List Units × List Units
  | [] => ([], [])
  | line :: rest =>
      if trim line ≠ [] ∧ isBlockStart (line :: rest) = false then
        (trim line :: (paragraphLines rest).1, (paragraphLines rest).2)
      else ([], line :: rest)

/-- The block that starts with a line that is not blank, and the lines behind
it. -/
def parseBlock (line : Units) (rest : List Units) :
    Except MarkdownFault (Block × List Units) :=
  match tableMatch (line :: rest) with
  | some (headers, alignments) => do
      let (rows, behind) ←
        parseRows library options headers.length rest.tail []
      let headers ← headers.mapM (parseInline library options)
      .ok (.table headers alignments rows, behind)
  | none =>
  match headingMatch line with
  | some (level, content) => do
      let children ← parseInline library options content
      .ok (.heading level children, rest)
  | none =>
  match unorderedMatch line with
  | some _ => do
      let (items, behind) ←
        parseItems library options unorderedMatch (line :: rest) []
      .ok (.list false items, behind)
  | none =>
  match orderedMatch line with
  | some _ => do
      let (items, behind) ←
        parseItems library options orderedMatch (line :: rest) []
      .ok (.list true items, behind)
  | none => do
      let (further, behind) := paragraphLines rest
      let children ← parseInline library options
        (List.intercalate [unit ' '] (trim line :: further))
      .ok (.paragraph children, behind)

/-- The loop of `parse`, with the turns that are left. -/
def parseBlocks :
    Nat → List Units → List Block → Except MarkdownFault (List Block)
  | 0, _, blocks => .ok blocks
  | _ + 1, [], blocks => .ok blocks
  | turns + 1, line :: rest, blocks =>
      if maxBlocks < blocks.length then
        .error (.rangeError "restricted Markdown exceeds maximum blocks")
      else if trim line = [] then parseBlocks turns rest blocks
      else do
        let (block, behind) ← parseBlock library options line rest
        parseBlocks turns behind (blocks ++ [block])

/-- `parse` of a string. -/
def parseSource (source : Units) : Except MarkdownFault Ast :=
  if maxSourceChars < source.length then
    .error (.rangeError "restricted Markdown exceeds maximum length")
  else do
    let lines := linesOf (normalizeCitationSyntax options
      (normalizeInlineStrongParagraphs source))
    let blocks ← parseBlocks library options lines.length lines []
    .ok ⟨blocks⟩

def parse (source : JsValue) : Except MarkdownFault Ast :=
  match source with
  | .string units => parseSource library options units
  | _ =>
      .error (.typeError "restricted Markdown source must be a string")

end Parsing

end SecAI.RestrictedMarkdown
