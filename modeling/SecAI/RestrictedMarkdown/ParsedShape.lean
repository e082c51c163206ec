/-
Module: SecAI.RestrictedMarkdown.ParsedShape
Purpose: Rendering shows all that was parsed: which parsed trees a sanitizer
  leaves as they are, and which trees it leaves as they are the second time.
Trusted boundary: the URL parser of the page follows the URL standard
Main exports:
  NodeReading, HasSmallLists, parse_shaped, sanitizer_keeps_iff
-/
import SecAI.Common.Outcome
import SecAI.RestrictedMarkdown.BlockParser
import SecAI.RestrictedMarkdown.SafeLinks

namespace SecAI.RestrictedMarkdown

/-! ## What a node is read as -/

/-- What the sanitizer reads a node as. -/
inductive NodeReading where
  | text (content : Units)
  | inlineCode (content : Units)
  | citation (citationId : Units)
  | strong
  | emphasis
  | link (href : Units)
  | nothing

def readingOf (node : JsValue) : NodeReading :=
  match hasType node "text", (node.get "text").units? with
  | true, some content => .text content
  | _, _ =>
  match hasType node "inline_code", (node.get "text").units? with
  | true, some content => .inlineCode content
  | _, _ =>
  match hasType node "citation_ref", (node.get "citationId").units? with
  | true, some citationId => .citation citationId
  | _, _ =>
  match (node.get "children").items? with
  | none => .nothing
  | some _ =>
      if hasType node "strong" then .strong
      else if hasType node "emphasis" then .emphasis
      else if hasType node "link" then
        .link ((node.get "href").units?.getD [])
      else .nothing

section Counting

variable (library : PageLibrary) (options : Options)

def isLet (href : Units) : Bool :=
  (sanitizeLinkTarget library href options.allowedOrigins).isSome

/-- What a node adds to a list: `true` for a text with something in it, `false`
for another node.  Of a link that is blocked, its children are added. -/
def nodeKinds (children : JsValue → List Bool) (node : JsValue) : List Bool :=
  match readingOf node with
  | .text content => if content = [] then [] else [true]
  | .inlineCode _ | .strong | .emphasis => [false]
  | .citation citationId =>
      if citationAllowed options citationId then [false] else []
  | .link href =>
      if isLet library options href then [false]
      else children (node.get "children")
  | .nothing => []

def addKind (kinds : List Bool) (kind : Bool) : List Bool :=
  if kind = true ∧ kinds.getLast? = some true then kinds else kinds ++ [kind]

/-- The nodes of a list, counted by what they are. -/
def listKinds : Nat → JsValue → List Bool
  | 0, _ => []
  | room + 1, nodes =>
      match nodes.items? with
      | none => []
      | some items =>
          ((items.take maxInlineNodes).flatMap
            (nodeKinds library options (listKinds room))).foldl addKind []

/-- The lists that a node leads to are not too long; `own` is about the list of
its children, `spliced` about those below. -/
def nodeIsSmall (own spliced : JsValue → Bool) (node : JsValue) : Bool :=
  match readingOf node with
  | .strong | .emphasis => own (node.get "children")
  | .link href =>
      if isLet library options href then own (node.get "children")
      else spliced (node.get "children")
  | .text _ | .inlineCode _ | .citation _ | .nothing => true

def isSmallBelow : Nat → JsValue → Bool
  | 0, _ => true
  | room + 1, nodes =>
      match nodes.items? with
      | none => true
      | some items =>
          (items.take maxInlineNodes).all (nodeIsSmall library options
            (fun children =>
              decide ((listKinds library options room children).length ≤
                maxInlineNodes) && isSmallBelow room children)
            (isSmallBelow room))

/-- A list with no more than `MAX_INLINE_NODES` nodes, the nodes of its blocked
links counted as its own, and with no longer list below it. -/
def isSmall (nodes : JsValue) : Bool :=
  decide ((listKinds library options 4 nodes).length ≤ maxInlineNodes) &&
    isSmallBelow library options 4 nodes

def contentsOf (block : JsValue) : List JsValue :=
  match hasType block "heading", (block.get "children").items? with
  | true, some _ => [block.get "children"]
  | _, _ =>
  match hasType block "paragraph", (block.get "children").items? with
  | true, some _ => [block.get "children"]
  | _, _ =>
  match hasType block "unordered_list" || hasType block "ordered_list",
      (block.get "items").items? with
  | true, some items => items.take maxListItems
  | _, _ =>
  match hasType block "table", (block.get "headers").items?,
      (block.get "rows").items?, (block.get "alignments").items? with
  | true, some headers, some rows, some alignments =>
      if 2 ≤ headers.length ∧ headers.length ≤ maxTableColumns ∧
          alignments.length = headers.length then
        headers ++ ((rows.take maxTableRows).filterMap fun row =>
          match row.items? with
          | some cells =>
              if cells.length = headers.length then some cells else none
          | none => none).flatten
      else []
  | _, _, _, _ => []

/-- No list of a tree that is let through is too long. -/
def HasSmallLists (value : JsValue) : Prop :=
  ∀ block ∈ ((value.get "blocks").items?.getD []).take maxBlocks,
    ∀ nodes ∈ contentsOf block, isSmall library options nodes = true

end Counting

section Results

variable {library : PageLibrary} {options : Options}

/-- What a node pushes, by its reading. -/
theorem safeNodes_of_reading (children : JsValue → List Inline)
    (node : JsValue) :
    safeNodes library options children node =
      match readingOf node with
      | .text content => [.text content]
      | .inlineCode content => [.inlineCode content]
      | .citation citationId =>
          if citationAllowed options citationId then [.citationRef citationId]
          else []
      | .strong => [.strong (children (node.get "children"))]
      | .emphasis => [.emphasis (children (node.get "children"))]
      | .link href =>
          match sanitizeLinkTarget library href options.allowedOrigins with
          | none => children (node.get "children")
          | some (kind, href) =>
              [.link href kind (children (node.get "children"))]
      | .nothing => [] := by
  rw [safeNodes, readingOf]
  split
  · next isType isContent => simp only [isType, isContent]
  rename_i noText
  try simp only
  split
  · next isType isContent => simp only [isType, isContent]
  rename_i noCode
  try simp only
  split
  · next isType isContent => simp only [isType, isContent]
  rename_i noCitation
  try simp only
  split
  · next none => simp only [none]
  rename_i some
  try simp only [some]
  split_ifs
  · rfl
  · rfl
  · rfl
  · rfl

/-! ## The nodes that are counted -/

def kindsOf (nodes : List Inline) : List Bool := nodes.map Inline.isText

def pushedKinds : Inline → List Bool
  | .text content => if content = [] then [] else [true]
  | _ => [false]

/-- A pushed node is counted. -/
theorem kindsOf_pushNode (nodes : List Inline) (node : Inline) :
    kindsOf (pushNode nodes node) =
      (pushedKinds node).foldl addKind (kindsOf nodes) := by
  have other : ∀ {node : Inline}, node.isText = false →
      kindsOf (nodes ++ [node]) = addKind (kindsOf nodes) false := by
    intro node noText
    rw [addKind, if_neg (by simp), kindsOf, List.map_append, List.map_singleton,
      noText]
    rfl
  cases node with
  | text content =>
      rw [pushNode, pushText, pushedKinds]
      split
      · rfl
      rw [List.foldl_cons, List.foldl_nil, addKind]
      have lastKind : (kindsOf nodes).getLast? =
          nodes.getLast?.map Inline.isText := List.getLast?_map
      rw [lastKind]
      split
      · next previous isLast =>
          obtain ⟨front, rfl⟩ := List.getLast?_eq_some_iff.mp isLast
          rw [isLast, if_pos ⟨rfl, rfl⟩, List.dropLast_concat, kindsOf,
            kindsOf, List.map_append, List.map_append]
          rfl
      · next noText =>
          have apart : nodes.getLast?.map Inline.isText ≠ some true := by
            intro isText
            obtain ⟨last, isLast, same⟩ := Option.map_eq_some_iff.mp isText
            cases last with
            | text previous => exact noText previous isLast
            | _ => cases same
          rw [if_neg fun both => apart both.2, kindsOf, List.map_append]
          rfl
  | inlineCode content => exact other rfl
  | citationRef citationId => exact other rfl
  | strong children => exact other rfl
  | emphasis children => exact other rfl
  | link href kind children => exact other rfl

theorem kindsOf_merged (nodes : List Inline) :
    kindsOf (merged nodes) =
      (nodes.flatMap pushedKinds).foldl addKind [] := by
  rw [merged]
  induction nodes using List.reverseRecOn with
  | nil => rfl
  | append_singleton earlier node ih =>
      rw [List.foldl_concat, kindsOf_pushNode, ih,
        List.flatMap_append, List.foldl_append, List.flatMap_singleton]

theorem flatMap_pushedKinds {nodes : List Inline}
    (filled : ∀ node ∈ nodes, node.IsFilled) :
    nodes.flatMap pushedKinds = kindsOf nodes := by
  rw [kindsOf, List.map_eq_flatMap]
  refine List.flatMap_congr fun node member => ?_
  cases node with
  | text content => exact if_neg (filled _ member)
  | _ => rfl

/-- A list that was let through is counted by its source. -/
theorem kindsOf_sanitizeInline (standard : FollowsUrlStandard library) :
    ∀ (room : Nat) (value : JsValue),
      kindsOf (sanitizeInline library options room value) =
        listKinds library options room value
  | 0, value => by
      rw [sanitizeInline, listKinds]
      rfl
  | room + 1, value => by
      rw [sanitizeInline, listKinds]
      cases value.items? with
      | none => rfl
      | some items =>
      dsimp only
      rw [kindsOf_merged, List.flatMap_assoc]
      refine congrArg (List.foldl addKind []) (List.flatMap_congr ?_)
      intro node _
      rw [safeNodes_of_reading, nodeKinds]
      cases readingOf node with
      | text content => exact List.append_nil _
      | inlineCode content => rfl
      | citation citationId =>
          dsimp only
          split_ifs <;> rfl
      | strong => rfl
      | emphasis => rfl
      | nothing => rfl
      | link href =>
          dsimp only
          rw [isLet]
          cases sanitizeLinkTarget library href options.allowedOrigins with
          | some target => rfl
          | none =>
              dsimp only [Option.isSome]
              rw [if_neg Bool.false_ne_true,
                ← kindsOf_sanitizeInline standard room]
              refine flatMap_pushedKinds fun child member => ?_
              have shaped : Shaped library options room
                  (sanitizeInline library options room (node.get "children")) :=
                sanitizeInline_shaped standard room _
              exact (shaped.succ.2 child member).isFilled

/-! ## Lists that are not too long -/

/-- A list below a pushed node is one below the others, or below the node. -/
theorem fitsAll_pushNode (nodes : List Inline) (node : Inline) :
    fitsAll (pushNode nodes node) = (fitsAll nodes && fitsNode node) := by
  have appended : ∀ (front : List Inline) (last : Inline),
      fitsAll (front ++ [last]) = (fitsAll front && fitsNode last) := by
    intro front last
    rw [Bool.eq_iff_iff, Bool.and_eq_true, fitsAll_iff, fitsAll_iff,
      List.forall_mem_append, List.forall_mem_singleton]
  cases node with
  | text content =>
      rw [pushNode, pushText, fitsNode, Bool.and_true]
      split
      · rfl
      split
      · next previous isLast =>
          obtain ⟨front, rfl⟩ := List.getLast?_eq_some_iff.mp isLast
          rw [List.dropLast_concat, appended, appended, fitsNode, fitsNode]
      · rw [appended, fitsNode, Bool.and_true]
  | inlineCode content => exact appended _ _
  | citationRef citationId => exact appended _ _
  | strong children => exact appended _ _
  | emphasis children => exact appended _ _
  | link href kind children => exact appended _ _

theorem fitsAll_merged (nodes : List Inline) :
    fitsAll (merged nodes) = nodes.all fitsNode := by
  rw [merged]
  induction nodes using List.reverseRecOn with
  | nil => rfl
  | append_singleton earlier node ih =>
      rw [List.foldl_concat, fitsAll_pushNode, ih,
        List.all_append, List.all_cons, List.all_nil, Bool.and_true]

/-- Whether a list below one that was let through is too long is told by its
source. -/
theorem fitsAll_sanitizeInline (standard : FollowsUrlStandard library) :
    ∀ (room : Nat) (value : JsValue),
      fitsAll (sanitizeInline library options room value) =
        isSmallBelow library options room value
  | 0, value => by
      rw [sanitizeInline, isSmallBelow]
      rfl
  | room + 1, value => by
      have whole : ∀ children : JsValue,
          fits (sanitizeInline library options room children) =
            (decide ((listKinds library options room children).length ≤
              maxInlineNodes) && isSmallBelow library options room children) := by
        intro children
        rw [fits, fitsAll_sanitizeInline standard room,
          ← kindsOf_sanitizeInline standard, kindsOf, List.length_map]
      rw [sanitizeInline, isSmallBelow]
      cases value.items? with
      | none => rfl
      | some items =>
      dsimp only
      rw [fitsAll_merged, List.all_flatMap]
      refine congrArg (List.all _) (funext fun node => ?_)
      rw [safeNodes_of_reading, nodeIsSmall]
      cases readingOf node with
      | text content => rfl
      | inlineCode content => rfl
      | citation citationId =>
          dsimp only
          split_ifs <;> rfl
      | strong => exact (Bool.and_true _).trans (whole _)
      | emphasis => exact (Bool.and_true _).trans (whole _)
      | nothing => rfl
      | link href =>
          dsimp only
          rw [isLet]
          cases sanitizeLinkTarget library href options.allowedOrigins with
          | some target => exact (Bool.and_true _).trans (whole _)
          | none =>
              dsimp only [Option.isSome]
              rw [if_neg Bool.false_ne_true,
                ← fitsAll_sanitizeInline standard room, Bool.eq_iff_iff,
                List.all_eq_true, fitsAll_iff]

theorem fits_sanitizeContent (standard : FollowsUrlStandard library)
    (value : JsValue) :
    fits (sanitizeContent library options value) =
      isSmall library options value := by
  rw [fits, sanitizeContent, fitsAll_sanitizeInline standard,
    ← List.length_map (f := Inline.isText), isSmall,
    ← kindsOf_sanitizeInline standard]
  rfl

/-! ## Blocks -/

/-- The rows that are let through have as many cells as the table has columns,
and they are not too many. -/
theorem tableRows_wellFormed {columnCount : Nat} {rows : List JsValue} :
    (tableRows library options columnCount rows).length ≤ maxTableRows ∧
      ∀ row ∈ tableRows library options columnCount rows,
        row.length = columnCount := by
  constructor
  · rw [tableRows]
    refine (List.length_filterMap_le _ _).trans ?_
    rw [List.length_take]
    exact min_le_left _ _
  · intro row member
    obtain ⟨source, _, kept⟩ := List.mem_filterMap.mp member
    split at kept
    · split at kept
      · next full =>
          cases kept
          rw [List.length_map, full]
      · cases kept
    · cases kept

theorem clampedLevel_bounds (level : JsNumber) :
    2 ≤ clampedLevel level ∧ clampedLevel level ≤ 6 := by
  cases level with
  | nan => exact ⟨le_refl _, by decide⟩
  | finite value =>
      rw [clampedLevel]
      split
      · exact ⟨le_refl _, by decide⟩
      · exact ⟨le_max_left _ _, max_le (by decide) (min_le_left _ _)⟩
  | infinite negative =>
      cases negative
      · exact ⟨by decide, le_refl _⟩
      · exact ⟨le_refl _, by decide⟩

variable {value : JsValue}

/-- A block that is let through keeps to the limits of blocks. -/
theorem safeBlock_wellFormed {block : Block}
    (kept : safeBlock library options value = some block) :
    block.IsWellFormed := by
  rw [safeBlock] at kept
  split at kept
  · cases kept
    exact clampedLevel_bounds _
  split at kept
  · cases kept
    trivial
  split at kept
  · cases kept
    rw [Block.IsWellFormed, List.length_map, List.length_take]
    exact min_le_left _ _
  split at kept
  · split at kept
    · next headers rows alignments _ _ _ _ limits =>
        cases kept
        refine ⟨?_, ?_, ?_, tableRows_wellFormed.1, ?_⟩
        · rw [List.length_map]
          exact limits.1
        · rw [List.length_map]
          exact limits.2.1
        · rw [List.length_map, List.length_map]
          exact limits.2.2
        · rw [List.length_map]
          exact tableRows_wellFormed.2
    · cases kept
  · cases kept

/-- The lists of a block that is let through are those of its source. -/
theorem safeBlock_contents {block : Block}
    (kept : safeBlock library options value = some block) :
    block.contents =
      (contentsOf value).map (sanitizeContent library options) := by
  rw [safeBlock] at kept
  rw [contentsOf]
  split at kept
  · next isType isList =>
      cases kept
      try rw [isType, isList]
      rfl
  next noHeading =>
  try simp only
  split at kept
  · next isType isList =>
      cases kept
      try rw [isType, isList]
      rfl
  next noParagraph =>
  try simp only
  split at kept
  · next isType isList =>
      cases kept
      try rw [isType, isList]
      rfl
  next noList =>
  try simp only
  split at kept
  · next headers rows alignments isType areHeaders areRows areAlignments =>
      try rw [isType, areHeaders, areRows, areAlignments]
      try dsimp only
      split at kept
      · next limits =>
          cases kept
          rw [if_pos limits, Block.contents, List.map_append, List.map_flatten,
            tableRows, List.map_filterMap]
          refine congrArg (_ ++ List.flatten ·) (List.filterMap_congr ?_)
          intro row _
          cases row.items? with
          | none => rfl
          | some cells =>
              dsimp only
              split_ifs <;> rfl
      · cases kept
  · cases kept

/-- A block that is dropped leads to no list. -/
theorem contentsOf_of_dropped
    (dropped : safeBlock library options value = none) :
    contentsOf value = [] := by
  rw [safeBlock] at dropped
  rw [contentsOf]
  split at dropped
  · cases dropped
  try simp only
  split at dropped
  · cases dropped
  try simp only
  split at dropped
  · cases dropped
  try simp only
  split at dropped
  · next headers rows alignments isType areHeaders areRows areAlignments =>
      try rw [isType, areHeaders, areRows, areAlignments]
      try dsimp only
      split at dropped
      · cases dropped
      · next limits => rw [if_neg limits]
  · next noTable => simp only

/-! ## The second time -/

theorem sanitizeAst_shaped (standard : FollowsUrlStandard library) {ast : Ast}
    (accepted : sanitizeAst library options value = .ok ast) :
    ∀ block ∈ ast.blocks, ShapedBlock library options block := by
  obtain ⟨-, blocks, _, rfl⟩ := sanitizeAst_eq_ok_iff.mp accepted
  intro block member
  obtain ⟨source, _, kept⟩ := List.mem_filterMap.mp member
  refine ⟨safeBlock_wellFormed kept, fun content inBlock => ?_⟩
  rw [safeBlock_contents kept] at inBlock
  obtain ⟨nodes, _, rfl⟩ := List.mem_map.mp inBlock
  exact sanitizeInline_shaped standard 4 nodes

/-- A tree that was let through is left as it is the second time exactly if
no list of its source is too long. -/
theorem sanitizeAst_twice_iff (standard : FollowsUrlStandard library)
    {ast : Ast} (accepted : sanitizeAst library options value = .ok ast) :
    sanitizeAst library options ast.toJs = .ok ast ↔
      HasSmallLists library options value := by
  rw [sanitizeAst_eq_iff (sanitizeAst_shaped standard accepted), Ast.Fits]
  obtain ⟨-, blocks, areBlocks, rfl⟩ := sanitizeAst_eq_ok_iff.mp accepted
  have few : ((blocks.take maxBlocks).filterMap
      (safeBlock library options)).length ≤ maxBlocks := by
    refine (List.length_filterMap_le _ _).trans ?_
    rw [List.length_take]
    exact min_le_left _ _
  rw [HasSmallLists, areBlocks]
  constructor
  case mp =>
    rintro ⟨-, fitting⟩ source inBlocks nodes isContent
    cases kept : safeBlock library options source with
    | none =>
        rw [contentsOf_of_dropped kept] at isContent
        cases isContent
    | some block =>
        rw [← fits_sanitizeContent standard]
        refine fitting block (List.mem_filterMap.mpr ⟨source, inBlocks, kept⟩) _
          ?_
        rw [safeBlock_contents kept]
        exact List.mem_map_of_mem isContent
  case mpr =>
    intro small
    refine ⟨few, fun block member content isContent => ?_⟩
    obtain ⟨source, inBlocks, kept⟩ := List.mem_filterMap.mp member
    rw [safeBlock_contents kept] at isContent
    obtain ⟨nodes, isNodes, rfl⟩ := List.mem_map.mp isContent
    rw [fits_sanitizeContent standard]
    exact small source inBlocks nodes isNodes

end Results

variable {line : Units}

theorem splitTableRow_length {cells : List Units}
    (isRow : splitTableRow line = some cells) :
    2 ≤ cells.length ∧ cells.length ≤ maxTableColumns := by
  rw [splitTableRow] at isRow
  dsimp only at isRow
  split at isRow
  · split at isRow
    · next limits =>
        cases isRow
        exact ⟨limits.1, limits.2.1⟩
    · cases isRow
  · cases isRow

theorem alignments_length :
    ∀ {cells : List Units} {alignments : List Alignment},
      cells.mapM tableAlignment = some alignments →
      alignments.length = cells.length
  | [], alignments, found => by
      cases found
      rfl
  | cell :: cells, alignments, found => by
      rw [List.mapM_cons] at found
      obtain ⟨first, _, more⟩ := Option.bind_eq_some_iff.mp found
      obtain ⟨others, rest, same⟩ := Option.bind_eq_some_iff.mp more
      cases same
      rw [List.length_cons, List.length_cons, alignments_length rest]

/-- The head of a table has at least two columns, not too many, and an
alignment for each. -/
theorem tableMatch_limits {lines headers : List Units}
    {alignments : List Alignment}
    (isTable : tableMatch lines = some (headers, alignments)) :
    2 ≤ headers.length ∧ headers.length ≤ maxTableColumns ∧
      alignments.length = headers.length := by
  rw [tableMatch.eq_def] at isTable
  split at isTable
  case h_2 => cases isTable
  case h_1 first second rest =>
    obtain ⟨cells, isRow, more⟩ := Option.bind_eq_some_iff.mp isTable
    obtain ⟨separators, _, found⟩ := Option.bind_eq_some_iff.mp more
    split at found
    · cases found
    rename_i sameLength
    obtain ⟨own, all, same⟩ := Option.map_eq_some_iff.mp found
    cases same
    obtain ⟨low, high⟩ := splitTableRow_length isRow
    exact ⟨low, high,
      (alignments_length all).trans (not_not.mp sameLength).symm⟩

theorem headingMatch_level {content : Units} {level : Nat}
    (isHeading : headingMatch line = some (level, content)) :
    2 ≤ level ∧ level ≤ 6 := by
  rw [headingMatch] at isHeading
  split at isHeading
  · next bounds =>
      obtain ⟨text, _, same⟩ := Option.map_eq_some_iff.mp isHeading
      cases same
      exact bounds
  · cases isHeading

section Parsed

variable {library : PageLibrary} {options : Options}

theorem mapM_parseInline_shaped (standard : FollowsUrlStandard library)
    {sources : List Units} {lists : List (List Inline)}
    (parsed : sources.mapM (parseInline library options) = .ok lists) :
    lists.length = sources.length ∧
      ∀ nodes ∈ lists, Shaped library options 4 nodes := by
  refine ⟨(Outcome.mapM_eq_ok.mp parsed).length_eq.symm, ?_⟩
  intro nodes member
  obtain ⟨source, _, one⟩ := Outcome.mapM_mem parsed nodes member
  exact parseInline_shaped standard one

/-- The rows of a table are not too many, they are as long as the head, and
their cells are shaped. -/
theorem parseRows_shaped (standard : FollowsUrlStandard library)
    {columnCount : Nat} :
    ∀ {lines behind : List Units} {rows result : List (List (List Inline))},
      rows.length ≤ maxTableRows →
      (∀ row ∈ rows, row.length = columnCount ∧
        ∀ cell ∈ row, Shaped library options 4 cell) →
      parseRows library options columnCount lines rows =
        .ok (result, behind) →
      behind.length ≤ lines.length ∧ result.length ≤ maxTableRows ∧
        ∀ row ∈ result, row.length = columnCount ∧
          ∀ cell ∈ row, Shaped library options 4 cell
  | [], behind, rows, result, few, shaped, parsed => by
      cases parsed
      exact ⟨le_refl _, few, shaped⟩
  | line :: rest, behind, rows, result, few, shaped, parsed => by
      rw [parseRows] at parsed
      split at parsed
      · cases parsed
        exact ⟨le_refl _, few, shaped⟩
      split at parsed
      · cases parsed
        exact ⟨le_refl _, few, shaped⟩
      next cells _ =>
      split at parsed
      · cases parsed
        exact ⟨le_refl _, few, shaped⟩
      next sameLength =>
      split at parsed
      · cases parsed
      next room =>
      obtain ⟨row, own, others⟩ := Outcome.bind_eq_ok.mp parsed
      obtain ⟨asLong, cellsShaped⟩ := mapM_parseInline_shaped standard own
      have longer : (rows ++ [row]).length ≤ maxTableRows := by
        rw [List.length_append, List.length_singleton]
        omega
      obtain ⟨shorter, fewer, all⟩ := parseRows_shaped standard longer
        (List.forall_mem_append.mpr ⟨shaped, List.forall_mem_singleton.mpr
          ⟨asLong.trans (not_not.mp sameLength), cellsShaped⟩⟩) others
      exact ⟨shorter.trans (Nat.le_succ _), fewer, all⟩

variable {itemMatch : Units → Option Units}

/-- The items of a list are not too many, and they are shaped. -/
theorem parseItems_shaped (standard : FollowsUrlStandard library) :
    ∀ {lines behind : List Units} {items result : List (List Inline)},
      items.length ≤ maxListItems →
      (∀ item ∈ items, Shaped library options 4 item) →
      parseItems library options itemMatch lines items = .ok (result, behind) →
      behind.length ≤ lines.length ∧ result.length ≤ maxListItems ∧
        ∀ item ∈ result, Shaped library options 4 item
  | [], behind, items, result, few, shaped, parsed => by
      cases parsed
      exact ⟨le_refl _, few, shaped⟩
  | line :: rest, behind, items, result, few, shaped, parsed => by
      rw [parseItems] at parsed
      split at parsed
      · cases parsed
        exact ⟨le_refl _, few, shaped⟩
      split at parsed
      · cases parsed
      next room =>
      obtain ⟨item, own, others⟩ := Outcome.bind_eq_ok.mp parsed
      have longer : (items ++ [item]).length ≤ maxListItems := by
        rw [List.length_append, List.length_singleton]
        omega
      obtain ⟨shorter, fewer, all⟩ := parseItems_shaped standard longer
        (List.forall_mem_append.mpr ⟨shaped, List.forall_mem_singleton.mpr
          (parseInline_shaped standard own)⟩) others
      exact ⟨shorter.trans (Nat.le_succ _), fewer, all⟩

variable {behind : List Units}

theorem parseItems_takes (standard : FollowsUrlStandard library)
    {content : Units} {rest : List Units} {result : List (List Inline)}
    (isItem : itemMatch line = some content)
    (parsed : parseItems library options itemMatch (line :: rest) [] =
      .ok (result, behind)) : behind.length ≤ rest.length := by
  rw [parseItems, isItem] at parsed
  dsimp only at parsed
  rw [if_neg (by decide)] at parsed
  obtain ⟨item, own, others⟩ := Outcome.bind_eq_ok.mp parsed
  have short : ([] ++ [item]).length ≤ maxListItems := by
    rw [List.nil_append, List.length_singleton]
    decide
  exact (parseItems_shaped standard short
    (List.forall_mem_singleton.mpr (parseInline_shaped standard own))
    others).1

theorem paragraphLines_length :
    ∀ lines : List Units, (paragraphLines lines).2.length ≤ lines.length
  | [] => le_refl _
  | line :: rest => by
      rw [paragraphLines]
      split
      · exact (paragraphLines_length rest).trans (Nat.le_succ _)
      · exact le_refl _

/-- A block that is parsed is shaped, and at least one line is taken. -/
theorem parseBlock_shaped (standard : FollowsUrlStandard library)
    {rest : List Units} {block : Block}
    (parsed : parseBlock library options line rest = .ok (block, behind)) :
    behind.length ≤ rest.length ∧ ShapedBlock library options block := by
  rw [parseBlock] at parsed
  split at parsed
  · next headers alignments isTable =>
      obtain ⟨⟨rows, after⟩, ownRows, more⟩ := Outcome.bind_eq_ok.mp parsed
      obtain ⟨heads, ownHeads, same⟩ := Outcome.bind_eq_ok.mp more
      cases same
      obtain ⟨low, high, aligned⟩ := tableMatch_limits isTable
      obtain ⟨asLong, headsShaped⟩ := mapM_parseInline_shaped standard ownHeads
      obtain ⟨shorter, few, rowsShaped⟩ :=
        parseRows_shaped standard (Nat.zero_le _)
          (List.forall_mem_nil _) ownRows
      refine ⟨shorter.trans (by rw [List.length_tail]; exact Nat.sub_le _ _),
        ⟨?_, ?_, ?_, few, ?_⟩, ?_⟩
      · rw [asLong]
        exact low
      · rw [asLong]
        exact high
      · rw [asLong]
        exact aligned
      · intro row member
        rw [asLong]
        exact (rowsShaped row member).1
      · intro content member
        rcases List.mem_append.mp member with inHeads | inRows
        · exact headsShaped content inHeads
        · obtain ⟨row, isRow, inRow⟩ := List.mem_flatten.mp inRows
          exact (rowsShaped row isRow).2 content inRow
  split at parsed
  · next level content isHeading =>
      obtain ⟨children, own, same⟩ := Outcome.bind_eq_ok.mp parsed
      cases same
      obtain ⟨low, high⟩ := headingMatch_level isHeading
      refine ⟨le_refl _, ⟨?_, ?_⟩, List.forall_mem_singleton.mpr
        (parseInline_shaped standard own)⟩
      · exact_mod_cast low
      · exact_mod_cast high
  split at parsed
  · next isItem =>
      obtain ⟨⟨items, after⟩, own, same⟩ := Outcome.bind_eq_ok.mp parsed
      cases same
      obtain ⟨_, few, shaped⟩ :=
        parseItems_shaped standard (Nat.zero_le _)
          (List.forall_mem_nil _) own
      exact ⟨parseItems_takes standard isItem own, few, shaped⟩
  split at parsed
  · next isItem =>
      obtain ⟨⟨items, after⟩, own, same⟩ := Outcome.bind_eq_ok.mp parsed
      cases same
      obtain ⟨_, few, shaped⟩ :=
        parseItems_shaped standard (Nat.zero_le _)
          (List.forall_mem_nil _) own
      exact ⟨parseItems_takes standard isItem own, few, shaped⟩
  · obtain ⟨children, own, same⟩ := Outcome.bind_eq_ok.mp parsed
    cases same
    exact ⟨paragraphLines_length rest, trivial,
      List.forall_mem_singleton.mpr (parseInline_shaped standard own)⟩

theorem parseBlocks_shaped (standard : FollowsUrlStandard library) :
    ∀ {turns : Nat} {lines : List Units} {blocks result : List Block},
      (∀ block ∈ blocks, ShapedBlock library options block) →
      parseBlocks library options turns lines blocks = .ok result →
      ∀ block ∈ result, ShapedBlock library options block
  | 0, lines, blocks, result, shaped, parsed => by
      cases parsed
      exact shaped
  | turns + 1, [], blocks, result, shaped, parsed => by
      cases parsed
      exact shaped
  | turns + 1, line :: rest, blocks, result, shaped, parsed => by
      rw [parseBlocks] at parsed
      split at parsed
      · cases parsed
      split at parsed
      · exact parseBlocks_shaped standard shaped parsed
      obtain ⟨⟨block, behind⟩, own, others⟩ := Outcome.bind_eq_ok.mp parsed
      exact parseBlocks_shaped standard (List.forall_mem_append.mpr
        ⟨shaped, List.forall_mem_singleton.mpr
          (parseBlock_shaped standard own).2⟩) others

theorem parse_shaped (standard : FollowsUrlStandard library)
    {source : JsValue} {ast : Ast}
    (parsed : parse library options source = .ok ast) :
    ∀ block ∈ ast.blocks, ShapedBlock library options block := by
  rw [parse.eq_def] at parsed
  split at parsed
  case h_2 => cases parsed
  case h_1 units =>
    rw [parseSource] at parsed
    split at parsed
    · cases parsed
    · obtain ⟨blocks, own, same⟩ := Outcome.bind_eq_ok.mp parsed
      cases same
      exact parseBlocks_shaped standard (List.forall_mem_nil _) own

/-- A parsed tree is left as it is exactly if no list of it is too long, and
a tree that was let through is left as it is the second time exactly if no list
of its source is too long. -/
theorem sanitizer_keeps_iff (library : PageLibrary) (options : Options)
    (standard : FollowsUrlStandard library) :
    (∀ source ast, parse library options source = .ok ast →
      (sanitizeAst library options ast.toJs = .ok ast ↔ ast.Fits)) ∧
    ∀ value ast, sanitizeAst library options value = .ok ast →
      (sanitizeAst library options ast.toJs = .ok ast ↔
        HasSmallLists library options value) :=
  ⟨fun _ _ parsed => sanitizeAst_eq_iff (parse_shaped standard parsed),
    fun _ _ accepted => sanitizeAst_twice_iff standard accepted⟩

end Parsed

def noOptions : Options := ⟨.undefined, .undefined⟩

/-- A code of one letter, as a text. -/
def codeText : Units := [0x60, unit 'a', 0x60]

/-- Such codes, one behind the other. -/
def codeTexts (count : Nat) : Units :=
  (List.replicate count codeText).flatten

def codeNodes (count : Nat) : List Inline :=
  List.replicate count (.inlineCode [unit 'a'])

variable {count : Nat}

theorem mem_codeTexts {code : UInt16} (member : code ∈ codeTexts count) :
    code ∈ codeText := by
  obtain ⟨text, isText, inText⟩ := List.mem_flatten.mp member
  rwa [List.eq_of_mem_replicate isText] at inText

/-- As long as there are not too many, each code becomes a node. -/
theorem inlineLoop_codeTexts {library : PageLibrary} {options : Options}
    {nested : Units → Except MarkdownFault (List Inline)} :
    ∀ {count turns before : Nat}, before + count ≤ maxInlineNodes + 1 →
      count ≤ turns →
      inlineLoop (inlineStep library options nested) turns (codeTexts count)
        (codeNodes before) = .ok (codeNodes (before + count))
  | 0, 0, _, _, _ => rfl
  | 0, turns + 1, before, _, _ => by
      rw [inlineLoop, if_pos]
      · rfl
      · rfl
  | count + 1, turns + 1, before, few, enough => by
      have turned : inlineStep library options nested
          (codeText ++ codeTexts count) =
          .ok (.inlineCode [unit 'a'], codeTexts count) := rfl
      have pushed : pushNode (codeNodes before) (.inlineCode [unit 'a']) =
          codeNodes (before + 1) := List.replicate_succ'.symm
      rw [codeTexts, List.replicate_succ, List.flatten_cons, ← codeTexts,
        inlineLoop, if_neg (by rintro ⟨⟩), if_neg, turned]
      · dsimp only
        rw [pushed, inlineLoop_codeTexts (by omega) (by omega)]
        congr 2
        omega
      · rw [codeNodes, List.length_replicate]
        omega

theorem codeTexts_plain {code : UInt16} (member : code ∈ codeTexts count) :
    code ≠ unit '\n' ∧ code ≠ unit '\r' ∧ code ≠ 0 ∧ isSpace code = false := by
  have known : ∀ code ∈ codeText, code ≠ unit '\n' ∧ code ≠ unit '\r' ∧
      code ≠ 0 ∧ isSpace code = false :=
    @of_decide_eq_true _ (List.decidableBAll _ _) rfl
  exact known code (mem_codeTexts member)

theorem length_codeTexts (count : Nat) :
    (codeTexts count).length = 3 * count := by
  rw [codeTexts, List.length_flatten, List.map_replicate, Nat.mul_comm]
  exact List.sum_replicate_nat

/-- A line of codes becomes a paragraph. -/
theorem parse_codeTexts (library : PageLibrary)
    (few : count ≤ maxInlineNodes) :
    parse library noOptions (.string (codeTexts (count + 1))) =
      .ok ⟨[.paragraph (codeNodes (count + 1))]⟩ := by
  have visible : trim (codeTexts (count + 1)) = codeTexts (count + 1) := by
    refine trim_eq_self (List.any_eq_false.mpr fun code member space => ?_)
    rw [(codeTexts_plain member).2.2.2] at space
    cases space
  have starts : codeTexts (count + 1) = codeText ++ codeTexts count := rfl
  have parsed : parseInline library noOptions (codeTexts (count + 1)) =
      .ok (codeNodes (count + 1)) := by
    have whole : inlineLoop
        (inlineStep library noOptions (parseNested library noOptions 3))
        (codeTexts (count + 1)).length (codeTexts (count + 1)) (codeNodes 0) =
        .ok (codeNodes (0 + (count + 1))) := by
      refine inlineLoop_codeTexts (by omega) ?_
      rw [length_codeTexts]
      omega
    rw [Nat.zero_add] at whole
    exact whole
  have block : parseBlock library noOptions (codeTexts (count + 1)) [] =
      .ok (.paragraph (codeNodes (count + 1)), []) := by
    have noHeading : headingMatch (codeTexts (count + 1)) = none := by
      rw [starts]
      rfl
    have noItem : unorderedMatch (codeTexts (count + 1)) = none := by
      rw [starts]
      rfl
    have noNumber : orderedMatch (codeTexts (count + 1)) = none := by
      rw [starts]
      rfl
    rw [parseBlock, noHeading, noItem, noNumber]
    change (parseInline library noOptions (List.intercalate [unit ' ']
      [trim (codeTexts (count + 1))]) >>= _) = _
    rw [visible]
    change (parseInline library noOptions
      (codeTexts (count + 1) ++ []) >>= _) = _
    rw [List.append_nil, parsed]
    rfl
  have lines : linesOf (normalizeCitationSyntax noOptions
      (normalizeInlineStrongParagraphs (codeTexts (count + 1)))) =
      [codeTexts (count + 1)] := by
    rw [normalizeInlineStrongParagraphs_of_one_line fun isIn =>
      (codeTexts_plain isIn).1 rfl]
    exact linesOf_of_one_line fun code member =>
      let plain := codeTexts_plain member
      ⟨plain.1, plain.2.1, plain.2.2.1⟩
  rw [parse, parseSource, if_neg, lines]
  · dsimp only
    rw [List.length_singleton, parseBlocks, if_neg (by decide), visible,
      if_neg nofun, block]
    rfl
  · rw [length_codeTexts, maxSourceChars]
    rw [maxInlineNodes] at few
    omega

/-- A line of one code is kept. -/
theorem one_code_is_kept :
    sanitizeAst samplePage noOptions (Ast.toJs ⟨[.paragraph (codeNodes 1)]⟩) =
      .ok ⟨[.paragraph (codeNodes 1)]⟩ := by
  have parsed := parse_codeTexts samplePage (Nat.zero_le maxInlineNodes)
  refine ((sanitizer_keeps_iff samplePage noOptions samplePage_follows).1 _ _
    parsed).mpr ⟨Nat.succ_le_succ (Nat.zero_le _), ?_⟩
  exact List.forall_mem_singleton.mpr (List.forall_mem_singleton.mpr rfl)

/-- Of a line of 4097 codes, the sanitizer drops the last. -/
theorem last_code_is_dropped :
    parse samplePage noOptions (.string (codeTexts 4097)) =
        .ok ⟨[.paragraph (codeNodes 4097)]⟩ ∧
      sanitizeAst samplePage noOptions
        (Ast.toJs ⟨[.paragraph (codeNodes 4097)]⟩) ≠
        .ok ⟨[.paragraph (codeNodes 4097)]⟩ := by
  refine ⟨parse_codeTexts samplePage (le_refl _), fun same => ?_⟩
  have shaped : Shaped samplePage noOptions 4 (codeNodes 4097) := by
    refine ⟨?_, fun node member => ?_⟩
    · refine List.isChain_replicate_of_rel _ ?_
      rintro ⟨isText, -⟩
      cases isText
    · rw [List.eq_of_mem_replicate member]
      trivial
  have shapedBlock : ShapedBlock samplePage noOptions
      (.paragraph (codeNodes 4097)) :=
    ⟨trivial, List.forall_mem_singleton.mpr shaped⟩
  have fitting := (sanitizeAst_eq_iff
    (List.forall_mem_singleton.mpr shapedBlock)).mp same
  have short := fitting.2 _ (List.mem_singleton.mpr rfl) _
    (List.mem_singleton.mpr rfl)
  rw [fits, Bool.and_eq_true, decide_eq_true_eq, codeNodes,
    List.length_replicate] at short
  exact absurd short.1 (by decide)

end SecAI.RestrictedMarkdown
