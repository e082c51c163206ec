/-
Module: SecAI.RestrictedMarkdown.Shape
Purpose: The shape of a sanitized tree: what it has when it comes out, and when
  it is left as it is if it comes in again.
Trusted boundary: the URL parser of the page follows the URL standard
Main exports:
  Inline.toJs, Shaped, fits, sanitizeInline_of_shaped
-/
import Mathlib.Data.List.Chain
import SecAI.RestrictedMarkdown.Sanitizer

namespace SecAI.RestrictedMarkdown

/-! ## Trees as values -/

mutual

def Inline.toJs : Inline → JsValue
  | .text content => .object
      [("type", .string (unitsOf "text")), ("text", .string content)]
  | .inlineCode content => .object
      [("type", .string (unitsOf "inline_code")), ("text", .string content)]
  | .citationRef citationId => .object
      [("type", .string (unitsOf "citation_ref")),
        ("citationId", .string citationId)]
  | .strong children => .object
      [("type", .string (unitsOf "strong")),
        ("children", .array (contentToJs children))]
  | .emphasis children => .object
      [("type", .string (unitsOf "emphasis")),
        ("children", .array (contentToJs children))]
  | .link href kind children => .object
      [("type", .string (unitsOf "link")), ("href", .string href),
        ("linkKind", .string (unitsOf (match kind with
          | .sameOrigin => "same_origin"
          | .https => "https"))),
        ("children", .array (contentToJs children))]

def contentToJs : List Inline → List JsValue
  | [] => []
  | node :: nodes => node.toJs :: contentToJs nodes

end

theorem contentToJs_eq_map (nodes : List Inline) :
    contentToJs nodes = nodes.map Inline.toJs := by
  induction nodes with
  | nil => rw [contentToJs, List.map_nil]
  | cons node nodes ih =>
      rw [contentToJs, ih, List.map_cons]

/-! ## Texts side by side -/

def Inline.isText : Inline → Bool
  | .text _ => true
  | _ => false

/-- No two texts stand side by side. -/
def Joined (nodes : List Inline) : Prop :=
  nodes.IsChain fun first second =>
    ¬(first.isText = true ∧ second.isText = true)

/-- A text with something in it, or no text. -/
def Inline.IsFilled : Inline → Prop
  | .text content => content ≠ []
  | _ => True

variable {nodes : List Inline} {node : Inline}

theorem pushNode_of_not_isText (isOther : node.isText = false) :
    pushNode nodes node = nodes ++ [node] := by
  cases node with
  | text content => cases isOther
  | _ => rfl

variable {earlier : List Inline}

theorem pushText_join {previous content : Units} (filled : content ≠ []) :
    pushText (earlier ++ [.text previous]) content =
      earlier ++ [.text (previous ++ content)] := by
  rw [pushText, if_neg filled, List.getLast?_concat, List.dropLast_concat]

theorem pushText_alone {content : Units} (filled : content ≠ [])
    (noText : ∀ last ∈ earlier.getLast?, last.isText = false) :
    pushText earlier content = earlier ++ [.text content] := by
  rw [pushText, if_neg filled]
  split
  · next previous isLast => cases noText _ isLast
  · rfl

theorem pushNode_of_joined (filled : node.IsFilled)
    (apart : ∀ last ∈ earlier.getLast?,
      ¬(last.isText = true ∧ node.isText = true)) :
    pushNode earlier node = earlier ++ [node] := by
  cases node with
  | text content =>
      refine pushText_alone filled fun last isLast => ?_
      exact Bool.eq_false_of_not_eq_true fun isText =>
        apart last isLast ⟨isText, rfl⟩
  | _ => rfl

theorem merged_of_joined (joined : Joined nodes)
    (filled : ∀ node ∈ nodes, node.IsFilled) : merged nodes = nodes := by
  rw [merged]
  induction nodes using List.reverseRecOn with
  | nil => rfl
  | append_singleton earlier node ih =>
      obtain ⟨before, _, apart⟩ := List.isChain_append.mp joined
      rw [List.foldl_concat, ih before fun other member =>
        filled other (List.mem_append_left _ member)]
      refine pushNode_of_joined (filled node (by simp)) ?_
      intro last isLast
      exact apart last isLast node rfl

/-- A pushed node keeps the texts apart. -/
theorem pushNode_joined (joined : Joined earlier) (node : Inline) :
    Joined (pushNode earlier node) := by
  by_cases isText : node.isText = true
  case neg =>
    rw [pushNode_of_not_isText (Bool.eq_false_of_not_eq_true isText)]
    refine List.isChain_append.mpr ⟨joined, .singleton _, ?_⟩
    intro last _ first isFirst both
    cases isFirst
    exact isText both.2
  case pos =>
    cases node with
    | text content =>
        rw [pushNode]
        by_cases empty : content = []
        case pos =>
          rw [pushText, if_pos empty]
          exact joined
        case neg =>
          induction earlier using List.reverseRecOn with
          | nil =>
              rw [pushText_alone empty (by simp)]
              exact .singleton _
          | append_singleton earlier last _ =>
              obtain ⟨before, _, apart⟩ := List.isChain_append.mp joined
              by_cases lastIsText : last.isText = true
              case pos =>
                cases last with
                | text previous =>
                    rw [pushText_join empty]
                    refine List.isChain_append.mpr
                      ⟨before, .singleton _, ?_⟩
                    intro other isOther first isFirst both
                    cases isFirst
                    exact apart other isOther (.text previous) rfl
                      ⟨both.1, rfl⟩
                | _ => cases lastIsText
              case neg =>
                have noText : ∀ other ∈ (earlier ++ [last]).getLast?,
                    other.isText = false := by
                  intro other isOther
                  rw [List.getLast?_concat] at isOther
                  cases isOther
                  exact Bool.eq_false_of_not_eq_true lastIsText
                rw [pushText_alone empty noText]
                refine List.isChain_append.mpr
                  ⟨joined, .singleton _, ?_⟩
                intro other isOther first _ both
                rw [noText other isOther] at both
                cases both.1
    | _ => cases isText

variable {property : Inline → Prop}

/-- What holds of all texts with something in them and of the other nodes that
are pushed, holds of the nodes that result. -/
theorem pushNode_all
    (texts : ∀ content, content ≠ [] → property (.text content))
    (all : ∀ node ∈ earlier, property node)
    (own : node.isText = false → property node) :
    ∀ other ∈ pushNode earlier node, property other := by
  have appended : ∀ {front : List Inline} {last : Inline},
      (∀ other ∈ front, property other) → property last →
      ∀ other ∈ front ++ [last], property other := by
    intro front last isFront isLast other member
    rcases List.mem_append.mp member with before | here
    · exact isFront other before
    · rw [List.mem_singleton.mp here]
      exact isLast
  cases node with
  | text content =>
      rw [pushNode, pushText]
      split
      · exact all
      rename_i filled
      split
      · refine appended (fun other member =>
          all other (List.mem_of_mem_dropLast member)) (texts _ ?_)
        exact List.append_ne_nil_of_right_ne_nil _ filled
      · exact appended all (texts _ filled)
  | inlineCode content => exact appended all (own rfl)
  | citationRef citationId => exact appended all (own rfl)
  | strong children => exact appended all (own rfl)
  | emphasis children => exact appended all (own rfl)
  | link href kind children => exact appended all (own rfl)

/-- Joined nodes are kept apart, and they are filled texts or nodes that were
pushed. -/
theorem merged_all
    (texts : ∀ content, content ≠ [] → property (.text content))
    (own : ∀ node ∈ nodes, node.isText = false → property node) :
    Joined (merged nodes) ∧ ∀ node ∈ merged nodes, property node := by
  rw [merged]
  induction nodes using List.reverseRecOn with
  | nil => exact ⟨.nil, nofun⟩
  | append_singleton earlier node ih =>
      obtain ⟨joined, all⟩ := ih fun other member =>
        own other (List.mem_append_left _ member)
      rw [List.foldl_concat]
      exact ⟨pushNode_joined joined node,
        pushNode_all texts all (own node (by simp))⟩

/-! ## Shaped lists -/

section Shapes

variable (library : PageLibrary) (options : Options)

/-- A node that a sanitizer keeps as it is, if it keeps its children. -/
def KeptNode (inner : List Inline → Prop) : Inline → Prop
  | .text content => content ≠ []
  | .inlineCode _ => True
  | .citationRef citationId => citationAllowed options citationId = true
  | .strong children | .emphasis children => inner children
  | .link href kind children =>
      sanitizeLinkTarget library href options.allowedOrigins =
        some (kind, href) ∧ inner children

/-- A list that a sanitizer keeps as it is, as far as its length allows. -/
def Shaped : Nat → List Inline → Prop
  | 0, nodes => nodes = []
  | room + 1, nodes =>
      Joined nodes ∧ ∀ node ∈ nodes, KeptNode library options (Shaped room) node

/-- The same node, with the children that a sanitizer makes of its own. -/
def again (children : JsValue → List Inline) : Inline → Inline
  | .strong own => .strong (children (.array (contentToJs own)))
  | .emphasis own => .emphasis (children (.array (contentToJs own)))
  | .link href kind own =>
      .link href kind (children (.array (contentToJs own)))
  | node => node

end Shapes

mutual

def fitsNode : Inline → Bool
  | .strong children | .emphasis children | .link _ _ children =>
      decide (children.length ≤ maxInlineNodes) && fitsAll children
  | .text _ | .inlineCode _ | .citationRef _ => true

def fitsAll : List Inline → Bool
  | [] => true
  | node :: nodes => fitsNode node && fitsAll nodes

end

def fits (nodes : List Inline) : Bool :=
  decide (nodes.length ≤ maxInlineNodes) && fitsAll nodes

theorem fitsAll_iff :
    fitsAll nodes = true ↔ ∀ node ∈ nodes, fitsNode node = true := by
  induction nodes with
  | nil =>
      rw [fitsAll]
      exact iff_of_true rfl nofun
  | cons node nodes ih =>
      rw [fitsAll, Bool.and_eq_true, ih,
        List.forall_mem_cons]

section Results

variable {library : PageLibrary} {options : Options}

variable {inner : List Inline → Prop}

theorem KeptNode.isFilled (kept : KeptNode library options inner node) :
    node.IsFilled := by
  cases node with
  | text content => exact kept
  | _ => trivial

theorem KeptNode.weaken {weaker : List Inline → Prop}
    (weakens : ∀ nodes, inner nodes → weaker nodes)
    (kept : KeptNode library options inner node) :
    KeptNode library options weaker node := by
  cases node with
  | strong children => exact weakens _ kept
  | emphasis children => exact weakens _ kept
  | link href kind children => exact ⟨kept.1, weakens _ kept.2⟩
  | _ => exact kept

theorem Shaped.succ : ∀ {room : Nat} {nodes : List Inline},
    Shaped library options room nodes →
    Shaped library options (room + 1) nodes
  | 0, nodes, shaped => by
      rw [Shaped] at shaped
      rw [shaped]
      exact ⟨.nil, nofun⟩
  | room + 1, nodes, shaped =>
      ⟨shaped.1, fun node member =>
        (shaped.2 node member).weaken fun _ inner => inner.succ⟩

theorem safeNodes_link (children : JsValue → List Inline) (href : Units)
    (kind : LinkKind) (own : List Inline) :
    safeNodes library options children (Inline.link href kind own).toJs =
      match sanitizeLinkTarget library href options.allowedOrigins with
      | none => children (.array (contentToJs own))
      | some (kind, href) =>
          [.link href kind (children (.array (contentToJs own)))] := rfl

theorem safeNodes_toJs (kept : KeptNode library options inner node)
    (children : JsValue → List Inline) :
    safeNodes library options children node.toJs = [again children node] := by
  cases node with
  | text content => rfl
  | inlineCode content => rfl
  | citationRef citationId =>
      exact if_pos (show citationAllowed options citationId = true from kept)
  | strong own => rfl
  | emphasis own => rfl
  | link href kind own =>
      rw [safeNodes_link, kept.1]
      rfl

theorem again_isText (children : JsValue → List Inline) (node : Inline) :
    (again children node).isText = node.isText := by
  cases node <;> rfl

variable {children : JsValue → List Inline}

theorem again_isFilled (filled : node.IsFilled) :
    (again children node).IsFilled := by
  cases node with
  | text content => exact filled
  | _ => trivial

/-- Of a shaped list, the sanitizer keeps the nodes up to the limit. -/
theorem sanitizeInline_of_shaped {room : Nat}
    (shaped : Shaped library options (room + 1) nodes) :
    sanitizeInline library options (room + 1) (.array (contentToJs nodes)) =
      (nodes.take maxInlineNodes).map
        (again (sanitizeInline library options room)) := by
  have kept : ∀ node ∈ nodes.take maxInlineNodes,
      KeptNode library options (Shaped library options room) node :=
    fun node member => shaped.2 node (List.mem_of_mem_take member)
  have pushed : ((contentToJs nodes).take maxInlineNodes).flatMap
        (safeNodes library options (sanitizeInline library options room)) =
      (nodes.take maxInlineNodes).map
        (again (sanitizeInline library options room)) := by
    rw [contentToJs_eq_map, ← List.map_take, List.flatMap_map,
      List.map_eq_flatMap]
    exact List.flatMap_congr fun node member =>
      safeNodes_toJs (kept node member) _
  rw [sanitizeInline]
  change merged (((contentToJs nodes).take maxInlineNodes).flatMap _) = _
  rw [pushed]
  refine merged_of_joined ?_ ?_
  · rw [Joined, List.isChain_map]
    simp only [again_isText]
    exact shaped.1.take _
  · intro node member
    obtain ⟨source, inNodes, rfl⟩ := List.mem_map.mp member
    exact again_isFilled (kept source inNodes).isFilled

/-- A shaped list is left as it is exactly if nothing in it is too long. -/
theorem sanitizeInline_eq_iff : ∀ {room : Nat} {nodes : List Inline},
    Shaped library options room nodes →
    (sanitizeInline library options room (.array (contentToJs nodes)) =
      nodes ↔ fits nodes = true)
  | 0, nodes, shaped => by
      rw [Shaped] at shaped
      rw [shaped, sanitizeInline]
      exact iff_of_true rfl rfl
  | room + 1, nodes, shaped => by
      have one : ∀ node ∈ nodes,
          (again (sanitizeInline library options room) node = node ↔
            fitsNode node = true) := by
        intro node member
        have kept := shaped.2 node member
        cases node with
        | text content => exact iff_of_true rfl rfl
        | inlineCode content => exact iff_of_true rfl rfl
        | citationRef citationId => exact iff_of_true rfl rfl
        | strong own =>
            rw [again, Inline.strong.injEq]
            exact sanitizeInline_eq_iff kept
        | emphasis own =>
            rw [again, Inline.emphasis.injEq]
            exact sanitizeInline_eq_iff kept
        | link href kind own =>
            rw [again, Inline.link.injEq]
            simp only [true_and]
            exact sanitizeInline_eq_iff kept.2
      rw [sanitizeInline_of_shaped shaped, fits, Bool.and_eq_true,
        decide_eq_true_eq, fitsAll_iff]
      constructor
      case mp =>
        intro same
        have short : nodes.length ≤ maxInlineNodes := by
          have lengths := congrArg List.length same
          rw [List.length_map, List.length_take] at lengths
          omega
        rw [List.take_of_length_le short] at same
        refine ⟨short, fun node member => (one node member).mp ?_⟩
        rw [← List.map_id nodes, List.map_map, List.map_inj_left] at same
        exact same node member
      case mpr =>
        rintro ⟨short, all⟩
        rw [List.take_of_length_le short]
        conv => rhs; rw [← List.map_id nodes]
        rw [List.map_inj_left]
        exact fun node member => (one node member).mpr (all node member)

/-- What a node pushes is kept, but for texts without content. -/
theorem safeNodes_kept (standard : FollowsUrlStandard library) {room : Nat}
    (inner : ∀ value, Shaped library options room (children value))
    (node : JsValue) :
    ∀ pushed ∈ safeNodes library options children node,
      pushed.isText = false →
      KeptNode library options (Shaped library options room) pushed := by
  intro pushed member noText
  rw [safeNodes] at member
  split at member
  · rw [List.mem_singleton.mp member] at noText
    cases noText
  split at member
  · rw [List.mem_singleton.mp member]
    trivial
  split at member
  · split at member
    · next allowed =>
        rw [List.mem_singleton.mp member]
        exact allowed
    · cases member
  split at member
  · cases member
  dsimp only at member
  split_ifs at member
  · rw [List.mem_singleton.mp member]
    exact inner _
  · rw [List.mem_singleton.mp member]
    exact inner _
  · split at member
    · -- The children of a blocked link take its place, with one level more.
      exact ((inner (node.get "children")).succ).2 pushed member
    · next kind href passed =>
        rw [List.mem_singleton.mp member]
        exact ⟨sanitizeLinkTarget_href standard passed, inner _⟩
  · cases member

theorem sanitizeInline_shaped (standard : FollowsUrlStandard library) :
    ∀ (room : Nat) (value : JsValue), Shaped library options room
      (sanitizeInline library options room value)
  | 0, value => by
      rw [sanitizeInline]
      rfl
  | room + 1, value => by
      rw [sanitizeInline]
      split
      · exact ⟨.nil, nofun⟩
      refine merged_all (fun content filled => filled) ?_
      intro node member noText
      obtain ⟨source, _, pushed⟩ := List.mem_flatMap.mp member
      exact safeNodes_kept standard (sanitizeInline_shaped standard room)
        source node pushed noText

end Results

/-! ## Whole trees -/

def Alignment.toJs : Alignment → JsValue
  | .left => .string (unitsOf "left")
  | .center => .string (unitsOf "center")
  | .right => .string (unitsOf "right")

def listsToJs (lists : List (List Inline)) : JsValue :=
  .array (lists.map fun nodes => .array (contentToJs nodes))

def Block.toJs : Block → JsValue
  | .heading level children => .object
      [("type", .string (unitsOf "heading")), ("level", .number (.finite level)),
        ("children", .array (contentToJs children))]
  | .paragraph children => .object
      [("type", .string (unitsOf "paragraph")),
        ("children", .array (contentToJs children))]
  | .list ordered items => .object
      [("type", .string (unitsOf
          (if ordered then "ordered_list" else "unordered_list"))),
        ("items", listsToJs items)]
  | .table headers alignments rows => .object
      [("type", .string (unitsOf "table")), ("headers", listsToJs headers),
        ("alignments", .array (alignments.map Alignment.toJs)),
        ("rows", .array (rows.map listsToJs))]

def Ast.toJs (ast : Ast) : JsValue :=
  .object [("version", .string contractVersion),
    ("blocks", .array (ast.blocks.map Block.toJs))]

def Block.contents : Block → List (List Inline)
  | .heading _ children | .paragraph children => [children]
  | .list _ items => items
  | .table headers _ rows => headers ++ rows.flatten

/-- The limits that a block keeps to, besides those of its lists. -/
def Block.IsWellFormed : Block → Prop
  | .heading level _ => 2 ≤ level ∧ level ≤ 6
  | .paragraph _ => True
  | .list _ items => items.length ≤ maxListItems
  | .table headers alignments rows =>
      2 ≤ headers.length ∧ headers.length ≤ maxTableColumns ∧
        alignments.length = headers.length ∧ rows.length ≤ maxTableRows ∧
        ∀ row ∈ rows, row.length = headers.length

/-- A block that a sanitizer keeps as it is, as far as the lengths of its lists
allow. -/
def ShapedBlock (library : PageLibrary) (options : Options) (block : Block) :
    Prop :=
  block.IsWellFormed ∧
    ∀ content ∈ block.contents, Shaped library options 4 content

def Ast.Fits (ast : Ast) : Prop :=
  ast.blocks.length ≤ maxBlocks ∧
    ∀ block ∈ ast.blocks, ∀ content ∈ block.contents, fits content = true

section Trees

variable {library : PageLibrary} {options : Options}

theorem map_sanitizeContent_eq_iff {lists : List (List Inline)}
    (shaped : ∀ nodes ∈ lists, Shaped library options 4 nodes) :
    (lists.map fun nodes => sanitizeContent library options
      (.array (contentToJs nodes))) = lists ↔
      ∀ nodes ∈ lists, fits nodes = true := by
  conv => lhs; rhs; rw [← List.map_id lists]
  rw [List.map_inj_left]
  exact forall₂_congr fun nodes member =>
    sanitizeInline_eq_iff (shaped nodes member)

/-- What a sanitizer makes of a block that is well formed. -/
def againBlock (library : PageLibrary) (options : Options) : Block → Block :=
  let content := fun nodes =>
    sanitizeContent library options (.array (contentToJs nodes))
  fun block =>
    match block with
    | .heading level children => .heading level (content children)
    | .paragraph children => .paragraph (content children)
    | .list ordered items => .list ordered (items.map content)
    | .table headers alignments rows =>
        .table (headers.map content) alignments (rows.map (·.map content))

theorem alignmentOf_toJs (alignment : Alignment) :
    alignmentOf alignment.toJs = alignment := by
  cases alignment <;> decide

theorem tableRows_toJs {columnCount : Nat} {rows : List (List (List Inline))}
    (few : rows.length ≤ maxTableRows)
    (full : ∀ row ∈ rows, row.length = columnCount) :
    tableRows library options columnCount (rows.map listsToJs) =
      rows.map (·.map fun nodes =>
        sanitizeContent library options (.array (contentToJs nodes))) := by
  rw [tableRows, List.take_of_length_le (by rw [List.length_map]; exact few),
    List.filterMap_map, List.filterMap_eq_map_iff_forall_eq_some]
  intro row member
  change (if (row.map _).length = columnCount then some _ else none) = _
  rw [List.length_map, if_pos (full row member), List.map_map]
  rfl

/-- A well-formed block is kept. -/
theorem safeBlock_toJs {block : Block} (wellFormed : block.IsWellFormed) :
    safeBlock library options block.toJs =
      some (againBlock library options block) := by
  cases block with
  | heading level children =>
      have clamped : clampedLevel (.finite level) = level := by
        have positive : level ≠ 0 := by
          intro zero
          have low := wellFormed.1
          rw [zero] at low
          exact absurd low (by decide)
        rw [clampedLevel, if_neg positive, min_eq_right wellFormed.2,
          max_eq_right wellFormed.1]
      change some (Block.heading (clampedLevel (.finite level)) _) = _
      rw [clamped]
      rfl
  | paragraph children => rfl
  | list ordered items =>
      cases ordered with
      | true =>
          change some (Block.list true (((items.map _).take maxListItems).map
            _)) = _
          rw [List.take_of_length_le (by rw [List.length_map]; exact wellFormed),
            List.map_map]
          rfl
      | false =>
          change some (Block.list false (((items.map _).take maxListItems).map
            _)) = _
          rw [List.take_of_length_le (by rw [List.length_map]; exact wellFormed),
            List.map_map]
          rfl
  | table headers alignments rows =>
      obtain ⟨low, high, aligned, few, full⟩ := wellFormed
      change (if 2 ≤ (headers.map _).length ∧
          (headers.map _).length ≤ maxTableColumns ∧
          (alignments.map Alignment.toJs).length = (headers.map _).length then
        some (Block.table ((headers.map _).map _)
          ((alignments.map Alignment.toJs).map alignmentOf)
          (tableRows library options (headers.map _).length
            (rows.map listsToJs))) else none) = _
      simp only [List.length_map]
      have same : (alignments.map Alignment.toJs).map alignmentOf =
          alignments := by
        rw [List.map_map]
        conv => rhs; rw [← List.map_id alignments]
        exact List.map_congr_left fun alignment _ =>
          alignmentOf_toJs alignment
      rw [if_pos ⟨low, high, aligned⟩, tableRows_toJs few full, same,
        List.map_map]
      rfl

/-- A block is left as it is exactly if no list of it is too long. -/
theorem againBlock_eq_iff {block : Block}
    (shaped : ∀ content ∈ block.contents, Shaped library options 4 content) :
    againBlock library options block = block ↔
      ∀ content ∈ block.contents, fits content = true := by
  cases block with
  | heading level children =>
      rw [againBlock, Block.heading.injEq, Block.contents]
      simp only [true_and, List.forall_mem_singleton]
      exact sanitizeInline_eq_iff (shaped children (List.mem_singleton.mpr rfl))
  | paragraph children =>
      rw [againBlock, Block.paragraph.injEq, Block.contents,
        List.forall_mem_singleton]
      exact sanitizeInline_eq_iff (shaped children (List.mem_singleton.mpr rfl))
  | list ordered items =>
      rw [againBlock, Block.list.injEq, Block.contents]
      simp only [true_and]
      exact map_sanitizeContent_eq_iff shaped
  | table headers alignments rows =>
      have shapedRows : ∀ row ∈ rows, ∀ content ∈ row,
          Shaped library options 4 content := fun row inRows content inRow =>
        shaped content (List.mem_append_right _
          (List.mem_flatten.mpr ⟨row, inRows, inRow⟩))
      have rowsSame : (rows.map (·.map fun nodes =>
            sanitizeContent library options (.array (contentToJs nodes)))) =
          rows ↔ ∀ row ∈ rows, ∀ content ∈ row, fits content = true := by
        conv => lhs; rhs; rw [← List.map_id rows]
        rw [List.map_inj_left]
        exact forall₂_congr fun row inRows =>
          map_sanitizeContent_eq_iff (shapedRows row inRows)
      rw [againBlock, Block.table.injEq, Block.contents]
      simp only [true_and]
      rw [rowsSame, map_sanitizeContent_eq_iff fun content member =>
        shaped content (List.mem_append_left _ member)]
      simp only [List.mem_append, List.mem_flatten]
      constructor
      case mp =>
        rintro ⟨inHeaders, inRows⟩ content (member | ⟨row, isRow, member⟩)
        · exact inHeaders content member
        · exact inRows row isRow content member
      case mpr =>
        intro all
        exact ⟨fun content member => all content (.inl member),
          fun row isRow content member =>
            all content (.inr ⟨row, isRow, member⟩)⟩

theorem sanitizeAst_eq_ok_iff {value : JsValue} {ast : Ast} :
    sanitizeAst library options value = .ok ast ↔
      (value.get "version").units? = some contractVersion ∧
        ∃ blocks, (value.get "blocks").items? = some blocks ∧
          ast = ⟨(blocks.take maxBlocks).filterMap
            (safeBlock library options)⟩ := by
  rw [sanitizeAst]
  split
  · next version blocks isVersion areBlocks =>
      rw [isVersion, areBlocks]
      simp only [Option.some_inj, exists_eq_left']
      split
      · next same =>
          rw [Except.ok.injEq]
          exact ⟨fun isTree => ⟨same, isTree.symm⟩, fun both => both.2.symm⟩
      · next other => exact iff_of_false nofun fun both => other both.1
  · next missing =>
      refine iff_of_false nofun ?_
      rintro ⟨isVersion, blocks, areBlocks, -⟩
      exact missing _ _ isVersion areBlocks

/-- A tree of shaped blocks is left as it is exactly if nothing in it is too
long. -/
theorem sanitizeAst_eq_iff {ast : Ast}
    (shaped : ∀ block ∈ ast.blocks, ShapedBlock library options block) :
    sanitizeAst library options ast.toJs = .ok ast ↔ ast.Fits := by
  obtain ⟨blocks⟩ := ast
  have kept : ((blocks.map Block.toJs).take maxBlocks).filterMap
        (safeBlock library options) =
      (blocks.take maxBlocks).map (againBlock library options) := by
    rw [← List.map_take, List.filterMap_map,
      List.filterMap_eq_map_iff_forall_eq_some]
    exact fun block member =>
      safeBlock_toJs (shaped block (List.mem_of_mem_take member)).1
  have sanitized : sanitizeAst library options (Ast.toJs ⟨blocks⟩) =
      .ok ⟨(blocks.take maxBlocks).map (againBlock library options)⟩ := by
    rw [← kept, sanitizeAst_eq_ok_iff]
    exact ⟨rfl, _, rfl, rfl⟩
  rw [sanitized, Except.ok.injEq, Ast.mk.injEq, Ast.Fits]
  constructor
  case mp =>
    intro same
    have short : blocks.length ≤ maxBlocks := by
      have lengths := congrArg List.length same
      rw [List.length_map, List.length_take] at lengths
      omega
    rw [List.take_of_length_le short, ← List.map_id blocks, List.map_map,
      List.map_inj_left] at same
    exact ⟨short, fun block member =>
      (againBlock_eq_iff (shaped block member).2).mp (same block member)⟩
  case mpr =>
    rintro ⟨short, all⟩
    rw [List.take_of_length_le short]
    conv => rhs; rw [← List.map_id blocks]
    rw [List.map_inj_left]
    exact fun block member =>
      (againBlock_eq_iff (shaped block member).2).mpr (all block member)

end Trees

end SecAI.RestrictedMarkdown
