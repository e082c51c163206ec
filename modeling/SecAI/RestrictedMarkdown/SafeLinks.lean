/-
Module: SecAI.RestrictedMarkdown.SafeLinks
Purpose: Whatever an untrusted tree holds, only safe links and allowed citations
  are let through.
Trusted boundary: the URL parser of the page follows the URL standard
Main exports:
  SafeContent, merged_safe, sanitizeInline_safe, sanitizeAst_safe
-/
import SecAI.RestrictedMarkdown.Sanitizer

namespace SecAI.RestrictedMarkdown

/-- A citation that the options name. -/
def IsAllowedCitation (options : Options) (citationId : Units) : Prop :=
  ∃ items, options.allowedCitationIds = .array items ∧
    JsValue.string citationId ∈ items

section Trees

variable (library : PageLibrary) (options : Options)

mutual

/-- Each link in a node is safe, and each citation is allowed. -/
def SafeNode : Inline → Prop
  | .text _ | .inlineCode _ => True
  | .citationRef citationId => IsAllowedCitation options citationId
  | .strong children | .emphasis children => SafeContent children
  | .link href kind children =>
      IsSafeLink library options.allowedOrigins kind href ∧
        SafeContent children

def SafeContent : List Inline → Prop
  | [] => True
  | node :: nodes => SafeNode node ∧ SafeContent nodes

end

def SafeBlock : Block → Prop
  | .heading _ children | .paragraph children =>
      SafeContent library options children
  | .list _ items => ∀ item ∈ items, SafeContent library options item
  | .table headers _ rows =>
      (∀ header ∈ headers, SafeContent library options header) ∧
        ∀ row ∈ rows, ∀ cell ∈ row, SafeContent library options cell

/-- Each link of a tree is safe, and each citation is allowed. -/
def SafeTree (ast : Ast) : Prop :=
  ∀ block ∈ ast.blocks, SafeBlock library options block

end Trees

section Results

variable {library : PageLibrary} {options : Options}

theorem safeContent_iff {nodes : List Inline} :
    SafeContent library options nodes ↔
      ∀ node ∈ nodes, SafeNode library options node := by
  induction nodes with
  | nil =>
      rw [SafeContent]
      exact iff_of_true trivial nofun
  | cons node nodes ih =>
      rw [SafeContent, ih, List.forall_mem_cons]

theorem safeNode_text (content : Units) :
    SafeNode library options (.text content) := by
  rw [SafeNode]
  trivial

/-- A node that is pushed is safe with those before it. -/
theorem pushNode_safe {nodes : List Inline} {node : Inline}
    (safe : ∀ other ∈ nodes, SafeNode library options other)
    (isSafe : SafeNode library options node) :
    ∀ other ∈ pushNode nodes node, SafeNode library options other := by
  have appended : ∀ {earlier : List Inline} {last : Inline},
      (∀ other ∈ earlier, SafeNode library options other) →
      SafeNode library options last →
      ∀ other ∈ earlier ++ [last], SafeNode library options other := by
    intro earlier last all isLast other member
    rcases List.mem_append.mp member with before | here
    · exact all other before
    · rw [List.mem_singleton.mp here]
      exact isLast
  cases node with
  | text content =>
      rw [pushNode, pushText]
      split
      · exact safe
      split
      · refine appended (fun other member => ?_) (safeNode_text _)
        exact safe other (List.mem_of_mem_dropLast member)
      · exact appended safe (safeNode_text _)
  | inlineCode content => exact appended safe isSafe
  | citationRef citationId => exact appended safe isSafe
  | strong children => exact appended safe isSafe
  | emphasis children => exact appended safe isSafe
  | link href kind children => exact appended safe isSafe

theorem merged_safe {nodes : List Inline}
    (safe : ∀ node ∈ nodes, SafeNode library options node) :
    ∀ node ∈ merged nodes, SafeNode library options node := by
  rw [merged]
  have run : ∀ (later earlier : List Inline),
      (∀ node ∈ later, SafeNode library options node) →
      (∀ node ∈ earlier, SafeNode library options node) →
      ∀ node ∈ later.foldl pushNode earlier,
        SafeNode library options node := by
    intro later
    induction later with
    | nil => exact fun earlier _ all => all
    | cons node later ih =>
        intro earlier laterSafe earlierSafe
        refine ih _
          (fun other member => laterSafe other (List.mem_cons_of_mem _ member))
          (pushNode_safe earlierSafe (laterSafe node List.mem_cons_self))
  exact run nodes [] safe nofun

theorem isAllowed_of_citationAllowed {citationId : Units}
    (allowed : citationAllowed options citationId = true) :
    IsAllowedCitation options citationId := by
  have member := of_decide_eq_true allowed
  rw [normalizedCitationIds] at member
  obtain ⟨value, isItem, isUnits⟩ :=
    List.mem_filterMap.mp (List.mem_of_mem_filter member)
  cases given : options.allowedCitationIds with
  | array items =>
      rw [given] at isItem
      cases value with
      | string units =>
          cases isUnits
          exact ⟨items, given, isItem⟩
      | _ => cases isUnits
  | _ =>
      rw [given] at isItem
      cases isItem

/-- What a node pushes is safe if its children are. -/
theorem safeNodes_safe (standard : FollowsUrlStandard library)
    {children : JsValue → List Inline}
    (inner : ∀ value, SafeContent library options (children value))
    (node : JsValue) :
    ∀ pushed ∈ safeNodes library options children node,
      SafeNode library options pushed := by
  intro pushed member
  rw [safeNodes] at member
  split at member
  · rw [List.mem_singleton.mp member]
    exact safeNode_text _
  split at member
  · rw [List.mem_singleton.mp member, SafeNode]
    trivial
  split at member
  · split at member
    · next allowed =>
        rw [List.mem_singleton.mp member, SafeNode]
        exact isAllowed_of_citationAllowed allowed
    · cases member
  split at member
  · cases member
  dsimp only at member
  split_ifs at member
  · rw [List.mem_singleton.mp member, SafeNode]
    exact inner _
  · rw [List.mem_singleton.mp member, SafeNode]
    exact inner _
  · split at member
    · exact safeContent_iff.mp (inner _) pushed member
    · next kind href passed =>
        rw [List.mem_singleton.mp member, SafeNode]
        exact ⟨sanitizeLinkTarget_isSafe standard passed, inner _⟩
  · cases member

theorem sanitizeInline_safe (standard : FollowsUrlStandard library)
    (room : Nat) : ∀ value,
      SafeContent library options
        (sanitizeInline library options room value) := by
  induction room with
  | zero =>
      intro value
      rw [sanitizeInline, SafeContent]
      trivial
  | succ room inner =>
      intro value
      rw [sanitizeInline]
      split
      · rw [SafeContent]
        trivial
      · refine safeContent_iff.mpr (merged_safe fun node member => ?_)
        obtain ⟨source, _, pushed⟩ := List.mem_flatMap.mp member
        exact safeNodes_safe standard inner source node pushed

theorem sanitizeContent_safe (standard : FollowsUrlStandard library)
    (value : JsValue) :
    SafeContent library options (sanitizeContent library options value) :=
  sanitizeInline_safe standard 4 value

theorem tableRows_safe (standard : FollowsUrlStandard library)
    {columnCount : Nat} {rows : List JsValue} :
    ∀ row ∈ tableRows library options columnCount rows, ∀ cell ∈ row,
      SafeContent library options cell := by
  intro row member cell inRow
  obtain ⟨source, _, kept⟩ := List.mem_filterMap.mp member
  split at kept
  · split at kept
    · cases kept
      obtain ⟨value, _, rfl⟩ := List.mem_map.mp inRow
      exact sanitizeContent_safe standard value
    · cases kept
  · cases kept

/-- Whatever its value, a block that is let through is safe. -/
theorem safeBlock_safe (standard : FollowsUrlStandard library)
    {value : JsValue} {block : Block}
    (passed : safeBlock library options value = some block) :
    SafeBlock library options block := by
  have content : ∀ value, SafeContent library options
      (sanitizeContent library options value) :=
    sanitizeContent_safe standard
  rw [safeBlock] at passed
  split at passed
  · cases passed
    exact content _
  split at passed
  · cases passed
    exact content _
  split at passed
  · cases passed
    intro item member
    obtain ⟨source, _, rfl⟩ := List.mem_map.mp member
    exact content source
  split at passed
  · split at passed
    · cases passed
      refine ⟨fun header member => ?_, tableRows_safe standard⟩
      obtain ⟨source, _, rfl⟩ := List.mem_map.mp member
      exact content source
    · cases passed
  · cases passed

/-- Whatever an untrusted tree holds, each link that is let through is an own
path or an `https` address of an allowed origin, and each citation is
allowed. -/
theorem sanitizeAst_safe (standard : FollowsUrlStandard library)
    (value : JsValue) (ast : Ast)
    (passed : sanitizeAst library options value = .ok ast) :
    SafeTree library options ast := by
  rw [sanitizeAst] at passed
  split at passed
  · split at passed
    · cases passed
      intro block member
      obtain ⟨source, _, kept⟩ := List.mem_filterMap.mp member
      exact safeBlock_safe standard kept
    · cases passed
  · cases passed

end Results

/-- A control character of Unicode: of the first set, DEL, or of the second
set. -/
def IsControl (code : UInt16) : Prop :=
  code ≤ 0x1F ∨ (0x7F ≤ code ∧ code ≤ 0x9F)

def samplePage : PageLibrary where
  urlOf := fun value =>
    match value with
    | .string units =>
        if units = unitsOf "https://a.b/" then
          some ⟨unitsOf "https:", unitsOf "https://a.b", unitsOf "https://a.b/"⟩
        else none
    | _ => none
  numberOf := fun _ => .nan

theorem samplePage_follows : FollowsUrlStandard samplePage := by
  have only : ∀ {value : Units} {parsed : ParsedUrl},
      samplePage.parseUrl value = some parsed →
      parsed = ⟨unitsOf "https:", unitsOf "https://a.b",
        unitsOf "https://a.b/"⟩ := by
    intro value parsed isParsed
    rw [PageLibrary.parseUrl, samplePage] at isParsed
    dsimp only at isParsed
    split at isParsed
    · exact (Option.some_inj.mp isParsed).symm
    · cases isParsed
  constructor
  case reparses =>
    intro value parsed isParsed
    rw [only isParsed]
    rfl
  case begins =>
    intro value parsed isParsed
    rw [only isParsed]
    decide
  case plain =>
    intro value parsed isParsed _
    rw [only isParsed]
    decide

def sampleOptions : Options where
  allowedCitationIds := .array [.string (unitsOf "[1]")]
  allowedOrigins := .array [.string (unitsOf "https://a.b/")]

def linkTree (href : Units) : JsValue :=
  .object [
    ("version", .string contractVersion),
    ("blocks", .array [.object [
      ("type", .string (unitsOf "paragraph")),
      ("children", .array [.object [
        ("type", .string (unitsOf "link")),
        ("href", .string href),
        ("children", .array [.object [
          ("type", .string (unitsOf "text")),
          ("text", .string (unitsOf "a"))]])]])]])]

/-- The link to the allowed origin is let through, and it is safe. -/
theorem allowed_link_is_safe :
    SafeTree samplePage sampleOptions ⟨[.paragraph
      [.link (unitsOf "https://a.b/") .https [.text (unitsOf "a")]]]⟩ :=
  sanitizeAst_safe samplePage_follows (linkTree (unitsOf "https://a.b/")) _
    (by rfl)

/-- A control character of the second set stands in a link that is let
through. -/
theorem next_line_is_let_through :
    sanitizeAst samplePage sampleOptions (linkTree [unit '/', 0x85]) =
        .ok ⟨[.paragraph
          [.link [unit '/', 0x85] .sameOrigin [.text (unitsOf "a")]]]⟩ ∧
      IsControl 0x85 :=
  ⟨by rfl, .inr (by decide)⟩

end SecAI.RestrictedMarkdown
