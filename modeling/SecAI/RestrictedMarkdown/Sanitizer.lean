/-
Module: SecAI.RestrictedMarkdown.Sanitizer
Purpose: The strings of the page, the link targets and citations that
  restricted Markdown lets onto it, and what of an untrusted value is let
  through as a tree.
Trusted boundary: the URL parser of the page and `Number` of a value are
  parameters; values have no accessors
Main exports:
  Units, JsValue, sanitizeLinkTarget, Inline, Block, Ast, pushNode
-/
import Mathlib.Data.List.DropRight
import Mathlib.Data.List.Infix
import Mathlib.Algebra.Order.Ring.Rat

namespace SecAI.RestrictedMarkdown

/-- A string of the page: its UTF-16 code units. -/
abbrev Units := List UInt16

def unit (character : Char) : UInt16 := UInt16.ofNat character.toNat

def unitsOf (text : String) : Units := text.toList.map unit

/-- `CONTRACT.maxSourceChars`. -/
def maxSourceChars : Nat := 100 * 1024

/-- `\s`, which `trim` cuts off too. -/
def isSpace (code : UInt16) : Bool :=
  decide (0x9 ≤ code ∧ code ≤ 0xD) ||
    decide (0x2000 ≤ code ∧ code ≤ 0x200A) ||
    decide (code ∈ [0x20, 0xA0, 0x1680, 0x2028, 0x2029, 0x202F, 0x205F, 0x3000,
      0xFEFF])

/-- What `.` does not match. -/
def isLineTerminator (code : UInt16) : Bool :=
  decide (code ∈ [0xA, 0xD, 0x2028, 0x2029])

/-- `\d`. -/
def isDigit (code : UInt16) : Bool :=
  decide (unit '0' ≤ code ∧ code ≤ unit '9')

/-- A letter of ASCII in lower case; no other code unit becomes a letter of the
schemes that are looked for. -/
def lowered (code : UInt16) : UInt16 :=
  if unit 'A' ≤ code ∧ code ≤ unit 'Z' then code + 32 else code

/-! ## Parts of a string -/

/-- `text.trim()`. -/
def trim (text : Units) : Units :=
  (text.dropWhile isSpace).rdropWhile isSpace

/-- What stands before and behind the first place of a string in another. -/
def splitAtFirst (part : Units) : Units → Option (Units × Units)
  | [] => if part = [] then some ([], []) else none
  | code :: rest =>
      if part.isPrefixOf (code :: rest) then
        some ([], (code :: rest).drop part.length)
      else
        (splitAtFirst part rest).map fun (before, behind) =>
          (code :: before, behind)

theorem trim_eq_self {text : Units}
    (visible : text.any isSpace = false) : trim text = text := by
  rw [List.any_eq_false] at visible
  have front : text.dropWhile isSpace = text := by
    cases text with
    | nil => rfl
    | cons code rest =>
        exact List.dropWhile_cons_of_neg (visible code List.mem_cons_self)
  rw [trim, front, List.rdropWhile_eq_self_iff]
  intro filled
  exact visible _ (List.getLast_mem filled)

/-- What stands around the first place of a part. -/
theorem splitAtFirst_eq_some {part : Units} :
    ∀ {text before behind : Units},
      splitAtFirst part text = some (before, behind) →
      text = before ++ (part ++ behind)
  | [], before, behind, found => by
      rw [splitAtFirst] at found
      split at found
      · next empty =>
          cases found
          rw [empty]
          rfl
      · cases found
  | code :: rest, before, behind, found => by
      rw [splitAtFirst] at found
      split at found
      · next isPrefix =>
          cases found
          rw [List.nil_append]
          exact (List.prefix_iff_eq_append.mp
            (List.isPrefixOf_iff_prefix.mp isPrefix)).symm
      · obtain ⟨⟨front, _⟩, inRest, same⟩ := Option.map_eq_some_iff.mp found
        cases same
        rw [splitAtFirst_eq_some inRest]
        rfl

/-- Before its first place, a part does not occur. -/
theorem not_infix_of_splitAtFirst {part : Units} (filled : part ≠ []) :
    ∀ {text before behind : Units},
      splitAtFirst part text = some (before, behind) → ¬part <:+: before
  | [], before, behind, found => by
      rw [splitAtFirst, if_neg filled] at found
      cases found
  | code :: rest, before, behind, found => by
      rw [splitAtFirst] at found
      split at found
      · cases found
        intro inside
        exact filled (List.infix_nil.mp inside)
      rename_i notPrefix
      obtain ⟨⟨front, _⟩, inRest, same⟩ := Option.map_eq_some_iff.mp found
      cases same
      intro inside
      rcases List.infix_cons_iff.mp inside with here | later
      · -- A part at the front of what stands before is one of the text.
        refine notPrefix (List.isPrefixOf_iff_prefix.mpr ?_)
        rw [splitAtFirst_eq_some inRest, ← List.cons_append]
        exact here.trans (List.prefix_append _ _)
      · exact not_infix_of_splitAtFirst filled inRest later

/-! ## Values of the page -/

/-- A number, with its exact value. -/
inductive JsNumber where
  | nan
  | finite (value : ℚ)
  | infinite (negative : Bool)

/-- A value that a caller hands over.  What nothing looks into, such as a
function, is undefined. -/
inductive JsValue where
  | undefined
  | null
  | boolean (value : Bool)
  | number (value : JsNumber)
  | string (units : Units)
  | array (items : List JsValue)
  | object (members : List (String × JsValue))

namespace JsValue

/-- `value[key]`, of an object. -/
def get (value : JsValue) (key : String) : JsValue :=
  match value with
  | .object members =>
      ((members.find? fun entry => decide (entry.1 = key)).map
        Prod.snd).getD .undefined
  | _ => .undefined

/-- `Array.isArray(value)`, with the items. -/
def items? : JsValue → Option (List JsValue)
  | .array items => some items
  | _ => none

/-- `typeof value === "string"`, with the string. -/
def units? : JsValue → Option Units
  | .string units => some units
  | _ => none

end JsValue

/-- What `new URL` knows of an address. -/
structure ParsedUrl where
  protocol : Units
  origin : Units
  href : Units

/-- What the page is given by its language. -/
structure PageLibrary where
  /-- `new URL(value)`; `none` is an exception. -/
  urlOf : JsValue → Option ParsedUrl
  /-- `Number(value)`, of a value that is no number. -/
  numberOf : JsValue → JsNumber

/-- `new URL(value)`, of a string. -/
def PageLibrary.parseUrl (library : PageLibrary) (value : Units) :
    Option ParsedUrl :=
  library.urlOf (.string value)

/-- The options of a caller; without an object both are undefined. -/
structure Options where
  allowedCitationIds : JsValue
  allowedOrigins : JsValue

/-! ## Link targets -/

inductive LinkKind where
  | sameOrigin
  | https

/-- `[\u0000-\u001f\u007f\\\s]`. -/
def isForbiddenInTarget (code : UInt16) : Bool :=
  decide (code ≤ 0x1F) || decide (code = 0x7F) || decide (code = unit '\\') ||
    isSpace code

def blockedSchemes : List Units :=
  [unitsOf "javascript:", unitsOf "data:", unitsOf "vbscript:"]

section Targets

variable (library : PageLibrary)

def normalizedOrigins (allowedOrigins : JsValue) : List Units :=
  ((allowedOrigins.items?.getD []).filterMap fun origin =>
    (library.urlOf origin).map ParsedUrl.origin).filter (· ≠ [])

/-- `sanitizeLinkTarget`; a blocked target has no kind and no address. -/
def sanitizeLinkTarget (target : Units) (allowedOrigins : JsValue) :
    Option (LinkKind × Units) :=
  let value := trim target
  if value = [] ∨ value.any isForbiddenInTarget = true then none
  else if blockedSchemes.any (·.isPrefixOf (value.map lowered)) ∨
      [unit '/', unit '/'].isPrefixOf value = true then none
  else if [unit '/'].isPrefixOf value then some (.sameOrigin, value)
  else
    match library.parseUrl value with
    | none => none
    | some parsed =>
        if parsed.protocol ≠ unitsOf "https:" ∨
            parsed.origin ∉ normalizedOrigins library allowedOrigins then none
        else some (.https, parsed.href)

end Targets

/-- `^\[\d{1,2}\]$`. -/
def isCitationId (text : Units) : Bool :=
  match text with
  | [opening, digit, closing] =>
      decide (opening = unit '[') && isDigit digit &&
        decide (closing = unit ']')
  | [opening, first, second, closing] =>
      decide (opening = unit '[') && isDigit first && isDigit second &&
        decide (closing = unit ']')
  | _ => false

def normalizedCitationIds (value : JsValue) : List Units :=
  ((value.items?.getD []).filterMap JsValue.units?).filter
    (isCitationId · = true)

def citationAllowed (options : Options) (citationId : Units) : Bool :=
  decide (citationId ∈ normalizedCitationIds options.allowedCitationIds)

/-! ## What is let through -/

/-- The part of the URL standard that links rely on: the serialized form of an
address is parsed as the address, has its scheme at the front, and for an
address without such code units it has none of those that are forbidden. -/
structure FollowsUrlStandard (library : PageLibrary) : Prop where
  reparses : ∀ value parsed, library.parseUrl value = some parsed →
    library.parseUrl parsed.href = some parsed
  begins : ∀ value parsed, library.parseUrl value = some parsed →
    parsed.protocol <+: parsed.href
  plain : ∀ value parsed, library.parseUrl value = some parsed →
    value.any isForbiddenInTarget = false →
    parsed.href.any isForbiddenInTarget = false

/-- An address on the page's own origin: a single slash is at its front, and
nothing in it is forbidden. -/
def IsOwnPath (href : Units) : Prop :=
  [unit '/'] <+: href ∧ ¬[unit '/', unit '/'] <+: href ∧
    ∀ code ∈ href, isForbiddenInTarget code = false

/-- An `https` address of an allowed origin. -/
def IsAllowedHttps (library : PageLibrary) (allowedOrigins : JsValue)
    (href : Units) : Prop :=
  ∃ parsed, library.parseUrl href = some parsed ∧
    parsed.protocol = unitsOf "https:" ∧
    parsed.origin ∈ normalizedOrigins library allowedOrigins

/-- An address that may stand on the page. -/
def IsSafeLink (library : PageLibrary) (allowedOrigins : JsValue)
    (kind : LinkKind) (href : Units) : Prop :=
  match kind with
  | .sameOrigin => IsOwnPath href
  | .https => IsAllowedHttps library allowedOrigins href

section Results

variable {library : PageLibrary} {allowedOrigins : JsValue} {target : Units}
  {kind : LinkKind} {href : Units}

/-- When a target is let through, and as what. -/
theorem sanitizeLinkTarget_eq_some_iff :
    sanitizeLinkTarget library target allowedOrigins = some (kind, href) ↔
      trim target ≠ [] ∧ (trim target).any isForbiddenInTarget = false ∧
      blockedSchemes.any (·.isPrefixOf ((trim target).map lowered)) = false ∧
      [unit '/', unit '/'].isPrefixOf (trim target) = false ∧
      (([unit '/'].isPrefixOf (trim target) = true ∧ kind = .sameOrigin ∧
          href = trim target) ∨
        ([unit '/'].isPrefixOf (trim target) = false ∧ kind = .https ∧
          ∃ parsed, library.parseUrl (trim target) = some parsed ∧
            parsed.protocol = unitsOf "https:" ∧
            parsed.origin ∈ normalizedOrigins library allowedOrigins ∧
            href = parsed.href)) := by
  rw [sanitizeLinkTarget]
  by_cases refused : trim target = [] ∨
      (trim target).any isForbiddenInTarget = true
  case pos =>
    rw [if_pos refused]
    refine iff_of_false nofun ?_
    rintro ⟨filled, clean, -⟩
    rcases refused with empty | forbidden
    · exact filled empty
    · rw [clean] at forbidden
      cases forbidden
  case neg =>
    have clean := not_or.mp refused
    rw [if_neg refused]
    by_cases blocked : blockedSchemes.any
          (·.isPrefixOf ((trim target).map lowered)) = true ∨
        [unit '/', unit '/'].isPrefixOf (trim target) = true
    case pos =>
      rw [if_pos blocked]
      refine iff_of_false nofun ?_
      rintro ⟨-, -, noScheme, noSlashes, -⟩
      rcases blocked with scheme | slashes
      · rw [noScheme] at scheme
        cases scheme
      · rw [noSlashes] at slashes
        cases slashes
    case neg =>
      have unblocked := not_or.mp blocked
      rw [if_neg blocked]
      simp only [ne_eq, clean.1, not_false_eq_true, true_and,
        Bool.eq_false_of_not_eq_true clean.2,
        Bool.eq_false_of_not_eq_true unblocked.1,
        Bool.eq_false_of_not_eq_true unblocked.2]
      by_cases own : [unit '/'].isPrefixOf (trim target) = true
      case pos =>
        simp only [own, if_true, Option.some_inj, Prod.mk.injEq, true_and,
          Bool.true_eq_false, false_and, or_false]
        exact and_congr eq_comm eq_comm
      case neg =>
        simp only [Bool.eq_false_of_not_eq_true own, if_false, false_and,
          false_or, true_and, Bool.false_eq_true]
        cases library.parseUrl (trim target) with
        | none => simp
        | some parsed =>
            simp only [Option.some_inj, exists_eq_left']
            split
            · next outside =>
                refine iff_of_false nofun ?_
                rintro ⟨-, secure, allowed, -⟩
                exact outside.elim (· secure) (· allowed)
            · next inside =>
                have kept := not_or.mp inside
                simp only [not_not] at kept
                simp only [Option.some_inj, Prod.mk.injEq, kept.1, kept.2,
                  true_and]
                exact and_congr eq_comm eq_comm

theorem sanitizeLinkTarget_isSafe (standard : FollowsUrlStandard library)
    (passed : sanitizeLinkTarget library target allowedOrigins =
      some (kind, href)) :
    IsSafeLink library allowedOrigins kind href := by
  obtain ⟨-, clean, -, noSlashes, which⟩ :=
    sanitizeLinkTarget_eq_some_iff.mp passed
  rcases which with ⟨own, rfl, rfl⟩ |
    ⟨-, rfl, parsed, isParsed, secure, allowed, rfl⟩
  · refine ⟨List.isPrefixOf_iff_prefix.mp own, ?_, ?_⟩
    · intro slashes
      rw [List.isPrefixOf_iff_prefix.mpr slashes] at noSlashes
      cases noSlashes
    · simpa using List.any_eq_false.mp clean
  · exact ⟨parsed, standard.reparses _ _ isParsed, secure, allowed⟩

/-- What is let through is left as it is when it comes again. -/
theorem sanitizeLinkTarget_href (standard : FollowsUrlStandard library)
    (passed : sanitizeLinkTarget library target allowedOrigins =
      some (kind, href)) :
    sanitizeLinkTarget library href allowedOrigins = some (kind, href) := by
  obtain ⟨filled, clean, noScheme, noSlashes, which⟩ :=
    sanitizeLinkTarget_eq_some_iff.mp passed
  have blank : ∀ {text : Units}, text.any isForbiddenInTarget = false →
      trim text = text := by
    intro text plain
    refine trim_eq_self (List.any_eq_false.mpr fun code member space => ?_)
    refine List.any_eq_false.mp plain code member ?_
    rw [isForbiddenInTarget, space, Bool.or_true]
  rw [sanitizeLinkTarget_eq_some_iff]
  rcases which with ⟨own, rfl, rfl⟩ |
    ⟨-, rfl, parsed, isParsed, secure, allowed, rfl⟩
  · rw [blank clean]
    exact ⟨filled, clean, noScheme, noSlashes, .inl ⟨own, rfl, rfl⟩⟩
  · have plain := standard.plain _ _ isParsed clean
    obtain ⟨rest, whole⟩ := standard.begins _ _ isParsed
    rw [secure] at whole
    rw [blank plain]
    refine ⟨?_, plain, ?_, ?_, .inr ⟨?_, rfl, parsed,
      standard.reparses _ _ isParsed, secure, allowed, rfl⟩⟩
    -- The scheme at the front is none of those that are refused.
    all_goals rw [← whole]
    · exact List.append_ne_nil_of_left_ne_nil (by decide) _
    · rfl
    · rfl
    · rfl

end Results

/-! ## Trees -/

/-- An inline node. -/
inductive Inline where
  | text (content : Units)
  | inlineCode (content : Units)
  | citationRef (citationId : Units)
  | strong (children : List Inline)
  | emphasis (children : List Inline)
  | link (href : Units) (linkKind : LinkKind) (children : List Inline)

/-- The alignment of a column. -/
inductive Alignment where
  | left
  | center
  | right
deriving DecidableEq

/-- A block; a list is ordered or not. -/
inductive Block where
  | heading (level : ℚ) (children : List Inline)
  | paragraph (children : List Inline)
  | list (ordered : Bool) (items : List (List Inline))
  | table (headers : List (List Inline)) (alignments : List Alignment)
      (rows : List (List (List Inline)))

/-- A tree of the contract's version. -/
structure Ast where
  blocks : List Block

/-- What parsing, sanitizing and rendering throw. -/
inductive MarkdownFault where
  | typeError (message : String)
  | rangeError (message : String)

def contractVersion : Units := unitsOf "secai.restricted-markdown.v3"

/-- `MAX_BLOCKS`, `MAX_LIST_ITEMS`, `MAX_TABLE_ROWS`, `MAX_TABLE_COLUMNS` and
`MAX_INLINE_NODES`. -/
def maxBlocks : Nat := 512
def maxListItems : Nat := 512
def maxTableRows : Nat := 256
def maxTableColumns : Nat := 8
def maxInlineNodes : Nat := 4096

def pushText (nodes : List Inline) (content : Units) : List Inline :=
  if content = [] then nodes
  else
    match nodes.getLast? with
    | some (.text previous) => nodes.dropLast ++ [.text (previous ++ content)]
    | _ => nodes ++ [.text content]

/-- A node is pushed; a text joins the text before it. -/
def pushNode (nodes : List Inline) : Inline → List Inline
  | .text content => pushText nodes content
  | node => nodes ++ [node]

/-- The nodes, one after the other. -/
def merged (nodes : List Inline) : List Inline :=
  nodes.foldl pushNode []

/-! ## Inline nodes -/

/-- `value.type === name`. -/
def hasType (value : JsValue) (name : String) : Bool :=
  match value.get "type" with
  | .string units => decide (units = unitsOf name)
  | _ => false

section Sanitizing

variable (library : PageLibrary) (options : Options)

/-- What a node of `sanitizeInline` pushes; `children` sanitizes the children
of a node. -/
def safeNodes (children : JsValue → List Inline) (node : JsValue) :
    List Inline :=
  match hasType node "text", (node.get "text").units? with
  | true, some content => [.text content]
  | _, _ =>
  match hasType node "inline_code", (node.get "text").units? with
  | true, some content => [.inlineCode content]
  | _, _ =>
  match hasType node "citation_ref", (node.get "citationId").units? with
  | true, some citationId =>
      if citationAllowed options citationId then [.citationRef citationId]
      else []
  | _, _ =>
  match (node.get "children").items? with
  | none => []
  | some _ =>
      let inner := children (node.get "children")
      if hasType node "strong" then [.strong inner]
      else if hasType node "emphasis" then [.emphasis inner]
      else if hasType node "link" then
        match sanitizeLinkTarget library ((node.get "href").units?.getD [])
            options.allowedOrigins with
        | none => inner
        | some (kind, href) => [.link href kind inner]
      else []

/-- `sanitizeInline`, with the levels that are left: four without a depth. -/
def sanitizeInline : Nat → JsValue → List Inline
  | 0, _ => []
  | room + 1, nodes =>
      match nodes.items? with
      | none => []
      | some items =>
          merged ((items.take maxInlineNodes).flatMap
            (safeNodes library options (sanitizeInline room)))

/-- `sanitizeInline` of a list that is no child. -/
def sanitizeContent (nodes : JsValue) : List Inline :=
  sanitizeInline library options 4 nodes

/-! ## Blocks -/

/-- `Number(value)`. -/
def numberOf : JsValue → JsNumber
  | .number value => value
  | other => library.numberOf other

/-- `Math.max(2, Math.min(6, value || 2))`. -/
def clampedLevel : JsNumber → ℚ
  | .nan => 2
  | .finite value => if value = 0 then 2 else max 2 (min 6 value)
  | .infinite negative => if negative then 2 else 6

/-- An alignment that is none of the three is `left`. -/
def alignmentOf : JsValue → Alignment
  | .string units =>
      if units = unitsOf "center" then .center
      else if units = unitsOf "right" then .right
      else .left
  | _ => .left

def tableRows (columnCount : Nat) (rows : List JsValue) :
    List (List (List Inline)) :=
  (rows.take maxTableRows).filterMap fun row =>
    match row.items? with
    | some cells =>
        if cells.length = columnCount then
          some (cells.map (sanitizeContent library options))
        else none
    | none => none

/-- The block that a block of an untrusted tree becomes, if any. -/
def safeBlock (block : JsValue) : Option Block :=
  match hasType block "heading", (block.get "children").items? with
  | true, some _ =>
      some (.heading (clampedLevel (numberOf library (block.get "level")))
        (sanitizeContent library options (block.get "children")))
  | _, _ =>
  match hasType block "paragraph", (block.get "children").items? with
  | true, some _ =>
      some (.paragraph
        (sanitizeContent library options (block.get "children")))
  | _, _ =>
  match hasType block "unordered_list" || hasType block "ordered_list",
      (block.get "items").items? with
  | true, some items =>
      some (.list (hasType block "ordered_list")
        ((items.take maxListItems).map (sanitizeContent library options)))
  | _, _ =>
  match hasType block "table", (block.get "headers").items?,
      (block.get "rows").items?, (block.get "alignments").items? with
  | true, some headers, some rows, some alignments =>
      if 2 ≤ headers.length ∧ headers.length ≤ maxTableColumns ∧
          alignments.length = headers.length then
        some (.table (headers.map (sanitizeContent library options))
          (alignments.map alignmentOf)
          (tableRows library options headers.length rows))
      else none
  | _, _, _, _ => none

def sanitizeAst (ast : JsValue) : Except MarkdownFault Ast :=
  match (ast.get "version").units?, (ast.get "blocks").items? with
  | some version, some blocks =>
      if version = contractVersion then
        .ok ⟨(blocks.take maxBlocks).filterMap (safeBlock library options)⟩
      else .error (.typeError "restricted Markdown AST contract is invalid")
  | _, _ => .error (.typeError "restricted Markdown AST contract is invalid")

end Sanitizing

end SecAI.RestrictedMarkdown
