/-
Module: SecAI.Guides.CategoryCoverage
Purpose: The citations of an answer from the guides, and which hits of a search
  are kept for the categories that a question names.
Trusted boundary: the Unicode database, `str.upper`, NFC, SHA-256 and the
  relevance of texts are parameters; the hits have different chunks
Main exports:
  buildGroundingResult, citations_are_exact, covers_iff_leavesRoom
-/
import Mathlib.Algebra.Order.Ring.Unbundled.Rat
import Mathlib.Data.List.Infix
import Mathlib.Data.Prod.Lex
import SecAI.Chat.GuideAnswers
import SecAI.Common.Ordered
import SecAI.Common.Outcome
import Mathlib.Data.List.Nodup

namespace SecAI.Guides

open SecAI.Text
open SecAI.Chat (ControlCitationSource GuideCitation GuideHit GuideSearchScope
  Grounding citationOf validLineage)

/-- What citations are made with. -/
structure CitationEnvironment where
  database : CharacterDatabase
  /-- `unicodedata.normalize("NFC", text)`. -/
  nfc : List Char → List Char
  /-- The hexadecimal digest of a text in UTF-8. -/
  sha256 : List Char → String
  /-- `lexical_relevance_score`. -/
  relevance : List Char → List Char → Rat

def scopeExclusionTerms (scopeId : String) : List String :=
  if scopeId = "kisa-2026-pc" then
    ["리눅스", "linux", "ssh", "root", "클라우드", "버킷", "스마트폰", "생체인증",
      "데이터베이스"]
  else []

/-- `0.20`. -/
def leastRelevance : Rat := 3602879701896397 / 2 ^ 54

section Paragraphs

variable (env : CitationEnvironment)

def normalizedText (text : List Char) : List Char := collapse (env.nfc text)

/-- `[.!?]`. -/
def isStop (character : Char) : Bool :=
  decide (character = '.') || decide (character = '!') ||
    decide (character = '?')

/-- `_PARAGRAPH_BOUNDARY.split`, behind the beginning of a part in reverse;
`skips` within a boundary, `stops` behind a stop. -/
def splitParagraphs (skips stops : Bool) (part : List Char) :
    List Char → List (List Char)
  | [] => [part.reverse]
  | character :: rest =>
      if skips && isSpace character then splitParagraphs true false part rest
      else if stops && isSpace character then
        part.reverse :: splitParagraphs true false [] rest
      else splitParagraphs false (isStop character) (character :: part) rest

def paragraphs (text : List Char) : List (List Char) :=
  let normalized := normalizedText env text
  let parts := ((splitParagraphs false false [] normalized).map strip).filter
    (· ≠ [])
  if parts ≠ [] then parts else if normalized = [] then [] else [normalized]

def bestParagraph (query text : List Char) : Option (Nat × String) :=
  let ranked := Ordered.sortedBy
    (fun item : List Char × Nat => toLex (-env.relevance query item.1, item.2))
    ((paragraphs env text).zipIdx 1)
  ranked.head?.bind fun best =>
    if env.relevance query best.1 < leastRelevance then none
    else some (best.2, env.sha256 best.1)

/-- `re.sub(r"\s+", "", normalize("NFC", text).casefold())`. -/
def compact (text : List Char) : List Char :=
  (casefold env.database (env.nfc text)).filter fun character =>
    !isSpace character

def citationMatchesTerms (citation : GuideCitation) (chunkText : List Char)
    (expectedTerms : List (List Char)) : Bool :=
  match citation.paragraphOrdinal with
  | 0 => false
  | index + 1 =>
      ((paragraphs env chunkText)[index]?).any fun paragraph =>
        !expectedTerms.isEmpty &&
          decide (env.sha256 paragraph = citation.paragraphSha256) &&
          expectedTerms.all fun term =>
            decide (compact env term <:+: compact env paragraph)

/-- The loop of `build_grounding_result` over the qualified hits. -/
def citeHits (query : List Char)
    (sources : String → Option ControlCitationSource) :
    List GuideHit → Grounding
  | [] => .ok []
  | hit :: rest =>
      match sources hit.controlId with
      | none => .error "CITATION_LINEAGE_INVALID"
      | some source =>
          if validLineage hit source then do
            let later ← citeHits query sources rest
            match bestParagraph env query hit.text with
            | some (ordinal, hash) =>
                return citationOf hit source ordinal hash :: later
            | none => return later
          else .error "CITATION_LINEAGE_INVALID"

def buildGroundingResult (minimumRerankScore minimumLexicalScore : Rat)
    (scope : GuideSearchScope) (hits : List GuideHit)
    (sources : String → Option ControlCitationSource) : Grounding :=
  let query := casefold env.database (env.nfc scope.query)
  if (scopeExclusionTerms scope.guide.scopeId).any (fun term =>
      decide (casefold env.database term.toList <:+: query)) ∨ hits = [] then
    .error "NO_MATCH_IN_APPROVED_SCOPE"
  else
    let ofScope := hits.filter fun hit => decide
      (hit.organizationId = scope.organizationId ∧ hit.guide = scope.guide)
    if ofScope = [] then .error "CITATION_LINEAGE_INVALID"
    else
      let qualified := ofScope.filter fun hit => decide
        (minimumRerankScore ≤ hit.rerankScore ∧
          minimumLexicalScore ≤ hit.lexicalScore)
      if qualified = [] then .error "INSUFFICIENT_RELEVANCE"
      else
        match citeHits env scope.query sources qualified with
        | .ok [] => .error "INSUFFICIENT_RELEVANCE"
        | outcome => outcome

end Paragraphs

variable {env : CitationEnvironment} {text paragraph word : List Char}

theorem mem_splitParagraphs {part : List Char} {character : Char}
    (inPart : character ∈ part) :
    ∀ {text : List Char} {skips stops : Bool} {begun : List Char},
      part ∈ splitParagraphs skips stops begun text →
      character ∈ begun ∨ character ∈ text
  | [], _, _, begun, member => by
      cases List.mem_singleton.mp member
      exact .inl (List.mem_reverse.mp inPart)
  | first :: rest, skips, stops, begun, member => by
      rw [splitParagraphs] at member
      split at member
      · exact (mem_splitParagraphs inPart member).imp_right
          (List.mem_cons_of_mem _)
      split at member
      · rcases List.mem_cons.mp member with rfl | later
        · exact .inl (List.mem_reverse.mp inPart)
        · rcases mem_splitParagraphs inPart later with inBegun | inRest
          · cases inBegun
          · exact .inr (List.mem_cons_of_mem _ inRest)
      · rcases mem_splitParagraphs inPart member with inBegun | inRest
        · rcases List.mem_cons.mp inBegun with rfl | inBegun
          · exact .inr List.mem_cons_self
          · exact .inl inBegun
        · exact .inr (List.mem_cons_of_mem _ inRest)

/-- The only blank of a paragraph is the space. -/
theorem blank_eq_space (member : paragraph ∈ paragraphs env text)
    {character : Char} (inParagraph : character ∈ paragraph)
    (blank : isSpace character = true) : character = ' ' := by
  have normal : character ∈ normalizedText env text := by
    unfold paragraphs at member
    dsimp only at member
    split at member
    · obtain ⟨inParts, -⟩ := List.mem_filter.mp member
      obtain ⟨part, isPart, rfl⟩ := List.mem_map.mp inParts
      have inPart : character ∈ part := by
        have trimmed := (List.dropWhile_suffix _).subset
          (List.mem_reverse.mp inParagraph)
        exact (List.dropWhile_suffix _).subset (List.mem_reverse.mp trimmed)
      exact (mem_splitParagraphs inPart isPart).resolve_left
        List.not_mem_nil
    · split at member
      · cases member
      · exact List.mem_singleton.mp member ▸ inParagraph
  rcases mem_intercalate normal with same | ⟨word, isWord, inWord⟩
  · exact same
  · rw [((mem_words isWord).2 character inWord).1] at blank
    cases blank

/-- NFC composes nothing with a space. -/
def SpacesSeparate (nfc : List Char → List Char) : Prop :=
  ∀ first second, nfc (first ++ ' ' :: second) = nfc first ++ ' ' :: nfc second

theorem nfc_word_infix {text : List Char} (separate : SpacesSeparate env.nfc)
    (spaces : ∀ character ∈ text, isSpace character = true → character = ' ')
    (isWord : word ∈ words text) : env.nfc word <:+: env.nfc text := by
  by_cases inside : ' ' ∈ text
  case neg =>
    have plain : ∀ character ∈ text, isSpace character = false := by
      intro character member
      by_contra blank
      exact inside (spaces character member (eq_true_of_ne_false blank) ▸ member)
    have filled : text ≠ [] := by
      rintro rfl
      cases isWord
    rw [words_of_forall_not_space filled plain] at isWord
    rw [List.mem_singleton.mp isWord]
  case pos =>
    obtain ⟨first, second, rfl⟩ := List.append_of_mem inside
    rw [separate]
    rw [words_append_space first second rfl] at isWord
    rcases List.mem_append.mp isWord with inFirst | inSecond
    · have known := nfc_word_infix separate (fun character member =>
        spaces character (List.mem_append_left _ member)) inFirst
      exact known.trans (List.prefix_append _ _).isInfix
    · have known := nfc_word_infix separate (fun character member =>
        spaces character (List.mem_append_right _
          (List.mem_cons_of_mem _ member))) inSecond
      exact known.trans ((List.suffix_cons _ _).trans
        (List.suffix_append _ _)).isInfix
termination_by text.length

/-- What a paragraph becomes contains what its words become. -/
theorem compact_word_infix (separate : SpacesSeparate env.nfc)
    (member : paragraph ∈ paragraphs env text)
    (isWord : word ∈ words paragraph) :
    compact env word <:+: compact env paragraph := by
  obtain ⟨before, behind, whole⟩ := nfc_word_infix separate
    (fun _ inParagraph => blank_eq_space member inParagraph) isWord
  refine ⟨(casefold env.database before).filter fun character =>
      !isSpace character, (casefold env.database behind).filter
      fun character => !isSpace character, ?_⟩
  rw [compact, compact, ← whole]
  simp only [casefold, List.flatMap_append, List.filter_append]

theorem bestParagraph_names {query : List Char} {ordinal : Nat} {hash : String}
    (best : bestParagraph env query text = some (ordinal, hash)) :
    ∃ paragraph, 0 < ordinal ∧
      (paragraphs env text)[ordinal - 1]? = some paragraph ∧
      hash = env.sha256 paragraph := by
  obtain ⟨⟨paragraph, place⟩, isHead, named⟩ := Option.bind_eq_some_iff.mp best
  have ranked := Ordered.mem_sortedBy.mp (List.mem_of_head? isHead)
  obtain ⟨above, found⟩ := List.mk_mem_zipIdx_iff_le_and_getElem?_sub.mp ranked
  split at named
  · cases named
  · cases named
    exact ⟨paragraph, above, found, rfl⟩

/-- A citation of a hit within the scope, and of a paragraph of its text. -/
structure IsExact (env : CitationEnvironment) (scope : GuideSearchScope)
    (sources : String → Option ControlCitationSource) (citation : GuideCitation)
    (hit : GuideHit) : Prop where
  organization : hit.organizationId = scope.organizationId
  guide : hit.guide = scope.guide
  lineage : ∃ source, sources hit.controlId = some source ∧
    source.controlId = hit.controlId ∧
    source.pageStart ≤ hit.pdfPageNumber ∧
    hit.pdfPageNumber ≤ source.pageEnd ∧
    citation = citationOf hit source citation.paragraphOrdinal
      citation.paragraphSha256
  paragraph : ∃ paragraph, 0 < citation.paragraphOrdinal ∧
    (paragraphs env hit.text)[citation.paragraphOrdinal - 1]? =
      some paragraph ∧
    citation.paragraphSha256 = env.sha256 paragraph ∧
    ∀ terms, (∀ term ∈ terms, term ∈ words paragraph) →
      (citationMatchesTerms env citation hit.text terms = true ↔ terms ≠ [])

variable {scope : GuideSearchScope} {citation : GuideCitation}
  {sources : String → Option ControlCitationSource}

theorem citationMatchesTerms_iff (separate : SpacesSeparate env.nfc)
    (above : 0 < citation.paragraphOrdinal)
    (found : (paragraphs env text)[citation.paragraphOrdinal - 1]? =
      some paragraph)
    (hash : citation.paragraphSha256 = env.sha256 paragraph)
    {terms : List (List Char)} (areWords : ∀ term ∈ terms,
      term ∈ words paragraph) :
    citationMatchesTerms env citation text terms = true ↔ terms ≠ [] := by
  have place : citation.paragraphOrdinal =
      citation.paragraphOrdinal - 1 + 1 := by omega
  have all : (terms.all fun term =>
      decide (compact env term <:+: compact env paragraph)) = true := by
    refine List.all_eq_true.mpr fun term member => decide_eq_true ?_
    exact compact_word_infix separate (List.mem_of_getElem? found)
      (areWords term member)
  rw [citationMatchesTerms, place]
  dsimp only
  rw [found, Option.any_some, hash, decide_eq_true rfl, Bool.and_true, all,
    Bool.and_true, Bool.not_eq_true', List.isEmpty_eq_false_iff]

theorem exists_cited (separate : SpacesSeparate env.nfc) :
    ∀ {hits : List GuideHit} {citations : List GuideCitation},
      (∀ hit ∈ hits, hit.organizationId = scope.organizationId ∧
        hit.guide = scope.guide) →
      citeHits env scope.query sources hits = .ok citations →
      ∃ cited, cited.Sublist hits ∧
        List.Forall₂ (IsExact env scope sources) citations cited
  | [], _, _, done => by
      cases done
      exact ⟨[], .slnil, .nil⟩
  | hit :: rest, citations, within, done => by
      rw [citeHits] at done
      split at done
      case h_1 => cases done
      case h_2 source isSource =>
        split at done
        case isFalse => cases done
        case isTrue valid =>
          obtain ⟨later, isLater, done⟩ := Outcome.bind_eq_ok.mp done
          obtain ⟨cited, sublist, named⟩ := exists_cited separate
            (fun other member => within other (List.mem_cons_of_mem _ member))
            isLater
          split at done
          case h_2 =>
            cases done
            exact ⟨cited, sublist.cons _, named⟩
          case h_1 ordinal hash best =>
            cases done
            refine ⟨hit :: cited, sublist.cons_cons _, .cons ?_ named⟩
            obtain ⟨paragraph, above, found, isHash⟩ := bestParagraph_names best
            obtain ⟨organization, guide⟩ := within hit List.mem_cons_self
            simp only [validLineage, Bool.and_eq_true, decide_eq_true_eq]
              at valid
            obtain ⟨⟨⟨control, start, stop, -⟩, -⟩, -⟩ := valid
            exact {
              organization := organization
              guide := guide
              lineage := ⟨source, isSource, control, start, stop, rfl⟩
              paragraph := ⟨paragraph, above, found, isHash, fun _ areWords =>
                citationMatchesTerms_iff separate above found isHash areWords⟩ }

/-- The citations of an answer name hits within the scope, in their order, and
paragraphs in which all their words are found again. -/
theorem citations_are_exact (separate : SpacesSeparate env.nfc)
    {minimumRerankScore minimumLexicalScore : Rat} {hits : List GuideHit}
    {citations : List GuideCitation}
    (found : buildGroundingResult env minimumRerankScore minimumLexicalScore
      scope hits sources = .ok citations) :
    citations ≠ [] ∧ ∃ cited, cited.Sublist hits ∧
      List.Forall₂ (IsExact env scope sources) citations cited := by
  rw [buildGroundingResult] at found
  dsimp only at found
  split at found
  · cases found
  split at found
  · cases found
  split at found
  · cases found
  split at found
  · cases found
  rename_i different
  refine ⟨fun empty => different (empty ▸ found), ?_⟩
  have within : ∀ hit ∈ (hits.filter fun hit => decide
      (hit.organizationId = scope.organizationId ∧
        hit.guide = scope.guide)).filter fun hit => decide
      (minimumRerankScore ≤ hit.rerankScore ∧
        minimumLexicalScore ≤ hit.lexicalScore),
      hit.organizationId = scope.organizationId ∧
        hit.guide = scope.guide := by
    intro hit member
    exact of_decide_eq_true
      (List.mem_filter.mp (List.mem_filter.mp member).1).2
  obtain ⟨cited, sublist, named⟩ := exists_cited separate within found
  exact ⟨cited, (sublist.trans List.filter_sublist).trans
    List.filter_sublist, named⟩

/-- The answers of the chats are cited in the same way. -/
theorem chat_citeHits_eq (guides : Chat.GuideEnvironment) (query : List Char)
    (sources : List ControlCitationSource) (hits : List GuideHit) :
    Chat.citeHits { guides with bestParagraph := bestParagraph env } query
        sources hits =
      citeHits env query (fun controlId => sources.find?
        (·.controlId = controlId)) hits := by
  induction hits with
  | nil => rfl
  | cons hit rest ih =>
      rw [Chat.citeHits, citeHits, ih] <;> rfl

/-- Texts as they are, all of them relevant. -/
def exampleCitations : CitationEnvironment where
  database := asciiDatabase
  nfc := id
  sha256 := String.ofList
  relevance := fun _ _ => 1

def exampleScope : GuideSearchScope where
  organizationId := ⟨1⟩
  guide := ⟨"kisa-2026-pc", "1", "kisa-2026-pc"⟩
  query := "password".toList
  topK := 5

def exampleHit : GuideHit where
  chunkId := ⟨2⟩
  organizationId := ⟨1⟩
  guide := ⟨"kisa-2026-pc", "1", "kisa-2026-pc"⟩
  pdfPageNumber := 7
  controlId := "PC-01"
  text := "Change the password.\nLock the screen.".toList
  lexicalScore := 1
  rerankScore := 1
  sourceSha256 := String.ofList (List.replicate 64 'a')
  textSha256 := String.ofList (List.replicate 64 'b')

def exampleSource : ControlCitationSource where
  controlId := "PC-01"
  documentCode := "PC"
  pageStart := 5
  pageEnd := 9
  sectionLabel := "Accounts"

def exampleCitation : GuideCitation :=
  citationOf exampleHit exampleSource 1 "Change the password."

theorem example_is_cited :
    buildGroundingResult exampleCitations 0 0 exampleScope [exampleHit]
      (fun _ => some exampleSource) = .ok [exampleCitation] := by
  decide +kernel

theorem separate_example : SpacesSeparate exampleCitations.nfc :=
  fun _ _ => rfl

theorem example_is_exact : ∃ cited, cited.Sublist [exampleHit] ∧
    List.Forall₂ (IsExact exampleCitations exampleScope
      fun _ => some exampleSource) [exampleCitation] cited :=
  (citations_are_exact separate_example example_is_cited).2

/-- No words at all are not found in the cited paragraph. -/
theorem no_words_are_refused : ∃ citation,
    buildGroundingResult exampleCitations 0 0 exampleScope [exampleHit]
      (fun _ => some exampleSource) = .ok [citation] ∧
    citationMatchesTerms exampleCitations citation exampleHit.text [] =
      false :=
  ⟨exampleCitation, example_is_cited, by decide +kernel⟩

open SecAI.Chat (GuideHit)

/-- `_CATEGORY_HINTS`, with the keys and the prefixes. -/
def categoryHints : List (String × List String) := [
  ("UNIX", ["U-", "UNIX-"]),
  ("WINDOWS", ["W-", "WINDOWS-"]),
  ("WEB_SERVICE", ["WEB-", "WEB-SERVICE-"]),
  ("SECURITY_DEVICE", ["S-", "SECURITY-EQUIPMENT-"]),
  ("NETWORK_DEVICE", ["N-", "NETWORK-EQUIPMENT-"]),
  ("CONTROL_SYSTEM", ["C-", "CONTROL-SYSTEM-"]),
  ("PC", ["PC-"]),
  ("DBMS", ["D-", "DBMS-"]),
  ("MOBILE", ["M-", "MOBILE-"]),
  ("WEB_APPLICATION", ["CI", "SI", "DI", "EP", "WEB-APPLICATION-"]),
  ("VIRTUALIZATION", ["HV-", "VIRTUALIZATION-"]),
  ("CLOUD", ["CA-", "CLOUD-"])]

/-- The ids of `_CONTROL_PATTERN` by category: what stands before two digits,
and the other ids. -/
def approvedControls : List (String × List String × List String) := [
  ("UNIX", ["U-"], ["UNIX-INTRO"]),
  ("WINDOWS", ["W-"], ["WINDOWS-INTRO"]),
  ("WEB_SERVICE", ["WEB-"], ["WEB-SERVICE-INTRO"]),
  ("SECURITY_DEVICE", ["S-"], ["SECURITY-EQUIPMENT-INTRO"]),
  ("NETWORK_DEVICE", ["N-"], ["NETWORK-EQUIPMENT-INTRO"]),
  ("CONTROL_SYSTEM", ["C-"], ["CONTROL-SYSTEM-INTRO"]),
  ("PC", [], ["PC-01", "PC-02", "PC-03", "PC-04", "PC-05", "PC-06", "PC-07",
    "PC-08", "PC-09", "PC-10", "PC-11", "PC-12", "PC-13", "PC-14", "PC-15",
    "PC-16", "PC-17", "PC-18", "PC-INTRO"]),
  ("DBMS", ["D-"], ["DBMS-INTRO"]),
  ("MOBILE", ["M-"], ["MOBILE-INTRO"]),
  ("WEB_APPLICATION", [], ["WEB-APP-INTRO", "CI", "SI", "DI", "EP", "IL", "XS",
    "CF", "SF", "BF", "IA", "IN", "PR", "PV", "FU", "FD", "IS", "SN", "CC",
    "AE", "AU", "WM"]),
  ("VIRTUALIZATION", ["HV-"], ["VIRTUALIZATION-INTRO"]),
  ("CLOUD", ["CA-"], ["CLOUD-INTRO"])]

def hitCategoryKey (upper : List Char → List Char) (hit : GuideHit) :
    Option String :=
  let controlId := upper hit.controlId.toList
  (categoryHints.find? fun hint => hint.2.any fun start =>
    start.toList.isPrefixOf controlId).map Prod.fst

def approvedCategory (database : CharacterDatabase) (hit : GuideHit) :
    Option String :=
  let controlId := hit.controlId.toList
  (approvedControls.find? fun entry =>
    entry.2.2.any (fun fixed => decide (hit.controlId = fixed)) ||
      entry.2.1.any fun family =>
        let (start, digits) := controlId.splitAt family.toList.length
        decide (start = family.toList ∧ digits.length = 2) &&
          digits.all fun digit => (database.decimal digit).isSome).map Prod.fst

def topOf (category : GuideHit → Option String) (hits : List GuideHit)
    (key : String) : Option GuideHit :=
  hits.find? fun hit => decide (category hit = some key)

/-- `required_ids`; the ids of a set are listed once. -/
def requiredIds (upper : List Char → List Char) (hits : List GuideHit)
    (categoryKeys : List String) : List Uuid :=
  categoryKeys.foldl (fun ids key =>
    match topOf (hitCategoryKey upper) hits key with
    | some hit => ids.insert hit.chunkId
    | none => ids) []

/-- The loop of `_with_category_coverage` over the hits. -/
def selectedIds (limit : Nat) (ids : List Uuid) : List GuideHit → List Uuid
  | [] => ids
  | hit :: rest =>
      if limit ≤ ids.length then ids
      else selectedIds limit (ids.insert hit.chunkId) rest

def withCategoryCoverage (upper : List Char → List Char) (hits : List GuideHit)
    (categoryKeys : List String) (limit : Nat) : List GuideHit :=
  let selected := selectedIds limit (requiredIds upper hits categoryKeys) hits
  (hits.filter fun hit => decide (hit.chunkId ∈ selected)).take limit

/-- The hits in their order, no more than the limit: the first ones if no
category is named, and the first one of each category that is. -/
structure Covers (database : CharacterDatabase) (hits : List GuideHit)
    (categoryKeys : List String) (limit : Nat) (result : List GuideHit) :
    Prop where
  sublist : result.Sublist hits
  few : result.length ≤ limit
  plain : categoryKeys = [] → result = hits.take limit
  covered : categoryKeys.length ≤ limit → ∀ key ∈ categoryKeys,
    ∀ hit ∈ topOf (approvedCategory database) hits key, hit ∈ result

/-- A hit that `_hit_category_key` puts first in one of the categories. -/
def isRequired (upper : List Char → List Char) (hits : List GuideHit)
    (categoryKeys : List String) (hit : GuideHit) : Bool :=
  categoryKeys.any fun key =>
    decide (topOf (hitCategoryKey upper) hits key = some hit)

/-- The first hit of each category is required, or there is room for it beside
the required hits and the others before it. -/
def LeavesRoom (database : CharacterDatabase) (upper : List Char → List Char)
    (hits : List GuideHit) (categoryKeys : List String) (limit : Nat) : Prop :=
  ∀ key ∈ categoryKeys, ∀ hit ∈ topOf (approvedCategory database) hits key,
    isRequired upper hits categoryKeys hit = true ∨
      (hits.filter (isRequired upper hits categoryKeys)).length +
        ((hits.takeWhile fun other => decide (other ≠ hit)).filter fun other =>
          !isRequired upper hits categoryKeys other).length < limit

variable {database : CharacterDatabase} {upper : List Char → List Char}
  {hits : List GuideHit} {categoryKeys : List String} {limit : Nat}

theorem length_insert_le (ids : List Uuid) (id : Uuid) :
    (ids.insert id).length ≤ ids.length + 1 := by
  by_cases known : id ∈ ids
  · rw [List.insert_of_mem known]
    exact Nat.le_succ _
  · rw [List.length_insert_of_not_mem known]

theorem subset_selectedIds (hits : List GuideHit) :
    ∀ ids, ids ⊆ selectedIds limit ids hits := by
  induction hits with
  | nil => exact fun ids => List.Subset.refl ids
  | cons hit rest ih =>
      intro ids id known
      rw [selectedIds]
      split
      · exact known
      · exact ih _ (List.mem_insert_of_mem known)

theorem length_selectedIds_le (hits : List GuideHit) :
    ∀ {ids}, ids.length ≤ limit →
      (selectedIds limit ids hits).length ≤ limit := by
  induction hits with
  | nil => exact fun few => few
  | cons hit rest ih =>
      intro ids few
      rw [selectedIds]
      split
      · exact few
      · apply ih
        have more := length_insert_le ids hit.chunkId
        omega

/-- A hit is selected if it is required, or while there is room. -/
theorem mem_selectedIds_iff (hits : List GuideHit) :
    ∀ {ids : List Uuid}, (hits.map GuideHit.chunkId).Nodup →
      ∀ {hit : GuideHit}, hit ∈ hits →
      (hit.chunkId ∈ selectedIds limit ids hits ↔ hit.chunkId ∈ ids ∨
        ids.length + ((hits.takeWhile fun other =>
          decide (other ≠ hit)).filter fun other =>
            decide (other.chunkId ∉ ids)).length < limit) := by
  induction hits with
  | nil => exact fun _ _ member => absurd member List.not_mem_nil
  | cons first rest ih =>
      intro ids distinct hit member
      obtain ⟨fresh, distinct⟩ := List.nodup_cons.mp distinct
      rw [selectedIds]
      split
      next full => exact (or_iff_left (by omega)).symm
      next room =>
        by_cases same : first = hit
        case pos =>
          subst same
          rw [List.takeWhile_cons_of_neg (by simp)]
          exact iff_of_true (subset_selectedIds rest _ List.mem_insert_self)
            (.inr (by simpa using room))
        case neg =>
          have later : hit ∈ rest :=
            (List.mem_cons.mp member).resolve_left (Ne.symm same)
          have other : ∀ hit ∈ rest, (hit.chunkId ∈ ids.insert first.chunkId ↔
              hit.chunkId ∈ ids) := by
            intro hit later
            rw [List.mem_insert_iff]
            refine or_iff_right fun isFirst => fresh ?_
            exact isFirst ▸ List.mem_map_of_mem later
          rw [ih distinct later, other hit later,
            List.takeWhile_cons_of_pos (by simpa using same)]
          have kept : ((rest.takeWhile fun other => decide (other ≠ hit)).filter
              fun other => decide (other.chunkId ∉ ids.insert first.chunkId)) =
              (rest.takeWhile fun other => decide (other ≠ hit)).filter
                fun other => decide (other.chunkId ∉ ids) := by
            refine List.filter_congr fun before isBefore => ?_
            rw [decide_eq_decide, other before
              ((List.takeWhile_prefix _).subset isBefore)]
          rw [kept]
          by_cases known : first.chunkId ∈ ids
          · rw [List.insert_of_mem known, List.filter_cons_of_neg (by
              simpa using known)]
          rw [List.length_insert_of_not_mem known, List.filter_cons_of_pos (by
            simpa using known), List.length_cons]
          refine or_congr_right ?_
          omega

/-- Without required hits the first ones are selected. -/
theorem filter_selectedIds (hits : List GuideHit) :
    ∀ {ids : List Uuid}, (hits.map GuideHit.chunkId).Nodup →
      (∀ hit ∈ hits, hit.chunkId ∉ ids) →
      (hits.filter fun hit => decide
        (hit.chunkId ∈ selectedIds limit ids hits)) =
        hits.take (limit - ids.length) := by
  induction hits with
  | nil => exact fun _ _ => List.take_nil.symm
  | cons first rest ih =>
      intro ids distinct fresh
      obtain ⟨unlike, distinct⟩ := List.nodup_cons.mp distinct
      rw [selectedIds]
      split
      next full =>
        rw [Nat.sub_eq_zero_of_le full, List.take_zero, List.filter_eq_nil_iff]
        intro hit member
        simpa using fresh hit member
      next room =>
        have isFresh := fresh first List.mem_cons_self
        have added : limit - ids.length =
            (limit - (ids.insert first.chunkId).length) + 1 := by
          rw [List.length_insert_of_not_mem isFresh]
          omega
        rw [added, List.take_succ_cons, List.filter_cons_of_pos (by
          exact decide_eq_true
            (subset_selectedIds rest _ List.mem_insert_self))]
        refine congrArg _ (ih distinct fun hit member => ?_)
        rw [List.mem_insert_iff, not_or]
        exact ⟨fun same => unlike (same ▸ List.mem_map_of_mem member),
          fresh hit (List.mem_cons_of_mem _ member)⟩

theorem requiredIds_spec (categoryKeys : List String) :
    (requiredIds upper hits categoryKeys).Nodup ∧
      (requiredIds upper hits categoryKeys).length ≤ categoryKeys.length ∧
      ∀ id, id ∈ requiredIds upper hits categoryKeys ↔ ∃ key ∈ categoryKeys,
        ∃ hit ∈ topOf (hitCategoryKey upper) hits key, hit.chunkId = id := by
  induction categoryKeys using List.reverseRecOn with
  | nil => exact ⟨List.nodup_nil, Nat.le_refl _, fun id => by simp [requiredIds]⟩
  | append_singleton earlier key ih =>
      obtain ⟨distinct, few, members⟩ := ih
      have last : requiredIds upper hits (earlier ++ [key]) =
          match topOf (hitCategoryKey upper) hits key with
          | some hit => (requiredIds upper hits earlier).insert hit.chunkId
          | none => requiredIds upper hits earlier := by
        rw [requiredIds, List.foldl_append]
        rfl
      rw [last, List.length_append, List.length_singleton]
      simp only [List.mem_append, List.mem_singleton, or_and_right, exists_or,
        exists_eq_left]
      cases topOf (hitCategoryKey upper) hits key with
      | none =>
          refine ⟨distinct, Nat.le_succ_of_le few, fun id => ?_⟩
          simp [members]
      | some hit =>
          refine ⟨List.Nodup.insert distinct, ?_, fun id => ?_⟩
          · have more := length_insert_le (requiredIds upper hits earlier)
              hit.chunkId
            dsimp only
            omega
          · simp [members, or_comm, eq_comm]

theorem isRequired_iff {hit : GuideHit} :
    isRequired upper hits categoryKeys hit = true ↔ ∃ key ∈ categoryKeys,
      topOf (hitCategoryKey upper) hits key = some hit := by
  simp [isRequired]

theorem mem_requiredIds_iff (distinct : (hits.map GuideHit.chunkId).Nodup)
    {hit : GuideHit} (member : hit ∈ hits) :
    hit.chunkId ∈ requiredIds upper hits categoryKeys ↔
      isRequired upper hits categoryKeys hit = true := by
  rw [isRequired_iff, (requiredIds_spec categoryKeys).2.2]
  constructor
  · rintro ⟨key, named, other, isTop, same⟩
    have isHit := List.inj_on_of_nodup_map distinct
      (List.mem_of_find?_eq_some isTop) member same
    exact ⟨key, named, isHit ▸ isTop⟩
  · rintro ⟨key, named, isTop⟩
    exact ⟨key, named, hit, isTop, rfl⟩

theorem length_requiredIds (distinct : (hits.map GuideHit.chunkId).Nodup) :
    (requiredIds upper hits categoryKeys).length =
      (hits.filter (isRequired upper hits categoryKeys)).length := by
  obtain ⟨once, -, members⟩ := @requiredIds_spec upper hits categoryKeys
  rw [← List.length_map GuideHit.chunkId]
  refine ((List.perm_ext_iff_of_nodup once (distinct.sublist
    (List.filter_sublist.map _))).mpr fun id => ?_).length_eq
  rw [members, List.mem_map]
  constructor
  · rintro ⟨key, named, hit, isTop, same⟩
    exact ⟨hit, List.mem_filter.mpr ⟨List.mem_of_find?_eq_some isTop,
      isRequired_iff.mpr ⟨key, named, isTop⟩⟩, same⟩
  · rintro ⟨hit, kept, same⟩
    obtain ⟨key, named, isTop⟩ :=
      isRequired_iff.mp (List.mem_filter.mp kept).2
    exact ⟨key, named, hit, isTop, same⟩

theorem mem_withCategoryCoverage_iff
    (distinct : (hits.map GuideHit.chunkId).Nodup)
    (few : categoryKeys.length ≤ limit) {hit : GuideHit}
    (member : hit ∈ hits) :
    hit ∈ withCategoryCoverage upper hits categoryKeys limit ↔
      isRequired upper hits categoryKeys hit = true ∨
        (hits.filter (isRequired upper hits categoryKeys)).length +
          ((hits.takeWhile fun other => decide (other ≠ hit)).filter
            fun other => !isRequired upper hits categoryKeys other).length <
            limit := by
  have short : (hits.filter fun hit => decide (hit.chunkId ∈ selectedIds limit
      (requiredIds upper hits categoryKeys) hits)).length ≤ limit := by
    rw [← List.length_map GuideHit.chunkId]
    refine Nat.le_trans ((distinct.sublist
      (List.filter_sublist.map _)).length_le_of_subset ?_)
      (length_selectedIds_le hits
        (Nat.le_trans (@requiredIds_spec upper hits categoryKeys).2.1 few))
    intro id isKept
    obtain ⟨hit, kept, rfl⟩ := List.mem_map.mp isKept
    exact of_decide_eq_true (List.mem_filter.mp kept).2
  have others : ((hits.takeWhile fun other => decide (other ≠ hit)).filter
      fun other => decide (other.chunkId ∉ requiredIds upper hits
        categoryKeys)) = (hits.takeWhile fun other =>
      decide (other ≠ hit)).filter fun other =>
        !isRequired upper hits categoryKeys other := by
    refine List.filter_congr fun other before => ?_
    simp [mem_requiredIds_iff distinct
      ((List.takeWhile_prefix _).subset before)]
  rw [withCategoryCoverage, List.take_of_length_le short, List.mem_filter,
    decide_eq_true_eq, and_iff_right member,
    mem_selectedIds_iff hits distinct member,
    mem_requiredIds_iff distinct member, length_requiredIds distinct, others]

/-- The categories are covered exactly when the first hit of each in the
approved format is required or has room. -/
theorem covers_iff_leavesRoom
    (distinct : (hits.map GuideHit.chunkId).Nodup) :
    Covers database hits categoryKeys limit
        (withCategoryCoverage upper hits categoryKeys limit) ↔
      (categoryKeys.length ≤ limit →
        LeavesRoom database upper hits categoryKeys limit) := by
  constructor
  · intro covers few key named hit isTop
    exact (mem_withCategoryCoverage_iff distinct few
      (List.mem_of_find?_eq_some isTop)).mp
        (covers.covered few key named hit isTop)
  · intro room
    constructor
    case sublist => exact (List.take_sublist _ _).trans List.filter_sublist
    case few => exact List.length_take_le _ _
    case plain =>
      rintro rfl
      have first := @filter_selectedIds limit hits [] distinct
        fun _ _ => List.not_mem_nil
      rw [withCategoryCoverage, requiredIds, List.foldl_nil, first, List.length_nil, Nat.sub_zero, List.take_take, Nat.min_self]
    case covered =>
      intro few key named hit isTop
      exact (mem_withCategoryCoverage_iff distinct few
        (List.mem_of_find?_eq_some isTop)).mpr (room few key named hit isTop)

/-- A hit for a PC, and one for a control of web applications. -/
def hitsWith (controlId : String) : List GuideHit :=
  [exampleHit, { exampleHit with chunkId := ⟨3⟩, controlId := controlId }]

/-- `str.upper` of ASCII. -/
def upperAscii : List Char → List Char := List.map Char.toUpper

theorem injection_is_covered :
    Covers asciiDatabase (hitsWith "SI") ["WEB_APPLICATION"] 1
      (withCategoryCoverage upperAscii (hitsWith "SI") ["WEB_APPLICATION"]
        1) := by
  refine (covers_iff_leavesRoom (by decide)).mpr fun _ key named hit isTop => ?_
  cases List.mem_singleton.mp named
  have found : topOf (approvedCategory asciiDatabase) (hitsWith "SI")
      "WEB_APPLICATION" = (hitsWith "SI")[1]? := by decide +kernel
  cases found.symm.trans isTop
  exact .inl (by decide +kernel)

/-- No prefix of web applications fits `XS`. -/
theorem scripting_is_not_covered : ((hitsWith "XS").map
    GuideHit.chunkId).Nodup ∧
    ¬Covers asciiDatabase (hitsWith "XS") ["WEB_APPLICATION"] 1
      (withCategoryCoverage upperAscii (hitsWith "XS") ["WEB_APPLICATION"]
        1) := by
  refine ⟨by decide, fun covers => ?_⟩
  have covered := covers.covered (Nat.le_refl 1) "WEB_APPLICATION"
    (List.mem_singleton_self _) _ (show topOf (approvedCategory asciiDatabase)
      (hitsWith "XS") "WEB_APPLICATION" = (hitsWith "XS")[1]? by
        decide +kernel)
  revert covered
  decide +kernel

end SecAI.Guides
