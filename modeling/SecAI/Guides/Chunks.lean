/-
Module: SecAI.Guides.Chunks
Purpose: The chunks of a guide and the ids they get.
Trusted boundary: the Unicode database, NFC, SHA-256 and `uuid5` are parameters
Main exports:
  isControlId, buildGuideChunks, chunk_ids_identify_iff
-/
import Mathlib.Data.String.Basic
import SecAI.Common.Ordered
import SecAI.Common.Outcome
import SecAI.Text.Numerals

namespace SecAI.Guides

open SecAI.Text
open Outcome (bind_eq_ok)

def isHexDigit (character : Char) : Bool :=
  character.isDigit || decide ('a' ≤ character ∧ character ≤ 'f')

/-- A UUID, by its canonical text. -/
@[ext] structure CanonicalUuid where
  text : List Char
  isText : ∀ character ∈ text, isHexDigit character = true ∨ character = '-'

structure GuideIngestGateInput where
  guideStatus : String
  licenseStatus : String
  derivativeTextStorageAllowed : Bool
  sourceHashVerified : Bool
  pageMapVerified : Bool
  malwareScanPassed : Bool
  extractionQualityApproved : Bool
  queryScopeEnabled : Bool
  syntheticTestOnly : Bool

structure GuidePageText where
  pdfPageNumber : Int
  controlId : List Char
  text : List Char

/-- The arguments of `build_guide_chunks`. -/
structure ChunkRequest where
  organizationId : CanonicalUuid
  guideId : List Char
  guideVersion : List Char
  sourceSha256 : List Char
  scopeId : List Char
  pages : List GuidePageText
  gate : GuideIngestGateInput

structure GuideChunk (υ : Type) where
  chunkId : υ
  organizationId : CanonicalUuid
  guideId : List Char
  guideVersion : List Char
  sourceSha256 : List Char
  scopeId : List Char
  pdfPageNumber : Int
  controlId : List Char
  ordinal : Nat
  text : List Char
  textSha256 : List Char

/-- What chunks are made with; `υ` are the ids. -/
structure ChunkEnvironment (υ : Type) where
  database : CharacterDatabase
  /-- `unicodedata.normalize("NFC", text)`. -/
  nfc : List Char → List Char
  /-- The hexadecimal digest of a text in UTF-8. -/
  sha256 : List Char → List Char
  bar_sha256 : ∀ text, '|' ∉ sha256 text
  /-- `uuid5(NAMESPACE_URL, name)`. -/
  uuid5 : List Char → υ

variable {υ : Type} (env : ChunkEnvironment υ)

/-- The entries of `_CONTROL_PATTERN` without free digits. -/
def fixedControlIds : List String := [
  "PC-01", "PC-02", "PC-03", "PC-04", "PC-05", "PC-06", "PC-07", "PC-08",
  "PC-09", "PC-10", "PC-11", "PC-12", "PC-13", "PC-14", "PC-15", "PC-16",
  "PC-17", "PC-18", "UNIX-INTRO", "WINDOWS-INTRO", "WEB-SERVICE-INTRO",
  "SECURITY-EQUIPMENT-INTRO", "NETWORK-EQUIPMENT-INTRO",
  "CONTROL-SYSTEM-INTRO", "PC-INTRO", "DBMS-INTRO", "MOBILE-INTRO",
  "WEB-APP-INTRO", "VIRTUALIZATION-INTRO", "CLOUD-INTRO", "CI", "SI", "DI",
  "EP", "IL", "XS", "CF", "SF", "BF", "IA", "IN", "PR", "PV", "FU", "FD", "IS",
  "SN", "CC", "AE", "AU", "WM", "GUIDE-PAGE"]

def controlFamilies : List String :=
  ["U-", "W-", "WEB-", "S-", "N-", "C-", "D-", "M-", "HV-", "CA-"]

/-- `_CONTROL_PATTERN.fullmatch`. -/
def isControlId (database : CharacterDatabase) (id : List Char) : Bool :=
  fixedControlIds.any (fun fixed => decide (id = fixed.toList)) ||
    controlFamilies.any fun family =>
      decide (id.take family.toList.length = family.toList) &&
        decide ((id.drop family.toList.length).length = 2) &&
        (id.drop family.toList.length).all fun character =>
          (database.decimal character).isSome

/-- `_SHA256_PATTERN.fullmatch`. -/
def isHexDigest (text : List Char) : Bool :=
  decide (text.length = 64) && text.all isHexDigit

def evaluateIngestGate (gate : GuideIngestGateInput) : List String :=
  if gate.syntheticTestOnly ∧ (gate.guideStatus ≠ "SYNTHETIC_TEST_ONLY" ∨
      gate.licenseStatus ≠ "SYNTHETIC_TEST_ONLY") then
    ["SYNTHETIC_GATE_IDENTITY_INVALID"]
  else
    let checks := [
      (!gate.syntheticTestOnly && decide (gate.guideStatus ≠ "APPROVED"),
        "GUIDE_NOT_APPROVED"),
      (!gate.syntheticTestOnly && decide (gate.licenseStatus ≠ "APPROVED"),
        "LICENSE_NOT_APPROVED"),
      (!gate.derivativeTextStorageAllowed,
        "DERIVATIVE_TEXT_STORAGE_NOT_ALLOWED"),
      (!gate.sourceHashVerified, "SOURCE_HASH_NOT_VERIFIED"),
      (!gate.pageMapVerified, "PAGE_MAP_NOT_VERIFIED"),
      (!gate.malwareScanPassed, "MALWARE_SCAN_REQUIRED"),
      (!gate.extractionQualityApproved, "EXTRACTION_QUALITY_NOT_APPROVED"),
      (!gate.queryScopeEnabled, "QUERY_SCOPE_DISABLED")]
    Ordered.sortedBy id (checks.filterMap fun check =>
      if check.1 then some check.2 else none)

/-- `"|".join(parts)`. -/
def joinBars (parts : List (List Char)) : List Char := ['|'].intercalate parts

def identityParts (request : ChunkRequest) (page : GuidePageText)
    (ordinal : Nat) (textSha256 : List Char) : List (List Char) :=
  [request.organizationId.text, request.guideId, request.guideVersion,
    request.sourceSha256, request.scopeId, integerText page.pdfPageNumber,
    page.controlId, decimalText ordinal, textSha256]

def chunkOf (request : ChunkRequest) (item : GuidePageText × Nat) :
    Except String (GuideChunk υ) :=
  let (page, ordinal) := item
  let text := collapse (env.nfc page.text)
  if page.pdfPageNumber ≤ 0 ∨ isControlId env.database page.controlId = false ∨
      text = [] then .error "GUIDE_PAGE_INVALID"
  else
    let textSha256 := env.sha256 text
    .ok {
      chunkId := env.uuid5 ("secai-guide-chunk:".toList ++
        joinBars (identityParts request page ordinal textSha256))
      organizationId := request.organizationId
      guideId := request.guideId
      guideVersion := request.guideVersion
      sourceSha256 := request.sourceSha256
      scopeId := request.scopeId
      pdfPageNumber := page.pdfPageNumber
      controlId := page.controlId
      ordinal, text, textSha256 }

def buildGuideChunks (request : ChunkRequest) :
    Except String (List (GuideChunk υ)) :=
  let errors := evaluateIngestGate request.gate
  let numbers := request.pages.map (·.pdfPageNumber)
  if errors ≠ [] then
    .error ("GUIDE_INGEST_BLOCKED:" ++ ",".intercalate errors)
  else if request.guideId = [] ∨ request.guideVersion = [] ∨
      request.scopeId = [] ∨ isHexDigest request.sourceSha256 = false then
    .error "GUIDE_IDENTITY_INVALID"
  else if request.pages = [] ∨ numbers ≠ Ordered.sortedSet numbers then
    .error "PAGE_ORDER_OR_DUPLICATE_INVALID"
  else request.pages.zipIdx.mapM (chunkOf env request)

/-- A part in front of a separator is known by its number of separators. -/
theorem append_cons_inj {α : Type} [DecidableEq α] {bar : α} :
    ∀ {first second rest others : List α},
      first ++ bar :: rest = second ++ bar :: others →
      first.count bar = second.count bar → first = second ∧ rest = others
  | [], [], _, _, same, _ => ⟨rfl, (List.cons.inj same).2⟩
  | [], head :: tail, _, _, same, counts => by
      obtain ⟨rfl, -⟩ := List.cons.inj same
      simp at counts
  | head :: tail, [], _, _, same, counts => by
      obtain ⟨rfl, -⟩ := List.cons.inj same
      simp at counts
  | head :: tail, other :: more, rest, others, same, counts => by
      obtain ⟨rfl, later⟩ := List.cons.inj same
      rw [List.count_cons, List.count_cons, Nat.add_right_cancel_iff] at counts
      obtain ⟨rfl, rests⟩ := @append_cons_inj _ _ _ tail more rest others later
        counts
      exact ⟨rfl, rests⟩

theorem joinBars_cons (part next : List Char) (parts : List (List Char)) :
    joinBars (part :: next :: parts) = part ++ '|' :: joinBars (next :: parts) := by
  rw [joinBars, List.intercalate_cons_cons, List.append_assoc]
  rfl

theorem bar_hexDigits {text : List Char}
    (digits : ∀ character ∈ text, isHexDigit character = true ∨
      character = '-') : text.count '|' = 0 := by
  rw [List.count_eq_zero]
  intro member
  exact absurd (digits '|' member) (by decide)

theorem bar_isHexDigest {text : List Char} (isDigest : isHexDigest text = true) :
    text.count '|' = 0 := by
  rw [isHexDigest, Bool.and_eq_true, List.all_eq_true] at isDigest
  exact bar_hexDigits fun character member => .inl (isDigest.2 character member)

theorem bar_decimalText (number : Nat) : (decimalText number).count '|' = 0 := by
  rw [List.count_eq_zero]
  intro member
  exact absurd (Nat.isDigit_of_mem_toDigits (by decide) (by decide) member)
    (by decide)

theorem decimalText_injective {first second : Nat}
    (same : decimalText first = decimalText second) : first = second := by
  rw [← @Nat.ofDigitChars_ten_toDigits first,
    ← @Nat.ofDigitChars_ten_toDigits second]
  exact congrArg (fun digits => Nat.ofDigitChars 10 digits 0) same

theorem bar_isControlId {database : CharacterDatabase} {id : List Char}
    (isId : isControlId database id = true) : id.count '|' = 0 := by
  rw [isControlId, Bool.or_eq_true, List.any_eq_true, List.any_eq_true] at isId
  rw [List.count_eq_zero]
  intro member
  rcases isId with ⟨fixed, isFixed, same⟩ | ⟨family, isFamily, matching⟩
  · rw [of_decide_eq_true same] at member
    have plain : ∀ fixed ∈ fixedControlIds, '|' ∉ fixed.toList := by
      decide
    exact plain fixed isFixed member
  · rw [Bool.and_eq_true, Bool.and_eq_true, List.all_eq_true] at matching
    rw [← List.take_append_drop family.toList.length id] at member
    rcases List.mem_append.mp member with inFamily | inNumber
    · rw [of_decide_eq_true matching.1.1] at inFamily
      have plain : ∀ family ∈ controlFamilies, '|' ∉ family.toList := by
        decide
      exact plain family isFamily inFamily
    · have isDecimal := matching.2 '|' inNumber
      rw [database.decimal_ascii '|' (by decide)] at isDecimal
      cases isDecimal

variable {env} {request first second : ChunkRequest}

/-- A chunk of an accepted request, with what the checks leave of it. -/
structure IsChunk (env : ChunkEnvironment υ) (request : ChunkRequest)
    (chunk : GuideChunk υ) : Prop where
  organizationId : chunk.organizationId = request.organizationId
  guideId : chunk.guideId = request.guideId
  guideVersion : chunk.guideVersion = request.guideVersion
  sourceSha256 : chunk.sourceSha256 = request.sourceSha256
  scopeId : chunk.scopeId = request.scopeId
  digest : isHexDigest request.sourceSha256 = true
  page : 0 < chunk.pdfPageNumber
  controlId : isControlId env.database chunk.controlId = true
  chunkId : chunk.chunkId = env.uuid5 ("secai-guide-chunk:".toList ++
    joinBars [request.organizationId.text, request.guideId,
      request.guideVersion, request.sourceSha256, request.scopeId,
      decimalText chunk.pdfPageNumber.toNat, chunk.controlId,
      decimalText chunk.ordinal, chunk.textSha256])
  text : ∃ text, chunk.textSha256 = env.sha256 text

theorem isChunk_of_mem {chunks : List (GuideChunk υ)} {chunk : GuideChunk υ}
    (accepted : buildGuideChunks env request = .ok chunks)
    (member : chunk ∈ chunks) : IsChunk env request chunk := by
  unfold buildGuideChunks at accepted
  dsimp only at accepted
  split_ifs at accepted with blocked unidentified unordered
  obtain ⟨⟨page, ordinal⟩, -, made⟩ := Outcome.mapM_mem accepted chunk member
  unfold chunkOf at made
  dsimp only at made
  split_ifs at made with invalid
  cases made
  simp only [not_or, Bool.not_eq_false, Int.not_le] at invalid unidentified
  refine ⟨rfl, rfl, rfl, rfl, rfl, unidentified.2.2.2, invalid.1, invalid.2.1,
    ?_, _, rfl⟩
  obtain ⟨number, isNumber⟩ := Int.eq_ofNat_of_zero_le (Int.le_of_lt invalid.1)
  rw [identityParts, isNumber]
  rfl

/-- Two chunks of accepted requests that have one id agree in everything that
names a chunk when the ids and the versions of their guides have equally many
bars. -/
theorem chunk_ids_identify_iff (injective : Function.Injective env.uuid5)
    {firstChunks secondChunks : List (GuideChunk υ)}
    (firstAccepted : buildGuideChunks env first = .ok firstChunks)
    (secondAccepted : buildGuideChunks env second = .ok secondChunks)
    {one two : GuideChunk υ} (isFirst : one ∈ firstChunks)
    (isSecond : two ∈ secondChunks) (sameId : one.chunkId = two.chunkId) :
    (one.organizationId = two.organizationId ∧
      one.guideId = two.guideId ∧ one.guideVersion = two.guideVersion ∧
      one.sourceSha256 = two.sourceSha256 ∧ one.scopeId = two.scopeId ∧
      one.pdfPageNumber = two.pdfPageNumber ∧
      one.controlId = two.controlId ∧ one.ordinal = two.ordinal ∧
      one.textSha256 = two.textSha256) ↔
    first.guideId.count '|' = second.guideId.count '|' ∧
      first.guideVersion.count '|' = second.guideVersion.count '|' := by
  have one' := isChunk_of_mem firstAccepted isFirst
  have two' := isChunk_of_mem secondAccepted isSecond
  constructor
  · rintro ⟨-, guideId, guideVersion, -⟩
    rw [one'.guideId, two'.guideId] at guideId
    rw [one'.guideVersion, two'.guideVersion] at guideVersion
    rw [guideId, guideVersion]
    exact ⟨rfl, rfl⟩
  · rintro ⟨guideBars, versionBars⟩
    rw [one'.chunkId, two'.chunkId] at sameId
    have names := List.append_cancel_left (injective sameId)
    simp only [joinBars_cons] at names
    obtain ⟨organizations, names⟩ := append_cons_inj names (by
      rw [bar_hexDigits first.organizationId.isText,
        bar_hexDigits second.organizationId.isText])
    obtain ⟨guides, names⟩ := append_cons_inj names guideBars
    obtain ⟨versions, names⟩ := append_cons_inj names versionBars
    obtain ⟨sources, names⟩ := append_cons_inj names (by
      rw [bar_isHexDigest one'.digest, bar_isHexDigest two'.digest])
    obtain ⟨firstText, firstHash⟩ := one'.text
    obtain ⟨secondText, secondHash⟩ := two'.text
    have hashes : one.textSha256.count '|' = two.textSha256.count '|' := by
      rw [firstHash, secondHash, List.count_eq_zero.mpr (env.bar_sha256 _),
        List.count_eq_zero.mpr (env.bar_sha256 _)]
    have scopeBars : first.scopeId.count '|' = second.scopeId.count '|' := by
      have bars := congrArg (List.count '|') names
      simp only [joinBars, List.intercalate_singleton, List.count_append,
        List.count_cons, bar_decimalText, bar_isControlId one'.controlId,
        bar_isControlId two'.controlId] at bars
      omega
    obtain ⟨scopes, names⟩ := append_cons_inj names scopeBars
    obtain ⟨pages, names⟩ := append_cons_inj names (by
      rw [bar_decimalText, bar_decimalText])
    obtain ⟨controls, names⟩ := append_cons_inj names (by
      rw [bar_isControlId one'.controlId, bar_isControlId two'.controlId])
    obtain ⟨ordinals, texts⟩ := append_cons_inj names (by
      rw [bar_decimalText, bar_decimalText])
    rw [one'.organizationId, two'.organizationId, one'.guideId, two'.guideId,
      one'.guideVersion, two'.guideVersion, one'.sourceSha256,
      two'.sourceSha256, one'.scopeId, two'.scopeId]
    have numbers := decimalText_injective pages
    have positive := one'.page
    have positiveToo := two'.page
    refine ⟨CanonicalUuid.ext organizations, guides, versions, sources,
      scopes, by omega, controls, decimalText_injective ordinals, ?_⟩
    simpa only [joinBars, List.intercalate_singleton] using texts

def exampleDigest : List Char :=
  "ca978112ca1bbdcafac231b39a23dc4da786eff8147c4e72b9807785afee48bb".toList

theorem exampleDigest_hex : exampleDigest.all isHexDigit = true := rfl

def exampleEnvironment : ChunkEnvironment (List Char) where
  database := asciiDatabase
  nfc := id
  sha256 := fun _ => exampleDigest
  bar_sha256 := fun _ member =>
    absurd (List.all_eq_true.mp exampleDigest_hex _ member) (by decide)
  uuid5 := id

def exampleOrganization : CanonicalUuid where
  text := "00000000-0000-4000-8000-000000000001".toList
  isText := @of_decide_eq_true _ (List.decidableBAll _ _) rfl

/-- A request for one page whose text is `a`. -/
def requestOf (guideId guideVersion : String) : ChunkRequest where
  organizationId := exampleOrganization
  guideId := guideId.toList
  guideVersion := guideVersion.toList
  sourceSha256 := List.replicate 64 'a'
  scopeId := "kisa-2026-pc".toList
  pages := [⟨1, "PC-01".toList, ['a']⟩]
  gate := ⟨"APPROVED", "APPROVED", true, true, true, true, true, true, false⟩

theorem exists_chunk {request : ChunkRequest} {name : List Char}
    (seen : (buildGuideChunks exampleEnvironment request).map
      (List.map GuideChunk.chunkId) = .ok [name]) :
    ∃ chunk, buildGuideChunks exampleEnvironment request = .ok [chunk] ∧
      chunk.chunkId = name := by
  cases accepted : buildGuideChunks exampleEnvironment request with
  | error refusal =>
      rw [accepted] at seen
      cases seen
  | ok chunks =>
      rw [accepted] at seen
      obtain ⟨chunk, rfl, isName⟩ :=
        List.map_eq_singleton_iff.mp (Except.ok.inj seen)
      exact ⟨chunk, rfl, isName⟩

/-- The name of the chunk of `requestOf`, with the bars of the guide. -/
def nameOf (guide : String) : List Char :=
  ("secai-guide-chunk:00000000-0000-4000-8000-000000000001|" ++ guide ++
    "|aaaaaaaaaaaaaaaaaaaaaaaaaaaaaaaaaaaaaaaaaaaaaaaaaaaaaaaaaaaaaaaa|" ++
    "kisa-2026-pc|1|PC-01|0|" ++
    "ca978112ca1bbdcafac231b39a23dc4da786eff8147c4e72b9807785afee48bb").toList

/-- The chunk of a request repeated is the same one. -/
theorem repeated_request_names_the_same : ∃ one two,
    buildGuideChunks exampleEnvironment (requestOf "kisa" "2026") =
      .ok [one] ∧
    buildGuideChunks exampleEnvironment (requestOf "kisa" "2026") =
      .ok [two] ∧
    one.guideId = two.guideId ∧ one.guideVersion = two.guideVersion := by
  obtain ⟨chunk, accepted, -⟩ := @exists_chunk (requestOf "kisa" "2026")
    (nameOf "kisa|2026") (by decide +kernel)
  obtain ⟨-, guideId, guideVersion, -⟩ := (chunk_ids_identify_iff
    Function.injective_id accepted accepted (List.mem_singleton_self _)
    (List.mem_singleton_self _) rfl).mpr ⟨rfl, rfl⟩
  exact ⟨chunk, chunk, accepted, accepted, guideId, guideVersion⟩

/-- Two guides whose bars stand elsewhere have chunks of one id. -/
theorem bars_make_one_id : ∃ one two,
    Function.Injective exampleEnvironment.uuid5 ∧
    buildGuideChunks exampleEnvironment (requestOf "a|b" "c") = .ok [one] ∧
    buildGuideChunks exampleEnvironment (requestOf "a" "b|c") = .ok [two] ∧
    one.chunkId = two.chunkId ∧ one.guideId ≠ two.guideId := by
  obtain ⟨one, accepted, isName⟩ := @exists_chunk (requestOf "a|b" "c")
    (nameOf "a|b|c") (by decide +kernel)
  obtain ⟨two, acceptedToo, isNameToo⟩ := @exists_chunk (requestOf "a" "b|c")
    (nameOf "a|b|c") (by decide +kernel)
  refine ⟨one, two, Function.injective_id, accepted, acceptedToo,
    isName.trans isNameToo.symm, ?_⟩
  rw [(isChunk_of_mem accepted (List.mem_singleton_self _)).guideId,
    (isChunk_of_mem acceptedToo (List.mem_singleton_self _)).guideId]
  decide

end SecAI.Guides
