/-
Module: SecAI.Platforms.Contracts
Purpose: The result contract that the device checks of every platform share.
Trusted boundary: the hash function and the Unicode database are parameters
Main exports:
  AssessmentStatus, EvidenceFault, safeText, IsSafeText
-/
import SecAI.Common.Values
import SecAI.Text.Characters

namespace SecAI.Platforms

open SecAI.Text

inductive AssessmentStatus where
  | pass
  | fail
  | error
  | review
  | notApplicable
deriving Inhabited, DecidableEq

inductive CollectionStatus where
  | collected
  | error
  | unsupported
deriving Inhabited

/-- What stops a result from being built; each is a `ValueError`. -/
inductive EvidenceFault where
  /-- `PlatformContractError` with its message. -/
  | contract (message : String)
  /-- A whole number has more digits than `str` writes. -/
  | longNumber
  /-- `UnicodeEncodeError`. -/
  | unencodable
deriving DecidableEq

/-- The parts of Python that the contract leaves open.  Hangul has no case. -/
structure Library extends CharacterDatabase where
  /-- `hashlib.sha256(data).hexdigest()`. -/
  sha256 : List UInt8 → List Char
  casefold_hangul : ∀ character : Char, 0xAC00 ≤ character.toNat →
    character.toNat ≤ 0xD7A3 →
    toCharacterDatabase.casefold character = [character]

def invalidText (label : String) : EvidenceFault :=
  .contract (label ++ " 값이 올바르지 않습니다.")

def safeText (value : List Char) (label : String) (maximum : Nat) :
    Except EvidenceFault (List Char) :=
  let normalized := collapse (strip value)
  if normalized = [] ∨ maximum < normalized.length ∨ '\x00' ∈ normalized then
    .error (invalidText label)
  else .ok normalized

def safeLines (value : List Char) (label : String) (maximum : Nat) :
    Except EvidenceFault (List Char) :=
  let joined := ['\n'].intercalate
    (((lines value).filter fun line => strip line ≠ []).map collapse)
  if joined = [] ∨ maximum < joined.length ∨ '\x00' ∈ joined then
    .error (invalidText label)
  else .ok joined

/-- A text that `_safe_text` accepts. -/
def IsSafeText (value : List Char) (maximum : Nat) : Prop :=
  collapse value ≠ [] ∧ (collapse value).length ≤ maximum ∧
    '\x00' ∉ collapse value

instance (value : List Char) (maximum : Nat) :
    Decidable (IsSafeText value maximum) :=
  inferInstanceAs (Decidable (_ ∧ _ ∧ _))

/-- `_safe_text` returns the folded text, for the texts it accepts. -/
theorem safeText_eq_ok {value folded : List Char} {label : String}
    {maximum : Nat} : safeText value label maximum = .ok folded ↔
      IsSafeText value maximum ∧ folded = collapse value := by
  unfold safeText IsSafeText
  rw [collapse_strip]
  simp only
  split
  · next refused =>
      constructor
      · intro done
        cases done
      · rintro ⟨⟨filled, short, clean⟩, _⟩
        rcases refused with empty | long | dirty
        · exact absurd empty filled
        · omega
        · exact absurd dirty clean
  · next accepted =>
      push Not at accepted
      constructor
      · intro done
        cases done
        exact ⟨accepted, rfl⟩
      · rintro ⟨_, rfl⟩
        rfl

theorem isSafeText_of_plain {value : List Char} {maximum : Nat}
    (filled : value.any (!isSpace ·) = true) (short : value.length ≤ maximum)
    (clean : '\x00' ∉ value) : IsSafeText value maximum := by
  refine ⟨?_, (length_collapse_le value).trans short, ?_⟩
  · intro empty
    obtain ⟨character, member, visible⟩ := List.any_eq_true.mp filled
    have kept : isSpace character = false := by simpa using visible
    have inside := (mem_collapse_iff kept).mpr member
    rw [empty] at inside
    exact absurd inside List.not_mem_nil
  · intro inside
    exact clean ((mem_collapse_iff (by decide)).mp inside)

theorem isSafeText_append {first second : List Char} {maximum : Nat}
    (filled : (first.any (!isSpace ·) || second.any (!isSpace ·)) = true)
    (short : first.length + second.length ≤ maximum)
    (cleanFirst : '\x00' ∉ first) (cleanSecond : '\x00' ∉ second) :
    IsSafeText (first ++ second) maximum := by
  apply isSafeText_of_plain
  case filled =>
      rw [List.any_append]
      exact filled
  case short =>
      rw [List.length_append]
      exact short
  case clean =>
      intro member
      rcases List.mem_append.mp member with here | there
      · exact cleanFirst here
      · exact cleanSecond there

def isSafeCode (code : List Char) : Bool :=
  decide (1 ≤ code.length) && decide (code.length ≤ 128) &&
    code.all fun character => character.isUpper || character.isDigit ||
      decide (character ∈ ['_', '.', ':', '-'])

def prohibitedLabels : List (List Char) :=
  [['p', 'a', 's', 's', 'w', 'o', 'r', 'd'], ['s', 'e', 'c', 'r', 'e', 't'],
    ['t', 'o', 'k', 'e', 'n'],
    ['p', 'r', 'i', 'v', 'a', 't', 'e', '_', 'k', 'e', 'y'],
    ['c', 'o', 'o', 'k', 'i', 'e']]

/-- `part in text`. -/
def occursIn (part text : List Char) : Bool :=
  text.tails.any part.isPrefixOf

/-- `text.encode("utf-8")`. -/
def encoded (text : List Char) : List UInt8 :=
  (String.ofList text).toUTF8.toList

def maximumOutput : Nat := 4 * 1024 * 1024

structure EvidenceTrace where
  probeId : List Char
  probeVersion : List Char
  methodCode : List Char
  methodSummary : List Char
  sourceLabel : List Char
  technicalLocator : List Char
  observedSummary : List Char
  collectedAt : DateTime
  collectionStatus : CollectionStatus
  rawOutputSha256 : List Char
  normalizedSha256 : List Char
  redactionApplied : Bool
  normalizedValue : Option (List Char)
deriving Inhabited

/-- The arguments of `EvidenceTrace.build`. -/
structure EvidenceArguments where
  probeId : List Char
  probeVersion : List Char
  methodCode : List Char
  methodSummary : List Char
  sourceLabel : List Char
  technicalLocator : List Char
  observedSummary : List Char
  collectedAt : DateTime
  collectionStatus : CollectionStatus
  rawOutput : List UInt8
  redactionApplied : Bool
  normalizedValue : Option (List Char)

/-- The list that a trace keeps, where there is one that is not empty. -/
def keptLines : Option (List Char) → Except EvidenceFault (Option (List Char))
  | some (first :: rest) => do
      let kept ← safeLines (first :: rest) "정규화 확인 목록" 20000
      return some kept
  | _ => return none

def EvidenceTrace.build (library : Library) (given : EvidenceArguments) :
    Except EvidenceFault EvidenceTrace := do
  let summary ← safeText given.observedSummary "비식별 확인값" 2000
  if !isSafeCode given.methodCode then
    throw (.contract "확인 방법 코드가 올바르지 않습니다.")
  let label := casefold library.toCharacterDatabase given.sourceLabel
  if prohibitedLabels.any (occursIn · label) then
    throw (.contract "민감한 증적 이름은 표시할 수 없습니다.")
  if maximumOutput < given.rawOutput.length then
    throw (.contract "원문 증적이 허용 크기를 초과했습니다.")
  let probeId ← safeText given.probeId "Probe" 128
  let probeVersion ← safeText given.probeVersion "Probe 버전" 32
  let methodSummary ← safeText given.methodSummary "확인 방법" 400
  let sourceLabel ← safeText given.sourceLabel "확인 위치" 200
  let technicalLocator ← safeText given.technicalLocator "기술 확인 위치" 400
  let normalizedValue ← keptLines given.normalizedValue
  return {
    probeId := probeId
    probeVersion := probeVersion
    methodCode := given.methodCode
    methodSummary := methodSummary
    sourceLabel := sourceLabel
    technicalLocator := technicalLocator
    observedSummary := summary
    collectedAt := given.collectedAt
    collectionStatus := given.collectionStatus
    rawOutputSha256 := library.sha256 given.rawOutput
    normalizedSha256 := library.sha256 (encoded summary)
    redactionApplied := given.redactionApplied
    normalizedValue := normalizedValue }

/-- The arguments whose fixed parts `EvidenceTrace.build` accepts: only the
summary and the size of the output are left to check. -/
structure EvidenceArguments.FixedPartsAreSafe (library : Library)
    (given : EvidenceArguments) : Prop where
  code : isSafeCode given.methodCode = true
  label : prohibitedLabels.any
    (occursIn · (casefold library.toCharacterDatabase given.sourceLabel)) =
      false
  probe : IsSafeText given.probeId 128
  version : IsSafeText given.probeVersion 32
  method : IsSafeText given.methodSummary 400
  source : IsSafeText given.sourceLabel 200
  locator : IsSafeText given.technicalLocator 400
  noList : given.normalizedValue = none

/-- When such a trace is built, and with which summary. -/
theorem EvidenceTrace.build_iff {library : Library}
    {given : EvidenceArguments} (fixed : given.FixedPartsAreSafe library) :
    (∃ trace, EvidenceTrace.build library given = .ok trace) ↔
      IsSafeText given.observedSummary 2000 ∧
        given.rawOutput.length ≤ maximumOutput := by
  have accepted : ∀ {value : List Char} {label : String} {maximum : Nat},
      IsSafeText value maximum →
      safeText value label maximum = .ok (collapse value) := by
    intro value label maximum safe
    exact safeText_eq_ok.mpr ⟨safe, rfl⟩
  unfold EvidenceTrace.build
  simp only [accepted fixed.probe, accepted fixed.version,
    accepted fixed.method, accepted fixed.source, accepted fixed.locator,
    fixed.code, fixed.label, fixed.noList, keptLines]
  constructor
  · rintro ⟨trace, built⟩
    by_cases safe : IsSafeText given.observedSummary 2000
    case pos =>
        refine ⟨safe, ?_⟩
        by_contra large
        rw [accepted safe] at built
        simp only [Bool.not_true, Bool.false_eq_true, ↓reduceIte,
          Nat.not_le.mp large] at built
        cases built
    case neg =>
        cases outcome : safeText given.observedSummary "비식별 확인값" 2000 with
        | ok summary => exact absurd (safeText_eq_ok.mp outcome).1 safe
        | error fault =>
            rw [outcome] at built
            cases built
  · rintro ⟨safe, small⟩
    rw [accepted safe]
    simp only [Bool.not_true, Bool.false_eq_true, ↓reduceIte,
      Nat.not_lt.mpr small]
    exact ⟨_, rfl⟩

structure DeviceControlResult where
  controlId : List Char
  title : List Char
  status : AssessmentStatus
  resultCode : List Char
  expectedSummary : List Char
  observedSummary : List Char
  actionGuidance : List Char
  evidence : List EvidenceTrace
deriving Inhabited

end SecAI.Platforms
