/-
Module: SecAI.Platforms.SwitchDirectives
Purpose: The baseline of a Cisco IOS or Aruba AOS-CX switch, and how far its
  patterns see what the lines of a running configuration say.
Trusted boundary: the hash function and the Unicode database are parameters
Main exports:
  switchFacts, evaluateSwitchBaseline, directives, mem_directives_iff
-/
import SecAI.Text.PatternMatches
import SecAI.Text.Utf8
import SecAI.Platforms.Fingerprints

namespace SecAI.Platforms

open SecAI.Text

/-- `ReadOnlyCommand`: the identifier of a command, and its parts. -/
structure ReadOnlyCommand where
  commandId : String
  command : List String
deriving DecidableEq

/-- `SwitchAdapter`, with the commands of its plan. -/
structure SwitchAdapter where
  commands : List ReadOnlyCommand
  runningConfigCommandId : String

def ciscoIos : SwitchAdapter :=
  { commands := [
      ⟨"cisco.show-version", ["show version"]⟩,
      ⟨"cisco.running-config", ["show running-config"]⟩,
      ⟨"cisco.logging", ["show logging"]⟩,
      ⟨"cisco.ntp", ["show ntp associations"]⟩]
    runningConfigCommandId := "cisco.running-config" }

def arubaAosCx : SwitchAdapter :=
  { commands := [
      ⟨"aruba.show-version", ["show version"]⟩,
      ⟨"aruba.running-config", ["show running-config"]⟩,
      ⟨"aruba.logging", ["show logging"]⟩,
      ⟨"aruba.ntp", ["show ntp associations"]⟩]
    runningConfigCommandId := "aruba.running-config" }

def adapterFor (platform : String) : Except EvidenceFault SwitchAdapter :=
  if platform = "CISCO_IOS" then .ok ciscoIos
  else if platform = "ARUBA_AOS_CX" then .ok arubaAosCx
  else .error (.contract "지원하지 않는 스위치 운영체제입니다.")

/-- `ReadOnlyCommandPlan.command`. -/
def SwitchAdapter.command (adapter : SwitchAdapter) (commandId : String) :
    Except EvidenceFault ReadOnlyCommand :=
  match adapter.commands.filter (·.commandId = commandId) with
  | [command] => .ok command
  | _ => .error (.contract "허용 목록에 없는 확인 명령입니다.")

/-- `\s`, `\S` and `\d` in the patterns, and the words of a command. -/
def blanks (atLeast : Nat) : Pattern := .many isSpace atLeast none

def solids : Pattern := .many (!isSpace ·) 1 none

def decimals (library : Library) (atMost : Option Nat) : Pattern :=
  .many (library.decimal · |>.isSome) 1 atMost

def spelled (text : String) : Pattern := .literalIgnoringCase text

/-- `\d{1,3}(?:\.\d{1,3}){3}`. -/
def addressPattern (library : Library) : Pattern :=
  let number := decimals library (some 3)
  .sequence [number, spelled ".", number, spelled ".", number, spelled ".",
    number]

/-- A line that begins with the parts, behind its blanks. -/
def linePattern (parts : List Pattern) : Pattern :=
  .sequence (.lineStart :: blanks 0 :: parts)

/-- A row of `facts`. -/
structure SwitchFact where
  controlId : String
  title : String
  pattern : Pattern
  expected : String

/-- `^\s*ntp server\s+\S+`. -/
def ntpFact : SwitchFact :=
  { controlId := "SW-05"
    title := "시각 동기화"
    pattern := linePattern [spelled "ntp server", blanks 1, solids]
    expected := "NTP 서버 설정" }

/-- `^\s*transport input\s+ssh(?:\s|$)`. -/
def transportPattern : Pattern :=
  linePattern [spelled "transport input", blanks 1, spelled "ssh",
    .alt (.one isSpace) .lineEnd]

/-- `^\s*session-timeout\s+\d+`. -/
def sessionTimeoutPattern (library : Library) : Pattern :=
  linePattern [spelled "session-timeout", blanks 1, decimals library none]

/-- `facts` of Cisco IOS. -/
def ciscoFacts (library : Library) : List SwitchFact :=
  [ { controlId := "SW-01"
      title := "관리자 인증 보호"
      pattern := linePattern [spelled "enable secret", blanks 1, solids]
      expected := "enable secret 설정" },
    { controlId := "SW-02"
      title := "원격 관리 SSH 사용"
      pattern := transportPattern
      expected := "VTY SSH 전용" },
    { controlId := "SW-03"
      title := "안전한 SNMP 설정"
      pattern := linePattern [spelled "snmp-server", blanks 1,
        .alt
          (.sequence [spelled "group", blanks 1, solids, blanks 1,
            spelled "v3"])
          (.sequence [spelled "user", blanks 1, solids, blanks 1, solids,
            blanks 1, spelled "v3"])]
      expected := "SNMPv3 구성" },
    { controlId := "SW-04"
      title := "원격 로그 전송"
      pattern := linePattern [.alt (spelled "logging host") (spelled "logging"),
        blanks 1, addressPattern library]
      expected := "원격 로그 서버 설정" },
    ntpFact,
    { controlId := "SW-06"
      title := "암호화된 비밀번호 저장"
      pattern := linePattern [spelled "service password-encryption", blanks 0,
        .lineEnd]
      expected := "비밀번호 암호화 서비스" } ]

/-- `facts` of Aruba AOS-CX. -/
def arubaFacts (library : Library) : List SwitchFact :=
  [ { controlId := "SW-01"
      title := "관리자 인증 보호"
      pattern := linePattern [spelled "user", blanks 1, solids, blanks 1,
        spelled "group", blanks 1, spelled "administrators", blanks 1,
        spelled "password", blanks 1, spelled "ciphertext", blanks 1, solids]
      expected := "관리자 암호문 저장" },
    { controlId := "SW-02"
      title := "원격 관리 SSH 사용"
      pattern := linePattern [spelled "ssh server vrf", blanks 1, solids]
      expected := "SSH 서버 설정" },
    { controlId := "SW-03"
      title := "안전한 SNMP 설정"
      pattern := linePattern [spelled "snmpv3", blanks 1, spelled "user",
        blanks 1, solids]
      expected := "SNMPv3 사용자 구성" },
    { controlId := "SW-04"
      title := "원격 로그 전송"
      pattern := linePattern [spelled "logging", blanks 1,
        addressPattern library]
      expected := "원격 로그 서버 설정" },
    ntpFact,
    { controlId := "SW-06"
      title := "관리 세션 시간 제한"
      pattern := sessionTimeoutPattern library
      expected := "관리 세션 시간 제한" } ]

def switchFacts (library : Library) (platform : String) : List SwitchFact :=
  if platform = "CISCO_IOS" then ciscoFacts library else arubaFacts library

/-- `passed`; nothing is known without a configuration. -/
def switchPassed (raw : Option (List UInt8)) (pattern : Pattern) :
    Option Bool :=
  raw.map fun bytes => pattern.occursIn (decodeReplacing bytes)

def switchObserved : Option Bool → String
  | some true => "필요한 보안 설정을 확인했습니다."
  | some false => "필요한 보안 설정을 확인하지 못했습니다."
  | none => "실행 중인 구성을 읽지 못했습니다."

def switchStatus : Option Bool → AssessmentStatus
  | some true => .pass
  | some false => .fail
  | none => .error

def switchSuffix : Option Bool → String
  | some true => "COMPLIANT"
  | some false => "NON_COMPLIANT"
  | none => "COLLECTION_FAILED"

def switchEvidence (library : Library) (adapter : SwitchAdapter)
    (output : Option (List UInt8)) (summary : String) (capturedAt : DateTime) :
    Except EvidenceFault EvidenceTrace := do
  let command ← adapter.command adapter.runningConfigCommandId
  EvidenceTrace.build library
    { probeId := adapter.runningConfigCommandId.toList
      probeVersion := "1.0.0".toList
      methodCode := "NETWORK_CLI_FIXED_COMMAND".toList
      methodSummary :=
        "고정된 네트워크 장비 조회 명령으로 적용 구성을 확인합니다.".toList
      sourceLabel := "실행 중인 스위치 구성".toList
      technicalLocator := (command.command.headD "").toList
      observedSummary := summary.toList
      collectedAt := capturedAt
      collectionStatus := if output.isSome then .collected else .error
      rawOutput := output.getD []
      redactionApplied := true
      normalizedValue := none }

/-- One pass of the loop of `evaluate_switch_baseline`. -/
def switchResult (library : Library) (adapter : SwitchAdapter)
    (raw : Option (List UInt8)) (capturedAt : DateTime) (fact : SwitchFact) :
    Except EvidenceFault DeviceControlResult := do
  let passed := switchPassed raw fact.pattern
  let trace ← switchEvidence library adapter raw (switchObserved passed)
    capturedAt
  return {
    controlId := fact.controlId.toList
    title := fact.title.toList
    status := switchStatus passed
    resultCode := fact.controlId.toList.map
        (fun character => if character = '-' then '_' else character) ++
      ['_'] ++ (switchSuffix passed).toList
    expectedSummary := fact.expected.toList
    observedSummary := (switchObserved passed).toList
    actionGuidance := ("현재 관리 접속 경로를 보존한 상태에서 제조사 절차에 따라 " ++
      "설정을 검토하세요.").toList
    evidence := [trace] }

def evaluateSwitchBaseline (library : Library) (platform : String)
    (outputs : String → Option (List UInt8)) (capturedAt : DateTime) :
    Except EvidenceFault (List DeviceControlResult) := do
  let adapter ← adapterFor platform
  let raw := outputs adapter.runningConfigCommandId
  (switchFacts library platform).mapM
    (switchResult library adapter raw capturedAt)

section Returns

variable {library : Library} {adapter : SwitchAdapter}
  {raw : Option (List UInt8)} {capturedAt : DateTime}

theorem switchObserved_isSafe (passed : Option Bool) :
    IsSafeText (switchObserved passed).toList 2000 := by
  have all : ∀ known ∈ [some true, some false, none],
      IsSafeText (switchObserved known).toList 2000 := by
    decide
  refine all passed ?_
  cases passed with
  | none => simp
  | some known => cases known <;> simp

/-- The trace of a control has nothing that is refused but the size of its
output. -/
theorem switchEvidence_returns_iff (known : adapter = ciscoIos ∨
    adapter = arubaAosCx) (passed : Option Bool) :
    (∃ trace, switchEvidence library adapter raw (switchObserved passed)
      capturedAt = .ok trace) ↔ (raw.getD []).length ≤ maximumOutput := by
  have label : "실행 중인 스위치 구성".toList.all foldsPlainly = true ∧
      prohibitedLabels.any (occursIn ·
        ("실행 중인 스위치 구성".toList.map foldedPlainly)) = false := by
    decide
  have texts : isSafeCode "NETWORK_CLI_FIXED_COMMAND".toList = true ∧
      IsSafeText "1.0.0".toList 32 ∧
      IsSafeText
        "고정된 네트워크 장비 조회 명령으로 적용 구성을 확인합니다.".toList 400 ∧
      IsSafeText "실행 중인 스위치 구성".toList 200 ∧
      IsSafeText "show running-config".toList 400 := by
    decide
  have found : ∃ command, adapter.command adapter.runningConfigCommandId =
        .ok command ∧ command.command.headD "" = "show running-config" ∧
      IsSafeText adapter.runningConfigCommandId.toList 128 := by
    rcases known with rfl | rfl
    · exact ⟨⟨"cisco.running-config", ["show running-config"]⟩,
        by decide⟩
    · exact ⟨⟨"aruba.running-config", ["show running-config"]⟩,
        by decide⟩
  obtain ⟨command, isCommand, locator, probe⟩ := found
  obtain ⟨code, version, method, source, located⟩ := texts
  rw [switchEvidence, isCommand, Outcome.ok_bind, EvidenceTrace.build_iff]
  · exact and_iff_right (switchObserved_isSafe passed)
  · constructor
    case code => exact code
    case label =>
      have folded := casefold_plainly library label.1
      change prohibitedLabels.any (occursIn · (casefold
        library.toCharacterDatabase "실행 중인 스위치 구성".toList)) = false
      rw [folded]
      exact label.2
    case probe => exact probe
    case version => exact version
    case method => exact method
    case source => exact source
    case locator =>
      rw [locator]
      exact located
    case noList => rfl

theorem switchResult_says {fact : SwitchFact} {result : DeviceControlResult}
    (evaluated : switchResult library adapter raw capturedAt fact =
      .ok result) :
    result.controlId = fact.controlId.toList ∧
      result.status = switchStatus (switchPassed raw fact.pattern) := by
  rw [switchResult] at evaluated
  obtain ⟨trace, _, done⟩ := Outcome.bind_eq_ok.mp evaluated
  cases done
  exact ⟨rfl, rfl⟩

theorem switchStatus_eq_pass_iff {passed : Option Bool} :
    switchStatus passed = .pass ↔ passed = some true := by
  cases passed with
  | none => exact iff_of_false nofun nofun
  | some known => cases known <;> decide

end Returns

def Passes (controlId : String) (results : List DeviceControlResult) : Prop :=
  ∃ result ∈ results, result.controlId = controlId.toList ∧
    result.status = .pass

/-- A control is passed exactly if what is looked for is found. -/
theorem passes_iff {library : Library} {platform : String}
    {adapter : SwitchAdapter} {outputs : String → Option (List UInt8)}
    {capturedAt : DateTime} {results : List DeviceControlResult}
    (chosen : adapterFor platform = .ok adapter)
    (evaluated : evaluateSwitchBaseline library platform outputs capturedAt =
      .ok results) (controlId : String) :
    Passes controlId results ↔
      ∃ fact ∈ switchFacts library platform, fact.controlId = controlId ∧
        switchPassed (outputs adapter.runningConfigCommandId) fact.pattern =
          some true := by
  rw [evaluateSwitchBaseline, chosen, Outcome.ok_bind] at evaluated
  have inOrder := Outcome.mapM_eq_ok.mp evaluated
  rw [Passes]
  generalize switchFacts library platform = facts at inOrder
  clear evaluated
  induction inOrder with
  | nil => exact iff_of_false nofun nofun
  | cons here _ ih =>
      obtain ⟨identifier, status⟩ := switchResult_says here
      simp only [List.exists_mem_cons_iff, identifier, status,
        switchStatus_eq_pass_iff, String.toList_inj, ih]

/-- Results are returned exactly for outputs of a size that traces take. -/
theorem switchBaseline_returns_iff {library : Library} {platform : String}
    {adapter : SwitchAdapter} {outputs : String → Option (List UInt8)}
    {capturedAt : DateTime} (chosen : adapterFor platform = .ok adapter) :
    (∃ results, evaluateSwitchBaseline library platform outputs capturedAt =
        .ok results) ↔
      ((outputs adapter.runningConfigCommandId).getD []).length ≤
        maximumOutput := by
  have known : adapter = ciscoIos ∨ adapter = arubaAosCx := by
    rw [adapterFor] at chosen
    split at chosen
    · cases chosen
      exact .inl rfl
    split at chosen
    · cases chosen
      exact .inr rfl
    · cases chosen
  have one : ∀ fact : SwitchFact,
      (∃ result, switchResult library adapter
        (outputs adapter.runningConfigCommandId) capturedAt fact =
          .ok result) ↔
      ((outputs adapter.runningConfigCommandId).getD []).length ≤
        maximumOutput := by
    intro fact
    have traced : (∃ trace, switchEvidence library adapter
          (outputs adapter.runningConfigCommandId)
          (switchObserved (switchPassed
            (outputs adapter.runningConfigCommandId) fact.pattern))
          capturedAt = .ok trace) ↔ _ :=
      switchEvidence_returns_iff known _
    rw [← traced, switchResult]
    constructor
    case mp =>
      rintro ⟨result, done⟩
      obtain ⟨trace, traced, _⟩ := Outcome.bind_eq_ok.mp done
      exact ⟨trace, traced⟩
    case mpr =>
      rintro ⟨trace, traced⟩
      exact ⟨_, Outcome.bind_eq_ok.mpr ⟨trace, traced, rfl⟩⟩
  rw [evaluateSwitchBaseline, chosen, Outcome.ok_bind]
  constructor
  case mp =>
    rintro ⟨results, done⟩
    have filled : ntpFact ∈ switchFacts library platform := by
      rw [switchFacts]
      split <;> simp [ciscoFacts, arubaFacts]
    obtain ⟨result, _, returns⟩ :=
      Outcome.related_of_mem (Outcome.mapM_eq_ok.mp done) filled
    exact (one ntpFact).mp ⟨result, returns⟩
  case mpr =>
    intro small
    choose result returns using fun fact => (one fact).mpr small
    exact ⟨_, Outcome.mapM_of_forall fun fact _ => returns fact⟩

/-! ## The lines of a configuration -/

def behindBreaks : List Char → List (List Char)
  | [] => []
  | character :: rest =>
      if character = '\n' then rest :: behindBreaks rest
      else behindBreaks rest

def lineStarts (text : List Char) : List (List Char) :=
  text :: behindBreaks text

def BeginsLine (before : List Char) : Prop :=
  before.getLast?.all (· = '\n') = true

theorem mem_behindBreaks_iff {line : List Char} :
    ∀ {text : List Char}, line ∈ behindBreaks text ↔
      ∃ left, text = left ++ '\n' :: line
  | [] => by
      rw [behindBreaks]
      exact iff_of_false List.not_mem_nil fun ⟨left, whole⟩ =>
        List.append_ne_nil_of_right_ne_nil left (List.cons_ne_nil _ _)
          whole.symm
  | character :: rest => by
      have later : line ∈ behindBreaks rest ↔
          ∃ left, rest = left ++ '\n' :: line :=
        mem_behindBreaks_iff
      -- The break is the first character, or it stands behind it.
      have split : (∃ left, character :: rest = left ++ '\n' :: line) ↔
          (character = '\n' ∧ rest = line) ∨
            ∃ left, rest = left ++ '\n' :: line := by
        constructor
        case mp =>
          rintro ⟨left, whole⟩
          cases left with
          | nil => exact .inl (List.cons_eq_cons.mp whole)
          | cons first left =>
              exact .inr ⟨left, (List.cons_eq_cons.mp whole).2⟩
        case mpr =>
          rintro (⟨rfl, rfl⟩ | ⟨left, rfl⟩)
          · exact ⟨[], rfl⟩
          · exact ⟨character :: left, rfl⟩
      rw [split, behindBreaks]
      split
      · next breaks =>
          rw [List.mem_cons, later]
          simp only [breaks, true_and, eq_comm]
      · next continues =>
          rw [later]
          simp only [continues, false_and, false_or]

variable {text : List Char}

theorem mem_lineStarts_iff {line : List Char} :
    line ∈ lineStarts text ↔ ∃ left, text = left ++ line ∧ BeginsLine left := by
  rw [lineStarts, List.mem_cons, mem_behindBreaks_iff]
  constructor
  case mp =>
    rintro (rfl | ⟨left, rfl⟩)
    · exact ⟨[], rfl, rfl⟩
    · refine ⟨left ++ ['\n'], ?_, ?_⟩
      · rw [List.append_assoc, List.singleton_append]
      · rw [BeginsLine, List.getLast?_concat]
        rfl
  case mpr =>
    rintro ⟨left, rfl, begins⟩
    induction left using List.reverseRecOn with
    | nil => exact .inl rfl
    | append_singleton left last _ =>
        rw [BeginsLine, List.getLast?_concat] at begins
        refine .inr ⟨left, ?_⟩
        rw [List.append_assoc, List.singleton_append,
          of_decide_eq_true begins]

/-! ## Directives -/

/-- The characters of a keyword, whatever their case. -/
def Spells (keyword word : List Char) : Prop :=
  List.Forall₂ (fun expected character =>
    ignoringCase expected character = true) keyword word

def behindKeyword : List Char → List Char → Option (List Char)
  | [], text => some text
  | _ :: _, [] => none
  | expected :: keyword, character :: text =>
      if ignoringCase expected character then behindKeyword keyword text
      else none

def isIndent (character : Char) : Bool :=
  isSpace character && decide (character ≠ '\n')

/-- What stands behind the keyword of the lines that begin with it. -/
def directives (keyword config : List Char) : List (List Char) :=
  ((lineStarts config).filterMap fun line =>
    behindKeyword keyword (line.dropWhile isIndent)).filter
      fun behind => behind.head?.all isSpace

def argumentsOf (behind : List Char) : List (List Char) :=
  words (behind.takeWhile (· ≠ '\n'))

variable {behind : List Char}

theorem behindKeyword_eq_some_iff :
    ∀ {keyword text : List Char},
      behindKeyword keyword text = some behind ↔
        ∃ word, text = word ++ behind ∧ Spells keyword word
  | [], text => by
      rw [behindKeyword, Option.some_inj]
      constructor
      case mp => exact fun same => ⟨[], same, .nil⟩
      case mpr =>
        rintro ⟨word, rfl, spells⟩
        rw [Spells, List.forall₂_nil_left_iff] at spells
        rw [spells, List.nil_append]
  | expected :: keyword, [] => by
      rw [behindKeyword]
      refine iff_of_false nofun ?_
      rintro ⟨word, empty, spells⟩
      rw [(List.append_eq_nil_iff.mp empty.symm).1] at spells
      cases spells
  | expected :: keyword, character :: text => by
      rw [behindKeyword]
      constructor
      case mp =>
        intro found
        split at found
        · next same =>
            obtain ⟨word, rfl, spells⟩ := behindKeyword_eq_some_iff.mp found
            exact ⟨character :: word, rfl, .cons same spells⟩
        · cases found
      case mpr =>
        rintro ⟨word, whole, spells⟩
        cases spells with
        | cons same later =>
            obtain ⟨rfl, rfl⟩ := List.cons_eq_cons.mp whole
            rw [if_pos same]
            exact behindKeyword_eq_some_iff.mpr ⟨_, rfl, later⟩

/-- A keyword begins with a character that is never taken for a blank. -/
def BeginsVisibly (keyword : List Char) : Prop :=
  ∃ expected later, keyword = expected :: later ∧
    ∀ character, ignoringCase expected character = true →
      isSpace character = false

variable {config : List Char}

/-- The directives of a configuration stand behind the indent of a line. -/
theorem mem_directives_iff {keyword : List Char}
    (visible : BeginsVisibly keyword) :
    behind ∈ directives keyword config ↔
      ∃ left indent word, config = left ++ (indent ++ (word ++ behind)) ∧
        BeginsLine left ∧ (∀ character ∈ indent, isIndent character = true) ∧
        Spells keyword word ∧ behind.head?.all isSpace = true := by
  rw [directives, List.mem_filter, List.mem_filterMap]
  constructor
  case mp =>
    rintro ⟨⟨line, isLine, found⟩, ends⟩
    obtain ⟨left, rfl, begins⟩ := mem_lineStarts_iff.mp isLine
    obtain ⟨word, whole, spells⟩ := behindKeyword_eq_some_iff.mp found
    refine ⟨left, line.takeWhile isIndent, word, ?_, begins, ?_, spells, ends⟩
    · rw [← whole, List.takeWhile_append_dropWhile]
    · exact fun character inIndent => List.mem_takeWhile_imp inIndent
  case mpr =>
    rintro ⟨left, indent, word, rfl, begins, blank, spells, ends⟩
    refine ⟨⟨_, mem_lineStarts_iff.mpr ⟨left, rfl, begins⟩, ?_⟩, ends⟩
    obtain ⟨expected, later, rfl, never⟩ := visible
    cases spells with
    | cons same rest =>
        next character word =>
        have kept : isIndent character = false := by
          rw [isIndent, never character same, Bool.false_and]
        rw [List.dropWhile_append_of_pos blank, List.cons_append,
          List.dropWhile_cons, kept, if_neg Bool.false_ne_true,
          ← List.cons_append]
        exact behindKeyword_eq_some_iff.mpr ⟨_, rfl, .cons same rest⟩

/-! ## What a pattern of a line finds -/

/-- Blanks end with the indent of a line. -/
theorem exists_indent : ∀ blank : List Char,
    (∀ character ∈ blank, isSpace character = true) →
    ∃ earlier indent, blank = earlier ++ indent ∧
      (earlier = [] ∨ earlier.getLast? = some '\n') ∧
      ∀ character ∈ indent, isIndent character = true := by
  intro blank
  induction blank using List.reverseRecOn with
  | nil => exact fun _ => ⟨[], [], rfl, .inl rfl, nofun⟩
  | append_singleton blank last ih =>
      intro spaces
      have isBlank : isSpace last = true := spaces last (by simp)
      by_cases breaks : last = '\n'
      case pos =>
        refine ⟨blank ++ [last], [], (List.append_nil _).symm, .inr ?_, nofun⟩
        rw [List.getLast?_concat, breaks]
      case neg =>
        obtain ⟨earlier, indent, rfl, ends, isIndented⟩ :=
          ih fun character inBlank =>
            spaces character (List.mem_append_left _ inBlank)
        refine ⟨earlier, indent ++ [last], List.append_assoc .., ends, ?_⟩
        intro character member
        rcases List.mem_append.mp member with inIndent | isLast
        · exact isIndented character inIndent
        · rw [List.mem_singleton.mp isLast, isIndent, isBlank, Bool.true_and]
          exact decide_eq_true breaks

/-- A pattern for a line with a keyword finds what it looks for behind the
blanks of one of the directives, on the same line or on a later one. -/
theorem linePattern_occursIn_iff {keyword : String} {part : Pattern}
    {parts : List Pattern} (visible : BeginsVisibly keyword.toList) :
    (linePattern (spelled keyword :: blanks 1 :: part :: parts)).occursIn
        config = true ↔
      ∃ behind ∈ directives keyword.toList config, ∃ space front after,
        behind = space ++ (front ++ after) ∧ space ≠ [] ∧
          (∀ character ∈ space, isSpace character = true) ∧
          (Pattern.sequence (part :: parts)).Takes space.getLast? front
            after := by
  rw [Pattern.occursIn_iff_takes]
  constructor
  case mp =>
    rintro ⟨left, _, after, rfl, _, _, rfl, ⟨rfl, begins⟩,
      blank, _, rfl, ⟨isBlank, _, _⟩,
      word, _, rfl, spells, space, front, rfl, ⟨isSpaces, some, _⟩, takes⟩
    -- The blanks may run over line breaks: the last one begins the line.
    obtain ⟨earlier, indent, rfl, ends, isIndented⟩ :=
      exists_indent blank isBlank
    have filled : space ≠ [] := List.ne_nil_of_length_pos some
    refine ⟨space ++ (front ++ after), ?_, space, front, after, rfl, filled,
      isSpaces, ?_⟩
    · refine (mem_directives_iff visible).mpr ⟨left ++ earlier, indent, word,
        ?_, ?_, isIndented, Pattern.takes_literal.mp spells, ?_⟩
      · simp only [List.nil_append, List.append_assoc]
      · rcases ends with rfl | last
        · rw [List.append_nil]
          exact begins
        · rw [BeginsLine, List.getLast?_append, last]
          rfl
      · obtain ⟨character, rest, rfl⟩ := List.exists_cons_of_ne_nil filled
        exact isSpaces character List.mem_cons_self
    · rw [List.getLast?_eq_some_getLast filled, Option.some_or] at takes
      rw [List.getLast?_eq_some_getLast filled]
      exact takes
  case mpr =>
    rintro ⟨behind, member, space, front, after, rfl, filled, isSpaces, takes⟩
    obtain ⟨left, indent, word, rfl, begins, isIndented, spells, _⟩ :=
      (mem_directives_iff visible).mp member
    refine ⟨left, indent ++ (word ++ (space ++ front)), after, ?_, [], _, rfl,
      ⟨rfl, begins⟩, indent, _, rfl, ⟨?_, Nat.zero_le _, nofun⟩, word, _, rfl,
      Pattern.takes_literal.mpr spells, space, front, rfl,
      ⟨isSpaces, List.length_pos_of_ne_nil filled, nofun⟩, ?_⟩
    · simp only [List.append_assoc]
    · intro character inIndent
      have indented := isIndented character inIndent
      rw [isIndent, Bool.and_eq_true] at indented
      exact indented.1
    · rw [List.getLast?_eq_some_getLast filled, Option.some_or]
      rw [List.getLast?_eq_some_getLast filled] at takes
      exact takes

/-! ## Words -/

def firstWord (text : List Char) : List Char :=
  (text.dropWhile isSpace).takeWhile (!isSpace ·)

variable {word : List Char}

theorem firstWord_append {space after : List Char}
    (isSpaces : ∀ character ∈ space, isSpace character = true)
    (letters : ∀ character ∈ word, isSpace character = false)
    (filled : word ≠ []) (ends : after.head?.all isSpace = true) :
    firstWord (space ++ (word ++ after)) = word := by
  have visible : ∀ character ∈ word, (!isSpace character) = true := by
    intro character inWord
    rw [letters character inWord]
    rfl
  have stops : after.takeWhile (!isSpace ·) = [] := by
    cases after with
    | nil => rfl
    | cons character after =>
        rw [List.takeWhile_cons_of_neg]
        rw [show isSpace character = true from ends]
        exact Bool.false_ne_true
  obtain ⟨character, word, rfl⟩ := List.exists_cons_of_ne_nil filled
  rw [firstWord, List.dropWhile_append_of_pos isSpaces, List.cons_append,
    List.dropWhile_cons_of_neg, ← List.cons_append,
    List.takeWhile_append_of_pos visible, stops, List.append_nil]
  rw [letters character List.mem_cons_self]
  exact Bool.false_ne_true

/-- A text begins with blanks and its first word. -/
theorem firstWord_splits (text : List Char) :
    ∃ space after, text = space ++ (firstWord text ++ after) ∧
      (∀ character ∈ space, isSpace character = true) ∧
      (∀ character ∈ firstWord text, isSpace character = false) ∧
      after.head?.all isSpace = true ∧
      (firstWord text = [] → after = []) := by
  refine ⟨text.takeWhile isSpace,
    (text.dropWhile isSpace).dropWhile (!isSpace ·), ?_, ?_, ?_, ?_, ?_⟩
  · rw [firstWord, List.takeWhile_append_dropWhile,
      List.takeWhile_append_dropWhile]
  · exact fun character member => List.mem_takeWhile_imp member
  · intro character member
    simpa using List.mem_takeWhile_imp member
  · have stops := List.head?_dropWhile_not (!isSpace ·)
      (text.dropWhile isSpace)
    split at stops
    · next character isHead =>
        rw [isHead]
        simpa using stops
    · next none =>
        rw [none]
        rfl
  · intro empty
    cases rest : text.dropWhile isSpace with
    | nil => rfl
    | cons character later =>
        have visible := List.head?_dropWhile_not isSpace text
        rw [rest] at visible
        rw [firstWord, rest, List.takeWhile_cons_of_pos
          (by simpa using visible)] at empty
        cases empty

/-- The words of a text begin with its first word. -/
theorem firstWord_of_words {others : List (List Char)}
    (read : words text = word :: others) : firstWord text = word := by
  obtain ⟨space, after, whole, isSpaces, letters, ends, nothing⟩ :=
    firstWord_splits text
  have same : words text = words (firstWord text ++ after) := by
    conv => lhs; rw [whole]
    exact words_append_of_forall_space _ isSpaces
  rw [read] at same
  by_cases filled : firstWord text = []
  case pos =>
    rw [filled, nothing filled] at same
    cases same
  case neg =>
    cases after with
    | nil =>
        rw [List.append_nil, words_of_forall_not_space filled letters] at same
        exact (List.cons_eq_cons.mp same).1.symm
    | cons character after =>
        rw [words_append_space _ _ ends,
          words_of_forall_not_space filled letters] at same
        exact (List.cons_eq_cons.mp same).1.symm

/-- The first argument of a line is the first word behind its keyword. -/
theorem firstWord_of_argumentsOf {others : List (List Char)}
    (read : argumentsOf behind = word :: others) :
    firstWord behind = word := by
  have first := firstWord_of_words read
  have filled : word ≠ [] :=
    (mem_words (by rw [argumentsOf] at read; rw [read]; simp)).1
  obtain ⟨space, after, whole, isSpaces, letters, ends, -⟩ :=
    firstWord_splits (behind.takeWhile (· ≠ '\n'))
  rw [first] at whole letters
  have split : behind = space ++ (word ++
      (after ++ behind.dropWhile (· ≠ '\n'))) := by
    conv => lhs; rw [← List.takeWhile_append_dropWhile
      (p := (· ≠ '\n')) (l := behind), whole]
    simp only [List.append_assoc]
  rw [split]
  refine firstWord_append isSpaces letters filled ?_
  cases after with
  | cons character after => exact ends
  | nil =>
      -- What stands behind the line is its break.
      have stops := List.head?_dropWhile_not (· ≠ '\n') behind
      rw [List.nil_append]
      split at stops
      · next character isHead =>
          rw [isHead]
          have breaks : character = '\n' := by simpa using stops
          rw [breaks]
          rfl
      · next none =>
          rw [none]
          rfl

/-! ## SSH alone -/

def transportKeyword : List Char :=
  "transport input".toList

def namesSsh (word : List Char) : Bool :=
  decide (behindKeyword "ssh".toList word = some [])

/-- A line allows SSH, and nothing else. -/
def AllowsSshAlone (behind : List Char) : Prop :=
  argumentsOf behind ≠ [] ∧
    ∀ argument ∈ argumentsOf behind, namesSsh argument = true

/-- A configuration allows SSH, and nothing else on any of its lines. -/
def SshOnly (config : List Char) : Prop :=
  directives transportKeyword config ≠ [] ∧
    ∀ behind ∈ directives transportKeyword config, AllowsSshAlone behind

def NamesSshFirst (behind : List Char) : Prop :=
  namesSsh (firstWord behind) = true

instance (behind : List Char) : Decidable (AllowsSshAlone behind) :=
  inferInstanceAs (Decidable (_ ∧ _))

instance (config : List Char) : Decidable (SshOnly config) :=
  inferInstanceAs (Decidable (_ ∧ _))

instance (behind : List Char) : Decidable (NamesSshFirst behind) :=
  inferInstanceAs (Decidable (_ = _))

theorem namesSsh_iff : namesSsh word = true ↔ Spells "ssh".toList word := by
  rw [namesSsh, decide_eq_true_eq, behindKeyword_eq_some_iff]
  simp only [List.append_nil, exists_eq_left']

theorem toLower_of_isSpace {character : Char}
    (blank : isSpace character = true) : character.toLower = character := by
  delta Char.toLower
  rw [dif_neg]
  rintro ⟨low, high⟩
  have lowest : 65 ≤ character.toNat := low
  have highest : character.toNat ≤ 90 := high
  simp only [isSpace, Bool.or_eq_true, decide_eq_true_eq, List.mem_cons,
    List.not_mem_nil, or_false] at blank
  omega

theorem not_isSpace_of_letter {expected character : Char}
    (letter : expected ∈ ['t', 's', 'h'])
    (same : ignoringCase expected character = true) :
    isSpace character = false := by
  by_contra notVisible
  have blank : isSpace character = true := by simpa using notVisible
  have visible : ∀ other ∈ ['t', 's', 'h'],
      isSpace other.toLower = false ∧ other.toLower ≠ 'i' ∧
        other.toLower ≠ 'k' :=
    @of_decide_eq_true _ (List.decidableBAll _ _) rfl
  obtain ⟨isVisible, notI, notK⟩ := visible expected letter
  simp only [ignoringCase, Bool.or_eq_true, decide_eq_true_eq, notI, notK,
    false_and, or_false, toLower_of_isSpace blank] at same
  rcases same with rfl | ⟨_, long⟩
  · rw [isVisible] at blank
    cases blank
  · rw [isSpace, long] at blank
    exact absurd blank (by decide)

theorem Spells.exists_expected {keyword : List Char}
    (spells : Spells keyword word) : ∀ character ∈ word,
      ∃ expected ∈ keyword, ignoringCase expected character = true := by
  rw [Spells] at spells
  induction spells with
  | nil => exact nofun
  | cons same _ ih =>
      intro character member
      rcases List.mem_cons.mp member with rfl | later
      · exact ⟨_, List.mem_cons_self, same⟩
      · obtain ⟨expected, isExpected, alike⟩ :=
          ih character later
        exact ⟨expected, List.mem_cons_of_mem _ isExpected, alike⟩

theorem letters_of_ssh {word : List Char} (spells : Spells "ssh".toList word) :
    word ≠ [] ∧ ∀ character ∈ word, isSpace character = false := by
  have letters : ∀ expected ∈ "ssh".toList, expected ∈ ['t', 's', 'h'] :=
    @of_decide_eq_true _ (List.decidableBAll _ _) rfl
  refine ⟨?_, ?_⟩
  · rintro rfl
    cases spells
  · intro character member
    obtain ⟨expected, isLetter, same⟩ := spells.exists_expected character member
    exact not_isSpace_of_letter (letters expected isLetter) same

theorem transportKeyword_visible : BeginsVisibly transportKeyword := by
  refine ⟨'t', "ransport input".toList, by decide, ?_⟩
  exact fun character same =>
    not_isSpace_of_letter (List.mem_cons_self) same

/-- The pattern of SW-02 is found exactly if some line names SSH first. -/
theorem transportPattern_occursIn_iff :
    transportPattern.occursIn config = true ↔
      ∃ behind ∈ directives transportKeyword config, NamesSshFirst behind := by
  rw [transportPattern, linePattern_occursIn_iff transportKeyword_visible]
  refine exists_congr fun behind => and_congr_right fun member => ?_
  constructor
  case mp =>
    rintro ⟨space, _, after, rfl, _, isSpaces, word, ending, rfl, spells,
      ends⟩
    have spelled := Pattern.takes_literal.mp spells
    obtain ⟨filled, letters⟩ := letters_of_ssh spelled
    have stops : (ending ++ after).head?.all isSpace = true := by
      rcases ends with ⟨character, rfl, blank⟩ | ⟨rfl, breaks⟩
      · exact blank
      · rw [List.nil_append]
        cases after with
        | nil => rfl
        | cons character after =>
            rw [show character = '\n' from of_decide_eq_true breaks]
            rfl
    rw [NamesSshFirst, List.append_assoc,
      firstWord_append isSpaces letters filled stops]
    exact namesSsh_iff.mpr spelled
  case mpr =>
    intro named
    have spells := namesSsh_iff.mp named
    obtain ⟨filled, letters⟩ := letters_of_ssh spells
    obtain ⟨space, after, whole, isSpaces, _, ends, _⟩ :=
      firstWord_splits behind
    have separated : space ≠ [] := by
      rintro rfl
      obtain ⟨_, _, _, _, _, _, _, begins⟩ :=
        (mem_directives_iff transportKeyword_visible).mp member
      obtain ⟨first, rest, isCons⟩ := List.exists_cons_of_ne_nil filled
      rw [whole, List.nil_append, isCons] at begins
      have blank : isSpace first = true := begins
      rw [letters first (by rw [isCons]; exact List.mem_cons_self)] at blank
      cases blank
    cases after with
    | nil =>
        refine ⟨space, firstWord behind, [], whole, separated, isSpaces,
          firstWord behind, [], (List.append_nil _).symm,
          Pattern.takes_literal.mpr spells, .inr ⟨rfl, rfl⟩⟩
    | cons character after =>
        refine ⟨space, firstWord behind ++ [character], after, ?_, separated,
          isSpaces, firstWord behind, [character], rfl,
          Pattern.takes_literal.mpr spells, .inl ⟨character, rfl, ends⟩⟩
        rw [List.append_assoc, List.singleton_append]
        exact whole

theorem AllowsSshAlone.first (alone : AllowsSshAlone behind) :
    NamesSshFirst behind := by
  obtain ⟨argument, others, read⟩ := List.exists_cons_of_ne_nil alone.1
  rw [NamesSshFirst, firstWord_of_argumentsOf read]
  exact alone.2 argument (by rw [read]; exact List.mem_cons_self)

/-- The lines on which the pattern of SW-02 agrees with the policy. -/
def SshSeen (config : List Char) : Prop :=
  (∀ behind ∈ directives transportKeyword config, ¬NamesSshFirst behind) ∨
    ∀ behind ∈ directives transportKeyword config, AllowsSshAlone behind

instance (config : List Char) : Decidable (SshSeen config) :=
  inferInstanceAs (Decidable (_ ∨ _))

theorem transportPattern_agrees_iff :
    (transportPattern.occursIn config = true ↔ SshOnly config) ↔
      SshSeen config := by
  rw [transportPattern_occursIn_iff, SshOnly, SshSeen]
  constructor
  case mp =>
    intro agree
    by_cases seen : ∃ behind ∈ directives transportKeyword config,
        NamesSshFirst behind
    case pos => exact .inr (agree.mp seen).2
    case neg =>
      exact .inl fun behind member first => seen ⟨behind, member, first⟩
  case mpr =>
    rintro (unseen | alone)
    · refine iff_of_false ?_ ?_
      · rintro ⟨behind, member, first⟩
        exact unseen behind member first
      · rintro ⟨filled, alone⟩
        obtain ⟨behind, member⟩ := List.exists_mem_of_ne_nil _ filled
        exact unseen behind member (alone behind member).first
    · constructor
      · rintro ⟨behind, member, _⟩
        exact ⟨List.ne_nil_of_mem member, alone⟩
      · rintro ⟨filled, _⟩
        obtain ⟨behind, member⟩ := List.exists_mem_of_ne_nil _ filled
        exact ⟨behind, member, (alone behind member).first⟩

/-! ## Session timeouts -/

def sessionTimeoutKeyword : List Char :=
  "session-timeout".toList

def writtenNumber (library : Library) (digits : List Char) : Nat :=
  digits.foldl (fun value digit =>
    value * 10 + (library.decimal digit).getD 0) 0

def leadingNumber (library : Library) (text : List Char) : Option Nat :=
  match text.takeWhile (library.decimal · |>.isSome) with
  | [] => none
  | digits => some (writtenNumber library digits)

def timeoutOf (library : Library) (behind : List Char) : Option Nat :=
  leadingNumber library
    ((behind.takeWhile (· ≠ '\n')).dropWhile isSpace)

def sessionTimeouts (library : Library) (config : List Char) : List Nat :=
  (directives sessionTimeoutKeyword config).filterMap (timeoutOf library)

/-- A number stands behind the keyword, on its line or on a later one. -/
def NumberFollows (library : Library) (behind : List Char) : Prop :=
  (leadingNumber library (behind.dropWhile isSpace)).isSome = true

/-- The timeouts of a configuration are set, and none of them is zero. -/
def TimeoutsEnabled (library : Library) (config : List Char) : Prop :=
  sessionTimeouts library config ≠ [] ∧ 0 ∉ sessionTimeouts library config

/-- No line sets the timeout zero, and if none sets any, then no number stands
behind the keyword on a later line. -/
def TimeoutsSeen (library : Library) (config : List Char) : Prop :=
  0 ∉ sessionTimeouts library config ∧
    (sessionTimeouts library config = [] →
      ∀ behind ∈ directives sessionTimeoutKeyword config,
        ¬NumberFollows library behind)

instance (library : Library) (behind : List Char) :
    Decidable (NumberFollows library behind) :=
  inferInstanceAs (Decidable (_ = _))

instance (library : Library) (config : List Char) :
    Decidable (TimeoutsSeen library config) :=
  inferInstanceAs (Decidable (_ ∧ (_ → _)))

section Timeouts

variable {library : Library}

theorem leadingNumber_isSome_iff :
    (leadingNumber library text).isSome = true ↔
      ∃ digit rest, text = digit :: rest ∧
        (library.decimal digit).isSome = true := by
  rw [leadingNumber]
  cases text with
  | nil => exact iff_of_false nofun nofun
  | cons digit rest =>
      rw [List.takeWhile_cons]
      constructor
      case mp =>
        intro found
        refine ⟨digit, rest, rfl, ?_⟩
        split at found
        · cases found
        rename_i isDecimal
        by_contra not
        rw [if_neg not] at isDecimal
        exact isDecimal rfl
      case mpr =>
        rintro ⟨_, _, same, isDecimal⟩
        obtain ⟨rfl, rfl⟩ := List.cons_eq_cons.mp same
        rw [if_pos isDecimal]
        rfl

theorem numberFollows_of_timeoutOf {timeout : Nat}
    (sets : timeoutOf library behind = some timeout) :
    NumberFollows library behind := by
  have found : (timeoutOf library behind).isSome = true := by
    rw [sets]
    rfl
  obtain ⟨digit, rest, line, isDecimal⟩ := leadingNumber_isSome_iff.mp found
  refine leadingNumber_isSome_iff.mpr
    ⟨digit, rest ++ behind.dropWhile (· ≠ '\n'), ?_, isDecimal⟩
  conv => lhs; rw [← List.takeWhile_append_dropWhile
    (p := (· ≠ '\n')) (l := behind)]
  rw [List.dropWhile_append, line]
  rfl

theorem sessionTimeoutKeyword_visible :
    BeginsVisibly sessionTimeoutKeyword := by
  refine ⟨'s', "ession-timeout".toList, by decide, ?_⟩
  exact fun character same => not_isSpace_of_letter (by decide) same

/-- The pattern of SW-06 is found exactly if a number stands behind some
keyword. -/
theorem sessionTimeoutPattern_occursIn_iff :
    (sessionTimeoutPattern library).occursIn config = true ↔
      ∃ behind ∈ directives sessionTimeoutKeyword config,
        NumberFollows library behind := by
  rw [sessionTimeoutPattern,
    linePattern_occursIn_iff sessionTimeoutKeyword_visible]
  refine exists_congr fun behind => and_congr_right fun member => ?_
  rw [NumberFollows, leadingNumber_isSome_iff]
  constructor
  case mp =>
    rintro ⟨space, front, after, rfl, _, isSpaces, ⟨digits, some, _⟩⟩
    obtain ⟨digit, rest, rfl⟩ :=
      List.exists_cons_of_ne_nil (List.ne_nil_of_length_pos some)
    have isDecimal := digits digit List.mem_cons_self
    refine ⟨digit, rest ++ after, ?_, isDecimal⟩
    obtain ⟨value, isValue⟩ := Option.isSome_iff_exists.mp isDecimal
    rw [List.dropWhile_append_of_pos isSpaces, List.cons_append,
      List.dropWhile_cons_of_neg]
    rw [library.decimal_not_space isValue]
    exact Bool.false_ne_true
  case mpr =>
    rintro ⟨digit, rest, whole, isDecimal⟩
    obtain ⟨value, isValue⟩ := Option.isSome_iff_exists.mp isDecimal
    have visible : isSpace digit = false := library.decimal_not_space isValue
    refine ⟨behind.takeWhile isSpace, [digit], rest, ?_, ?_,
      fun character inSpace => List.mem_takeWhile_imp inSpace, ?_,
      Nat.le_refl 1, nofun⟩
    · rw [List.singleton_append, ← whole, List.takeWhile_append_dropWhile]
    · intro none
      obtain ⟨_, _, _, _, _, _, _, begins⟩ :=
        (mem_directives_iff sessionTimeoutKeyword_visible).mp member
      rw [← List.takeWhile_append_dropWhile (p := isSpace) (l := behind),
        none, whole, List.nil_append] at begins
      have blank : isSpace digit = true := begins
      rw [visible] at blank
      cases blank
    · intro character inDigits
      rw [List.mem_singleton.mp inDigits]
      exact isDecimal

/-- SW-06 is found for enabled timeouts only, exactly for these
configurations. -/
theorem sessionTimeoutPattern_enabled_iff :
    ((sessionTimeoutPattern library).occursIn config = true →
        TimeoutsEnabled library config) ↔ TimeoutsSeen library config := by
  rw [sessionTimeoutPattern_occursIn_iff, TimeoutsEnabled, TimeoutsSeen]
  constructor
  case mp =>
    intro enabled
    refine ⟨?_, ?_⟩
    · intro zero
      obtain ⟨behind, member, sets⟩ := List.mem_filterMap.mp zero
      exact (enabled ⟨behind, member, numberFollows_of_timeoutOf sets⟩).2 zero
    · intro none behind member follows
      exact (enabled ⟨behind, member, follows⟩).1 none
  case mpr =>
    rintro ⟨nonzero, unseen⟩ ⟨behind, member, follows⟩
    exact ⟨fun none => unseen none behind member follows, nonzero⟩

end Timeouts

/-! ## What the baseline says -/

theorem passes_transport_iff {library : Library}
    {outputs : String → Option (List UInt8)} {capturedAt : DateTime}
    {results : List DeviceControlResult} {bytes : List UInt8}
    (read : outputs "cisco.running-config" = some bytes)
    (evaluated : evaluateSwitchBaseline library "CISCO_IOS" outputs
      capturedAt = .ok results) :
    Passes "SW-02" results ↔
      transportPattern.occursIn (decodeReplacing bytes) = true := by
  have chosen : adapterFor "CISCO_IOS" = .ok ciscoIos := rfl
  rw [passes_iff chosen evaluated,
    show outputs ciscoIos.runningConfigCommandId = some bytes from read,
    switchFacts, if_pos rfl]
  simp only [ciscoFacts, ntpFact, switchPassed, Option.map_some,
    Option.some_inj, List.exists_mem_cons_iff, String.reduceEq, true_and,
    false_and, or_false, false_or, List.not_mem_nil, exists_false]

theorem passes_sessionTimeout_iff {library : Library}
    {outputs : String → Option (List UInt8)} {capturedAt : DateTime}
    {results : List DeviceControlResult} {bytes : List UInt8}
    (read : outputs "aruba.running-config" = some bytes)
    (evaluated : evaluateSwitchBaseline library "ARUBA_AOS_CX" outputs
      capturedAt = .ok results) :
    Passes "SW-06" results ↔
      (sessionTimeoutPattern library).occursIn (decodeReplacing bytes) =
        true := by
  have chosen : adapterFor "ARUBA_AOS_CX" = .ok arubaAosCx := rfl
  rw [passes_iff chosen evaluated,
    show outputs arubaAosCx.runningConfigCommandId = some bytes from read,
    switchFacts, if_neg (by decide)]
  simp only [arubaFacts, ntpFact, switchPassed, Option.map_some,
    Option.some_inj, List.exists_mem_cons_iff, String.reduceEq, true_and,
    false_and, or_false, false_or, List.not_mem_nil, exists_false]

/-- For which configurations SW-02 means SSH alone, and for which SW-06 means
enabled timeouts. -/
theorem switchBaseline_honours_iff (library : Library)
    (outputs : String → Option (List UInt8)) (capturedAt : DateTime)
    (bytes : List UInt8) (results : List DeviceControlResult) :
    (outputs "cisco.running-config" = some bytes →
      evaluateSwitchBaseline library "CISCO_IOS" outputs capturedAt =
        .ok results →
      ((Passes "SW-02" results ↔ SshOnly (decodeReplacing bytes)) ↔
        SshSeen (decodeReplacing bytes))) ∧
    (outputs "aruba.running-config" = some bytes →
      evaluateSwitchBaseline library "ARUBA_AOS_CX" outputs capturedAt =
        .ok results →
      ((Passes "SW-06" results →
          TimeoutsEnabled library (decodeReplacing bytes)) ↔
        TimeoutsSeen library (decodeReplacing bytes))) := by
  constructor
  case left =>
    intro read evaluated
    rw [passes_transport_iff read evaluated]
    exact transportPattern_agrees_iff
  case right =>
    intro read evaluated
    rw [passes_sessionTimeout_iff read evaluated]
    exact sessionTimeoutPattern_enabled_iff

def asciiBytes (text : String) : List UInt8 :=
  text.toList.map fun character => UInt8.ofNat character.toNat

/-- The outputs of a device that has one running configuration. -/
def runningConfig (commandId config : String) :
    String → Option (List UInt8) :=
  fun other => if other = commandId then some (asciiBytes config) else none

/-- Where SSH stands alone on each line and no timeout is zero, the baseline
honours both. -/
theorem plain_configurations_are_honoured :
    (∃ results, evaluateSwitchBaseline asciiLibrary "CISCO_IOS"
        (runningConfig "cisco.running-config" " transport input ssh\n") 0 =
          .ok results ∧
      (Passes "SW-02" results ↔
        SshOnly (decodeReplacing (asciiBytes " transport input ssh\n")))) ∧
    ∃ results, evaluateSwitchBaseline asciiLibrary "ARUBA_AOS_CX"
        (runningConfig "aruba.running-config" "session-timeout 10\n") 0 =
          .ok results ∧
      (Passes "SW-06" results → TimeoutsEnabled asciiLibrary
        (decodeReplacing (asciiBytes "session-timeout 10\n"))) := by
  constructor
  case left =>
    obtain ⟨results, evaluated⟩ := (switchBaseline_returns_iff
      (show adapterFor "CISCO_IOS" = .ok ciscoIos from rfl)).mpr
      (show ((runningConfig "cisco.running-config" " transport input ssh\n"
        ciscoIos.runningConfigCommandId).getD []).length ≤ maximumOutput by
          decide)
    exact ⟨results, evaluated, ((switchBaseline_honours_iff _ _ _ _ _).1 rfl
      evaluated).mpr (by decide)⟩
  case right =>
    obtain ⟨results, evaluated⟩ := (switchBaseline_returns_iff
      (show adapterFor "ARUBA_AOS_CX" = .ok arubaAosCx from rfl)).mpr
      (show ((runningConfig "aruba.running-config" "session-timeout 10\n"
        arubaAosCx.runningConfigCommandId).getD []).length ≤ maximumOutput by
          decide)
    exact ⟨results, evaluated, ((switchBaseline_honours_iff _ _ _ _ _).2 rfl
      evaluated).mpr (by decide)⟩

/-- A line that allows SSH and Telnet is passed as SSH alone, and a timeout of
zero as a limit. -/
theorem telnet_and_zero_timeout_pass :
    (∃ results, evaluateSwitchBaseline asciiLibrary "CISCO_IOS"
        (runningConfig "cisco.running-config"
          " transport input ssh telnet\n") 0 = .ok results ∧
      Passes "SW-02" results ∧
      ¬SshOnly (decodeReplacing
        (asciiBytes " transport input ssh telnet\n"))) ∧
    ∃ results, evaluateSwitchBaseline asciiLibrary "ARUBA_AOS_CX"
        (runningConfig "aruba.running-config" "session-timeout 0\n") 0 =
          .ok results ∧
      Passes "SW-06" results ∧
      sessionTimeouts asciiLibrary
        (decodeReplacing (asciiBytes "session-timeout 0\n")) = [0] := by
  constructor
  case left =>
    obtain ⟨results, evaluated⟩ := (switchBaseline_returns_iff
      (show adapterFor "CISCO_IOS" = .ok ciscoIos from rfl)).mpr
      (show ((runningConfig "cisco.running-config"
        " transport input ssh telnet\n"
        ciscoIos.runningConfigCommandId).getD []).length ≤ maximumOutput by
          decide)
    refine ⟨results, evaluated, (passes_transport_iff rfl evaluated).mpr ?_,
      by decide⟩
    rw [transportPattern_occursIn_iff]
    decide
  case right =>
    obtain ⟨results, evaluated⟩ := (switchBaseline_returns_iff
      (show adapterFor "ARUBA_AOS_CX" = .ok arubaAosCx from rfl)).mpr
      (show ((runningConfig "aruba.running-config" "session-timeout 0\n"
        arubaAosCx.runningConfigCommandId).getD []).length ≤ maximumOutput by
          decide)
    refine ⟨results, evaluated,
      (passes_sessionTimeout_iff rfl evaluated).mpr ?_, by decide⟩
    rw [sessionTimeoutPattern_occursIn_iff]
    decide

end SecAI.Platforms
