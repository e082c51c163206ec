/-
Module: SecAI.Criteria.Contract
Purpose: The two contracts of the assessment criteria, of the server and of the
  collector, with their decoders, and the request of the launcher.
Trusted boundary: SHA-256, the Unicode database, `float` of a literal and
  `repr` of a float are parameters; the nesting stays within the recursion limit
Main exports:
  CriteriaFault, CriteriaValue, CriteriaEnvironment, addName
-/
import SecAI.Submission.Signature
import SecAI.Text.HookedJson
import SecAI.Text.PythonText
import SecAI.Text.Utf8

namespace SecAI.Criteria

open SecAI.Text

/-! ## Values -/

/-- What the contracts raise. -/
inductive CriteriaFault where
  /-- `CriteriaContractError`. -/
  | contract (message : String)
  /-- `TypeError`. -/
  | type
  /-- `UnicodeEncodeError`. -/
  | encode
  /-- A `ValueError` of the interpreter. -/
  | value
deriving DecidableEq

inductive CriteriaValue where
  | int (value : Int)
  | bool (value : Bool)
  | names (items : List (List CodePoint))
deriving DecidableEq

def CriteriaValue.json : CriteriaValue → Decoded
  | .int value => .int value
  | .bool value => .bool value
  | .names items => .list (items.map .str)

/-- Values under their keys, in the order of the dict. -/
abbrev CriteriaValues := List (String × CriteriaValue)

/-- `{key: _json_value(item) for key, item in values.items()}`. -/
def jsonValues (values : CriteriaValues) : Decoded :=
  .dict (values.map fun entry => (points entry.1.toList, entry.2.json))

/-- What the contracts are computed with. -/
structure CriteriaEnvironment where
  database : CharacterDatabase
  floats : FloatTexts
  /-- `str.isprintable` of one character. -/
  isPrintable : Char → Bool
  /-- `float` of a literal. -/
  floatOf : List Char → UInt64
  /-- `hashlib.sha256(text.encode("utf-8")).hexdigest()`. -/
  sha256 : List CodePoint → List Char
  length_sha256 : ∀ text, (sha256 text).length = 64
  sha256_hex : ∀ text, ∀ digit ∈ sha256 text,
    digit ∈ ['0', '1', '2', '3', '4', '5', '6', '7', '8', '9', 'a', 'b', 'c',
      'd', 'e', 'f']

/-- `frozenset(members) == keys`. -/
def hasExactKeys (members : Members) (keys : List String) : Bool :=
  let expected := keys.map fun key => points key.toList
  decide ((∀ entry ∈ members, entry.1 ∈ expected) ∧
    ∀ key ∈ expected, key ∈ members.map Prod.fst)

/-! ## Names -/

section Names

variable (env : CriteriaEnvironment)

/-- `text.casefold()`; a lone surrogate stays as it is. -/
def casefoldPoints (text : List CodePoint) : List CodePoint :=
  text.flatMap fun point =>
    if point.isHigh || point.isLow then [point]
    else points (env.database.casefold point.shown)

/-- `"\r\n"` as one boundary. -/
def pointsWithoutReturns : List CodePoint → List CodePoint
  | [] => []
  | [point] => [point]
  | first :: second :: rest =>
      if first.val = 0xD ∧ second.val = 0xA then
        second :: pointsWithoutReturns rest
      else first :: pointsWithoutReturns (second :: rest)

/-- `text.splitlines()`. -/
def pointLines (text : List CodePoint) : List (List CodePoint) :=
  let parts := (pointsWithoutReturns text).splitOnP fun point =>
    isLineBreak point.shown
  if parts.getLast? = some [] then parts.dropLast else parts

/-- The texts of the errors of a list of names. -/
structure NameMessages where
  notList : String
  notText : String
  tooLong : String
  badCharacter : String
  tooMany : String

/-- A NUL, a line break, a bar or a semicolon. -/
def isForbiddenInName (point : CodePoint) : Bool :=
  decide (point.val ∈ [0x0, 0xD, 0xA, 0x7C, 0x3B])

def addName (messages : NameMessages) (normalized : List (List CodePoint))
    (item : Decoded) : Except CriteriaFault (List (List CodePoint)) :=
  match item with
  | .str text =>
      let name := foldPoints (stripPoints text)
      if name = [] then .ok normalized
      else if 80 < name.length then .error (.contract messages.tooLong)
      else if name.any isForbiddenInName then
        .error (.contract messages.badCharacter)
      else if casefoldPoints env name ∈ normalized.map (casefoldPoints env) then
        .ok normalized
      else .ok (normalized ++ [name])
  | _ => .error (.contract messages.notText)

/-- The names of a value: the lines of a text, or the items of a list. -/
def namesSource (messages : NameMessages) :
    Decoded → Except CriteriaFault (List Decoded)
  | .str text => .ok ((pointLines text).map .str)
  | .list items => .ok items
  | _ => .error (.contract messages.notList)

/-- `_normalize_list`. -/
def normalizedNames (messages : NameMessages) (value : Decoded) :
    Except CriteriaFault (List (List CodePoint)) := do
  let source ← namesSource messages value
  let normalized ← source.foldlM (addName env messages) []
  if 50 < normalized.length then .error (.contract messages.tooMany)
  else .ok (Ordered.sortedBy (casefoldPoints env) normalized)

end Names

/-! ## Profiles -/

/-- A profile within a context. -/
structure ProfileContext where
  id : List CodePoint
  name : List CodePoint
  version : Int
  documentSha256 : List CodePoint

/-- `text.replace(part, "")`. -/
def withoutPart (part : List CodePoint) (text : List CodePoint) :
    List CodePoint :=
  if part = [] then text
  else match text with
    | [] => []
    | point :: rest =>
        if part.isPrefixOf (point :: rest) then
          withoutPart part ((point :: rest).drop part.length)
        else point :: withoutPart part rest
termination_by text.length
decreasing_by
  · have filled : 0 < part.length := List.length_pos_iff.mpr ‹_›
    simp only [List.length_drop, List.length_cons]
    omega
  · simp

def isHexDigit (character : Char) : Bool :=
  character.isDigit ||
    decide (character.toLower ∈ ['a', 'b', 'c', 'd', 'e', 'f'])

/-- Hexadecimal digits; a single underscore may stand between two. -/
def areHexDigits : List Char → Bool
  | [] => false
  | [character] => isHexDigit character
  | character :: '_' :: rest => isHexDigit character && areHexDigits rest
  | character :: rest => isHexDigit character && areHexDigits rest

/-- A hexadecimal numeral without its prefix; one underscore may stand behind
it. -/
def withoutHexPrefix : List Char → List Char
  | '0' :: 'x' :: '_' :: rest | '0' :: 'X' :: '_' :: rest => rest
  | '0' :: 'x' :: rest | '0' :: 'X' :: rest => rest
  | text => text

/-- `uuid.UUID(text)` raises no `ValueError`.  No hyphen is left, so the number
is not negative. -/
def isUuid (env : CriteriaEnvironment) (text : List CodePoint) : Bool :=
  let replaced := withoutPart (points "uuid:".toList)
    (withoutPart (points "urn:".toList) text)
  let isBrace := fun point : CodePoint =>
    decide (point.val = 0x7B ∨ point.val = 0x7D)
  let stripped := (replaced.dropWhile isBrace).rdropWhile isBrace
  let hex := stripped.filter fun point => decide (point.val ≠ 0x2D)
  let numeral := (hex.map CodePoint.shown).map (numeralCharacter env.database)
  decide (hex.length = 32) &&
    areHexDigits (withoutHexPrefix (withoutSign (trimmedNumeral numeral)).2)

def isLowerHex (point : CodePoint) : Bool :=
  decide (0x30 ≤ point.val ∧ point.val ≤ 0x39 ∨
    0x61 ≤ point.val ∧ point.val ≤ 0x66)

def profileContextKeys : List String :=
  ["id", "name", "version", "document_sha256"]

/-- The parts of `_profile_context` behind the check of its number. -/
def profileParts (label : String) (id : List CodePoint) (members : Members) :
    Except CriteriaFault ProfileContext :=
  match getItem members "name" with
  | .str name =>
      if stripPoints name = [] ∨ 80 < name.length then
        .error (.contract s!"{label} 이름이 올바르지 않습니다.")
      else
        match getItem members "version" with
        | .int version =>
            if version < 1 then
              .error (.contract s!"{label} 버전이 올바르지 않습니다.")
            else
              match getItem members "document_sha256" with
              | .str sha256 =>
                  if sha256.length ≠ 64 ∨ ¬sha256.all isLowerHex then
                    .error (.contract s!"{label} 확인값이 올바르지 않습니다.")
                  else
                    .ok ⟨id, foldPoints (stripPoints name), version, sha256⟩
              | _ => .error (.contract s!"{label} 확인값이 올바르지 않습니다.")
        | _ => .error (.contract s!"{label} 버전이 올바르지 않습니다.")
  | _ => .error (.contract s!"{label} 이름이 올바르지 않습니다.")

/-- `_profile_context`, which both modules have in the same words. -/
def profileContext (env : CriteriaEnvironment) (label : String) :
    Decoded → Except CriteriaFault (Option ProfileContext)
  | .null => .ok none
  | .dict members =>
      if ¬hasExactKeys members profileContextKeys then
        .error (.contract s!"{label} 정보가 올바르지 않습니다.")
      else
        -- Every value has a text; only some texts have a number.
        let id := pythonStr env.floats env.isPrintable (getItem members "id")
        if isUuid env id then (profileParts label id members).map some
        else .error (.contract s!"{label} 번호가 올바르지 않습니다.")
  | _ => .error (.contract s!"{label} 정보가 올바르지 않습니다.")

/-! ## Contexts -/

/-- A context that was validated. -/
structure CriteriaContext where
  values : CriteriaValues
  sources : Members
  criteriaSha256 : List CodePoint
  organizationProfile : Option ProfileContext
  personalProfile : Option ProfileContext

def ProfileContext.document (profile : ProfileContext) : Decoded :=
  .dict [
    (points "id".toList, .str profile.id),
    (points "name".toList, .str profile.name),
    (points "version".toList, .int profile.version),
    (points "document_sha256".toList, .str profile.documentSha256)]

def CriteriaContext.document (context : CriteriaContext) : Decoded :=
  .dict [
    (points "values".toList, jsonValues context.values),
    (points "sources".toList, .dict context.sources),
    (points "criteria_sha256".toList, .str context.criteriaSha256),
    (points "organization_profile".toList,
      (context.organizationProfile.map ProfileContext.document).getD .null),
    (points "personal_profile".toList,
      (context.personalProfile.map ProfileContext.document).getD .null)]

/-- `expected_keys`. -/
def contextKeys : List String :=
  ["values", "sources", "criteria_sha256", "organization_profile",
    "personal_profile"]

def allowedSources : List String := ["KISA_DEFAULT", "ORGANIZATION", "PERSONAL"]

/-- `any(source not in allowed_sources for source in sources)`. -/
def anyForbiddenSource : List Decoded → Except CriteriaFault Bool
  | [] => .ok false
  | source :: rest =>
      match source.isAmong allowedSources with
      | none => .error .type
      | some true => anyForbiddenSource rest
      | some false => .ok true

def isAsciiText (text : List CodePoint) : Bool :=
  text.all fun point => decide (point.val < 0x80)

/-- `hmac.compare_digest`. -/
def compareDigest (given expected : List CodePoint) :
    Except CriteriaFault Bool :=
  if isAsciiText given ∧ isAsciiText expected then .ok (decide (given = expected))
  else .error .type

def sha256OfValues (env : CriteriaEnvironment) (values : CriteriaValues) :
    Except CriteriaFault (List CodePoint) :=
  let serialized := render env.floats .compact (jsonValues values).sortKeys
  if Decoded.isScalarText serialized then .ok (points (env.sha256 serialized))
  else .error .encode

/-! ## The server -/

namespace Server

/-- What a value consists of. -/
inductive ValueType where
  | integer
  | boolean
  | stringList
deriving DecidableEq

/-- `CriterionDefinition`, with the fields that the contexts depend on. -/
structure CriterionDefinition where
  key : String
  title : String
  valueType : ValueType
  officialValue : CriteriaValue
  minimum : Option Int
  maximum : Option Int
deriving DecidableEq

def defaultUnnecessaryServiceIds : List String :=
  ["FTPSVC", "MSFTPSVC", "RemoteRegistry", "SimpTcp", "SNMP", "SNMPTRAP",
    "TlntSvr"]

def catalog : List CriterionDefinition := [
  ⟨"password_maximum_age_days", "비밀번호 최대 사용 기간", .integer, .int 90,
    some 1, some 365⟩,
  ⟨"password_minimum_length", "비밀번호 최소 길이", .integer, .int 10, some 8,
    some 64⟩,
  ⟨"password_complexity_required", "비밀번호 복잡성 사용", .boolean, .bool true,
    none, none⟩,
  ⟨"password_required", "비밀번호 사용", .boolean, .bool true, none, none⟩,
  ⟨"approved_share_ids", "승인된 공유 폴더", .stringList, .names [], none, none⟩,
  ⟨"unnecessary_service_ids", "불필요 서비스 최소 점검 범위", .stringList,
    .names (defaultUnnecessaryServiceIds.map (points ·.toList)), none, none⟩,
  ⟨"approved_messenger_products", "승인된 메신저 제품", .stringList, .names [],
    none, none⟩,
  ⟨"security_update_maximum_age_days", "보안 업데이트 확인 주기", .integer,
    .int 30, some 1, some 180⟩,
  ⟨"antivirus_signature_maximum_age_hours", "백신 서명 최대 경과 시간", .integer,
    .int 24, some 1, some 168⟩,
  ⟨"screensaver_timeout_maximum_minutes", "화면보호기 최대 대기 시간", .integer,
    .int 10, some 1, some 60⟩,
  ⟨"wininet_current_user_scope_accepted",
    "현재 로그인 사용자 WinINet 설정 판정", .boolean, .bool true, none, none⟩,
  ⟨"screensaver_current_user_scope_accepted",
    "현재 로그인 사용자 화면 잠금 설정 판정", .boolean, .bool true, none, none⟩,
  ⟨"autoplay_disabled_required", "모든 미디어 자동 실행 차단", .boolean,
    .bool true, none, none⟩,
  ⟨"remote_assistance_disabled_required", "원격 지원 명시적 차단", .boolean,
    .bool true, none, none⟩]

/-- The keys of `CRITERIA_CATALOG`. -/
def catalogKeys : List String := catalog.map (·.key)

/-- `CRITERIA_CATALOG.get(key)`. -/
def findDefinition (key : List CodePoint) : Option CriterionDefinition :=
  catalog.find? fun definition => decide (key = points definition.key.toList)

/-- The messages of `_normalize_list`. -/
def nameMessages (title : String) : NameMessages where
  notList := s!"{title} 값은 이름 목록이어야 합니다."
  notText := s!"{title} 목록에 잘못된 값이 있습니다."
  tooLong := s!"{title}의 이름은 80자 이하여야 합니다."
  badCharacter := s!"{title}에 허용되지 않은 문자가 있습니다."
  tooMany := s!"{title}은 50개 이하로 등록해야 합니다."

variable (env : CriteriaEnvironment)

def normalizeList (definition : CriterionDefinition) (value : Decoded) :
    Except CriteriaFault (List (List CodePoint)) := do
  let normalized ← normalizedNames env (nameMessages definition.title) value
  if definition.key = "unnecessary_service_ids" ∧ normalized = [] then
    .error (.contract "불필요 서비스 최소 점검 범위는 한 개 이상이어야 합니다.")
  else .ok normalized

def criterionValue (definition : CriterionDefinition) (value : Decoded) :
    Except CriteriaFault CriteriaValue :=
  match definition.valueType with
  | .integer =>
      match value with
      | .int number =>
          if definition.minimum.any fun minimum => decide (number < minimum) then
            .error (.contract
              s!"{definition.title} 값은 {definition.minimum.getD 0} 이상이어야 합니다.")
          else if definition.maximum.any fun maximum =>
              decide (maximum < number) then
            .error (.contract
              s!"{definition.title} 값은 {definition.maximum.getD 0} 이하여야 합니다.")
          else .ok (.int number)
      | _ => .error (.contract s!"{definition.title} 값은 정수여야 합니다.")
  | .boolean =>
      match value with
      | .bool required => .ok (.bool required)
      | _ => .error (.contract s!"{definition.title} 값은 사용 여부여야 합니다.")
  | .stringList => (normalizeList env definition value).map .names

/-- One round of the loop of `validate_criteria_values`. -/
def criterionEntry (entry : List CodePoint × Decoded) :
    Except CriteriaFault (String × CriteriaValue) :=
  match findDefinition entry.1 with
  | none => .error (.contract "허용되지 않은 점검 기준이 포함되어 있습니다.")
  | some definition => do
      let value ← criterionValue env definition entry.2
      return (definition.key, value)

def validateCriteriaValues : Decoded → Except CriteriaFault CriteriaValues
  | .dict members => members.mapM (criterionEntry env)
  | _ => .error (.contract "점검 기준은 항목과 값으로 구성해야 합니다.")

def canonicalCriteriaSha256 (values : Decoded) :
    Except CriteriaFault (List CodePoint) := do
  let normalized ← validateCriteriaValues env values
  sha256OfValues env normalized

/-- The values of a context, all of them. -/
def contextValues (value : Decoded) : Except CriteriaFault CriteriaValues := do
  let normalized ← validateCriteriaValues env value
  if ∀ key ∈ catalogKeys, key ∈ normalized.map Prod.fst then .ok normalized
  else .error (.contract "점검에 필요한 기준값이 모두 포함되어야 합니다.")

def contextSha256 (value : Decoded) (normalized : CriteriaValues) :
    Except CriteriaFault (List CodePoint) :=
  let mismatch := .contract "점검 기준 확인값이 일치하지 않습니다."
  match value with
  | .str sha256 => do
      let expected ← canonicalCriteriaSha256 env (jsonValues normalized)
      let same ← compareDigest sha256 expected
      if same then return sha256 else .error mismatch
  | _ => .error mismatch

def contextSources (value : Decoded) (normalized : CriteriaValues) :
    Except CriteriaFault Members :=
  match value with
  | .dict sources =>
      if ¬hasExactKeys sources (normalized.map Prod.fst) then
        .error (.contract "점검 기준 출처가 올바르지 않습니다.")
      else do
        let forbidden ← anyForbiddenSource (sources.map Prod.snd)
        if forbidden then
          .error (.contract "허용되지 않은 점검 기준 출처가 있습니다.")
        else return sources
  | _ => .error (.contract "점검 기준 출처가 올바르지 않습니다.")

def validateCriteriaExecutionContext :
    Decoded → Except CriteriaFault CriteriaContext
  | .dict members =>
      if ¬hasExactKeys members contextKeys then
        .error (.contract "점검 기준 스냅샷 형식이 올바르지 않습니다.")
      else do
        let values ← contextValues env (getItem members "values")
        let criteriaSha256 ← contextSha256 env
          (getItem members "criteria_sha256") values
        let sources ← contextSources (getItem members "sources") values
        let organizationProfile ← profileContext env "조직 기본 기준"
          (getItem members "organization_profile")
        let personalProfile ← profileContext env "개인 기준"
          (getItem members "personal_profile")
        return ⟨values, sources, criteriaSha256, organizationProfile,
          personalProfile⟩
  | _ => .error (.contract "점검 기준 스냅샷 형식이 올바르지 않습니다.")

end Server

/-! ## The collector -/

namespace Collector

def integerRanges : List (String × Int × Int) := [
  ("password_maximum_age_days", 1, 365),
  ("password_minimum_length", 8, 64),
  ("security_update_maximum_age_days", 1, 180),
  ("antivirus_signature_maximum_age_hours", 1, 168),
  ("screensaver_timeout_maximum_minutes", 1, 60)]

def booleanKeys : List String := [
  "password_complexity_required",
  "password_required",
  "wininet_current_user_scope_accepted",
  "screensaver_current_user_scope_accepted",
  "autoplay_disabled_required",
  "remote_assistance_disabled_required"]

def stringListKeys : List String := [
  "approved_share_ids",
  "unnecessary_service_ids",
  "approved_messenger_products"]

def valueKeys : List String :=
  integerRanges.map Prod.fst ++ booleanKeys ++ stringListKeys

/-- The messages of `_normalize_list`. -/
def nameMessages : NameMessages where
  notList := "점검 기준 이름 목록 형식이 올바르지 않습니다."
  notText := "점검 기준 이름 목록에 잘못된 값이 있습니다."
  tooLong := "점검 기준 이름에 허용되지 않은 값이 있습니다."
  badCharacter := "점검 기준 이름에 허용되지 않은 값이 있습니다."
  tooMany := "점검 기준 이름은 50개 이하로 등록해야 합니다."

variable (env : CriteriaEnvironment)

/-- The value of one criterion, by its key. -/
def criterionValue (key : String) (item : Decoded) :
    Except CriteriaFault CriteriaValue :=
  let outside := .contract "점검 기준 정수값의 범위가 올바르지 않습니다."
  match integerRanges.lookup key with
  | some (minimum, maximum) =>
      match item with
      | .int number =>
          if number < minimum ∨ maximum < number then .error outside
          else .ok (.int number)
      | _ => .error outside
  | none =>
      if key ∈ booleanKeys then
        match item with
        | .bool required => .ok (.bool required)
        | _ => .error (.contract "점검 기준 사용 여부가 올바르지 않습니다.")
      else do
        let names ← normalizedNames env nameMessages item
        if key = "unnecessary_service_ids" ∧ names = [] then
          .error (.contract
            "불필요 서비스 최소 점검 범위는 한 개 이상이어야 합니다.")
        else return .names names

def knownKey (key : List CodePoint) : String :=
  (valueKeys.find? fun known => decide (key = points known.toList)).getD ""

/-- One round of the loop of `_validate_values`. -/
def criterionEntry (entry : List CodePoint × Decoded) :
    Except CriteriaFault (String × CriteriaValue) := do
  let value ← criterionValue env (knownKey entry.1) entry.2
  return (knownKey entry.1, value)

def validateValues : Decoded → Except CriteriaFault CriteriaValues
  | .dict members =>
      if ¬hasExactKeys members valueKeys then
        .error (.contract "점검에 필요한 기준값이 모두 포함되어야 합니다.")
      else members.mapM (criterionEntry env)
  | _ => .error (.contract "점검에 필요한 기준값이 모두 포함되어야 합니다.")

def canonicalSha256 (values : Decoded) :
    Except CriteriaFault (List CodePoint) := do
  let normalized ← validateValues env values
  sha256OfValues env normalized

def contextSha256 (value : Decoded) (normalized : CriteriaValues) :
    Except CriteriaFault (List CodePoint) :=
  let mismatch := .contract "점검 기준 확인값이 일치하지 않습니다."
  match value with
  | .str sha256 => do
      let expected ← canonicalSha256 env (jsonValues normalized)
      let same ← compareDigest sha256 expected
      if same then return sha256 else .error mismatch
  | _ => .error mismatch

def contextSources (value : Decoded) : Except CriteriaFault Members :=
  let refusal := .contract "점검 기준 출처가 올바르지 않습니다."
  match value with
  | .dict sources =>
      if ¬hasExactKeys sources valueKeys then .error refusal
      else do
        let forbidden ← anyForbiddenSource (sources.map Prod.snd)
        if forbidden then .error refusal else return sources
  | _ => .error refusal

def validateCriteriaExecutionContext :
    Decoded → Except CriteriaFault CriteriaContext
  | .dict members =>
      if ¬hasExactKeys members contextKeys then
        .error (.contract "점검 기준 스냅샷 형식이 올바르지 않습니다.")
      else do
        let values ← validateValues env (getItem members "values")
        let criteriaSha256 ← contextSha256 env
          (getItem members "criteria_sha256") values
        let sources ← contextSources (getItem members "sources")
        let organizationProfile ← profileContext env "조직 기본 기준"
          (getItem members "organization_profile")
        let personalProfile ← profileContext env "개인 기준"
          (getItem members "personal_profile")
        return ⟨values, sources, criteriaSha256, organizationProfile,
          personalProfile⟩
  | _ => .error (.contract "점검 기준 스냅샷 형식이 올바르지 않습니다.")

end Collector

/-! ## Decoders -/

section Decoders

variable (env : CriteriaEnvironment)

/-- The document that a transmitted value stands for; every error on the way is
a `ValueError`. -/
def transmittedDocument (value : List CodePoint) : Option Decoded := do
  if ¬isAsciiText value then none
  let text := value.map CodePoint.shown
  let padding := List.replicate ((4 - text.length % 4) % 4) '='
  let raw ← Submission.decodeStrict 0 0 0 (text ++ padding)
  let decoded ← decodeStrict raw
  (loadHooked (plainNumber env.floatOf) plainObjects decoded).toOption

/-- `decode_criteria_execution_context`, in front of either validation. -/
def decodeCriteriaExecutionContext
    (validate : Decoded → Except CriteriaFault CriteriaContext)
    (value : List CodePoint) : Except CriteriaFault CriteriaContext :=
  if value = [] ∨ 16384 < value.length then
    .error (.contract "점검 기준 전달값의 길이가 올바르지 않습니다.")
  else
    match transmittedDocument env value with
    | some document => validate document
    | none => .error (.contract "점검 기준 전달값을 읽을 수 없습니다.")

/-- `decode_criteria_execution_context` of the server. -/
def Server.decodeCriteriaExecutionContext :
    List CodePoint → Except CriteriaFault CriteriaContext :=
  Criteria.decodeCriteriaExecutionContext env
    (Server.validateCriteriaExecutionContext env)

/-- `decode_criteria_execution_context` of the collector. -/
def Collector.decodeCriteriaExecutionContext :
    List CodePoint → Except CriteriaFault CriteriaContext :=
  Criteria.decodeCriteriaExecutionContext env
    (Collector.validateCriteriaExecutionContext env)

def strictJsonObject : ObjectHook CriteriaFault := fun pairs =>
  if (pairs.map Prod.fst).Nodup then .ok (.dict pairs)
  else .error (.contract "점검 기준에 중복된 항목이 있습니다.")

/-- The document of a request; only some of the errors are caught. -/
def requestDocument (raw : List UInt8) : Except CriteriaFault Decoded :=
  let unreadable := .contract "점검 기준 요청을 읽을 수 없습니다."
  match decodeStrict raw with
  | none => .error unreadable
  | some text =>
      match loadHooked (plainNumber env.floatOf) strictJsonObject text with
      | .ok document => .ok document
      | .error .decode => .error unreadable
      | .error .integer => .error .value
      | .error (.hook raised) => .error raised

def criteriaRequest (raw : List UInt8) :
    Except CriteriaFault CriteriaContext := do
  match ← requestDocument env raw with
  | .dict members =>
      if ¬hasExactKeys members ["criteria_context"] then
        .error (.contract "점검 기준 요청 형식이 올바르지 않습니다.")
      else
        Collector.validateCriteriaExecutionContext env
          (getItem members "criteria_context")
  | _ => .error (.contract "점검 기준 요청 형식이 올바르지 않습니다.")

end Decoders

end SecAI.Criteria
