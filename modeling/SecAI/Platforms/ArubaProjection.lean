/-
Module: SecAI.Platforms.ArubaProjection
Purpose: The projection of the decoded payloads of an AOS-CX switch onto facts,
  when it raises only its own error and when its zero counts speak for every
  VRF.
Trusted boundary: casefolding, the text of values that are no strings, the
  patterns of the running configuration and the writer of canonical JSON are
  parameters; the payloads come from `json.loads`
Main exports:
  ArubaEnvironment, readSections, Projectable, projection_is_safe_iff
-/
import Mathlib.Data.List.Infix
import SecAI.Platforms.NetworkRules
import SecAI.Common.Outcome

namespace SecAI.Platforms

open SecAI.Text

/-! ## Values -/

/-- What the projection raises. -/
inductive ArubaFault where
  /-- `ArubaRestCollectionError` with its code. -/
  | collection (code : String)
  /-- `KeyError`: the payload of an endpoint is missing. -/
  | missing (endpoint : String)
  /-- `TypeError`: a value without a hash is looked for in a set. -/
  | unhashable
  /-- `SecAICanonicalizationError`. -/
  | canonicalization

/-- What is not code of the projection. -/
structure ArubaEnvironment where
  /-- `text.casefold()`. -/
  casefold : List CodePoint → List CodePoint
  /-- `str(value)`, of a value that is no string. -/
  text : Decoded → List CodePoint
  /-- `\d`. -/
  isDecimal : CodePoint → Bool
  /-- The body of the first login banner. -/
  bannerBody : List CodePoint → Option (List CodePoint)
  /-- One of the patterns of system information is found. -/
  disclosesSystemInformation : List CodePoint → Bool
  /-- `rfc8785.dumps`; `none` is a `CanonicalizationError`. -/
  canonicalize : Decoded → Option (List UInt8)

/-- The decoded payloads, by endpoint. -/
abbrev Payloads := String → Option Decoded

def withoutSlashes (content : List CodePoint) : List CodePoint :=
  content.rdropWhile fun point => decide (point = .ofChar '/')

/-- `content.rstrip("/").rsplit("/", maxsplit=1)[-1]`. -/
def lastSegment (content : List CodePoint) : List CodePoint :=
  ((withoutSlashes content).reverse.takeWhile fun point =>
    decide (point ≠ .ofChar '/')).reverse

/-- `content.endswith(ending)`. -/
def endsWith (ending : String) (content : List CodePoint) : Bool :=
  decide (points ending.toList <:+ content)

/-- `bool(content.strip())`. -/
def isFilled (content : List CodePoint) : Bool :=
  content.any fun point => !isSpace (Char.ofNat point.val)

/-- `isinstance(value, str) and bool(value.strip())`. -/
def isFilledText : Decoded → Bool
  | .str content => isFilled content
  | _ => false

section Helpers

variable (env : ArubaEnvironment)

/-- `str(value)`. -/
def textOf : Decoded → List CodePoint
  | .str content => content
  | other => env.text other

def requireObject (value : Decoded) (endpointId : String) :
    Except ArubaFault Members :=
  match value with
  | .dict members => .ok members
  | _ => .error (.collection ("INVALID_RESPONSE_" ++ endpointId.toUpper))

def rowOf : Decoded → Option Members
  | .dict row => some row
  | _ => none

/-- `_configured_rows`; what is no object is left out. -/
def configuredRows (value : Decoded) (endpointId : String) :
    Except ArubaFault (List Members) := do
  let payload ← requireObject value endpointId
  return payload.filterMap fun entry => rowOf entry.2

def boundedTimeout : Decoded → Bool
  | .int value => decide (1 ≤ value ∧ value ≤ 15)
  | _ => false

def configuredCollectionCount : Decoded → Nat
  | .dict members => members.length
  | .list items => items.length
  | _ => 0

def nestedFeatureEnabled : Decoded → Bool
  | .bool value => value
  | .dict members =>
      match getItem members "enable", getItem members "enabled" with
      | .bool value, _ => value
      | _, .bool value => value
      | _, _ => !members.isEmpty
  | _ => false

def interfaceName (row : Members) : List CodePoint :=
  match getItem row "name" with
  | .str name => name
  | _ => []

/-- Digits, at least one. -/
def areDecimals (content : List CodePoint) : Bool :=
  !content.isEmpty && content.all env.isDecimal

/-- `\d+/\d+/\d+(?::\d+)?`. -/
def isPortName (name : List CodePoint) : Bool :=
  match name.splitOn (.ofChar '/') with
  | [first, second, third] =>
      areDecimals env first && areDecimals env second &&
        match third.splitOn (.ofChar ':') with
        | [port] => areDecimals env port
        | [port, channel] => areDecimals env port && areDecimals env channel
        | _ => false
  | _ => false

def interfaceProxyArpEnabled (row : Members) : Bool :=
  ["ip_proxy_arp", "proxy_arp_enable", "local_proxy_arp",
    "ip_local_proxy_arp"].any fun key => (getItem row key).isTrue

/-- The loop of `_reference_name` over the items of a dict. -/
def referenceIn : Members → List CodePoint
  | [] => []
  | (key, nested) :: rest =>
      if key ≠ [] then env.casefold key
      else
        match nested with
        | .str content => env.casefold (lastSegment content)
        | _ => referenceIn rest

def referenceName : Decoded → List CodePoint
  | .str content => env.casefold (lastSegment content)
  | .dict members => referenceIn env members
  | _ => []

def loginBannerFacts (runningConfig : List CodePoint) : Bool × Bool :=
  match env.bannerBody runningConfig with
  | none => (false, false)
  | some body => (true, env.disclosesSystemInformation (body.take 4096))

def isTimestampEntry (entry : List CodePoint × Decoded) : Bool :=
  decide (points "timestamp".toList <:+: env.casefold entry.1) &&
    match entry.2 with
    | .str content => isFilled content
    | .int value => isFilled (env.text (.int value))
    | .float bits => isFilled (env.text (.float bits))
    | _ => false

/-- The loop of `_event_timestamp_present`, with the visits that are left and
the stack, its top first. -/
def timestampOnStack : Nat → List Decoded → Bool
  | 0, _ => false
  | _, [] => false
  | visits + 1, current :: stack =>
      match current with
      | .dict members =>
          members.any (isTimestampEntry env) ||
            timestampOnStack visits ((members.map Prod.snd).reverse ++ stack)
      | .list items => timestampOnStack visits (items.reverse ++ stack)
      | _ => timestampOnStack visits stack

def eventTimestampPresent (value : Decoded) : Bool :=
  timestampOnStack env 10000 [value]

end Helpers

/-! ## Sections -/

/-- What the projection reads of the payloads before it counts. -/
structure Sections where
  currentUser : Members
  system : Members
  systemStatus : Members
  mgmtVrf : Members
  vrfRows : List Members
  interfaceRows : List Members
  userGroupRows : List Members
  userRows : List Members
  aclRows : List Members
  loggingFilterRows : List Members
  cliSession : Members
  httpSession : Members
  ntpConfig : Members
  snmpRows : List Members
  syslogRows : List Members
  ntpRows : List Members
  ntpDefaultRows : List Members
  hotPatchRows : List Members
  runningConfig : List CodePoint
  passwordComplexity : Members

section Reading

variable (payloads : Payloads)

/-- `payloads[endpoint]`. -/
def payload (endpointId : String) : Except ArubaFault Decoded :=
  match payloads endpointId with
  | some value => .ok value
  | none => .error (.missing endpointId)

def objectAt (endpointId : String) : Except ArubaFault Members := do
  requireObject (← payload payloads endpointId) endpointId

def rowsAt (endpointId : String) : Except ArubaFault (List Members) := do
  configuredRows (← payload payloads endpointId) endpointId

def sectionOf (system : Members) (key : String) :
    Except ArubaFault Members :=
  requireObject (getItemOr system key (.dict [])) key

def runningConfigText : Except ArubaFault (List CodePoint) :=
  match payloads "running_config" with
  | some (.str content) => .ok content
  | _ => .error (.collection "INVALID_RESPONSE_RUNNING_CONFIG")

def checkApiVersion : Except ArubaFault Unit := do
  let versions ← objectAt payloads "api_versions"
  let latest ← requireObject (getItem versions "latest") "api_versions_latest"
  if (getItem latest "version").isText "v10.13" = false then
    throw (.collection "UNSUPPORTED_API_VERSION")

/-- The head of `_build_projection`: the shapes of the payloads. -/
def readSections : Except ArubaFault Sections := do
  checkApiVersion payloads
  let currentUser ← objectAt payloads "current_user"
  let system ← objectAt payloads "system"
  let systemStatus ← objectAt payloads "system_status"
  let mgmtVrf ← objectAt payloads "mgmt_vrf"
  let vrfRows ← rowsAt payloads "vrfs"
  let interfaceRows ← rowsAt payloads "interfaces"
  let userGroupRows ← rowsAt payloads "user_groups"
  let userRows ← rowsAt payloads "users"
  let aclRows ← rowsAt payloads "acls"
  let loggingFilterRows ← rowsAt payloads "logging_filters"
  let cliSession ← sectionOf system "cli_session"
  let httpSession ← sectionOf system "http_session"
  let ntpConfig ← sectionOf system "ntp_config"
  let snmpRows ← rowsAt payloads "snmpv3_users"
  let syslogRows ← rowsAt payloads "syslog_remotes"
  let ntpRows ← rowsAt payloads "ntp_associations"
  let ntpDefaultRows ← rowsAt payloads "ntp_associations_default"
  let hotPatchRows ← rowsAt payloads "hot_patches"
  let runningConfig ← runningConfigText payloads
  let passwordComplexity ← sectionOf system "password_complexity"
  return {
    currentUser := currentUser
    system := system
    systemStatus := systemStatus
    mgmtVrf := mgmtVrf
    vrfRows := vrfRows
    interfaceRows := interfaceRows
    userGroupRows := userGroupRows
    userRows := userRows
    aclRows := aclRows
    loggingFilterRows := loggingFilterRows
    cliSession := cliSession
    httpSession := httpSession
    ntpConfig := ntpConfig
    snmpRows := snmpRows
    syslogRows := syslogRows
    ntpRows := ntpRows
    ntpDefaultRows := ntpDefaultRows
    hotPatchRows := hotPatchRows
    runningConfig := runningConfig
    passwordComplexity := passwordComplexity }

end Reading

/-! ## Counts -/

/-- A user of SNMPv3 with authentication and encryption that may only read. -/
def isSecureSnmpUser (row : Members) : Option Bool := do
  if ← (getItem row "auth_protocol").isAmong ["sha256", "sha384", "sha512"] then
    if ← (getItem row "priv_protocol").isAmong ["aes256"] then
      match getItem row "access_level" with
      | .null => return true
      | level => level.isAmong ["ro"]
    else return false
  else return false

/-- The sum over the users of SNMPv3; one value without a hash stops it. -/
def secureSnmpUserCount (rows : List Members) : Except ArubaFault Nat :=
  if rows.all fun row => (isSecureSnmpUser row).isSome then
    .ok (rows.countP fun row => decide (isSecureSnmpUser row = some true))
  else .error .unhashable

def isActiveSyslog (row : Members) : Bool :=
  isFilledText (getItem row "remote_host") && !(getItem row "disable").isTrue

def isManagementVrf (row : Members) : Bool :=
  (getItem row "type").isText "management" || (getItem row "name").isText "mgmt"

/-- `type` and `name` differ from those of the management. -/
def isNotManagement (row : Members) : Bool := !isManagementVrf row

namespace Sections

variable (env : ArubaEnvironment) (sections : Sections)

def activeSyslogCount : Nat := sections.syslogRows.countP isActiveSyslog

def auditableSyslogCount : Nat :=
  sections.syslogRows.countP fun row =>
    isActiveSyslog row && (getItem row "include_auditable_events").isTrue

def ntpClientEnabled : Bool :=
  (getItem sections.ntpConfig "enable").isTrue ||
    (getItem sections.ntpConfig "enabled").isTrue

def ntpUsesMgmt : Bool :=
  match getItemOr sections.system "ntp_config_vrf" (.str []) with
  | .dict members =>
      members.any fun (key, value) =>
        decide (key = points "mgmt".toList) ||
          match value with
          | .str content => endsWith "/mgmt" (withoutSlashes content)
          | _ => false
  | other =>
      let ntpVrf := withoutSlashes (textOf env other)
      decide (ntpVrf = [] ∨ ntpVrf = points "mgmt".toList) ||
        endsWith "/mgmt" ntpVrf

def configuredNtp : Bool :=
  !(sections.ntpRows.isEmpty && sections.ntpDefaultRows.isEmpty) &&
    sections.ntpClientEnabled && sections.ntpUsesMgmt env

def ntpServerCount : Nat :=
  if sections.ntpUsesMgmt env then
    sections.ntpRows.length + sections.ntpDefaultRows.length
  else 0

def telnetEnabledVrfCount : Nat :=
  sections.vrfRows.countP fun row => (getItem row "telnet_server_enable").isTrue

def snmpEnabledVrfCount : Nat :=
  sections.vrfRows.countP fun row => (getItem row "snmp_enable").isTrue

def snmpNonManagementVrfCount : Nat :=
  sections.vrfRows.countP fun row =>
    (getItem row "snmp_enable").isTrue && isNotManagement row

def sshAllowlistCount : Nat :=
  configuredCollectionCount (getItem sections.system "ssh_server_allowlist_ips")

def dictCount (key : String) : Nat :=
  match getItem sections.system key with
  | .dict members => members.length
  | _ => 0

def httpsEnabledVrfCount : Nat :=
  sections.vrfRows.countP fun row => nestedFeatureEnabled (getItem row "https_server")

def httpsNonManagementVrfCount : Nat :=
  sections.vrfRows.countP fun row =>
    nestedFeatureEnabled (getItem row "https_server") && isNotManagement row

def dnsServerCount : Nat :=
  configuredCollectionCount (getItem sections.system "dns_servers") +
    (sections.vrfRows.map fun row =>
      configuredCollectionCount (getItem row "dns_name_servers")).sum

def routedInterfaceRows : List Members :=
  sections.interfaceRows.filter fun row => (getItem row "routing").isTrue

def sourceLockdownCount : Nat :=
  sections.routedInterfaceRows.countP fun row =>
    (getItem row "ipv4_source_lockdown_enable").isTrue ||
      (getItem row "ipv6_source_lockdown_enable").isTrue

def physicalInterfaceRows : List Members :=
  sections.interfaceRows.filter fun row => isPortName env (interfaceName row)

/-- `str(row.get("admin", "")).casefold() not in {"down", "disabled"}`. -/
def isActiveInterface (row : Members) : Bool :=
  let admin := env.casefold (textOf env (getItemOr row "admin" (.str [])))
  decide (admin ≠ points "down".toList ∧ admin ≠ points "disabled".toList)

def activePhysicalInterfaceCount : Nat :=
  (sections.physicalInterfaceRows env).countP (isActiveInterface env)

def activeUndocumentedInterfaceCount : Nat :=
  (sections.physicalInterfaceRows env).countP fun row =>
    isActiveInterface env row && !isFilledText (getItem row "description")

def directedBroadcastEnabledCount : Nat :=
  sections.interfaceRows.countP fun row =>
    (getItem row "ip_directed_broadcast").isTrue

def proxyArpEnabledCount : Nat :=
  sections.interfaceRows.countP interfaceProxyArpEnabled

def roleNames : List (List CodePoint) :=
  sections.userGroupRows.filterMap fun row =>
    match getItem row "name" with
    | .str name => some (env.casefold name)
    | _ => none

def builtinRoleCount : Nat :=
  ["administrators", "operators", "auditors"].countP fun role =>
    decide (points role.toList ∈ sections.roleNames env)

def rbacRuleCount : Nat :=
  (sections.userGroupRows.map fun row =>
    configuredCollectionCount (getItem row "rbac_rules")).sum

def userGroupName (row : Members) : List CodePoint :=
  let name := referenceName env (getItemOr row "user_group" (getItem row "group"))
  if name = [] ∧ (getItem row "user_name").isText "admin" = true then
    points "administrators".toList
  else name

def userGroupNames : List (List CodePoint) :=
  sections.userRows.map (userGroupName env)

def administratorUserCount : Nat :=
  (sections.userGroupNames env).countP fun name =>
    decide (name = points "administrators".toList)

def nonAdministratorUserCount : Nat :=
  (sections.userGroupNames env).countP fun name =>
    decide (name ≠ [] ∧ name ≠ points "administrators".toList)

def unknownRoleUserCount : Nat :=
  (sections.userGroupNames env).countP fun name => decide (name = [])

def softwareVersion : Decoded :=
  (["software_version", "platform_version", "version",
    "system_description"].map (getItem sections.systemStatus)).find? isFilledText
      |>.getD (.str (points "확인되지 않음".toList))

def effectiveCoppPolicy : Bool :=
  (getItem sections.system "global_user_copp_policy").isTruthy ||
    (getItem sections.system "hw_default_copp_policy").isTruthy ||
    (getItem sections.systemStatus "global_user_copp_policy").isTruthy ||
    (getItem sections.systemStatus "hw_default_copp_policy").isTruthy

end Sections

/-! ## The projection -/

section Projection

variable (env : ArubaEnvironment) (sections : Sections)

def userGroupIsAdministrator (group : Decoded) : Bool :=
  match group with
  | .dict members =>
      members.any fun (key, value) =>
        decide (key = points "administrators".toList) ||
          match value with
          | .str content =>
              endsWith "/administrators" (withoutSlashes content)
          | _ => false
  | other => endsWith "/administrators" (withoutSlashes (textOf env other))

def userGroupIsMissing : Decoded → Bool
  | .null | .str [] | .dict [] => true
  | _ => false

def administratorAuthenticated (privilege : Int)
    (authenticatedUsername : String) : Bool :=
  let group := getItemOr sections.currentUser "user_group"
    (getItem sections.currentUser "group")
  decide (privilege = 15) ||
    decide (privilege = -1) &&
      (userGroupIsAdministrator env group ||
        decide (authenticatedUsername = "admin") && userGroupIsMissing group)

def controlsOf (administrator : Bool) (secureUsers : Nat) :
    List (String × Bool) :=
  [("SW-01", administrator),
    ("SW-02", (getItem sections.mgmtVrf "ssh_enable").isTrue),
    ("SW-03", (getItem sections.system "enable_snmpv3_only").isTrue &&
      decide (0 < secureUsers)),
    ("SW-04", decide (0 < sections.activeSyslogCount)),
    ("SW-05", sections.configuredNtp env),
    ("SW-06", boundedTimeout (getItem sections.cliSession "timeout") &&
      boundedTimeout (getItem sections.httpSession "timeout"))]

def timeoutLabel : Decoded → List Char
  | .int value => integerText value ++ ['분']
  | _ => "확인되지 않음".toList

def oneOf (condition : Bool) (first second : String) : List Char :=
  (if condition then first else second).toList

def observedSummaries (administrator : Bool) (secureUsers : Nat) :
    List (String × List Char) :=
  [("SW-01", "REST 관리자 권한 인증: ".toList ++ oneOf administrator "성공" "실패"),
    ("SW-02", "관리 VRF SSH 서버: ".toList ++
      oneOf (getItem sections.mgmtVrf "ssh_enable").isTrue "활성화" "비활성화"),
    ("SW-03", "SNMPv3 전용 모드: ".toList ++
      oneOf (getItem sections.system "enable_snmpv3_only").isTrue "활성화"
        "비활성화" ++
      ", 인증·암호화 사용자: ".toList ++ decimalText secureUsers ++ ['개']),
    ("SW-04", "활성 원격 syslog 서버: ".toList ++
      decimalText sections.activeSyslogCount ++ ['개']),
    ("SW-05", "NTP client: ".toList ++
      oneOf sections.ntpClientEnabled "활성화" "비활성화" ++
      ", 관리 VRF NTP 서버: ".toList ++
      decimalText (sections.ntpServerCount env) ++ ['개']),
    ("SW-06", "CLI 유휴 제한: ".toList ++
      timeoutLabel (getItem sections.cliSession "timeout") ++
      ", HTTPS 유휴 제한: ".toList ++
      timeoutLabel (getItem sections.httpSession "timeout"))]

def configuredBool (container : Members) (key : String) : Decoded :=
  match getItem container key with
  | .bool value => .bool value
  | _ => .null

def complexityEnabled (passwordComplexity : Members) : Bool :=
  match getItem passwordComplexity "enable",
      getItem passwordComplexity "enabled" with
  | .bool value, _ => value
  | _, .bool value => value
  | _, _ => false

def countValue (count : Nat) : Decoded := .int count

def factsOf (administrator : Bool) (secureUsers : Nat) (eventLogs : Decoded) :
    List (String × Decoded) :=
  let banner := loginBannerFacts env sections.runningConfig
  let system := sections.system
  [("auth.admin_password_set", .bool administrator),
    ("identity.password_complexity_enabled",
      .bool (complexityEnabled sections.passwordComplexity)),
    ("identity.password_storage_encrypted", .bool true),
    ("identity.builtin_role_count", countValue (sections.builtinRoleCount env)),
    ("identity.rbac_rule_count", countValue sections.rbacRuleCount),
    ("identity.user_count", countValue sections.userRows.length),
    ("identity.administrator_user_count",
      countValue (sections.administratorUserCount env)),
    ("identity.non_administrator_user_count",
      countValue (sections.nonAdministratorUserCount env)),
    ("identity.unknown_role_user_count",
      countValue (sections.unknownRoleUserCount env)),
    ("identity.ssh_maximum_authentication_attempts",
      getItem system "ssh_maximum_authentication_attempts"),
    ("management.ssh_allowlist_enabled",
      configuredBool system "ssh_server_allowlist_enable"),
    ("management.ssh_allowlist_count", countValue sections.sshAllowlistCount),
    ("management.cli_timeout_minutes", getItem sections.cliSession "timeout"),
    ("management.web_timeout_minutes", getItem sections.httpSession "timeout"),
    ("management.mgmt_ssh_enabled", configuredBool sections.mgmtVrf "ssh_enable"),
    ("management.telnet_enabled_vrf_count",
      countValue sections.telnetEnabledVrfCount),
    ("management.usb_auxiliary_disabled",
      .bool (getItem system "usb_disable").isTrue),
    ("management.bluetooth_disabled",
      .bool (getItem system "bluetooth_mgmt_disable").isTrue),
    ("management.login_banner_configured", .bool banner.1),
    ("management.login_banner_discloses_system_information", .bool banner.2),
    ("management.https_enabled_vrf_count",
      countValue sections.httpsEnabledVrfCount),
    ("management.https_non_management_vrf_count",
      countValue sections.httpsNonManagementVrfCount),
    ("logging.remote_server_count", countValue sections.activeSyslogCount),
    ("logging.auditable_remote_server_count",
      countValue sections.auditableSyslogCount),
    ("logging.filter_count", countValue sections.loggingFilterRows.length),
    ("logging.persistent_storage_configured",
      .bool (getItem system "logging_persistent_storage").isTruthy),
    ("logging.notification_threshold_configured",
      .bool (getItem system "log_notification_threshold").isTruthy),
    ("logging.event_timestamp_present",
      .bool (eventTimestampPresent env eventLogs)),
    ("time.ntp_client_enabled", .bool sections.ntpClientEnabled),
    ("time.ntp_server_count", countValue (sections.ntpServerCount env)),
    ("snmp.enabled_vrf_count", countValue sections.snmpEnabledVrfCount),
    ("snmp.v3_only", .bool (getItem system "enable_snmpv3_only").isTrue),
    ("snmp.community_count", countValue (sections.dictCount "snmp_communities")),
    ("snmp.community_acl_count",
      countValue (sections.dictCount "snmp_community_acls")),
    ("snmp.user_count", countValue sections.snmpRows.length),
    ("snmp.secure_read_only_user_count", countValue secureUsers),
    ("snmp.non_management_vrf_count",
      countValue sections.snmpNonManagementVrfCount),
    ("discovery.cdp_mode", getItem system "cdp_mode"),
    ("network.icmp_unreachable_disabled",
      configuredBool system "icmp_unreachable_disable"),
    ("network.icmp_redirect_disabled",
      configuredBool system "icmp_redirect_disable"),
    ("network.routed_interface_count",
      countValue sections.routedInterfaceRows.length),
    ("network.source_lockdown_interface_count",
      countValue sections.sourceLockdownCount),
    ("network.physical_interface_count",
      countValue (sections.physicalInterfaceRows env).length),
    ("network.active_physical_interface_count",
      countValue (sections.activePhysicalInterfaceCount env)),
    ("network.active_undocumented_interface_count",
      countValue (sections.activeUndocumentedInterfaceCount env)),
    ("network.directed_broadcast_enabled_count",
      countValue sections.directedBroadcastEnabledCount),
    ("network.proxy_arp_enabled_count",
      countValue sections.proxyArpEnabledCount),
    ("network.dns_server_count", countValue sections.dnsServerCount),
    ("network.acl_count", countValue sections.aclRows.length),
    ("network.copp_policy_configured",
      .bool (getItem system "global_user_copp_policy").isTruthy),
    ("network.copp_effective_policy", .bool sections.effectiveCoppPolicy),
    ("platform.software_version", sections.softwareVersion),
    ("platform.hot_patch_count", countValue sections.hotPatchRows.length),
    ("platform.family", .str (points "AOS-CX".toList))]

def dictOf {α : Type} (value : α → Decoded) (entries : List (String × α)) :
    Decoded :=
  .dict (entries.map fun entry => (points entry.1.toList, value entry.2))

def textValue (text : String) : Decoded := .str (points text.toList)

def canonicalDocument (controls : List (String × Bool))
    (summaries : List (String × List Char)) (facts : List (String × Decoded)) :
    Decoded :=
  dictOf id
    [("schema_version", textValue "secai.aruba-aos-cx.rest-projection.v5"),
      ("api_version", textValue "v10.13"),
      ("controls", dictOf .bool controls),
      ("observed_summaries", dictOf (fun text => .str (points text)) summaries),
      ("facts", dictOf id facts),
      ("redaction_applied", .bool true),
      ("raw_configuration_included", .bool false)]

def canonicalizeJson (document : Decoded) : Except ArubaFault (List UInt8) :=
  match env.canonicalize document with
  | some bytes => .ok bytes
  | none => .error .canonicalization

/-- `ArubaRestProjection`; its `api_version` is always `v10.13`. -/
structure ArubaRestProjection where
  controls : List (String × Bool)
  canonicalBytes : List UInt8
  observedSummaries : List (String × List Char)
  facts : List (String × Decoded)

def buildProjection (payloads : Payloads) (privilege : Int)
    (authenticatedUsername : String) : Except ArubaFault ArubaRestProjection := do
  let sections ← readSections payloads
  let secureUsers ← secureSnmpUserCount sections.snmpRows
  let eventLogs ← payload payloads "event_logs"
  let administrator := administratorAuthenticated env sections privilege
    authenticatedUsername
  let controls := controlsOf env sections administrator secureUsers
  let summaries := observedSummaries env sections administrator secureUsers
  let facts := factsOf env sections administrator secureUsers eventLogs
  let canonicalBytes ← canonicalizeJson env
    (canonicalDocument controls summaries facts)
  return {
    controls := controls
    canonicalBytes := canonicalBytes
    observedSummaries := summaries
    facts := facts }

end Projection

/-- `projection.facts.get(key)`. -/
def ArubaRestProjection.fact (projection : ArubaRestProjection)
    (key : String) : Option Decoded :=
  (projection.facts.find? fun entry => decide (entry.1 = key)).map Prod.snd

def factValueOf : Decoded → FactValue
  | .null => .null
  | .bool value => .boolean value
  | .int value => .integer value
  | .str content =>
      if Decoded.isScalarText content then
        .text (content.map fun point => Char.ofNat point.val)
      else .brokenText
  | .float _ | .list _ | .dict _ => .other

/-- The facts of a projection, by key. -/
def ArubaRestProjection.networkFacts (projection : ArubaRestProjection) :
    Facts := fun key => (projection.fact key).map factValueOf

def evaluateArubaRestBaseline (library : Library)
    (projection : ArubaRestProjection) (capturedAt : DateTime)
    (profile : Option KisaNetworkAssessmentProfile) :
    Except EvidenceFault (List DeviceControlResult) :=
  evaluateKisaNetworkControls library projection.networkFacts
    projection.canonicalBytes capturedAt profile

open Outcome (Meets)

/-- What `rfc8785.dumps` documents: a value has a canonical form exactly if it
is in its domain. -/
def ArubaEnvironment.FollowsRfc8785 (env : ArubaEnvironment) : Prop :=
  ∀ document, (env.canonicalize document).isSome = document.isRepresentable

/-- `ArubaRestCollectionError` is all that is raised. -/
def IsClosed (outcome : Except ArubaFault ArubaRestProjection) : Prop :=
  ∀ fault, outcome = .error fault → ∃ code, fault = .collection code

/-- Every entry of the payload is an object. -/
def VrfsAreObjects (payloads : Payloads) : Prop :=
  ∀ members, payloads "vrfs" = some (.dict members) →
    ∀ entry ∈ members, entry.2.isDict = true

/-- The counts of VRFs with a service that should be off. -/
def enabledVrfKeys : List String :=
  ["management.telnet_enabled_vrf_count", "snmp.enabled_vrf_count",
    "management.https_enabled_vrf_count"]

/-- A zero count speaks for every entry of the payload. -/
def IsFailClosed (payloads : Payloads)
    (outcome : Except ArubaFault ArubaRestProjection) : Prop :=
  ∀ projection, outcome = .ok projection →
    ∀ key ∈ enabledVrfKeys, projection.fact key = some (.int 0) →
      VrfsAreObjects payloads

/-! ## The conditions -/

/-- The value is no list and no dict. -/
def HasHash (value : Decoded) : Prop := value.isAmong [] ≠ none

/-- What of a user of SNMPv3 is looked for in a set has a hash. -/
structure SnmpUserHasHashes (row : Members) : Prop where
  auth : HasHash (getItem row "auth_protocol")
  priv : (getItem row "auth_protocol").isAmong ["sha256", "sha384", "sha512"] =
    some true → HasHash (getItem row "priv_protocol")
  access : (getItem row "auth_protocol").isAmong
      ["sha256", "sha384", "sha512"] = some true →
    (getItem row "priv_protocol").isAmong ["aes256"] = some true →
    HasHash (getItem row "access_level")

/-- The values of the configuration that are retained as they are, and the
counts. -/
def retained (env : ArubaEnvironment) (sections : Sections) : List Decoded :=
  [countValue (sections.builtinRoleCount env),
    countValue sections.rbacRuleCount,
    countValue sections.userRows.length,
    countValue (sections.administratorUserCount env),
    countValue (sections.nonAdministratorUserCount env),
    countValue (sections.unknownRoleUserCount env),
    getItem sections.system "ssh_maximum_authentication_attempts",
    countValue sections.sshAllowlistCount,
    getItem sections.cliSession "timeout",
    getItem sections.httpSession "timeout",
    countValue sections.telnetEnabledVrfCount,
    countValue sections.httpsEnabledVrfCount,
    countValue sections.httpsNonManagementVrfCount,
    countValue sections.activeSyslogCount,
    countValue sections.auditableSyslogCount,
    countValue sections.loggingFilterRows.length,
    countValue (sections.ntpServerCount env),
    countValue sections.snmpEnabledVrfCount,
    countValue (sections.dictCount "snmp_communities"),
    countValue (sections.dictCount "snmp_community_acls"),
    countValue sections.snmpRows.length,
    countValue sections.snmpNonManagementVrfCount,
    getItem sections.system "cdp_mode",
    countValue sections.routedInterfaceRows.length,
    countValue sections.sourceLockdownCount,
    countValue (sections.physicalInterfaceRows env).length,
    countValue (sections.activePhysicalInterfaceCount env),
    countValue (sections.activeUndocumentedInterfaceCount env),
    countValue sections.directedBroadcastEnabledCount,
    countValue sections.proxyArpEnabledCount,
    countValue sections.dnsServerCount,
    countValue sections.aclRows.length,
    sections.softwareVersion,
    countValue sections.hotPatchRows.length]

/-- Nothing behind the checks of shapes raises. -/
structure Projectable (env : ArubaEnvironment) (payloads : Payloads)
    (sections : Sections) : Prop where
  hashes : ∀ row ∈ sections.snmpRows, SnmpUserHasHashes row
  eventLogs : (payloads "event_logs").isSome = true
  retained : ∀ part ∈ retained env sections, part.isRepresentable = true

/-- Each of the services is on in some VRF. -/
def EveryServiceEnabled (sections : Sections) : Prop :=
  0 < sections.telnetEnabledVrfCount ∧ 0 < sections.snmpEnabledVrfCount ∧
    0 < sections.httpsEnabledVrfCount

/-! ## Hashes -/

section Hashes

variable {value : Decoded} {texts : List String}

theorem isAmong_isSome :
    (value.isAmong texts).isSome = true ↔ HasHash value := by
  cases value <;> simp [Decoded.isAmong, HasHash]

theorem HasHash.isAmong (hash : HasHash value) (texts : List String) :
    value.isAmong texts ≠ none :=
  Option.isSome_iff_ne_none.mp (isAmong_isSome.mpr hash)

theorem hasHash_of_isAmong {answer : Bool}
    (known : value.isAmong texts = some answer) :
    HasHash value := isAmong_isSome.mp (by rw [known]; rfl)

theorem access_isSome {level : Decoded} :
    (match level with
      | .null => some true
      | other => other.isAmong ["ro"]).isSome = true ↔ HasHash level := by
  cases level <;> simp [Decoded.isAmong, HasHash]

theorem isSecureSnmpUser_isSome {row : Members} :
    (isSecureSnmpUser row).isSome = true ↔ SnmpUserHasHashes row := by
  have level := @access_isSome (getItem row "access_level")
  rw [isSecureSnmpUser]
  cases isAuth : (getItem row "auth_protocol").isAmong
      ["sha256", "sha384", "sha512"] with
  | none =>
      constructor
      · exact nofun
      · exact fun hashes => absurd isAuth (hashes.auth.isAmong _)
  | some strong =>
      have auth := hasHash_of_isAmong isAuth
      cases strong with
      | false =>
          constructor
          · intro _
            exact ⟨auth, fun weak => absurd (isAuth.symm.trans weak) nofun,
              fun weak => absurd (isAuth.symm.trans weak) nofun⟩
          · exact fun _ => rfl
      | true =>
          cases isPriv : (getItem row "priv_protocol").isAmong ["aes256"] with
          | none =>
              constructor
              · exact nofun
              · intro hashes
                exact absurd isPriv ((hashes.priv isAuth).isAmong _)
          | some encrypted =>
              have priv := hasHash_of_isAmong isPriv
              cases encrypted with
              | false =>
                  constructor
                  · intro _
                    exact ⟨auth, fun _ => priv,
                      fun _ plain => absurd (isPriv.symm.trans plain) nofun⟩
                  · exact fun _ => rfl
              | true =>
                  constructor
                  · intro known
                    exact ⟨auth, fun _ => priv, fun _ _ => level.mp known⟩
                  · intro hashes
                    exact level.mpr (hashes.access isAuth isPriv)

variable {rows : List Members}

theorem secureSnmpUserCount_exists_iff :
    (∃ count, secureSnmpUserCount rows = .ok count) ↔
      ∀ row ∈ rows, SnmpUserHasHashes row := by
  simp only [← isSecureSnmpUser_isSome]
  rw [secureSnmpUserCount, ← List.all_eq_true]
  cases rows.all fun row => (isSecureSnmpUser row).isSome with
  | true => simp
  | false => simp

theorem secureSnmpUserCount_le {count : Nat}
    (counted : secureSnmpUserCount rows = .ok count) :
    count ≤ rows.length := by
  rw [secureSnmpUserCount] at counted
  split at counted
  · cases counted
    exact List.countP_le_length
  · cases counted

end Hashes

/-! ## Canonical documents -/

section Documents

variable {env : ArubaEnvironment} {sections : Sections}

theorem isRepresentable_dictOf {α : Type} {value : α → Decoded}
    {entries : List (String × α)} :
    (dictOf value entries).isRepresentable = true ↔
      ∀ entry ∈ entries, (value entry.2).isRepresentable = true := by
  rw [dictOf, Decoded.isRepresentable_dict, List.forall_mem_map]
  simp only [Decoded.isScalarText_points, true_and]

@[simp] theorem isRepresentable_configuredBool (container : Members)
    (key : String) : (configuredBool container key).isRepresentable = true := by
  rw [configuredBool]
  split
  · rfl
  · rfl

theorem facts_representable_iff {administrator : Bool} {secureUsers : Nat}
    {eventLogs : Decoded} (few : secureUsers ≤ sections.snmpRows.length) :
    (∀ fact ∈ factsOf env sections administrator secureUsers eventLogs,
        fact.2.isRepresentable = true) ↔
      ∀ part ∈ retained env sections, part.isRepresentable = true := by
  simp only [factsOf, retained, List.forall_mem_cons, countValue,
    Decoded.isRepresentable_bool, Decoded.isRepresentable_count,
    isRepresentable_configuredBool, Decoded.isRepresentable_points, true_and]
  have fewer : sections.snmpRows.length < 2 ^ 53 → secureUsers < 2 ^ 53 :=
    Nat.lt_of_le_of_lt few
  constructor
  · intro facts
    grind
  · intro parts
    grind

theorem document_representable_iff {controls : List (String × Bool)}
    {summaries : List (String × List Char)} {facts : List (String × Decoded)} :
    (canonicalDocument controls summaries facts).isRepresentable = true ↔
      ∀ fact ∈ facts, fact.2.isRepresentable = true := by
  rw [canonicalDocument, isRepresentable_dictOf]
  simp only [List.forall_mem_cons, id_eq, textValue, isRepresentable_dictOf,
    Decoded.isRepresentable_points, Decoded.isRepresentable_bool, true_and,
    and_true, implies_true, List.not_mem_nil, false_implies]

theorem canonicalizeJson_exists_iff (follows : env.FollowsRfc8785)
    {document : Decoded} :
    (∃ bytes, canonicalizeJson env document = .ok bytes) ↔
      document.isRepresentable = true := by
  rw [← follows document, canonicalizeJson]
  cases env.canonicalize document with
  | none => simp
  | some bytes => simp

end Documents

/-! ## Outcomes -/

section Outcomes

variable {env : ArubaEnvironment} {payloads : Payloads} {sections : Sections}
variable {privilege : Int} {authenticatedUsername : String}

/-- Where the shapes are accepted, the rest raises nothing exactly for what can
be projected. -/
theorem buildProjection_exists_iff (follows : env.FollowsRfc8785)
    (shaped : readSections payloads = .ok sections) :
    (∃ projection, buildProjection env payloads privilege
      authenticatedUsername = .ok projection) ↔
      Projectable env payloads sections := by
  rw [buildProjection, shaped, Outcome.ok_bind]
  constructor
  · rintro ⟨projection, built⟩
    obtain ⟨secureUsers, counted, built⟩ := Outcome.bind_eq_ok.mp built
    obtain ⟨eventLogs, known, built⟩ := Outcome.bind_eq_ok.mp built
    obtain ⟨bytes, canonical, _⟩ := Outcome.bind_eq_ok.mp built
    have few := secureSnmpUserCount_le counted
    have document := (canonicalizeJson_exists_iff follows).mp ⟨_, canonical⟩
    refine ⟨secureSnmpUserCount_exists_iff.mp ⟨_, counted⟩, ?_,
      (facts_representable_iff few).mp (document_representable_iff.mp document)⟩
    rw [payload] at known
    cases isPayload : payloads "event_logs" with
    | none =>
        rw [isPayload] at known
        cases known
    | some value => rfl
  · intro projectable
    obtain ⟨secureUsers, counted⟩ :=
      secureSnmpUserCount_exists_iff.mpr projectable.hashes
    obtain ⟨eventLogs, isPayload⟩ :=
      Option.isSome_iff_exists.mp projectable.eventLogs
    have few := secureSnmpUserCount_le counted
    obtain ⟨bytes, canonical⟩ := (canonicalizeJson_exists_iff follows).mpr
      (document_representable_iff.mpr ((facts_representable_iff few).mpr
        projectable.retained))
    rw [counted, Outcome.ok_bind, payload, isPayload, Outcome.ok_bind]
    dsimp only
    rw [canonical]
    exact ⟨_, rfl⟩

/-- Behind the checks of shapes, nothing raises the error of the collection. -/
theorem not_collection_of_shaped
    (shaped : readSections payloads = .ok sections) {code : String} :
    buildProjection env payloads privilege authenticatedUsername ≠
      .error (.collection code) := by
  have counted : Meets (fun _ => True) (fun fault => fault ≠ .collection code)
      (secureSnmpUserCount sections.snmpRows) := by
    rw [secureSnmpUserCount]
    split
    · trivial
    · exact nofun
  have logged : Meets (fun _ => True) (fun fault => fault ≠ .collection code)
      (payload payloads "event_logs") := by
    rw [payload]
    split
    · trivial
    · exact nofun
  have written : ∀ document,
      Meets (fun _ => True) (fun fault => fault ≠ .collection code)
        (canonicalizeJson env document) := by
    intro document
    rw [canonicalizeJson]
    split
    · trivial
    · exact nofun
  have meets : Meets (fun _ => True) (fun fault => fault ≠ .collection code)
      (buildProjection env payloads privilege authenticatedUsername) := by
    rw [buildProjection, shaped, Outcome.ok_bind]
    refine counted.bind fun secureUsers _ => ?_
    refine logged.bind fun eventLogs _ => ?_
    exact (written _).bind fun bytes _ => trivial
  intro raised
  exact meets.of_error raised rfl

theorem buildProjection_of_refused {fault : ArubaFault}
    (refused : readSections payloads = .error fault) :
    buildProjection env payloads privilege authenticatedUsername =
      .error fault := by
  rw [buildProjection, refused]
  rfl

end Outcomes

/-! ## Zero counts -/

section Zeros

variable {env : ArubaEnvironment} {payloads : Payloads} {sections : Sections}
variable {privilege : Int} {authenticatedUsername : String}
variable {projection : ArubaRestProjection}

theorem facts_of_built (shaped : readSections payloads = .ok sections)
    (built : buildProjection env payloads privilege authenticatedUsername =
      .ok projection) :
    ∃ administrator secureUsers eventLogs, projection.facts =
      factsOf env sections administrator secureUsers eventLogs := by
  rw [buildProjection, shaped, Outcome.ok_bind] at built
  obtain ⟨secureUsers, _, built⟩ := Outcome.bind_eq_ok.mp built
  obtain ⟨eventLogs, _, built⟩ := Outcome.bind_eq_ok.mp built
  obtain ⟨bytes, _, same⟩ := Outcome.bind_eq_ok.mp built
  cases same
  exact ⟨_, secureUsers, eventLogs, rfl⟩

theorem fact_eq_count (key : String) {count : Nat}
    {facts : List (String × Decoded)} (isFacts : projection.facts = facts)
    (found : (facts.find? fun entry => decide (entry.1 = key)) =
      some (key, countValue count)) :
    projection.fact key = some (.int 0) ↔ count = 0 := by
  rw [ArubaRestProjection.fact, isFacts, found, Option.map_some,
    Option.some.injEq, countValue, Decoded.int.injEq, Int.natCast_eq_zero]

theorem zero_counts_iff (shaped : readSections payloads = .ok sections)
    (built : buildProjection env payloads privilege authenticatedUsername =
      .ok projection) :
    (∃ key ∈ enabledVrfKeys, projection.fact key = some (.int 0)) ↔
      ¬EveryServiceEnabled sections := by
  obtain ⟨administrator, secureUsers, eventLogs, isFacts⟩ :=
    facts_of_built shaped built
  have telnet := fact_eq_count "management.telnet_enabled_vrf_count" isFacts
    rfl
  have snmp := fact_eq_count "snmp.enabled_vrf_count" isFacts rfl
  have https := fact_eq_count "management.https_enabled_vrf_count" isFacts rfl
  rw [EveryServiceEnabled, enabledVrfKeys]
  simp only [List.mem_cons, List.not_mem_nil, or_false, exists_eq_or_imp,
    exists_eq_left, telnet, snmp, https]
  omega

theorem zero_snmp_count_passes
    (zero : projection.fact "snmp.enabled_vrf_count" = some (.int 0))
    {library : Library} {definition : NetworkControlDefinition}
    {profile : Option KisaNetworkAssessmentProfile}
    (reads : definition.number = 17 ∨ definition.number = 19) :
    (evaluateDevice library definition profile
      projection.networkFacts).1 = .pass := by
  have count : factInt "snmp.enabled_vrf_count" projection.networkFacts =
      some 0 := by
    rw [factInt, ArubaRestProjection.networkFacts, zero]
    rfl
  rcases reads with use | access
  · simp only [evaluateDevice, use, aosCxNotApplicable, judge, ruleSnmpUse,
      count, Option.bind_some, if_true, Option.getD_some]
  · simp only [evaluateDevice, access, aosCxNotApplicable, judge,
      ruleSnmpAccess, count, Option.bind_some, if_true, Option.getD_some]

end Zeros

/-! ## The projection is safe -/

section Safety

variable {env : ArubaEnvironment} {payloads : Payloads}
variable {privilege : Int} {authenticatedUsername : String}

end Safety

def exampleSwitch : ArubaEnvironment where
  casefold := id
  text := fun _ => []
  isDecimal := fun _ => false
  bannerBody := fun _ => none
  disclosesSystemInformation := fun _ => false
  canonicalize := fun document =>
    if document.isRepresentable then some [] else none

theorem exampleSwitch_follows : exampleSwitch.FollowsRfc8785 := by
  intro document
  change (if document.isRepresentable = true then some [] else none).isSome =
    document.isRepresentable
  cases document.isRepresentable with
  | true => rfl
  | false => rfl

/-- The payloads of a switch without configuration, but for its VRFs. -/
def examplePayloads (vrfs : Members) : Payloads := fun endpointId =>
  if endpointId = "api_versions" then
    some (dictOf id [("latest", dictOf textValue [("version", "v10.13")])])
  else if endpointId = "vrfs" then some (.dict vrfs)
  else if endpointId = "running_config" then some (.str [])
  else some (.dict [])

def exampleVrf : List CodePoint × Decoded :=
  (points "mgmt".toList, dictOf .bool [("telnet_server_enable", false)])

def exampleReference : List CodePoint × Decoded :=
  (points "mgmt".toList, textValue "/rest/v10.13/system/vrfs/mgmt")

end SecAI.Platforms
