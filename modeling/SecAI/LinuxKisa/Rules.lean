/-
Module: SecAI.LinuxKisa.Rules
Purpose: What the rules on a Linux server read from the outputs of its probes,
  the rules U-01 to U-67, and when a file that passes grants no permission
  beyond the allowed ones.
Trusted boundary: the Unicode database is a parameter
Main exports:
  FileControl, file_control_passes_safe_files_iff, Outputs, Verdict
-/
import Mathlib.Data.Int.Bitwise
import SecAI.Platforms.Contracts
import SecAI.Text.Numerals
import SecAI.Text.Utf8
import Mathlib.Data.List.Infix
import SecAI.Text.Pattern

namespace SecAI.LinuxKisa

open SecAI.Text
open SecAI.Platforms (AssessmentStatus)

/-- The permissions that a mode grants, by their bits. -/
def permissions (mode : Int) : Set Nat := {bit | mode.testBit bit = true}

/-- Every permission of the mode is one of the allowed mode. -/
def IsWithin (mode : Int) (allowed : Nat) : Prop :=
  permissions mode ⊆ permissions allowed

theorem natCast_isWithin_iff {mode allowed : Nat} :
    IsWithin mode allowed ↔ mode &&& allowed = mode := by
  constructor
  case mp =>
    intro within
    refine Nat.eq_of_testBit_eq fun bit => ?_
    rw [Nat.testBit_and]
    cases granted : mode.testBit bit with
    | false => rfl
    | true =>
        have isAllowed : allowed.testBit bit = true := within granted
        rw [isAllowed]
        rfl
  case mpr =>
    intro same bit granted
    have isGranted : mode.testBit bit = true := granted
    rw [← same, Nat.testBit_and, Bool.and_eq_true] at isGranted
    exact isGranted.2

theorem negSucc_not_isWithin {mode allowed : Nat} :
    ¬IsWithin (.negSucc mode) allowed := by
  intro within
  have beyond (number : Nat) (small : number ≤ max mode allowed) :
      number.testBit (max mode allowed) = false :=
    Nat.testBit_lt_two_pow (small.trans_lt Nat.lt_two_pow_self)
  have granted : (Int.negSucc mode).testBit (max mode allowed) = true := by
    change (!mode.testBit (max mode allowed)) = true
    rw [beyond mode (le_max_left _ _)]
    rfl
  have isAllowed : allowed.testBit (max mode allowed) = true := within granted
  rw [beyond allowed (le_max_right _ _)] at isAllowed
  cases isAllowed

instance (mode : Int) (allowed : Nat) : Decidable (IsWithin mode allowed) :=
  match mode with
  | .ofNat _ => decidable_of_iff _ natCast_isWithin_iff.symm
  | .negSucc _ => isFalse negSucc_not_isWithin

example : (0o622 : Int) ≤ (0o644 : Nat) ∧ ¬IsWithin 0o622 0o644 := by decide

def probeText (output : List UInt8) : List Char :=
  strip (decodeReplacing output)

def filledLines (text : List Char) : List (List Char) :=
  (lines text).filter fun line => decide (strip line ≠ [])

/-- The mode, the owner and the group in a line of `stat`, which may start with
the name of the file. -/
def statFields (line : List Char) :
    Option (List Char × List Char × List Char) :=
  match splitAt ':' line with
  | [_, mode, owner, group] => some (mode, owner, group)
  | [mode, owner, group] => some (mode, owner, group)
  | _ => none

/-- The mode and the owner in a line of `find`; the path may hold colons. -/
def logFields (line : List Char) : Option (List Char × List Char) :=
  match splitAt ':' line with
  | mode :: owner :: _ :: _ :: _ => some (mode, owner)
  | _ => none

section Rules

variable (database : CharacterDatabase)

/-- `_stat_is_safe` of one line. -/
def statLineIsSafe (maximumMode : Nat) (allowedGroups : List String)
    (line : List Char) : Option Bool := do
  let (mode, owner, group) ← statFields line
  let number ← integerOf database 8 mode
  return decide (number ≤ maximumMode) && decide (owner = "root".toList) &&
    decide (group ∈ allowedGroups.map String.toList)

/-- `_stat_is_safe`, which looks at the last line. -/
def statIsSafe (text : List Char) (maximumMode : Nat)
    (allowedGroups : List String) : Option Bool :=
  if text = [] then none
  else
    (lines text).getLast?.bind
      (statLineIsSafe database maximumMode allowedGroups)

/-- One row of `_unsafe_log_metadata_count`. -/
def logRowIsUnsafe (row : List Char) : Option Bool := do
  let (mode, owner) ← logFields row
  let number ← integerOf database 8 mode
  return decide (owner ≠ "root".toList) || decide ((0o644 : Int) < number)

def unsafeLogMetadataCount (text : List Char) : Option Nat :=
  if filledLines text = [] then none
  else ((filledLines text).mapM (logRowIsUnsafe database)).map (·.count true)

/-- The controls on the owners and the modes of files. -/
inductive FileControl where
  | u16
  | u17
  | u18
  | u19
  | u20
  | u21
  | u22
  | u67

/-- `_probe_ids`, of which each of the controls has one. -/
def FileControl.probe : FileControl → String
  | .u16 => "linux.passwd-mode"
  | .u17 => "linux.startup-unsafe"
  | .u18 => "linux.shadow-mode"
  | .u19 => "linux.hosts-mode"
  | .u20 => "linux.inetd-mode"
  | .u21 => "linux.syslog-mode"
  | .u22 => "linux.services-mode"
  | .u67 => "linux.log-metadata"

def checkStatus : Option Bool → AssessmentStatus
  | none => .review
  | some true => .pass
  | some false => .fail

def metadataSummary (text : List Char) : List Char :=
  "파일 메타데이터 확인값은 ".toList ++ text ++ "입니다.".toList

def statRule (maximumMode : Nat) (allowedGroups : List String)
    (text : List Char) : AssessmentStatus × List Char :=
  (checkStatus (statIsSafe database text maximumMode allowedGroups),
    metadataSummary (if text = [] then "파일 없음".toList else text))

/-- The rule of U-20 on files that need not exist. -/
def legacyStatRule (text : List Char) : AssessmentStatus × List Char :=
  if text = [] then
    (.notApplicable, "해당 레거시 서비스 설정 파일이 존재하지 않습니다.".toList)
  else
    (checkStatus (statIsSafe database text 0o600 ["root"]),
      metadataSummary text)

def breachesRule (text : List Char) : AssessmentStatus × List Char :=
  (if (filledLines text).length = 0 then .pass else .fail,
    "안전 기준과 다른 대상은 ".toList ++
      decimalText (filledLines text).length ++ "개입니다.".toList)

/-- The rule of U-67. -/
def logRule (text : List Char) : AssessmentStatus × List Char :=
  match unsafeLogMetadataCount database text with
  | none => (.review,
      "로그 파일 소유자와 권한 자료를 자동으로 해석하지 못했습니다.".toList)
  | some count => (if count = 0 then .pass else .fail,
      "root 소유·644 이하 기준과 다른 로그 파일은 ".toList ++
        decimalText count ++ "개입니다.".toList)

/-- `_initial_assessment` of the controls. -/
def fileRule (control : FileControl) (text : List Char) :
    AssessmentStatus × List Char :=
  match control with
  | .u16 | .u19 | .u22 => statRule database 0o644 ["root"] text
  | .u18 | .u21 => statRule database 0o640 ["root", "shadow", "adm"] text
  | .u20 => legacyStatRule database text
  | .u17 => breachesRule text
  | .u67 => logRule database text

/-- The result of one of the controls in `evaluate_kisa_unix`. -/
def assessFile (outputs : String → Option (List UInt8))
    (control : FileControl) : AssessmentStatus × List Char :=
  match outputs control.probe with
  | none => (.error, "필수 점검 자료 1개를 수집하지 못했습니다.".toList)
  | some output => fileRule database control (probeText output)

/-- A line of `stat` names a file of root and of an allowed group with no
permission beyond the allowed mode. -/
def StatConforms (maximumMode : Nat) (allowedGroups : List String)
    (line : List Char) : Prop :=
  ∃ mode owner group number, statFields line = some (mode, owner, group) ∧
    integerOf database 8 mode = some number ∧ IsWithin number maximumMode ∧
    owner = "root".toList ∧ group ∈ allowedGroups.map String.toList

/-- A row of `find` names a file of root with no permission beyond 644. -/
def LogConforms (row : List Char) : Prop :=
  ∃ mode owner number, logFields row = some (mode, owner) ∧
    integerOf database 8 mode = some number ∧ IsWithin number 0o644 ∧
    owner = "root".toList

/-- The file in a line keeps to the rule of a control; what U-17 lists never
does. -/
def Conforms (control : FileControl) (line : List Char) : Prop :=
  match control with
  | .u16 | .u19 | .u22 => StatConforms database 0o644 ["root"] line
  | .u18 | .u21 => StatConforms database 0o640 ["root", "shadow", "adm"] line
  | .u20 => StatConforms database 0o600 ["root"] line
  | .u17 => False
  | .u67 => LogConforms database line

/-- Every line with something in it names a file that keeps to the rule. -/
def AllConform (control : FileControl) (text : List Char) : Prop :=
  ∀ line ∈ lines text, strip line ≠ [] → Conforms database control line

/-- If the last line is accepted by its number, its permissions are within the
allowed mode, and the lines before it keep to the rule as well. -/
def StatComparesSafely (maximumMode : Nat) (allowedGroups : List String)
    (text : List Char) : Prop :=
  ∀ last ∈ (lines text).getLast?,
    statLineIsSafe database maximumMode allowedGroups last = some true →
    StatConforms database maximumMode allowedGroups last ∧
      ∀ line ∈ (lines text).dropLast, strip line ≠ [] →
        StatConforms database maximumMode allowedGroups line

/-- If all rows are accepted by their numbers, the permissions in each are
within the allowed mode. -/
def LogComparesSafely (text : List Char) : Prop :=
  (∀ row ∈ filledLines text, logRowIsUnsafe database row = some false) →
    ∀ row ∈ filledLines text, LogConforms database row

/-- The output does not mislead the comparison of a control. -/
def ComparesSafely (control : FileControl) (text : List Char) : Prop :=
  match control with
  | .u16 | .u19 | .u22 => StatComparesSafely database 0o644 ["root"] text
  | .u18 | .u21 =>
      StatComparesSafely database 0o640 ["root", "shadow", "adm"] text
  | .u20 => StatComparesSafely database 0o600 ["root"] text
  | .u17 => True
  | .u67 => LogComparesSafely database text

section Lines

variable {database : CharacterDatabase} {maximumMode : Nat}
  {allowedGroups : List String} {text line : List Char}

theorem statLineIsSafe_eq_true_iff :
    statLineIsSafe database maximumMode allowedGroups line = some true ↔
      ∃ mode owner group number, statFields line = some (mode, owner, group) ∧
        integerOf database 8 mode = some number ∧ number ≤ maximumMode ∧
        owner = "root".toList ∧ group ∈ allowedGroups.map String.toList := by
  unfold statLineIsSafe
  constructor
  case mp =>
    intro safe
    obtain ⟨⟨mode, owner, group⟩, fields, safe⟩ := Option.bind_eq_some_iff.mp safe
    obtain ⟨number, reads, safe⟩ := Option.bind_eq_some_iff.mp safe
    have checks := Option.some.inj safe
    rw [Bool.and_eq_true, Bool.and_eq_true, decide_eq_true_eq,
      decide_eq_true_eq, decide_eq_true_eq] at checks
    obtain ⟨⟨small, isRoot⟩, isAllowed⟩ := checks
    exact ⟨mode, owner, group, number, fields, reads, small, isRoot, isAllowed⟩
  case mpr =>
    rintro ⟨mode, owner, group, number, fields, reads, small, isRoot, isAllowed⟩
    refine Option.bind_eq_some_iff.mpr ⟨_, fields, ?_⟩
    refine Option.bind_eq_some_iff.mpr ⟨_, reads, ?_⟩
    rw [decide_eq_true small, decide_eq_true isRoot, decide_eq_true isAllowed]
    rfl

theorem mem_of_statFields {mode owner group : List Char}
    (fields : statFields line = some (mode, owner, group)) :
    owner ∈ splitAt ':' line := by
  unfold statFields at fields
  split at fields
  · next first second third fourth parts =>
      cases fields
      rw [parts]
      simp
  · next first second third parts =>
      cases fields
      rw [parts]
      simp
  · cases fields

theorem strip_ne_nil_of_statLineIsSafe
    (safe : statLineIsSafe database maximumMode allowedGroups line =
      some true) : strip line ≠ [] := by
  obtain ⟨mode, owner, group, number, fields, -, -, rfl, -⟩ :=
    statLineIsSafe_eq_true_iff.mp safe
  have inRoot : 'r' ∈ "root".toList := by decide
  have inLine := (not_mem_of_mem_splitOnP (mem_of_statFields fields) 'r'
    inRoot).2
  exact List.ne_nil_of_mem (mem_strip_of_mem inLine (by decide))

theorem statIsSafe_eq_true_iff :
    statIsSafe database text maximumMode allowedGroups = some true ↔
      ∃ last ∈ (lines text).getLast?,
        statLineIsSafe database maximumMode allowedGroups last = some true := by
  unfold statIsSafe
  split
  case isTrue empty =>
    subst empty
    refine iff_of_false nofun ?_
    rintro ⟨last, isLast, -⟩
    cases isLast
  case isFalse => exact Option.bind_eq_some_iff

/-- The check of `stat` accepts only files that keep to the rule exactly if
its comparison is not misled. -/
theorem stat_passes_safe_files_iff :
    (statIsSafe database text maximumMode allowedGroups = some true →
        ∀ line ∈ lines text, strip line ≠ [] →
          StatConforms database maximumMode allowedGroups line) ↔
      StatComparesSafely database maximumMode allowedGroups text := by
  rw [statIsSafe_eq_true_iff]
  constructor
  case mp =>
    intro keeps last isLast safe
    have all := keeps ⟨last, isLast, safe⟩
    have whole := List.dropLast_append_getLast? last isLast
    constructor
    · refine all last ?_ (strip_ne_nil_of_statLineIsSafe safe)
      rw [← whole]
      exact List.mem_append_right _ List.mem_cons_self
    · intro line before filled
      exact all line (List.dropLast_subset _ before) filled
  case mpr =>
    rintro compares ⟨last, isLast, safe⟩ line member filled
    obtain ⟨ofLast, ofOthers⟩ := compares last isLast safe
    rw [← List.dropLast_append_getLast? last isLast] at member
    rcases List.mem_append.mp member with before | same
    · exact ofOthers line before filled
    · exact List.mem_singleton.mp same ▸ ofLast

theorem count_unsafe_eq_zero_iff {check : List Char → Option Bool} :
    ∀ {rows : List (List Char)},
      (rows.mapM check).map (·.count true) = some 0 ↔
        ∀ row ∈ rows, check row = some false
  | [] => iff_of_true rfl nofun
  | row :: rows => by
      rw [List.forall_mem_cons, ← count_unsafe_eq_zero_iff, List.mapM_cons]
      rcases check row with _ | _ | _
      · exact iff_of_false nofun (fun both => nomatch both.1)
      · cases rows.mapM check <;> simp
      · cases rows.mapM check <;> simp

theorem logRule_eq_pass_iff :
    (logRule database text).1 = .pass ↔ filledLines text ≠ [] ∧
      ∀ row ∈ filledLines text, logRowIsUnsafe database row = some false := by
  rw [← count_unsafe_eq_zero_iff]
  unfold logRule unsafeLogMetadataCount
  by_cases empty : filledLines text = []
  case pos =>
    rw [if_pos empty]
    exact iff_of_false nofun (fun both => both.1 empty)
  case neg =>
    rw [if_neg empty, and_iff_right empty]
    rcases Option.map _ _ with _ | count
    · exact iff_of_false nofun nofun
    · simp

/-- The rule on the logs accepts only files that keep to it exactly if its
comparison is not misled. -/
theorem log_passes_safe_files_iff :
    ((logRule database text).1 = .pass →
        ∀ line ∈ lines text, strip line ≠ [] → LogConforms database line) ↔
      LogComparesSafely database text := by
  have filled {row : List Char} : row ∈ filledLines text ↔
      row ∈ lines text ∧ strip row ≠ [] := by
    rw [filledLines, List.mem_filter, decide_eq_true_eq]
  rw [logRule_eq_pass_iff]
  constructor
  case mp =>
    intro keeps accepted row member
    have present : filledLines text ≠ [] := List.ne_nil_of_mem member
    obtain ⟨inLines, notBlank⟩ := filled.mp member
    exact keeps ⟨present, accepted⟩ row inLines notBlank
  case mpr =>
    rintro compares ⟨-, accepted⟩ line inLines notBlank
    exact compares accepted line (filled.mpr ⟨inLines, notBlank⟩)

theorem checkStatus_eq_pass_iff {safe : Option Bool} :
    checkStatus safe = .pass ↔ safe = some true := by
  rcases safe with _ | _ | _ <;> simp [checkStatus]

theorem legacyStatRule_eq_pass_iff :
    (legacyStatRule database text).1 = .pass ↔
      statIsSafe database text 0o600 ["root"] = some true := by
  unfold legacyStatRule
  split
  case isTrue empty =>
    rw [statIsSafe, if_pos empty]
    exact iff_of_false nofun nofun
  case isFalse => exact checkStatus_eq_pass_iff

/-- The rule of a control accepts only files that keep to it exactly if its
comparison is not misled. -/
theorem fileRule_passes_safe_files_iff {control : FileControl} :
    ((fileRule database control text).1 = .pass →
        AllConform database control text) ↔
      ComparesSafely database control text := by
  cases control with
  | u16 | u19 | u22 | u18 | u21 =>
      refine Iff.trans (imp_congr_left ?_) stat_passes_safe_files_iff
      exact checkStatus_eq_pass_iff
  | u20 =>
      refine Iff.trans (imp_congr_left ?_) stat_passes_safe_files_iff
      exact legacyStatRule_eq_pass_iff
  | u17 =>
      refine iff_of_true ?_ trivial
      intro passes line inLines filled
      have listed : line ∈ filledLines text :=
        List.mem_filter.mpr ⟨inLines, decide_eq_true filled⟩
      have counted : (filledLines text).length ≠ 0 :=
        List.length_pos_of_mem listed |>.ne'
      have fails : (breachesRule text).1 = .fail := by
        rw [breachesRule, if_neg counted]
      cases fails.symm.trans passes
  | u67 => exact log_passes_safe_files_iff

end Lines

/-- A control that passes has only files of root, and of an allowed group, with
no permission beyond the allowed mode, exactly if the comparison of the numbers
is not misled by its output. -/
theorem file_control_passes_safe_files_iff
    (outputs : String → Option (List UInt8)) (control : FileControl) :
    ((assessFile database outputs control).1 = .pass →
        ∃ output, outputs control.probe = some output ∧
          AllConform database control (probeText output)) ↔
      ∀ output, outputs control.probe = some output →
        ComparesSafely database control (probeText output) := by
  unfold assessFile
  cases read : outputs control.probe with
  | none => exact iff_of_true nofun nofun
  | some output =>
      have ofOutput := @fileRule_passes_safe_files_iff database
        (probeText output) control
      constructor
      case mp =>
        intro keeps other same
        cases same
        refine ofOutput.mp fun passes => ?_
        obtain ⟨other, same, all⟩ := keeps passes
        cases same
        exact all
      case mpr =>
        intro compares passes
        exact ⟨output, rfl, ofOutput.mpr (compares output rfl) passes⟩

end Rules

/-- A passwd file that its group and others may write, as `stat` shows it. -/
def writablePasswd : List UInt8 :=
  [0x36, 0x32, 0x32, 0x3A, 0x72, 0x6F, 0x6F, 0x74, 0x3A, 0x72, 0x6F, 0x6F, 0x74,
    0x0A]

/-- Mode 622 passes U-16, since it is a smaller number than 644. -/
theorem writable_passwd_passes :
    ¬∀ (database : CharacterDatabase) (outputs : String → Option (List UInt8))
      (control : FileControl),
      (assessFile database outputs control).1 = .pass →
        ∃ output, outputs control.probe = some output ∧
          AllConform database control (probeText output) := by
  intro keeps
  have passes : (assessFile asciiDatabase (fun _ => some writablePasswd)
      .u16).1 = .pass := by decide
  obtain ⟨_, same, conforms⟩ := keeps asciiDatabase
    (fun _ => some writablePasswd) .u16 passes
  cases same
  have shown : lines (probeText writablePasswd) = ["622:root:root".toList] := by
    decide
  have filled : strip "622:root:root".toList ≠ [] := by decide
  obtain ⟨mode, owner, group, number, fields, reads, within, -⟩ :=
    conforms _ (shown ▸ List.mem_singleton_self _) filled
  have whole : statFields "622:root:root".toList =
      some ("622".toList, "root".toList, "root".toList) := by decide
  cases fields.symm.trans whole
  have readsNumber : integerOf asciiDatabase 8 "622".toList = some 0o622 := by
    decide
  cases reads.symm.trans readsNumber
  exact absurd within (by decide)

/-- The outputs of the probes that were collected. -/
abbrev Outputs := String → Option (List UInt8)

/-- `_text`, of a probe that was collected. -/
def textOf (outputs : Outputs) (probeId : String) : List Char :=
  probeText ((outputs probeId).getD [])

inductive LinuxDistribution where
  | ubuntu2204
  | ubuntu2404
  | debian12
  | rocky9
  | rhel9
  | almalinux9

def LinuxDistribution.isDebianFamily : LinuxDistribution → Bool
  | .ubuntu2204 | .ubuntu2404 | .debian12 => true
  | .rocky9 | .rhel9 | .almalinux9 => false

structure KisaUnixAssessmentProfile where
  passwordMaximumAgeDays : Int := 90
  passwordMinimumLength : Int := 8
  accountLockThreshold : Int := 10
  sessionTimeoutSeconds : Int := 600
  approvedAdminAccounts : List (List Char) :=
    ["root".toList, "secai-lab".toList]
  approvedListeningPorts : List Int := [22]
  approvedSuidPaths : List (List Char) := []

/-- What a rule raises: `int` of a numeral with too many digits. -/
inductive KisaFault where
  | valueError
deriving DecidableEq

section Patterns

variable (database : CharacterDatabase)

/-- `\s`, `\S` and `\d`, so many times. -/
def spaces (atLeast : Nat) : Pattern := .many isSpace atLeast none

def solids (atLeast : Nat) : Pattern := .many (!isSpace ·) atLeast none

def digits (atMost : Option Nat) : Pattern :=
  .many (database.decimal · |>.isSome) 1 atMost

/-- `(\d+)`. -/
def numeral : Pattern := .group (digits database none)

/-- `\b`. -/
def border : Pattern := .wordBoundary database.isWord

/-- A text under `re.IGNORECASE`. -/
def spelled (text : String) : Pattern := .literalIgnoringCase text

/-- A class of characters under `re.IGNORECASE`. -/
def oneSpelled (characters : List Char) : Pattern :=
  .one fun character => characters.any (ignoringCase · character)

/-- `(?m)^permitrootlogin\s+(\S+)$`. -/
def rootLoginPattern : Pattern :=
  .sequence [.lineStart, .literal "permitrootlogin", spaces 1,
    .group (solids 1), .lineEnd]

/-- `(?m)^PASS_MAX_DAYS\s+(\d+)`. -/
def maximumDaysPattern : Pattern :=
  .sequence [.lineStart, .literal "PASS_MAX_DAYS", spaces 1, numeral database]

/-- `(?:PASS_MIN_LEN\s+|minlen=)(\d+)`. -/
def minimumLengthPattern : Pattern :=
  .seq (.alt (.seq (.literal "PASS_MIN_LEN") (spaces 1)) (.literal "minlen="))
    (numeral database)

/-- `\bdeny=(\d+)\b`. -/
def denyPattern : Pattern :=
  .sequence [border database, .literal "deny=", numeral database,
    border database]

/-- `(?im)^\s*TMOUT\s*[= ]\s*(\d+)`. -/
def timeoutPattern : Pattern :=
  .sequence [.lineStart, spaces 0, spelled "TMOUT", spaces 0,
    .one (· ∈ ['=', ' ']), spaces 0, numeral database]

/-- `:(\d{1,5})(?=\s|$)`. -/
def portPattern : Pattern :=
  .sequence [.literal ":", .group (digits database (some 5)),
    .check fun _ next => next.all isSpace]

/-- `(?im)^\s*(?:UMASK|umask)\s*[= ]\s*0?([0-7]{3})`. -/
def umaskPattern : Pattern :=
  .sequence [.lineStart, spaces 0, .alt (spelled "UMASK") (spelled "umask"),
    spaces 0, .one (· ∈ ['=', ' ']), spaces 0, .optional (.literal "0"),
    .group (.many (fun character => '0' ≤ character ∧ character ≤ '7') 3
      (some 3))]

/-- `(?im)^\s*(?:anonymous_?enable|guest\s+ok|public)\s*[=:]\s*`
`(?:yes|true|1)\b`. -/
def anonymousPattern : Pattern :=
  .sequence [.lineStart, spaces 0,
    .oneOf [
      .sequence [spelled "anonymous", .optional (.literal "_"),
        spelled "enable"],
      .sequence [spelled "guest", spaces 1, spelled "ok"],
      spelled "public"],
    spaces 0, .one (· ∈ ['=', ':']), spaces 0,
    .oneOf [spelled "yes", spelled "true", .literal "1"], border database]

/-- `(?im)^\s*<Anonymous\b`. -/
def anonymousBlockPattern : Pattern :=
  .sequence [.lineStart, spaces 0, .literal "<", spelled "Anonymous",
    border database]

/-- `(?i)\b(?:anonuid|anongid)=`. -/
def anonymousIdPattern : Pattern :=
  .sequence [border database, .alt (spelled "anonuid") (spelled "anongid"),
    .literal "="]

/-- `(?m)^\s*/\S*\s+\*`. -/
def everyHostPattern : Pattern :=
  .sequence [.lineStart, spaces 0, .literal "/", solids 0, spaces 1,
    .literal "*"]

/-- `(?m)^(\d+) upgraded,`. -/
def upgradedPattern : Pattern :=
  .sequence [.lineStart, numeral database, .literal " upgraded,"]

/-- `(?m)^Inst\s+`. -/
def installPattern : Pattern :=
  .sequence [.lineStart, .literal "Inst", spaces 1]

/-- `(?i)\b(ro|rw)community\s+(public|private)\b`. -/
def communityPattern : Pattern :=
  .sequence [border database, .alt (spelled "ro") (spelled "rw"),
    spelled "community", spaces 1,
    .alt (spelled "public") (spelled "private"), border database]

/-- `(?i)ubuntu|rocky|linux|kernel|\\[rmsv]`. -/
def bannerPattern : Pattern :=
  .oneOf [spelled "ubuntu", spelled "rocky", spelled "linux",
    spelled "kernel", .seq (.literal "\\") (oneSpelled ['r', 'm', 's', 'v'])]

/-- `re.findall`, of a pattern with one group. -/
def captures (pattern : Pattern) (text : List Char) : List (List Char) :=
  (pattern.findAll text).map fun found => found.captured.getD []

/-- `match.group(1)` of `re.search`. -/
def firstCapture (pattern : Pattern) (text : List Char) :
    Option (List Char) :=
  (pattern.search text).map fun found => found.captured.getD []

/-- `int(text)` of a numeral. -/
def integerOrFault (text : List Char) : Except KisaFault Int :=
  match integerOf database 10 text with
  | some number => .ok number
  | none => .error .valueError

/-- `[int(value) for value in re.findall(pattern, text)]`. -/
def valuesOf (pattern : Pattern) (text : List Char) :
    Except KisaFault (List Int) :=
  (captures pattern text).mapM (integerOrFault database)

def listeningPorts (text : List Char) : List Int :=
  ((captures (portPattern database) text).filterMap
    (integerOf database 10)).filter fun port => 1 ≤ port ∧ port ≤ 65535

/-- A row of `_passwd_rows`. -/
structure PasswdRow where
  name : List Char
  password : List Char
  uid : Int
  gid : Int
  home : List Char
  shell : List Char

/-- The row of a line, if it has the fields and numbers. -/
def passwdRow (line : List Char) : Option PasswdRow :=
  match splitAt ':' line with
  | name :: password :: uid :: gid :: _ :: home :: shell :: _ => do
      let uid ← integerOf database 10 uid
      let gid ← integerOf database 10 gid
      return ⟨name, password, uid, gid, home, shell⟩
  | _ => none

def passwdRows (text : List Char) : List PasswdRow :=
  (lines text).filterMap (passwdRow database)

/-- A row of `_group_rows`. -/
structure GroupRow where
  name : List Char
  gid : Int
  members : List (List Char)

/-- The row of a line, if it has the fields and the number. -/
def groupRow (line : List Char) : Option GroupRow :=
  match splitAt ':' line with
  | name :: _ :: gid :: members :: _ => do
      let gid ← integerOf database 10 gid
      return ⟨name, gid, (splitAt ',' members).filter (· ≠ [])⟩
  | _ => none

def groupRows (text : List Char) : List GroupRow :=
  (lines text).filterMap (groupRow database)

def servicePresent (text : List Char) (names : List String) : Bool :=
  names.any fun name =>
    decide (casefold database name.toList <:+: casefold database text)

def activeText (outputs : Outputs) : List Char :=
  ['\n'].intercalate
    ((["linux.active-services", "linux.enabled-services"].filter fun probe =>
      (outputs probe).isSome).map (textOf outputs))

/-- `service_names`, by the number of the control. -/
def serviceNames (number : Nat) : List String :=
  if number = 34 then ["finger"]
  else if number = 35 then ["smb", "samba", "vsftpd", "proftpd", "nfs"]
  else if number = 36 then ["rsh", "rlogin", "rexec"]
  else if number = 38 then ["echo", "daytime", "discard", "chargen"]
  else if number ∈ [39, 40] then ["nfs-server", "nfs-kernel-server"]
  else if number = 41 then ["autofs", "automount"]
  else if number = 42 then ["rpcbind"]
  else if number = 43 then ["ypbind", "nis"]
  else if number = 44 then ["tftp", "talk"]
  else if number ∈ [45, 46, 47, 48] then ["postfix", "sendmail", "exim"]
  else if number ∈ [49, 50, 51] then ["named", "bind9"]
  else if number = 52 then ["telnet"]
  else if number ∈ [53, 54, 55, 56, 57] then ["vsftpd", "proftpd", "pure-ftpd"]
  else if number ∈ [58, 59, 60, 61] then ["snmpd"]
  else []

/-- `active`, of the services of a control. -/
def serviceActive (outputs : Outputs) (number : Nat) : Bool :=
  servicePresent database (activeText outputs) (serviceNames number)

def isPackageLine (line : List Char) : Bool :=
  decide (strip line ≠ []) &&
    !(["Last metadata", "Obsoleting", "Security:"].any fun front =>
      front.toList.isPrefixOf line)

def pendingUpdateCount (text : List Char) (distribution : LinuxDistribution) :
    Except KisaFault (Option Nat) :=
  let stripped := strip text
  if stripped = [] ∨ stripped = ['0'] then .ok (some 0)
  else if distribution.isDebianFamily then
    match firstCapture (upgradedPattern database) stripped with
    | some number => do
        let count ← integerOrFault database number
        .ok (some count.toNat)
    | none =>
        match (installPattern.findAll stripped).length with
        | 0 => .ok none
        | count => .ok (some count)
  else .ok (some ((lines stripped).filter isPackageLine).length)

end Patterns

/-- A status, and the summary of what was observed. -/
abbrev Verdict := AssessmentStatus × List Char

/-- `"PASS" if passed else "FAIL"`. -/
def passOrFail (passed : Bool) : AssessmentStatus :=
  if passed then .pass else .fail

def decided (status : AssessmentStatus) (holds : Bool)
    (summary otherwise : String) : Verdict :=
  (status, if holds then summary.toList else otherwise.toList)

def fixed (status : AssessmentStatus) (summary : String) : Verdict :=
  (status, summary.toList)

def counted (before : String) (count : Nat) (behind : String) : List Char :=
  before.toList ++ decimalText count ++ behind.toList

/-! ## Probes -/

/-- `_probe_ids`, by the number of the control. -/
def probeIds (number : Nat) : List String :=
  match number with
  | 1 => ["linux.sshd-effective"]
  | 2 => ["linux.login-defs", "linux.pam-policy"]
  | 3 => ["linux.pam-policy"]
  | 4 => ["linux.passwd-db"]
  | 5 => ["linux.passwd-db"]
  | 6 => ["linux.pam-su", "linux.group-db"]
  | 7 => ["linux.passwd-db"]
  | 8 => ["linux.group-db"]
  | 9 => ["linux.passwd-db", "linux.group-db"]
  | 10 => ["linux.passwd-db"]
  | 11 => ["linux.passwd-db"]
  | 12 => ["linux.profile-policy"]
  | 13 => ["linux.login-defs", "linux.pam-policy"]
  | 14 => ["linux.passwd-db", "linux.profile-policy"]
  | 15 => ["linux.ownerless"]
  | 16 => ["linux.passwd-mode"]
  | 17 => ["linux.startup-unsafe"]
  | 18 => ["linux.shadow-mode"]
  | 19 => ["linux.hosts-mode"]
  | 20 => ["linux.inetd-mode"]
  | 21 => ["linux.syslog-mode"]
  | 22 => ["linux.services-mode"]
  | 23 => ["linux.suid-sgid"]
  | 24 => ["linux.environment-unsafe"]
  | 25 => ["linux.world-writable"]
  | 26 => ["linux.dev-regular"]
  | 27 => ["linux.rhosts"]
  | 28 =>
      ["linux.firewall-state", "linux.firewall-rules",
        "linux.listening-sockets"]
  | 29 => ["linux.hosts-lpd-mode"]
  | 30 => ["linux.login-defs", "linux.profile-policy"]
  | 31 => ["linux.passwd-db"]
  | 32 => ["linux.passwd-db"]
  | 33 => ["linux.home-hidden"]
  | 35 =>
      ["linux.active-services", "linux.enabled-services",
        "linux.service-config", "linux.nfs-exports"]
  | 37 => ["linux.cron-unsafe"]
  | 40 => ["linux.active-services", "linux.nfs-exports"]
  | 45 | 49 =>
      ["linux.active-services", "linux.package-inventory",
        "linux.pending-security-updates"]
  | 55 =>
      ["linux.active-services", "linux.enabled-services",
        "linux.service-config", "linux.passwd-db"]
  | 57 => ["linux.active-services", "linux.ftpusers"]
  | 62 => ["linux.banner"]
  | 63 => ["linux.sudoers-check", "linux.sudoers-config"]
  | 64 => ["linux.pending-security-updates"]
  | 65 => ["linux.time-sync"]
  | 66 => ["linux.logging-state", "linux.logging-config"]
  | 67 => ["linux.log-metadata"]
  | _ =>
      ["linux.active-services", "linux.enabled-services",
        "linux.service-config"]

section Rules

variable (database : CharacterDatabase)

/-! ## Accounts -/

/-- The rule of U-01 on the effective settings of the SSH server. -/
def rootLoginRule (sshd : List Char) : Verdict :=
  match firstCapture rootLoginPattern sshd with
  | none =>
      fixed .review "SSH의 root 직접 접속 적용값을 해석하지 못했습니다."
  | some value =>
      let setting := casefold database value
      (passOrFail (setting ∈ ["no".toList, "prohibit-password".toList]),
        "SSH root 직접 접속 설정은 ".toList ++ setting ++ "입니다.".toList)

/-- The rule of U-02. -/
def passwordPolicyRule (profile : KisaUnixAssessmentProfile)
    (source : List Char) : Except KisaFault Verdict := do
  let maximum := firstCapture (maximumDaysPattern database) source
  let minimums ← valuesOf database (minimumLengthPattern database) source
  let complex := decide ("pam_pwquality.so".toList <:+: source)
  let days ← maximum.mapM (integerOrFault database)
  let passed := days.any (· ≤ profile.passwordMaximumAgeDays) &&
    minimums.max?.any (profile.passwordMinimumLength ≤ ·) && complex
  .ok (passOrFail passed,
    "최대 사용 기간 ".toList ++ maximum.getD "미확인".toList ++
      "일, 최소 길이 ".toList ++
      ((minimums.max?.map integerText).getD "미확인".toList) ++
      "자, 복잡성 정책 ".toList ++
      (if complex then "확인" else "미확인").toList)

/-- The rule of U-03. -/
def lockRule (profile : KisaUnixAssessmentProfile) (pam : List Char) :
    Except KisaFault Verdict :=
  match firstCapture (denyPattern database) pam with
  | none => .ok (fixed .fail "계정 잠금 임계값을 확인하지 못했습니다.")
  | some value => do
      let threshold ← integerOrFault database value
      .ok (passOrFail
          (0 < threshold ∧ threshold ≤ profile.accountLockThreshold),
        "계정 잠금 임계값은 ".toList ++ integerText threshold ++
          "회입니다.".toList)

/-- The rule of U-04. -/
def shadowedRule (passwd : List PasswdRow) : Verdict :=
  let guarded := decide (passwd ≠ []) &&
    passwd.all (·.password ∈ [['x'], ['*'], ['!']])
  decided (passOrFail guarded) guarded
    "비밀번호 해시는 shadow 파일로 분리되어 있습니다."
    "passwd 파일에서 분리되지 않은 비밀번호 필드가 발견되었습니다."

/-- The rule of U-05. -/
def rootUidRule (passwd : List PasswdRow) : Verdict :=
  let names := (passwd.filter (·.uid = 0)).map PasswdRow.name
  (passOrFail (names = ["root".toList]),
    counted "UID 0 계정은 " names.length "개입니다.")

/-- The rule of U-06. -/
def suRule (pam : List Char) : Verdict :=
  let restricted := decide ("pam_wheel.so".toList <:+: pam) ||
    decide ("pam_group.so".toList <:+: pam)
  decided (passOrFail restricted) restricted
    "su 사용 제한 PAM 설정을 확인했습니다."
    "su 사용 제한 PAM 설정을 확인하지 못했습니다."

def hasSafeShell (row : PasswdRow) : Bool :=
  ["nologin", "false", "sync", "shutdown", "halt"].any fun shell =>
    shell.toList.isSuffixOf row.shell

/-- The rule of U-07. -/
def loginAccountsRule (profile : KisaUnixAssessmentProfile)
    (passwd : List PasswdRow) : Verdict :=
  let accounts := ((passwd.filter (!hasSafeShell ·)).map
    PasswdRow.name).eraseDups
  let unapproved := accounts.filter (· ∉ profile.approvedAdminAccounts)
  (passOrFail (unapproved = []),
    counted "로그인 가능 계정 " accounts.length
        "개 중 기본 승인 목록 밖 계정은 " ++
      counted "" unapproved.length "개입니다.")

/-- The rule of U-08. -/
def adminGroupRule (profile : KisaUnixAssessmentProfile)
    (groups : List GroupRow) : Verdict :=
  let members := (groups.filter fun row => casefold database row.name ∈
    ["root".toList, "wheel".toList, "sudo".toList]).flatMap GroupRow.members
  let accounts := ("root".toList :: members).eraseDups
  let unapproved := accounts.filter (· ∉ profile.approvedAdminAccounts)
  (passOrFail (unapproved = []),
    counted "관리자 그룹 계정 " accounts.length
        "개 중 기본 승인 목록 밖 계정은 " ++
      counted "" unapproved.length "개입니다.")

/-- The rule of U-09. -/
def knownGroupsRule (passwd : List PasswdRow) (groups : List GroupRow) :
    Verdict :=
  let missing := ((passwd.map PasswdRow.gid).eraseDups).filter
    (· ∉ groups.map GroupRow.gid)
  (passOrFail (missing = []),
    counted "그룹이 없는 계정 GID는 " missing.length "개입니다.")

/-- The rule of U-10: the rows of a number but one are counted. -/
def sharedUidRule (passwd : List PasswdRow) : Verdict :=
  let uids := passwd.map PasswdRow.uid
  let duplicates := uids.length - uids.eraseDups.length
  (passOrFail (duplicates = 0), counted "중복 UID는 " duplicates "개입니다.")

/-- The rule of U-11. -/
def systemShellRule (passwd : List PasswdRow) : Verdict :=
  let count := passwd.countP fun row =>
    decide (0 < row.uid ∧ row.uid < 1000) && !hasSafeShell row
  (passOrFail (count = 0),
    counted "로그인 shell이 필요한지 확인할 시스템 계정은 " count "개입니다.")

/-- The rule of U-12 on the settings of the shells. -/
def timeoutRule (profile : KisaUnixAssessmentProfile)
    (settings : List Char) : Except KisaFault Verdict := do
  let values ← valuesOf database (timeoutPattern database) settings
  .ok (passOrFail (values.min?.any (· ≤ profile.sessionTimeoutSeconds)),
    "자동 세션 종료 시간은 ".toList ++
      ((values.min?.map integerText).getD "미설정".toList) ++
      "초입니다.".toList)

/-- The rule of U-13. -/
def hashRule (source : List Char) : Verdict :=
  let folded := casefold database source
  let safe := decide ("yescrypt".toList <:+: folded) ||
    decide ("sha512".toList <:+: folded)
  decided (passOrFail safe) safe
    "안전한 비밀번호 해시 알고리즘 설정을 확인했습니다."
    "yescrypt 또는 SHA-512 해시 설정을 확인하지 못했습니다."

/-- The rule of U-14. -/
def rootHomeRule (passwd : List PasswdRow) : Verdict :=
  let home := ((passwd.find? (·.name = "root".toList)).map
    PasswdRow.home).getD "미확인".toList
  (.review, "root 홈은 ".toList ++ home ++
    "이며 PATH 디렉터리 권한 확인이 필요합니다.".toList)

/-! ## Files -/

/-- The rule of U-23. -/
def suidRule (profile : KisaUnixAssessmentProfile) (text : List Char) :
    Verdict :=
  let paths := ((lines text).map strip).filter (· ≠ []) |>.eraseDups
  if profile.approvedSuidPaths = [] then
    (.review, counted "SUID·SGID 파일 " paths.length "개를 확인해야 합니다.")
  else
    let unapproved := paths.filter (· ∉ profile.approvedSuidPaths)
    (passOrFail (unapproved = []),
      counted "SUID·SGID 파일 " paths.length
          "개 중 승인 목록 밖 파일은 " ++
        counted "" unapproved.length "개입니다.")

/-- The first test of U-28 on the state of the firewall. -/
def firewallActive (state : List Char) : Bool :=
  decide ("active".toList <:+: casefold database state) ||
    decide ("running".toList <:+: casefold database state)

/-- The rule of U-28 on the state of the firewall and the listing of the
sockets. -/
def firewallRule (profile : KisaUnixAssessmentProfile)
    (state sockets : List Char) : Verdict :=
  if firewallActive database state then
    let ports := (listeningPorts database sockets).eraseDups
    let unapproved := ports.filter (· ∉ profile.approvedListeningPorts)
    (passOrFail (unapproved = []),
      counted "수신 포트 " ports.length
          "개 중 기본 승인 목록 밖 포트는 " ++
        counted "" unapproved.length "개입니다.")
  else fixed .fail "호스트 방화벽이 활성 상태가 아닙니다."

/-- The rule of U-30. -/
def umaskRule (source : List Char) : Verdict :=
  let values := captures umaskPattern source
  let modes := values.filterMap (integerOf database 8)
  (passOrFail (modes ≠ [] ∧ ∀ mode ∈ modes, mode.toNat &&& 0o022 = 0o022),
    "확인된 UMASK는 ".toList ++
      (if values = [] then "미설정".toList
        else ", ".toList.intercalate values) ++ "입니다.".toList)

/-- The rule of U-31, U-32 and U-33. -/
def homesRule (text : List Char) : Verdict :=
  (.review, counted "홈 디렉터리 관련 대상 " (filledLines text).length
    "개를 계정 용도와 함께 확인해야 합니다.")

/-! ## Services -/

/-- The rule of U-35. -/
def anonymousRule (active : Bool) (config exports : List Char) : Verdict :=
  if active = false then
    fixed .notApplicable
      "익명 접근 제한을 확인할 공유 서비스가 활성 상태가 아닙니다."
  else if (anonymousPattern database).occursIn config ∨
      (anonymousBlockPattern database).occursIn config ∨
      (anonymousIdPattern database).occursIn exports then
    fixed .fail "공유 서비스에서 익명 또는 게스트 접근 허용 설정을 확인했습니다."
  else
    fixed .review
      "공유 서비스가 활성 상태이며 익명 접근 제한 설정을 추가 확인해야 합니다."

def forbiddenServiceRule (active : Bool) : Verdict :=
  decided (passOrFail !active) active
    "금지 또는 불필요 서비스가 활성 상태입니다."
    "금지 또는 불필요 서비스가 활성 상태가 아닙니다."

/-- The rule of U-39 and U-58. -/
def neededServiceRule (active : Bool) : Verdict :=
  decided (if active then .review else .pass) active
    "서비스가 활성 상태이므로 업무상 필요 여부를 확인해야 합니다."
    "서비스가 활성 상태가 아닙니다."

/-- The rule of U-40 on the exports of NFS. -/
def exportsRule (active : Bool) (exports : List Char) : Verdict :=
  if active = false then
    fixed .notApplicable "NFS 서비스가 활성 상태가 아닙니다."
  else
    let open' := decide ("no_root_squash".toList <:+: exports) ||
      everyHostPattern.occursIn exports
    fixed (passOrFail !(open' || decide (exports = [])))
      "NFS 공유의 접근 범위와 root 권한 제한을 확인했습니다."

/-- The rule of U-45, U-49 and U-64 on the updates that are pending. -/
def updatesRule (needsReview active : Bool) (distribution : LinuxDistribution)
    (updates : List Char) : Except KisaFault Verdict :=
  if needsReview = true ∧ active = false then
    .ok (fixed .notApplicable "해당 서비스가 활성 상태가 아닙니다.")
  else do
    let pending ← pendingUpdateCount database updates distribution
    match pending with
    | none =>
        .ok (fixed .review
          "보안 업데이트 결과를 자동으로 해석하지 못했습니다.")
    | some count =>
        if 0 < count then
          .ok (.fail, counted "대기 중인 보안 업데이트는 " count "개입니다.")
        else if needsReview then
          .ok (fixed .review ("대기 중인 보안 업데이트는 없지만 설치 버전이 " ++
            "최신인지 공급자 기준 확인이 필요합니다."))
        else .ok (fixed .pass "대기 중인 보안 업데이트는 0개입니다.")

/-- The rule of U-46, U-47, U-53 and U-56. -/
def reviewedServiceRule (active : Bool) : Verdict :=
  decided (if active then .review else .notApplicable) active
    "서비스 설정을 업무 목적과 허용 정책에 따라 확인해야 합니다."
    "해당 서비스가 활성 상태가 아닙니다."

/-- The rule of U-48. -/
def mailCommandsRule (active : Bool) (config : List Char) : Verdict :=
  let folded := casefold database config
  let restricted := decide ("noexpn".toList <:+: folded) &&
    decide ("novrfy".toList <:+: folded)
  if active = false then
    fixed .notApplicable "메일 서비스가 활성 상태가 아닙니다."
  else
    decided (passOrFail restricted) restricted
      "EXPN·VRFY 제한 설정을 확인했습니다."
      "EXPN·VRFY 제한 설정을 확인하지 못했습니다."

/-- The rule on a statement of a name server: `allow-transfer` of U-50 and
`allow-update` of U-51. -/
def namedRule (statement summary otherwise : String) (active : Bool)
    (config : List Char) : Verdict :=
  let safe := decide (statement.toList <:+: config) &&
    decide ("none".toList <:+: casefold database config)
  if active = false then
    fixed .notApplicable "DNS 서비스가 활성 상태가 아닙니다."
  else decided (if safe then .pass else .review) safe summary otherwise

/-- The rule of U-50. -/
def transferRule (active : Bool) (config : List Char) : Verdict :=
  namedRule database "allow-transfer" "Zone Transfer 제한 설정을 확인했습니다."
    "Zone Transfer 허용 대상을 추가 확인해야 합니다." active config

/-- The rule of U-51. -/
def updateRule (active : Bool) (config : List Char) : Verdict :=
  namedRule database "allow-update" "동적 업데이트 제한 설정을 확인했습니다."
    "동적 업데이트 허용 대상을 추가 확인해야 합니다." active config

/-- `ftp_rows` have a shell that allows no login. -/
def ftpShellRule (active : Bool) (passwd : List PasswdRow) : Verdict :=
  let rows := passwd.filter
    (·.name ∈ ["ftp".toList, "anonymous".toList])
  let safe := rows.all fun row =>
    "nologin".toList.isSuffixOf row.shell || "false".toList.isSuffixOf row.shell
  if active = false then
    fixed .notApplicable "FTP 서비스가 활성 상태가 아닙니다."
  else
    (passOrFail safe,
      counted "FTP 전용 계정 shell 제한 대상은 " rows.length "개입니다.")

/-- The rule of U-57. -/
def ftpUsersRule (active : Bool) (text : List Char) : Verdict :=
  let users := (lines text).map strip
  let missing := (["root", "daemon", "bin", "sys", "adm", "lp", "sync",
    "shutdown", "halt"].map String.toList).filter (· ∉ users)
  if active = false then
    fixed .notApplicable "FTP 서비스가 활성 상태가 아닙니다."
  else
    (passOrFail (missing = []),
      counted "FTP 접속 차단 기본 계정 누락은 " missing.length "개입니다.")

/-- The rule of U-59. -/
def snmpUsersRule (active : Bool) (config : List Char) : Verdict :=
  let folded := casefold database config
  let safe := decide ("rouser".toList <:+: folded) ||
    decide ("rwuser".toList <:+: folded)
  if active = false then
    fixed .notApplicable "SNMP 서비스가 활성 상태가 아닙니다."
  else
    decided (passOrFail safe) safe
      "SNMPv3 사용자 기반 설정을 확인했습니다."
      "SNMPv3 사용자 기반 설정을 확인하지 못했습니다."

/-- The rule of U-60 and U-61. -/
def communityRule (active : Bool) (config : List Char) : Verdict :=
  if active = false then
    fixed .notApplicable "SNMP 서비스가 활성 상태가 아닙니다."
  else if (communityPattern database).occursIn config then
    fixed .fail "기본 Community String 사용이 확인되었습니다."
  else
    fixed .review
      "Community String 복잡성과 접근 대상을 추가 확인해야 합니다."

/-- The rule of U-62. -/
def bannerRule (banner : List Char) : Verdict :=
  let passed := decide (strip banner ≠ []) && !bannerPattern.occursIn banner
  decided (passOrFail passed) passed "승인 경고 문구가 설정되어 있습니다."
    "경고 문구가 없거나 시스템 정보가 노출됩니다."

/-- The rule of U-63. -/
def sudoersRule (syntax' : List Char) : Verdict :=
  let folded := casefold database syntax'
  if ¬"parsed ok".toList <:+: folded ∧ ¬"구문 분석 정상".toList <:+: folded then
    fixed .fail "sudoers 구문 검사가 정상 완료되지 않았습니다."
  else
    fixed .review
      "sudoers 구문은 정상이지만 관리자 승인 목록과 비교해야 합니다."

/-- The rule of U-65. -/
def timeSyncRule (text : List Char) : Verdict :=
  let value := casefold database text
  (passOrFail (value = "yes".toList), "시각 동기화 상태는 ".toList ++
    (if value = [] then "미확인".toList else value) ++ "입니다.".toList)

/-- The rule of U-66. -/
def loggingRule (state config : List Char) : Verdict :=
  let passed := decide (casefold database state = "active".toList) &&
    decide (config ≠ [])
  decided (passOrFail passed) passed
    "시스템 로깅 서비스와 주요 로그 정책을 확인했습니다."
    "시스템 로깅 서비스 또는 주요 로그 정책이 미흡합니다."

/-! ## All controls -/

/-- `_initial_assessment`, of a control whose probes were collected. -/
def initialAssessment (outputs : Outputs) (distribution : LinuxDistribution)
    (profile : KisaUnixAssessmentProfile) (number : Nat) :
    Except KisaFault Verdict :=
  let text := textOf outputs
  let passwd := passwdRows database (text "linux.passwd-db")
  let groups := groupRows database (text "linux.group-db")
  let config := text "linux.service-config"
  let active := serviceActive database outputs number
  match number with
  | 1 => .ok (rootLoginRule database (text "linux.sshd-effective"))
  | 2 =>
      passwordPolicyRule database profile
        (text "linux.login-defs" ++ ['\n'] ++ text "linux.pam-policy")
  | 3 => lockRule database profile (text "linux.pam-policy")
  | 4 => .ok (shadowedRule passwd)
  | 5 => .ok (rootUidRule passwd)
  | 6 => .ok (suRule (text "linux.pam-su"))
  | 7 => .ok (loginAccountsRule profile passwd)
  | 8 => .ok (adminGroupRule database profile groups)
  | 9 => .ok (knownGroupsRule passwd groups)
  | 10 => .ok (sharedUidRule passwd)
  | 11 => .ok (systemShellRule passwd)
  | 12 => timeoutRule database profile (text "linux.profile-policy")
  | 13 =>
      .ok (hashRule database
        (text "linux.login-defs" ++ ['\n'] ++ text "linux.pam-policy"))
  | 14 => .ok (rootHomeRule passwd)
  | 15 => .ok (breachesRule (text "linux.ownerless"))
  | 16 => .ok (fileRule database .u16 (text "linux.passwd-mode"))
  | 17 => .ok (fileRule database .u17 (text "linux.startup-unsafe"))
  | 18 => .ok (fileRule database .u18 (text "linux.shadow-mode"))
  | 19 => .ok (fileRule database .u19 (text "linux.hosts-mode"))
  | 20 => .ok (fileRule database .u20 (text "linux.inetd-mode"))
  | 21 => .ok (fileRule database .u21 (text "linux.syslog-mode"))
  | 22 => .ok (fileRule database .u22 (text "linux.services-mode"))
  | 23 => .ok (suidRule profile (text "linux.suid-sgid"))
  | 24 => .ok (breachesRule (text "linux.environment-unsafe"))
  | 25 => .ok (breachesRule (text "linux.world-writable"))
  | 26 => .ok (breachesRule (text "linux.dev-regular"))
  | 27 => .ok (breachesRule (text "linux.rhosts"))
  | 28 =>
      .ok (firewallRule database profile (text "linux.firewall-state")
        (text "linux.listening-sockets"))
  | 29 => .ok (legacyStatRule database (text "linux.hosts-lpd-mode"))
  | 30 =>
      .ok (umaskRule database
        (text "linux.login-defs" ++ ['\n'] ++ text "linux.profile-policy"))
  | 31 | 32 => .ok (homesRule (text "linux.passwd-db"))
  | 33 => .ok (homesRule (text "linux.home-hidden"))
  | 35 => .ok (anonymousRule database active config (text "linux.nfs-exports"))
  | 34 | 36 | 38 | 41 | 42 | 43 | 44 | 52 | 54 =>
      .ok (forbiddenServiceRule active)
  | 37 => .ok (breachesRule (text "linux.cron-unsafe"))
  | 39 | 58 => .ok (neededServiceRule active)
  | 40 => .ok (exportsRule active (text "linux.nfs-exports"))
  | 45 | 49 =>
      updatesRule database true active distribution
        (text "linux.pending-security-updates")
  | 64 =>
      updatesRule database false active distribution
        (text "linux.pending-security-updates")
  | 46 | 47 | 53 | 56 => .ok (reviewedServiceRule active)
  | 48 => .ok (mailCommandsRule database active config)
  | 50 => .ok (transferRule database active config)
  | 51 => .ok (updateRule database active config)
  | 55 => .ok (ftpShellRule active passwd)
  | 57 => .ok (ftpUsersRule active (text "linux.ftpusers"))
  | 59 => .ok (snmpUsersRule database active config)
  | 60 | 61 => .ok (communityRule database active config)
  | 62 => .ok (bannerRule (text "linux.banner"))
  | 63 => .ok (sudoersRule database (text "linux.sudoers-check"))
  | 65 => .ok (timeSyncRule database (text "linux.time-sync"))
  | 66 =>
      .ok (loggingRule database (text "linux.logging-state")
        (text "linux.logging-config"))
  | 67 => .ok (fileRule database .u67 (text "linux.log-metadata"))
  | _ => .ok (fixed .review "점검 자료를 조직 기준과 함께 확인해야 합니다.")

/-- The status and the summary of a control in `evaluate_kisa_unix`. -/
def assessControl (outputs : Outputs) (distribution : LinuxDistribution)
    (profile : KisaUnixAssessmentProfile) (number : Nat) :
    Except KisaFault Verdict :=
  let missing := (probeIds number).filter fun probe => (outputs probe).isNone
  if missing = [] then
    initialAssessment database outputs distribution profile number
  else
    .ok (.error, counted "필수 점검 자료 " missing.length
      "개를 수집하지 못했습니다.")

variable {database : CharacterDatabase} {outputs : Outputs}
  {distribution : LinuxDistribution} {profile : KisaUnixAssessmentProfile}
  {number : Nat}

theorem assessControl_of_collected
    (collected : ∀ probe ∈ probeIds number, (outputs probe).isSome = true) :
    assessControl database outputs distribution profile number =
      initialAssessment database outputs distribution profile number := by
  refine if_pos (List.filter_eq_nil_iff.mpr fun probe member missing => ?_)
  rw [Option.isNone_iff_eq_none] at missing
  have found := collected probe member
  rw [missing] at found
  cases found

theorem passOrFail_eq_pass_iff {passed : Bool} :
    passOrFail passed = .pass ↔ passed = true := by
  cases passed
  · exact iff_of_false nofun nofun
  · exact iff_of_true rfl rfl

theorem exists_summary_iff {status : AssessmentStatus} {verdict : Verdict} :
    (∃ summary, (.ok verdict : Except KisaFault Verdict) =
        .ok (status, summary)) ↔ verdict.1 = status := by
  constructor
  case mp =>
    rintro ⟨summary, same⟩
    rw [Except.ok.inj same]
  case mpr =>
    rintro rfl
    exact ⟨verdict.2, rfl⟩

end Rules

end SecAI.LinuxKisa
