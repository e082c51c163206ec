/-
Module: SecAI.LinuxKisa.Settings
Purpose: Rules on forbidden services and on the value of a setting, and when
  each looks at the names of the units, or at its own setting.
Trusted boundary: the Unicode database is a parameter
Main exports:
  forbidden_service_rule_exact_iff, GrantsEveryHost, own_settings_decide_iff
-/
import SecAI.LinuxKisa.Firewall
import SecAI.Text.Delimited
import SecAI.Common.Outcome

namespace SecAI.LinuxKisa

open SecAI.Text
open SecAI.Platforms (AssessmentStatus)

def forbiddingControls : List Nat := [34, 36, 38, 41, 42, 43, 44, 52, 54]

/-- The listings of the units that run, and of those that are enabled. -/
def unitListings : List String :=
  ["linux.active-services", "linux.enabled-services"]

/-- The name of the unit of a line: the first word, without the suffix of a
service. -/
def unitName (line : List Char) : Option (List Char) :=
  (words line).head?.map fun unit =>
    if ".service".toList <:+ unit then unit.take (unit.length - 8) else unit

def unitNames (listing : List Char) : List (List Char) :=
  (lines listing).filterMap unitName

section Units

variable (database : CharacterDatabase) (outputs : Outputs) (number : Nat)

/-- Some unit that runs or is enabled has the name of a service that the
control forbids. -/
def ForbiddenListed : Prop :=
  ∃ listing ∈ unitListings, ∃ unit ∈ unitNames (textOf outputs listing),
    casefold database unit ∈ (serviceNames number).map String.toList

/-- The name of a service that the control forbids occurs in a listing, in
whatever word of it. -/
def ForbiddenOccurs : Prop :=
  ∃ listing ∈ unitListings, ∃ name ∈ serviceNames number,
    name.toList <:+: casefold database (textOf outputs listing)

end Units

section Results

variable {database : CharacterDatabase} {outputs : Outputs} {number : Nat}

theorem casefold_append (front behind : List Char) :
    casefold database (front ++ behind) =
      casefold database front ++ casefold database behind :=
  List.flatMap_append

theorem casefold_infix {part text : List Char} (isPart : part <:+: text) :
    casefold database part <:+: casefold database text := by
  obtain ⟨left, right, rfl⟩ := isPart
  rw [casefold_append, casefold_append]
  exact ⟨_, _, rfl⟩

theorem serviceNames_lower (forbids : number ∈ forbiddingControls) :
    ∀ name ∈ serviceNames number, ∀ character ∈ name.toList,
      character.toNat < 128 ∧ character.toLower = character ∧
        character ≠ '\n' := by
  have lower : ((serviceNames number).all fun name =>
      name.toList.all fun character => decide (character.toNat < 128 ∧
        character.toLower = character ∧ character ≠ '\n')) = true := by
    simp only [forbiddingControls, List.mem_cons, List.not_mem_nil,
      or_false] at forbids
    rcases forbids with rfl | rfl | rfl | rfl | rfl | rfl | rfl | rfl | rfl <;>
      decide
  intro name isName character member
  exact of_decide_eq_true (List.all_eq_true.mp
    (List.all_eq_true.mp lower name isName) character member)

theorem casefold_serviceName (forbids : number ∈ forbiddingControls)
    {name : String} (isName : name ∈ serviceNames number) :
    casefold database name.toList = name.toList := by
  have lower := serviceNames_lower forbids name isName
  generalize name.toList = spelling at lower ⊢
  induction spelling with
  | nil => rfl
  | cons character rest ih =>
      rw [casefold] at ih ⊢
      obtain ⟨ascii, same, -⟩ := lower character List.mem_cons_self
      rw [List.flatMap_cons, database.casefold_ascii character ascii, same,
        ih fun other member =>
          lower other (List.mem_cons_of_mem _ member)]
      rfl

theorem isInfix_of_unitNames {listing unit : List Char}
    (isUnit : unit ∈ unitNames listing) : unit <:+: listing := by
  obtain ⟨line, isLine, isName⟩ := List.mem_filterMap.mp isUnit
  obtain ⟨word, isFirst, rfl⟩ := Option.map_eq_some_iff.mp isName
  have isWord : word ∈ words listing := by
    rw [← words_lines]
    exact List.mem_flatMap.mpr ⟨line, isLine, List.mem_of_head? isFirst⟩
  obtain ⟨-, -, left, right, rfl, -⟩ := mem_words_iff.mp isWord
  refine List.IsInfix.trans ?_ ⟨left, right, List.append_assoc _ _ _⟩
  split
  · exact (List.take_prefix _ _).isInfix
  · exact List.infix_refl _

theorem ForbiddenListed.occurs (listed : ForbiddenListed database
    outputs number) : ForbiddenOccurs database outputs number := by
  obtain ⟨listing, isListing, unit, isUnit, isForbidden⟩ := listed
  obtain ⟨name, isName, same⟩ := List.mem_map.mp isForbidden
  refine ⟨listing, isListing, name, isName, ?_⟩
  rw [same]
  exact casefold_infix (isInfix_of_unitNames isUnit)

/-- A service counts as active if a forbidden name occurs. -/
theorem serviceActive_iff (forbids : number ∈ forbiddingControls)
    (collected : ∀ listing ∈ unitListings,
      (outputs listing).isSome = true) :
    serviceActive database outputs number = true ↔
      ForbiddenOccurs database outputs number := by
  have both : activeText outputs =
      textOf outputs "linux.active-services" ++
        '\n' :: textOf outputs "linux.enabled-services" := by
    have whole := List.filter_eq_self.mpr collected
    rw [unitListings] at whole
    rw [activeText, whole]
    simp [List.intercalate]
  have found : ∀ name ∈ serviceNames number,
      (casefold database name.toList <:+:
          casefold database (activeText outputs) ↔
        ∃ listing ∈ unitListings,
          name.toList <:+: casefold database (textOf outputs listing)) := by
    intro name isName
    have noBreak : '\n' ∉ name.toList := fun member =>
      (serviceNames_lower forbids name isName '\n' member).2.2 rfl
    have lineFeed : casefold database ['\n'] = ['\n'] := by
      rw [casefold, List.flatMap_singleton,
        database.casefold_ascii '\n' (by decide)]
      rfl
    rw [both, ← List.singleton_append, casefold_append, casefold_append,
      lineFeed, List.singleton_append, casefold_serviceName forbids isName,
      Delimited.infix_append_separator_iff noBreak]
    simp only [unitListings, List.mem_cons, List.not_mem_nil, or_false,
      exists_eq_or_imp, exists_eq_left]
  simp only [serviceActive, servicePresent, List.any_eq_true,
    decide_eq_true_eq]
  constructor
  case mp =>
    rintro ⟨name, isName, occurs⟩
    obtain ⟨listing, isListing, inListing⟩ :=
      (found name isName).mp occurs
    exact ⟨listing, isListing, name, isName, inListing⟩
  case mpr =>
    rintro ⟨listing, isListing, name, isName, inListing⟩
    exact ⟨name, isName,
      (found name isName).mpr ⟨listing, isListing, inListing⟩⟩

theorem assessControl_forbidden {distribution : LinuxDistribution}
    {profile : KisaUnixAssessmentProfile}
    (forbids : number ∈ forbiddingControls)
    (collected : ∀ probe ∈ probeIds number, (outputs probe).isSome = true) :
    (∃ summary, assessControl database outputs distribution profile number =
        .ok (.fail, summary)) ↔ ForbiddenOccurs database outputs number := by
  have listings : ∀ listing ∈ unitListings, (outputs listing).isSome = true ∧
      initialAssessment database outputs distribution profile number =
        .ok (forbiddenServiceRule (serviceActive database outputs number)) := by
    simp only [forbiddingControls, List.mem_cons, List.not_mem_nil,
      or_false] at forbids
    intro listing isListing
    rcases forbids with rfl | rfl | rfl | rfl | rfl | rfl | rfl | rfl | rfl <;>
      exact ⟨collected listing (List.mem_of_mem_take (i := 2) isListing), rfl⟩
  rw [assessControl_of_collected collected,
    (listings _ List.mem_cons_self).2, exists_summary_iff,
    ← serviceActive_iff forbids fun listing member => (listings listing member).1]
  cases serviceActive database outputs number
  · exact iff_of_false (by rintro ⟨⟩) (by rintro ⟨⟩)
  · exact iff_of_true rfl rfl

/-- A control that forbids services fails exactly if some unit has the name of
one, if and only if: where a forbidden name occurs in a listing, be it in a
description or as a part of another name, some unit has a forbidden name. -/
theorem forbidden_service_rule_exact_iff (database : CharacterDatabase)
    (outputs : Outputs) (distribution : LinuxDistribution)
    (profile : KisaUnixAssessmentProfile) (number : Nat)
    (forbids : number ∈ forbiddingControls)
    (collected : ∀ probe ∈ probeIds number, (outputs probe).isSome = true) :
    ((∃ summary, assessControl database outputs distribution profile number =
        .ok (.fail, summary)) ↔ ForbiddenListed database outputs number) ↔
      (ForbiddenOccurs database outputs number →
        ForbiddenListed database outputs number) := by
  rw [assessControl_forbidden forbids collected]
  exact ⟨Iff.mp, fun names => ⟨names, fun listed => listed.occurs⟩⟩

end Results

/-- The outputs of a server whose units are those of this listing. -/
def unitOutputs (listing : List Char) : Outputs := fun probe =>
  if probe = "linux.active-services" then some (asciiBytes listing)
  else if probe ∈ ["linux.enabled-services", "linux.service-config"] then
    some []
  else none

/-- A control on the RPC mapper fails exactly with its unit. -/
theorem rpcbind_fails_exactly :
    (∃ summary, assessControl asciiDatabase
        (unitOutputs "rpcbind.service loaded".toList) .rocky9 {} 42 =
          .ok (.fail, summary)) ↔
      ForbiddenListed asciiDatabase
        (unitOutputs "rpcbind.service loaded".toList) 42 := by
  refine (forbidden_service_rule_exact_iff asciiDatabase _ .rocky9 {} 42
    (by decide) (by decide)).mpr fun _ => ?_
  have named : unitNames (probeText
      (asciiBytes "rpcbind.service loaded".toList)) = ["rpcbind".toList] := by
    decide
  refine ⟨"linux.active-services", by decide, "rpcbind".toList, ?_, ?_⟩
  · exact named ▸ List.mem_singleton_self _
  · decide

/-- A description that speaks of talks is a forbidden service. -/
theorem description_fails :
    (∃ summary, assessControl asciiDatabase
        (unitOutputs "x.service Talks".toList) .rocky9 {} 44 =
          .ok (.fail, summary)) ∧
      ¬ForbiddenListed asciiDatabase
        (unitOutputs "x.service Talks".toList) 44 := by
  constructor
  · have folded : casefold asciiDatabase (probeText
        (asciiBytes "x.service Talks".toList)) =
        "x.service ".toList ++ "talk".toList ++ "s".toList := by
      decide
    exact (assessControl_forbidden (by decide) (by decide)).mpr
      ⟨"linux.active-services", by decide, "talk", by decide,
        "x.service ".toList, "s".toList, folded.symm⟩
  · rintro ⟨listing, isListing, unit, isUnit, isForbidden⟩
    have active : unitNames (probeText
        (asciiBytes "x.service Talks".toList)) = [['x']] := by
      decide
    have enabled : unitNames (probeText []) = [] := by decide
    rcases List.mem_pair.mp isListing with rfl | rfl
    · have isX : unit ∈ [['x']] := active ▸ isUnit
      rw [List.mem_singleton.mp isX] at isForbidden
      exact absurd isForbidden (by decide)
    · exact absurd (enabled ▸ isUnit : unit ∈ []) List.not_mem_nil

/-- Where a reader of the configuration of a name server stands. -/
inductive NamedRegion where
  | plain
  | quoted
  | lineComment
  | blockComment

/-- The text without comments, with blanks around its marks, and with quotes for
the characters of quoted texts. -/
def statementText : NamedRegion → List Char → List Char
  | _, [] => []
  | .plain, '/' :: '/' :: rest => ' ' :: statementText .lineComment rest
  | .plain, '/' :: '*' :: rest => ' ' :: statementText .blockComment rest
  | .plain, character :: rest =>
      if character = '#' then ' ' :: statementText .lineComment rest
      else if character = '"' then '"' :: statementText .quoted rest
      else if character ∈ ['\x7b', '\x7d', ';'] then
        ' ' :: character :: ' ' :: statementText .plain rest
      else character :: statementText .plain rest
  | .quoted, character :: rest =>
      '"' :: statementText (if character = '"' then .plain else .quoted) rest
  | .lineComment, character :: rest =>
      if character = '\n' then '\n' :: statementText .plain rest
      else statementText .lineComment rest
  | .blockComment, '*' :: '/' :: rest => statementText .plain rest
  | .blockComment, _ :: rest => statementText .blockComment rest

/-- What stands between the braces behind the name of a statement. -/
def bracedTokens (tokens : List (List Char)) : List (List Char) :=
  match tokens.dropWhile (· ∉ [['\x7b'], ['\x7d'], [';']]) with
  | ['\x7b'] :: inner => inner.takeWhile (· ≠ ['\x7d'])
  | _ => []

section Statements

variable (database : CharacterDatabase)

def statementsOf (name : String) : List (List Char) → List (List (List Char))
  | [] => []
  | token :: rest =>
      if casefold database token = name.toList then
        (bracedTokens rest).filter (· ≠ [';']) :: statementsOf name rest
      else statementsOf name rest

/-- There is a statement with the name, and each one is `none`. -/
def OnlyNone (name : String) (config : List Char) : Prop :=
  statementsOf database name (words (statementText .plain config)) ≠ [] ∧
    ∀ elements ∈ statementsOf database name
        (words (statementText .plain config)),
      elements.map (casefold database) = ["none".toList]

end Statements

/-- The clients of a line of `/etc/exports`, with their options. -/
def exportClients (line : List Char) : Option (List (List Char)) :=
  match words (line.takeWhile (· ≠ '#')) with
  | [] => none
  | _ :: clients => some (clients.filter (·.head? ≠ some '-'))

def everyHost : List (List Char) :=
  [[], ['*'], "0.0.0.0/0".toList, "::/0".toList]

/-- The line exports to every host: to none in particular, or to a client whose
name stands for all. -/
def GrantsEveryHost (line : List Char) : Prop :=
  ∃ clients ∈ exportClients line,
    clients = [] ∨ ∃ client ∈ clients, client.takeWhile (· ≠ '(') ∈ everyHost

section Rules

variable (database : CharacterDatabase) (outputs : Outputs)
  (distribution : LinuxDistribution) (profile : KisaUnixAssessmentProfile)

/-- The control is assessed as passed. -/
def Passes (number : Nat) : Prop :=
  ∃ summary, assessControl database outputs distribution profile number =
    .ok (.pass, summary)

/-- The values of `TMOUT`, if all of them can be read. -/
def timeoutValues : Except KisaFault (List Int) :=
  valuesOf database (timeoutPattern database)
    (textOf outputs "linux.profile-policy")

/-- Some timeout is within the limit, and none is disabled. -/
def TimeoutLimited : Prop :=
  ∃ values, timeoutValues database outputs = .ok values ∧
    (∃ value ∈ values, 1 ≤ value ∧ value ≤ profile.sessionTimeoutSeconds) ∧
    0 ∉ values

/-- No line of the exports is for every host. -/
def ExportsLimited : Prop :=
  ∀ line ∈ lines (textOf outputs "linux.nfs-exports"), ¬GrantsEveryHost line

/-- What the rule on a statement of a name server looks for: the name, and
`none`, each somewhere in the configuration. -/
def MentionsNone (name : String) (config : List Char) : Prop :=
  name.toList <:+: config ∧ "none".toList <:+: casefold database config

/-- What the rule on the exports looks for. -/
def ExportsRefused (exports : List Char) : Prop :=
  exports = [] ∨ "no_root_squash".toList <:+: exports ∨
    everyHostPattern.occursIn exports = true

end Rules

section Results

variable {database : CharacterDatabase} {outputs : Outputs}
  {distribution : LinuxDistribution} {profile : KisaUnixAssessmentProfile}
  {number : Nat}

theorem timeout_groupsTake :
    (timeoutPattern database).GroupsTake fun captured =>
      AllDecimal database captured ∧ captured ≠ [] := by
  refine ⟨trivial, trivial, ?_, trivial, trivial, trivial, ?_⟩
  · exact ⟨trivial, trivial, trivial, trivial, trivial⟩
  · intro before text found member
    obtain ⟨-, all, enough, -⟩ := repetitions_cases member
    exact ⟨all, List.ne_nil_of_length_pos enough⟩

/-- A timeout is not negative. -/
theorem timeoutValues_nonneg {values : List Int}
    (read : timeoutValues database outputs = .ok values) :
    ∀ value ∈ values, 0 ≤ value := by
  intro value member
  obtain ⟨captured, isCaptured, isRead⟩ := Outcome.mapM_mem read value member
  obtain ⟨found, isFound, rfl⟩ := List.mem_map.mp isCaptured
  obtain ⟨_, _, _, _, occurs⟩ := Pattern.findAll_cases isFound
  have takes := Pattern.captured_property timeout_groupsTake occurs
  have taken := Pattern.captured_isSome (by rfl) occurs
  obtain ⟨numeral, isNumeral⟩ := Option.isSome_iff_exists.mp taken
  obtain ⟨decimals, filled⟩ := takes numeral isNumeral
  rw [isNumeral, Option.getD_some, integerOrFault,
    integerOf_decimals decimals filled] at isRead
  split at isRead
  · next number isNumber =>
      split at isNumber
      · cases isNumber
        cases isRead
        exact Int.natCast_nonneg _
      · cases isNumber
  · cases isRead

/-- When U-12 passes. -/
theorem passes_timeout_iff
    (collected : ∀ probe ∈ probeIds 12, (outputs probe).isSome = true) :
    Passes database outputs distribution profile 12 ↔
      ∃ values, timeoutValues database outputs = .ok values ∧
        ∃ value ∈ values, value ≤ profile.sessionTimeoutSeconds := by
  rw [Passes, assessControl_of_collected collected]
  change (∃ summary, timeoutRule database profile _ = _) ↔ _
  rw [timeoutRule, timeoutValues]
  cases read : valuesOf database (timeoutPattern database)
      (textOf outputs "linux.profile-policy") with
  | error fault => exact iff_of_false nofun nofun
  | ok values =>
      have least : (∃ value ∈ values,
          value ≤ profile.sessionTimeoutSeconds) ↔
          values.min?.any (· ≤ profile.sessionTimeoutSeconds) = true := by
        cases isLeast : values.min? with
        | none =>
            rw [List.min?_eq_none_iff.mp isLeast]
            exact iff_of_false nofun nofun
        | some minimum =>
            obtain ⟨member, lower⟩ := List.min?_eq_some_iff.mp isLeast
            rw [Option.any_some, decide_eq_true_eq]
            exact ⟨fun ⟨value, isValue, small⟩ =>
              Int.le_trans (lower value isValue) small,
              fun small => ⟨minimum, member, small⟩⟩
      change (∃ summary, (.ok (passOrFail _, _) : Except KisaFault Verdict) =
        _) ↔ _
      rw [exists_summary_iff, passOrFail_eq_pass_iff, ← least]
      exact ⟨fun small => ⟨values, rfl, small⟩, fun ⟨_, same, small⟩ =>
        Except.ok.inj same ▸ small⟩

theorem passes_exports_iff
    (collected : ∀ probe ∈ probeIds 40, (outputs probe).isSome = true) :
    Passes database outputs distribution profile 40 ↔
      serviceActive database outputs 40 = true ∧
        ¬ExportsRefused (textOf outputs "linux.nfs-exports") := by
  rw [Passes, assessControl_of_collected collected]
  change (∃ summary, (.ok (exportsRule _ _) : Except KisaFault Verdict) = _) ↔ _
  rw [exists_summary_iff, exportsRule, ExportsRefused]
  cases serviceActive database outputs 40 with
  | false => exact iff_of_false (by rintro ⟨⟩) (by simp)
  | true =>
      change passOrFail _ = .pass ↔ _
      rw [passOrFail_eq_pass_iff]
      simp only [Bool.not_eq_true', Bool.or_eq_false_iff, decide_eq_false_iff_not,
        not_or, true_and, Bool.not_eq_true]
      tauto

theorem namedRule_eq_pass_iff {name summary otherwise : String} {active : Bool}
    {config : List Char} :
    (namedRule database name summary otherwise active config).1 = .pass ↔
      active = true ∧ MentionsNone database name config := by
  rw [namedRule, MentionsNone]
  cases active with
  | false => exact iff_of_false (by rintro ⟨⟩) (by simp)
  | true =>
      rw [if_neg (by decide), decided]
      dsimp only
      split
      · next safe =>
          rw [Bool.and_eq_true, decide_eq_true_eq, decide_eq_true_eq] at safe
          exact iff_of_true rfl ⟨rfl, safe⟩
      · next unsafe' =>
          rw [Bool.and_eq_true, decide_eq_true_eq, decide_eq_true_eq] at unsafe'
          exact iff_of_false nofun fun both => unsafe' both.2

theorem passes_transfer_iff
    (collected : ∀ probe ∈ probeIds 50, (outputs probe).isSome = true) :
    Passes database outputs distribution profile 50 ↔
      serviceActive database outputs 50 = true ∧
        MentionsNone database "allow-transfer"
          (textOf outputs "linux.service-config") := by
  rw [Passes, assessControl_of_collected collected]
  exact exists_summary_iff.trans namedRule_eq_pass_iff

theorem passes_update_iff
    (collected : ∀ probe ∈ probeIds 51, (outputs probe).isSome = true) :
    Passes database outputs distribution profile 51 ↔
      serviceActive database outputs 51 = true ∧
        MentionsNone database "allow-update"
          (textOf outputs "linux.service-config") := by
  rw [Passes, assessControl_of_collected collected]
  exact exists_summary_iff.trans namedRule_eq_pass_iff

/-- The timeouts of a U-12 that passes are within the limit exactly if none is
disabled, or no timeout at all is within the limit. -/
theorem timeout_limited_iff
    (collected : ∀ probe ∈ probeIds 12, (outputs probe).isSome = true) :
    (Passes database outputs distribution profile 12 →
        TimeoutLimited database outputs profile) ↔
      ∀ values, timeoutValues database outputs = .ok values → 0 ∈ values →
        profile.sessionTimeoutSeconds < 0 := by
  rw [passes_timeout_iff collected]
  constructor
  case mp =>
    intro limited values read disabled
    by_contra positive
    obtain ⟨others, again, -, enabled⟩ :=
      limited ⟨values, read, 0, disabled, Int.not_lt.mp positive⟩
    cases read.symm.trans again
    exact enabled disabled
  case mpr =>
    rintro negative ⟨values, read, value, member, small⟩
    have nonneg := timeoutValues_nonneg read
    have enabled : 0 ∉ values := by
      intro disabled
      have below := negative values read disabled
      have above := nonneg value member
      omega
    have positive : value ≠ 0 := by
      rintro rfl
      exact enabled member
    have above := nonneg value member
    exact ⟨values, read, ⟨value, member, by omega, small⟩, enabled⟩

/-- Each of the four rules is decided by its own setting, if and only if: no
timeout is disabled; where a name server is active and the name of its
statement and `none` occur in its configuration, there are such statements, all
of them `none`; and no exports are for every host but those that the rule
refuses. -/
theorem own_settings_decide_iff (database : CharacterDatabase)
    (outputs : Outputs) (distribution : LinuxDistribution)
    (profile : KisaUnixAssessmentProfile)
    (collected : ∀ number ∈ [12, 40, 50, 51], ∀ probe ∈ probeIds number,
      (outputs probe).isSome = true) :
    ((Passes database outputs distribution profile 12 →
        TimeoutLimited database outputs profile) ↔
      ∀ values, timeoutValues database outputs = .ok values → 0 ∈ values →
        profile.sessionTimeoutSeconds < 0) ∧
    ((Passes database outputs distribution profile 50 →
        OnlyNone database "allow-transfer"
          (textOf outputs "linux.service-config")) ↔
      (serviceActive database outputs 50 = true →
        MentionsNone database "allow-transfer"
          (textOf outputs "linux.service-config") →
        OnlyNone database "allow-transfer"
          (textOf outputs "linux.service-config"))) ∧
    ((Passes database outputs distribution profile 51 →
        OnlyNone database "allow-update"
          (textOf outputs "linux.service-config")) ↔
      (serviceActive database outputs 51 = true →
        MentionsNone database "allow-update"
          (textOf outputs "linux.service-config") →
        OnlyNone database "allow-update"
          (textOf outputs "linux.service-config"))) ∧
    ((Passes database outputs distribution profile 40 →
        ExportsLimited outputs) ↔
      (serviceActive database outputs 40 = true → ∀ line ∈
          lines (textOf outputs "linux.nfs-exports"),
        GrantsEveryHost line →
          ExportsRefused (textOf outputs "linux.nfs-exports"))) := by
  rw [passes_transfer_iff (collected 50 (by decide)),
    passes_update_iff (collected 51 (by decide)),
    passes_exports_iff (collected 40 (by decide))]
  refine ⟨timeout_limited_iff (collected 12 (by decide)), and_imp, and_imp, ?_⟩
  constructor
  case mp =>
    intro limited active line isLine grants
    by_contra accepted
    exact limited ⟨active, accepted⟩ line isLine grants
  case mpr =>
    rintro refused ⟨active, accepted⟩ line isLine grants
    exact accepted (refused active line isLine grants)

end Results

/-- The outputs of a name server with these settings of its shells. -/
def settingOutputs (shells config : String) : Outputs := fun probe =>
  if probe = "linux.profile-policy" then some (asciiBytes shells.toList)
  else if probe = "linux.active-services" then
    some (asciiBytes "named.service".toList)
  else if probe = "linux.service-config" then some (asciiBytes config.toList)
  else if probe ∈ ["linux.enabled-services", "linux.nfs-exports"] then some []
  else none

def noTransfer : String := "allow-transfer \x7b none; \x7d;"

/-- With a timeout that is not disabled, and no zone transfers, each rule is
decided by its own setting. -/
theorem careful_settings_decide :
    (Passes asciiDatabase (settingOutputs "TMOUT=600" noTransfer) .debian12 {}
        12 →
      TimeoutLimited asciiDatabase (settingOutputs "TMOUT=600" noTransfer)
        {}) ∧
    (Passes asciiDatabase (settingOutputs "TMOUT=600" noTransfer) .debian12 {}
        50 →
      OnlyNone asciiDatabase "allow-transfer"
        (textOf (settingOutputs "TMOUT=600" noTransfer)
          "linux.service-config")) := by
  obtain ⟨timeout, transfer, -⟩ := own_settings_decide_iff asciiDatabase
    (settingOutputs "TMOUT=600" noTransfer) .debian12 {} (by decide +kernel)
  refine ⟨timeout.mpr fun values read disabled => ?_,
    transfer.mpr fun _ _ => ?_⟩
  · have isRead : timeoutValues asciiDatabase
        (settingOutputs "TMOUT=600" noTransfer) = .ok [600] := by
      decide +kernel
    cases isRead.symm.trans read
    exact absurd disabled (by decide)
  · have elements : statementsOf asciiDatabase "allow-transfer"
        (words (statementText .plain (probeText (asciiBytes
          noTransfer.toList)))) = [["none".toList]] := by
      decide +kernel
    refine ⟨fun none => ?_, fun statement member => ?_⟩
    · cases elements.symm.trans none
    · have isNone : statement ∈ [["none".toList]] := elements ▸ member
      rw [List.mem_singleton.mp isNone]
      decide +kernel

/-- U-12 passes with a timeout that is disabled. -/
theorem disabled_timeout_passes :
    Passes asciiDatabase (settingOutputs "TMOUT=0" "") .debian12 {} 12 ∧
      ¬TimeoutLimited asciiDatabase (settingOutputs "TMOUT=0" "") {} := by
  have isRead : timeoutValues asciiDatabase (settingOutputs "TMOUT=0" "") =
      .ok [0] := by
    decide +kernel
  constructor
  · exact (passes_timeout_iff (by decide +kernel)).mpr
      ⟨[0], isRead, 0, List.mem_singleton_self 0, by decide⟩
  · rintro ⟨values, read, -, enabled⟩
    cases isRead.symm.trans read
    exact enabled (List.mem_singleton_self 0)

end SecAI.LinuxKisa
