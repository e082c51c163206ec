/-
Module: SecAI.LiveDraft.Compared
Purpose: Which records the six comparisons without an administrator turn into a
  verdict, whatever became of their collection.
Trusted boundary: as in the contracts of the live draft
Main exports:
  HasVerdict, Decides, ServicesCompared, WininetCompared
-/
import SecAI.LiveDraft.Outcomes
import SecAI.LiveDraft.Preparable

namespace SecAI.LiveDraft

open SecAI.Collector (ProbeObservation)
open SecAI.Criteria (CriteriaContext CriteriaValue CriteriaValues)
open SecAI.Rules.Registry (Piece either wholeHours)
open SecAI.Text

/-! ## Verdicts -/

def HasVerdict (status : String) : Prop := status ∈ ["PASS", "FAIL", "N/A"]

instance (status : String) : Decidable (HasVerdict status) :=
  inferInstanceAs (Decidable (status ∈ _))

/-- The comparison returns a verdict. -/
def Decides (result : Except LiveFault LiveDecision) : Prop :=
  ∃ decision, result = .ok decision ∧ HasVerdict decision.status

section Decides

variable {α : Type} {next : α → Except LiveFault LiveDecision}

theorem decides_bind {first : Except LiveFault α} :
    Decides (first >>= next) ↔ ∃ value, first = .ok value ∧
      Decides (next value) := by
  cases first with
  | error error => exact iff_of_false nofun nofun
  | ok value =>
      constructor
      case mp => exact fun decides => ⟨value, rfl, decides⟩
      case mpr =>
        rintro ⟨other, same, decides⟩
        cases same
        exact decides

theorem decides_ok {decision : LiveDecision} :
    Decides (.ok decision) ↔ HasVerdict decision.status := by
  constructor
  case mp =>
    rintro ⟨other, same, has⟩
    cases same
    exact has
  case mpr => exact fun has => ⟨decision, rfl, has⟩

theorem not_decides_error {fault : LiveFault} : ¬Decides (.error fault) := by
  rintro ⟨decision, same, -⟩
  cases same

theorem decides_demand {condition : Prop} [Decidable condition]
    {message : String} {next : Unit → Except LiveFault LiveDecision} :
    Decides (demand condition message >>= next) ↔
      condition ∧ Decides (next ()) := by
  rw [demand]
  split
  · next holds => exact (and_iff_right holds).symm
  · next fails =>
      exact iff_of_false not_decides_error fun both => fails both.1

theorem decides_verdict {passed : Bool} {actual expected : List Piece}
    {explanation passCode failCode : String}
    (constant : expected.all Piece.isPrintable = true) :
    Decides (verdict passed actual expected explanation passCode failCode) ↔
      actual.all Piece.isPrintable = true := by
  constructor
  case mp =>
    rintro ⟨decision, made, -⟩
    exact (verdict_status made).2
  case mpr =>
    intro printable
    obtain ⟨decision, made, status⟩ := @verdict_of_printable passed _ _
      explanation passCode failCode printable constant
    refine ⟨decision, made, ?_⟩
    rw [status]
    cases passed <;> decide

end Decides

/-! ## PC-05 -/

section Compared

variable (env : LiveEnvironment) (values : CriteriaValues)
  (observation : ProbeObservation)

def IsService (item : Json) : Prop :=
  ∃ serviceKey state startMode,
    valueAt item "service_key" = .str serviceKey ∧
    valueAt item "state" = .str state ∧
    valueAt item "start_mode" = .str startMode ∧
    serviceKey ≠ "" ∧ state ∈ serviceStates ∧ startMode ∈ startModes

def foldedKey (item : Json) : List CodePoint :=
  match valueAt item "service_key" with
  | .str serviceKey => foldedText env.criteria serviceKey
  | _ => []

/-- The records are distinct services, be there any or none, and the criteria
name the services that are not needed. -/
structure ServicesCompared : Prop where
  targets : ∃ targets, values.lookup "unnecessary_service_ids" =
    some (.names targets) ∧ [] ∉ targets ∧ targets ≠ []
  services : ∀ item ∈ observation.records, IsService item
  distinct : (observation.records.map (foldedKey env)).Nodup

/-- The only record of WinINet, in an accepted scope. -/
structure WininetCompared (record : Json) : Prop where
  only : observation.records = [record]
  applicability : ∃ applicability ∈ ["APPLICABLE", "NOT_APPLICABLE",
      "UNKNOWN"],
    valueAt record "applicability" = .str applicability ∧
      (applicability = "NOT_APPLICABLE" ∨
        isNullOrFlag (valueAt record "empty_cache_on_exit") = true)
  accepted : values.lookup "wininet_current_user_scope_accepted" =
    some (.bool true)

/-- The signatures have an age that can be printed. -/
def HasAge (record : Json) : Prop :=
  ∃ updated updatedAt observedAt,
    valueAt record "signature_updated_at" = .str updated ∧
    readInstant env.toRegistryEnvironment updated = .ok updatedAt ∧
    readInstant env.toRegistryEnvironment observation.collectedAt =
      .ok observedAt ∧
    updatedAt ≤ observedAt ∧
    (Piece.number (max 0 (wholeHours updatedAt observedAt))).isPrintable = true

/-- The only record of an antivirus product, which is absent or has an age. -/
structure AntivirusCompared (record : Json) : Prop where
  only : observation.records = [record]
  fields : ∃ present serviceEnabled productName signatureVersion,
    valueAt record "product_present" = .bool present ∧
    valueAt record "service_enabled" = .bool serviceEnabled ∧
    valueAt record "product_name" = .str productName ∧
    valueAt record "signature_version" = .str signatureVersion ∧
    productName ≠ "" ∧ signatureVersion ≠ "" ∧
    (present = false ∨ HasAge env observation record)
  maximum : ∃ maximum, values.lookup "antivirus_signature_maximum_age_hours" =
    some (.int maximum)

/-- The value is the text of a switch. -/
def IsSwitch (value : Json) : Prop := ∃ text ∈ switchTexts, value = .str text

/-- The seconds of a timeout that can be printed, or none. -/
def IsTimeout (value : Json) : Prop :=
  value = .null ∨ ∃ seconds, value = .int seconds ∧ 0 ≤ seconds ∧
    (Piece.number (seconds / 60)).isPrintable = true

/-- The only record of a screen saver, in an accepted scope. -/
structure ScreenSaverCompared (record : Json) : Prop where
  only : observation.records = [record]
  active : IsSwitch (valueAt record "screen_save_active")
  secure : IsSwitch (valueAt record "screen_saver_is_secure")
  timeout : IsTimeout (valueAt record "screen_save_timeout_seconds")
  accepted : values.lookup "screensaver_current_user_scope_accepted" =
    some (.bool true)
  maximum : ∃ maximum, values.lookup "screensaver_timeout_maximum_minutes" =
    some (.int maximum)

/-- The only record of AutoPlay, whose lock is required. -/
structure AutoplayCompared (record : Json) : Prop where
  only : observation.records = [record]
  fields : ∃ enabled nonVolume range autorun,
    valueAt record "turn_off_autoplay_enabled" = .bool enabled ∧
    valueAt record "non_volume_autoplay_disallowed" = .bool nonVolume ∧
    valueAt record "autoplay_scope" = .str range ∧
    valueAt record "autorun_default_behavior" = .str autorun
  required : values.lookup "autoplay_disabled_required" = some (.bool true)

/-- The only record of remote assistance, whose lock is required. -/
structure AssistanceCompared (record : Json) : Prop where
  only : observation.records = [record]
  solicited : IsSwitch (valueAt record "f_allow_to_get_help")
  offered : IsSwitch (valueAt record "f_allow_unsolicited")
  required : values.lookup "remote_assistance_disabled_required" =
    some (.bool true)

/-- The records are those that the comparison of the control reads. -/
def IsCompared (controlId : String) : Prop :=
  match controlId with
  | "PC-05" => ServicesCompared env values observation
  | "PC-09" => ∃ record, WininetCompared values observation record
  | "PC-13" => ∃ record, AntivirusCompared env values observation record
  | "PC-16" => ∃ record, ScreenSaverCompared values observation record
  | "PC-17" => ∃ record, AutoplayCompared values observation record
  | "PC-18" => ∃ record, AssistanceCompared values observation record
  | _ => False

end Compared

section Results

variable {env : LiveEnvironment} {values : CriteriaValues}
  {observation : ProbeObservation}

theorem readService_eq_ok {item : Json} :
    (∃ service, readService env item = .ok service) ↔ IsService item := by
  constructor
  case mp =>
    rintro ⟨service, read⟩
    rw [readService.eq_def] at read
    split at read
    · next serviceKey state startMode isKey isState isMode =>
        obtain ⟨valid, -⟩ := Outcome.refused_or (.error _) read
        rw [not_or, not_or, not_not, not_not] at valid
        exact ⟨_, _, _, isKey, isState, isMode, valid⟩
    · cases read
  case mpr =>
    rintro ⟨serviceKey, state, startMode, isKey, isState, isMode, filled, known,
      mode⟩
    rw [readService, isKey, isState, isMode]
    dsimp only
    rw [if_neg (by simp [filled, known, mode])]
    exact ⟨_, rfl⟩

theorem key_of_readService {item : Json} {service : Service}
    (read : readService env item = .ok service) :
    service.key = foldedKey env item := by
  rw [readService.eq_def] at read
  split at read
  · next serviceKey state startMode isKey isState isMode =>
      obtain ⟨-, same⟩ := Outcome.refused_or (.error _) read
      cases same
      rw [foldedKey, isKey]
  · cases read

/-- The loop over the records reads distinct services. -/
theorem returns_addServices :
    ∀ {items : List Json} {byKey : List Service},
      Returns (items.foldlM (addService env) byKey) ↔
        (∀ item ∈ items, IsService item) ∧ (items.map (foldedKey env)).Nodup ∧
          ∀ item ∈ items, foldedKey env item ∉ byKey.map Service.key
  | [], byKey => iff_of_true ⟨byKey, rfl⟩
      ⟨List.forall_mem_nil _, List.nodup_nil, List.forall_mem_nil _⟩
  | item :: items, byKey => by
      rw [List.foldlM_cons, returns_bind, List.forall_mem_cons, List.map_cons,
        List.nodup_cons, List.forall_mem_cons]
      constructor
      case mp =>
        rintro ⟨more, added, returns⟩
        simp only [addService, Outcome.bind_eq_ok] at added
        obtain ⟨service, read, _, fresh, same⟩ := added
        cases same
        have isKey := key_of_readService read
        obtain ⟨services, distinct, others⟩ := returns_addServices.mp returns
        simp only [List.map_append, List.map_cons, List.map_nil,
          List.mem_append, List.mem_singleton, not_or] at others
        refine ⟨⟨readService_eq_ok.mp ⟨service, read⟩, services⟩,
          ⟨fun again => ?_, distinct⟩, ?_, fun other member =>
            (others other member).1⟩
        · obtain ⟨other, member, same⟩ := List.mem_map.mp again
          exact (others other member).2 (same.trans isKey.symm)
        · rw [← isKey]
          exact of_demand fresh
      case mpr =>
        rintro ⟨⟨isService, services⟩, ⟨single, distinct⟩, fresh, others⟩
        obtain ⟨service, read⟩ := (@readService_eq_ok env _).mpr isService
        have isKey := key_of_readService read
        refine ⟨byKey ++ [service], ?_, returns_addServices.mpr
          ⟨services, distinct, fun other member => ?_⟩⟩
        · rw [addService, read]
          change (demand _ _ >>= fun _ => .ok (byKey ++ [service])) = _
          rw [demand, if_pos (isKey ▸ fresh)]
          rfl
        · simp only [List.map_append, List.map_cons, List.map_nil,
            List.mem_append, List.mem_singleton, not_or]
          refine ⟨others other member, fun same => single ?_⟩
          rw [isKey] at same
          exact List.mem_map.mpr ⟨other, member, same⟩

theorem returns_serviceTargets :
    Returns (serviceTargets values) ↔ ∃ targets,
      values.lookup "unnecessary_service_ids" = some (.names targets) ∧
        [] ∉ targets ∧ targets ≠ [] := by
  constructor
  case mp =>
    rintro ⟨targets, read⟩
    obtain ⟨found, filled⟩ := serviceTargets_eq_ok read
    refine ⟨targets, found, fun empty => ?_, filled⟩
    simp only [serviceTargets, criterionAt_eq_ok.mpr found, Outcome.ok_bind,
      criteriaSequence, if_pos empty] at read
    cases read
  case mpr =>
    rintro ⟨targets, found, noEmpty, filled⟩
    simp only [serviceTargets, criterionAt_eq_ok.mpr found, Outcome.ok_bind,
      criteriaSequence, if_neg noEmpty, demand, if_pos filled]
    exact ⟨targets, rfl⟩

theorem decides_serviceDecision :
    Decides (serviceDecision env values observation) ↔
      ServicesCompared env values observation := by
  have decided : Decides (serviceDecision env values observation) ↔
      Returns (serviceTargets values) ∧
        Returns (readServices env observation) := by
    simp only [serviceDecision, decides_bind]
    constructor
    case mp =>
      rintro ⟨targets, given, byKey, read, -⟩
      exact ⟨⟨targets, given⟩, byKey, read⟩
    case mpr =>
      rintro ⟨⟨targets, given⟩, byKey, read⟩
      exact ⟨targets, given, byKey, read, (decides_verdict rfl).mpr rfl⟩
  rw [decided, returns_serviceTargets, readServices, returns_addServices]
  constructor
  case mp =>
    rintro ⟨targets, services, distinct, -⟩
    exact ⟨targets, services, distinct⟩
  case mpr =>
    rintro ⟨targets, services, distinct⟩
    exact ⟨targets, services, distinct, fun _ _ => List.not_mem_nil⟩

/-! ## One record -/

theorem isIn_eq_true {texts : List String} {value : Json} :
    isIn texts value = .ok true ↔ ∃ text ∈ texts, value = .str text := by
  cases value with
  | str text =>
      rw [isIn, Except.ok.injEq, decide_eq_true_eq]
      constructor
      case mp => exact fun member => ⟨text, member, rfl⟩
      case mpr =>
        rintro ⟨other, member, same⟩
        cases same
        exact member
  | _ => simp [isIn]

theorem readWininet_eq_ok {reading : WininetReading} :
    readWininet observation = .ok reading ↔
      ∃ record, observation.records = [record] ∧
        reading.applicability ∈ ["APPLICABLE", "NOT_APPLICABLE", "UNKNOWN"] ∧
        valueAt record "applicability" = .str reading.applicability ∧
        valueAt record "empty_cache_on_exit" = reading.emptyCacheOnExit := by
  simp only [readWininet, Outcome.bind_eq_ok, firstRecord_eq_ok]
  refine exists_congr fun record => and_congr_right fun _ => ?_
  constructor
  case mp =>
    rintro ⟨known, isKnown, read⟩
    split at read
    · next applicability isApplicability =>
        cases read
        obtain ⟨text, member, same⟩ := isIn_eq_true.mp isKnown
        rw [isApplicability] at same
        cases same
        exact ⟨member, isApplicability, rfl⟩
    · cases read
  case mpr =>
    rintro ⟨member, isApplicability, isCache⟩
    refine ⟨true, isIn_eq_true.mpr ⟨_, member, isApplicability⟩, ?_⟩
    rw [isApplicability, isCache]
    rfl

theorem decides_flag {key message : String}
    {next : Bool → Except LiveFault LiveDecision}
    (open' : ¬Decides (next false)) :
    Decides (flagAt values key message >>= next) ↔
      values.lookup key = some (.bool true) ∧ Decides (next true) := by
  simp only [decides_bind, flagAt_eq_ok]
  constructor
  case mp =>
    rintro ⟨flag, found, decides⟩
    cases flag with
    | false => exact (open' decides).elim
    | true => exact ⟨found, decides⟩
  case mpr => exact fun ⟨found, decides⟩ => ⟨true, found, decides⟩

theorem not_decides_open {actual expected explanation resultCode : String} :
    ¬Decides (pure (openDecision actual expected explanation resultCode)) :=
  fun decides => absurd (decides_ok.mp decides)
    (by change ¬HasVerdict "REVIEW"; decide)

theorem decides_wininetDecision :
    Decides (wininetDecision values observation) ↔
      ∃ record, WininetCompared values observation record := by
  simp only [wininetDecision, decides_bind (α := WininetReading)]
  constructor
  case mp =>
    rintro ⟨reading, read, decides⟩
    obtain ⟨record, only, known, isApplicability, isCache⟩ :=
      readWininet_eq_ok.mp read
    rw [decides_flag not_decides_open] at decides
    obtain ⟨accepted, decides⟩ := decides
    refine ⟨record, only, ⟨_, known, isApplicability, ?_⟩, accepted⟩
    rw [isCache]
    rw [if_neg (by decide)] at decides
    split at decides
    · next inapplicable => exact .inl inapplicable
    · exact .inr (decides_demand.mp decides).1
  case mpr =>
    rintro ⟨record, only, ⟨applicability, known, isApplicability, isCache⟩,
      accepted⟩
    refine ⟨⟨applicability, _⟩, readWininet_eq_ok.mpr
      ⟨record, only, known, isApplicability, rfl⟩, ?_⟩
    rw [decides_flag not_decides_open]
    refine ⟨accepted, ?_⟩
    rw [if_neg (by decide)]
    by_cases inapplicable : applicability = "NOT_APPLICABLE"
    case pos =>
      rw [if_pos inapplicable]
      exact ⟨_, rfl, by decide⟩
    case neg =>
      rw [if_neg inapplicable]
      refine decides_demand.mpr ⟨isCache.resolve_left inapplicable, ?_⟩
      exact (decides_verdict rfl).mpr rfl

theorem readAutoplay_eq_ok {reading : AutoplayReading} :
    readAutoplay observation = .ok reading ↔
      ∃ record, observation.records = [record] ∧
        valueAt record "turn_off_autoplay_enabled" = .bool reading.enabled ∧
        valueAt record "non_volume_autoplay_disallowed" =
          .bool reading.nonVolume ∧
        valueAt record "autoplay_scope" = .str reading.range ∧
        valueAt record "autorun_default_behavior" = .str reading.autorun := by
  simp only [readAutoplay, Outcome.bind_eq_ok, firstRecord_eq_ok]
  refine exists_congr fun record => and_congr_right fun _ => ?_
  constructor
  case mp =>
    intro read
    split at read
    · next isEnabled isNonVolume isRange isAutorun =>
        cases read
        exact ⟨isEnabled, isNonVolume, isRange, isAutorun⟩
    · cases read
  case mpr =>
    rintro ⟨isEnabled, isNonVolume, isRange, isAutorun⟩
    rw [isEnabled, isNonVolume, isRange, isAutorun]
    rfl

theorem decides_autoplayDecision :
    Decides (autoplayDecision values observation) ↔
      ∃ record, AutoplayCompared values observation record := by
  simp only [autoplayDecision, decides_bind (α := AutoplayReading)]
  constructor
  case mp =>
    rintro ⟨reading, read, decides⟩
    obtain ⟨record, only, fields⟩ := readAutoplay_eq_ok.mp read
    rw [decides_flag not_decides_open] at decides
    exact ⟨record, only, ⟨_, _, _, _, fields⟩, decides.1⟩
  case mpr =>
    rintro ⟨record, only, ⟨enabled, nonVolume, range, autorun, fields⟩,
      required⟩
    refine ⟨⟨enabled, nonVolume, range, autorun⟩,
      readAutoplay_eq_ok.mpr ⟨record, only, fields⟩, ?_⟩
    rw [decides_flag not_decides_open]
    refine ⟨required, ?_⟩
    rw [if_neg (by decide)]
    exact (decides_verdict rfl).mpr rfl

theorem readAssistance_eq_ok {reading : AssistanceReading} :
    readAssistance observation = .ok reading ↔
      ∃ record, observation.records = [record] ∧
        (reading.solicited ∈ switchTexts ∧
          valueAt record "f_allow_to_get_help" = .str reading.solicited) ∧
        reading.offered ∈ switchTexts ∧
          valueAt record "f_allow_unsolicited" = .str reading.offered := by
  simp only [readAssistance, Outcome.bind_eq_ok, firstRecord_eq_ok]
  refine exists_congr fun record => and_congr_right fun _ => ?_
  constructor
  case mp =>
    rintro ⟨solicited, isSolicited, _, knownSolicited, offered, isOffered, _,
      knownOffered, read⟩
    have first := of_demand knownSolicited
    have second := of_demand knownOffered
    subst first second
    split at read
    · next isText isOther =>
        cases read
        obtain ⟨_, member, same⟩ := isIn_eq_true.mp isSolicited
        obtain ⟨_, memberToo, sameToo⟩ := isIn_eq_true.mp isOffered
        cases isText.symm.trans same
        cases isOther.symm.trans sameToo
        exact ⟨⟨member, isText⟩, memberToo, isOther⟩
    · cases read
  case mpr =>
    rintro ⟨⟨member, isSolicited⟩, memberToo, isOffered⟩
    refine ⟨true, isIn_eq_true.mpr ⟨_, member, isSolicited⟩, (), rfl, true,
      isIn_eq_true.mpr ⟨_, memberToo, isOffered⟩, (), rfl, ?_⟩
    rw [isSolicited, isOffered]
    rfl

theorem decides_assistanceDecision :
    Decides (assistanceDecision values observation) ↔
      ∃ record, AssistanceCompared values observation record := by
  simp only [assistanceDecision, decides_bind (α := AssistanceReading)]
  constructor
  case mp =>
    rintro ⟨reading, read, decides⟩
    obtain ⟨record, only, solicited, offered⟩ := readAssistance_eq_ok.mp read
    rw [decides_flag not_decides_open] at decides
    exact ⟨record, only, ⟨_, solicited⟩, ⟨_, offered⟩, decides.1⟩
  case mpr =>
    rintro ⟨record, only, ⟨solicited, isSolicited⟩, ⟨offered, isOffered⟩,
      required⟩
    refine ⟨⟨solicited, offered⟩, readAssistance_eq_ok.mpr
      ⟨record, only, isSolicited, isOffered⟩, ?_⟩
    rw [decides_flag not_decides_open]
    refine ⟨required, ?_⟩
    rw [if_neg (by decide)]
    exact (decides_verdict rfl).mpr rfl

theorem readScreenSaver_eq_ok {reading : ScreenSaverReading} :
    readScreenSaver observation = .ok reading ↔
      ∃ record, observation.records = [record] ∧
        IsSwitch (valueAt record "screen_save_active") ∧
        IsSwitch (valueAt record "screen_saver_is_secure") ∧
        (valueAt record "screen_save_timeout_seconds" = .null ∧
            reading.seconds = none ∨
          ∃ seconds, valueAt record "screen_save_timeout_seconds" =
              .int seconds ∧ 0 ≤ seconds ∧ reading.seconds = some seconds) ∧
        reading.active =
          decide (valueAt record "screen_save_active" = .str "1") ∧
        reading.secure =
          decide (valueAt record "screen_saver_is_secure" = .str "1") := by
  simp only [readScreenSaver, Outcome.bind_eq_ok, firstRecord_eq_ok]
  refine exists_congr fun record => and_congr_right fun _ => ?_
  constructor
  case mp =>
    rintro ⟨active, isActive, _, knownActive, secure, isSecure, _, knownSecure,
      read⟩
    have first := of_demand knownActive
    have second := of_demand knownSecure
    subst first second
    refine ⟨isIn_eq_true.mp isActive, isIn_eq_true.mp isSecure, ?_⟩
    split at read
    · next absent =>
        cases read
        exact ⟨.inl ⟨absent, rfl⟩, rfl, rfl⟩
    · next number isNumber =>
        split at read
        · cases read
        · next nonneg =>
            cases read
            exact ⟨.inr ⟨number, isNumber, Int.not_lt.mp nonneg, rfl⟩, rfl, rfl⟩
    · cases read
  case mpr =>
    obtain ⟨active, secure, seconds⟩ := reading
    rintro ⟨isActive, isSecure, isTimeout, rfl, rfl⟩
    refine ⟨true, isIn_eq_true.mpr isActive, (), rfl, true,
      isIn_eq_true.mpr isSecure, (), rfl, ?_⟩
    obtain ⟨absent, rfl⟩ | ⟨number, isNumber, nonneg, rfl⟩ := isTimeout
    · rw [absent]
      rfl
    · rw [isNumber]
      dsimp only
      rw [if_neg (Int.not_lt.mpr nonneg)]
      rfl

theorem decides_screenSaverDecision :
    Decides (screenSaverDecision values observation) ↔
      ∃ record, ScreenSaverCompared values observation record := by
  constructor
  case mp =>
    rintro ⟨decision, made, has⟩
    obtain ⟨reading, criteria, read, given, open' | ⟨taken, printable, -⟩⟩ :=
      screenSaverDecision_status made
    · rw [open'.2] at has
      exact absurd has (by decide)
    · obtain ⟨record, only, active, secure, timeout, -⟩ :=
        readScreenSaver_eq_ok.mp read
      obtain ⟨accepted, maximum⟩ := screenSaverCriteria_eq_ok given
      rw [taken] at accepted
      refine ⟨record, only, active, secure, ?_, accepted, _, maximum⟩
      refine timeout.imp And.left ?_
      rintro ⟨seconds, isSeconds, nonneg, same⟩
      rw [same, timeoutPieces, List.all_cons, Bool.and_eq_true] at printable
      exact ⟨seconds, isSeconds, nonneg, printable.1⟩
  case mpr =>
    rintro ⟨record, only, active, secure, timeout, accepted, maximum, isMaximum⟩
    obtain ⟨seconds, isTimeout, printable⟩ : ∃ seconds : Option Int,
        (valueAt record "screen_save_timeout_seconds" = .null ∧
            seconds = none ∨
          ∃ number, valueAt record "screen_save_timeout_seconds" =
              .int number ∧ 0 ≤ number ∧ seconds = some number) ∧
          (timeoutPieces seconds).all Piece.isPrintable = true := by
      obtain absent | ⟨number, isNumber, nonneg, printable⟩ := timeout
      · exact ⟨none, .inl ⟨absent, rfl⟩, rfl⟩
      · refine ⟨some number, .inr ⟨number, isNumber, nonneg, rfl⟩, ?_⟩
        rw [timeoutPieces, List.all_cons, printable]
        rfl
    have given : screenSaverCriteria values = .ok ⟨true, maximum⟩ := by
      simp only [screenSaverCriteria, flagAt_eq_ok.mpr accepted,
        numberAt_eq_ok.mpr isMaximum, Outcome.ok_bind]
      rfl
    rw [screenSaverDecision, decides_bind]
    refine ⟨⟨_, _, seconds⟩, readScreenSaver_eq_ok.mpr
      ⟨record, only, active, secure, isTimeout, rfl, rfl⟩, ?_⟩
    rw [decides_bind]
    refine ⟨_, given, ?_⟩
    rw [if_neg (by simp)]
    refine (decides_verdict rfl).mpr ?_
    rw [List.all_append, printable]
    rfl

theorem readAntivirus_eq_ok {reading : AntivirusReading} :
    readAntivirus observation = .ok reading ↔
      ∃ record, observation.records = [record] ∧
        valueAt record "product_present" = .bool reading.present ∧
        valueAt record "service_enabled" = .bool reading.serviceEnabled ∧
        valueAt record "product_name" = .str reading.productName ∧
        valueAt record "signature_version" = .str reading.signatureVersion ∧
        reading.productName ≠ "" ∧ reading.signatureVersion ≠ "" ∧
        valueAt record "signature_updated_at" = reading.updated ∧
        reading.active =
          decide (valueAt record "product_state" = .str "ACTIVE") ∧
        reading.healthy =
          decide (valueAt record "health_state" = .str "HEALTHY") := by
  simp only [readAntivirus, Outcome.bind_eq_ok, firstRecord_eq_ok]
  refine exists_congr fun record => and_congr_right fun _ => ?_
  constructor
  case mp =>
    intro read
    split at read
    · next isPresent isEnabled isName isVersion =>
        obtain ⟨_, filled, same⟩ := Outcome.bind_eq_ok.mp read
        cases same
        obtain ⟨named, versioned⟩ := of_demand filled
        exact ⟨isPresent, isEnabled, isName, isVersion, named, versioned, rfl,
          rfl, rfl⟩
    · cases read
  case mpr =>
    obtain ⟨present, active, enabled, healthy, name, version, updated⟩ :=
      reading
    rintro ⟨isPresent, isEnabled, isName, isVersion, named, versioned, rfl, rfl,
      rfl⟩
    rw [isPresent, isEnabled, isName, isVersion]
    exact Outcome.bind_eq_ok.mpr ⟨(), if_pos ⟨named, versioned⟩, rfl⟩

/-- The age of signatures can be computed and printed. -/
theorem hasAge_iff {record : Json} :
    HasAge env observation record ↔ ∃ age,
      ageInHours env.toRegistryEnvironment
        (valueAt record "signature_updated_at") observation.collectedAt =
          .ok age ∧
      (Piece.number age).isPrintable = true := by
  constructor
  case mp =>
    rintro ⟨updated, updatedAt, observedAt, isUpdated, readUpdated,
      readObserved, inOrder, printable⟩
    refine ⟨_, ?_, printable⟩
    rw [isUpdated, ageInHours]
    simp only [readUpdated, readObserved, Outcome.ok_bind, demand,
      if_pos inOrder]
    rfl
  case mpr =>
    rintro ⟨age, isAge, printable⟩
    rw [ageInHours.eq_def] at isAge
    split at isAge
    · next updated isUpdated =>
        simp only [Outcome.bind_eq_ok] at isAge
        obtain ⟨updatedAt, readUpdated, observedAt, readObserved, _, inOrder,
          same⟩ := isAge
        cases same
        exact ⟨updated, updatedAt, observedAt, isUpdated, readUpdated,
          readObserved, of_demand inOrder, printable⟩
    · cases isAge

theorem decides_antivirusDecision :
    Decides (antivirusDecision env values observation) ↔
      ∃ record, AntivirusCompared env values observation record := by
  constructor
  case mp =>
    rintro ⟨decision, made, has⟩
    obtain ⟨reading, maximum, read, given, outcome⟩ :=
      antivirusDecision_status made
    obtain ⟨record, only, isPresent, isEnabled, isName, isVersion, named,
      versioned, isUpdated, -⟩ := readAntivirus_eq_ok.mp read
    refine ⟨record, only, ⟨_, _, _, _, isPresent, isEnabled, isName, isVersion,
      named, versioned, ?_⟩, maximum, numberAt_eq_ok.mp given⟩
    refine outcome.imp And.left ?_
    rintro ⟨-, age, isAge, printable, -⟩
    exact hasAge_iff.mpr ⟨age, isUpdated ▸ isAge, printable⟩
  case mpr =>
    rintro ⟨record, only, ⟨present, enabled, name, version, isPresent,
      isEnabled, isName, isVersion, named, versioned, aged⟩, maximum, given⟩
    rw [antivirusDecision, decides_bind]
    refine ⟨⟨present, _, enabled, _, name, version, _⟩,
      readAntivirus_eq_ok.mpr ⟨record, only, isPresent, isEnabled, isName,
        isVersion, named, versioned, rfl, rfl, rfl⟩, ?_⟩
    rw [decides_bind]
    refine ⟨maximum, numberAt_eq_ok.mpr given, ?_⟩
    cases present with
    | false =>
        rw [if_pos rfl]
        exact (decides_verdict rfl).mpr rfl
    | true =>
        rw [if_neg (by simp)]
        obtain ⟨age, isAge, printable⟩ := hasAge_iff.mp
          (aged.resolve_left (by decide))
        refine decides_bind.mpr ⟨age, isAge, (decides_verdict rfl).mpr ?_⟩
        rw [List.all_cons, List.all_cons, printable]
        rfl

/-! ## The choice of a comparison -/

theorem some_map_eq_ok {made : Except LiveFault LiveDecision}
    {decision : LiveDecision} :
    some <$> made = .ok (some decision) ↔ made = .ok decision := by
  cases made with
  | error fault => exact iff_of_false nofun nofun
  | ok other =>
      constructor
      · intro same
        cases same
        rfl
      · intro same
        cases same
        rfl

/-- The comparison of a control is a verdict exactly for the records that it
reads. -/
theorem decides_selectedCriteria {controlId : String} :
    (∃ decision, selectedCriteriaDecision env controlId values observation =
        .ok (some decision) ∧ HasVerdict decision.status) ∧
        controlId ∈ selectedControlIds ↔
      IsCompared env values observation controlId := by
  have chosen : ∀ {made : Except LiveFault LiveDecision},
      (∃ decision, some <$> made = .ok (some decision) ∧
        HasVerdict decision.status) ↔ Decides made := by
    simp only [some_map_eq_ok, Decides, implies_true]
  by_cases selected : controlId ∈ selectedControlIds
  case neg =>
    refine iff_of_false (fun both => selected both.2) fun compared => ?_
    rw [IsCompared.eq_def] at compared
    split at compared <;> first
      | exact selected (by decide)
      | exact compared
  case pos =>
    rw [and_iff_left selected]
    simp only [selectedControlIds, List.mem_cons, List.not_mem_nil,
      or_false] at selected
    rcases selected with rfl | rfl | rfl | rfl | rfl | rfl
    · exact chosen.trans decides_serviceDecision
    · exact chosen.trans decides_wininetDecision
    · exact chosen.trans decides_antivirusDecision
    · exact chosen.trans decides_screenSaverDecision
    · exact chosen.trans decides_autoplayDecision
    · exact chosen.trans decides_assistanceDecision

end Results

end SecAI.LiveDraft
