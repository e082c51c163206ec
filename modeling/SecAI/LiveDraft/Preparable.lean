/-
Module: SecAI.LiveDraft.Preparable
Purpose: When the evidence of an observation can be prepared: what its records
  must hold before any control is evaluated.
Trusted boundary: as in the contracts of the live draft
Main exports:
  Returns, IsStandardizable, IsPreparable, AreProbed
-/
import SecAI.LiveDraft.Contracts

namespace SecAI.LiveDraft

open SecAI.Collector (ProbeObservation)

/-! ## Calls that return -/

section Returns

variable {ε α β : Type}

def Returns (outcome : Except ε α) : Prop := ∃ value, outcome = .ok value

theorem returns_ok (value : α) : Returns (.ok value : Except ε α) :=
  ⟨value, rfl⟩

theorem returns_bind {first : Except ε α} {next : α → Except ε β} :
    Returns (first >>= next) ↔ ∃ value, first = .ok value ∧
      Returns (next value) := by
  cases first with
  | error error => exact iff_of_false nofun nofun
  | ok value =>
      constructor
      case mp => exact fun returns => ⟨value, rfl, returns⟩
      case mpr =>
        rintro ⟨other, same, returns⟩
        cases same
        exact returns

theorem returns_map {first : Except ε α} {f : α → β} :
    Returns (f <$> first) ↔ Returns first := by
  cases first with
  | error error => exact iff_of_false nofun nofun
  | ok value => exact iff_of_true ⟨f value, rfl⟩ ⟨value, rfl⟩

theorem returns_mapM {f : α → Except ε β} :
    ∀ {items : List α}, Returns (items.mapM f) ↔
      ∀ item ∈ items, Returns (f item)
  | [] => iff_of_true ⟨[], rfl⟩ (List.forall_mem_nil _)
  | first :: rest => by
      rw [List.mapM_cons, returns_bind, List.forall_mem_cons]
      constructor
      case mp =>
        rintro ⟨value, head, tail⟩
        obtain ⟨others, later, -⟩ := returns_bind.mp tail
        exact ⟨⟨value, head⟩, returns_mapM.mp ⟨others, later⟩⟩
      case mpr =>
        rintro ⟨⟨value, head⟩, tail⟩
        obtain ⟨others, later⟩ := returns_mapM.mpr tail
        exact ⟨value, head, returns_bind.mpr
          ⟨others, later, returns_ok _⟩⟩

end Returns

/-! ## What the records must hold -/

section Records

variable (env : LiveEnvironment)

def IsHashable : Json → Prop
  | .arr _ | .obj _ => False
  | _ => True

/-- A text may be looked for in the value. -/
def IsContainer : Json → Prop
  | .str _ | .arr _ | .obj _ => True
  | _ => False

def HasFields (keys : List String) (record : Json) : Prop :=
  ∀ key ∈ keys, (record.member key).isSome = true

/-- The only record of the operating system. -/
structure IsLifecycle (record : Json) : Prop where
  fields : HasFields ["product_name", "edition_group", "display_version",
    "os_build", "ubr", "architecture"] record
  product : IsContainer (valueAt record "product_name")
  build : Returns (integerFrom env (valueAt record "os_build"))

/-- What the records of a probe must hold to be standardized. -/
def IsStandardizable (observation : ProbeObservation) : Prop :=
  let probeId := observation.probeId
  if probeId = "win.services.inventory" then
    ∀ item ∈ observation.records, IsHashable (valueAt item "start_mode")
  else if probeId ∈ ["win.network.smb-shares", "win.software.messengers"] then
    Returns (summaryRecord observation)
  else if probeId = "win.boot.entries" then
    ∃ summary, summaryRecord observation = .ok summary ∧
      HasFields ["bootable_os_count"] summary
  else if probeId = "win.browser.wininet-cache-policy" then
    ∃ record, observation.records = [record] ∧
      HasFields ["applicability", "empty_cache_on_exit",
        "evaluated_user_count"] record
  else if probeId = "win.os.lifecycle" then
    ∃ record, observation.records = [record] ∧ IsLifecycle env record
  else if probeId = "win.firewall.effective-profiles" then
    ∀ item ∈ observation.records, HasFields ["profile"] item ∧
      IsHashable (valueAt item "profile")
  else ∃ record, observation.records = [record]

/-- There are records, and they were collected. -/
def IsCollected (observation : ProbeObservation) : Prop :=
  observation.collectionStatus = "COLLECTED" ∧ observation.records ≠ []

/-- The evidence of the observation can be prepared: its volumes have
identifiers, or its records can be standardized, and the user of a screen saver
is known. -/
def IsPreparable (controlId : String) (observation : ProbeObservation) :
    Prop :=
  (controlId = "PC-07" → IsCollected observation →
    ∀ record ∈ observation.records, HasFields ["volume_id"] record ∧
      hasPrintableNumbers (valueAt record "volume_id") = true) ∧
  (controlId = "PC-16" → observation.userSid.isSome = true) ∧
  (controlId ≠ "PC-07" → IsCollected observation →
    IsStandardizable env observation)

end Records

/-! ## Preparation -/

section Preparation

variable {env : LiveEnvironment} {observation : ProbeObservation}
  {record : Json} {controlId : String}

theorem itemAt_eq_ok {key : String} {value : Json} :
    itemAt record key = .ok value ↔ record.member key = some value := by
  rw [itemAt]
  cases record.member key with
  | none => exact iff_of_false nofun nofun
  | some found => exact ⟨fun same => by cases same; rfl, fun same => by
      cases same; rfl⟩

theorem returns_itemAt_bind {β : Type} {key : String}
    {next : Json → Except LiveFault β} :
    Returns (itemAt record key >>= next) ↔
      (record.member key).isSome = true ∧
        Returns (next (valueAt record key)) := by
  rw [returns_bind]
  constructor
  case mp =>
    rintro ⟨value, isValue, returns⟩
    rw [itemAt_eq_ok] at isValue
    rw [valueAt, isValue]
    exact ⟨rfl, returns⟩
  case mpr =>
    rintro ⟨has, returns⟩
    obtain ⟨value, isValue⟩ := Option.isSome_iff_exists.mp has
    rw [valueAt, isValue] at returns
    exact ⟨value, itemAt_eq_ok.mpr isValue, returns⟩

theorem firstRecord_eq_ok :
    firstRecord observation = .ok record ↔
      observation.records = [record] := by
  rw [firstRecord]
  split
  · next only isOnly =>
      rw [isOnly, Except.ok.injEq, List.cons.injEq]
      exact ⟨fun same => ⟨same, rfl⟩, And.left⟩
  · next several =>
      exact iff_of_false nofun fun isOnly => several record isOnly

theorem returns_firstRecord :
    Returns (firstRecord observation) ↔
      ∃ record, observation.records = [record] :=
  exists_congr fun _ => firstRecord_eq_ok

theorem returns_firstRecord_bind {β : Type}
    {next : Json → Except LiveFault β} :
    Returns (firstRecord observation >>= next) ↔
      ∃ record, observation.records = [record] ∧ Returns (next record) := by
  simp only [returns_bind, firstRecord_eq_ok]

theorem returns_isIn {texts : List String} {value : Json} :
    Returns (isIn texts value) ↔ IsHashable value := by
  cases value <;> simp [isIn, IsHashable, Returns]

theorem returns_isWithin {text : String} {value : Json} :
    Returns (isWithin text value) ↔ IsContainer value := by
  cases value <;> simp [isWithin, IsContainer, Returns]

theorem returns_services :
    Returns (standardizedServices observation) ↔
      ∀ item ∈ observation.records,
        IsHashable (valueAt item "start_mode") := by
  rw [standardizedServices, returns_bind]
  constructor
  case mp =>
    rintro ⟨automatic, read, -⟩ item member
    exact returns_isIn.mp (returns_mapM.mp ⟨automatic, read⟩ item member)
  case mpr =>
    intro hashable
    obtain ⟨automatic, read⟩ := returns_mapM.mpr fun item member =>
      (@returns_isIn ["AUTO", "BOOT", "SYSTEM"] _).mpr
        (hashable item member)
    exact ⟨automatic, read, returns_ok _⟩

theorem returns_boot :
    Returns (standardizedBoot observation) ↔
      ∃ summary, summaryRecord observation = .ok summary ∧
        HasFields ["bootable_os_count"] summary := by
  rw [standardizedBoot, returns_bind]
  refine exists_congr fun summary => and_congr_right fun _ => ?_
  rw [returns_itemAt_bind, HasFields, List.forall_mem_singleton]
  exact and_iff_left (returns_ok _)

theorem returns_wininet :
    Returns (standardizedWininet observation) ↔
      ∃ record, observation.records = [record] ∧
        HasFields ["applicability", "empty_cache_on_exit",
          "evaluated_user_count"] record := by
  rw [standardizedWininet, returns_firstRecord_bind]
  refine exists_congr fun record => and_congr_right fun _ => ?_
  simp only [returns_itemAt_bind, HasFields, List.forall_mem_cons]
  exact and_congr_right fun _ => and_congr_right fun _ =>
    ⟨fun ⟨has, _⟩ => ⟨has, List.forall_mem_nil _⟩,
      fun ⟨has, _⟩ => ⟨has, returns_ok _⟩⟩

theorem returns_lifecycle :
    Returns (standardizedLifecycle env observation) ↔
      ∃ record, observation.records = [record] ∧ IsLifecycle env record := by
  rw [standardizedLifecycle, returns_firstRecord_bind]
  refine exists_congr fun record => and_congr_right fun _ => ?_
  simp only [returns_itemAt_bind]
  constructor
  case mp =>
    rintro ⟨product, returns⟩
    obtain ⟨_, isEleven, returns⟩ := returns_bind.mp returns
    obtain ⟨_, isTen, returns⟩ := returns_bind.mp returns
    simp only [returns_itemAt_bind] at returns
    obtain ⟨edition, version, build, returns⟩ := returns
    obtain ⟨number, isNumber, returns⟩ := returns_bind.mp returns
    simp only [returns_itemAt_bind] at returns
    obtain ⟨revision, architecture, -⟩ := returns
    exact ⟨by simp [HasFields, *], returns_isWithin.mp ⟨_, isEleven⟩,
      number, isNumber⟩
  case mpr =>
    rintro ⟨fields, product, number, isNumber⟩
    obtain ⟨isEleven, eleven⟩ := returns_isWithin.mpr product
    obtain ⟨isTen, ten⟩ := returns_isWithin.mpr product
    refine ⟨fields _ (by decide), returns_bind.mpr ⟨_, eleven,
      returns_bind.mpr ⟨_, ten, ?_⟩⟩⟩
    simp only [returns_itemAt_bind]
    refine ⟨fields _ (by decide), fields _ (by decide), fields _ (by decide),
      returns_bind.mpr ⟨number, isNumber, ?_⟩⟩
    simp only [returns_itemAt_bind]
    exact ⟨fields _ (by decide), fields _ (by decide), returns_ok _⟩

theorem returns_profileKey :
    Returns (profileKey record) ↔
      HasFields ["profile"] record ∧
        IsHashable (valueAt record "profile") := by
  rw [profileKey, returns_itemAt_bind, HasFields, List.forall_mem_singleton]
  refine and_congr_right fun _ => ?_
  cases valueAt record "profile" <;> simp [IsHashable, Returns, pure, Except.pure]

theorem returns_profiles :
    Returns (standardizedProfiles observation) ↔
      ∀ item ∈ observation.records, HasFields ["profile"] item ∧
        IsHashable (valueAt item "profile") := by
  rw [standardizedProfiles, returns_bind]
  simp only [← returns_profileKey, ← returns_mapM]
  constructor
  case mp =>
    rintro ⟨keys, read, -⟩
    exact ⟨keys, read⟩
  case mpr =>
    rintro ⟨keys, read⟩
    exact ⟨keys, read, returns_ok _⟩

/-- The records can be standardized if they hold what their probe needs. -/
theorem returns_standardizedValue :
    Returns (standardizedValue env observation) ↔
      IsStandardizable env observation := by
  rw [standardizedValue, IsStandardizable]
  split
  · exact returns_services
  split
  · exact Iff.rfl
  split
  · exact returns_boot
  split
  · exact returns_wininet
  split
  · exact returns_lifecycle
  · next notLifecycle =>
    split
    · next isPolicy =>
        rw [if_neg (by rintro isFirewall; simp [isFirewall] at isPolicy),
          returns_map]
        exact returns_firstRecord
    · split
      · next isAntivirus =>
          rw [if_neg (by rintro isFirewall; simp [isFirewall] at isAntivirus),
            returns_firstRecord_bind]
          exact exists_congr fun _ => and_iff_left (returns_ok _)
      · split
        · exact returns_profiles
        · exact returns_firstRecord

theorem evidenceStatus_collected :
    (evidenceStatus observation).1 = "COLLECTED" ↔ IsCollected observation := by
  rw [evidenceStatus, IsCollected]
  by_cases unsupported : observation.collectionStatus = "UNSUPPORTED"
  case pos => simp [unsupported]
  case neg =>
    by_cases empty : observation.records = []
    · by_cases collected : observation.collectionStatus = "COLLECTED" <;>
        simp [unsupported, empty, collected]
    · simp [unsupported, empty]

theorem returns_textOf {value : Json} :
    Returns (textOf env.toRegistryEnvironment value) ↔
      hasPrintableNumbers value = true := by
  by_cases printable : hasPrintableNumbers value = true
  case pos =>
    rw [textOf.eq_def, if_pos printable]
    exact iff_of_true (returns_ok _) printable
  case neg =>
    rw [textOf.eq_def, if_neg printable]
    exact iff_of_false nofun printable

theorem returns_prepareVolume {source : Json × Nat} :
    Returns (prepareVolume env observation source) ↔
      HasFields ["volume_id"] source.1 ∧
        hasPrintableNumbers (valueAt source.1 "volume_id") = true := by
  rw [prepareVolume, returns_itemAt_bind, HasFields, List.forall_mem_singleton,
    returns_bind, ← @returns_textOf env]
  exact and_congr_right fun _ => exists_congr fun _ =>
    and_iff_left (returns_ok _)

/-- The subject is known but for the user of a screen saver. -/
theorem returns_subjectOf :
    Returns (subjectOf controlId observation) ↔
      (controlId = "PC-16" → observation.userSid.isSome = true) := by
  by_cases isUser : controlId = "PC-16"
  case pos =>
    subst isUser
    rw [subjectOf, if_neg (by decide), if_pos (by decide)]
    cases observation.userSid with
    | some sid => exact iff_of_true (returns_ok _) fun _ => rfl
    | none =>
        refine iff_of_false (by rintro ⟨_, returned⟩; cases returned) fun known => ?_
        exact Bool.false_ne_true (known rfl)
  case neg =>
    refine iff_of_true ?_ fun isIt => (isUser isIt).elim
    rw [subjectOf]
    split
    · exact returns_ok _
    · split
      · next isUserScope =>
          unfold scopeOf at isUserScope
          repeat' split at isUserScope
          all_goals simp_all
      · exact returns_ok _

/-- The row of an observation that has no row for each record. -/
theorem returns_aggregateRow {row : Json → Option Json → List Json} :
    Returns (subjectOf controlId observation >>= fun subject =>
        if (evidenceStatus observation).1 = "COLLECTED" then
          some <$> standardizedValue env observation >>= fun normalized =>
            .ok (row subject normalized)
        else (.ok none : Except LiveFault _) >>= fun normalized =>
          .ok (row subject normalized)) ↔
      (controlId = "PC-16" → observation.userSid.isSome = true) ∧
        (IsCollected observation → IsStandardizable env observation) := by
  rw [returns_bind, ← returns_subjectOf, ← evidenceStatus_collected,
    ← returns_standardizedValue]
  by_cases collected : (evidenceStatus observation).1 = "COLLECTED"
  case pos =>
    simp only [if_pos collected, returns_bind]
    constructor
    case mp =>
      rintro ⟨subject, isSubject, value, isValue, -⟩
      exact ⟨⟨subject, isSubject⟩, fun _ => returns_map.mp ⟨value, isValue⟩⟩
    case mpr =>
      rintro ⟨⟨subject, isSubject⟩, standard⟩
      obtain ⟨value, isValue⟩ := returns_map (f := some) |>.mpr
        (standard collected)
      exact ⟨subject, isSubject, value, isValue, returns_ok _⟩
  case neg =>
    simp only [if_neg collected, returns_bind]
    constructor
    case mp =>
      rintro ⟨subject, isSubject, -⟩
      exact ⟨⟨subject, isSubject⟩, fun isIt => (collected isIt).elim⟩
    case mpr =>
      rintro ⟨⟨subject, isSubject⟩, -⟩
      exact ⟨subject, isSubject, none, rfl, returns_ok _⟩

/-- The evidence of an observation is prepared exactly if it can be. -/
theorem returns_prepareProbe :
    Returns (prepareProbe env controlId observation) ↔
      IsPreparable env controlId observation := by
  by_cases byVolume :
      (evidenceStatus observation).1 = "COLLECTED" ∧ controlId = "PC-07"
  case pos =>
    obtain ⟨collected, rfl⟩ := byVolume
    rw [prepareProbe, if_pos ⟨collected, rfl⟩, returns_mapM, IsPreparable]
    simp only [returns_prepareVolume]
    rw [evidenceStatus_collected] at collected
    constructor
    case mp =>
      intro all
      refine ⟨fun _ _ record member => ?_, nofun, nofun⟩
      obtain ⟨position, bound, rfl⟩ := List.mem_iff_getElem.mp member
      exact all (_, position) (List.mk_mem_zipIdx_iff_getElem?.mpr
        (List.getElem?_eq_getElem bound))
    case mpr =>
      rintro ⟨all, -⟩ source member
      exact all trivial collected _ (List.fst_mem_of_mem_zipIdx member)
  case neg =>
    rw [prepareProbe, if_neg byVolume, IsPreparable]
    refine returns_aggregateRow.trans ?_
    rw [evidenceStatus_collected, not_and] at byVolume
    constructor
    case mp =>
      rintro ⟨known, standard⟩
      exact ⟨fun isIt collected => (byVolume collected isIt).elim, known,
        fun _ => standard⟩
    case mpr =>
      rintro ⟨-, known, standard⟩
      exact ⟨known, fun collected =>
        standard (byVolume collected) collected⟩

end Preparation

/-! ## All observations -/

section Observations

variable {env : LiveEnvironment} {observations : List ProbeObservation}

/-- The probes are known, and each was observed once. -/
structure AreProbed (observations : List ProbeObservation) : Prop where
  distinct : (observations.map ProbeObservation.probeId).Nodup
  known : ∀ observation ∈ observations,
    observation.probeId ∈ probeToControl.map Prod.fst

def controlOf (probeId : String) : String :=
  (probeToControl.lookup probeId).getD ""

/-- The evidence of each observation can be prepared. -/
def ArePreparable (env : LiveEnvironment)
    (observations : List ProbeObservation) : Prop :=
  ∀ observation ∈ observations,
    IsPreparable env (controlOf observation.probeId) observation

theorem lookup_of_mem {entry : String × String}
    (member : entry ∈ probeToControl) :
    probeToControl.lookup entry.1 = some entry.2 := by
  revert entry
  decide

theorem controlOf_of_mem {entry : String × String}
    (member : entry ∈ probeToControl) : controlOf entry.1 = entry.2 := by
  rw [controlOf, lookup_of_mem member]
  rfl

theorem mem_probeToControl {probeId : String}
    (known : probeId ∈ probeToControl.map Prod.fst) :
    (probeId, controlOf probeId) ∈ probeToControl := by
  obtain ⟨entry, member, rfl⟩ := List.mem_map.mp known
  rw [controlOf_of_mem member]
  exact member

theorem probeId_of_observationOf {probeId : String}
    {observation : ProbeObservation}
    (found : observationOf observations probeId = some observation) :
    observation ∈ observations ∧ observation.probeId = probeId := by
  rw [observationOf] at found
  have same := List.find?_some found
  exact ⟨List.mem_of_find?_eq_some found, of_decide_eq_true same⟩

theorem AreProbed.observationOf (probed : AreProbed observations)
    {observation : ProbeObservation} (member : observation ∈ observations) :
    observationOf observations observation.probeId = some observation := by
  have sameAs : ∀ other ∈ observations,
      other.probeId = observation.probeId → other = observation :=
    fun other isOther same =>
      List.inj_on_of_nodup_map probed.distinct isOther member same
  cases found : LiveDraft.observationOf observations observation.probeId with
  | none =>
      have nowhere := List.find?_eq_none.mp found observation member
      simp at nowhere
  | some other =>
      obtain ⟨isOther, same⟩ := probeId_of_observationOf found
      rw [sameAs other isOther same]

def rowsOf (env : LiveEnvironment) (observations : List ProbeObservation)
    (entry : String × String) : Except LiveFault (List Json) :=
  match observationOf observations entry.1 with
  | some observation => prepareProbe env entry.2 observation
  | none => .ok []

theorem prepareEvidence_of_probed (probed : AreProbed observations) :
    prepareEvidence env observations =
      List.flatten <$> probeToControl.mapM (rowsOf env observations) := by
  rw [prepareEvidence, demand, if_pos ⟨probed.distinct, probed.known⟩]
  change (probeToControl.mapM (rowsOf env observations) >>= fun rows =>
    .ok rows.flatten) = _
  cases probeToControl.mapM (rowsOf env observations) <;> rfl

/-- All evidence is prepared exactly if that of each observation can be. -/
theorem prepareEvidence_returns_iff (probed : AreProbed observations) :
    Returns (prepareEvidence env observations) ↔
      ArePreparable env observations := by
  rw [prepareEvidence_of_probed probed, returns_map, returns_mapM]
  constructor
  case mp =>
    intro all observation member
    have returns := all _
      (mem_probeToControl (probed.known observation member))
    rw [rowsOf, probed.observationOf member] at returns
    exact returns_prepareProbe.mp returns
  case mpr =>
    intro preparable entry inTable
    rw [rowsOf]
    split
    · next observation found =>
        obtain ⟨member, same⟩ := probeId_of_observationOf found
        have ready := preparable observation member
        rw [same, controlOf_of_mem inTable] at ready
        exact returns_prepareProbe.mpr ready
    · exact returns_ok _

/-- The rows of a probe are made of its observation. -/
theorem row_of_probe {entry : String × String} {rows : List Json}
    (prepared : rowsOf env observations entry = .ok rows) :
    ∀ row ∈ rows, ∃ observation subject sourceId normalized,
      observationOf observations entry.1 = some observation ∧
        row = evidenceRow entry.2 observation subject sourceId normalized := by
  intro row member
  rw [rowsOf] at prepared
  split at prepared
  case h_2 =>
    cases prepared
    cases member
  case h_1 observation found =>
    refine ⟨observation, ?_⟩
    rw [prepareProbe] at prepared
    split at prepared
    case isTrue byVolume =>
      rw [byVolume.2]
      obtain ⟨source, -, made⟩ := Outcome.mapM_mem prepared row member
      simp only [prepareVolume, Outcome.bind_eq_ok] at made
      obtain ⟨_, -, _, -, same⟩ := made
      cases same
      exact ⟨_, _, _, found, rfl⟩
    case isFalse =>
      obtain ⟨subject, -, more⟩ := Outcome.bind_eq_ok.mp prepared
      dsimp only at more
      split at more <;>
      · obtain ⟨normalized, -, same⟩ := Outcome.bind_eq_ok.mp more
        cases same
        rw [List.mem_singleton.mp member]
        exact ⟨_, _, _, found, rfl⟩

theorem control_of_row {entry : String × String} {rows : List Json}
    (prepared : rowsOf env observations entry = .ok rows) :
    ∀ row ∈ rows, row.member "control_id" = some (.str entry.2) := by
  intro row member
  obtain ⟨_, _, _, _, -, rfl⟩ := row_of_probe prepared row member
  rfl

end Observations

end SecAI.LiveDraft
