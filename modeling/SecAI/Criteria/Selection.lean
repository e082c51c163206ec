/-
Module: SecAI.Criteria.Selection
Purpose: The service of the assessment criteria over its store: what a user
  selects and what is in effect afterwards.
Trusted boundary: as in the contracts; each repository call is a transaction,
  and a document is stored with its members
Main exports:
  CriteriaStore, CriteriaService.options, CriteriaService.select
-/
import SecAI.Common.Table
import SecAI.Criteria.WellFormed
import SecAI.Interleaving.Machine

namespace SecAI.Criteria

open Interleaving
open SecAI.Text

/-! ## The store -/

/-- `AuthenticatedPrincipal`, as far as the service reads it. -/
structure CriteriaPrincipal where
  organizationId : Uuid
  userId : Uuid
  isAdministrator : Bool

/-- A row of `assessment_criteria_profiles`; one of an organization has no
owner. -/
structure ProfileRow where
  id : Uuid
  organizationId : Uuid
  ownerUserId : Option Uuid
  name : List CodePoint
  version : Nat
  values : CriteriaValues
  documentSha256 : List CodePoint
  changeReason : List CodePoint

/-- A row of `assessment_criteria_selections`. -/
structure SelectionRow where
  id : Uuid
  organizationId : Uuid
  userId : Uuid
  kind : SelectionKind
  personalProfileId : Option Uuid
  criteriaSha256 : List CodePoint
  selectedAt : DateTime
deriving DecidableEq

/-- The tables of the criteria. -/
structure CriteriaStore where
  profiles : List ProfileRow
  selections : List SelectionRow

section Repository

variable (env : CriteriaEnvironment) (store : CriteriaStore)

def ProfileRow.load (row : ProfileRow) : Except CriteriaFault ProfileRow := do
  let values ← Server.validateCriteriaValues env (jsonValues row.values)
  return { row with values := values }

/-- The profiles of an organization, or those of a user in it. -/
def CriteriaStore.profilesOf (organizationId : Uuid)
    (ownerUserId : Option Uuid) : List ProfileRow :=
  store.profiles.filter fun row =>
    decide (row.organizationId = organizationId ∧ row.ownerUserId = ownerUserId)

def CriteriaStore.latestOrganization (organizationId : Uuid) :
    Except CriteriaFault (Option ProfileRow) :=
  (Table.first (fun one other => decide (other.version < one.version))
    (store.profilesOf organizationId none)).mapM (ProfileRow.load env)

/-- `latest_personal`, but for the order of the names. -/
def CriteriaStore.latestPersonal (principal : CriteriaPrincipal) :
    Except CriteriaFault (List ProfileRow) :=
  let rows := store.profilesOf principal.organizationId (some principal.userId)
  (rows.filter fun row => rows.all fun other =>
    decide (other.name = row.name → other.version ≤ row.version)).mapM
      (ProfileRow.load env)

def CriteriaStore.getPersonal (principal : CriteriaPrincipal)
    (profileId : Uuid) : Except CriteriaFault (Option ProfileRow) :=
  ((store.profilesOf principal.organizationId (some principal.userId)).find?
    fun row => decide (row.id = profileId)).mapM (ProfileRow.load env)

/-- The order of `selection_history`. -/
def SelectionRow.later (one other : SelectionRow) : Bool :=
  decide (other.selectedAt < one.selectedAt ∨
    other.selectedAt = one.selectedAt ∧ other.id.value < one.id.value)

def CriteriaStore.selectionsOf (principal : CriteriaPrincipal) :
    List SelectionRow :=
  store.selections.filter fun row =>
    decide (row.organizationId = principal.organizationId ∧
      row.userId = principal.userId)

def CriteriaStore.latestSelection (principal : CriteriaPrincipal) :
    Option SelectionRow :=
  Table.first SelectionRow.later (store.selectionsOf principal)

/-- `append`: the version follows those of the profiles of the same name. -/
def CriteriaStore.append (row : ProfileRow) : ProfileRow × CriteriaStore :=
  let versions := ((store.profilesOf row.organizationId
    row.ownerUserId).filter fun other => decide (other.name = row.name)).map
      (·.version)
  let written := { row with version := versions.foldr max 0 + 1 }
  (written, { store with profiles := store.profiles ++ [written] })

end Repository

/-! ## The service -/

namespace CriteriaService

variable (env : CriteriaEnvironment) (store : CriteriaStore)

def profileName (value : List CodePoint) :
    Except CriteriaFault (List CodePoint) :=
  let normalized := foldPoints (stripPoints value)
  if normalized = [] ∨ 80 < normalized.length then
    .error (.contract "기준 이름은 1자 이상 80자 이하로 입력해 주세요.")
  else .ok normalized

def changeReason (value : List CodePoint) :
    Except CriteriaFault (List CodePoint) :=
  let normalized := foldPoints (stripPoints value)
  if normalized = [] ∨ 256 < normalized.length then
    .error (.contract "변경 이유는 1자 이상 256자 이하로 입력해 주세요.")
  else .ok normalized

def savePersonal (principal : CriteriaPrincipal) (name : List CodePoint)
    (values : Decoded) (reason : List CodePoint) (newId : Uuid) :
    Except CriteriaFault (ProfileRow × CriteriaStore) := do
  let normalized ← Server.validateCriteriaValues env values
  let profileName ← profileName name
  let documentSha256 ← Server.canonicalCriteriaSha256 env
    (jsonValues normalized)
  let changeReason ← changeReason reason
  return store.append
    { id := newId
      organizationId := principal.organizationId
      ownerUserId := some principal.userId
      name := profileName
      version := 0
      values := normalized
      documentSha256 := documentSha256
      changeReason := changeReason }

def saveOrganizationDefault (principal : CriteriaPrincipal) (values : Decoded)
    (reason : List CodePoint) (newId : Uuid) :
    Except CriteriaFault (ProfileRow × CriteriaStore) := do
  if principal.isAdministrator = false then
    throw (.contract "조직 기본 기준은 관리자만 변경할 수 있습니다.")
  let normalized ← Server.validateCriteriaValues env values
  let documentSha256 ← Server.canonicalCriteriaSha256 env
    (jsonValues normalized)
  let changeReason ← changeReason reason
  return store.append
    { id := newId
      organizationId := principal.organizationId
      ownerUserId := none
      name := points "조직 기본 기준".toList
      version := 0
      values := normalized
      documentSha256 := documentSha256
      changeReason := changeReason }

/-- The effective criteria and their digest, as both `options` and `select`
compute them. -/
def effectiveCriteria (organization personal : Option ProfileRow)
    (kind : SelectionKind) :
    Except CriteriaFault (List EffectiveCriterion × List CodePoint) := do
  let organization := if kind = .kisaDefault then none else organization
  let effective ← buildEffectiveCriteria env
    ((organization.map (·.values)).getD [])
    ((personal.map (·.values)).getD [])
  let sha256 ← Server.canonicalCriteriaSha256 env
    (jsonValues (effective.map fun item => (item.key, item.value)))
  return (effective, sha256)

def personalProfile (principal : CriteriaPrincipal) (profileId : Uuid)
    (message : String) : Except CriteriaFault ProfileRow := do
  match ← store.getPersonal env principal profileId with
  | some profile => return profile
  | none => throw (.contract message)

/-- What `options` returns, but for constant texts and the history. -/
structure Options where
  organizationDefault : Option ProfileRow
  personalProfiles : List ProfileRow
  selectedPersonal : Option ProfileRow
  selectedKind : SelectionKind
  latestSelection : Option SelectionRow
  effective : List EffectiveCriterion
  effectiveSha256 : List CodePoint

/-- The personal profile and the kind that `options` resolves. -/
def resolve (principal : CriteriaPrincipal)
    (organization : Option ProfileRow) (selection : Option SelectionRow)
    (personalProfileId : Option Uuid) (selectionKind : Option SelectionKind) :
    Except CriteriaFault (Option ProfileRow × SelectionKind) :=
  let stored := (selection.map (·.kind)).getD
    (if organization.isSome then .organization else .kisaDefault)
  match personalProfileId, selectionKind with
  | some profileId, none | some profileId, some .personal => do
      let profile ← personalProfile env store principal profileId
        "선택한 개인 기준을 찾을 수 없습니다."
      return (some profile, .personal)
  | some _, some _ => .error (.contract
      "KISA·조직 기준에는 개인 기준 번호를 사용할 수 없습니다.")
  | none, some .personal => .error (.contract
      "선택할 개인 기준이 필요합니다.")
  | none, some kind => .ok (none, kind)
  | none, none =>
      if stored = .personal then
        match selection.bind (·.personalProfileId) with
        | none => .error (.contract
            "저장된 개인 기준 선택 이력이 올바르지 않습니다.")
        | some profileId => do
            let profile ← personalProfile env store principal profileId
              "저장된 개인 기준을 찾을 수 없습니다."
            return (some profile, .personal)
      else .ok (none, stored)

def options (principal : CriteriaPrincipal) (personalProfileId : Option Uuid)
    (selectionKind : Option SelectionKind) :
    Except CriteriaFault Options := do
  let organization ← store.latestOrganization env principal.organizationId
  let personalProfiles ← store.latestPersonal env principal
  let selection := store.latestSelection principal
  let (selected, kind) ← resolve env store principal organization selection
    personalProfileId selectionKind
  let (effective, sha256) ← effectiveCriteria env organization selected kind
  return {
    organizationDefault := organization
    personalProfiles := personalProfiles
    selectedPersonal := selected
    selectedKind := kind
    latestSelection := selection
    effective := effective
    effectiveSha256 := sha256 }

def selectedProfile (principal : CriteriaPrincipal) (kind : SelectionKind)
    (personalProfileId : Option Uuid) :
    Except CriteriaFault (Option ProfileRow) :=
  match kind, personalProfileId with
  | .personal, none => .error (.contract "선택할 개인 기준이 필요합니다.")
  | .personal, some profileId => do
      let profile ← personalProfile env store principal profileId
        "선택한 개인 기준을 찾을 수 없습니다."
      return some profile
  | _, some _ => .error (.contract
      "공식·조직 기준에는 개인 기준 번호를 사용할 수 없습니다.")
  | _, none => .ok none

/-- `expected_criteria_sha256`, where it is given. -/
def checkExpected (criteriaSha256 : List CodePoint) :
    Option (List CodePoint) → Except CriteriaFault Unit
  | none => .ok ()
  | some expected => do
      let same ← compareDigest criteriaSha256 expected
      if same then return ()
      else throw (.contract
        "점검 기준이 변경되었습니다. 기준을 다시 확인해 주세요.")

def select (principal : CriteriaPrincipal) (kind : SelectionKind)
    (personalProfileId : Option Uuid) (expected : Option (List CodePoint))
    (newId : Uuid) (selectedAt : DateTime) :
    Except CriteriaFault (SelectionRow × CriteriaStore) := do
  let organization ← store.latestOrganization env principal.organizationId
  let selected ← selectedProfile env store principal kind personalProfileId
  let (_, criteriaSha256) ← effectiveCriteria env organization selected kind
  checkExpected criteriaSha256 expected
  let row : SelectionRow :=
    { id := newId
      organizationId := principal.organizationId
      userId := principal.userId
      kind := kind
      personalProfileId := selected.map (·.id)
      criteriaSha256 := criteriaSha256
      selectedAt := selectedAt }
  return (row, { store with selections := store.selections ++ [row] })

end CriteriaService

/-! ## Documents in the store -/

section Kept

variable {env : CriteriaEnvironment} {store : CriteriaStore}

/-- The document of a profile is returned as it is when it is loaded, and has a
digest. -/
structure ProfileRow.IsKept (env : CriteriaEnvironment) (row : ProfileRow) :
    Prop where
  settled : ∀ entry ∈ row.values, IsSettled env entry
  scalar : ∀ entry ∈ row.values, textsAreScalar entry.2.json = true

theorem ProfileRow.IsKept.load {row : ProfileRow} (kept : row.IsKept env) :
    row.load env = .ok row := by
  unfold ProfileRow.load
  rw [validateCriteriaValues_of_settled kept.settled]
  rfl

theorem mapM_load {row : Option ProfileRow}
    (kept : ∀ found ∈ row, found.IsKept env) :
    row.mapM (ProfileRow.load env) = .ok row := by
  cases row with
  | none => rfl
  | some row =>
      rw [Option.mapM_some, (kept row rfl).load]
      rfl

theorem first_mem {α : Type} {smaller : α → α → Bool} {row : α} :
    ∀ {rows : List α}, Table.first smaller rows = some row → row ∈ rows
  | [], found => by cases found
  | head :: tail, found => by
      unfold Table.first at found
      split at found
      · cases found
        exact List.mem_cons_self
      rename_i other isOther
      split at found
      · cases found
        exact List.mem_cons_of_mem _ (first_mem isOther)
      · cases found
        exact List.mem_cons_self

/-- A row that comes before all others is the first one. -/
theorem first_append {α : Type} {smaller : α → α → Bool} {row : α} :
    ∀ {rows : List α}, (∀ other ∈ rows, smaller row other = true) →
      Table.first smaller (rows ++ [row]) = some row
  | [], _ => rfl
  | head :: tail, before => by
      have rest := @first_append _ smaller row tail fun other member =>
        before other (List.mem_cons_of_mem _ member)
      rw [List.cons_append, Table.first, rest]
      exact if_pos (before head List.mem_cons_self)

theorem latestOrganization_eq (kept : ∀ row ∈ store.profiles, row.IsKept env)
    (organizationId : Uuid) :
    ∃ organization, store.latestOrganization env organizationId =
        .ok organization ∧ ∀ row ∈ organization, row.IsKept env := by
  have each : ∀ row ∈ Table.first
      (fun one other : ProfileRow => decide (other.version < one.version))
      (store.profilesOf organizationId none), row.IsKept env :=
    fun row found => kept row (List.mem_of_mem_filter (first_mem found))
  exact ⟨_, mapM_load each, each⟩

theorem latestPersonal_returns (kept : ∀ row ∈ store.profiles, row.IsKept env)
    (principal : CriteriaPrincipal) :
    ∃ profiles, store.latestPersonal env principal = .ok profiles := by
  refine ⟨_, @Outcome.mapM_of_forall _ _ _ (ProfileRow.load env) id _ ?_⟩
  intro row member
  exact (kept row (List.mem_of_mem_filter
    (List.mem_of_mem_filter member))).load

theorem personalProfile_eq_ok (kept : ∀ row ∈ store.profiles, row.IsKept env)
    {principal : CriteriaPrincipal} {profileId : Uuid} {message : String}
    {profile : ProfileRow}
    (found : CriteriaService.personalProfile env store principal profileId
      message = .ok profile) :
    profile.id = profileId ∧ profile.IsKept env ∧
      ∀ other, CriteriaService.personalProfile env store principal profileId
        other = .ok profile := by
  unfold CriteriaService.personalProfile at found ⊢
  have each : ∀ row ∈ (store.profilesOf principal.organizationId
      (some principal.userId)).find? (fun row => decide (row.id = profileId)),
      row.IsKept env :=
    fun row known => kept row
      (List.mem_of_mem_filter (List.mem_of_find?_eq_some known))
  unfold CriteriaStore.getPersonal at found ⊢
  rw [mapM_load each, Outcome.ok_bind] at found
  cases known : (store.profilesOf principal.organizationId
      (some principal.userId)).find? (fun row => decide (row.id = profileId)) with
  | none =>
      rw [known] at found
      cases found
  | some row =>
      rw [known] at found
      cases found
      have isId := List.find?_some known
      rw [decide_eq_true_eq] at isId
      refine ⟨isId, each _ known, ?_⟩
      intro other
      rw [mapM_load (known ▸ each)]
      rfl

end Kept

/-! ## Effective criteria -/

section Effective

open CriteriaService

variable {env : CriteriaEnvironment}

/-- The values of a profile, if there is one. -/
def valuesOf (profile : Option ProfileRow) : CriteriaValues :=
  (profile.map (·.values)).getD []

theorem forall_valuesOf {profile : Option ProfileRow}
    {good : String × CriteriaValue → Prop}
    (each : ∀ row ∈ profile, ∀ entry ∈ row.values, good entry) :
    ∀ entry ∈ valuesOf profile, good entry := by
  cases profile with
  | none => exact List.forall_mem_nil _
  | some row => exact each row rfl

/-- The official values are plain. -/
theorem official : ∀ definition ∈ Server.catalog,
    textsAreScalar definition.officialValue.json = true := by decide

/-- The effective criteria of documents that were saved exist. -/
theorem effectiveCriteria_eq {organization personal : Option ProfileRow}
    (organizationKept : ∀ row ∈ organization, row.IsKept env)
    (personalKept : ∀ row ∈ personal, row.IsKept env) (kind : SelectionKind) :
    ∃ sha256, effectiveCriteria env organization personal kind =
      .ok (Server.catalog.map (effectiveCriterion
        (if kind = .kisaDefault then [] else valuesOf organization)
        (valuesOf personal)), sha256) := by
  have given : ∀ row ∈ (if kind = .kisaDefault then none else organization),
      row.IsKept env := by
    split
    · exact fun row member => absurd member (Option.not_mem_none row)
    · exact organizationKept
  have same : (if kind = .kisaDefault then [] else valuesOf organization) =
      valuesOf (if kind = .kisaDefault then none else organization) := by
    split <;> rfl
  rw [same]
  unfold effectiveCriteria
  dsimp only
  generalize (if kind = SelectionKind.kisaDefault then none
    else organization) = organization at given
  have organizationSettled := forall_valuesOf fun row member =>
    (given row member).settled
  have personalSettled := forall_valuesOf fun row member =>
    (personalKept row member).settled
  have validated := effective_validated organizationSettled personalSettled
  have scalar : textsAreScalar (jsonValues ((Server.catalog.map
      (effectiveCriterion (valuesOf organization) (valuesOf personal))).map
        fun item => (item.key, item.value))) = true := by
    rw [jsonValues, textsAreScalar_dict]
    simp only [List.forall_mem_map]
    intro definition member
    unfold effectiveCriterion
    split
    · next value found =>
        exact forall_valuesOf (fun row member => (personalKept row member).scalar)
          _ (mem_of_lookup found)
    split
    · next value found =>
        exact forall_valuesOf (fun row member => (given row member).scalar)
          _ (mem_of_lookup found)
    · exact official definition member
  rcases @sha256OfValues_cases env ((Server.catalog.map (effectiveCriterion
    (valuesOf organization) (valuesOf personal))).map fun item =>
      (item.key, item.value)) with ⟨-, text, digest⟩ | ⟨other, -⟩
  · refine ⟨points (env.sha256 text), ?_⟩
    unfold buildEffectiveCriteria
    unfold valuesOf at organizationSettled personalSettled
    rw [validateCriteriaValues_of_settled organizationSettled,
      validateCriteriaValues_of_settled personalSettled, Outcome.ok_bind,
      Outcome.ok_bind]
    refine Outcome.bind_eq_ok.mpr ⟨_, rfl, Outcome.bind_eq_ok.mpr
      ⟨points (env.sha256 text), ?_, rfl⟩⟩
    exact validated.canonicalCriteriaSha256.trans digest
  · rw [scalar] at other
    cases other

end Effective

/-! ## Runs of the service -/

/-- The calls that write. -/
inductive CriteriaLabel where
  | savePersonal (principal : CriteriaPrincipal) (name : List CodePoint)
      (values : Decoded) (reason : List CodePoint) (newId : Uuid)
  | saveOrganizationDefault (principal : CriteriaPrincipal) (values : Decoded)
      (reason : List CodePoint) (newId : Uuid)
  | select (principal : CriteriaPrincipal) (kind : SelectionKind)
      (personalProfileId : Option Uuid) (expected : Option (List CodePoint))
      (newId : Uuid) (selectedAt : DateTime)

/-- What such a call returns or raises. -/
inductive CriteriaAnswer where
  | saved (row : ProfileRow)
  | selected (row : SelectionRow)
  | refused (fault : CriteriaFault)

def writtenBy {α : Type} (before : CriteriaStore) (answer : α → CriteriaAnswer) :
    Except CriteriaFault (α × CriteriaStore) → CriteriaAnswer × CriteriaStore
  | .ok (value, after) => (answer value, after)
  | .error fault => (.refused fault, before)

/-- The calls in any order, with the identifiers and the times that the
database gives. -/
def criteriaMachine (env : CriteriaEnvironment) :
    Machine CriteriaStore CriteriaLabel CriteriaAnswer where
  step store
    | .savePersonal principal name values reason newId =>
        some (writtenBy store .saved (CriteriaService.savePersonal env store
          principal name values reason newId))
    | .saveOrganizationDefault principal values reason newId =>
        some (writtenBy store .saved (CriteriaService.saveOrganizationDefault
          env store principal values reason newId))
    | .select principal kind personalProfileId expected newId selectedAt =>
        some (writtenBy store .selected (CriteriaService.select env store
          principal kind personalProfileId expected newId selectedAt))

section Runs

open CriteriaService

variable {env : CriteriaEnvironment} {store after : CriteriaStore}

/-- Every document of a store is kept. -/
def CriteriaStore.IsKept (env : CriteriaEnvironment) (store : CriteriaStore) :
    Prop :=
  ∀ row ∈ store.profiles, row.IsKept env

variable {values : Decoded}

theorem CriteriaStore.IsKept.append (kept : store.IsKept env)
    {row : ProfileRow} {sha256 : List CodePoint}
    (validated : Server.validateCriteriaValues env values = .ok row.values)
    (digest : Server.canonicalCriteriaSha256 env (jsonValues row.values) =
      .ok sha256) : (store.append row).2.IsKept env := by
  obtain ⟨-, -, -, settled⟩ := settled_of_validateCriteriaValues validated
  unfold Server.canonicalCriteriaSha256 at digest
  rw [validateCriteriaValues_of_settled settled, Outcome.ok_bind] at digest
  intro other member
  rcases List.mem_append.mp member with known | isNew
  · exact kept other known
  · obtain rfl := List.mem_singleton.mp isNew
    rcases @sha256OfValues_cases env row.values with
      ⟨scalar, -⟩ | ⟨-, refused⟩
    · rw [jsonValues, textsAreScalar_dict, List.forall_mem_map] at scalar
      exact ⟨settled, scalar⟩
    · cases digest.symm.trans refused

variable {newId : Uuid}

variable {reason : List CodePoint}

theorem savePersonal_isKept (kept : store.IsKept env)
    {principal : CriteriaPrincipal} {name : List CodePoint} {row : ProfileRow}
    (done : savePersonal env store principal name values reason newId =
      .ok (row, after)) : after.IsKept env := by
  obtain ⟨normalized, validated, done⟩ := Outcome.bind_eq_ok.mp done
  obtain ⟨profileName, -, done⟩ := Outcome.bind_eq_ok.mp done
  obtain ⟨sha256, digest, done⟩ := Outcome.bind_eq_ok.mp done
  obtain ⟨changeReason, -, done⟩ := Outcome.bind_eq_ok.mp done
  cases done
  exact kept.append validated digest

theorem saveOrganizationDefault_isKept (kept : store.IsKept env)
    {principal : CriteriaPrincipal} {row : ProfileRow}
    (done : saveOrganizationDefault env store principal values reason newId =
      .ok (row, after)) : after.IsKept env := by
  obtain ⟨-, done⟩ := Outcome.refused_or (.error _) done
  obtain ⟨normalized, validated, done⟩ := Outcome.bind_eq_ok.mp done
  obtain ⟨sha256, digest, done⟩ := Outcome.bind_eq_ok.mp done
  obtain ⟨changeReason, -, done⟩ := Outcome.bind_eq_ok.mp done
  cases done
  exact kept.append validated digest

variable {row : SelectionRow} {kind : SelectionKind}
  {personalProfileId : Option Uuid} {expected : Option (List CodePoint)}
  {selectedAt : DateTime}

/-- The steps of a selection that was accepted. -/
theorem select_eq_ok {principal : CriteriaPrincipal}
    (done : select env store principal kind personalProfileId expected newId
      selectedAt = .ok (row, after)) :
    ∃ organization selected effective,
      store.latestOrganization env principal.organizationId =
        .ok organization ∧
      selectedProfile env store principal kind personalProfileId =
        .ok selected ∧
      effectiveCriteria env organization selected kind =
        .ok (effective, row.criteriaSha256) ∧
      row = ⟨newId, principal.organizationId, principal.userId, kind,
        selected.map (·.id), row.criteriaSha256, selectedAt⟩ ∧
      after = { store with selections := store.selections ++ [row] } := by
  obtain ⟨organization, isOrganization, done⟩ := Outcome.bind_eq_ok.mp done
  obtain ⟨selected, isSelected, done⟩ := Outcome.bind_eq_ok.mp done
  obtain ⟨⟨effective, sha256⟩, isEffective, done⟩ := Outcome.bind_eq_ok.mp done
  obtain ⟨-, -, done⟩ := Outcome.bind_eq_ok.mp done
  cases done
  exact ⟨organization, selected, effective, isOrganization, isSelected,
    isEffective, rfl, rfl⟩

variable {answer : CriteriaAnswer}

theorem writtenBy_isKept {α : Type} {answered : α → CriteriaAnswer}
    {outcome : Except CriteriaFault (α × CriteriaStore)}
    (kept : store.IsKept env)
    (each : ∀ value written, outcome = .ok (value, written) →
      written.IsKept env)
    (performed : writtenBy store answered outcome = (answer, after)) :
    after.IsKept env := by
  cases outcome with
  | error fault =>
      cases performed
      exact kept
  | ok result =>
      cases performed
      exact each result.1 result.2 rfl

theorem CriteriaStore.IsKept.step (kept : store.IsKept env)
    {label : CriteriaLabel}
    (made : (criteriaMachine env).step store label = some (answer, after)) :
    after.IsKept env := by
  cases label with
  | savePersonal =>
      exact writtenBy_isKept kept (fun _ _ => savePersonal_isKept kept)
        (Option.some.inj made)
  | saveOrganizationDefault =>
      exact writtenBy_isKept kept
        (fun _ _ => saveOrganizationDefault_isKept kept) (Option.some.inj made)
  | select =>
      refine writtenBy_isKept kept (fun row written done => ?_)
        (Option.some.inj made)
      obtain ⟨_, _, _, -, -, -, -, rfl⟩ := select_eq_ok done
      exact kept

/-- An accepted selection that is the latest one of its user takes effect. -/
theorem select_takes_effect (kept : store.IsKept env)
    {principal : CriteriaPrincipal}
    (done : select env store principal kind personalProfileId expected newId
      selectedAt = .ok (row, after))
    (latest : ∀ earlier ∈ store.selectionsOf principal,
      row.later earlier = true) :
    ∃ view, options env after principal none none = .ok view ∧
      view.selectedKind = kind ∧
      view.effectiveSha256 = row.criteriaSha256 := by
  obtain ⟨organization, selected, effective, isOrganization, isSelected,
    isEffective, isRow, rfl⟩ := select_eq_ok done
  obtain ⟨profiles, isPersonal⟩ := latestPersonal_returns kept principal
  have isLatest : CriteriaStore.latestSelection
      { store with selections := store.selections ++ [row] } principal =
        some row := by
    unfold CriteriaStore.latestSelection CriteriaStore.selectionsOf
    dsimp only
    rw [List.filter_append, List.filter_singleton, isRow]
    simp only [and_self, decide_true]
    rw [← isRow]
    exact first_append latest
  have resolved : resolve env
      { store with selections := store.selections ++ [row] } principal
      organization (some row) none none = .ok (selected, kind) := by
    unfold resolve
    rw [isRow]
    dsimp only [Option.map_some, Option.getD_some, Option.bind_some]
    unfold selectedProfile at isSelected
    cases kind with
    | personal =>
        rw [if_pos rfl]
        cases personalProfileId with
        | none => cases isSelected
        | some profileId =>
            obtain ⟨profile, found, same⟩ := Outcome.bind_eq_ok.mp isSelected
            cases same
            obtain ⟨rfl, -, again⟩ := personalProfile_eq_ok kept found
            exact Outcome.bind_eq_ok.mpr ⟨profile, again _, rfl⟩
    | organization | kisaDefault =>
        rw [if_neg (by rintro ⟨⟩)]
        cases personalProfileId with
        | none =>
            cases isSelected
            rfl
        | some profileId => cases isSelected
  refine ⟨_, Outcome.bind_eq_ok.mpr ⟨organization, isOrganization,
    Outcome.bind_eq_ok.mpr ⟨profiles, isPersonal, Outcome.bind_eq_ok.mpr
      ⟨(selected, kind), ?_, Outcome.bind_eq_ok.mpr
        ⟨(effective, row.criteriaSha256), isEffective, rfl⟩⟩⟩⟩, rfl, rfl⟩
  rw [isLatest]
  exact resolved

variable {selectionKind : Option SelectionKind}

/-- A profile that `options` resolves is kept. -/
theorem resolve_isKept (kept : store.IsKept env)
    {principal : CriteriaPrincipal}
    {organization selected : Option ProfileRow}
    {selection : Option SelectionRow}
    (resolved : resolve env store principal organization selection
      personalProfileId selectionKind = .ok (selected, kind)) :
    ∀ row ∈ selected, row.IsKept env := by
  have found {profileId : Uuid} {message : String} {profile : ProfileRow}
      (isProfile : personalProfile env store principal profileId message =
        .ok profile) : ∀ row ∈ some profile, row.IsKept env := by
    rintro row ⟨⟩
    exact (personalProfile_eq_ok kept isProfile).2.1
  have none (row : ProfileRow) (member : row ∈ (none : Option ProfileRow)) :
      row.IsKept env := absurd member (Option.not_mem_none row)
  unfold resolve at resolved
  dsimp only at resolved
  generalize (selection.map (·.kind)).getD _ = stored at resolved
  split at resolved
  · obtain ⟨profile, isProfile, same⟩ := Outcome.bind_eq_ok.mp resolved
    cases same
    exact found isProfile
  · obtain ⟨profile, isProfile, same⟩ := Outcome.bind_eq_ok.mp resolved
    cases same
    exact found isProfile
  · cases resolved
  · cases resolved
  · cases resolved
    exact none
  · split at resolved
    · split at resolved
      · cases resolved
      · obtain ⟨profile, isProfile, same⟩ := Outcome.bind_eq_ok.mp resolved
        cases same
        exact found isProfile
    · cases resolved
      exact none

/-- What is in effect: a value of the selected personal profile, else one of
the organization, unless the default was selected, else the official one. -/
theorem options_effective (kept : store.IsKept env)
    {principal : CriteriaPrincipal} {view : Options}
    (returned : options env store principal personalProfileId selectionKind =
      .ok view) :
    view.effective = Server.catalog.map (effectiveCriterion
      (if view.selectedKind = .kisaDefault then []
        else valuesOf view.organizationDefault)
      (valuesOf view.selectedPersonal)) := by
  obtain ⟨organization, isOrganization, returned⟩ :=
    Outcome.bind_eq_ok.mp returned
  obtain ⟨profiles, -, returned⟩ := Outcome.bind_eq_ok.mp returned
  obtain ⟨⟨selected, kind⟩, resolved, returned⟩ :=
    Outcome.bind_eq_ok.mp returned
  obtain ⟨⟨effective, sha256⟩, isEffective, same⟩ :=
    Outcome.bind_eq_ok.mp returned
  cases same
  obtain ⟨known, isKnown, organizationKept⟩ :=
    latestOrganization_eq kept principal.organizationId
  cases isKnown.symm.trans isOrganization
  obtain ⟨digest, computed⟩ := effectiveCriteria_eq organizationKept
    (resolve_isKept kept resolved) kind
  cases computed.symm.trans isEffective
  rfl

/-- Without a selection, the document of the organization is in effect, or else
the default. -/
theorem options_unselected (kept : store.IsKept env)
    {principal : CriteriaPrincipal}
    (unselected : store.selectionsOf principal = []) :
    ∃ view, options env store principal none none = .ok view ∧
      view.selectedPersonal = none ∧
      view.selectedKind = (if view.organizationDefault.isSome then .organization
        else .kisaDefault) := by
  obtain ⟨organization, isOrganization, organizationKept⟩ :=
    latestOrganization_eq kept principal.organizationId
  obtain ⟨profiles, isPersonal⟩ := latestPersonal_returns kept principal
  have noSelection : store.latestSelection principal = none := by
    rw [CriteriaStore.latestSelection, unselected]
    rfl
  obtain ⟨kind, isKind⟩ : ∃ kind : SelectionKind, kind =
      (if organization.isSome then .organization else .kisaDefault) :=
    ⟨_, rfl⟩
  have resolved : resolve env store principal organization none none none =
      .ok (none, kind) := by
    rw [isKind]
    cases organization <;> rfl
  obtain ⟨effective, sha256, computed⟩ : ∃ effective sha256,
      effectiveCriteria env organization none kind =
        .ok (effective, sha256) :=
    ⟨_, effectiveCriteria_eq organizationKept
      (fun row member => absurd member (Option.not_mem_none row)) kind⟩
  refine ⟨⟨organization, profiles, none, kind, none, effective, sha256⟩, ?_,
    rfl, isKind⟩
  unfold options
  rw [isOrganization, Outcome.ok_bind, isPersonal, Outcome.ok_bind, noSelection]
  dsimp only
  rw [resolved, Outcome.ok_bind]
  dsimp only
  rw [computed]
  rfl

def officialValues : CriteriaValues :=
  Server.catalog.map fun definition =>
    (definition.key, definition.officialValue)

/-- A selection of the default has the digest of the official values. -/
theorem select_default {principal : CriteriaPrincipal}
    (done : select env store principal .kisaDefault personalProfileId expected
      newId selectedAt = .ok (row, after)) :
    Server.canonicalCriteriaSha256 env (jsonValues officialValues) =
      .ok row.criteriaSha256 := by
  obtain ⟨organization, selected, effective, -, isSelected, isEffective, -⟩ :=
    select_eq_ok done
  unfold selectedProfile at isSelected
  cases personalProfileId with
  | some profileId => cases isSelected
  | none =>
      cases isSelected
      obtain ⟨computed, isComputed, digest⟩ := Outcome.bind_eq_ok.mp isEffective
      obtain ⟨sha256, isDigest, same⟩ := Outcome.bind_eq_ok.mp digest
      cases same
      cases isComputed
      rw [List.map_map] at isDigest
      exact isDigest

/-- In every run of the service: an accepted selection that is the latest one
of its user takes effect, without a selection the document of the organization
does or else the default, a selected personal profile comes before the document
of the organization and that before the official values, and a selection of the
default does not depend on any document. -/
theorem selections_take_effect
    {trace : List (Moment CriteriaStore CriteriaLabel CriteriaAnswer)}
    {final : CriteriaStore}
    (run : (criteriaMachine env).Run Machine.unguarded ⟨[], []⟩ trace final) :
    (∀ moment ∈ trace, ∀ principal kind personalProfileId expected newId
        selectedAt row,
      moment.label = .select principal kind personalProfileId expected newId
        selectedAt →
      moment.answer = .selected row →
      ((∀ earlier ∈ moment.before.selectionsOf principal,
          row.later earlier = true) →
        ∃ view, options env moment.after principal none none = .ok view ∧
          view.selectedKind = kind ∧
          view.effectiveSha256 = row.criteriaSha256) ∧
      (kind = .kisaDefault → Server.canonicalCriteriaSha256 env
        (jsonValues officialValues) = .ok row.criteriaSha256)) ∧
    (∀ principal, final.selectionsOf principal = [] →
      ∃ view, options env final principal none none = .ok view ∧
        view.selectedPersonal = none ∧
        view.selectedKind = (if view.organizationDefault.isSome then
          .organization else .kisaDefault)) ∧
    ∀ principal personalProfileId selectionKind view,
      options env final principal personalProfileId selectionKind = .ok view →
      view.effective = Server.catalog.map (effectiveCriterion
        (if view.selectedKind = .kisaDefault then []
          else valuesOf view.organizationDefault)
        (valuesOf view.selectedPersonal)) := by
  have initially : CriteriaStore.IsKept env ⟨[], []⟩ := List.forall_mem_nil _
  have kept : final.IsKept env := run.invariant (CriteriaStore.IsKept env)
    initially fun _ _ _ _ kept _ made => kept.step made
  refine ⟨?_, fun _ => options_unselected kept,
    fun _ _ _ _ => options_effective kept⟩
  intro moment member principal kind personalProfileId expected newId selectedAt
    row isLabel isRow
  obtain ⟨before, -, made⟩ := run.before_moment (CriteriaStore.IsKept env)
    initially (fun _ _ _ _ kept _ made => kept.step made) member
  obtain ⟨store, label, answer, after⟩ := moment
  dsimp only at isLabel isRow before ⊢
  subst isLabel isRow
  have performed := Option.some.inj made
  cases done : select env store principal kind personalProfileId expected newId
      selectedAt with
  | error fault =>
      dsimp only at performed
      rw [done] at performed
      cases performed
  | ok result =>
      dsimp only at performed
      rw [done] at performed
      cases performed
      refine ⟨select_takes_effect before done, ?_⟩
      rintro rfl
      exact select_default done

end Runs

/-! ## Selections that do not take effect -/

theorem zero_unmarked (_ : UInt64) : '<' ∉ ['0', '.', '0'] := by decide

def parityEnvironment : CriteriaEnvironment where
  database := asciiDatabase
  floats := ⟨fun _ => ['0', '.', '0'], zero_unmarked⟩
  isPrintable := fun character => decide (32 ≤ character.toNat)
  floatOf := fun _ => 0
  sha256 := fun text =>
    List.replicate 64 (if text.length % 2 = 0 then '0' else '1')
  length_sha256 := fun text => List.length_replicate
  sha256_hex := by
    intro text digit member
    rw [List.eq_of_mem_replicate member]
    split
    · exact @of_decide_eq_true _ (List.instDecidableMemOfLawfulBEq _ _) rfl
    · exact @of_decide_eq_true _ (List.instDecidableMemOfLawfulBEq _ _) rfl

def examplePrincipal : CriteriaPrincipal := ⟨⟨1⟩, ⟨2⟩, false⟩

/-- A personal document for passwords of eight characters. -/
def shortPasswords : CriteriaLabel :=
  .savePersonal examplePrincipal (points "short".toList)
    (.dict [(points "password_minimum_length".toList, .int 8)])
    (points "test".toList) ⟨3⟩

/-- A selection of it takes effect. -/
theorem short_passwords_take_effect :
    ∃ trace final row view,
      (criteriaMachine parityEnvironment).Run Machine.unguarded ⟨[], []⟩ trace
        final ∧
      CriteriaService.select parityEnvironment final examplePrincipal .personal
        (some ⟨3⟩) none ⟨4⟩ 5 = .ok (row, { final with
          selections := final.selections ++ [row] }) ∧
      CriteriaService.options parityEnvironment { final with
        selections := final.selections ++ [row] } examplePrincipal none none =
        .ok view ∧
      view.selectedKind = .personal ∧
      view.effectiveSha256 = row.criteriaSha256 := by
  have carried : ((criteriaMachine parityEnvironment).replay Machine.unguarded
      ⟨[], []⟩ [shortPasswords]).map (fun (_, final) =>
        (final.selectionsOf examplePrincipal,
          (CriteriaService.select parityEnvironment final examplePrincipal
            .personal (some ⟨3⟩) none ⟨4⟩ 5).isOk)) = some ([], true) := by
    decide +kernel
  obtain ⟨trace, final, run, seen⟩ := Machine.exists_run_of_replay carried
  obtain ⟨unselected, accepted⟩ := Prod.mk.inj seen
  obtain ⟨⟨row, after⟩, done⟩ := Outcome.eq_ok_of_isOk accepted
  obtain ⟨_, _, _, -, -, -, -, rfl⟩ := select_eq_ok done
  have made : (criteriaMachine parityEnvironment).step final
      (.select examplePrincipal .personal (some ⟨3⟩) none ⟨4⟩ 5) =
        some (.selected row, { final with
          selections := final.selections ++ [row] }) := by
    unfold criteriaMachine
    dsimp only
    rw [done]
    rfl
  obtain ⟨view, returned, kind, digest⟩ := ((selections_take_effect
    (run.step trivial made)).1 _ (List.mem_append_right _
      (List.mem_singleton_self _)) _ _ _ _ _ _ row rfl rfl).1
    (by rw [unselected]; exact List.forall_mem_nil _)
  exact ⟨trace, final, row, view, run, done, returned, kind, digest⟩

/-- The selection of a moment is what a following `options` shows. -/
def showsSelection (env : CriteriaEnvironment)
    (moment : Moment CriteriaStore CriteriaLabel CriteriaAnswer) : Bool :=
  match moment.label, moment.answer with
  | .select principal _ _ _ _ _, .selected row =>
      match CriteriaService.options env moment.after principal none none with
      | .ok view => decide (view.effectiveSha256 = row.criteriaSha256)
      | .error _ => false
  | _, _ => true

/-- The first value that is in effect for a user with a personal document who
has selected nothing is the official one; and a selection that the clock dates
back does not take effect. -/
theorem selections_without_effect :
    (∃ trace final,
      (criteriaMachine parityEnvironment).Run Machine.unguarded ⟨[], []⟩ trace
        final ∧
      (final.profilesOf ⟨1⟩ (some ⟨2⟩)).map (·.values) =
        [[("password_minimum_length", .int 8)]] ∧
      (CriteriaService.options parityEnvironment final examplePrincipal none
        none).toOption.map (fun view => view.effective[1]?) =
          some (some ⟨"password_minimum_length", .int 10, "KISA_DEFAULT"⟩)) ∧
    ∃ trace final,
      (criteriaMachine parityEnvironment).Run Machine.unguarded ⟨[], []⟩ trace
        final ∧
      ¬∀ moment ∈ trace, showsSelection parityEnvironment moment = true := by
  constructor
  case left =>
    have carried : ((criteriaMachine parityEnvironment).replay
        Machine.unguarded ⟨[], []⟩ [shortPasswords]).map (fun (_, final) =>
          ((final.profilesOf ⟨1⟩ (some ⟨2⟩)).map (·.values),
            (CriteriaService.options parityEnvironment final examplePrincipal
              none none).toOption.map (fun view => view.effective[1]?))) =
        some ([[("password_minimum_length", .int 8)]],
          some (some ⟨"password_minimum_length", .int 10, "KISA_DEFAULT"⟩)) := by
      decide +kernel
    obtain ⟨trace, final, run, seen⟩ := Machine.exists_run_of_replay carried
    obtain ⟨profiles, effective⟩ := Prod.mk.inj seen
    exact ⟨trace, final, run, profiles, effective⟩
  case right =>
    have carried : ((criteriaMachine parityEnvironment).replay
        Machine.unguarded ⟨[], []⟩ [shortPasswords,
          .select examplePrincipal .personal (some ⟨3⟩) none ⟨4⟩ 5,
          .select examplePrincipal .kisaDefault none none ⟨5⟩ 3]).map
        (fun (trace, _) => trace.all (showsSelection parityEnvironment)) =
        some false := by
      decide +kernel
    obtain ⟨trace, final, run, seen⟩ := Machine.exists_run_of_replay carried
    refine ⟨trace, final, run, fun all => ?_⟩
    simp only [List.all_eq_true.mpr all] at seen
    cases seen

end SecAI.Criteria
