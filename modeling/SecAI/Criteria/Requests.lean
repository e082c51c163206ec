/-
Module: SecAI.Criteria.Requests
Purpose: The requests that the launcher accepts, and where the two contracts of
  the criteria and the launcher raise nothing but errors of the contract.
Trusted boundary: as in the contracts; the transport keeps the body of a
  request
Main exports:
  IsReadableRequest, confined_criteriaRequest_iff
-/
import SecAI.Criteria.WellFormed

namespace SecAI.Criteria

open SecAI.Text
open Outcome (Confined)

variable {env : CriteriaEnvironment}

/-- What a body must be like so that the launcher refuses it with an error of
the contract, if at all: its first error, if it has one, is no integer of more
than 4300 digits, and the context in it is readable. -/
def IsReadableRequest (env : CriteriaEnvironment) (raw : List UInt8) : Prop :=
  (∀ text, decodeStrict raw = some text →
    loadHooked (plainNumber env.floatOf) strictJsonObject text ≠ .error .integer) ∧
  ∀ members, requestDocument env raw = .ok (.dict members) →
    hasExactKeys members ["criteria_context"] = true →
    IsReadable env (getItem members "criteria_context")

variable {raw : List UInt8}

theorem confined_requestDocument_iff :
    Confined IsContract (requestDocument env raw) ↔
      ∀ text, decodeStrict raw = some text →
        loadHooked (plainNumber env.floatOf) strictJsonObject text ≠ .error .integer := by
  unfold requestDocument
  dsimp only
  cases decodeStrict raw with
  | none => exact iff_of_true (Outcome.confined_error_iff.mpr rfl) nofun
  | some text =>
      have hooks : ∀ pairs, Confined IsContract (strictJsonObject pairs) := by
        intro pairs
        unfold strictJsonObject
        split
        · exact Outcome.confined_ok _
        · exact Outcome.confined_error_iff.mpr rfl
      have confined := confined_loadHooked
          (confined_plainNumber env.floatOf) hooks text
      simp only [Option.some.injEq, forall_eq']
      cases loaded : loadHooked (plainNumber env.floatOf) strictJsonObject text with
      | ok document => exact iff_of_true (Outcome.confined_ok _) nofun
      | error raised =>
          cases raised with
          | decode =>
              exact iff_of_true (Outcome.confined_error_iff.mpr rfl) nofun
          | integer =>
              refine iff_of_false ?_ fun other => other rfl
              rw [Outcome.confined_error_iff]
              exact not_isContract_value
          | hook fault =>
              refine iff_of_true ?_ nofun
              exact Outcome.confined_error_iff.mpr
                (confined (.hook fault) loaded)

/-- The launcher raises nothing but errors of the contract for the bodies that
are readable, and for no others. -/
theorem confined_criteriaRequest_iff :
    Confined IsContract (criteriaRequest env raw) ↔
      IsReadableRequest env raw := by
  unfold criteriaRequest
  rw [Outcome.confined_bind_iff, confined_requestDocument_iff]
  refine and_congr_right fun _ => ?_
  constructor
  case mp =>
    intro later members isDocument keys
    have confined := later (.dict members) isDocument
    dsimp only at confined
    rw [keys, if_neg (not_not_intro rfl)] at confined
    exact confined_validate_iff.mp confined
  case mpr =>
    intro readable document isDocument
    split
    · next members =>
        refine Confined.guard rfl fun keys => ?_
        exact confined_validate_iff.mpr
          (readable members isDocument (not_not.mp keys))
    · exact Outcome.confined_error_iff.mpr rfl

/-- A request is accepted if its body holds a context that the server would
accept. -/
theorem criteriaRequest_eq_ok_iff {context : CriteriaContext} :
    criteriaRequest env raw = .ok context ↔
      ∃ members, requestDocument env raw = .ok (.dict members) ∧
        hasExactKeys members ["criteria_context"] = true ∧
        Server.validateCriteriaExecutionContext env
          (getItem members "criteria_context") = .ok context := by
  unfold criteriaRequest
  rw [Outcome.bind_eq_ok]
  constructor
  case mp =>
    rintro ⟨document, isDocument, returned⟩
    split at returned
    · next members =>
        obtain ⟨keys, returned⟩ := Outcome.refused_or (.error _) returned
        exact ⟨members, isDocument, not_not.mp keys,
          (validate_alike _).eq_ok_iff.mpr returned⟩
    · cases returned
  case mpr =>
    rintro ⟨members, isDocument, keys, returned⟩
    refine ⟨.dict members, isDocument, ?_⟩
    dsimp only
    rw [keys, if_neg (not_not_intro rfl)]
    exact (validate_alike _).eq_ok_iff.mp returned

def requestBody (context : CriteriaContext) : Decoded :=
  .dict [(points "criteria_context".toList, context.document)]

theorem criteriaRequest_of_isWellFormed {context : CriteriaContext}
    (formed : context.IsWellFormed env)
    (holds : requestDocument env raw = .ok (requestBody context)) :
    criteriaRequest env raw = .ok context := by
  refine criteriaRequest_eq_ok_iff.mpr ⟨_, holds, hasExactKeys_of_keys rfl, ?_⟩
  rw [getItem_cons, if_pos rfl]
  exact (validate_alike _).eq_ok_iff.mpr (validate_of_isWellFormed formed)

/-- The validations, the decoders and the launcher: each raises nothing but
errors of the contract, and agrees with its counterpart, for what is readable
and for nothing else; what the launcher accepts is what the server accepts, and
both the contexts that the server validated and those that a page builds are
accepted as they are. -/
theorem criteria_contracts_agree_iff (env : CriteriaEnvironment) :
    (∀ value, Agree (Server.validateCriteriaExecutionContext env value)
        (Collector.validateCriteriaExecutionContext env value) ↔
      IsReadable env value) ∧
    (∀ value, Agree (Server.decodeCriteriaExecutionContext env value)
        (Collector.decodeCriteriaExecutionContext env value) ↔
      (value.length ≤ 16384 → ∀ document,
        transmittedDocument env value = some document →
          IsReadable env document)) ∧
    (∀ raw, Confined IsContract (criteriaRequest env raw) ↔
      IsReadableRequest env raw) ∧
    (∀ raw context, criteriaRequest env raw = .ok context ↔
      ∃ members, requestDocument env raw = .ok (.dict members) ∧
        hasExactKeys members ["criteria_context"] = true ∧
        Server.validateCriteriaExecutionContext env
          (getItem members "criteria_context") = .ok context) ∧
    (∀ value context raw,
      Server.validateCriteriaExecutionContext env value = .ok context →
      requestDocument env raw = .ok (requestBody context) →
      criteriaRequest env raw = .ok context) ∧
    ∀ selectedKind organizationDefault selectedPersonal context raw,
      pageContext env selectedKind organizationDefault selectedPersonal =
        .ok context →
      requestDocument env raw = .ok (requestBody context) →
      criteriaRequest env raw = .ok context := by
  refine ⟨agree_validate_iff, agree_decode_iff,
    fun _ => confined_criteriaRequest_iff,
    fun _ _ => criteriaRequest_eq_ok_iff, ?_, ?_⟩
  · intro value context raw returned
    exact criteriaRequest_of_isWellFormed
      (isWellFormed_of_validate ((validate_alike value).eq_ok_iff.mp returned))
  · intro selectedKind organizationDefault selectedPersonal context raw built
    exact criteriaRequest_of_isWellFormed (isWellFormed_of_pageContext built)

def sampleEnvironment : CriteriaEnvironment where
  database := asciiDatabase
  floats := ⟨fun _ => ['0', '.', '0'], fun _ => by decide⟩
  isPrintable := fun character => decide (32 ≤ character.toNat)
  floatOf := fun _ => 0
  sha256 := fun _ =>
    "44a5b9ed1150c386665bb915f21420428cfec0a3538cd1157188f656e770b96c".toList
  length_sha256 := fun _ => by decide
  sha256_hex := fun _ => @of_decide_eq_true _ (List.decidableBAll _ _) rfl

/-- The official values and their sources, with a digest of one letter that is
not ASCII. -/
def foreignDigest : CriteriaContext where
  values := Server.catalog.map fun definition =>
    (definition.key, definition.officialValue)
  sources := Server.catalog.map fun definition =>
    (points definition.key.toList, .str (points "KISA_DEFAULT".toList))
  criteriaSha256 := points ['\u00E9']
  organizationProfile := none
  personalProfile := none

/-- Both validations raise a `TypeError` for that digest. -/
theorem contracts_raise_for_foreign_digest :
    ¬Agree
      (Server.validateCriteriaExecutionContext sampleEnvironment
        foreignDigest.document)
      (Collector.validateCriteriaExecutionContext sampleEnvironment
        foreignDigest.document) := by
  have validated : IsValidated sampleEnvironment foreignDigest.values := by
    constructor
    case settled =>
      refine List.forall_mem_map.mpr fun definition member => ?_
      exact ⟨definition, findDefinition_catalog definition member, rfl,
        criterionValue_official definition member⟩
    case complete =>
      intro key known
      obtain ⟨definition, member, rfl⟩ := List.mem_map.mp known
      rw [foreignDigest, List.map_map]
      exact List.mem_map.mpr ⟨definition, member, rfl⟩
  have returned := (contextValues_alike
    (jsonValues foreignDigest.values)).eq_ok_iff.mp validated.contextValues
  rw [agree_validate_iff]
  intro readable
  have ascii := (readable _ rfl (hasExactKeys_of_keys rfl)
    foreignDigest.values (by
      simp only [getItem_cons, reduceIte]
      exact returned) foreignDigest.criteriaSha256 (by
      simp only [getItem_cons, reduceIte, String.reduceEq])).2.1
  exact absurd ascii (by decide)

end SecAI.Criteria
