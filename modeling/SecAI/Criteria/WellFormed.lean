/-
Module: SecAI.Criteria.WellFormed
Purpose: The validations of the server and of the collector agree, up to values
  that raise other errors; contexts that a validation returns as they are.
Trusted boundary: as in the contracts; the page keeps the values it shows
Main exports:
  validate_alike, confined_validate_iff, validate_of_isWellFormed
-/
import SecAI.Criteria.Values

namespace SecAI.Criteria

open SecAI.Text
open Decoded (isScalarText isScalarText_points anyString anyMemberString
  anyItemString)
open Outcome (Alike Confined)

variable {env : CriteriaEnvironment}

/-! ## Surrogates of values -/

theorem anyString_names (names : List (List CodePoint)) :
    anyItemString hasSurrogate (names.map .str) = names.any hasSurrogate := by
  induction names with
  | nil => rfl
  | cons name names ih =>
      rw [List.map_cons, anyItemString, ih, List.any_cons]
      rfl

theorem textsAreScalar_names (names : List (List CodePoint)) :
    textsAreScalar (.list (names.map .str)) = true ↔
      ∀ name ∈ names, isScalarText name = true := by
  rw [textsAreScalar_list, List.forall_mem_map]
  simp only [textsAreScalar_str]

/-- A value of a criterion has the surrogates of what it was read from. -/
theorem textsAreScalar_criterionValue {key : String} {item : Decoded}
    {value : CriteriaValue}
    (returned : Collector.criterionValue env key item = .ok value) :
    textsAreScalar value.json = textsAreScalar item := by
  unfold Collector.criterionValue at returned
  dsimp only at returned
  split at returned
  · split at returned
    · obtain ⟨-, same⟩ := Outcome.refused_or (.error _) returned
      cases same
      rfl
    · cases returned
  · split at returned
    · split at returned
      · cases returned
        rfl
      · cases returned
    · obtain ⟨names, normalizes, check⟩ := Outcome.bind_eq_ok.mp returned
      obtain ⟨-, same⟩ := Outcome.refused_or (.error _) check
      cases same
      rw [Bool.eq_iff_iff, ← scalar_normalizedNames_iff normalizes]
      exact textsAreScalar_names names

theorem textsAreScalar_dict {members : Members} :
    textsAreScalar (.dict members) = true ↔
      ∀ entry ∈ members, textsAreScalar entry.2 = true := by
  induction members with
  | nil => exact iff_of_true rfl (List.forall_mem_nil _)
  | cons entry members ih =>
      rw [List.forall_mem_cons, ← ih]
      simp only [textsAreScalar, Decoded.anyText, Decoded.anyMemberText,
        Bool.not_or, Bool.and_eq_true]

variable {value : Decoded} {values : CriteriaValues}

theorem textsAreScalar_jsonValues
    (returned : Collector.validateValues env value = .ok values) :
    textsAreScalar (jsonValues values) = textsAreScalar value := by
  unfold Collector.validateValues at returned
  split at returned
  · next members =>
      obtain ⟨-, mapped⟩ := Outcome.refused_or (.error _) returned
      have paired := Outcome.mapM_eq_ok.mp mapped
      rw [Bool.eq_iff_iff, jsonValues, textsAreScalar_dict,
        textsAreScalar_dict, List.forall_mem_map]
      clear returned mapped
      induction paired with
      | nil => exact iff_of_true (List.forall_mem_nil _) (List.forall_mem_nil _)
      | cons head tail ih =>
          rw [List.forall_mem_cons, List.forall_mem_cons, ih]
          obtain ⟨item, isItem, same⟩ := Outcome.bind_eq_ok.mp head
          cases same
          rw [textsAreScalar_criterionValue isItem]
  · cases returned

/-- The keys of validated values are plain, so only names have surrogates. -/
theorem anyString_jsonValues (values : CriteriaValues) :
    (!anyString hasSurrogate (jsonValues values)) =
      textsAreScalar (jsonValues values) := by
  have each (value : CriteriaValue) :
      (!anyString hasSurrogate value.json) = textsAreScalar value.json := by
    cases value with
    | int number => rfl
    | bool required => rfl
    | names items =>
        rw [Bool.eq_iff_iff]
        change (!anyItemString hasSurrogate (items.map .str)) = true ↔
          textsAreScalar (.list (items.map .str)) = true
        rw [textsAreScalar_names, anyString_names, Bool.not_eq_true',
          List.any_eq_false]
        simp only [hasSurrogate, Bool.not_eq_true', Bool.not_eq_false]
  rw [Bool.eq_iff_iff, jsonValues, textsAreScalar_dict, List.forall_mem_map,
    anyString, Decoded.anyMemberString_eq, Bool.not_eq_true',
    List.any_eq_false, List.forall_mem_map]
  refine forall₂_congr fun entry member => ?_
  rw [Bool.not_eq_true, Bool.or_eq_false_iff, ← each]
  simp only [hasSurrogate, isScalarText_points, Bool.not_true, true_and,
    Bool.not_eq_true']

/-! ## Digests -/

theorem points_isAscii {text : List Char} (ascii : ∀ character ∈ text,
    character.toNat < 0x80) : isAsciiText (points text) = true := by
  rw [isAsciiText, List.all_eq_true]
  intro point member
  obtain ⟨character, inText, rfl⟩ := List.mem_map.mp member
  have low := ascii character inText
  rw [CodePoint.ofChar, CodePoint.val_ofNat (by omega)]
  exact decide_eq_true low

theorem sha256_isAscii (text : List CodePoint) :
    isAsciiText (points (env.sha256 text)) = true := by
  refine points_isAscii fun digit member => ?_
  have ascii : ∀ digit ∈ ['0', '1', '2', '3', '4', '5', '6', '7', '8', '9',
      'a', 'b', 'c', 'd', 'e', 'f'], digit.toNat < 0x80 :=
    @of_decide_eq_true _ (List.decidableBAll _ _) rfl
  exact ascii digit (env.sha256_hex text digit member)

theorem sha256OfValues_cases (values : CriteriaValues) :
    (textsAreScalar (jsonValues values) = true ∧ ∃ text,
        sha256OfValues env values = .ok (points (env.sha256 text))) ∨
      (textsAreScalar (jsonValues values) = false ∧
        sha256OfValues env values = .error .encode) := by
  have written : isScalarText (render env.floats .compact
      (jsonValues values).sortKeys) = textsAreScalar (jsonValues values) := by
    rw [isScalarText_render, Decoded.anyString_sortKeys, anyString_jsonValues]
  unfold sha256OfValues
  dsimp only
  rw [written]
  cases textsAreScalar (jsonValues values) with
  | true => exact .inl ⟨rfl, _, if_pos rfl⟩
  | false => exact .inr ⟨rfl, if_neg Bool.false_ne_true⟩

theorem contextSha256_eq (validated : IsValidated env values)
    (value : Decoded) :
    Server.contextSha256 env value values =
      Collector.contextSha256 env value values := by
  unfold Server.contextSha256 Collector.contextSha256
  rw [validated.canonicalCriteriaSha256, validated.canonicalSha256]

theorem contextSha256_eq_ok {sha256 : List CodePoint}
    (validated : IsValidated env values) :
    Collector.contextSha256 env value values = .ok sha256 ↔
      value = .str sha256 ∧ sha256OfValues env values = .ok sha256 := by
  unfold Collector.contextSha256
  dsimp only
  split
  case h_2 other =>
    refine iff_of_false nofun fun both => ?_
    exact other sha256 both.1
  case h_1 given =>
    rw [validated.canonicalSha256]
    constructor
    · intro returned
      obtain ⟨expected, isExpected, returned⟩ := Outcome.bind_eq_ok.mp returned
      obtain ⟨same, compared, returned⟩ := Outcome.bind_eq_ok.mp returned
      cases same with
      | false => cases returned
      | true =>
          cases returned
          unfold compareDigest at compared
          split at compared
          · have equal := of_decide_eq_true (Except.ok.inj compared)
            exact ⟨rfl, equal ▸ isExpected⟩
          · cases compared
    · rintro ⟨same, isExpected⟩
      cases same
      rcases @sha256OfValues_cases env values with ⟨-, text, isDigest⟩ |
        ⟨-, raises⟩
      · rw [isDigest] at isExpected
        cases isExpected
        have ascii := @sha256_isAscii env text
        rw [isDigest, Outcome.ok_bind, compareDigest, if_pos ⟨ascii, ascii⟩,
          Outcome.ok_bind, decide_eq_true rfl]
        rfl
      · rw [raises] at isExpected
        cases isExpected

/-- What a digest can be refused with. -/
theorem confined_contextSha256_iff (validated : IsValidated env values) :
    Confined IsContract (Collector.contextSha256 env value values) ↔
      ∀ sha256, value = .str sha256 →
        textsAreScalar (jsonValues values) = true ∧
          isAsciiText sha256 = true := by
  unfold Collector.contextSha256
  dsimp only
  split
  case h_2 other =>
    exact iff_of_true (Outcome.confined_error_iff.mpr rfl)
      fun sha256 same => absurd same (other sha256)
  case h_1 given =>
    rw [validated.canonicalSha256]
    have only {property : List CodePoint → Prop} :
        (∀ sha256, Decoded.str given = .str sha256 → property sha256) ↔
          property given := by
      refine ⟨fun all => all given rfl, fun holds sha256 same => ?_⟩
      cases same
      exact holds
    rw [only]
    rcases @sha256OfValues_cases env values with ⟨scalar, text, isDigest⟩ |
      ⟨surrogate, raises⟩
    · have ascii := @sha256_isAscii env text
      rw [isDigest, Outcome.ok_bind, compareDigest, and_iff_right scalar]
      simp only [ascii, and_true]
      cases given : isAsciiText given with
      | true =>
          refine iff_of_true ?_ rfl
          rw [if_pos rfl, Outcome.ok_bind]
          split
          · exact Outcome.confined_ok _
          · exact Outcome.confined_error_iff.mpr rfl
      | false =>
          refine iff_of_false ?_ Bool.false_ne_true
          rw [if_neg Bool.false_ne_true]
          exact fun confined => not_isContract_type (confined _ rfl)
    · rw [raises, surrogate]
      refine iff_of_false (fun confined => ?_) fun both => by cases both.1
      exact not_isContract_encode (confined _ rfl)

/-! ## Sources -/

/-- Every source that only allowed ones stand before can be looked up in a
set. -/
def SourcesAreHashable (sources : Decoded) : Prop :=
  ∀ members, sources = .dict members →
    hasExactKeys members Collector.valueKeys = true →
    ∀ before source after, members.map Prod.snd = before ++ source :: after →
      (∀ earlier ∈ before, earlier.isAmong allowedSources = some true) →
      (source.isAmong allowedSources).isSome = true

theorem confined_anyForbiddenSource_iff {sources : List Decoded} :
    Confined IsContract (anyForbiddenSource sources) ↔
      ∀ before source after, sources = before ++ source :: after →
        (∀ earlier ∈ before, earlier.isAmong allowedSources = some true) →
        (source.isAmong allowedSources).isSome = true := by
  induction sources with
  | nil =>
      refine iff_of_true (Outcome.confined_ok _) fun before source after split => ?_
      cases before <;> cases split
  | cons first rest ih =>
      rw [anyForbiddenSource]
      cases known : first.isAmong allowedSources with
      | none =>
          refine iff_of_false ?_ fun all => ?_
          · exact fun confined => not_isContract_type (confined _ rfl)
          · have hashable := all [] first rest rfl (List.forall_mem_nil _)
            rw [known] at hashable
            cases hashable
      | some isAllowed =>
          cases isAllowed with
          | false =>
              refine iff_of_true (Outcome.confined_ok _) ?_
              intro before source after split allowed
              cases before with
              | nil =>
                  cases split
                  rw [known]
                  rfl
              | cons head tail =>
                  cases split
                  have isAllowed := allowed first List.mem_cons_self
                  rw [known] at isAllowed
                  cases isAllowed
          | true =>
              dsimp only
              rw [ih]
              constructor
              · intro later before source after split allowed
                cases before with
                | nil =>
                    cases split
                    rw [known]
                    rfl
                | cons head tail =>
                    cases split
                    exact later tail source after rfl fun earlier member =>
                      allowed earlier (List.mem_cons_of_mem _ member)
              · intro all before source after split allowed
                subst split
                exact all (first :: before) source after rfl
                  (List.forall_mem_cons.mpr ⟨known, allowed⟩)

theorem confined_contextSources_iff {sources : Decoded} :
    Confined IsContract (Collector.contextSources sources) ↔
      SourcesAreHashable sources := by
  unfold Collector.contextSources
  dsimp only
  split
  case h_2 other =>
    exact iff_of_true (Outcome.confined_error_iff.mpr rfl)
      fun members same => absurd same (other members)
  case h_1 members =>
    have only : SourcesAreHashable (.dict members) ↔
        (hasExactKeys members Collector.valueKeys = true →
          Confined IsContract
            (anyForbiddenSource (members.map Prod.snd))) := by
      rw [confined_anyForbiddenSource_iff]
      refine ⟨fun all => all members rfl, fun holds others same => ?_⟩
      cases same
      exact holds
    rw [only, Outcome.confined_guard_iff (by exact rfl), not_not]
    refine forall_congr' fun _ => ?_
    rw [Outcome.confined_bind_iff]
    refine and_iff_left fun forbidden _ => ?_
    split
    · exact Outcome.confined_error_iff.mpr rfl
    · exact Outcome.confined_ok _

theorem contextSources_alike (validated : IsValidated env values)
    (sources : Decoded) :
    Alike CriteriaFault.kind (Server.contextSources sources values)
      (Collector.contextSources sources) := by
  unfold Server.contextSources Collector.contextSources
  split
  · rw [hasExactKeys_congr validated.mem_keys_iff]
    refine Alike.guard (fun _ => alike_contract _ _) fun _ => ?_
    refine Alike.bind (Alike.refl _) fun forbidden _ => ?_
    split
    · exact alike_contract _ _
    · exact Alike.refl _
  · exact alike_contract _ _

/-! ## Contexts -/

/-- Both validations return the same contexts and raise errors of the same
kind. -/
theorem validate_alike (value : Decoded) :
    Alike CriteriaFault.kind
      (Server.validateCriteriaExecutionContext env value)
      (Collector.validateCriteriaExecutionContext env value) := by
  unfold Server.validateCriteriaExecutionContext
    Collector.validateCriteriaExecutionContext
  split
  case h_2 => exact Alike.refl _
  case h_1 members =>
    refine Alike.guard (fun _ => Alike.refl _) fun _ => ?_
    refine (contextValues_alike _).bind fun values returned => ?_
    have validated := isValidated_of_contextValues returned
    rw [contextSha256_eq validated]
    refine Alike.bind (Alike.refl _) fun sha256 _ => ?_
    exact (contextSources_alike validated _).bind fun _ _ => Alike.refl _

theorem confined_profileParts (label : String) (id : List CodePoint)
    (members : Members) :
    Confined IsContract (profileParts label id members) := by
  have refused (message : String) : Confined IsContract
      (.error (.contract message) : Except CriteriaFault ProfileContext) :=
    Outcome.confined_error_iff.mpr rfl
  unfold profileParts
  split
  case h_2 => exact refused _
  refine Confined.guard rfl fun _ => ?_
  split
  case h_2 => exact refused _
  refine Confined.guard rfl fun _ => ?_
  split
  · exact Confined.guard rfl fun _ => Outcome.confined_ok _
  · exact refused _

theorem confined_profileContext (label : String) (value : Decoded) :
    Confined IsContract (profileContext env label value) := by
  unfold profileContext
  split
  · exact Outcome.confined_ok _
  · refine Confined.guard rfl fun _ => ?_
    dsimp only
    split
    · exact confined_map (confined_profileParts _ _ _) _
    · exact Outcome.confined_error_iff.mpr rfl
  · exact Outcome.confined_error_iff.mpr rfl

/-- What a value must be like so that its validation raises nothing but errors
of the contract: once its values are valid, no name has a lone surrogate and
the digest is a text of ASCII characters, and once the digest is that of the
values, the sources can be looked up. -/
def IsReadable (env : CriteriaEnvironment) (value : Decoded) : Prop :=
  ∀ members, value = .dict members →
    hasExactKeys members contextKeys = true →
    ∀ values, Collector.validateValues env (getItem members "values") =
      .ok values →
    ∀ sha256, getItem members "criteria_sha256" = .str sha256 →
      textsAreScalar (getItem members "values") = true ∧
      isAsciiText sha256 = true ∧
      (sha256OfValues env values = .ok sha256 →
        SourcesAreHashable (getItem members "sources"))

theorem confined_validateValues (value : Decoded) :
    Confined IsContract (Collector.validateValues env value) := by
  have server : Confined IsContract (Server.contextValues env value) := by
    refine (confined_validateCriteriaValues value).bind fun values _ => ?_
    split
    · exact Outcome.confined_ok _
    · exact Outcome.confined_error_iff.mpr rfl
  exact (confined_iff_of_alike (contextValues_alike value)).mp server

theorem isValidated_of_validateValues
    (returned : Collector.validateValues env value = .ok values) :
    IsValidated env values :=
  isValidated_of_contextValues
    ((contextValues_alike value).eq_ok_iff.mpr returned)

/-- The validation of the collector raises nothing but errors of the contract
if and only if its value is readable. -/
theorem confined_validate_iff :
    Confined IsContract
        (Collector.validateCriteriaExecutionContext env value) ↔
      IsReadable env value := by
  unfold Collector.validateCriteriaExecutionContext
  split
  case h_2 other =>
    exact iff_of_true (Outcome.confined_error_iff.mpr rfl)
      fun members same => absurd same (other members)
  case h_1 members =>
    have only : IsReadable env (.dict members) ↔
        (hasExactKeys members contextKeys = true → ∀ values,
          Collector.validateValues env (getItem members "values") =
            .ok values → ∀ sha256,
          getItem members "criteria_sha256" = .str sha256 →
            textsAreScalar (getItem members "values") = true ∧
            isAsciiText sha256 = true ∧
            (sha256OfValues env values = .ok sha256 →
              SourcesAreHashable (getItem members "sources"))) := by
      refine ⟨fun all => all members rfl, fun holds others same => ?_⟩
      cases same
      exact holds
    rw [only, Outcome.confined_guard_iff (by exact rfl), not_not]
    refine forall_congr' fun _ => ?_
    rw [(confined_validateValues _).bind_iff]
    refine forall₂_congr fun values returned => ?_
    have validated := isValidated_of_validateValues returned
    rw [Outcome.confined_bind_iff, confined_contextSha256_iff validated,
      textsAreScalar_jsonValues returned]
    simp only [contextSha256_eq_ok validated]
    have sourcesOnly (sha256 : List CodePoint) :
        Confined IsContract (do
          let sources ← Collector.contextSources (getItem members "sources")
          let organizationProfile ← profileContext env "조직 기본 기준"
            (getItem members "organization_profile")
          let personalProfile ← profileContext env "개인 기준"
            (getItem members "personal_profile")
          return (⟨values, sources, sha256, organizationProfile,
            personalProfile⟩ : CriteriaContext)) ↔
        SourcesAreHashable (getItem members "sources") := by
      rw [Outcome.confined_bind_iff, confined_contextSources_iff]
      refine and_iff_left fun sources _ => ?_
      exact (confined_profileContext _ _).bind fun _ _ =>
        (confined_profileContext _ _).bind fun _ _ => Outcome.confined_ok _
    simp only [sourcesOnly]
    constructor
    · rintro ⟨digest, sources⟩ sha256 isText
      obtain ⟨scalar, ascii⟩ := digest sha256 isText
      exact ⟨scalar, ascii, fun matched => sources sha256 ⟨isText, matched⟩⟩
    · intro all
      refine ⟨fun sha256 isText => ?_, fun sha256 both => ?_⟩
      · exact ⟨(all sha256 isText).1, (all sha256 isText).2.1⟩
      · exact (all sha256 both.1).2.2 both.2

/-! ## Agreement -/

/-- Both raise errors of the contract, or both return the same context. -/
def Agree (one other : Except CriteriaFault CriteriaContext) : Prop :=
  (∃ first second, one = .error (.contract first) ∧
      other = .error (.contract second)) ∨
    ∃ context, one = .ok context ∧ other = .ok context

theorem exists_message_of_isContract {fault : CriteriaFault}
    (isContract : IsContract fault) : ∃ message, fault = .contract message := by
  cases fault with
  | contract message => exact ⟨message, rfl⟩
  | type => exact absurd isContract not_isContract_type
  | encode => exact absurd isContract not_isContract_encode
  | value => exact absurd isContract not_isContract_value

theorem agree_iff_confined {one other : Except CriteriaFault CriteriaContext}
    (alike : Alike CriteriaFault.kind one other) :
    Agree one other ↔ Confined IsContract other := by
  constructor
  · rintro (⟨first, second, -, rfl⟩ | ⟨context, -, rfl⟩)
    · exact Outcome.confined_error_iff.mpr rfl
    · exact Outcome.confined_ok _
  · intro confined
    cases other with
    | ok context => exact .inr ⟨context, alike.eq_ok_iff.mpr rfl, rfl⟩
    | error raised =>
        have raisedContract := confined raised rfl
        have both := (confined_iff_of_alike alike).mpr confined
        cases one with
        | ok context => cases alike
        | error thrown =>
            obtain ⟨first, rfl⟩ :=
              exists_message_of_isContract (both thrown rfl)
            obtain ⟨second, rfl⟩ := exists_message_of_isContract raisedContract
            exact .inl ⟨first, second, rfl, rfl⟩

theorem agree_validate_iff (value : Decoded) :
    Agree (Server.validateCriteriaExecutionContext env value)
        (Collector.validateCriteriaExecutionContext env value) ↔
      IsReadable env value := by
  rw [agree_iff_confined (validate_alike value), confined_validate_iff]

theorem agree_decode_iff (value : List CodePoint) :
    Agree (Server.decodeCriteriaExecutionContext env value)
        (Collector.decodeCriteriaExecutionContext env value) ↔
      (value.length ≤ 16384 → ∀ document,
        transmittedDocument env value = some document →
          IsReadable env document) := by
  have refused (message : String) : Agree (.error (.contract message))
      (.error (.contract message)) := .inl ⟨message, message, rfl, rfl⟩
  unfold Server.decodeCriteriaExecutionContext
    Collector.decodeCriteriaExecutionContext decodeCriteriaExecutionContext
  by_cases long : value = [] ∨ 16384 < value.length
  · rw [if_pos long, if_pos long]
    refine iff_of_true (refused _) fun short document found => ?_
    rcases long with rfl | long
    · cases found
    · omega
  · rw [if_neg long, if_neg long]
    rw [not_or, Nat.not_lt] at long
    rw [forall_prop_of_true long.2]
    cases found : transmittedDocument env value with
    | none => exact iff_of_true (refused _) nofun
    | some document =>
        refine (agree_validate_iff document).trans ?_
        refine ⟨fun readable other same => ?_, fun all => all document rfl⟩
        cases same
        exact readable

variable {env : CriteriaEnvironment}

/-! ## Contexts that are validated again -/

/-- A profile as a validation returns it. -/
structure ProfileContext.IsWellFormed (env : CriteriaEnvironment)
    (profile : ProfileContext) : Prop where
  uuid : isUuid env profile.id = true
  folded : foldPoints (stripPoints profile.name) = profile.name
  filled : profile.name ≠ []
  short : profile.name.length ≤ 80
  positive : 1 ≤ profile.version
  digits : profile.documentSha256.length = 64
  hexadecimal : profile.documentSha256.all isLowerHex = true

/-- A context as a validation returns it. -/
structure CriteriaContext.IsWellFormed (env : CriteriaEnvironment)
    (context : CriteriaContext) : Prop where
  values : IsValidated env context.values
  digest : sha256OfValues env context.values = .ok context.criteriaSha256
  sourceKeys : hasExactKeys context.sources Collector.valueKeys = true
  sources : ∀ entry ∈ context.sources,
    entry.2.isAmong allowedSources = some true
  organization : ∀ profile ∈ context.organizationProfile,
    profile.IsWellFormed env
  personal : ∀ profile ∈ context.personalProfile, profile.IsWellFormed env

theorem getItem_cons (key other : String) (value : Decoded)
    (members : Members) :
    getItem ((points other.toList, value) :: members) key =
      if other = key then value else getItem members key := by
  unfold getItem getItemOr
  rw [List.find?_cons]
  by_cases same : other = key
  · subst same
    simp
  · have differ : points other.toList ≠ points key.toList :=
      fun equal => same (points_toList_inj.mp equal)
    simp [same, differ]

theorem hasExactKeys_of_keys {members : Members} {keys : List String}
    (same : members.map Prod.fst = keys.map fun key => points key.toList) :
    hasExactKeys members keys = true := by
  rw [hasExactKeys_iff]
  constructor
  · intro entry member
    have inMap := List.mem_map_of_mem (f := Prod.fst) member
    rw [same] at inMap
    exact List.mem_map.mp inMap
  · intro key member
    rw [same]
    exact List.mem_map_of_mem member

theorem ProfileContext.IsWellFormed.profileContext {profile : ProfileContext}
    (formed : profile.IsWellFormed env) (label : String) :
    Criteria.profileContext env label profile.document = .ok (some profile) := by
  have stripped : stripPoints profile.name ≠ [] := by
    intro empty
    have folded := formed.folded
    rw [empty] at folded
    exact formed.filled folded.symm
  have keys : hasExactKeys [
      (points "id".toList, Decoded.str profile.id),
      (points "name".toList, .str profile.name),
      (points "version".toList, .int profile.version),
      (points "document_sha256".toList, .str profile.documentSha256)]
      profileContextKeys = true := hasExactKeys_of_keys rfl
  unfold Criteria.profileContext ProfileContext.document
  dsimp only
  rw [keys, if_neg (not_not_intro rfl)]
  unfold profileParts
  simp only [getItem_cons, reduceIte, String.reduceEq, pythonStr, formed.uuid,
    stripped, false_or, Nat.not_lt_of_le formed.short,
    Int.not_lt_of_ge formed.positive, formed.digits, formed.hexadecimal,
    formed.folded, ne_eq, not_true_eq_false, if_false]
  rfl

variable {profile : Option ProfileContext}

theorem profileContext_option
    (formed : ∀ given ∈ profile, given.IsWellFormed env) (label : String) :
    profileContext env label
      ((profile.map ProfileContext.document).getD .null) = .ok profile := by
  cases profile with
  | none => rfl
  | some profile => exact (formed profile rfl).profileContext label

variable {sources : List Decoded}

theorem anyForbiddenSource_of_allowed (allowed : ∀ source ∈ sources,
      source.isAmong allowedSources = some true) :
    anyForbiddenSource sources = .ok false := by
  induction sources with
  | nil => rfl
  | cons source rest ih =>
      obtain ⟨head, tail⟩ := List.forall_mem_cons.mp allowed
      rw [anyForbiddenSource, head]
      exact ih tail

variable {context : CriteriaContext}

/-- A context that is well formed is returned as it is. -/
theorem validate_of_isWellFormed (formed : context.IsWellFormed env) :
    Collector.validateCriteriaExecutionContext env context.document =
      .ok context := by
  have values := (contextValues_alike (jsonValues context.values)).eq_ok_iff.mp
    formed.values.contextValues
  have digest := (@contextSha256_eq_ok _ (.str context.criteriaSha256) _ _
    formed.values).mpr ⟨rfl, formed.digest⟩
  have sources : Collector.contextSources (.dict context.sources) =
      .ok context.sources := by
    unfold Collector.contextSources
    dsimp only
    rw [formed.sourceKeys, if_neg (not_not_intro rfl),
      anyForbiddenSource_of_allowed (List.forall_mem_map.mpr formed.sources)]
    rfl
  have organization := profileContext_option formed.organization "조직 기본 기준"
  have personal := profileContext_option formed.personal "개인 기준"
  have keys : hasExactKeys [
      (points "values".toList, jsonValues context.values),
      (points "sources".toList, .dict context.sources),
      (points "criteria_sha256".toList, .str context.criteriaSha256),
      (points "organization_profile".toList,
        (context.organizationProfile.map ProfileContext.document).getD .null),
      (points "personal_profile".toList,
        (context.personalProfile.map ProfileContext.document).getD .null)]
      contextKeys = true := hasExactKeys_of_keys rfl
  unfold Collector.validateCriteriaExecutionContext CriteriaContext.document
  dsimp only
  rw [keys, if_neg (not_not_intro rfl)]
  simp only [getItem_cons, reduceIte, String.reduceEq, values, Outcome.ok_bind,
    digest, sources, organization, personal]
  rfl

theorem isWellFormed_of_profileContext {label : String} {value : Decoded}
    (returned : profileContext env label value = .ok profile) :
    ∀ given ∈ profile, given.IsWellFormed env := by
  unfold profileContext at returned
  split at returned
  · cases returned
    exact fun given member => absurd member (Option.not_mem_none given)
  · next members =>
      obtain ⟨-, returned⟩ := Outcome.refused_or (.error _) returned
      dsimp only at returned
      split at returned
      · next uuid =>
          cases parts : profileParts label (pythonStr env.floats
              env.isPrintable (getItem members "id")) members with
          | error raised => rw [parts] at returned; cases returned
          | ok profile =>
              rw [parts] at returned
              cases returned
              rintro given ⟨⟩
              unfold profileParts at parts
              split at parts
              case h_2 => cases parts
              case h_1 name isName =>
                obtain ⟨named, parts⟩ := Outcome.refused_or (.error _) parts
                rw [not_or, Nat.not_lt] at named
                split at parts
                case h_2 => cases parts
                case h_1 version isVersion =>
                  obtain ⟨positive, parts⟩ :=
                    Outcome.refused_or (.error _) parts
                  split at parts
                  case h_2 => cases parts
                  case h_1 sha256 isDigest =>
                    obtain ⟨digits, same⟩ :=
                      Outcome.refused_or (.error _) parts
                    cases same
                    rw [not_or, not_not, not_not] at digits
                    have shorter := (length_foldPoints_le (stripPoints name)).trans
                      (length_stripPoints_le name)
                    exact {
                      uuid
                      folded := foldPoints_stripPoints_foldPoints _
                      filled := foldPoints_ne_nil named.1
                      short := shorter.trans named.2
                      positive := Int.not_lt.mp positive
                      digits := digits.1
                      hexadecimal := digits.2 }
      · cases returned
  · cases returned

theorem allowed_of_anyForbiddenSource
    (returned : anyForbiddenSource sources = .ok false) :
    ∀ source ∈ sources, source.isAmong allowedSources = some true := by
  induction sources with
  | nil => exact List.forall_mem_nil _
  | cons source rest ih =>
      rw [anyForbiddenSource] at returned
      split at returned
      · cases returned
      · next known =>
          exact List.forall_mem_cons.mpr ⟨known, ih returned⟩
      · cases returned

theorem isWellFormed_of_validate {value : Decoded}
    (returned : Collector.validateCriteriaExecutionContext env value =
      .ok context) : context.IsWellFormed env := by
  unfold Collector.validateCriteriaExecutionContext at returned
  split at returned
  case h_2 => cases returned
  case h_1 members =>
    obtain ⟨-, returned⟩ := Outcome.refused_or (.error _) returned
    obtain ⟨values, isValues, returned⟩ := Outcome.bind_eq_ok.mp returned
    obtain ⟨sha256, isDigest, returned⟩ := Outcome.bind_eq_ok.mp returned
    obtain ⟨sources, isSources, returned⟩ := Outcome.bind_eq_ok.mp returned
    obtain ⟨organization, isOrganization, returned⟩ :=
      Outcome.bind_eq_ok.mp returned
    obtain ⟨personal, isPersonal, same⟩ := Outcome.bind_eq_ok.mp returned
    cases same
    have validated := isValidated_of_validateValues isValues
    unfold Collector.contextSources at isSources
    dsimp only at isSources
    split at isSources
    case h_2 => cases isSources
    case h_1 others _ =>
      obtain ⟨keys, isSources⟩ := Outcome.refused_or (.error _) isSources
      obtain ⟨forbidden, looked, isSources⟩ := Outcome.bind_eq_ok.mp isSources
      cases forbidden with
      | true => cases isSources
      | false =>
          cases isSources
          exact {
            values := validated
            digest := ((contextSha256_eq_ok validated).mp isDigest).2
            sourceKeys := not_not.mp keys
            sources := List.forall_mem_map.mp
              (allowed_of_anyForbiddenSource looked)
            organization := isWellFormed_of_profileContext isOrganization
            personal := isWellFormed_of_profileContext isPersonal }

/-! ## Contexts of a page -/

/-- `CriteriaSelectionKind`. -/
inductive SelectionKind where
  | kisaDefault
  | organization
  | personal
deriving DecidableEq

/-- `CriteriaProfile`, as `save_personal`, `save_organization_default` and the
constraints of its table leave it. -/
structure CriteriaProfile (env : CriteriaEnvironment) where
  /-- The fields that the page takes into the context. -/
  profile : ProfileContext
  values : CriteriaValues
  formed : profile.IsWellFormed env
  settled : ∀ entry ∈ values, IsSettled env entry

/-- One of the `effective` criteria. -/
structure EffectiveCriterion where
  key : String
  value : CriteriaValue
  source : String
deriving DecidableEq

def effectiveCriterion (organization personal : CriteriaValues)
    (definition : Server.CriterionDefinition) : EffectiveCriterion :=
  match personal.lookup definition.key with
  | some value => ⟨definition.key, value, "PERSONAL"⟩
  | none =>
      match organization.lookup definition.key with
      | some value => ⟨definition.key, value, "ORGANIZATION"⟩
      | none => ⟨definition.key, definition.officialValue, "KISA_DEFAULT"⟩

def buildEffectiveCriteria (env : CriteriaEnvironment)
    (organizationValues personalValues : CriteriaValues) :
    Except CriteriaFault (List EffectiveCriterion) := do
  let organization ← Server.validateCriteriaValues env
    (jsonValues organizationValues)
  let personal ← Server.validateCriteriaValues env (jsonValues personalValues)
  return Server.catalog.map (effectiveCriterion organization personal)

/-- The context that the page makes of `AssessmentCriteriaService.options`. -/
def pageContext (env : CriteriaEnvironment) (selectedKind : SelectionKind)
    (organizationDefault selectedPersonal : Option (CriteriaProfile env)) :
    Except CriteriaFault CriteriaContext := do
  let organization :=
    if selectedKind = .kisaDefault then none else organizationDefault
  let effective ← buildEffectiveCriteria env
    ((organization.map (·.values)).getD [])
    ((selectedPersonal.map (·.values)).getD [])
  let values := effective.map fun item => (item.key, item.value)
  let criteriaSha256 ← Server.canonicalCriteriaSha256 env (jsonValues values)
  return {
    values := values
    sources := effective.map fun item =>
      (points item.key.toList, .str (points item.source.toList))
    criteriaSha256 := criteriaSha256
    organizationProfile := organization.map (·.profile)
    personalProfile := selectedPersonal.map (·.profile) }

theorem casefoldPoints_ascii {text : List Char}
    (ascii : ∀ character ∈ text, character.toNat < 0x80) :
    casefoldPoints env (points text) = points (text.map Char.toLower) :=
  flatMap_casefold_ascii env.database ascii

theorem areNormalized_nil : AreNormalized env [] where
  toAreGathered := areGathered_nil
  ordered := List.Pairwise.nil
  few := Nat.zero_le _

theorem areNormalized_defaultServices : AreNormalized env
    (Server.defaultUnnecessaryServiceIds.map fun name => points name.toList) := by
  have ascii : ∀ name ∈ Server.defaultUnnecessaryServiceIds,
      ∀ character ∈ name.toList, character.toNat < 0x80 :=
    @of_decide_eq_true _
      (@List.decidableBAll _ _ (fun _ => List.decidableBAll _ _) _) rfl
  have lowered : (Server.defaultUnnecessaryServiceIds.map
      fun name => points name.toList).map (casefoldPoints env) =
      Server.defaultUnnecessaryServiceIds.map
        fun name => points (name.toList.map Char.toLower) := by
    rw [List.map_map]
    exact List.map_congr_left fun name member =>
      casefoldPoints_ascii (ascii name member)
  have ordered : (Server.defaultUnnecessaryServiceIds.map
      fun name => points (name.toList.map Char.toLower)).Pairwise
        (· ≤ ·) := by decide
  refine ⟨⟨?folded, ?filled, ?short, ?plain, ?distinct⟩, ?ordered, ?few⟩
  case folded => decide
  case filled => decide
  case short => decide
  case plain => decide
  case distinct =>
    rw [lowered]
    decide
  case ordered =>
    rw [← lowered, List.pairwise_map] at ordered
    exact ordered
  case few => decide

theorem criterionValue_names {definition : Server.CriterionDefinition}
    {names : List (List CodePoint)} (isList : definition.valueType = .stringList)
    (normalized : AreNormalized env names)
    (filled : ¬(definition.key = "unnecessary_service_ids" ∧ names = [])) :
    Server.criterionValue env definition (CriteriaValue.names names).json =
      .ok (.names names) := by
  unfold Server.criterionValue
  rw [isList]
  dsimp only [CriteriaValue.json]
  unfold Server.normalizeList
  rw [normalizedNames_of_areNormalized normalized, Outcome.ok_bind,
    if_neg filled]
  rfl

theorem criterionValue_official : ∀ definition ∈ Server.catalog,
    Server.criterionValue env definition definition.officialValue.json =
      .ok definition.officialValue := by
  unfold Server.catalog
  simp only [List.forall_mem_cons]
  refine ⟨rfl, rfl, rfl, rfl, ?shares, ?services, ?messengers, rfl, rfl, rfl,
    rfl, rfl, rfl, rfl, List.forall_mem_nil _⟩
  case shares =>
    refine criterionValue_names rfl areNormalized_nil fun both => ?_
    exact absurd both.1 (by decide)
  case services =>
    refine criterionValue_names rfl areNormalized_defaultServices fun both => ?_
    cases both.2
  case messengers =>
    refine criterionValue_names rfl areNormalized_nil fun both => ?_
    exact absurd both.1 (by decide)

theorem mem_of_lookup {values : CriteriaValues} {key : String}
    {value : CriteriaValue} (found : values.lookup key = some value) :
    (key, value) ∈ values := by
  induction values with
  | nil => cases found
  | cons entry values ih =>
      rw [List.lookup_cons] at found
      split at found
      · next same =>
          cases found
          rw [beq_iff_eq] at same
          subst same
          exact List.mem_cons_self
      · exact List.mem_cons_of_mem _ (ih found)

theorem findDefinition_catalog : ∀ definition ∈ Server.catalog,
    Server.findDefinition (points definition.key.toList) = some definition := by
  intro definition member
  obtain ⟨found, isFound, sameKey⟩ :=
    exists_findDefinition (List.mem_map_of_mem (f := (·.key)) member)
  have distinct : ∀ one ∈ Server.catalog, ∀ other ∈ Server.catalog,
      one.key = other.key → one = other := by decide
  rw [isFound, distinct found (findDefinition_eq_some isFound).1 definition
    member sameKey]

variable {organization personal : CriteriaValues}

theorem effectiveCriterion_settled
    (organizationSettled : ∀ entry ∈ organization, IsSettled env entry)
    (personalSettled : ∀ entry ∈ personal, IsSettled env entry)
    {definition : Server.CriterionDefinition}
    (member : definition ∈ Server.catalog) :
    (effectiveCriterion organization personal definition).key =
        definition.key ∧
      IsSettled env
        ((effectiveCriterion organization personal definition).key,
          (effectiveCriterion organization personal definition).value) ∧
      (effectiveCriterion organization personal definition).source ∈
        allowedSources := by
  have known : "PERSONAL" ∈ allowedSources ∧ "ORGANIZATION" ∈ allowedSources ∧
      "KISA_DEFAULT" ∈ allowedSources := by decide
  unfold effectiveCriterion
  split
  · next value found =>
      exact ⟨rfl, personalSettled _ (mem_of_lookup found), known.1⟩
  split
  · next value found =>
      exact ⟨rfl, organizationSettled _ (mem_of_lookup found), known.2.1⟩
  · exact ⟨rfl, ⟨definition, findDefinition_catalog definition member, rfl,
      criterionValue_official definition member⟩, known.2.2⟩

/-- The effective criteria hold every criterion, with a value that is
accepted. -/
theorem effective_validated
    (organizationSettled : ∀ entry ∈ organization, IsSettled env entry)
    (personalSettled : ∀ entry ∈ personal, IsSettled env entry) :
    IsValidated env ((Server.catalog.map (effectiveCriterion organization
      personal)).map fun item => (item.key, item.value)) := by
  constructor
  case settled =>
    simp only [List.forall_mem_map]
    exact fun definition member => (effectiveCriterion_settled
      organizationSettled personalSettled member).2.1
  case complete =>
    intro key known
    obtain ⟨definition, member, rfl⟩ := List.mem_map.mp known
    rw [List.map_map, List.map_map]
    exact List.mem_map.mpr ⟨definition, member, (effectiveCriterion_settled
      organizationSettled personalSettled member).1⟩

theorem settled_of_profile (profile : Option (CriteriaProfile env)) :
    ∀ entry ∈ (profile.map (·.values)).getD [], IsSettled env entry := by
  cases profile with
  | none => exact List.forall_mem_nil _
  | some profile => exact profile.settled

theorem isWellFormed_of_pageContext {selectedKind : SelectionKind}
    {organizationDefault selectedPersonal : Option (CriteriaProfile env)}
    (built : pageContext env selectedKind organizationDefault selectedPersonal =
      .ok context) : context.IsWellFormed env := by
  unfold pageContext at built
  dsimp only at built
  generalize (if selectedKind = SelectionKind.kisaDefault then none
    else organizationDefault) = organization at built
  have organizationSettled := settled_of_profile organization
  have personalSettled := settled_of_profile selectedPersonal
  unfold buildEffectiveCriteria at built
  rw [validateCriteriaValues_of_settled organizationSettled,
    validateCriteriaValues_of_settled personalSettled] at built
  obtain ⟨effective, isEffective, built⟩ := Outcome.bind_eq_ok.mp built
  cases isEffective
  obtain ⟨sha256, isDigest, same⟩ := Outcome.bind_eq_ok.mp built
  cases same
  have each (definition : Server.CriterionDefinition)
      (member : definition ∈ Server.catalog) :=
    effectiveCriterion_settled organizationSettled personalSettled member
  have validated := effective_validated organizationSettled personalSettled
  rw [validated.canonicalCriteriaSha256] at isDigest
  constructor
  case values => exact validated
  case digest => exact isDigest
  case sourceKeys =>
    rw [hasExactKeys_congr fun _ => mem_valueKeys_iff]
    refine hasExactKeys_of_keys ?_
    rw [Server.catalogKeys, List.map_map, List.map_map, List.map_map]
    refine List.map_congr_left fun definition member => ?_
    exact congrArg (fun key : String => points key.toList)
      (each definition member).1
  case sources =>
    simp only [List.forall_mem_map]
    intro definition member
    exact congrArg some (decide_eq_true (List.mem_map_of_mem
      (each definition member).2.2))
  case organization =>
    cases organization with
    | none => exact fun given member => absurd member (Option.not_mem_none given)
    | some profile =>
        rintro given ⟨⟩
        exact profile.formed
  case personal =>
    cases selectedPersonal with
    | none => exact fun given member => absurd member (Option.not_mem_none given)
    | some profile =>
        rintro given ⟨⟩
        exact profile.formed

end SecAI.Criteria
