/-
Module: SecAI.Criteria.Values
Purpose: The catalog of the server and the tables of the collector describe the
  same criteria, so both normalize the names and the values of a context alike.
Trusted boundary: as in the contracts
Main exports:
  normalizedNames_alike, tables_agree, criterionValue_alike, IsValidated
-/
import SecAI.Criteria.Contract

namespace SecAI.Criteria

open SecAI.Text
open Decoded (isScalarText isScalarText_points)
open Outcome (Alike Confined)

def CriteriaFault.kind : CriteriaFault → CriteriaFault
  | .contract _ => .contract ""
  | fault => fault

/-- A `CriteriaContractError`. -/
def IsContract (fault : CriteriaFault) : Prop :=
  fault.kind = .contract ""

theorem not_isContract_type : ¬IsContract .type := by rintro ⟨⟩

theorem not_isContract_encode : ¬IsContract .encode := by rintro ⟨⟩

theorem not_isContract_value : ¬IsContract .value := by rintro ⟨⟩

theorem alike_contract {α : Type} (one other : String) :
    Alike CriteriaFault.kind
      (.error (.contract one) : Except CriteriaFault α)
      (.error (.contract other)) := Alike.error rfl

theorem confined_iff_of_alike {α : Type} {one other : Except CriteriaFault α}
    (alike : Alike CriteriaFault.kind one other) :
    Confined IsContract one ↔ Confined IsContract other :=
  @Alike.confined_iff _ _ _ _ one other
    (fun kind => kind = CriteriaFault.contract "") alike

section Names

variable {env : CriteriaEnvironment} {messages : NameMessages}
  {names : List (List CodePoint)}

/-- Names that a loop over names has gathered. -/
structure AreGathered (env : CriteriaEnvironment)
    (names : List (List CodePoint)) : Prop where
  folded : ∀ name ∈ names, foldPoints (stripPoints name) = name
  filled : ∀ name ∈ names, name ≠ []
  short : ∀ name ∈ names, name.length ≤ 80
  plain : ∀ name ∈ names, name.any isForbiddenInName = false
  distinct : (names.map (casefoldPoints env)).Nodup

/-- Names that a normalization returns. -/
structure AreNormalized (env : CriteriaEnvironment)
    (names : List (List CodePoint)) : Prop extends AreGathered env names where
  ordered : names.Pairwise fun first second =>
    casefoldPoints env first ≤ casefoldPoints env second
  few : names.length ≤ 50

theorem AreGathered.of_perm {others : List (List CodePoint)}
    (gathered : AreGathered env names) (same : others.Perm names) :
    AreGathered env others where
  folded name member := gathered.folded name (same.mem_iff.mp member)
  filled name member := gathered.filled name (same.mem_iff.mp member)
  short name member := gathered.short name (same.mem_iff.mp member)
  plain name member := gathered.plain name (same.mem_iff.mp member)
  distinct := (same.map _).nodup_iff.mpr gathered.distinct

theorem areGathered_nil : AreGathered env [] where
  folded := List.forall_mem_nil _
  filled := List.forall_mem_nil _
  short := List.forall_mem_nil _
  plain := List.forall_mem_nil _
  distinct := List.nodup_nil

variable {item : Decoded} {next : List (List CodePoint)}

/-- What a round of the loop can do that raises nothing. -/
theorem addName_cases (added : addName env messages names item = .ok next) :
    ∃ text, item = .str text ∧
      ((foldPoints (stripPoints text) = [] ∧ next = names) ∨
        (casefoldPoints env (foldPoints (stripPoints text)) ∈
            names.map (casefoldPoints env) ∧ next = names) ∨
        (foldPoints (stripPoints text) ≠ [] ∧
          (foldPoints (stripPoints text)).length ≤ 80 ∧
          (foldPoints (stripPoints text)).any isForbiddenInName = false ∧
          casefoldPoints env (foldPoints (stripPoints text)) ∉
            names.map (casefoldPoints env) ∧
          next = names ++ [foldPoints (stripPoints text)])) := by
  unfold addName at added
  split at added
  case h_2 => cases added
  case h_1 text =>
    refine ⟨text, rfl, ?_⟩
    dsimp only at added
    split at added
    · next empty =>
        cases added
        exact .inl ⟨empty, rfl⟩
    rename_i filled
    split at added
    · cases added
    rename_i short
    split at added
    · cases added
    rename_i plain
    split at added
    · next known =>
        cases added
        exact .inr (.inl ⟨known, rfl⟩)
    rename_i fresh
    cases added
    exact .inr (.inr ⟨filled, Nat.le_of_not_lt short,
      eq_false_of_ne_true plain, fresh, rfl⟩)

theorem areGathered_addName (gathered : AreGathered env names)
    (added : addName env messages names item = .ok next) :
    AreGathered env next := by
  obtain ⟨text, -, ⟨-, rfl⟩ | ⟨-, rfl⟩ | ⟨filled, short, plain, fresh, rfl⟩⟩ :=
    addName_cases added
  · exact gathered
  · exact gathered
  · have folded : foldPoints (stripPoints (foldPoints (stripPoints text))) =
        foldPoints (stripPoints text) := foldPoints_stripPoints_foldPoints _
    constructor
    case folded =>
      exact List.forall_mem_append.mpr
        ⟨gathered.folded, List.forall_mem_singleton.mpr folded⟩
    case filled =>
      exact List.forall_mem_append.mpr
        ⟨gathered.filled, List.forall_mem_singleton.mpr filled⟩
    case short =>
      exact List.forall_mem_append.mpr
        ⟨gathered.short, List.forall_mem_singleton.mpr short⟩
    case plain =>
      exact List.forall_mem_append.mpr
        ⟨gathered.plain, List.forall_mem_singleton.mpr plain⟩
    case distinct =>
      rw [List.map_append, List.map_singleton, ← List.concat_eq_append,
        List.nodup_concat]
      exact ⟨fresh, gathered.distinct⟩

variable {value : Decoded}

theorem normalizedNames_eq_ok :
    normalizedNames env messages value = .ok names ↔
      ∃ source gathered, namesSource messages value = .ok source ∧
        source.foldlM (addName env messages) [] = .ok gathered ∧
        gathered.length ≤ 50 ∧
        names = Ordered.sortedBy (casefoldPoints env) gathered := by
  unfold normalizedNames
  constructor
  case mp =>
    intro normalizes
    obtain ⟨source, isSource, normalizes⟩ := Outcome.bind_eq_ok.mp normalizes
    obtain ⟨gathered, isGathered, normalizes⟩ :=
      Outcome.bind_eq_ok.mp normalizes
    split at normalizes
    · cases normalizes
    rename_i few
    cases normalizes
    exact ⟨source, gathered, isSource, isGathered, Nat.le_of_not_lt few,
      rfl⟩
  case mpr =>
    rintro ⟨source, gathered, isSource, isGathered, few, rfl⟩
    rw [isSource, Outcome.ok_bind, isGathered, Outcome.ok_bind]
    exact if_neg (Nat.not_lt_of_le few)

theorem areNormalized_of_normalizedNames
    (normalizes : normalizedNames env messages value = .ok names) :
    AreNormalized env names := by
  obtain ⟨source, gathered, -, isGathered, few, rfl⟩ :=
    normalizedNames_eq_ok.mp normalizes
  have known : AreGathered env gathered :=
    @Outcome.foldlM_invariant _ _ _ _ (fun _ names => AreGathered env names)
      (fun _ _ _ _ holds added => areGathered_addName holds added)
      source [] [] gathered areGathered_nil isGathered
  have same := Ordered.sortedBy_perm (casefoldPoints env) gathered
  exact {
    toAreGathered := known.of_perm same
    ordered := Ordered.sortedBy_pairwise _ _
    few := by rw [same.length_eq]; exact few }

theorem foldlM_addName_of_areGathered :
    ∀ {rest names : List (List CodePoint)},
      AreGathered env (names ++ rest) →
      (rest.map Decoded.str).foldlM (addName env messages) names =
        .ok (names ++ rest)
  | [], names, _ => by
      rw [List.append_nil]
      rfl
  | name :: rest, names, gathered => by
      have member : name ∈ names ++ name :: rest :=
        List.mem_append_right _ List.mem_cons_self
      have fresh : casefoldPoints env name ∉ names.map (casefoldPoints env) := by
        have distinct := gathered.distinct
        rw [List.map_append, List.map_cons, List.nodup_append] at distinct
        exact fun known =>
          distinct.2.2 _ known _ List.mem_cons_self rfl
      have added : addName env messages names (.str name) =
          .ok (names ++ [name]) := by
        unfold addName
        dsimp only
        rw [gathered.folded name member, if_neg (gathered.filled name member),
          if_neg (Nat.not_lt_of_le (gathered.short name member)),
          if_neg (by rw [gathered.plain name member]; exact Bool.false_ne_true),
          if_neg fresh]
      have later := @foldlM_addName_of_areGathered rest (names ++ [name]) (by
        rw [List.append_assoc]
        exact gathered)
      rw [List.append_assoc] at later
      rw [List.map_cons, List.foldlM_cons, added]
      exact later

theorem normalizedNames_of_areNormalized (normalized : AreNormalized env names) :
    normalizedNames env messages (.list (names.map .str)) = .ok names := by
  refine normalizedNames_eq_ok.mpr ⟨_, names, rfl, ?_, normalized.few, ?_⟩
  · exact foldlM_addName_of_areGathered normalized.toAreGathered
  · exact (Ordered.sortedBy_of_pairwise normalized.ordered).symm

theorem normalizedNames_alike (one other : NameMessages) (value : Decoded) :
    Alike CriteriaFault.kind (normalizedNames env one value)
      (normalizedNames env other value) := by
  unfold normalizedNames
  refine Alike.bind ?_ fun source _ => Alike.bind ?_ fun gathered _ => ?_
  · unfold namesSource
    split
    · exact Alike.refl _
    · exact Alike.refl _
    · exact alike_contract _ _
  · refine Alike.foldlM (fun names item => ?_) []
    unfold addName
    split
    · refine Alike.guard (fun _ => Alike.refl _) fun _ => ?_
      refine Alike.guard (fun _ => alike_contract _ _) fun _ => ?_
      refine Alike.guard (fun _ => alike_contract _ _) fun _ => ?_
      exact Alike.refl _
    · exact alike_contract _ _
  · exact Alike.guard (fun _ => alike_contract _ _) fun _ => Alike.refl _

theorem confined_normalizedNames (value : Decoded) :
    Confined IsContract (normalizedNames env messages value) := by
  unfold normalizedNames
  refine Confined.bind ?_ fun source _ => Confined.bind ?_ fun gathered _ => ?_
  · unfold namesSource
    split
    · exact Outcome.confined_ok _
    · exact Outcome.confined_ok _
    · exact Outcome.confined_error_iff.mpr rfl
  · refine Confined.foldlM (fun names item => ?_) []
    unfold addName
    split
    · dsimp only
      split_ifs
      all_goals first
        | exact Outcome.confined_ok _
        | exact Outcome.confined_error_iff.mpr rfl
    · exact Outcome.confined_error_iff.mpr rfl
  · exact Confined.guard rfl fun _ => Outcome.confined_ok _

def textsAreScalar (value : Decoded) : Bool :=
  !value.anyText hasSurrogate

@[simp] theorem textsAreScalar_str (text : List CodePoint) :
    textsAreScalar (.str text) = isScalarText text := Bool.not_not _

theorem textsAreScalar_list {items : List Decoded} :
    textsAreScalar (.list items) = true ↔
      ∀ item ∈ items, textsAreScalar item = true := by
  induction items with
  | nil => exact iff_of_true rfl (List.forall_mem_nil _)
  | cons item items ih =>
      rw [List.forall_mem_cons, ← ih]
      simp only [textsAreScalar, Decoded.anyText, Decoded.anyItemText,
        Bool.not_or, Bool.and_eq_true]

variable {point : CodePoint}

theorem scalar_of_isBlank (blank : point.isBlank = true) :
    point.isHigh = false ∧ point.isLow = false := by
  rw [← Bool.or_eq_false_iff]
  by_contra surrogate
  rw [Bool.not_eq_false] at surrogate
  rw [CodePoint.isBlank, CodePoint.shown, if_pos surrogate] at blank
  exact absurd blank (by decide)

theorem isScalarText_stripPoints (text : List CodePoint) :
    isScalarText (stripPoints text) = isScalarText text := by
  have starts := List.takeWhile_append_dropWhile
    (p := CodePoint.isBlank) (l := text)
  have ends := @List.rdropWhile_append_rtakeWhile _ CodePoint.isBlank
    (text.dropWhile CodePoint.isBlank)
  have front : isScalarText (text.takeWhile CodePoint.isBlank) = true :=
    isScalarText_iff.mpr fun point member =>
      scalar_of_isBlank (List.mem_takeWhile_imp member)
  have back : isScalarText ((text.dropWhile CodePoint.isBlank).rtakeWhile
      CodePoint.isBlank) = true :=
    isScalarText_iff.mpr fun point member =>
      scalar_of_isBlank (List.mem_rtakeWhile_imp member)
  rw [Bool.eq_iff_iff]
  conv_rhs => rw [← starts, isScalarText_append, and_iff_right front, ← ends,
    isScalarText_append, and_iff_left back]
  rfl

theorem isScalarText_name (text : List CodePoint) :
    isScalarText (foldPoints (stripPoints text)) = isScalarText text := by
  rw [← isScalarText_stripPoints text, Bool.eq_iff_iff]
  exact ⟨isScalarText_of_foldPoints, isScalarText_foldPoints⟩

theorem isScalarText_casefoldPoints (text : List CodePoint) :
    isScalarText (casefoldPoints env text) = isScalarText text := by
  induction text with
  | nil => rfl
  | cons point text ih =>
      rw [casefoldPoints, List.flatMap_cons, Bool.eq_iff_iff,
        isScalarText_append]
      change _ ∧ isScalarText (casefoldPoints env text) = true ↔ _
      rw [ih]
      cases surrogate : point.isHigh || point.isLow with
      | true =>
          rw [if_pos rfl]
          simp only [isScalarText, List.all_cons, List.all_nil, Bool.and_true,
            Bool.and_eq_true]
      | false =>
          rw [if_neg Bool.false_ne_true, and_iff_right (isScalarText_points _)]
          have scalar := Bool.or_eq_false_iff.mp surrogate
          simp [isScalarText, scalar]

/-- A round keeps the surrogates of its item, unless an equal name has
them. -/
theorem scalar_addName (added : addName env messages names item = .ok next) :
    (∀ name ∈ next, isScalarText name = true) ↔
      (∀ name ∈ names, isScalarText name = true) ∧
        textsAreScalar item = true := by
  obtain ⟨text, rfl, ⟨empty, rfl⟩ | ⟨known, rfl⟩ | ⟨-, -, -, -, rfl⟩⟩ :=
    addName_cases added
  · have scalar := isScalarText_name text
    rw [empty] at scalar
    rw [textsAreScalar_str, ← scalar]
    exact (and_iff_left rfl).symm
  · refine (and_iff_left_of_imp fun scalar => ?_).symm
    obtain ⟨name, member, same⟩ := List.mem_map.mp known
    rw [textsAreScalar_str, ← isScalarText_name,
      ← @isScalarText_casefoldPoints env, ← same,
      isScalarText_casefoldPoints]
    exact scalar name member
  · rw [List.forall_mem_append, List.forall_mem_singleton, isScalarText_name,
      textsAreScalar_str]

theorem not_isLineBreak_of_surrogate
    (surrogate : (point.isHigh || point.isLow) = true) :
    isLineBreak point.shown = false := by
  rw [CodePoint.shown, if_pos surrogate]
  decide

theorem mem_pointsWithoutReturns {text : List CodePoint}
    (member : point ∈ pointsWithoutReturns text) : point ∈ text := by
  fun_induction pointsWithoutReturns text with
  | case1 => exact member
  | case2 => exact member
  | case3 first second rest _ ih =>
      rcases List.mem_cons.mp member with rfl | later
      · exact List.mem_cons_of_mem _ List.mem_cons_self
      · exact List.mem_cons_of_mem _
          (List.mem_cons_of_mem _ (ih later))
  | case4 first second rest _ ih =>
      rcases List.mem_cons.mp member with rfl | later
      · exact List.mem_cons_self
      · exact List.mem_cons_of_mem _ (ih later)

theorem mem_pointsWithoutReturns_of_mem {text : List CodePoint}
    (kept : point.val ≠ 0xD) (member : point ∈ text) :
    point ∈ pointsWithoutReturns text := by
  fun_induction pointsWithoutReturns text with
  | case1 => exact member
  | case2 => exact member
  | case3 first second rest isReturn ih =>
      rcases List.mem_cons.mp member with rfl | later
      · exact absurd isReturn.1 kept
      · rcases List.mem_cons.mp later with rfl | behind
        · exact List.mem_cons_self
        · exact List.mem_cons_of_mem _ (ih behind)
  | case4 first second rest _ ih =>
      rcases List.mem_cons.mp member with rfl | later
      · exact List.mem_cons_self
      · exact List.mem_cons_of_mem _ (ih later)

/-- The lines of a text have its surrogates. -/
theorem scalar_pointLines_iff (text : List CodePoint) :
    (∀ line ∈ pointLines text, isScalarText line = true) ↔
      isScalarText text = true := by
  simp only [isScalarText_iff]
  constructor
  case mp =>
    intro scalar point member
    rw [← Bool.or_eq_false_iff]
    by_contra surrogate
    rw [Bool.not_eq_false] at surrogate
    have notReturn : point.val ≠ 0xD := by
      intro isReturn
      simp [CodePoint.isHigh, CodePoint.isLow, isReturn] at surrogate
    obtain ⟨line, inSplit, inLine⟩ := @mem_splitOnP_of_mem _
      (fun point : CodePoint => isLineBreak point.shown) _ _
      (mem_pointsWithoutReturns_of_mem notReturn member)
      (not_isLineBreak_of_surrogate surrogate)
    have inLines : line ∈ pointLines text := by
      rw [pointLines]
      split
      · next last =>
          obtain ⟨front, whole⟩ := List.getLast?_eq_some_iff.mp last
          rw [whole] at inSplit ⊢
          rw [List.dropLast_concat]
          rcases List.mem_append.mp inSplit with inFront | isLast
          · exact inFront
          · rw [List.mem_singleton.mp isLast] at inLine
            exact absurd inLine List.not_mem_nil
      · exact inSplit
    have plain := scalar line inLines point inLine
    rw [plain.1, plain.2] at surrogate
    cases surrogate
  case mpr =>
    intro scalar line inLines point inLine
    have inSplit : line ∈ (pointsWithoutReturns text).splitOnP fun point =>
        isLineBreak point.shown := by
      rw [pointLines] at inLines
      split at inLines
      · exact List.dropLast_subset _ inLines
      · exact inLines
    exact scalar point (mem_pointsWithoutReturns
      (not_mem_of_mem_splitOnP inSplit point inLine).2)

/-- The names of a value have its surrogates. -/
theorem scalar_normalizedNames_iff
    (normalizes : normalizedNames env messages value = .ok names) :
    (∀ name ∈ names, isScalarText name = true) ↔
      textsAreScalar value = true := by
  obtain ⟨source, gathered, isSource, isGathered, -, rfl⟩ :=
    normalizedNames_eq_ok.mp normalizes
  have fromItems := @Outcome.foldlM_invariant _ _ _ _
    (fun (items : List Decoded) names =>
      (∀ name ∈ names, isScalarText name = true) ↔
        ∀ item ∈ items, textsAreScalar item = true)
    (fun items names item next holds added => by
      rw [scalar_addName added, holds, List.forall_mem_append,
        List.forall_mem_singleton])
    source [] [] gathered (iff_of_true (List.forall_mem_nil _)
      (List.forall_mem_nil _)) isGathered
  simp only [Ordered.mem_sortedBy]
  rw [fromItems, List.nil_append]
  unfold namesSource at isSource
  split at isSource
  · next text =>
      cases isSource
      rw [List.forall_mem_map, textsAreScalar_str]
      simp only [textsAreScalar_str]
      exact scalar_pointLines_iff text
  · next items =>
      cases isSource
      exact textsAreScalar_list.symm
  · cases isSource

end Names

def Server.CriterionDefinition.range (definition : Server.CriterionDefinition) :
    Option (Int × Int) :=
  match definition.valueType, definition.minimum, definition.maximum with
  | .integer, some minimum, some maximum => some (minimum, maximum)
  | _, _, _ => none

/-- The tables of the collector have what the catalog says of a criterion. -/
structure IsTabled (definition : Server.CriterionDefinition) : Prop where
  known : definition.key ∈ Collector.valueKeys
  range : Collector.integerRanges.lookup definition.key = definition.range
  isRange : definition.valueType = .integer → definition.range.isSome = true
  boolean : definition.key ∈ Collector.booleanKeys ↔
    definition.valueType = .boolean

theorem tables_agree : ∀ definition ∈ Server.catalog, IsTabled definition := by
  intro definition member
  have known : ∀ definition ∈ Server.catalog,
      definition.key ∈ Collector.valueKeys := by decide
  have range : ∀ definition ∈ Server.catalog,
      Collector.integerRanges.lookup definition.key = definition.range := by
    decide
  have isRange : ∀ definition ∈ Server.catalog,
      definition.valueType = .integer → definition.range.isSome = true := by
    decide
  have boolean : ∀ definition ∈ Server.catalog,
      (definition.key ∈ Collector.booleanKeys ↔
        definition.valueType = .boolean) := by
    decide
  exact ⟨known definition member, range definition member,
    isRange definition member, boolean definition member⟩

theorem catalogKeys_of_valueKeys :
    ∀ key ∈ Collector.valueKeys, key ∈ Server.catalogKeys := by decide

variable {key : String}

theorem mem_valueKeys_iff :
    key ∈ Collector.valueKeys ↔ key ∈ Server.catalogKeys := by
  refine ⟨catalogKeys_of_valueKeys key, fun member => ?_⟩
  obtain ⟨definition, inCatalog, rfl⟩ := List.mem_map.mp member
  exact (tables_agree definition inCatalog).known

theorem points_toList_inj {one other : String} :
    points one.toList = points other.toList ↔ one = other := by
  refine ⟨fun same => ?_, fun same => congrArg (points ·.toList) same⟩
  exact String.toList_inj.mp (points_injective same)

theorem hasExactKeys_congr {members : Members} {keys others : List String}
    (same : ∀ key, key ∈ keys ↔ key ∈ others) :
    hasExactKeys members keys = hasExactKeys members others := by
  have sameMap (key : List CodePoint) :
      key ∈ keys.map (fun key => points key.toList) ↔
        key ∈ others.map (fun key => points key.toList) := by
    simp only [List.mem_map, same]
  simp only [hasExactKeys, sameMap]

theorem hasExactKeys_iff {members : Members} {keys : List String} :
    hasExactKeys members keys = true ↔
      (∀ entry ∈ members, ∃ key ∈ keys, points key.toList = entry.1) ∧
        ∀ key ∈ keys, points key.toList ∈ members.map Prod.fst := by
  unfold hasExactKeys
  rw [decide_eq_true_eq, List.forall_mem_map]
  simp only [List.mem_map]

variable {definition : Server.CriterionDefinition}

theorem findDefinition_eq_some {key : List CodePoint}
    (found : Server.findDefinition key = some definition) :
    definition ∈ Server.catalog ∧ key = points definition.key.toList := by
  have accepted := List.find?_some found
  exact ⟨List.mem_of_find?_eq_some found, of_decide_eq_true accepted⟩

theorem exists_findDefinition (known : key ∈ Server.catalogKeys) :
    ∃ definition, Server.findDefinition (points key.toList) = some definition ∧
      definition.key = key := by
  obtain ⟨sought, inCatalog, rfl⟩ := List.mem_map.mp known
  cases found : Server.findDefinition (points sought.key.toList) with
  | none =>
      have none := List.find?_eq_none.mp found sought inCatalog
      simp at none
  | some definition =>
      have same := (findDefinition_eq_some found).2
      exact ⟨definition, rfl, (points_toList_inj.mp same).symm⟩

theorem knownKey_points (known : key ∈ Collector.valueKeys) :
    Collector.knownKey (points key.toList) = key := by
  unfold Collector.knownKey
  cases found : Collector.valueKeys.find? fun other =>
      decide (points key.toList = points other.toList) with
  | none =>
      have none := List.find?_eq_none.mp found key known
      simp at none
  | some other =>
      have accepted := List.find?_some found
      exact (points_toList_inj.mp (of_decide_eq_true accepted)).symm

section Values

variable {env : CriteriaEnvironment}

theorem confined_normalizeList (definition : Server.CriterionDefinition)
    (value : Decoded) :
    Confined IsContract (Server.normalizeList env definition value) :=
  (confined_normalizedNames value).bind fun _ _ =>
    Confined.guard rfl fun _ => Outcome.confined_ok _

theorem confined_map {α β : Type} {computation : Except CriteriaFault α}
    (confined : Confined IsContract computation) (change : α → β) :
    Confined IsContract (computation.map change) := by
  cases computation with
  | error raised => exact Outcome.confined_error_iff.mpr (confined raised rfl)
  | ok value => exact Outcome.confined_ok _

theorem confined_criterionValue (definition : Server.CriterionDefinition)
    (value : Decoded) :
    Confined IsContract (Server.criterionValue env definition value) := by
  unfold Server.criterionValue
  split
  · split
    · exact Confined.guard rfl fun _ =>
        Confined.guard rfl fun _ => Outcome.confined_ok _
    · exact Outcome.confined_error_iff.mpr rfl
  · split
    · exact Outcome.confined_ok _
    · exact Outcome.confined_error_iff.mpr rfl
  · exact confined_map (confined_normalizeList definition value) _

theorem confined_criterionEntry (entry : List CodePoint × Decoded) :
    Confined IsContract (Server.criterionEntry env entry) := by
  unfold Server.criterionEntry
  split
  · exact Outcome.confined_error_iff.mpr rfl
  · exact (confined_criterionValue _ _).bind fun _ _ => Outcome.confined_ok _

theorem confined_validateCriteriaValues (value : Decoded) :
    Confined IsContract (Server.validateCriteriaValues env value) := by
  unfold Server.validateCriteriaValues
  split
  · exact Confined.mapM fun entry _ => confined_criterionEntry entry
  · exact Outcome.confined_error_iff.mpr rfl

/-- The value of a criterion is the same by its definition and by its key. -/
theorem criterionValue_alike (inCatalog : definition ∈ Server.catalog)
    (value : Decoded) :
    Alike CriteriaFault.kind (Server.criterionValue env definition value)
      (Collector.criterionValue env definition.key value) := by
  have tabled := tables_agree definition inCatalog
  unfold Server.criterionValue Collector.criterionValue
  rw [tabled.range]
  split
  case h_1 isInteger =>
    obtain ⟨⟨minimum, maximum⟩, isRange⟩ :=
      Option.isSome_iff_exists.mp (tabled.isRange isInteger)
    have bounds : definition.minimum = some minimum ∧
        definition.maximum = some maximum := by
      simp only [Server.CriterionDefinition.range, isInteger] at isRange
      split at isRange
      · next low high =>
          cases isRange
          exact ⟨low, high⟩
      · cases isRange
    rw [isRange, bounds.1, bounds.2]
    dsimp only
    split
    · next number =>
        simp only [Option.any_some, decide_eq_true_eq]
        by_cases low : number < minimum
        · rw [if_pos low, if_pos (.inl low)]
          exact alike_contract _ _
        rw [if_neg low]
        by_cases high : maximum < number
        · rw [if_pos high, if_pos (.inr high)]
          exact alike_contract _ _
        · rw [if_neg high, if_neg (not_or.mpr ⟨low, high⟩)]
          exact Alike.refl _
    · exact alike_contract _ _
  case h_2 isBoolean =>
    have noRange : definition.range = none := by
      simp only [Server.CriterionDefinition.range, isBoolean]
    rw [noRange, if_pos (tabled.boolean.mpr isBoolean)]
    dsimp only
    split
    · exact Alike.refl _
    · exact alike_contract _ _
  case h_3 isList =>
    have noRange : definition.range = none := by
      simp only [Server.CriterionDefinition.range, isList]
    have notBoolean : definition.key ∉ Collector.booleanKeys := by
      rw [tabled.boolean, isList]
      exact fun same => by cases same
    rw [noRange, if_neg notBoolean]
    have names := @normalizedNames_alike env
      (Server.nameMessages definition.title) Collector.nameMessages value
    have checked : Alike CriteriaFault.kind
        (Server.normalizeList env definition value) (do
          let names ← normalizedNames env Collector.nameMessages value
          if definition.key = "unnecessary_service_ids" ∧ names = [] then
            .error (.contract
              "불필요 서비스 최소 점검 범위는 한 개 이상이어야 합니다.")
          else return names) :=
      names.bind fun _ _ => Alike.refl _
    refine (checked.map CriteriaValue.names).trans (Alike.of_eq ?_)
    cases normalizedNames env Collector.nameMessages value with
    | error raised => rfl
    | ok names =>
        dsimp only [Outcome.ok_bind]
        split
        · rfl
        · rfl

theorem criterionEntry_alike {entry : List CodePoint × Decoded}
    (known : key ∈ Collector.valueKeys)
    (isKey : points key.toList = entry.1) :
    Alike CriteriaFault.kind (Server.criterionEntry env entry)
      (Collector.criterionEntry env entry) := by
  obtain ⟨definition, found, rfl⟩ :=
    exists_findDefinition (mem_valueKeys_iff.mp known)
  have inCatalog := (findDefinition_eq_some found).1
  unfold Server.criterionEntry Collector.criterionEntry
  rw [← isKey, found, knownKey_points known]
  exact (criterionValue_alike inCatalog entry.2).bind fun _ _ => Alike.refl _

/-- A value that is returned once is returned again. -/
def IsSettled (env : CriteriaEnvironment) (entry : String × CriteriaValue) :
    Prop :=
  ∃ definition, Server.findDefinition (points entry.1.toList) =
      some definition ∧ definition.key = entry.1 ∧
    Server.criterionValue env definition entry.2.json = .ok entry.2

/-- Values that a validation returned: each is settled, and every criterion has
one. -/
structure IsValidated (env : CriteriaEnvironment) (values : CriteriaValues) :
    Prop where
  settled : ∀ entry ∈ values, IsSettled env entry
  complete : ∀ key ∈ Server.catalogKeys, key ∈ values.map Prod.fst

variable {value : Decoded}

theorem normalizeList_settled {names : List (List CodePoint)}
    (normalizes : Server.normalizeList env definition value = .ok names) :
    Server.normalizeList env definition (.list (names.map .str)) =
      .ok names := by
  unfold Server.normalizeList at normalizes ⊢
  obtain ⟨normalized, returned, check⟩ := Outcome.bind_eq_ok.mp normalizes
  obtain ⟨filled, same⟩ := Outcome.refused_or (.error _) check
  cases same
  rw [normalizedNames_of_areNormalized
    (areNormalized_of_normalizedNames returned), Outcome.ok_bind,
    if_neg filled]

theorem criterionValue_settled {item : Decoded} {value : CriteriaValue}
    (returned : Server.criterionValue env definition item = .ok value) :
    Server.criterionValue env definition value.json = .ok value := by
  unfold Server.criterionValue at returned
  split at returned
  · next isInteger =>
      split at returned
      · next number =>
          obtain ⟨low, rest⟩ := Outcome.refused_or (.error _) returned
          obtain ⟨high, same⟩ := Outcome.refused_or (.error _) rest
          cases same
          unfold Server.criterionValue
          rw [isInteger]
          exact (if_neg low).trans (if_neg high)
      · cases returned
  · next isBoolean =>
      split at returned
      · cases returned
        unfold Server.criterionValue
        rw [isBoolean]
        rfl
      · cases returned
  · next isList =>
      cases normalizes : Server.normalizeList env definition item with
      | error raised => rw [normalizes] at returned; cases returned
      | ok names =>
          rw [normalizes] at returned
          cases returned
          unfold Server.criterionValue
          rw [isList]
          dsimp only [CriteriaValue.json]
          rw [normalizeList_settled normalizes]
          rfl

theorem criterionEntry_eq_ok {entry : List CodePoint × Decoded}
    {result : String × CriteriaValue}
    (returned : Server.criterionEntry env entry = .ok result) :
    points result.1.toList = entry.1 ∧ IsSettled env result := by
  unfold Server.criterionEntry at returned
  split at returned
  · cases returned
  rename_i definition found
  obtain ⟨value, isValue, same⟩ := Outcome.bind_eq_ok.mp returned
  cases same
  have isKey := (findDefinition_eq_some found).2
  refine ⟨isKey.symm, definition, ?_, rfl, criterionValue_settled isValue⟩
  rw [← isKey]
  exact found

variable {values : CriteriaValues}

theorem settled_of_validateCriteriaValues
    (returned : Server.validateCriteriaValues env value = .ok values) :
    ∃ members, value = .dict members ∧
      values.map (fun entry => points entry.1.toList) =
        members.map Prod.fst ∧
      ∀ entry ∈ values, IsSettled env entry := by
  unfold Server.validateCriteriaValues at returned
  split at returned
  · next members =>
      have paired := Outcome.mapM_eq_ok.mp returned
      refine ⟨members, rfl, ?_, ?_⟩
      · clear returned
        induction paired with
        | nil => rfl
        | cons head tail ih =>
            rw [List.map_cons, List.map_cons, ih,
              (criterionEntry_eq_ok head).1]
      · intro entry member
        obtain ⟨item, -, same⟩ := Outcome.mapM_mem returned entry member
        exact (criterionEntry_eq_ok same).2
  · cases returned

theorem isValidated_of_contextValues
    (returned : Server.contextValues env value = .ok values) :
    IsValidated env values := by
  unfold Server.contextValues at returned
  obtain ⟨normalized, isNormalized, check⟩ := Outcome.bind_eq_ok.mp returned
  split at check
  · next complete =>
      cases check
      obtain ⟨-, -, -, settled⟩ :=
        settled_of_validateCriteriaValues isNormalized
      exact ⟨settled, complete⟩
  · cases check

theorem validateCriteriaValues_of_settled
    (settled : ∀ entry ∈ values, IsSettled env entry) :
    Server.validateCriteriaValues env (jsonValues values) = .ok values := by
  unfold Server.validateCriteriaValues jsonValues
  dsimp only
  rw [Outcome.mapM_eq_ok, List.forall₂_map_left_iff, List.forall₂_same]
  intro entry member
  obtain ⟨definition, found, isKey, returned⟩ := settled entry member
  unfold Server.criterionEntry
  dsimp only
  rw [found]
  dsimp only
  rw [returned, isKey]
  rfl

theorem IsValidated.contextValues (validated : IsValidated env values) :
    Server.contextValues env (jsonValues values) = .ok values := by
  unfold Server.contextValues
  rw [validateCriteriaValues_of_settled validated.settled, Outcome.ok_bind,
    if_pos validated.complete]

theorem IsValidated.mem_keys_iff (validated : IsValidated env values)
    (key : String) :
    key ∈ values.map Prod.fst ↔ key ∈ Collector.valueKeys := by
  rw [mem_valueKeys_iff]
  refine ⟨fun member => ?_, validated.complete key⟩
  obtain ⟨entry, inValues, rfl⟩ := List.mem_map.mp member
  obtain ⟨definition, found, isKey, -⟩ := validated.settled entry inValues
  rw [← isKey]
  exact List.mem_map_of_mem (findDefinition_eq_some found).1

theorem alike_refused {α : Type} {computation : Except CriteriaFault α}
    (confined : Confined IsContract computation)
    (refused : Outcome.Refused computation) (message : String) :
    Alike CriteriaFault.kind computation (.error (.contract message)) := by
  cases computation with
  | error raised => exact Alike.error (confined raised rfl)
  | ok value => exact absurd rfl (refused value)

/-- Both modules normalize the values of a context alike. -/
theorem contextValues_alike (value : Decoded) :
    Alike CriteriaFault.kind (Server.contextValues env value)
      (Collector.validateValues env value) := by
  have confined : Confined IsContract (Server.contextValues env value) := by
    refine (confined_validateCriteriaValues value).bind fun values _ => ?_
    split
    · exact Outcome.confined_ok _
    · exact Outcome.confined_error_iff.mpr rfl
  have keysOf : ∀ values, Server.contextValues env value = .ok values →
      ∃ members, value = .dict members ∧
        hasExactKeys members Collector.valueKeys = true := by
    intro values returned
    have validated := isValidated_of_contextValues returned
    obtain ⟨normalized, isNormalized, check⟩ := Outcome.bind_eq_ok.mp returned
    split at check
    · next complete =>
        cases check
        obtain ⟨members, rfl, sameKeys, -⟩ :=
          settled_of_validateCriteriaValues isNormalized
        refine ⟨members, rfl, ?_⟩
        rw [← hasExactKeys_congr validated.mem_keys_iff, hasExactKeys_iff]
        constructor
        · intro entry member
          have inMap := List.mem_map_of_mem (f := Prod.fst) member
          rw [← sameKeys] at inMap
          obtain ⟨result, inValues, isKey⟩ := List.mem_map.mp inMap
          exact ⟨result.1, List.mem_map_of_mem inValues, isKey⟩
        · intro key member
          obtain ⟨result, inValues, rfl⟩ := List.mem_map.mp member
          rw [← sameKeys]
          exact List.mem_map.mpr ⟨result, inValues, rfl⟩
    · cases check
  unfold Collector.validateValues
  split
  case h_2 other =>
    refine alike_refused confined (fun values returned => ?_) _
    obtain ⟨members, same, -⟩ := keysOf values returned
    exact other members same
  case h_1 members =>
    cases exact : hasExactKeys members Collector.valueKeys with
    | false =>
        rw [if_pos Bool.false_ne_true]
        refine alike_refused confined (fun values returned => ?_) _
        obtain ⟨others, same, isExact⟩ := keysOf values returned
        cases same
        rw [exact] at isExact
        cases isExact
    | true =>
        rw [if_neg (not_not_intro rfl)]
        have keys := hasExactKeys_iff.mp exact
        have entries : Alike CriteriaFault.kind
            (members.mapM (Server.criterionEntry env))
            (members.mapM (Collector.criterionEntry env)) := by
          refine Alike.mapM fun entry member => ?_
          obtain ⟨key, known, isKey⟩ := keys.1 entry member
          exact criterionEntry_alike known isKey
        refine Alike.trans (Alike.of_eq ?_) entries
        unfold Server.contextValues Server.validateCriteriaValues
        dsimp only
        cases returned : members.mapM (Server.criterionEntry env) with
        | error raised => rfl
        | ok values =>
            have whole : Server.validateCriteriaValues env (.dict members) =
                .ok values := returned
            obtain ⟨others, same, sameKeys, -⟩ :=
              settled_of_validateCriteriaValues whole
            cases same
            rw [Outcome.ok_bind, if_pos]
            intro key known
            have inMembers := keys.2 key (mem_valueKeys_iff.mpr known)
            rw [← sameKeys] at inMembers
            obtain ⟨result, inValues, isKey⟩ := List.mem_map.mp inMembers
            rw [← points_toList_inj.mp isKey]
            exact List.mem_map_of_mem inValues

theorem IsValidated.canonicalCriteriaSha256
    (validated : IsValidated env values) :
    Server.canonicalCriteriaSha256 env (jsonValues values) =
      sha256OfValues env values := by
  unfold Server.canonicalCriteriaSha256
  rw [validateCriteriaValues_of_settled validated.settled, Outcome.ok_bind]

theorem IsValidated.canonicalSha256 (validated : IsValidated env values) :
    Collector.canonicalSha256 env (jsonValues values) =
      sha256OfValues env values := by
  have returned := (contextValues_alike (jsonValues values)).eq_ok_iff.mp
    validated.contextValues
  unfold Collector.canonicalSha256
  rw [returned, Outcome.ok_bind]

end Values

end SecAI.Criteria
