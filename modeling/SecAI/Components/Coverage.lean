/-
Module: SecAI.Components.Coverage
Purpose: The packages of an inventory that are looked up, and how many
  components are compared with public sources, with and without an error of the
  sources.
Trusted boundary: the Unicode database and SHA-256 are parameters
Main exports:
  Package, osvComponents, componentQueries, coverage_totals_agree_iff
-/
import Mathlib.Data.Prod.Lex
import SecAI.Components.Merge
import Mathlib.Algebra.BigOperators.Group.List.Lemmas
import Mathlib.Algebra.GroupWithZero.Nat

namespace SecAI.Components

open SecAI.Text
open Outcome (bind_eq_ok)

variable (env : ComponentEnvironment)

/-- `[-_.]`. -/
def isDash (point : CodePoint) : Bool := isOneOf ['-', '_', '.'] point

/-- `re.sub(r"[-_.]+", "-", name)`, behind a run of dashes or not. -/
def dashed (behind : Bool) : List CodePoint → List CodePoint
  | [] => []
  | point :: rest =>
      if isDash point then
        if behind then dashed true rest
        else CodePoint.ofChar '-' :: dashed true rest
      else point :: dashed false rest

def packageName (ecosystem : Ecosystem) (name : List CodePoint) :
    List CodePoint :=
  match ecosystem with
  | .pypi => casefold env (dashed false name)
  | .maven | .npm => name

/-- What `_osv_components` returns of equal packages. -/
structure Package where
  ecosystem : Ecosystem
  name : List CodePoint
  version : List CodePoint
  componentType : ComponentType
  scopes : List ComponentScope
  sources : List ComponentSource
deriving DecidableEq

/-- `_OSV_ECOSYSTEM_ORDER`. -/
def Ecosystem.order : Ecosystem → Nat
  | .maven => 0
  | .npm => 1
  | .pypi => 2

def packageComponents (components : List Component) :
    List (Ecosystem × Component) :=
  components.filterMap fun component =>
    component.componentType.ecosystem.map fun ecosystem =>
      (ecosystem, component)

def osvKey (item : Ecosystem × Component) :
    Ecosystem × List CodePoint × List CodePoint :=
  (item.1, casefold env (packageName env item.1 item.2.name), item.2.version)

def Package.key (package : Package) :
    Ecosystem × List CodePoint × List CodePoint :=
  (package.ecosystem, casefold env package.name, package.version)

/-- `if member not in members: members.append(member); members.sort(key=str)`. -/
def insertSorted {α : Type} [DecidableEq α] (text : α → String)
    (members : List α) (member : α) : List α :=
  if member ∈ members then members
  else Ordered.sortedBy (fun other => points (text other).toList)
    (members ++ [member])

def packageRule : Gathered.Rule (Ecosystem × Component) Package
    (Ecosystem × List CodePoint × List CodePoint) where
  itemKey := osvKey env
  rowKey := Package.key env
  create := fun item => {
    ecosystem := item.1
    name := packageName env item.1 item.2.name
    version := item.2.version
    componentType := item.2.componentType
    scopes := [item.2.scope]
    sources := [item.2.source] }
  change := fun package item => { package with
    scopes := insertSorted ComponentScope.text package.scopes item.2.scope
    sources :=
      insertSorted ComponentSource.text package.sources item.2.source }
  create_key := fun _ => rfl
  change_key := fun _ _ _ => rfl

def maxOsvComponents : Nat := 500

def Package.order (package : Package) :
    Nat ×ₗ (List CodePoint ×ₗ List CodePoint) :=
  toLex (package.ecosystem.order,
    toLex (casefold env package.name, package.version))

def osvComponents (values : List Decoded) :
    Except ComponentFault (List Package) := do
  let components ← values.mapM componentOf
  let packages :=
    Gathered.gather (packageRule env) (packageComponents components)
  if maxOsvComponents < packages.length then
    throw (.value "Too many package components for one OSV query.")
  else return Ordered.sortedBy (Package.order env) packages

variable {env} {components : List Component} {packages : List Package}

theorem mem_packageComponents {item : Ecosystem × Component} :
    item ∈ packageComponents components ↔ item.2 ∈ components ∧
      item.2.componentType.ecosystem = some item.1 := by
  obtain ⟨ecosystem, component⟩ := item
  rw [packageComponents, List.mem_filterMap]
  constructor
  · rintro ⟨other, member, isItem⟩
    obtain ⟨found, isFound, same⟩ := Option.map_eq_some_iff.mp isItem
    cases same
    exact ⟨member, isFound⟩
  · rintro ⟨member, isEcosystem⟩
    refine ⟨component, member, ?_⟩
    rw [isEcosystem]
    rfl

def packageCount (env : ComponentEnvironment) (components : List Component) :
    Nat :=
  ((packageComponents components).map (osvKey env)).dedup.length

/-- Accepted components have packages when there are not too many. -/
theorem osvComponents_eq_ok_iff
    (accepted : ∀ component ∈ components,
      componentOf component.document = .ok component) :
    osvComponents env (components.map Component.document) = .ok packages ↔
      packageCount env components ≤ maxOsvComponents ∧
      packages = Ordered.sortedBy (Package.order env)
        (Gathered.gather (packageRule env) (packageComponents components)) := by
  have count : (Gathered.gather (packageRule env)
      (packageComponents components)).length = packageCount env components :=
    Gathered.length_gather
  unfold osvComponents
  rw [mapM_document accepted, Outcome.ok_bind]
  dsimp only
  rw [count]
  split
  · next many =>
      constructor
      · intro done
        cases done
      · rintro ⟨few, -⟩
        omega
  · next few =>
      constructor
      · intro done
        exact ⟨Nat.le_of_not_lt few, (Except.ok.inj done).symm⟩
      · rintro ⟨-, rfl⟩
        rfl

theorem length_osvComponents
    (accepted : ∀ component ∈ components,
      componentOf component.document = .ok component)
    (found : osvComponents env (components.map Component.document) =
      .ok packages) : packages.length = packageCount env components := by
  obtain ⟨-, rfl⟩ := (osvComponents_eq_ok_iff accepted).mp found
  rw [(Ordered.sortedBy_perm _ _).length_eq]
  exact Gathered.length_gather

theorem mem_osvComponents_iff
    (accepted : ∀ component ∈ components,
      componentOf component.document = .ok component)
    (found : osvComponents env (components.map Component.document) =
      .ok packages) {package : Package} :
    package ∈ packages ↔ package ∈
      Gathered.gather (packageRule env) (packageComponents components) := by
  obtain ⟨-, rfl⟩ := (osvComponents_eq_ok_iff accepted).mp found
  exact Ordered.mem_sortedBy

variable {items : List (Ecosystem × Component)}

/-- A package has the name of a component, and components of its key are in
front of it. -/
theorem package_of_gather {package : Package}
    (member : package ∈ Gathered.gather (packageRule env) items) :
    ∃ item ∈ items, osvKey env item = package.key env ∧
      package.ecosystem = item.1 ∧
      package.name = packageName env item.1 item.2.name ∧
      package.version = item.2.version := by
  obtain ⟨first, rest, group, isPackage⟩ := Gathered.mem_gather_iff.mp member
  have inGroup : first ∈ Gathered.ofKey (packageRule env)
      ((packageRule env).rowKey package) items := by
    rw [group]
    exact List.mem_cons_self
  obtain ⟨isItem, sameKey⟩ := Gathered.mem_ofKey.mp inGroup
  have kept : ∀ (group : List (Ecosystem × Component)) (row : Package),
      (group.foldl (packageRule env).change row).ecosystem = row.ecosystem ∧
      (group.foldl (packageRule env).change row).name = row.name ∧
      (group.foldl (packageRule env).change row).version = row.version := by
    intro group
    induction group with
    | nil => exact fun row => ⟨rfl, rfl, rfl⟩
    | cons next more ih =>
        intro row
        exact ih _
  obtain ⟨ecosystem, name, version⟩ :=
    kept rest ((packageRule env).create first)
  rw [← isPackage] at ecosystem name version
  exact ⟨first, isItem, sameKey, ecosystem, name, version⟩

theorem exists_package_of_component {item : Ecosystem × Component}
    (member : item ∈ items) :
    ∃ package ∈ Gathered.gather (packageRule env) items,
      package.key env = osvKey env item := by
  have known : osvKey env item ∈
      (Gathered.gather (packageRule env) items).map (Package.key env) :=
    (@Gathered.mem_gather_keys _ _ _ _ (packageRule env) _ _).mpr
      (List.mem_map_of_mem member)
  exact List.mem_map.mp known

theorem package_eq_of_key {first second : Package}
    (inFirst : first ∈ Gathered.gather (packageRule env) items)
    (inSecond : second ∈ Gathered.gather (packageRule env) items)
    (same : first.key env = second.key env) : first = second :=
  List.inj_on_of_nodup_map
    (@Gathered.nodup_gather_keys _ _ _ _ (packageRule env) _) inFirst
    inSecond same

def IsAscii (text : List CodePoint) : Prop :=
  ∃ characters : List Char, text = points characters ∧
    ∀ character ∈ characters, character.toNat < 128

theorem casefold_points {text : List Char}
    (ascii : ∀ character ∈ text, character.toNat < 128) :
    casefold env (points text) = points (text.map Char.toLower) :=
  flatMap_casefold_ascii env.database ascii

theorem isDash_ofChar (character : Char) :
    isDash (CodePoint.ofChar character) =
      decide (character ∈ ['-', '_', '.']) := by
  rw [Bool.eq_iff_iff, isDash, isOneOf, List.any_eq_true, decide_eq_true_eq]
  simp only [decide_eq_true_eq, CodePoint.ofChar_injective.eq_iff,
    exists_eq_right']

theorem toNat_toLower (character : Char) :
    character.toLower.toNat =
      if 65 ≤ character.toNat ∧ character.toNat ≤ 90 then character.toNat + 32
      else character.toNat := by
  delta Char.toLower
  split
  · next upper =>
      have first : 65 ≤ character.toNat := upper.1
      have last : character.toNat ≤ 90 := upper.2
      rw [if_pos ⟨first, last⟩]
      change (character.val + ('a'.val - 'A'.val)).toNat = _
      rw [UInt32.toNat_add]
      exact Nat.mod_eq_of_lt (by change character.toNat + 32 < _; omega)
  · next notUpper => exact (if_neg notUpper).symm

theorem toLower_toLower (character : Char) :
    character.toLower.toLower = character.toLower := by
  apply Char.toNat_inj.mp
  rw [toNat_toLower, if_neg]
  rw [toNat_toLower]
  split <;> omega

theorem toLower_eq_dash {character dash : Char}
    (isDash : dash ∈ ['-', '_', '.']) :
    character.toLower = dash ↔ character = dash := by
  have notLetter : dash.toNat ≤ 95 ∧
      ¬(65 ≤ dash.toNat ∧ dash.toNat ≤ 90) := by
    simp only [List.mem_cons, List.not_mem_nil, or_false] at isDash
    rcases isDash with rfl | rfl | rfl <;> decide
  rw [← Char.toNat_inj, ← Char.toNat_inj, toNat_toLower]
  split <;> omega

theorem isDash_toLower (character : Char) :
    isDash (CodePoint.ofChar character.toLower) =
      isDash (CodePoint.ofChar character) := by
  rw [isDash_ofChar, isDash_ofChar]
  apply decide_eq_decide.mpr
  simp [toLower_eq_dash]

/-- The case of a text does not matter for its dashes. -/
theorem casefold_dashed {text : List Char}
    (ascii : ∀ character ∈ text, character.toNat < 128) :
    ∀ behind, casefold env (dashed behind (points text)) =
      dashed behind (casefold env (points text)) := by
  rw [casefold_points ascii]
  induction text with
  | nil => exact fun _ => rfl
  | cons character text ih =>
      obtain ⟨low, rest⟩ := List.forall_mem_cons.mp ascii
      have one : ∀ {character : Char}, character.toNat < 128 →
          ∀ more, casefold env (CodePoint.ofChar character :: more) =
            CodePoint.ofChar character.toLower :: casefold env more := by
        intro character low more
        have alone := @casefold_points env [character]
          (List.forall_mem_singleton.mpr low)
        rw [casefold, List.flatMap_cons]
        rw [casefold, points, List.map_singleton, List.flatMap_cons,
          List.flatMap_nil, List.append_nil] at alone
        rw [alone]
        rfl
      intro behind
      change casefold env (dashed behind (CodePoint.ofChar character ::
        points text)) = dashed behind (CodePoint.ofChar character.toLower ::
          points (text.map Char.toLower))
      rw [dashed, dashed, isDash_toLower]
      split
      · split
        · exact ih rest true
        · rw [one (by decide), ih rest true]
          rfl
      · rw [one low, ih rest false]

theorem toNat_of_isAlphanum {character : Char}
    (alphanumeric : character.isAlphanum = true) : character.toNat < 128 := by
  delta Char.isAlphanum Char.isAlpha Char.isUpper Char.isLower Char.isDigit
    at alphanumeric
  simp only [Bool.or_eq_true, Bool.and_eq_true, decide_eq_true_eq]
    at alphanumeric
  rcases alphanumeric with (⟨-, last⟩ | ⟨-, last⟩) | ⟨-, last⟩
  · have small : character.toNat ≤ 90 := last
    omega
  · have small : character.toNat ≤ 122 := last
    omega
  · have small : character.toNat ≤ 57 := last
    omega

def IsAsciiPoint (point : CodePoint) : Prop :=
  ∃ character : Char, point = CodePoint.ofChar character ∧
    character.toNat < 128

theorem isAsciiPoint_of_isWordPoint {point : CodePoint}
    (word : isWordPoint point = true) : IsAsciiPoint point := by
  unfold isWordPoint CodePoint.shown at word
  split at word
  · exact absurd word (by decide)
  rename_i plain
  have scalar : (Char.ofNat point.val).toNat = point.val := by
    rw [Bool.or_eq_true, not_or, CodePoint.isHigh, CodePoint.isLow,
      decide_eq_true_eq, decide_eq_true_eq] at plain
    have bound := point.isLt
    rw [Char.ofNat, dif_pos]
    · rfl
    · by_cases low : point.val < 0xD800
      · exact .inl low
      · exact .inr ⟨by omega, bound⟩
  refine ⟨Char.ofNat point.val, ?_, toNat_of_isAlphanum word⟩
  apply Fin.ext
  rw [CodePoint.val_ofChar, scalar]

theorem isAsciiPoint_of_isOneOf {characters : List Char} {point : CodePoint}
    (ascii : characters.all (fun character => decide (character.toNat < 128)) =
      true) (isOne : isOneOf characters point = true) : IsAsciiPoint point := by
  rw [isOneOf, List.any_eq_true] at isOne
  obtain ⟨character, member, same⟩ := isOne
  exact ⟨character, of_decide_eq_true same,
    of_decide_eq_true (List.all_eq_true.mp ascii character member)⟩

variable {name : List CodePoint}

theorem ascii_of_isUnscopedName (unscoped : isUnscopedName name = true) :
    ∀ point ∈ name, IsAsciiPoint point := by
  intro point member
  rw [isUnscopedName, Bool.and_eq_true, List.all_eq_true] at unscoped
  rcases (Bool.or_eq_true _ _).mp (unscoped.2 point member) with word | isOne
  · exact isAsciiPoint_of_isWordPoint word
  · exact isAsciiPoint_of_isOneOf (by decide) isOne

/-- The names of Python and Node packages are ASCII. -/
theorem ascii_of_isPackageName (named : isPackageName name = true) :
    ∀ point ∈ name, IsAsciiPoint point := by
  unfold isPackageName at named
  split at named
  · next marked =>
      obtain ⟨rest, rfl⟩ : ∃ rest, name = CodePoint.ofChar '@' :: rest :=
        List.head?_eq_some_iff.mp marked
      dsimp only [List.tail_cons] at named
      simp only [Bool.and_eq_true, decide_eq_true_eq, List.all_eq_true]
        at named
      obtain ⟨⟨⟨-, inScope⟩, slash⟩, unscoped⟩ := named
      have scopeRest := List.takeWhile_append_dropWhile
        (p := fun point => decide (point ≠ CodePoint.ofChar '/')) (l := rest)
      generalize rest.takeWhile (fun point =>
        decide (point ≠ CodePoint.ofChar '/')) = scope at *
      generalize rest.dropWhile (fun point =>
        decide (point ≠ CodePoint.ofChar '/')) = behind at *
      subst scopeRest
      have slash : (scope ++ behind)[scope.length]? =
          some (CodePoint.ofChar '/') := of_decide_eq_true slash
      rw [List.getElem?_append_right (Nat.le_refl _), Nat.sub_self,
        ← List.head?_eq_getElem?, List.head?_eq_some_iff] at slash
      obtain ⟨unscopedName, rfl⟩ := slash
      rw [← List.drop_drop, List.drop_left, List.drop_one, List.tail_cons]
        at unscoped
      intro point member
      simp only [List.mem_cons, List.mem_append] at member
      rcases member with rfl | isScope | rfl | later
      · exact ⟨'@', rfl, by decide⟩
      · rcases (Bool.or_eq_true _ _).mp (inScope point isScope) with
          word | isOne
        · exact isAsciiPoint_of_isWordPoint word
        · exact isAsciiPoint_of_isOneOf (by decide) isOne
      · exact ⟨'/', rfl, by decide⟩
      · exact ascii_of_isUnscopedName unscoped point later
  · exact ascii_of_isUnscopedName named

theorem isAscii_of_points (ascii : ∀ point ∈ name, IsAsciiPoint point) :
    IsAscii name := by
  induction name with
  | nil => exact ⟨[], rfl, List.forall_mem_nil _⟩
  | cons point rest ih =>
      obtain ⟨⟨character, rfl, low⟩, others⟩ := List.forall_mem_cons.mp ascii
      obtain ⟨characters, rfl, lows⟩ := ih others
      exact ⟨character :: characters, rfl, List.forall_mem_cons.mpr
        ⟨low, lows⟩⟩

/-- A Python package has a name of ASCII. -/
theorem isAscii_of_accepted {component : Component}
    (accepted : componentOf component.document = .ok component)
    (isPackage : component.componentType = .pythonPackage) :
    IsAscii component.name := by
  obtain ⟨-, -, -, -, -, -, -, -, identity⟩ := componentOf_parts accepted
  rw [checkIdentity, isPackage, if_neg (by decide)] at identity
  split at identity
  · cases identity
  dsimp only [ComponentType.ecosystem] at identity
  split at identity
  · cases identity
  · next named =>
      exact isAscii_of_points (ascii_of_isPackageName
        (Bool.eq_true_of_not_eq_false named))

theorem packageName_pypi (ascii : IsAscii name) :
    packageName env .pypi name = dashed false (casefold env name) := by
  obtain ⟨characters, rfl, low⟩ := ascii
  exact casefold_dashed low false

theorem casefold_packageName_pypi (ascii : IsAscii name) :
    casefold env (packageName env .pypi name) = packageName env .pypi name := by
  obtain ⟨characters, rfl, low⟩ := ascii
  have lowered : ∀ character ∈ characters.map Char.toLower,
      character.toNat < 128 := by
    intro character member
    obtain ⟨upper, isUpper, rfl⟩ := List.mem_map.mp member
    have small := low upper isUpper
    rw [toNat_toLower]
    split <;> omega
  rw [packageName_pypi ⟨characters, rfl, low⟩, casefold_points low,
    casefold_dashed lowered, casefold_points lowered, List.map_map]
  congr 2
  apply List.map_congr_left
  exact fun character _ => toLower_toLower character

theorem ecosystem_eq_pypi {componentType : ComponentType}
    (isPypi : componentType.ecosystem = some .pypi) :
    componentType = .pythonPackage := by
  cases componentType <;> first | rfl | cases isPypi

/-- Packages whose names differ in case only are one. -/
theorem osvKey_of_casefold {first second : Ecosystem × Component}
    (accepted : componentOf first.2.document = .ok first.2)
    (alsoAccepted : componentOf second.2.document = .ok second.2)
    (isPackage : first.2.componentType.ecosystem = some first.1)
    (sameType : first.2.componentType = second.2.componentType)
    (sameEcosystem : first.1 = second.1)
    (sameName : casefold env first.2.name = casefold env second.2.name)
    (sameVersion : first.2.version = second.2.version) :
    osvKey env first = osvKey env second := by
  unfold osvKey
  rw [sameVersion, ← sameEcosystem]
  cases isEcosystem : first.1 with
  | maven => exact congrArg (fun name => (_, name, _)) sameName
  | npm => exact congrArg (fun name => (_, name, _)) sameName
  | pypi =>
      rw [isEcosystem] at isPackage
      have isPython := ecosystem_eq_pypi isPackage
      rw [packageName_pypi (isAscii_of_accepted accepted isPython),
        packageName_pypi (isAscii_of_accepted alsoAccepted
          (sameType ▸ isPython)), sameName]

variable (env : ComponentEnvironment)

/-! ## Reasons -/

/-- Why components are not compared. -/
inductive Reason where
  | productMappingRequired
  | updateEvidenceOnly
  | sourceError
deriving DecidableEq

def Reason.text : Reason → String
  | .productMappingRequired => "PRODUCT_MAPPING_REQUIRED"
  | .updateEvidenceOnly => "UPDATE_EVIDENCE_ONLY"
  | .sourceError => "SOURCE_ERROR"

/-- `reason_labels`. -/
def Reason.label : Reason → String
  | .productMappingRequired => "제품 식별정보 매핑 필요"
  | .updateEvidenceOnly => "운영체제 수정 적용성 증적"
  | .sourceError => "공개자료 비교 오류"

def Reason.order : Reason → Nat
  | .productMappingRequired => 0
  | .updateEvidenceOnly => 1
  | .sourceError => 2

/-- `_COMPONENT_TYPE_LABELS`. -/
def ComponentType.label : ComponentType → String
  | .windowsProgram => "Windows 설치 프로그램"
  | .windowsAppx => "Microsoft Store 앱"
  | .windowsKb => "Windows 업데이트 증적"
  | .pythonPackage => "Python 라이브러리"
  | .nodePackage => "Node.js 라이브러리"
  | .javaPackage => "Java 라이브러리"

/-- The reason that components of a type are not compared, if there is one. -/
def reasonOf (sourceError : Bool) (componentType : ComponentType) :
    Option Reason :=
  if componentType.ecosystem.isSome ∧ ¬sourceError then none
  else if componentType.ecosystem.isSome then some .sourceError
  else if componentType = .windowsKb then some .updateEvidenceOnly
  else some .productMappingRequired

/-! ## Coverage -/

/-- The key of `unique_components`. -/
def uniqueKey (component : Component) :
    ComponentType × List CodePoint × List CodePoint × List CodePoint :=
  (component.componentType, casefold env component.name, component.version,
    casefold env component.publisher)

/-- `unique_components[key] = component`. -/
def uniqueRule : Gathered.Rule Component Component
    (ComponentType × List CodePoint × List CodePoint × List CodePoint) where
  itemKey := uniqueKey env
  rowKey := uniqueKey env
  create := id
  change := fun _ component => component
  create_key := fun _ => rfl
  change_key := fun _ _ same => same.symm

def uniqueComponents (components : List Component) : List Component :=
  Gathered.gather (uniqueRule env) components

/-- An item of `breakdown_counts`. -/
structure BreakdownCount where
  reason : Reason
  componentType : ComponentType
  count : Nat

/-- `breakdown_counts.get(key, 0) + 1`. -/
def breakdownRule :
    Gathered.Rule (Reason × ComponentType) BreakdownCount
      (Reason × ComponentType) where
  itemKey := id
  rowKey := fun row => (row.reason, row.componentType)
  create := fun key => ⟨key.1, key.2, 1⟩
  change := fun row _ => { row with count := row.count + 1 }
  create_key := fun _ => rfl
  change_key := fun _ _ _ => rfl

def unassessedReasons (sourceError : Bool) (components : List Component) :
    List (Reason × ComponentType) :=
  (uniqueComponents env components).filterMap fun component =>
    (reasonOf sourceError component.componentType).map fun reason =>
      (reason, component.componentType)

/-- What `component_comparison_coverage` returns. -/
structure Coverage where
  assessedComponentCount : Nat
  unassessedComponentCount : Nat
  mappingRequiredCount : Nat
  evidenceOnlyCount : Nat
  unassessedBreakdown : List Decoded

/-- An item of `unassessed_breakdown`. -/
def BreakdownCount.document (row : BreakdownCount) : Decoded :=
  .dict [
    (points "reason_code".toList, .str (points row.reason.text.toList)),
    (points "reason_label".toList, .str (points row.reason.label.toList)),
    (points "component_type".toList,
      .str (points row.componentType.text.toList)),
    (points "component_type_label".toList,
      .str (points row.componentType.label.toList)),
    (points "count".toList, .int row.count)]

def totalCount (rows : List BreakdownCount) : Nat :=
  (rows.map BreakdownCount.count).sum

def componentComparisonCoverage (inventory : Members) (sourceError : Bool) :
    Except ComponentFault Coverage := do
  let normalized ← validateInventory env inventory
  let values := normalized.components.map Component.document
  let components ← values.mapM componentOf
  let assessed ← if sourceError then pure 0
    else (osvComponents env values).map List.length
  let counts := Gathered.gather breakdownRule
    (unassessedReasons env sourceError components)
  return {
    assessedComponentCount := assessed
    unassessedComponentCount := totalCount counts
    mappingRequiredCount := totalCount (counts.filter fun row =>
      decide (row.reason = .productMappingRequired))
    evidenceOnlyCount := totalCount (counts.filter fun row =>
      decide (row.reason = .updateEvidenceOnly))
    unassessedBreakdown := (Ordered.sortedBy (fun row : BreakdownCount =>
      toLex (row.reason.order, points row.componentType.label.toList))
        counts).map BreakdownCount.document }

variable {env} {components : List Component}

theorem totalCount_gather (keys : List (Reason × ComponentType)) :
    totalCount (Gathered.gather breakdownRule keys) = keys.length := by
  have each : ∀ row ∈ Gathered.gather breakdownRule keys,
      row.count = keys.countP fun key =>
        decide (key = (row.reason, row.componentType)) := by
    intro row member
    obtain ⟨first, rest, group, isRow⟩ := Gathered.mem_gather_iff.mp member
    have counted : ∀ (group : List (Reason × ComponentType))
        (row : BreakdownCount), (group.foldl breakdownRule.change row).count =
          row.count + group.length := by
      intro group
      induction group with
      | nil => exact fun _ => rfl
      | cons key more ih =>
          intro row
          rw [List.foldl_cons, ih, List.length_cons]
          change row.count + 1 + more.length = _
          omega
    have whole := counted rest (breakdownRule.create first)
    rw [← isRow] at whole
    have size : (first :: rest).length = keys.countP fun key =>
        decide (key = (row.reason, row.componentType)) := by
      rw [← group, Gathered.ofKey, List.countP_eq_length_filter]
      rfl
    rw [whole, ← size, List.length_cons, Nat.add_comm]
    rfl
  have distinct : ((Gathered.gather breakdownRule keys).map
      breakdownRule.rowKey).Perm keys.dedup := by
    rw [List.perm_ext_iff_of_nodup Gathered.nodup_gather_keys
      (List.nodup_dedup _)]
    intro key
    rw [Gathered.mem_gather_keys, List.mem_dedup]
    change key ∈ keys.map id ↔ _
    rw [List.map_id]
  have counts : (Gathered.gather breakdownRule keys).map BreakdownCount.count =
      ((Gathered.gather breakdownRule keys).map breakdownRule.rowKey).map
        fun key => keys.countP fun other => decide (other = key) := by
    rw [List.map_map]
    exact List.map_congr_left each
  rw [totalCount, counts, (distinct.map _).sum_eq]
  exact List.sum_map_count_dedup_eq_length keys

theorem length_unassessedReasons (sourceError : Bool) :
    (unassessedReasons env sourceError components).length =
      (uniqueComponents env components).countP fun component =>
        (reasonOf sourceError component.componentType).isSome := by
  rw [unassessedReasons]
  induction uniqueComponents env components with
  | nil => rfl
  | cons component rest ih =>
      rw [List.countP_cons, ← ih]
      cases found : reasonOf sourceError component.componentType with
      | none => simp [found]
      | some reason => simp [found]

theorem reasonOf_isSome (componentType : ComponentType) :
    (reasonOf true componentType).isSome = true ∧
      (reasonOf false componentType).isSome =
        !componentType.ecosystem.isSome := by
  cases componentType <;> exact ⟨rfl, rfl⟩

/-- As many of the unique components have a package as there are unique keys
of components with one. -/
theorem countP_unique_packages :
    ((uniqueComponents env components).countP fun component =>
      component.componentType.ecosystem.isSome) =
      ((packageComponents components).map fun item =>
        uniqueKey env item.2).dedup.length := by
  rw [List.countP_eq_length_filter, ← List.length_map (uniqueKey env)]
  apply List.Perm.length_eq
  have distinct : ((uniqueComponents env components).map
      (uniqueKey env)).Nodup :=
    @Gathered.nodup_gather_keys _ _ _ _ (uniqueRule env) _
  rw [List.perm_ext_iff_of_nodup
    (distinct.sublist (List.filter_sublist.map _)) (List.nodup_dedup _)]
  intro key
  have known : key ∈ (uniqueComponents env components).map (uniqueKey env) ↔
      key ∈ components.map (uniqueKey env) :=
    @Gathered.mem_gather_keys _ _ _ _ (uniqueRule env) _ _
  rw [List.mem_dedup]
  constructor
  · intro member
    obtain ⟨row, inFilter, rfl⟩ := List.mem_map.mp member
    obtain ⟨isRow, isPackage⟩ := List.mem_filter.mp inFilter
    obtain ⟨component, isComponent, sameKey⟩ :=
      List.mem_map.mp (known.mp (List.mem_map_of_mem isRow))
    have sameType : component.componentType = row.componentType :=
      congrArg Prod.fst sameKey
    obtain ⟨ecosystem, isEcosystem⟩ := Option.isSome_iff_exists.mp isPackage
    exact List.mem_map.mpr ⟨(ecosystem, component),
      mem_packageComponents.mpr ⟨isComponent, sameType ▸ isEcosystem⟩, sameKey⟩
  · intro member
    obtain ⟨item, isItem, rfl⟩ := List.mem_map.mp member
    obtain ⟨isComponent, isEcosystem⟩ := mem_packageComponents.mp isItem
    obtain ⟨row, isRow, sameKey⟩ :=
      List.mem_map.mp (known.mpr (List.mem_map_of_mem isComponent))
    have sameType : row.componentType = item.2.componentType :=
      congrArg Prod.fst sameKey
    refine List.mem_map.mpr ⟨row, List.mem_filter.mpr ⟨isRow, ?_⟩, sameKey⟩
    rw [sameType, isEcosystem]
    rfl

variable {inventory : Members} {normalized : Inventory}

/-- What the coverage of a valid inventory counts. -/
theorem coverage_of_valid
    (valid : validateInventory env inventory = .ok normalized) :
    (∃ failed, componentComparisonCoverage env inventory true = .ok failed ∧
      failed.assessedComponentCount = 0 ∧
      failed.unassessedComponentCount =
        (uniqueComponents env normalized.components).length) ∧
    ∀ assessed unassessed,
      (∃ healthy, componentComparisonCoverage env inventory false =
        .ok healthy ∧ healthy.assessedComponentCount = assessed ∧
        healthy.unassessedComponentCount = unassessed) ↔
      packageCount env normalized.components ≤ maxOsvComponents ∧
      packageCount env normalized.components = assessed ∧
      ((uniqueComponents env normalized.components).countP fun component =>
        !component.componentType.ecosystem.isSome) = unassessed := by
  have accepted := (isFormed_of_validate valid).components
  have parses := mapM_document accepted
  unfold componentComparisonCoverage
  rw [valid]
  constructor
  · refine ⟨_, bind_eq_ok.mpr ⟨_, rfl, bind_eq_ok.mpr ⟨_, parses,
      bind_eq_ok.mpr ⟨0, rfl, rfl⟩⟩⟩, rfl, ?_⟩
    dsimp only
    rw [totalCount_gather, length_unassessedReasons, List.countP_eq_length]
    exact fun component _ => (reasonOf_isSome _).1
  · intro assessed unassessed
    have uncounted : totalCount (Gathered.gather breakdownRule
        (unassessedReasons env false normalized.components)) =
        (uniqueComponents env normalized.components).countP fun component =>
          !component.componentType.ecosystem.isSome := by
      rw [totalCount_gather, length_unassessedReasons]
      exact List.countP_congr fun component _ => by
        rw [(reasonOf_isSome component.componentType).2]
    constructor
    · rintro ⟨healthy, done, rfl, rfl⟩
      obtain ⟨_, ⟨⟩, done⟩ := bind_eq_ok.mp done
      obtain ⟨parsed, isParsed, done⟩ := bind_eq_ok.mp done
      obtain rfl := Except.ok.inj (parses.symm.trans isParsed)
      obtain ⟨count, isCount, done⟩ := bind_eq_ok.mp done
      obtain rfl := Except.ok.inj done
      cases found : osvComponents env
          (normalized.components.map Component.document) with
      | error raised =>
          rw [found] at isCount
          cases isCount
      | ok packages =>
          rw [found] at isCount
          obtain rfl := Except.ok.inj isCount
          exact ⟨((osvComponents_eq_ok_iff accepted).mp found).1,
            (length_osvComponents accepted found).symm, uncounted.symm⟩
    · rintro ⟨few, rfl, rfl⟩
      have found := (osvComponents_eq_ok_iff accepted).mpr ⟨few, rfl⟩
      refine ⟨_, bind_eq_ok.mpr ⟨_, rfl, bind_eq_ok.mpr ⟨_, parses,
        bind_eq_ok.mpr ⟨_, congrArg (Except.map List.length) found, rfl⟩⟩⟩,
        length_osvComponents accepted found, uncounted⟩

theorem componentType_eq_of_ecosystem {first second : ComponentType}
    {ecosystem : Ecosystem} (isFirst : first.ecosystem = some ecosystem)
    (isSecond : second.ecosystem = some ecosystem) : first = second := by
  cases first <;> cases isFirst <;> cases second <;>
    first | rfl | cases isSecond

/-- The totals are the same with and without an error of the sources. -/
def TotalsAgree (env : ComponentEnvironment) (inventory : Members) : Prop :=
  ∃ healthy failed,
    componentComparisonCoverage env inventory false = .ok healthy ∧
    componentComparisonCoverage env inventory true = .ok failed ∧
    healthy.assessedComponentCount + healthy.unassessedComponentCount =
      failed.assessedComponentCount + failed.unassessedComponentCount

theorem totalsAgree_iff
    (valid : validateInventory env inventory = .ok normalized) :
    TotalsAgree env inventory ↔
      packageCount env normalized.components ≤ maxOsvComponents ∧
      packageCount env normalized.components =
        ((packageComponents normalized.components).map fun item =>
          uniqueKey env item.2).dedup.length := by
  obtain ⟨⟨failed, fails, none, all⟩, healthy⟩ := coverage_of_valid valid
  have parts := List.length_eq_countP_add_countP
    (fun component : Component => component.componentType.ecosystem.isSome)
    (l := uniqueComponents env normalized.components)
  rw [countP_unique_packages] at parts
  have others : ((uniqueComponents env normalized.components).countP
      fun component => decide ¬component.componentType.ecosystem.isSome =
        true) =
      (uniqueComponents env normalized.components).countP fun component =>
        !component.componentType.ecosystem.isSome := by
    apply List.countP_congr
    simp
  rw [others] at parts
  constructor
  · rintro ⟨reported, other, done, failsToo, same⟩
    obtain rfl := Except.ok.inj (fails.symm.trans failsToo)
    obtain ⟨few, counted, uncounted⟩ :=
      (healthy _ _).mp ⟨reported, done, rfl, rfl⟩
    refine ⟨few, ?_⟩
    omega
  · rintro ⟨few, counted⟩
    obtain ⟨reported, done, assessed, unassessed⟩ :=
      (healthy _ _).mpr ⟨few, rfl, rfl⟩
    refine ⟨reported, failed, done, fails, ?_⟩
    omega

/-- The totals agree when the packages are not too many, and components of one
package have the same name and the same publisher, their case apart. -/
theorem coverage_totals_agree_iff {inventory : Members}
    {normalized : Inventory}
    (valid : validateInventory env inventory = .ok normalized) :
    TotalsAgree env inventory ↔
      packageCount env normalized.components ≤ maxOsvComponents ∧
      ∀ first ∈ packageComponents normalized.components,
        ∀ second ∈ packageComponents normalized.components,
          osvKey env first = osvKey env second →
            casefold env first.2.name = casefold env second.2.name ∧
            casefold env first.2.publisher = casefold env second.2.publisher := by
  have accepted := (isFormed_of_validate valid).components
  have determines : ∀ first ∈ packageComponents normalized.components,
      ∀ second ∈ packageComponents normalized.components,
        uniqueKey env first.2 = uniqueKey env second.2 →
          osvKey env first = osvKey env second := by
    intro first inFirst second inSecond same
    obtain ⟨isFirst, firstEcosystem⟩ := mem_packageComponents.mp inFirst
    obtain ⟨isSecond, secondEcosystem⟩ := mem_packageComponents.mp inSecond
    obtain ⟨sameType, sameName, sameVersion, -⟩ :
        first.2.componentType = second.2.componentType ∧
        casefold env first.2.name = casefold env second.2.name ∧
        first.2.version = second.2.version ∧
        casefold env first.2.publisher = casefold env second.2.publisher := by
      simpa only [uniqueKey, Prod.mk.injEq] using same
    have sameEcosystem : first.1 = second.1 := by
      rw [sameType, secondEcosystem] at firstEcosystem
      exact (Option.some.inj firstEcosystem).symm
    exact osvKey_of_casefold (accepted _ isFirst) (accepted _ isSecond)
      firstEcosystem sameType sameEcosystem sameName sameVersion
  rw [totalsAgree_iff valid]
  apply and_congr_right
  intro _
  rw [packageCount, Gathered.length_dedup_eq_iff determines]
  apply forall₂_congr
  intro first inFirst
  apply forall₂_congr
  intro second inSecond
  apply imp_congr_right
  intro same
  have sameEcosystem : first.1 = second.1 := (Prod.ext_iff.mp same).1
  have sameVersion : first.2.version = second.2.version :=
    (Prod.ext_iff.mp (Prod.ext_iff.mp same).2).2
  have sameType : first.2.componentType = second.2.componentType :=
    componentType_eq_of_ecosystem (mem_packageComponents.mp inFirst).2
      (sameEcosystem ▸ (mem_packageComponents.mp inSecond).2)
  rw [uniqueKey, uniqueKey]
  simp only [Prod.mk.injEq, sameType, sameVersion, true_and]

/-! ## Queries -/

/-- One of the queries of a batch. -/
structure Query where
  ecosystem : Ecosystem
  name : List CodePoint
  version : List CodePoint
deriving DecidableEq

def Package.query (package : Package) : Query :=
  ⟨package.ecosystem, package.name, package.version⟩

/-- The queries that `fetch_components` posts. -/
def componentQueries (env : ComponentEnvironment) (values : List Decoded) :
    Except ComponentFault (List Query) := do
  let packages ← osvComponents env values
  if packages = [] then
    throw (.source "OSV로 비교할 지원 package가 없습니다.")
  else return packages.map Package.query

/-- A query is posted for components. -/
def Queried (env : ComponentEnvironment) (components : List Component)
    (query : Query) : Prop :=
  ∃ queries, componentQueries env (components.map Component.document) =
    .ok queries ∧ query ∈ queries

theorem queried_iff (accepted : ∀ component ∈ components,
      componentOf component.document = .ok component) {query : Query} :
    Queried env components query ↔
      packageCount env components ≤ maxOsvComponents ∧
      ∃ package ∈ Gathered.gather (packageRule env)
          (packageComponents components), package.query = query := by
  unfold Queried componentQueries
  constructor
  · rintro ⟨queries, done, member⟩
    obtain ⟨packages, found, done⟩ := bind_eq_ok.mp done
    split at done
    · cases done
    obtain rfl := Except.ok.inj done
    obtain ⟨package, isPackage, isQuery⟩ := List.mem_map.mp member
    exact ⟨((osvComponents_eq_ok_iff accepted).mp found).1, package,
      (mem_osvComponents_iff accepted found).mp isPackage, isQuery⟩
  · rintro ⟨few, package, isPackage, isQuery⟩
    have found := (osvComponents_eq_ok_iff accepted).mpr ⟨few, rfl⟩
    have member := (mem_osvComponents_iff accepted found).mpr isPackage
    refine ⟨_, bind_eq_ok.mpr ⟨_, found, if_neg ?_⟩,
      List.mem_map.mpr ⟨package, member, isQuery⟩⟩
    exact List.ne_nil_of_mem member

def suppliedComponents (inventory : Members) :
    Except ComponentFault (List Component) := do
  let raw ← rawComponents (getItem inventory "components")
  raw.mapM componentOf

theorem components_of_valid
    (valid : validateInventory env inventory = .ok normalized)
    (supplied : suppliedComponents inventory = .ok components) :
    normalized.components = indexedComponents env components ∧
      ∀ component ∈ components,
        componentOf component.document = .ok component := by
  obtain ⟨⟨⟩, -, valid⟩ := bind_eq_ok.mp valid
  obtain ⟨base, isBase, valid⟩ := bind_eq_ok.mp valid
  obtain ⟨raw, isRaw, valid⟩ := bind_eq_ok.mp valid
  obtain ⟨parsed, parses, valid⟩ := bind_eq_ok.mp valid
  obtain ⟨collection, isCollection, valid⟩ := bind_eq_ok.mp valid
  obtain ⟨sha256, isDigest, valid⟩ := bind_eq_ok.mp valid
  obtain ⟨⟨⟩, -, valid⟩ := bind_eq_ok.mp valid
  obtain rfl := Except.ok.inj valid
  obtain ⟨other, isOther, suppliedToo⟩ := bind_eq_ok.mp supplied
  obtain rfl := Except.ok.inj (isRaw.symm.trans isOther)
  obtain rfl := Except.ok.inj (parses.symm.trans suppliedToo)
  refine ⟨rfl, ?_⟩
  intro component member
  obtain ⟨item, -, parsesItem⟩ := Outcome.mapM_mem parses component member
  exact componentOf_document parsesItem

/-- One of the components that are kept stands for every component. -/
theorem exists_indexed {component : Component}
    (member : component ∈ components) :
    ∃ kept ∈ indexedComponents env components,
      kept.componentType = component.componentType ∧
      casefold env kept.name = casefold env component.name ∧
      kept.version = component.version := by
  have known : component.key env ∈
      (Gathered.gather (indexedRule env) components).map (Component.key env) :=
    (@Gathered.mem_gather_keys _ _ _ _ (indexedRule env) _ _).mpr
      (List.mem_map_of_mem member)
  obtain ⟨kept, isKept, sameKey⟩ := List.mem_map.mp known
  simp only [Component.key, List.cons.injEq, Criteria.points_toList_inj] at sameKey
  obtain ⟨sameType, sameName, sameVersion, -⟩ := sameKey
  refine ⟨kept, Ordered.mem_sortedBy.mpr isKept, ?_, sameName, sameVersion⟩
  cases first : kept.componentType <;>
    cases second : component.componentType <;>
    first
    | rfl
    | (rw [first, second] at sameType
       exact absurd sameType (by decide))

/-- The packages of the components that are kept are those of all. -/
theorem exists_indexed_package (accepted : ∀ component ∈ components,
      componentOf component.document = .ok component)
    {item : Ecosystem × Component}
    (member : item ∈ packageComponents components) :
    ∃ kept ∈ packageComponents (indexedComponents env components),
      osvKey env kept = osvKey env item := by
  obtain ⟨isComponent, isEcosystem⟩ := mem_packageComponents.mp member
  obtain ⟨kept, isKept, sameType, sameName, sameVersion⟩ :=
    @exists_indexed env _ _ isComponent
  have keptEcosystem : kept.componentType.ecosystem = some item.1 := by
    rw [sameType]
    exact isEcosystem
  exact ⟨(item.1, kept), mem_packageComponents.mpr ⟨isKept, keptEcosystem⟩,
    osvKey_of_casefold (accepted kept (mem_indexedComponents isKept))
      (accepted _ isComponent) keptEcosystem sameType rfl sameName sameVersion⟩

theorem mem_of_indexed_package {item : Ecosystem × Component}
    (member : item ∈ packageComponents (indexedComponents env components)) :
    item ∈ packageComponents components := by
  obtain ⟨isComponent, isEcosystem⟩ := mem_packageComponents.mp member
  exact mem_packageComponents.mpr
    ⟨mem_indexedComponents isComponent, isEcosystem⟩

theorem packageCount_indexed (accepted : ∀ component ∈ components,
      componentOf component.document = .ok component) :
    packageCount env (indexedComponents env components) =
      packageCount env components := by
  apply Gathered.length_dedup_congr
  intro key
  constructor
  · intro known
    obtain ⟨item, member, rfl⟩ := List.mem_map.mp known
    exact List.mem_map_of_mem (mem_of_indexed_package member)
  · intro known
    obtain ⟨item, member, rfl⟩ := List.mem_map.mp known
    obtain ⟨kept, isKept, sameKey⟩ := exists_indexed_package accepted member
    exact List.mem_map.mpr ⟨kept, isKept, sameKey⟩

/-- Equal Maven and npm packages of one version have names that are equal in
every letter. -/
def NamesAgree (env : ComponentEnvironment) (components : List Component) :
    Prop :=
  ∀ first ∈ packageComponents components,
    ∀ second ∈ packageComponents components, first.1 ≠ .pypi →
      osvKey env first = osvKey env second → first.2.name = second.2.name

/-- Packages of one key have one name. -/
theorem packageName_of_key (accepted : ∀ component ∈ components,
      componentOf component.document = .ok component)
    (agree : NamesAgree env components) {first second : Ecosystem × Component}
    (inFirst : first ∈ packageComponents components)
    (inSecond : second ∈ packageComponents components)
    (same : osvKey env first = osvKey env second) :
    packageName env first.1 first.2.name =
      packageName env second.1 second.2.name := by
  have sameEcosystem : first.1 = second.1 := (Prod.ext_iff.mp same).1
  have sameName := (Prod.ext_iff.mp (Prod.ext_iff.mp same).2).1
  have agrees := agree first inFirst second inSecond
  obtain ⟨isFirst, firstEcosystem⟩ := mem_packageComponents.mp inFirst
  obtain ⟨isSecond, secondEcosystem⟩ := mem_packageComponents.mp inSecond
  dsimp only [osvKey] at sameName
  rw [← sameEcosystem] at sameName secondEcosystem ⊢
  cases isEcosystem : first.1 with
  | maven => exact agrees (by rw [isEcosystem]; decide) same
  | npm => exact agrees (by rw [isEcosystem]; decide) same
  | pypi =>
      rw [isEcosystem] at sameName firstEcosystem secondEcosystem
      rw [← casefold_packageName_pypi (isAscii_of_accepted
          (accepted _ isFirst) (ecosystem_eq_pypi firstEcosystem)),
        ← casefold_packageName_pypi (isAscii_of_accepted
          (accepted _ isSecond) (ecosystem_eq_pypi secondEcosystem))]
      exact sameName

theorem queried_indexed_iff (accepted : ∀ component ∈ components,
      componentOf component.document = .ok component)
    (agree : NamesAgree env components) {query : Query} :
    Queried env (indexedComponents env components) query ↔
      packageCount env components ≤ maxOsvComponents ∧
      ∃ item ∈ packageComponents components,
        query = ⟨item.1, packageName env item.1 item.2.name,
          item.2.version⟩ := by
  rw [queried_iff fun component member =>
    accepted component (mem_indexedComponents member),
    packageCount_indexed accepted]
  apply and_congr_right
  intro _
  constructor
  · rintro ⟨package, isPackage, rfl⟩
    obtain ⟨item, member, -, ecosystem, name, version⟩ :=
      package_of_gather isPackage
    refine ⟨item, mem_of_indexed_package member, ?_⟩
    rw [Package.query, ecosystem, name, version]
  · rintro ⟨item, member, rfl⟩
    obtain ⟨kept, isKept, sameKey⟩ := exists_indexed_package accepted member
    obtain ⟨package, isPackage, packageKey⟩ :=
      exists_package_of_component isKept
    obtain ⟨source, isSource, sourceKey, ecosystem, name, version⟩ :=
      package_of_gather isPackage
    have whole : osvKey env source = osvKey env item :=
      sourceKey.trans (packageKey.trans sameKey)
    refine ⟨package, isPackage, ?_⟩
    rw [Package.query, ecosystem, name, version, packageName_of_key accepted
      agree (mem_of_indexed_package isSource) member whole]
    have sameEcosystem : source.1 = item.1 := (Prod.ext_iff.mp whole).1
    have sameVersion : source.2.version = item.2.version :=
      (Prod.ext_iff.mp (Prod.ext_iff.mp whole).2).2
    rw [sameEcosystem, sameVersion]

/-- Every Maven and npm package has a query of its own, and an inventory with
the same components in another order has the same queries. -/
def QueriesEach (env : ComponentEnvironment) (normalized : Inventory)
    (components : List Component) : Prop :=
  (∀ item ∈ packageComponents components, item.1 ≠ .pypi →
    Queried env normalized.components
      ⟨item.1, item.2.name, item.2.version⟩) ∧
  ∀ other otherNormalized otherComponents,
    validateInventory env other = .ok otherNormalized →
    suppliedComponents other = .ok otherComponents →
    otherComponents.Perm components → ∀ query,
      Queried env otherNormalized.components query ↔
        Queried env normalized.components query

/-- Every package is queried, in every order, when no two Maven or npm packages
of one version have names that differ in case only, and the packages are not
too many. -/
theorem every_package_is_queried_iff {inventory : Members}
    {normalized : Inventory}
    (valid : validateInventory env inventory = .ok normalized)
    (supplied : suppliedComponents inventory = .ok components) :
    QueriesEach env normalized components ↔
      NamesAgree env components ∧
      ((∃ item ∈ packageComponents components, item.1 ≠ .pypi) →
        packageCount env components ≤ maxOsvComponents) := by
  obtain ⟨kept, accepted⟩ := components_of_valid valid supplied
  have named : ∀ {item : Ecosystem × Component}, item.1 ≠ .pypi →
      packageName env item.1 item.2.name = item.2.name := by
    intro item notPypi
    cases isEcosystem : item.1 with
    | maven => rfl
    | npm => rfl
    | pypi => exact absurd isEcosystem notPypi
  unfold QueriesEach
  rw [kept]
  constructor
  · rintro ⟨each, -⟩
    constructor
    · intro first inFirst second inSecond notPypi same
      have sameEcosystem : first.1 = second.1 := (Prod.ext_iff.mp same).1
      have acceptedKept : ∀ component ∈ indexedComponents env components,
          componentOf component.document = .ok component :=
        fun component member => accepted component
          (mem_indexedComponents member)
      obtain ⟨-, one, isOne, oneQuery⟩ :=
        (queried_iff acceptedKept).mp (each first inFirst notPypi)
      obtain ⟨-, other, isOther, otherQuery⟩ :=
        (queried_iff acceptedKept).mp
          (each second inSecond (sameEcosystem ▸ notPypi))
      have keyOf : ∀ {package : Package} {item : Ecosystem × Component},
          item.1 ≠ .pypi → package.query = ⟨item.1, item.2.name,
            item.2.version⟩ → package.key env = osvKey env item := by
        intro package item notPypi isQuery
        simp only [Package.query, Query.mk.injEq] at isQuery
        rw [Package.key, osvKey, isQuery.1, isQuery.2.1, isQuery.2.2,
          named notPypi]
      have oneKey := keyOf notPypi oneQuery
      have otherKey := keyOf (sameEcosystem ▸ notPypi) otherQuery
      have samePackage := package_eq_of_key isOne isOther
        (oneKey.trans (same.trans otherKey.symm))
      rw [samePackage, otherQuery] at oneQuery
      exact (congrArg Query.name oneQuery).symm
    · rintro ⟨item, member, notPypi⟩
      obtain ⟨few, -⟩ := (queried_iff fun component inKept =>
        accepted component (mem_indexedComponents inKept)).mp
          (each item member notPypi)
      rwa [packageCount_indexed accepted] at few
  · rintro ⟨agree, few⟩
    constructor
    · intro item member notPypi
      refine (queried_indexed_iff accepted agree).mpr
        ⟨few ⟨item, member, notPypi⟩, item, member, ?_⟩
      rw [named notPypi]
    · intro other otherNormalized others otherValid otherSupplied same query
      obtain ⟨otherKept, otherAccepted⟩ :=
        components_of_valid otherValid otherSupplied
      have items : ∀ item, item ∈ packageComponents others ↔
          item ∈ packageComponents components := by
        intro item
        rw [mem_packageComponents, mem_packageComponents, same.mem_iff]
      have otherAgree : NamesAgree env others :=
        fun first inFirst second inSecond =>
          agree first ((items first).mp inFirst) second
            ((items second).mp inSecond)
      have count : packageCount env others = packageCount env components := by
        apply Gathered.length_dedup_congr
        intro key
        simp only [List.mem_map, items]
      rw [otherKept, queried_indexed_iff otherAccepted otherAgree,
        queried_indexed_iff accepted agree, count]
      simp only [items]

def installedPackage (name publisher : String) : Component where
  componentType := .nodePackage
  name := points name.toList
  version := points "1.0".toList
  publisher := points publisher.toList
  source := .npmPackageJson
  scope := .installed

/-- An inventory with components, of which some are counted. -/
def inventoryOf (supplied counted : List Component) : Members :=
  exampleInventory.take 5 ++ [
    (points "components".toList, .list (supplied.map Component.document)),
    (points "collection".toList, .dict [
      (points "status".toList, literalText "COMPLETE"),
      (points "truncated".toList, .bool false),
      (points "errors".toList, .list []),
      (points "counts".toList, .dict (componentCounts counted))])]

theorem components_of_map {kept : List Component}
    (known : (validateInventory plainEnvironment inventory).map
      Inventory.components = .ok kept) :
    ∃ normalized, validateInventory plainEnvironment inventory =
      .ok normalized ∧ normalized.components = kept := by
  cases valid : validateInventory plainEnvironment inventory with
  | error raised =>
      rw [valid] at known
      cases known
  | ok normalized =>
      rw [valid] at known
      exact ⟨normalized, rfl, Except.ok.inj known⟩

def publishedTwice : List Component :=
  [installedPackage "left" "one", installedPackage "left" "two"]

theorem publishedTwice_kept : ∃ normalized,
    validateInventory plainEnvironment
      (inventoryOf publishedTwice publishedTwice) = .ok normalized ∧
    normalized.components = publishedTwice :=
  components_of_map (by decide +kernel)

/-- The totals of one package of two publishers differ. -/
theorem totals_of_two_publishers :
    (validateInventory plainEnvironment
      (inventoryOf publishedTwice publishedTwice)).isOk = true ∧
    ¬TotalsAgree plainEnvironment
      (inventoryOf publishedTwice publishedTwice) := by
  obtain ⟨normalized, valid, kept⟩ := publishedTwice_kept
  refine ⟨valid ▸ rfl, ?_⟩
  rw [totalsAgree_iff valid, kept]
  decide +kernel

theorem left_kept : ∃ normalized, validateInventory plainEnvironment
    (inventoryOf [installedPackage "left" ""] [installedPackage "left" ""]) =
      .ok normalized ∧
    normalized.components = [installedPackage "left" ""] :=
  components_of_map (by decide +kernel)

/-- The totals of one package agree. -/
theorem totals_of_one_package : TotalsAgree plainEnvironment
    (inventoryOf [installedPackage "left" ""]
      [installedPackage "left" ""]) := by
  obtain ⟨normalized, valid, kept⟩ := left_kept
  refine (coverage_totals_agree_iff valid).mpr ?_
  rw [kept]
  refine ⟨by decide, ?_⟩
  intro first inFirst second inSecond _
  obtain rfl : first = (.npm, installedPackage "left" "") :=
    List.mem_singleton.mp inFirst
  obtain rfl : second = (.npm, installedPackage "left" "") :=
    List.mem_singleton.mp inSecond
  exact ⟨rfl, rfl⟩

theorem one_package_is_queried : ∃ normalized, validateInventory
    plainEnvironment (inventoryOf [installedPackage "left" ""]
      [installedPackage "left" ""]) = .ok normalized ∧
    QueriesEach plainEnvironment normalized [installedPackage "left" ""] := by
  obtain ⟨normalized, valid, -⟩ := left_kept
  have supplied : suppliedComponents (inventoryOf
      [installedPackage "left" ""] [installedPackage "left" ""]) =
      .ok [installedPackage "left" ""] := by decide
  refine ⟨normalized, valid,
    (every_package_is_queried_iff valid supplied).mpr ⟨?_, fun _ => by decide⟩⟩
  intro first inFirst second inSecond _ _
  obtain rfl : first = (.npm, installedPackage "left" "") :=
    List.mem_singleton.mp inFirst
  obtain rfl : second = (.npm, installedPackage "left" "") :=
    List.mem_singleton.mp inSecond
  rfl

/-- Of two packages whose names differ in case, one is not queried. -/
theorem case_variant_is_not_queried : ∃ normalized,
    validateInventory plainEnvironment (inventoryOf
      [installedPackage "Left" "", installedPackage "left" ""]
      [installedPackage "left" ""]) = .ok normalized ∧
    suppliedComponents (inventoryOf
      [installedPackage "Left" "", installedPackage "left" ""]
      [installedPackage "left" ""]) =
        .ok [installedPackage "Left" "", installedPackage "left" ""] ∧
    ¬QueriesEach plainEnvironment normalized
      [installedPackage "Left" "", installedPackage "left" ""] := by
  obtain ⟨normalized, valid, kept⟩ := @components_of_map (inventoryOf
    [installedPackage "Left" "", installedPackage "left" ""]
    [installedPackage "left" ""]) [installedPackage "left" ""]
    (by decide +kernel)
  refine ⟨normalized, valid, by decide, ?_⟩
  rintro ⟨each, -⟩
  have queried := each (.npm, installedPackage "Left" "")
    List.mem_cons_self (by decide)
  rw [kept, queried_iff (List.forall_mem_singleton.mpr (by decide))]
    at queried
  exact absurd queried.2 (by decide +kernel)

end SecAI.Components
