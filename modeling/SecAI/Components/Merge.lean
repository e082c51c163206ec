/-
Module: SecAI.Components.Merge
Purpose: The inventory of installed components, its validation, and when the
  merge of components from lock files succeeds and can be repeated.
Trusted boundary: the Unicode database and SHA-256 are parameters
Main exports:
  Component, validateInventory, mergeSupplementalComponents, merge_eq_ok_iff
-/
import SecAI.Common.Gathered
import SecAI.Criteria.WellFormed
import SecAI.Explanation.InstructionGuard

namespace SecAI.Components

open SecAI.Text
open SecAI.Criteria (hasExactKeys)
open SecAI.Explanation (textMatches)

/-- What the functions on components raise. -/
inductive ComponentFault where
  /-- `ValueError`. -/
  | value (message : String)
  /-- `SecAICanonicalizationError`. -/
  | canonical
  /-- `ComponentVulnerabilitySourceError`. -/
  | source (message : String)
  /-- `TypeError`, `AttributeError` or `KeyError`, of a malformed item. -/
  | malformed
deriving DecidableEq

/-- What the inventories are read with. -/
structure ComponentEnvironment where
  database : CharacterDatabase
  /-- The digest of a value that has a canonical form. -/
  sha256 : Decoded → List CodePoint

variable (env : ComponentEnvironment)

def canonicalSha256 (value : Decoded) :
    Except ComponentFault (List CodePoint) :=
  if value.isRepresentable then .ok (env.sha256 value) else .error .canonical

/-- `text.casefold()`; a lone surrogate stays as it is. -/
def casefold (text : List CodePoint) : List CodePoint :=
  text.flatMap fun point =>
    if point.isHigh || point.isLow then [point]
    else points (env.database.casefold point.shown)

/-! ## Kinds of components -/

/-- `_COMPONENT_TYPES`, sorted. -/
inductive ComponentType where
  | javaPackage
  | nodePackage
  | pythonPackage
  | windowsAppx
  | windowsKb
  | windowsProgram
deriving DecidableEq

def ComponentType.all : List ComponentType :=
  [.javaPackage, .nodePackage, .pythonPackage, .windowsAppx, .windowsKb,
    .windowsProgram]

def ComponentType.text : ComponentType → String
  | .javaPackage => "JAVA_PACKAGE"
  | .nodePackage => "NODE_PACKAGE"
  | .pythonPackage => "PYTHON_PACKAGE"
  | .windowsAppx => "WINDOWS_APPX"
  | .windowsKb => "WINDOWS_KB"
  | .windowsProgram => "WINDOWS_PROGRAM"

/-- Where a component was found. -/
inductive ComponentSource where
  | registryMachineX64
  | registryMachineX86
  | registryCurrentUser
  | appxCurrentUser
  | windowsUpdateHistory
  | windowsHotfix
  | pythonDistInfo
  | pythonLockFile
  | npmPackageJson
  | nodeLockFile
  | mavenLocalCache
  | gradleLocalCache
  | javaLockFile
deriving DecidableEq

def ComponentSource.text : ComponentSource → String
  | .registryMachineX64 => "REGISTRY_MACHINE_X64"
  | .registryMachineX86 => "REGISTRY_MACHINE_X86"
  | .registryCurrentUser => "REGISTRY_CURRENT_USER"
  | .appxCurrentUser => "APPX_CURRENT_USER"
  | .windowsUpdateHistory => "WINDOWS_UPDATE_HISTORY"
  | .windowsHotfix => "WINDOWS_HOTFIX"
  | .pythonDistInfo => "PYTHON_DIST_INFO"
  | .pythonLockFile => "PYTHON_LOCK_FILE"
  | .npmPackageJson => "NPM_PACKAGE_JSON"
  | .nodeLockFile => "NODE_LOCK_FILE"
  | .mavenLocalCache => "MAVEN_LOCAL_CACHE"
  | .gradleLocalCache => "GRADLE_LOCAL_CACHE"
  | .javaLockFile => "JAVA_LOCK_FILE"

def ComponentType.sources : ComponentType → List ComponentSource
  | .windowsProgram =>
      [.registryMachineX64, .registryMachineX86, .registryCurrentUser]
  | .windowsAppx => [.appxCurrentUser]
  | .windowsKb => [.windowsUpdateHistory, .windowsHotfix]
  | .pythonPackage => [.pythonDistInfo, .pythonLockFile]
  | .nodePackage => [.npmPackageJson, .nodeLockFile]
  | .javaPackage => [.mavenLocalCache, .gradleLocalCache, .javaLockFile]

/-- `_SCOPES`. -/
inductive ComponentScope where
  | installed
  | localCache
  | lockFile
deriving DecidableEq

def ComponentScope.all : List ComponentScope :=
  [.installed, .localCache, .lockFile]

def ComponentScope.text : ComponentScope → String
  | .installed => "INSTALLED"
  | .localCache => "LOCAL_CACHE"
  | .lockFile => "LOCK_FILE"

/-- The member of an enumeration that a value is the text of. -/
def named {α : Type} (text : α → String) (members : List α) :
    Decoded → Option α
  | .str content =>
      members.find? fun member => decide (content = points (text member).toList)
  | _ => none

/-- `_OSV_ECOSYSTEMS`, in the order of `_OSV_ECOSYSTEM_ORDER`. -/
inductive Ecosystem where
  | maven
  | npm
  | pypi
deriving DecidableEq

def Ecosystem.text : Ecosystem → String
  | .maven => "Maven"
  | .npm => "npm"
  | .pypi => "PyPI"

/-- `_OSV_ECOSYSTEMS.get(component_type)`. -/
def ComponentType.ecosystem : ComponentType → Option Ecosystem
  | .javaPackage => some .maven
  | .nodePackage => some .npm
  | .pythonPackage => some .pypi
  | .windowsAppx | .windowsKb | .windowsProgram => none

/-! ## Texts -/

/-- A letter, for `re.IGNORECASE`. -/
def isAnyLetter (character : Char) : Bool :=
  character.isAlpha ||
    decide (character.toNat ∈ [0x130, 0x131, 0x17F, 0x212A])

def forbiddenText : List Pattern := [
  .sequence [.literalIgnoringCase "http", .optional (.one (ignoringCase 's')),
    .literal "://"],
  .literalIgnoringCase "file:",
  .sequence [.one isAnyLetter, .literal ":",
    .one fun character => decide (character ∈ ['\\', '/'])],
  .literal "\\\\",
  .literalIgnoringCase "/users/",
  .literalIgnoringCase "/home/",
  .one fun character => decide (character.toNat < 0x20 ∨
    character.toNat = 0x7F)]

def safeText (value : Decoded) (maximum : Nat) (allowEmpty : Bool) :
    Except ComponentFault (List CodePoint) :=
  match value with
  | .str text =>
      let normalized := foldPoints text
      if (normalized = [] ∧ ¬allowEmpty) ∨ maximum < normalized.length then
        .error (.value "Component text length is invalid.")
      else if normalized ≠ [] ∧ textMatches forbiddenText normalized then
        .error (.value
          "Component text contains a path, URL, or control character.")
      else .ok normalized
  | _ => .error (.value "Component text is invalid.")

def isWordPoint (point : CodePoint) : Bool := point.shown.isAlphanum

def isOneOf (characters : List Char) (point : CodePoint) : Bool :=
  characters.any fun character => decide (point = CodePoint.ofChar character)

/-- `_VERSION.fullmatch`. -/
def isVersion : List CodePoint → Bool
  | [] => false
  | first :: rest =>
      isWordPoint first && decide (rest.length ≤ 79) &&
        rest.all fun point =>
          isWordPoint point ||
            isOneOf ['.', '_', '+', '(', ')', ' ', '-'] point

/-- `_KB.fullmatch`. -/
def isKb (name : List CodePoint) : Bool :=
  let digits := name.drop 2
  decide (name.take 2 = points ['K', 'B'] ∧ 6 ≤ digits.length ∧
    digits.length ≤ 8) && digits.all fun point => point.shown.isDigit

/-- A name of a package, without its scope. -/
def isUnscopedName (name : List CodePoint) : Bool :=
  decide (name ≠ []) && name.all fun point =>
    isWordPoint point || isOneOf ['.', '_', '+', '-'] point

/-- `(?:@[A-Za-z0-9._-]+/)?[A-Za-z0-9._+-]+`. -/
def isPackageName (name : List CodePoint) : Bool :=
  if name.head? = some (CodePoint.ofChar '@') then
    let slash := CodePoint.ofChar '/'
    let scope := name.tail.takeWhile fun point => decide (point ≠ slash)
    decide (scope ≠ []) &&
      (scope.all fun point =>
        isWordPoint point || isOneOf ['.', '_', '-'] point) &&
      decide (name.tail[scope.length]? = some slash) &&
      isUnscopedName (name.tail.drop (scope.length + 1))
  else isUnscopedName name

/-! ## Components -/

def componentFields : List String :=
  ["component_type", "name", "version", "publisher", "source", "scope"]

/-- What `_component` returns. -/
structure Component where
  componentType : ComponentType
  name : List CodePoint
  version : List CodePoint
  publisher : List CodePoint
  source : ComponentSource
  scope : ComponentScope
deriving DecidableEq

def Component.document (component : Component) : Decoded :=
  .dict [
    (points "component_type".toList,
      .str (points component.componentType.text.toList)),
    (points "name".toList, .str component.name),
    (points "version".toList, .str component.version),
    (points "publisher".toList, .str component.publisher),
    (points "source".toList, .str (points component.source.text.toList)),
    (points "scope".toList, .str (points component.scope.text.toList))]

def checkIdentity (componentType : ComponentType)
    (name version : List CodePoint) : Except ComponentFault Unit :=
  if componentType = .windowsKb then
    if isKb name = false ∨ version ≠ [] then
      .error (.value "Windows KB component is invalid.")
    else .ok ()
  else if version = [] ∨ isVersion version = false then
    .error (.value "Component version is invalid.")
  else
    match componentType.ecosystem with
    | none => .ok ()
    | some .maven =>
        if name.count (CodePoint.ofChar ':') ≠ 1 then
          .error (.value "Maven package name is invalid.")
        else .ok ()
    | some _ =>
        if isPackageName name = false then
          .error (.value "Package name is invalid.")
        else .ok ()

/-- The value of an optional result, or a `ValueError`. -/
def orValueError {α : Type} (message : String) :
    Option α → Except ComponentFault α
  | some value => .ok value
  | none => .error (.value message)

def componentOf : Decoded → Except ComponentFault Component
  | .dict members =>
      if hasExactKeys members componentFields = false then
        .error (.value "Component fields are invalid.")
      else do
        let componentType ← orValueError "Component type is invalid."
          (named ComponentType.text ComponentType.all
            (getItem members "component_type"))
        let source ← orValueError "Component source is invalid."
          (named ComponentSource.text componentType.sources
            (getItem members "source"))
        let scope ← orValueError "Component scope is invalid."
          (named ComponentScope.text ComponentScope.all
            (getItem members "scope"))
        let name ← safeText (getItem members "name") 180 false
        let version ← safeText (getItem members "version") 80 true
        let publisher ← safeText (getItem members "publisher") 160 true
        checkIdentity componentType name version
        return { componentType, name, version, publisher, source, scope }
  | _ => .error (.value "Component fields are invalid.")

/-! ## Inventories -/

/-- `_BASE_FIELDS`, in the order of `_base_inventory`. -/
def baseFields : List String :=
  ["os_name", "display_version", "build_number", "ubr", "architecture"]

/-- `_WINDOWS_DISPLAY_VERSION.fullmatch`. -/
def isDisplayVersion (text : List CodePoint) : Bool :=
  match text.map CodePoint.shown with
  | [first, second, third, fourth] =>
      first.isDigit && second.isDigit &&
        ((decide (third = 'H') && decide (fourth ∈ ['1', '2'])) ||
          (third.isDigit && fourth.isDigit))
  | _ => false

/-- `[0-9]{5}`. -/
def isBuildNumber (text : List CodePoint) : Bool :=
  decide (text.length = 5) && text.all fun point => point.shown.isDigit

def textPasses (check : List CodePoint → Bool) : Decoded → Bool
  | .str text => check text
  | _ => false

/-- `value not in texts` raises for a list or a dict. -/
def checkAmong (texts : List String) (message : String) (value : Decoded) :
    Except ComponentFault Unit :=
  match value.isAmong texts with
  | none => .error .malformed
  | some true => .ok ()
  | some false => .error (.value message)

/-- A check whose failure is a `ValueError`. -/
def checkThat (passes : Bool) (message : String) : Except ComponentFault Unit :=
  if passes then .ok () else .error (.value message)

def isWithin (least most : Int) : Decoded → Bool
  | .int number => decide (least ≤ number ∧ number ≤ most)
  | _ => false

/-- The checks of `_base_inventory`. -/
def checkBase (value : Members) : Except ComponentFault Unit := do
  checkAmong ["Windows 10", "Windows 11"]
    "Only Windows 10 and Windows 11 are currently supported."
    (getItem value "os_name")
  checkThat (textPasses isDisplayVersion (getItem value "display_version"))
    "Windows display version is unsupported."
  checkThat (textPasses isBuildNumber (getItem value "build_number"))
    "Windows build number is invalid."
  checkThat (isWithin 0 999999 (getItem value "ubr"))
    "Windows update build revision is invalid."
  checkAmong ["x86_64", "arm64"] "Windows architecture is unsupported."
    (getItem value "architecture")

/-- `_base_inventory`: the five values, as they were supplied. -/
def baseInventory (value : Members) : Except ComponentFault Members := do
  checkBase value
  return baseFields.map fun field => (points field.toList, getItem value field)

def Component.key (component : Component) : List (List CodePoint) :=
  [points component.componentType.text.toList, casefold env component.name,
    component.version, casefold env component.publisher,
    points component.source.text.toList, points component.scope.text.toList]

/-- `indexed[key] = component`. -/
def indexedRule : Gathered.Rule Component Component (List (List CodePoint)) where
  itemKey := Component.key env
  rowKey := Component.key env
  create := id
  change := fun _ component => component
  create_key := fun _ => rfl
  change_key := fun _ _ same => same.symm

/-- The components without those that another one replaces, sorted. -/
def indexedComponents (components : List Component) : List Component :=
  Ordered.sortedBy (Component.key env)
    (Gathered.gather (indexedRule env) components)

def collectionErrors : List String :=
  ["PROGRAMS_UNAVAILABLE", "APPX_UNAVAILABLE", "KB_UNAVAILABLE",
    "PYTHON_UNAVAILABLE", "NODE_UNAVAILABLE", "JAVA_UNAVAILABLE"]

/-- What is kept of a `collection`, next to its counts. -/
structure Collection where
  status : Decoded
  truncated : Bool
  errors : List Decoded

def componentCounts (components : List Component) : Members :=
  ComponentType.all.map fun componentType =>
    (points componentType.text.toList,
      .int (components.countP fun component =>
        decide (component.componentType = componentType)))

def Collection.document (collection : Collection)
    (components : List Component) : Decoded :=
  .dict [
    (points "status".toList, collection.status),
    (points "truncated".toList, .bool collection.truncated),
    (points "errors".toList, .list collection.errors),
    (points "counts".toList, .dict (componentCounts components))]

/-- The checks of `collection["errors"]`. -/
def areCollectionErrors (errors : List Decoded) : Bool :=
  decide (errors.length ≤ collectionErrors.length) &&
    (errors.all fun error =>
      collectionErrors.any fun known => error.isText known) &&
    collectionErrors.all fun known =>
      decide ((errors.countP fun error => error.isText known) ≤ 1)

def countsMatch (counts expected : Members) : Bool :=
  ComponentType.all.all fun componentType =>
    match getItem counts componentType.text,
        getItem expected componentType.text with
    | .int supplied, .int number => decide (supplied = number)
    | _, _ => false

def checkedCollection (members : Members) : Except ComponentFault Collection := do
  let status := getItem members "status"
  let statusMessage := "Component collection status is invalid."
  checkAmong ["COMPLETE", "PARTIAL", "UNAVAILABLE"] statusMessage status
  match getItem members "truncated", getItem members "errors" with
  | .bool truncated, .list errors =>
      checkThat (areCollectionErrors errors)
        "Component collection errors are invalid."
      return { status, truncated, errors }
  | .bool _, _ => throw (.value "Component collection errors are invalid.")
  | _, _ => throw (.value statusMessage)

/-- `counts`, checked against the components. -/
def checkCounts (components : List Component) :
    Decoded → Except ComponentFault Unit
  | .dict counts => do
      checkThat (hasExactKeys counts (ComponentType.all.map (·.text)))
        "Component collection counts are invalid."
      checkThat (countsMatch counts (componentCounts components))
        "Component collection counts do not match the inventory."
  | _ => .error (.value "Component collection counts are invalid.")

/-- `collection`, checked against the components. -/
def collectionOf (components : List Component) :
    Decoded → Except ComponentFault Collection
  | .dict members => do
      checkThat (hasExactKeys members
          ["status", "truncated", "errors", "counts"])
        "Component collection summary is invalid."
      let collection ← checkedCollection members
      checkCounts components (getItem members "counts")
      return collection
  | _ => .error (.value "Component collection summary is invalid.")

/-- What `validate_windows_component_inventory` returns. -/
structure Inventory where
  base : Members
  components : List Component
  collection : Collection
  sha256 : List CodePoint

def hashedInventory (components : List Component) (collection : Collection) :
    Decoded :=
  .dict [
    (points "components".toList, .list (components.map Component.document)),
    (points "collection".toList, collection.document components)]

def Inventory.document (inventory : Inventory) : Members :=
  inventory.base ++ [
    (points "components".toList,
      .list (inventory.components.map Component.document)),
    (points "collection".toList,
      inventory.collection.document inventory.components),
    (points "component_inventory_sha256".toList, .str inventory.sha256)]

def inventoryFields : List String := baseFields ++ ["components", "collection"]

def maxComponents : Nat := 1200

/-- The items of `components`, if they are not too many. -/
def rawComponents : Decoded → Except ComponentFault (List Decoded)
  | .list raw =>
      if raw.length ≤ maxComponents then .ok raw
      else .error (.value "Windows component inventory size is invalid.")
  | _ => .error (.value "Windows component inventory size is invalid.")

/-- The supplied digest, if there is one, is that of the inventory. -/
def digestMatches (sha256 : List CodePoint) : Decoded → Bool
  | .null => true
  | .str supplied => decide (supplied = sha256)
  | _ => false

/-- `validate_windows_component_inventory`. -/
def validateInventory (value : Members) : Except ComponentFault Inventory := do
  checkThat (hasExactKeys value inventoryFields || hasExactKeys value
      (inventoryFields ++ ["component_inventory_sha256"]))
    "Windows component inventory fields are invalid."
  let base ← baseInventory value
  let raw ← rawComponents (getItem value "components")
  let parsed ← raw.mapM componentOf
  let components := indexedComponents env parsed
  let collection ← collectionOf components (getItem value "collection")
  let sha256 ← canonicalSha256 env (hashedInventory components collection)
  checkThat (digestMatches sha256 (getItem value "component_inventory_sha256"))
    "Component inventory hash is invalid."
  return { base, components, collection, sha256 }

/-! ## Supplements -/

def isSupplement (component : Component) : Bool :=
  decide (component.componentType ∈
      [.pythonPackage, .nodePackage, .javaPackage]) &&
    decide (component.source ∈
      [.pythonLockFile, .nodeLockFile, .javaLockFile]) &&
    decide (component.scope = .lockFile)

def supplementOf (value : Decoded) : Except ComponentFault Component := do
  let component ← componentOf value
  if isSupplement component then return component
  else throw (.value
    "Supplemental component must come from an allowed lock file.")

def supplementsOf (values : List Decoded) :
    Except ComponentFault (List Component) :=
  if 500 < values.length then
    .error (.value "Supplemental component count is invalid.")
  else values.mapM supplementOf

/-- The members of the merged inventory, whose counts are those of all the
components that are put together. -/
def mergedMembers (normalized : Inventory) (combined : List Component) :
    Members :=
  normalized.base ++ [
    (points "components".toList, .list (combined.map Component.document)),
    (points "collection".toList, normalized.collection.document combined)]

def mergeSupplementalComponents (inventory : Members)
    (supplemental : List Decoded) : Except ComponentFault Inventory := do
  let normalized ← validateInventory env inventory
  let supplements ← supplementsOf supplemental
  validateInventory env
    (mergedMembers normalized (normalized.components ++ supplements))

open SecAI.Criteria (hasExactKeys hasExactKeys_of_keys getItem_cons)
open Outcome (bind_eq_ok)

variable {env : ComponentEnvironment}

/-! ## Components -/

theorem foldPoints_foldPoints (text : List CodePoint) :
    foldPoints (foldPoints text) = foldPoints text := by
  have twice := foldPoints_stripPoints_foldPoints text
  rwa [stripPoints_foldPoints] at twice

variable {value : Decoded}

theorem named_eq_some {α : Type} {text : α → String} {members : List α}
    {member : α} (found : named text members value =
      some member) : value = .str (points (text member).toList) := by
  cases value with
  | str content =>
      have equal := List.find?_some found
      exact congrArg Decoded.str (of_decide_eq_true equal)
  | null => cases found
  | bool _ => cases found
  | int _ => cases found
  | float _ => cases found
  | list _ => cases found
  | dict _ => cases found

/-- A text that was accepted is accepted as it is. -/
theorem safeText_of_ok {maximum : Nat} {allowEmpty : Bool}
    {text : List CodePoint}
    (accepted : safeText value maximum allowEmpty = .ok text) :
    safeText (.str text) maximum allowEmpty = .ok text := by
  cases value with
  | str supplied =>
      unfold safeText at accepted ⊢
      dsimp only at accepted ⊢
      split at accepted
      · cases accepted
      rename_i fits
      split at accepted
      · cases accepted
      · next plain =>
          obtain rfl := Except.ok.inj accepted
          rw [foldPoints_foldPoints, if_neg fits, if_neg plain]
  | null => cases accepted
  | bool _ => cases accepted
  | int _ => cases accepted
  | float _ => cases accepted
  | list _ => cases accepted
  | dict _ => cases accepted

theorem orValueError_eq_ok {α : Type} {message : String} {found : Option α}
    {value : α} : orValueError message found = .ok value ↔
      found = some value := by
  cases found with
  | none => simp [orValueError]
  | some other => simp [orValueError]

variable {component : Component}

/-- What `_component` has established once it returns. -/
theorem componentOf_parts (accepted : componentOf value = .ok component) :
    ∃ members, value = .dict members ∧
      named ComponentType.text ComponentType.all
        (getItem members "component_type") = some component.componentType ∧
      named ComponentSource.text component.componentType.sources
        (getItem members "source") = some component.source ∧
      named ComponentScope.text ComponentScope.all
        (getItem members "scope") = some component.scope ∧
      safeText (getItem members "name") 180 false = .ok component.name ∧
      safeText (getItem members "version") 80 true = .ok component.version ∧
      safeText (getItem members "publisher") 160 true =
        .ok component.publisher ∧
      checkIdentity component.componentType component.name
        component.version = .ok () := by
  cases value with
  | dict members =>
      unfold componentOf at accepted
      dsimp only at accepted
      split at accepted
      · cases accepted
      obtain ⟨componentType, isType, accepted⟩ := bind_eq_ok.mp accepted
      obtain ⟨source, isSource, accepted⟩ := bind_eq_ok.mp accepted
      obtain ⟨scope, isScope, accepted⟩ := bind_eq_ok.mp accepted
      obtain ⟨name, isName, accepted⟩ := bind_eq_ok.mp accepted
      obtain ⟨version, isVersion, accepted⟩ := bind_eq_ok.mp accepted
      obtain ⟨publisher, isPublisher, accepted⟩ := bind_eq_ok.mp accepted
      obtain ⟨⟨⟩, identity, accepted⟩ := bind_eq_ok.mp accepted
      obtain rfl := Except.ok.inj accepted
      rw [orValueError_eq_ok] at isType isSource isScope
      exact ⟨members, rfl, isType, isSource, isScope, isName, isVersion,
        isPublisher, identity⟩
  | null => cases accepted
  | bool _ => cases accepted
  | int _ => cases accepted
  | float _ => cases accepted
  | list _ => cases accepted
  | str _ => cases accepted

/-- A component that `_component` returned is returned again. -/
theorem componentOf_document (accepted : componentOf value = .ok component) :
    componentOf component.document = .ok component := by
  obtain ⟨members, -, isType, isSource, isScope, isName, isVersion,
    isPublisher, identity⟩ := componentOf_parts accepted
  rw [named_eq_some isType] at isType
  rw [named_eq_some isSource] at isSource
  rw [named_eq_some isScope] at isScope
  unfold componentOf Component.document
  dsimp only
  rw [@hasExactKeys_of_keys _ componentFields rfl, if_neg (by decide)]
  simp only [getItem_cons, String.reduceEq, reduceIte]
  rw [isType, isScope, safeText_of_ok isName, safeText_of_ok isVersion,
    safeText_of_ok isPublisher]
  refine bind_eq_ok.mpr ⟨component.componentType, rfl, ?_⟩
  rw [isSource]
  refine bind_eq_ok.mpr ⟨component.source, rfl, ?_⟩
  exact bind_eq_ok.mpr ⟨component.scope, rfl, bind_eq_ok.mpr
    ⟨component.name, rfl, bind_eq_ok.mpr ⟨component.version, rfl,
    bind_eq_ok.mpr ⟨component.publisher, rfl,
    bind_eq_ok.mpr ⟨(), identity, rfl⟩⟩⟩⟩⟩

variable {components : List Component}

theorem mapM_document (accepted : ∀ component ∈ components,
      componentOf component.document = .ok component) :
    (components.map Component.document).mapM componentOf = .ok components := by
  rw [Outcome.mapM_eq_ok, List.forall₂_map_left_iff, List.forall₂_same]
  exact accepted

/-! ## Counts -/

theorem getItem_componentCounts (components : List Component)
    (componentType : ComponentType) :
    getItem (componentCounts components) componentType.text =
      .int (components.countP fun component =>
        decide (component.componentType = componentType)) := by
  cases componentType <;>
    simp only [componentCounts, ComponentType.all, List.map_cons,
      ComponentType.text, getItem_cons, String.reduceEq, reduceIte]

theorem countsMatch_iff {others : List Component} :
    countsMatch (componentCounts components) (componentCounts others) = true ↔
      ∀ componentType : ComponentType,
        (components.countP fun component =>
          decide (component.componentType = componentType)) =
        others.countP fun component =>
          decide (component.componentType = componentType) := by
  rw [countsMatch, List.all_eq_true]
  simp only [getItem_componentCounts, decide_eq_true_eq]
  constructor
  · intro same componentType
    apply Int.ofNat.inj
    apply same
    cases componentType <;> decide
  · intro same componentType _
    exact congrArg Int.ofNat (same componentType)

/-- Every component is counted once. -/
theorem sum_counts (components : List Component) :
    (ComponentType.all.map fun componentType =>
      components.countP fun component =>
        decide (component.componentType = componentType)).sum =
      components.length := by
  induction components with
  | nil => rfl
  | cons component rest ih =>
      rw [List.length_cons, ← ih]
      simp only [ComponentType.all, List.map_cons, List.map_nil, List.sum_cons,
        List.sum_nil, List.countP_cons]
      cases component.componentType <;> simp <;> omega

theorem mem_indexedComponents
    (member : component ∈ indexedComponents env components) :
    component ∈ components := by
  rw [indexedComponents, Ordered.mem_sortedBy, Gathered.mem_gather_iff]
    at member
  obtain ⟨first, rest, group, isLast⟩ := member
  have kept : ∀ (group : List Component) (row : Component),
      group.foldl (fun _ component => component) row ∈ row :: group := by
    intro group
    induction group with
    | nil => exact List.mem_singleton_self
    | cons next more ih =>
        intro row
        exact List.mem_cons_of_mem row (ih next)
  have found : component ∈ first :: rest := isLast ▸ kept rest first
  rw [← group] at found
  exact (Gathered.mem_ofKey.mp found).1

theorem nodup_indexedComponents (components : List Component) :
    ((indexedComponents env components).map (Component.key env)).Nodup :=
  (((Ordered.sortedBy_perm _ _).map _).nodup_iff).mpr
    (@Gathered.nodup_gather_keys _ _ _ _ (indexedRule env) _)

theorem indexedComponents_of_nodup
    (distinct : (components.map (Component.key env)).Nodup) :
    indexedComponents env components =
      Ordered.sortedBy (Component.key env) components := by
  have all : Gathered.gather (indexedRule env) components =
      components.map id := Gathered.gather_of_nodup distinct
  rw [indexedComponents, all, List.map_id]

theorem indexedComponents_twice (components : List Component) :
    indexedComponents env (indexedComponents env components) =
      indexedComponents env components := by
  rw [indexedComponents_of_nodup (nodup_indexedComponents components)]
  exact Ordered.sortedBy_of_pairwise (Ordered.sortedBy_pairwise _ _)

/-- The counts of all the components are those of the ones that are kept when
every component is kept. -/
theorem countsMatch_indexed_iff :
    countsMatch (componentCounts components)
        (componentCounts (indexedComponents env components)) = true ↔
      (components.map (Component.key env)).Nodup := by
  rw [countsMatch_iff]
  constructor
  · intro same
    have whole : components.length =
        (indexedComponents env components).length := by
      rw [← sum_counts components, ← sum_counts (indexedComponents _ _)]
      simp only [same]
    have kept : (indexedComponents env components).length =
        (components.map (Component.key env)).dedup.length := by
      rw [indexedComponents, (Ordered.sortedBy_perm _ _).length_eq]
      exact Gathered.length_gather
    have all : (components.map (Component.key env)).dedup =
        components.map (Component.key env) := by
      apply (List.dedup_sublist _).eq_of_length
      rw [← kept, ← whole, List.length_map]
    exact List.dedup_eq_self.mp all
  · intro distinct componentType
    rw [indexedComponents_of_nodup distinct]
    exact (Ordered.sortedBy_perm _ _).symm.countP_eq _

/-! ## Validation -/

theorem checkThat_eq_ok {passes : Bool} {message : String} :
    checkThat passes message = .ok () ↔ passes = true := by
  cases passes <;> simp [checkThat]

variable {members : Members}

/-- A collection that was accepted is accepted as it is. -/
theorem checkedCollection_of_ok {collection : Collection}
    (accepted : checkedCollection members = .ok collection)
    (counts : Decoded) :
    checkedCollection [
      (points "status".toList, collection.status),
      (points "truncated".toList, .bool collection.truncated),
      (points "errors".toList, .list collection.errors),
      (points "counts".toList, counts)] = .ok collection := by
  unfold checkedCollection at accepted ⊢
  simp only [getItem_cons, String.reduceEq, reduceIte]
  obtain ⟨⟨⟩, among, accepted⟩ := bind_eq_ok.mp accepted
  cases truncation : getItem members "truncated" with
  | bool truncated =>
      cases given : getItem members "errors" with
      | list errors =>
          rw [truncation, given] at accepted
          obtain ⟨⟨⟩, areErrors, accepted⟩ := bind_eq_ok.mp accepted
          obtain rfl := Except.ok.inj accepted
          exact bind_eq_ok.mpr ⟨(), among, bind_eq_ok.mpr
            ⟨(), areErrors, rfl⟩⟩
      | _ =>
          rw [truncation, given] at accepted
          cases accepted
  | _ =>
      rw [truncation] at accepted
      cases accepted

theorem collectionOf_document {collection checked :
    Collection} (accepted : checkedCollection members = .ok collection)
    {others : List Component} :
    collectionOf others (collection.document components) = .ok checked ↔
      countsMatch (componentCounts components) (componentCounts others) =
        true ∧ checked = collection := by
  have known : hasExactKeys (componentCounts components)
      (ComponentType.all.map (·.text)) = true := hasExactKeys_of_keys rfl
  unfold Collection.document collectionOf
  dsimp only
  rw [hasExactKeys_of_keys rfl, checkedCollection_of_ok accepted]
  simp only [getItem_cons, String.reduceEq, reduceIte]
  unfold checkCounts
  dsimp only
  rw [known]
  constructor
  · intro done
    obtain ⟨⟨⟩, -, done⟩ := bind_eq_ok.mp done
    obtain ⟨_, ⟨⟩, done⟩ := bind_eq_ok.mp done
    obtain ⟨⟨⟩, counted, done⟩ := bind_eq_ok.mp done
    obtain ⟨⟨⟩, -, counted⟩ := bind_eq_ok.mp counted
    exact ⟨checkThat_eq_ok.mp counted, (Except.ok.inj done).symm⟩
  · rintro ⟨counted, rfl⟩
    rw [counted]
    rfl

/-- An inventory as its validation returns it. -/
structure Inventory.IsFormed (env : ComponentEnvironment)
    (inventory : Inventory) : Prop where
  base : ∃ members, baseInventory members = .ok inventory.base
  components : ∀ component ∈ inventory.components,
    componentOf component.document = .ok component
  few : inventory.components.length ≤ maxComponents
  indexed : indexedComponents env inventory.components = inventory.components
  collection : ∃ members, checkedCollection members = .ok inventory.collection
  digest : canonicalSha256 env
    (hashedInventory inventory.components inventory.collection) =
      .ok inventory.sha256

theorem rawComponents_eq_ok {raw : List Decoded}
    (done : rawComponents value = .ok raw) :
    value = .list raw ∧ raw.length ≤ maxComponents := by
  cases value with
  | list items =>
      rw [rawComponents] at done
      split at done
      · next few =>
          cases done
          exact ⟨rfl, few⟩
      · cases done
  | null => cases done
  | bool _ => cases done
  | int _ => cases done
  | float _ => cases done
  | str _ => cases done
  | dict _ => cases done

variable {inventory : Inventory}

theorem isFormed_of_validate {value : Members}
    (valid : validateInventory env value = .ok inventory) :
    inventory.IsFormed env := by
  obtain ⟨⟨⟩, -, valid⟩ := bind_eq_ok.mp valid
  obtain ⟨base, isBase, valid⟩ := bind_eq_ok.mp valid
  obtain ⟨raw, isRaw, valid⟩ := bind_eq_ok.mp valid
  obtain ⟨parsed, parses, valid⟩ := bind_eq_ok.mp valid
  obtain ⟨collection, isCollection, valid⟩ := bind_eq_ok.mp valid
  obtain ⟨sha256, isDigest, valid⟩ := bind_eq_ok.mp valid
  obtain ⟨⟨⟩, -, valid⟩ := bind_eq_ok.mp valid
  obtain rfl := Except.ok.inj valid
  have counted : (indexedComponents env parsed).length ≤ parsed.length := by
    rw [indexedComponents, (Ordered.sortedBy_perm _ _).length_eq,
      Gathered.length_gather, ← List.length_map (Component.key env)]
    exact (List.dedup_sublist _).length_le
  constructor
  case base => exact ⟨value, isBase⟩
  case components =>
    intro component member
    obtain ⟨item, -, parsesItem⟩ :=
      Outcome.mapM_mem parses component (mem_indexedComponents member)
    exact componentOf_document parsesItem
  case few =>
    have same := (Outcome.mapM_eq_ok.mp parses).length_eq
    have few := (rawComponents_eq_ok isRaw).2
    exact counted.trans (same ▸ few)
  case indexed => exact indexedComponents_twice parsed
  case collection =>
    cases given : getItem value "collection" with
    | dict members =>
        rw [given] at isCollection
        obtain ⟨⟨⟩, -, more⟩ := bind_eq_ok.mp isCollection
        obtain ⟨checked, isChecked, more⟩ := bind_eq_ok.mp more
        obtain ⟨⟨⟩, -, more⟩ := bind_eq_ok.mp more
        obtain rfl := Except.ok.inj more
        exact ⟨members, isChecked⟩
    | _ =>
        rw [given] at isCollection
        cases isCollection
  case digest => exact isDigest

variable {base : Members}

theorem baseInventory_eq_ok :
    baseInventory members = .ok base ↔ checkBase members = .ok () ∧
      base = baseFields.map fun field =>
        (points field.toList, getItem members field) := by
  constructor
  · intro done
    obtain ⟨⟨⟩, checked, done⟩ := bind_eq_ok.mp done
    exact ⟨checked, (Except.ok.inj done).symm⟩
  · rintro ⟨checked, rfl⟩
    exact bind_eq_ok.mpr ⟨(), checked, rfl⟩

/-- Members that begin with an accepted base have that base. -/
theorem baseInventory_append (rest : Members)
    (accepted : baseInventory members = .ok base) :
    baseInventory (base ++ rest) = .ok base := by
  obtain ⟨checked, rfl⟩ := baseInventory_eq_ok.mp accepted
  apply baseInventory_eq_ok.mpr
  unfold checkBase at checked ⊢
  simp only [baseFields, List.map_cons, List.map_nil, List.cons_append,
    List.nil_append, getItem_cons, String.reduceEq, reduceIte]
  exact ⟨checked, trivial⟩

theorem getItem_base_append {rest : Members} {key : String}
    (accepted : baseInventory members = .ok base) (other : key ∉ baseFields) :
    getItem (base ++ rest) key = getItem rest key := by
  obtain ⟨-, rfl⟩ := baseInventory_eq_ok.mp accepted
  simp only [baseFields, List.mem_cons, List.not_mem_nil, or_false, not_or]
    at other
  obtain ⟨name, version, number, ubr, architecture⟩ := other
  simp only [baseFields, List.map_cons, List.map_nil, List.cons_append,
    List.nil_append, getItem_cons, Ne.symm name, Ne.symm version,
    Ne.symm number, Ne.symm ubr, Ne.symm architecture, if_false]

/-- Members with the base and the collection of an inventory, whose counts
are those of all their components, are validated when no component is another
one's. -/
theorem validateInventory_eq_ok_iff {inventory merged : Inventory}
    (formed : inventory.IsFormed env) {components : List Component}
    (accepted : ∀ component ∈ components,
      componentOf component.document = .ok component) {digest : Members}
    (digests : digest = [] ∨ ∃ sha256,
      digest = [(points "component_inventory_sha256".toList, sha256)]) :
    validateInventory env (inventory.base ++ ([
      (points "components".toList, .list (components.map Component.document)),
      (points "collection".toList, inventory.collection.document components)] ++
        digest)) = .ok merged ↔
      components.length ≤ maxComponents ∧
      (components.map (Component.key env)).Nodup ∧
      canonicalSha256 env (hashedInventory
        (Ordered.sortedBy (Component.key env) components)
        inventory.collection) = .ok merged.sha256 ∧
      digestMatches merged.sha256
        (getItem digest "component_inventory_sha256") = true ∧
      merged = { inventory with
        components := Ordered.sortedBy (Component.key env) components
        sha256 := merged.sha256 } := by
  obtain ⟨members, isBase⟩ := formed.base
  obtain ⟨-, shape⟩ := baseInventory_eq_ok.mp isBase
  obtain ⟨collected, isCollection⟩ := formed.collection
  generalize whole : inventory.base ++ _ = value
  have keys : (hasExactKeys value inventoryFields || hasExactKeys value
      (inventoryFields ++ ["component_inventory_sha256"])) = true := by
    rw [← whole, Bool.or_eq_true, shape]
    rcases digests with rfl | ⟨sha256, rfl⟩
    · exact .inl (hasExactKeys_of_keys rfl)
    · exact .inr (hasExactKeys_of_keys rfl)
  have base : baseInventory value = .ok inventory.base :=
    whole ▸ baseInventory_append _ isBase
  have listed : getItem value "components" =
      .list (components.map Component.document) := by
    rw [← whole, getItem_base_append isBase (by decide)]
    exact getItem_cons _ _ _ _
  have summary : getItem value "collection" =
      inventory.collection.document components := by
    rw [← whole, getItem_base_append isBase (by decide)]
    simp only [List.cons_append, getItem_cons, String.reduceEq, reduceIte]
  have supplied : getItem value "component_inventory_sha256" =
      getItem digest "component_inventory_sha256" := by
    rw [← whole, getItem_base_append isBase (by decide)]
    simp only [List.cons_append, getItem_cons, String.reduceEq, reduceIte,
      List.nil_append]
  have raw : rawComponents (.list (components.map Component.document)) =
      if components.length ≤ maxComponents then
        .ok (components.map Component.document)
      else .error (.value "Windows component inventory size is invalid.") := by
    rw [rawComponents, List.length_map]
  unfold validateInventory
  rw [keys, base, listed, summary, supplied, raw]
  constructor
  · intro done
    obtain ⟨⟨⟩, -, done⟩ := bind_eq_ok.mp done
    obtain ⟨_, ⟨⟩, done⟩ := bind_eq_ok.mp done
    obtain ⟨raw, isRaw, done⟩ := bind_eq_ok.mp done
    obtain ⟨few, isRaw⟩ : components.length ≤ maxComponents ∧
        raw = components.map Component.document := by
      split at isRaw
      · next few => exact ⟨few, (Except.ok.inj isRaw).symm⟩
      · cases isRaw
    obtain ⟨parsed, parses, done⟩ := bind_eq_ok.mp done
    rw [isRaw, mapM_document accepted] at parses
    obtain rfl := Except.ok.inj parses
    obtain ⟨collection, isSame, done⟩ := bind_eq_ok.mp done
    obtain ⟨counted, rfl⟩ := (collectionOf_document isCollection).mp isSame
    obtain ⟨sha256, isDigest, done⟩ := bind_eq_ok.mp done
    obtain ⟨⟨⟩, matching, done⟩ := bind_eq_ok.mp done
    obtain rfl := Except.ok.inj done
    have distinct := countsMatch_indexed_iff.mp counted
    rw [indexedComponents_of_nodup distinct] at isDigest ⊢
    exact ⟨few, distinct, isDigest, checkThat_eq_ok.mp matching, rfl⟩
  · rintro ⟨few, distinct, isDigest, matching, same⟩
    have counted := (@countsMatch_indexed_iff env _).mpr distinct
    rw [if_pos few]
    refine bind_eq_ok.mpr ⟨(), rfl, bind_eq_ok.mpr ⟨_, rfl, bind_eq_ok.mpr
      ⟨_, rfl, bind_eq_ok.mpr ⟨components, mapM_document accepted, ?_⟩⟩⟩⟩
    refine bind_eq_ok.mpr ⟨inventory.collection,
      (collectionOf_document isCollection).mpr ⟨counted, rfl⟩, ?_⟩
    rw [indexedComponents_of_nodup distinct]
    refine bind_eq_ok.mpr ⟨merged.sha256, isDigest, bind_eq_ok.mpr
      ⟨(), checkThat_eq_ok.mpr matching, ?_⟩⟩
    rw [same]
    rfl

theorem Inventory.IsFormed.nodup (formed : inventory.IsFormed env) :
    (inventory.components.map (Component.key env)).Nodup := by
  rw [← formed.indexed]
  exact nodup_indexedComponents _

theorem Inventory.IsFormed.sorted (formed : inventory.IsFormed env) :
    Ordered.sortedBy (Component.key env) inventory.components =
      inventory.components := by
  rw [← indexedComponents_of_nodup formed.nodup]
  exact formed.indexed

/-- A validated inventory is validated again, with its digest. -/
theorem Inventory.IsFormed.document_validates
    (formed : inventory.IsFormed env) :
    validateInventory env inventory.document = .ok inventory := by
  refine (validateInventory_eq_ok_iff formed formed.components
    (.inr ⟨.str inventory.sha256, rfl⟩)).mpr ⟨formed.few, formed.nodup, ?_, ?_,
      ?_⟩
  · rw [formed.sorted]
    exact formed.digest
  · rw [getItem_cons, if_pos rfl]
    exact decide_eq_true rfl
  · rw [formed.sorted]

/-! ## Merges -/

theorem supplementsOf_eq_ok {values : List Decoded}
    {supplements : List Component}
    (accepted : supplementsOf values = .ok supplements) :
    values.length = supplements.length ∧
      ∀ component ∈ supplements,
        componentOf component.document = .ok component := by
  unfold supplementsOf at accepted
  split at accepted
  · cases accepted
  refine ⟨(Outcome.mapM_eq_ok.mp accepted).length_eq, ?_⟩
  intro component member
  obtain ⟨value, -, supplied⟩ := Outcome.mapM_mem accepted component member
  obtain ⟨parsed, parses, allowed⟩ := bind_eq_ok.mp supplied
  split at allowed
  · obtain rfl := Except.ok.inj allowed
    exact componentOf_document parses
  · cases allowed

theorem merge_eq_ok_iff {inventory : Members} {supplemental : List Decoded}
    {normalized merged : Inventory} {supplements : List Component}
    (valid : validateInventory env inventory = .ok normalized)
    (accepted : supplementsOf supplemental = .ok supplements) :
    mergeSupplementalComponents env inventory supplemental = .ok merged ↔
      (normalized.components ++ supplements).length ≤ maxComponents ∧
      ((normalized.components ++ supplements).map
        (Component.key env)).Nodup ∧
      canonicalSha256 env (hashedInventory (Ordered.sortedBy
        (Component.key env) (normalized.components ++ supplements))
        normalized.collection) = .ok merged.sha256 ∧
      merged = { normalized with
        components := Ordered.sortedBy (Component.key env)
          (normalized.components ++ supplements)
        sha256 := merged.sha256 } := by
  have formed := isFormed_of_validate valid
  have all : ∀ component ∈ normalized.components ++ supplements,
      componentOf component.document = .ok component := by
    intro component member
    rcases List.mem_append.mp member with existing | supplement
    · exact formed.components component existing
    · exact (supplementsOf_eq_ok accepted).2 component supplement
  have validates := @validateInventory_eq_ok_iff env normalized merged formed _ all
    _ (.inl rfl)
  rw [List.append_nil] at validates
  unfold mergeSupplementalComponents mergedMembers
  rw [valid, Outcome.ok_bind, accepted, Outcome.ok_bind, validates]
  constructor
  · rintro ⟨few, distinct, digest, -, same⟩
    exact ⟨few, distinct, digest, same⟩
  · rintro ⟨few, distinct, digest, same⟩
    exact ⟨few, distinct, digest, rfl, same⟩

/-- The supplements are merged, the merged inventory is valid, and merging
them again returns it. -/
def MergesTwice (env : ComponentEnvironment) (inventory : Members)
    (supplemental : List Decoded) : Prop :=
  ∃ merged,
    mergeSupplementalComponents env inventory supplemental = .ok merged ∧
    validateInventory env merged.document = .ok merged ∧
    mergeSupplementalComponents env merged.document supplemental = .ok merged

theorem canonicalSha256_isOk :
    (∃ digest, canonicalSha256 env value = .ok digest) ↔
      value.isRepresentable = true := by
  rw [canonicalSha256]
  split <;> simp_all

/-- Valid supplements are merged, and merged again, only when there are none.
They are merged once when no component is another one's and the merged
inventory is not too long and has a canonical form. -/
theorem merge_is_total_and_idempotent_iff {inventory : Members}
    {supplemental : List Decoded} {normalized : Inventory}
    {supplements : List Component}
    (valid : validateInventory env inventory = .ok normalized)
    (accepted : supplementsOf supplemental = .ok supplements) :
    (MergesTwice env inventory supplemental ↔ supplemental = []) ∧
    ((∃ merged, mergeSupplementalComponents env inventory supplemental =
        .ok merged) ↔
      (normalized.components ++ supplements).length ≤ maxComponents ∧
      ((normalized.components ++ supplements).map
        (Component.key env)).Nodup ∧
      (hashedInventory (Ordered.sortedBy (Component.key env)
        (normalized.components ++ supplements))
        normalized.collection).isRepresentable = true) := by
  have formed := isFormed_of_validate valid
  constructor
  · constructor
    · rintro ⟨merged, once, again, twice⟩
      obtain ⟨-, -, -, whole⟩ := (merge_eq_ok_iff valid accepted).mp once
      obtain ⟨-, distinct, -, -⟩ := (merge_eq_ok_iff again accepted).mp twice
      have kept : ∀ component ∈ supplements,
          component ∈ merged.components := by
        intro component member
        rw [whole]
        exact Ordered.mem_sortedBy.mpr (List.mem_append_right _ member)
      rw [← List.length_eq_zero_iff, (supplementsOf_eq_ok accepted).1,
        List.length_eq_zero_iff]
      cases supplements with
      | nil => rfl
      | cons supplement rest =>
          rw [List.map_append, List.nodup_append] at distinct
          obtain ⟨-, -, apart⟩ := distinct
          exact (apart _ (List.mem_map_of_mem (kept _ List.mem_cons_self)) _
            (List.mem_map_of_mem List.mem_cons_self) rfl).elim
    · rintro rfl
      obtain rfl : [] = supplements := Except.ok.inj accepted
      have merges : ∀ {members : Members},
          validateInventory env members = .ok normalized →
            mergeSupplementalComponents env members [] = .ok normalized := by
        intro members validates
        refine (merge_eq_ok_iff validates accepted).mpr ?_
        rw [List.append_nil, formed.sorted]
        exact ⟨formed.few, formed.nodup, formed.digest, rfl⟩
      exact ⟨normalized, merges valid, formed.document_validates,
        merges formed.document_validates⟩
  · constructor
    · rintro ⟨merged, once⟩
      obtain ⟨few, distinct, digest, -⟩ :=
        (merge_eq_ok_iff valid accepted).mp once
      exact ⟨few, distinct, canonicalSha256_isOk.mp ⟨_, digest⟩⟩
    · rintro ⟨few, distinct, representable⟩
      obtain ⟨digest, digests⟩ := (@canonicalSha256_isOk env _).mpr
        representable
      exact ⟨{ normalized with
        components := Ordered.sortedBy (Component.key env)
          (normalized.components ++ supplements)
        sha256 := digest }, (merge_eq_ok_iff valid accepted).mpr
          ⟨few, distinct, digests, rfl⟩⟩

def plainEnvironment : ComponentEnvironment := ⟨asciiDatabase, fun _ => []⟩

def literalText (text : String) : Decoded := .str (points text.toList)

def exampleInventory : Members := [
  (points "os_name".toList, literalText "Windows 11"),
  (points "display_version".toList, literalText "24H2"),
  (points "build_number".toList, literalText "26100"),
  (points "ubr".toList, .int 4652),
  (points "architecture".toList, literalText "x86_64"),
  (points "components".toList, .list []),
  (points "collection".toList, .dict [
    (points "status".toList, literalText "COMPLETE"),
    (points "truncated".toList, .bool false),
    (points "errors".toList, .list []),
    (points "counts".toList, .dict (componentCounts []))])]

def lockedPackage (name : String) : Component where
  componentType := .nodePackage
  name := points name.toList
  version := points "1.0".toList
  publisher := []
  source := .nodeLockFile
  scope := .lockFile

theorem exampleInventory_validates : ∃ normalized,
    validateInventory plainEnvironment exampleInventory = .ok normalized :=
  Outcome.eq_ok_of_isOk rfl

/-- One supplement is not merged twice. -/
theorem example_merge_is_not_repeated :
    MergesTwice plainEnvironment exampleInventory [] ∧
    ¬MergesTwice plainEnvironment exampleInventory
      [(lockedPackage "left").document] := by
  obtain ⟨normalized, valid⟩ := exampleInventory_validates
  have accepted : supplementsOf [(lockedPackage "left").document] =
      .ok [lockedPackage "left"] := by decide
  refine ⟨(merge_is_total_and_idempotent_iff valid rfl).1.mpr rfl, ?_⟩
  intro twice
  cases (merge_is_total_and_idempotent_iff valid accepted).1.mp twice

/-- Supplements that repeat each other are not merged at all. -/
theorem repeated_supplement_is_refused :
    (validateInventory plainEnvironment exampleInventory).isOk = true ∧
    (supplementsOf [(lockedPackage "left").document,
      (lockedPackage "left").document]).isOk = true ∧
    (∀ merged, mergeSupplementalComponents plainEnvironment exampleInventory
      [(lockedPackage "left").document, (lockedPackage "left").document] ≠
        .ok merged) ∧
    ¬MergesTwice plainEnvironment exampleInventory
      [(lockedPackage "left").document, (lockedPackage "left").document] := by
  have accepted : supplementsOf [(lockedPackage "left").document,
      (lockedPackage "left").document] =
        .ok [lockedPackage "left", lockedPackage "left"] := by decide
  obtain ⟨normalized, valid⟩ := exampleInventory_validates
  have refused : ∀ merged, mergeSupplementalComponents plainEnvironment
      exampleInventory [(lockedPackage "left").document,
        (lockedPackage "left").document] ≠ .ok merged := by
    intro merged once
    obtain ⟨-, distinct, -, -⟩ := (merge_eq_ok_iff valid accepted).mp once
    rw [List.map_append] at distinct
    have repeated := distinct.of_append_right
    rw [List.map_cons, List.nodup_cons] at repeated
    exact repeated.1 List.mem_cons_self
  refine ⟨rfl, accepted ▸ rfl, refused, ?_⟩
  rintro ⟨merged, once, -, -⟩
  exact refused merged once

end SecAI.Components
