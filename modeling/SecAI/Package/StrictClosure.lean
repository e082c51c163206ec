/-
Module: SecAI.Package.StrictClosure
Purpose: Which bytes the strict loader and the canonical writer of JSON handle
  between them without an exception that is not theirs.
Trusted boundary: `float` of a literal, the room for the recursion of
  `json.loads` and `rfc8785.dumps` are parameters
Main exports:
  StrictEnvironment, loadStrict, canonicalizeJson, strict_loading_closed_iff
-/
import SecAI.Package.Contracts
import SecAI.Text.Utf8
import SecAI.Text.HookedReading

namespace SecAI.Package

open SecAI.Text
open Outcome (Confined)

/-- What leaves the loader. -/
inductive StrictRaised where
  /-- `PackageValidationError`. -/
  | package (code : PackageValidationCode)
  /-- The `ValueError` of `int`. -/
  | value

def objectWithoutDuplicates : ObjectHook PackageValidationCode := fun pairs =>
  if (pairs.map Prod.fst).Nodup then .ok (.dict pairs)
  else .error .duplicateJsonKey

/-- `_safe_integer`; `int` of too many digits comes first. -/
def safeInteger (literal : List Char) :
    Except (JsonRaised PackageValidationCode) Decoded := do
  let value ← integerOfLiteral literal
  if value.natAbs < 2 ^ 53 then return .int value
  else .error (.hook .jsonNumberInvalid)

section Loading

-- `float` of a literal, unless the result is not finite.
variable (finiteFloat : List Char → Option UInt64)

/-- `_safe_integer`, `_finite_float` and `_reject_constant`. -/
def strictNumberHook : NumberHook PackageValidationCode := fun literal =>
  if literal ∈ nonFinite then .error (.hook .jsonNumberInvalid)
  else if isIntegerLiteral literal then safeInteger literal
  else
    match finiteFloat literal with
    | some bits => .ok (.float bits)
    | none => .error (.hook .jsonNumberInvalid)

/-- The text of a document, unless its encoding is refused. -/
def strictText (data : List UInt8) : Except StrictRaised (List Char) :=
  if [0xEF, 0xBB, 0xBF].isPrefixOf data then
    .error (.package .jsonBomNotAllowed)
  else
    match decodeStrict data with
    | some text => .ok text
    | none => .error (.package .jsonEncodingInvalid)

/-- `json.loads` with the hooks; of the `ValueError`s only
`JSONDecodeError` is caught. -/
def strictDocument (text : List Char) : Except StrictRaised Decoded :=
  match loadHooked (strictNumberHook finiteFloat) objectWithoutDuplicates
      text with
  | .ok document => .ok document
  | .error .decode => .error (.package .invalidJson)
  | .error (.hook code) => .error (.package code)
  | .error .integer => .error .value

end Loading

/-- A `PackageValidationError`. -/
def StrictRaised.IsPackage (raised : StrictRaised) : Prop :=
  ∃ code, raised = .package code

variable {finiteFloat : List Char → Option UInt64}

theorem not_isPackage_value : ¬StrictRaised.value.IsPackage := by
  rintro ⟨code, ⟨⟩⟩

end SecAI.Package

namespace SecAI.Package

open SecAI.Text
open SecAI.JsonSchema (doubleValue)
open Outcome (bind_eq_ok)

/-- What the loader and the writer are given by their libraries. -/
structure StrictEnvironment where
  /-- `float` of a literal, unless the result is not finite. -/
  finiteFloat : List Char → Option UInt64
  /-- `json.loads` ends with a `RecursionError`. -/
  exhausts : List Char → Bool
  /-- `rfc8785.dumps`; `none` is an exception. -/
  dumps : Decoded → Option (List UInt8)

/-- `load_strict_json`, with its `require_object`. -/
def loadStrict (env : StrictEnvironment) (requireObject : Bool)
    (data : List UInt8) : Except StrictRaised Decoded := do
  let text ← strictText data
  if env.exhausts text then .error (.package .invalidJson)
  else
    let value ← strictDocument env.finiteFloat text
    if requireObject && !value.isDict then
      .error (.package .jsonTopLevelInvalid)
    else return value

/-- `canonicalize_json`; `none` is an exception. -/
def canonicalizeJson (env : StrictEnvironment) (value : Decoded) :
    Option (List UInt8) :=
  env.dumps value

/-! ## Documents -/

mutual

def nesting : Decoded → Nat
  | .list items => nestingOfItems items + 1
  | .dict members => nestingOfMembers members + 1
  | .null | .bool _ | .int _ | .float _ | .str _ => 0

def nestingOfItems : List Decoded → Nat
  | [] => 0
  | item :: items => max (nesting item) (nestingOfItems items)

def nestingOfMembers : List (List CodePoint × Decoded) → Nat
  | [] => 0
  | (_, value) :: members => max (nesting value) (nestingOfMembers members)

end

mutual

def depth : JsonText → Nat
  | .array items => depthOfItems items + 1
  | .object members => depthOfMembers members + 1
  | .null | .bool _ | .number _ | .string _ => 0

def depthOfItems : List JsonText → Nat
  | [] => 0
  | item :: items => max (depth item) (depthOfItems items)

def depthOfMembers : List (List CodePoint × JsonText) → Nat
  | [] => 0
  | (_, value) :: members => max (depth value) (depthOfMembers members)

end

mutual

/-- No string of a document, and no key, has a lone surrogate. -/
def isScalarDocument : JsonText → Bool
  | .string content => Decoded.isScalarText content
  | .array items => areScalarItems items
  | .object members => areScalarMembers members
  | .null | .bool _ | .number _ => true

def areScalarItems : List JsonText → Bool
  | [] => true
  | item :: items => isScalarDocument item && areScalarItems items

def areScalarMembers : List (List CodePoint × JsonText) → Bool
  | [] => true
  | (key, value) :: members =>
      Decoded.isScalarText key && isScalarDocument value &&
        areScalarMembers members

end

/-- `isinstance(value, dict)`, of the document. -/
def isObjectDocument : JsonText → Bool
  | .object _ => true
  | _ => false

def strictValue (env : StrictEnvironment) :
    JsonText → Except (JsonRaised PackageValidationCode) Decoded :=
  interpret (strictNumberHook env.finiteFloat) objectWithoutDuplicates

/-! ## Values of the loader -/

/-- The floats of the environment are finite. -/
def GivesFinite (env : StrictEnvironment) : Prop :=
  ∀ literal bits, env.finiteFloat literal = some bits →
    (doubleValue bits).isSome = true

section Values

variable {env : StrictEnvironment}

/-- A number that the hooks accept is one that RFC 8785 can write. -/
theorem representable_of_number {literal : List Char} {value : Decoded}
    (finite : GivesFinite env)
    (read : strictNumberHook env.finiteFloat literal = .ok value) :
    value.isRepresentable = true ∧ nesting value = 0 ∧
      value.isDict = false := by
  rw [strictNumberHook] at read
  split at read
  · cases read
  split at read
  · rw [safeInteger] at read
    obtain ⟨number, _, done⟩ := bind_eq_ok.mp read
    split at done
    · next small =>
        cases done
        refine ⟨?_, rfl, rfl⟩
        rw [Decoded.isRepresentable]
        exact decide_eq_true small
    · cases done
  · split at read
    · next bits isFloat =>
        cases read
        refine ⟨?_, rfl, rfl⟩
        rw [Decoded.isRepresentable]
        exact finite _ _ isFloat
    · cases read

theorem object_eq_ok {pairs : Members} {value : Decoded}
    (built : hookedObject objectWithoutDuplicates pairs = .ok value) :
    value = .dict pairs := by
  rw [hookedObject, objectWithoutDuplicates] at built
  split at built
  · cases built
    rfl
  · cases built

mutual

/-- A value of the loader can be written exactly if the strings of its document
can, and it is as deep as that. -/
theorem strictValue_writable (finite : GivesFinite env) :
    ∀ {document : JsonText} {value : Decoded},
      strictValue env document = .ok value →
      value.isRepresentable = isScalarDocument document ∧
        nesting value = depth document ∧
        value.isDict = isObjectDocument document
  | .null, value, read => by
      cases read
      exact ⟨rfl, rfl, rfl⟩
  | .bool truth, value, read => by
      cases read
      exact ⟨rfl, rfl, rfl⟩
  | .number literal, value, read => by
      obtain ⟨representable, flat, noDict⟩ :=
        representable_of_number finite read
      exact ⟨representable, flat, noDict⟩
  | .string content, value, read => by
      cases read
      exact ⟨rfl, rfl, rfl⟩
  | .array items, value, read => by
      obtain ⟨values, readItems, done⟩ := bind_eq_ok.mp read
      cases done
      obtain ⟨representable, deep⟩ := strictItems_writable finite readItems
      refine ⟨?_, congrArg (· + 1) deep, rfl⟩
      rw [Decoded.isRepresentable, isScalarDocument, representable]
  | .object members, value, read => by
      obtain ⟨pairs, readMembers, built⟩ := bind_eq_ok.mp read
      cases object_eq_ok built
      obtain ⟨representable, deep⟩ := strictMembers_writable finite readMembers
      refine ⟨?_, congrArg (· + 1) deep, rfl⟩
      rw [Decoded.isRepresentable, isScalarDocument, representable]

theorem strictItems_writable (finite : GivesFinite env) :
    ∀ {items : List JsonText} {values : List Decoded},
      interpretItems (strictNumberHook env.finiteFloat)
        objectWithoutDuplicates items = .ok values →
      Decoded.itemsAreRepresentable values = areScalarItems items ∧
        nestingOfItems values = depthOfItems items
  | [], values, read => by
      cases read
      exact ⟨rfl, rfl⟩
  | item :: items, values, read => by
      obtain ⟨first, readFirst, more⟩ := bind_eq_ok.mp read
      obtain ⟨others, readOthers, done⟩ := bind_eq_ok.mp more
      cases done
      obtain ⟨representable, deep, _⟩ :=
        strictValue_writable finite readFirst
      obtain ⟨otherRepresentable, otherDeep⟩ :=
        strictItems_writable finite readOthers
      rw [Decoded.itemsAreRepresentable, areScalarItems, representable,
        otherRepresentable, nestingOfItems, depthOfItems, deep, otherDeep]
      exact ⟨rfl, rfl⟩

theorem strictMembers_writable (finite : GivesFinite env) :
    ∀ {members : List (List CodePoint × JsonText)} {pairs : Members},
      interpretMembers (strictNumberHook env.finiteFloat)
        objectWithoutDuplicates members = .ok pairs →
      Decoded.membersAreRepresentable pairs = areScalarMembers members ∧
        nestingOfMembers pairs = depthOfMembers members
  | [], pairs, read => by
      cases read
      exact ⟨rfl, rfl⟩
  | (key, item) :: members, pairs, read => by
      obtain ⟨first, readFirst, more⟩ := bind_eq_ok.mp read
      obtain ⟨others, readOthers, done⟩ := bind_eq_ok.mp more
      cases done
      obtain ⟨representable, deep, _⟩ :=
        strictValue_writable finite readFirst
      obtain ⟨otherRepresentable, otherDeep⟩ :=
        strictMembers_writable finite readOthers
      rw [Decoded.membersAreRepresentable, areScalarMembers, representable,
        otherRepresentable, nestingOfMembers, depthOfMembers, deep, otherDeep]
      exact ⟨rfl, rfl⟩

end

end Values

/-! ## What leaves the two -/

/-- `rfc8785.dumps` writes the values of JSON that RFC 8785 has a form for, up
to the depth that its recursion has room for. -/
def FollowsRfc8785 (env : StrictEnvironment) (room : Nat) : Prop :=
  ∀ value, (env.dumps value).isSome =
    (value.isRepresentable && decide (nesting value ≤ room))

/-- Loading ends with a value or a `PackageValidationError`, and a value that
is loaded is canonicalised. -/
def ClosesOver (env : StrictEnvironment) (requireObject : Bool)
    (data : List UInt8) : Prop :=
  (∀ raised, loadStrict env requireObject data = .error raised →
    raised.IsPackage) ∧
  ∀ value, loadStrict env requireObject data = .ok value →
    (canonicalizeJson env value).isSome = true

/-- The hooks accept a document, and it is an object where one is required. -/
def isAccepted (env : StrictEnvironment) (requireObject : Bool)
    (document : JsonText) : Bool :=
  (strictValue env document).isOk &&
    (!requireObject || isObjectDocument document)

/-- A document has no lone surrogate, and it is not nested too deep. -/
def isWritable (room : Nat) (document : JsonText) : Bool :=
  isScalarDocument document && decide (depth document ≤ room)

/-- The loader does not come to an integer of too many digits in a text, and if
the text is an accepted document, that can be written. -/
def staysTyped (env : StrictEnvironment) (room : Nat) (requireObject : Bool)
    (text : List Char) : Bool :=
  !reachesLong (strictNumberHook env.finiteFloat) objectWithoutDuplicates
      text &&
    (loads anyLiteral text).all fun document =>
      !isAccepted env requireObject document || isWritable room document

/-- The bytes are refused before they are read as a document, or the document
stays within what the loader and the writer handle. -/
def hasNoEscape (env : StrictEnvironment) (room : Nat) (requireObject : Bool)
    (data : List UInt8) : Bool :=
  match strictText data with
  | .ok text => env.exhausts text || staysTyped env room requireObject text
  | .error _ => true

section Closure

variable {env : StrictEnvironment} {room : Nat}

/-- `int` raises its error for the integers of too many digits. -/
theorem strictNumberHook_raisesForLong
    (finiteFloat : List Char → Option UInt64) :
    RaisesForLong (strictNumberHook finiteFloat) := by
  intro literal
  rw [strictNumberHook]
  by_cases word : literal ∈ nonFinite
  case pos =>
    rw [if_pos word, isLongInteger, isIntegerLiteral,
      decide_eq_false (not_not_intro word)]
    simp
  case neg =>
    rw [if_neg word]
    by_cases isInteger : isIntegerLiteral literal = true
    case pos =>
      rw [if_pos isInteger, isLongInteger, isInteger, Bool.true_and,
        decide_eq_true_eq, safeInteger, bind_eq_error_iff, integerOfLiteral]
      split
      · next long => exact iff_of_true (.inl rfl) long
      rename_i short
      refine iff_of_false ?_ short
      rintro (raised | ⟨number, _, raised⟩)
      · split at raised <;> cases raised
      · split at raised <;> cases raised
    case neg =>
      rw [if_neg isInteger, isLongInteger, Bool.eq_false_of_not_eq_true
        isInteger]
      refine iff_of_false ?_ Bool.false_ne_true
      intro raised
      split at raised <;> cases raised

variable {text : List Char}

/-- The loader raises the error of `int` where it comes to an integer of too
many digits. -/
theorem strictDocument_eq_value_iff :
    strictDocument env.finiteFloat text = .error .value ↔
      reachesLong (strictNumberHook env.finiteFloat)
        objectWithoutDuplicates text = true := by
  rw [← loadHooked_eq_integer_iff (strictNumberHook_raisesForLong _),
    strictDocument]
  cases loadHooked (strictNumberHook env.finiteFloat)
      objectWithoutDuplicates text with
  | ok document => exact iff_of_false nofun nofun
  | error raised =>
      cases raised with
      | decode => exact iff_of_false nofun nofun
      | integer => exact iff_of_true rfl rfl
      | hook code => exact iff_of_false nofun nofun

theorem strictDocument_eq_ok_iff {value : Decoded} :
    strictDocument env.finiteFloat text = .ok value ↔
      ∃ document, loads anyLiteral text = some document ∧
        strictValue env document = .ok value := by
  have read : loadHooked (strictNumberHook env.finiteFloat)
      objectWithoutDuplicates text = .ok value ↔ _ := loadHooked_eq_ok_iff
  rw [strictValue, ← read, strictDocument]
  cases loadHooked (strictNumberHook env.finiteFloat)
      objectWithoutDuplicates text with
  | ok document => simp only [Except.ok.injEq]
  | error raised => cases raised <;> exact iff_of_false nofun nofun

variable {data : List UInt8}

/-- With a text that its recursion can follow, the loader returns the values of
the accepted documents. -/
theorem loadStrict_eq_ok_iff {requireObject : Bool} (finite : GivesFinite env)
    (read : strictText data = .ok text) (follows : env.exhausts text = false)
    {value : Decoded} :
    loadStrict env requireObject data = .ok value ↔
      ∃ document, loads anyLiteral text = some document ∧
        strictValue env document = .ok value ∧
        isAccepted env requireObject document = true := by
  rw [loadStrict, read, Outcome.ok_bind, follows,
    if_neg Bool.false_ne_true, bind_eq_ok]
  constructor
  case mp =>
    rintro ⟨loaded, isLoaded, done⟩
    split at done
    · cases done
    rename_i kept
    cases done
    obtain ⟨document, scanned, isValue⟩ :=
      strictDocument_eq_ok_iff.mp isLoaded
    refine ⟨document, scanned, isValue, ?_⟩
    have same := (strictValue_writable finite isValue).2.2
    rw [isAccepted, isValue, ← same, Bool.and_eq_true]
    refine ⟨rfl, ?_⟩
    rw [Bool.and_eq_true, not_and] at kept
    cases requireObject with
    | false => rfl
    | true => simpa using kept rfl
  case mpr =>
    rintro ⟨document, scanned, isValue, accepted⟩
    refine ⟨value, strictDocument_eq_ok_iff.mpr ⟨document, scanned, isValue⟩,
      ?_⟩
    have same := (strictValue_writable finite isValue).2.2
    rw [isAccepted, ← same, Bool.and_eq_true] at accepted
    rw [if_neg]
    · rfl
    · rw [Bool.and_eq_true, not_and]
      rintro rfl
      simpa using accepted.2

theorem loadStrict_eq_value_iff {requireObject : Bool}
    (read : strictText data = .ok text)
    (follows : env.exhausts text = false) :
    loadStrict env requireObject data = .error .value ↔
      reachesLong (strictNumberHook env.finiteFloat)
        objectWithoutDuplicates text = true := by
  rw [← strictDocument_eq_value_iff, loadStrict, read, Outcome.ok_bind,
    follows, if_neg Bool.false_ne_true]
  cases strictDocument env.finiteFloat text with
  | error raised => exact Iff.rfl
  | ok value =>
      rw [Outcome.ok_bind]
      refine iff_of_false ?_ nofun
      split <;> nofun

theorem strictText_isPackage {raised : StrictRaised}
    (refused : strictText data = .error raised) : raised.IsPackage := by
  rw [strictText] at refused
  split at refused
  · cases refused
    exact ⟨_, rfl⟩
  split at refused
  · cases refused
  · cases refused
    exact ⟨_, rfl⟩

/-- The loader and the writer are closed exactly over the bytes without an
integer of too many digits that is reached, and without a document that is
accepted although it has a lone surrogate or is nested too deep. -/
theorem strict_loading_closed_iff (rfc : FollowsRfc8785 env room)
    (finite : GivesFinite env) (requireObject : Bool) (data : List UInt8) :
    ClosesOver env requireObject data ↔
      hasNoEscape env room requireObject data = true := by
  rw [ClosesOver, hasNoEscape]
  cases read : strictText data with
  | error raised =>
      refine iff_of_true ⟨?_, ?_⟩ rfl
      · intro other isRaised
        rw [loadStrict, read] at isRaised
        cases isRaised
        exact strictText_isPackage read
      · intro value loaded
        rw [loadStrict, read] at loaded
        cases loaded
  | ok text =>
      rw [Bool.or_eq_true]
      by_cases exhausted : env.exhausts text = true
      case pos =>
        -- The `RecursionError` of the reader is caught.
        have refused : loadStrict env requireObject data =
            .error (.package .invalidJson) := by
          rw [loadStrict, read, Outcome.ok_bind, if_pos exhausted]
        refine iff_of_true ⟨?_, ?_⟩ (.inl exhausted)
        · intro raised isRaised
          rw [refused] at isRaised
          cases isRaised
          exact ⟨_, rfl⟩
        · intro value loaded
          rw [refused] at loaded
          cases loaded
      case neg =>
        have follows : env.exhausts text = false :=
          Bool.eq_false_of_not_eq_true exhausted
        rw [or_iff_right exhausted, staysTyped, Bool.and_eq_true,
          Bool.not_eq_true', ← Bool.not_eq_true]
        have untyped : loadStrict env requireObject data = .error .value ↔ _ :=
          loadStrict_eq_value_iff read follows
        refine and_congr ?_ ?_
        · rw [← untyped]
          constructor
          case mp =>
            intro typed raised
            exact not_isPackage_value (typed _ raised)
          case mpr =>
            intro other raised isRaised
            cases raised with
            | package code => exact ⟨code, rfl⟩
            | value => exact absurd isRaised other
        · rw [Option.all_eq_true]
          constructor
          case mp =>
            intro written document scanned
            rw [Bool.or_eq_true, Bool.not_eq_true', ← Bool.not_eq_true]
            by_cases accepted : isAccepted env requireObject document = true
            case neg => exact .inl accepted
            case pos =>
              right
              rw [isAccepted, Bool.and_eq_true] at accepted
              obtain ⟨value, isValue⟩ := Outcome.eq_ok_of_isOk accepted.1
              have loaded : loadStrict env requireObject data = .ok value :=
                (loadStrict_eq_ok_iff finite read follows).mpr
                  ⟨document, scanned, isValue, by
                    rw [isAccepted, Bool.and_eq_true]
                    exact accepted⟩
              have writes := written value loaded
              obtain ⟨scalar, deep, _⟩ := strictValue_writable finite isValue
              rw [canonicalizeJson, rfc, scalar, deep] at writes
              exact writes
          case mpr =>
            intro writable value loaded
            obtain ⟨document, scanned, isValue, accepted⟩ :=
              (loadStrict_eq_ok_iff finite read follows).mp loaded
            have fits := writable document scanned
            rw [accepted, Bool.not_true, Bool.false_or] at fits
            obtain ⟨scalar, deep, _⟩ := strictValue_writable finite isValue
            rw [canonicalizeJson, rfc, scalar, deep]
            exact fits

end Closure

/-! ## A lone surrogate -/

/-- An environment with room for some levels, in which no literal is a float;
of the values it writes, only the empty object is asked for. -/
def sampleStrictEnvironment : StrictEnvironment where
  finiteFloat := fun _ => none
  exhausts := fun _ => false
  dumps := fun value =>
    if value.isRepresentable && decide (nesting value ≤ 900) then
      some [0x7B, 0x7D]
    else none

theorem sampleStrictEnvironment_follows :
    FollowsRfc8785 sampleStrictEnvironment 900 := by
  intro value
  change (if _ then some _ else none).isSome = _
  split
  · next written => exact written.symm
  · next refused => exact (Bool.eq_false_of_not_eq_true refused).symm

theorem sampleStrictEnvironment_finite :
    GivesFinite sampleStrictEnvironment := nofun

/-- The bytes of `\x7b"a":"\ud800"\x7d`. -/
def loneSurrogateBytes : List UInt8 :=
  [0x7B, 0x22, 0x61, 0x22, 0x3A, 0x22, 0x5C, 0x75, 0x64, 0x38, 0x30, 0x30, 0x22,
    0x7D]

/-- A document with an escaped lone surrogate is loaded, and has no canonical
form. -/
theorem lone_surrogate_escapes :
    ¬∀ (env : StrictEnvironment) (room : Nat), FollowsRfc8785 env room →
      GivesFinite env → ∀ (requireObject : Bool) (data : List UInt8),
        ClosesOver env requireObject data := by
  intro closed
  have always := closed _ _ sampleStrictEnvironment_follows
    sampleStrictEnvironment_finite true loneSurrogateBytes
  have unwritable : ((loadStrict sampleStrictEnvironment true
      loneSurrogateBytes).toOption.map Decoded.isRepresentable) =
        some false := by
    decide
  cases loaded : loadStrict sampleStrictEnvironment true
      loneSurrogateBytes with
  | error raised =>
      rw [loaded] at unwritable
      cases unwritable
  | ok value =>
      rw [loaded] at unwritable
      have representable : value.isRepresentable = false :=
        Option.some_inj.mp unwritable
      have written := always.2 value loaded
      rw [canonicalizeJson, sampleStrictEnvironment_follows,
        representable] at written
      cases written

/-- The empty object is loaded and written. -/
theorem empty_object_is_closed :
    ClosesOver sampleStrictEnvironment true [0x7B, 0x7D] :=
  (strict_loading_closed_iff sampleStrictEnvironment_follows
    sampleStrictEnvironment_finite true [0x7B, 0x7D]).mpr (by decide)

end SecAI.Package
