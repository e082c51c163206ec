/-
Module: SecAI.Text.HookedJson
Purpose: `json.loads` with hooks for objects and numbers, which raises the
  first of its errors in the order of the text.
Trusted boundary: `float` of a literal is a parameter; the nesting stays within
  the recursion limit
Main exports:
  JsonRaised, ObjectHook, NumberHook, plainObjects
-/
import SecAI.Common.Outcome
import SecAI.Text.Numerals

namespace SecAI.Text

/-- What leaves `json.loads`. -/
inductive JsonRaised (ε : Type) where
  /-- `JSONDecodeError`. -/
  | decode
  /-- The `ValueError` of `int` for a literal with too many digits. -/
  | integer
  /-- What the hook raises. -/
  | hook (raised : ε)

/-- `object_pairs_hook`. -/
abbrev ObjectHook (ε : Type) := Members → Except ε Decoded

/-- `dict(pairs)`: a key keeps its first place and its last value. -/
def lastMembers (pairs : Members) : Members :=
  pairs.foldl (fun members entry =>
    if members.any fun other => decide (other.1 = entry.1) then
      members.map fun other =>
        if other.1 = entry.1 then (other.1, entry.2) else other
    else members ++ [entry]) []

def plainObjects : ObjectHook Empty := fun pairs => .ok (.dict (lastMembers pairs))

/-- `parse_int`, `parse_float` and `parse_constant`, of a literal. -/
abbrev NumberHook (ε : Type) := List Char → Except (JsonRaised ε) Decoded

/-- A literal that is none of a float. -/
def isIntegerLiteral (literal : List Char) : Bool :=
  decide (literal ∉ nonFinite) &&
    !literal.any fun character => decide (character ∈ ['.', 'e', 'E'])

/-- The digits of an integer literal. -/
def literalDigits (literal : List Char) : List Char :=
  literal.dropWhile fun character => decide (character = '-')

/-- `int` of a literal. -/
def integerOfLiteral {ε : Type} (literal : List Char) :
    Except (JsonRaised ε) Int :=
  if maximumDigits < (literalDigits literal).length then .error .integer
  else
    match wholeNumber literal with
    | some value => .ok value
    | none => .error .decode

/-- Without hooks for numbers; a float may be infinite or NaN. -/
def plainNumber {ε : Type} (floatOf : List Char → UInt64) : NumberHook ε :=
  fun literal =>
    if isIntegerLiteral literal then (integerOfLiteral literal).map .int
    else .ok (.float (floatOf literal))

section Loading

variable {ε : Type} (readNumber : NumberHook ε) (hook : ObjectHook ε)

def hookedObject (pairs : Members) : Except (JsonRaised ε) Decoded :=
  (hook pairs).mapError .hook

/-- A string behind its opening quote. -/
def hookedString (text : List Char) :
    Except (JsonRaised ε) (List CodePoint × List Char) :=
  match scanString text with
  | some found => .ok found
  | none => .error .decode

/-- A value that is none of the containers. -/
def hookedScalar (text : List Char) :
    Except (JsonRaised ε) (Decoded × List Char) :=
  match scanWord text with
  | some (.null, rest) => .ok (.null, rest)
  | some (.bool value, rest) => .ok (.bool value, rest)
  | some (.number literal, rest) => do
      let value ← readNumber literal
      return (value, rest)
  | some _ => .error .decode
  | none =>
      match scanNumber text with
      | some (literal, rest) => do
          let value ← readNumber literal
          return (value, rest)
      | none => .error .decode

mutual

/-- One value at the start of a text, and the text behind it. -/
def hookedValue : Nat → List Char →
    Except (JsonRaised ε) (Decoded × List Char)
  | 0, _ => .error .decode
  | fuel + 1, text =>
      match text with
      | '"' :: rest => do
          let (content, rest) ← hookedString rest
          return (.str content, rest)
      | '{' :: rest =>
          match skipBlanks rest with
          | '}' :: rest => do
              let value ← hookedObject hook []
              return (value, rest)
          | rest => do
              let (pairs, rest) ← hookedPairs fuel rest
              let value ← hookedObject hook pairs
              return (value, rest)
      | '[' :: rest =>
          match skipBlanks rest with
          | ']' :: rest => .ok (.list [], rest)
          | rest => do
              let (items, rest) ← hookedItems fuel rest
              return (.list items, rest)
      | text => hookedScalar readNumber text

/-- The items of an array up to its end. -/
def hookedItems : Nat → List Char →
    Except (JsonRaised ε) (List Decoded × List Char)
  | 0, _ => .error .decode
  | fuel + 1, text => do
      let (item, behind) ← hookedValue fuel text
      match skipBlanks behind with
      | ']' :: rest => return ([item], rest)
      | ',' :: rest => do
          let (items, rest) ← hookedItems fuel (skipBlanks rest)
          return (item :: items, rest)
      | _ => .error .decode

/-- The pairs of an object up to its end. -/
def hookedPairs : Nat → List Char →
    Except (JsonRaised ε) (Members × List Char)
  | 0, _ => .error .decode
  | fuel + 1, text =>
      match text with
      | '"' :: text => do
          let (key, behindKey) ← hookedString text
          match skipBlanks behindKey with
          | ':' :: behindColon => do
              let (value, behind) ← hookedValue fuel (skipBlanks behindColon)
              match skipBlanks behind with
              | '}' :: rest => return ([(key, value)], rest)
              | ',' :: rest => do
                  let (pairs, rest) ← hookedPairs fuel (skipBlanks rest)
                  return ((key, value) :: pairs, rest)
              | _ => .error .decode
          | _ => .error .decode
      | _ => .error .decode

end

/-- `json.loads`. -/
def loadHooked (text : List Char) : Except (JsonRaised ε) Decoded := do
  let (value, rest) ← hookedValue readNumber hook (text.length + 1)
    (skipBlanks text)
  if skipBlanks rest = [] then return value else .error .decode

/-- What the hook raises is allowed, and so are the errors of the loader. -/
def HookAllows (allowed : ε → Prop) : JsonRaised ε → Prop
  | .hook raised => allowed raised
  | _ => True

variable {readNumber hook} {allowed : ε → Prop}

theorem confined_integerOfLiteral (literal : List Char) :
    Outcome.Confined (HookAllows allowed) (integerOfLiteral literal) := by
  unfold integerOfLiteral
  refine Outcome.Confined.guard trivial fun _ => ?_
  split
  · exact Outcome.confined_ok _
  · exact Outcome.confined_error_iff.mpr trivial

theorem confined_plainNumber (floatOf : List Char → UInt64)
    (literal : List Char) :
    Outcome.Confined (HookAllows allowed) (plainNumber floatOf literal) := by
  unfold plainNumber
  split
  · cases read : (integerOfLiteral literal : Except (JsonRaised ε) Int) with
    | error raised =>
        exact Outcome.confined_error_iff.mpr
          (confined_integerOfLiteral literal raised read)
    | ok value => exact Outcome.confined_ok _
  · exact Outcome.confined_ok _

theorem confined_hookedScalar
    (numbers : ∀ literal, Outcome.Confined (HookAllows allowed)
      (readNumber literal)) (text : List Char) :
    Outcome.Confined (HookAllows allowed) (hookedScalar readNumber text) := by
  have decode {α : Type} : Outcome.Confined (HookAllows allowed)
      (.error .decode : Except (JsonRaised ε) α) :=
    Outcome.confined_error_iff.mpr trivial
  unfold hookedScalar
  split
  · exact Outcome.confined_ok _
  · exact Outcome.confined_ok _
  · exact (numbers _).bind fun _ _ => Outcome.confined_ok _
  · exact decode
  · split
    · exact (numbers _).bind fun _ _ => Outcome.confined_ok _
    · exact decode

theorem confined_hookedString (text : List Char) :
    Outcome.Confined (HookAllows allowed) (hookedString text) := by
  unfold hookedString
  split
  · exact Outcome.confined_ok _
  · exact Outcome.confined_error_iff.mpr trivial

theorem confined_hookedObject
    (each : ∀ pairs, Outcome.Confined allowed (hook pairs)) (pairs : Members) :
    Outcome.Confined (HookAllows allowed) (hookedObject hook pairs) := by
  unfold hookedObject
  cases returned : hook pairs with
  | error raised =>
      exact Outcome.confined_error_iff.mpr (each pairs raised returned)
  | ok value => exact Outcome.confined_ok _

/-- Of the three scans, with the same fuel. -/
theorem confined_scans
    (numbers : ∀ literal, Outcome.Confined (HookAllows allowed)
      (readNumber literal))
    (each : ∀ pairs, Outcome.Confined allowed (hook pairs)) : ∀ fuel,
    (∀ text, Outcome.Confined (HookAllows allowed)
      (hookedValue readNumber hook fuel text)) ∧
    (∀ text, Outcome.Confined (HookAllows allowed)
      (hookedItems readNumber hook fuel text)) ∧
    ∀ text, Outcome.Confined (HookAllows allowed)
      (hookedPairs readNumber hook fuel text) := by
  have decode {α : Type} : Outcome.Confined (HookAllows allowed)
      (.error .decode : Except (JsonRaised ε) α) :=
    Outcome.confined_error_iff.mpr trivial
  intro fuel
  induction fuel with
  | zero =>
      refine ⟨fun text => ?_, fun text => ?_, fun text => ?_⟩
      · rw [hookedValue]
        exact decode
      · rw [hookedItems]
        exact decode
      · rw [hookedPairs]
        exact decode
  | succ fuel ih =>
      obtain ⟨values, items, pairs⟩ := ih
      have object := @confined_hookedObject ε hook allowed each
      refine ⟨fun text => ?_, fun text => ?_, fun text => ?_⟩
      · rw [hookedValue.eq_def]
        dsimp only
        split
        · exact (confined_hookedString _).bind fun _ _ => Outcome.confined_ok _
        · split
          · exact (object _).bind fun _ _ => Outcome.confined_ok _
          · exact (pairs _).bind fun _ _ =>
              (object _).bind fun _ _ => Outcome.confined_ok _
        · split
          · exact Outcome.confined_ok _
          · exact (items _).bind fun _ _ => Outcome.confined_ok _
        · exact confined_hookedScalar numbers _
      · rw [hookedItems]
        refine (values _).bind fun found _ => ?_
        dsimp only
        split
        · exact Outcome.confined_ok _
        · exact (items _).bind fun _ _ => Outcome.confined_ok _
        · exact decode
      · rw [hookedPairs.eq_def]
        dsimp only
        split
        · refine (confined_hookedString _).bind fun key _ => ?_
          split
          · refine (values _).bind fun found _ => ?_
            split
            · exact Outcome.confined_ok _
            · exact (pairs _).bind fun _ _ => Outcome.confined_ok _
            · exact decode
          · exact decode
        · exact decode

theorem confined_loadHooked
    (numbers : ∀ literal, Outcome.Confined (HookAllows allowed)
      (readNumber literal))
    (each : ∀ pairs, Outcome.Confined allowed (hook pairs)) (text : List Char) :
    Outcome.Confined (HookAllows allowed) (loadHooked readNumber hook text) := by
  unfold loadHooked
  refine ((confined_scans numbers each _).1 _).bind fun found _ => ?_
  dsimp only
  split
  · exact Outcome.confined_ok _
  · exact Outcome.confined_error_iff.mpr trivial

end Loading

end SecAI.Text
