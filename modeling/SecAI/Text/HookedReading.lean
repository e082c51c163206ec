/-
Module: SecAI.Text.HookedReading
Purpose: `json.loads` with hooks returns what the hooks make of the scanned
  document, and stops at an integer of too many digits exactly if all before it
  can be read.
Trusted boundary: the nesting stays within the recursion limit
Main exports:
  interpret, readBefore, longInValue, loadHooked_eq_ok_iff
-/
import SecAI.Text.HookedJson

namespace SecAI.Text

open Outcome (bind_eq_ok)

def anyLiteral : List Char → Bool := fun _ => true

section Reading

variable {ε : Type} (readNumber : NumberHook ε) (hook : ObjectHook ε)

/-! ## What the hooks make of a document -/

mutual

/-- What the hooks make of a scanned document. -/
def interpret : JsonText → Except (JsonRaised ε) Decoded
  | .null => .ok .null
  | .bool value => .ok (.bool value)
  | .number literal => readNumber literal
  | .string content => .ok (.str content)
  | .array items => do
      let values ← interpretItems items
      return .list values
  | .object members => do
      let pairs ← interpretMembers members
      hookedObject hook pairs

/-- What they make of the items of an array. -/
def interpretItems : List JsonText → Except (JsonRaised ε) (List Decoded)
  | [] => .ok []
  | item :: items => do
      let value ← interpret item
      let values ← interpretItems items
      return value :: values

/-- What they make of the members of an object. -/
def interpretMembers :
    List (List CodePoint × JsonText) → Except (JsonRaised ε) Members
  | [] => .ok []
  | (key, item) :: members => do
      let value ← interpret item
      let pairs ← interpretMembers members
      return (key, value) :: pairs

end

/-- What stands behind a value that is scanned and that the hooks accept. -/
def readBefore (fuel : Nat) (text : List Char) : Option (List Char) :=
  match scanValue anyLiteral fuel text with
  | some (document, behind) =>
      if (interpret readNumber hook document).isOk then some behind else none
  | none => none

/-! ## Where a literal is reached -/

/-- An integer literal with too many digits for `int`. -/
def isLongInteger (literal : List Char) : Bool :=
  isIntegerLiteral literal &&
    decide (maximumDigits < (literalDigits literal).length)

mutual

/-- In a value, the reader comes to an integer of too many digits. -/
def longInValue : Nat → List Char → Bool
  | 0, _ => false
  | fuel + 1, text =>
      match text with
      | '"' :: _ => false
      | '{' :: rest =>
          match skipBlanks rest with
          | '}' :: _ => false
          | rest => longInPairs fuel rest
      | '[' :: rest =>
          match skipBlanks rest with
          | ']' :: _ => false
          | rest => longInItems fuel rest
      | text =>
          (scanWord text).isNone &&
            (scanNumber text).any fun found => isLongInteger found.1

/-- In the items of an array: in the first one, or behind it if it can be
read. -/
def longInItems : Nat → List Char → Bool
  | 0, _ => false
  | fuel + 1, text =>
      longInValue fuel text ||
        match (readBefore readNumber hook fuel text).map skipBlanks with
        | some (',' :: rest) => longInItems fuel (skipBlanks rest)
        | _ => false

/-- In the members of an object: in the first value, or behind it if it can be
read. -/
def longInPairs : Nat → List Char → Bool
  | 0, _ => false
  | fuel + 1, text =>
      match text with
      | '"' :: text =>
          match (scanString text).map fun found => skipBlanks found.2 with
          | some (':' :: behindColon) =>
              let value := skipBlanks behindColon
              longInValue fuel value ||
                match (readBefore readNumber hook fuel value).map
                  skipBlanks with
                | some (',' :: rest) => longInPairs fuel (skipBlanks rest)
                | _ => false
          | _ => false
      | _ => false

end

/-! ## What is returned -/

variable {readNumber hook}

variable {text rest : List Char}

theorem scanWord_cases {document : JsonText}
    (found : scanWord text = some (document, rest)) :
    document = .null ∨ (∃ value, document = .bool value) ∨
      ∃ literal ∈ nonFinite, document = .number literal := by
  rw [scanWord] at found
  split at found
  · cases found
    exact .inl rfl
  split at found
  · cases found
    exact .inr (.inl ⟨_, rfl⟩)
  split at found
  · cases found
    exact .inr (.inl ⟨_, rfl⟩)
  obtain ⟨word, isWord, scanned⟩ :=
    List.exists_of_findSome?_eq_some found
  obtain ⟨behind, _, same⟩ := Option.map_eq_some_iff.mp scanned
  cases same
  exact .inr (.inr ⟨word, isWord, rfl⟩)

/-- A text that begins with no string and no container. -/
structure BeginsScalar (text : List Char) : Prop where
  notString : ∀ rest, text ≠ '"' :: rest
  notObject : ∀ rest, text ≠ '{' :: rest
  notArray : ∀ rest, text ≠ '[' :: rest

theorem scanValue_scalar (fuel : Nat) (scalar : BeginsScalar text) :
    scanValue anyLiteral (fuel + 1) text =
      match scanWord text with
      | some found => some found
      | none => (scanNumber text).map fun (literal, rest) =>
          (.number literal, rest) := by
  rw [scanValue.eq_def]
  dsimp only
  split
  case h_1 same => cases same
  case h_2 => exact absurd rfl (scalar.notString _)
  case h_3 => exact absurd rfl (scalar.notObject _)
  case h_4 => exact absurd rfl (scalar.notArray _)
  case h_5 =>
    cases scanWord _ with
    | some found => rfl
    | none => cases scanNumber _ <;> rfl

theorem longInValue_scalar (fuel : Nat) (scalar : BeginsScalar text) :
    longInValue readNumber hook (fuel + 1) text =
      ((scanWord text).isNone &&
        (scanNumber text).any fun found => isLongInteger found.1) := by
  rw [longInValue.eq_def]
  dsimp only
  split
  case h_1 => exact absurd rfl (scalar.notString _)
  case h_2 => exact absurd rfl (scalar.notObject _)
  case h_3 => exact absurd rfl (scalar.notArray _)
  case h_4 => rfl

variable {value : Decoded}

theorem readNumber_eq_ok_iff {literal behind : List Char} :
    (do
      let read ← readNumber literal
      return (read, behind)) = Except.ok (value, rest) ↔
      readNumber literal = .ok value ∧ behind = rest := by
  rw [bind_eq_ok]
  constructor
  case mp =>
    rintro ⟨read, isRead, done⟩
    cases done
    exact ⟨isRead, rfl⟩
  case mpr =>
    rintro ⟨isRead, rfl⟩
    exact ⟨value, isRead, rfl⟩

/-- A scalar is scanned, and its literal is read. -/
theorem hookedScalar_eq_ok_iff (fuel : Nat) (scalar : BeginsScalar text) :
    hookedScalar readNumber text = .ok (value, rest) ↔
      ∃ document, scanValue anyLiteral (fuel + 1) text =
          some (document, rest) ∧
        interpret readNumber hook document = .ok value := by
  rw [scanValue_scalar fuel scalar, hookedScalar]
  cases word : scanWord text with
  | some found =>
      obtain ⟨document, behind⟩ := found
      rcases scanWord_cases word with rfl | ⟨truth, rfl⟩ | ⟨literal, _, rfl⟩
      · simp [interpret, and_comm]
      · simp [interpret, and_comm]
      · rw [readNumber_eq_ok_iff]
        simp [interpret, and_comm]
  | none =>
      cases number : scanNumber text with
      | none => simp
      | some found =>
          obtain ⟨literal, behind⟩ := found
          rw [readNumber_eq_ok_iff]
          simp [interpret, and_comm]

/-- Of the three readers, with the same fuel: what is returned is what the
hooks make of the scanned document. -/
def ReadsScanned (readNumber : NumberHook ε) (hook : ObjectHook ε)
    (fuel : Nat) : Prop :=
  (∀ text value rest,
    hookedValue readNumber hook fuel text = .ok (value, rest) ↔
      ∃ document, scanValue anyLiteral fuel text = some (document, rest) ∧
        interpret readNumber hook document = .ok value) ∧
  (∀ text values rest,
    hookedItems readNumber hook fuel text = .ok (values, rest) ↔
      ∃ items, scanItems anyLiteral fuel text = some (items, rest) ∧
        interpretItems readNumber hook items = .ok values) ∧
  ∀ text pairs rest,
    hookedPairs readNumber hook fuel text = .ok (pairs, rest) ↔
      ∃ members, scanMembers anyLiteral fuel text = some (members, rest) ∧
        interpretMembers readNumber hook members = .ok pairs

variable {α : Type}

variable {reading : Except (JsonRaised ε) (α × List Char)}

/-- A result is passed on, behind a value that was read. -/
theorem map_bind_eq_ok_iff {β : Type} {scanning : Option (β × List Char)}
    {interpreted : β → Except (JsonRaised ε) α}
    (agree : ∀ value rest, reading = .ok (value, rest) ↔
      ∃ scanned, scanning = some (scanned, rest) ∧
        interpreted scanned = .ok value) {γ δ : Type}
    (build : α → Except (JsonRaised ε) γ) (wrap : β → δ)
    {outcome : δ → Except (JsonRaised ε) γ}
    (same : ∀ scanned, outcome (wrap scanned) =
      interpreted scanned >>= build) (result : γ) (rest : List Char) :
    (reading >>= fun found => do
        let built ← build found.1
        return (built, found.2)) = .ok (result, rest) ↔
      ∃ document, (scanning.map fun found => (wrap found.1, found.2)) =
          some (document, rest) ∧ outcome document = .ok result := by
  rw [bind_eq_ok]
  constructor
  case mp =>
    rintro ⟨⟨value, behind⟩, read, done⟩
    obtain ⟨built, isBuilt, same'⟩ := bind_eq_ok.mp done
    cases same'
    obtain ⟨scanned, isScanned, isInterpreted⟩ := (agree value behind).mp read
    refine ⟨wrap scanned, ?_, ?_⟩
    · rw [isScanned]
      rfl
    · rw [same, bind_eq_ok]
      exact ⟨value, isInterpreted, isBuilt⟩
  case mpr =>
    rintro ⟨document, isScanned, done⟩
    obtain ⟨⟨scanned, behind⟩, found, isWrapped⟩ :=
      Option.map_eq_some_iff.mp isScanned
    cases isWrapped
    rw [same] at done
    obtain ⟨value, isInterpreted, isBuilt⟩ := bind_eq_ok.mp done
    exact ⟨(value, behind), (agree value behind).mpr
      ⟨scanned, found, isInterpreted⟩, bind_eq_ok.mpr ⟨result, isBuilt, rfl⟩⟩

theorem readsScanned_zero : ReadsScanned readNumber hook 0 := by
  refine ⟨fun text value rest => ?_, fun text values rest => ?_,
    fun text pairs rest => ?_⟩
  · rw [hookedValue, scanValue]
    simp
  · rw [hookedItems, scanItems]
    simp
  · rw [hookedPairs, scanMembers]
    · simp
    · intro _ _ next
      cases next

variable {fuel : Nat}

/-- A value is read as it is scanned. -/
theorem readsScanned_value (inner : ReadsScanned readNumber hook fuel)
    (text : List Char) (value : Decoded) (rest : List Char) :
    hookedValue readNumber hook (fuel + 1) text = .ok (value, rest) ↔
      ∃ document, scanValue anyLiteral (fuel + 1) text =
          some (document, rest) ∧
        interpret readNumber hook document = .ok value := by
  obtain ⟨_, items, pairs⟩ := inner
  rw [hookedValue.eq_def]
  dsimp only
  split
  case h_1 text =>
    rw [scanValue, hookedString]
    cases scanString text with
    | none => exact iff_of_false nofun nofun
    | some found =>
        obtain ⟨content, behind⟩ := found
        simp [Outcome.ok_bind, interpret, pure, Except.pure, and_comm]
  case h_2 text =>
    split
    case h_1 behind closes =>
      rw [scanValue, closes]
      simp only [Option.some_inj, Prod.mk.injEq]
      constructor
      case mp =>
        intro done
        obtain ⟨built, isBuilt, same⟩ := bind_eq_ok.mp done
        cases same
        exact ⟨.object [], ⟨rfl, rfl⟩, isBuilt⟩
      case mpr =>
        rintro ⟨_, ⟨rfl, rfl⟩, isBuilt⟩
        exact bind_eq_ok.mpr ⟨value, isBuilt, rfl⟩
    case h_2 notClosed =>
      rw [scanValue]
      split
      case h_1 behind closes => exact absurd closes (notClosed behind)
      case h_2 =>
        exact map_bind_eq_ok_iff (pairs (skipBlanks text)) (hookedObject hook)
          JsonText.object (fun _ => rfl) value rest
  case h_3 text =>
    split
    case h_1 behind closes =>
      rw [scanValue, closes]
      simp [interpret, interpretItems, and_comm, pure, Except.pure, bind,
        Except.bind]
    case h_2 notClosed =>
      rw [scanValue]
      split
      case h_1 behind closes => exact absurd closes (notClosed behind)
      case h_2 =>
        have array : ∀ scanned, interpret readNumber hook (.array scanned) =
            interpretItems readNumber hook scanned >>= fun values =>
              .ok (.list values) :=
          fun _ => rfl
        exact map_bind_eq_ok_iff (items (skipBlanks text))
          (fun values => .ok (.list values)) JsonText.array array value rest
  case h_4 notString notObject notArray =>
    exact hookedScalar_eq_ok_iff fuel ⟨notString, notObject, notArray⟩

/-- The items of an array are read as they are scanned. -/
theorem readsScanned_items (inner : ReadsScanned readNumber hook fuel)
    (text : List Char) (values : List Decoded) (rest : List Char) :
    hookedItems readNumber hook (fuel + 1) text = .ok (values, rest) ↔
      ∃ items, scanItems anyLiteral (fuel + 1) text = some (items, rest) ∧
        interpretItems readNumber hook items = .ok values := by
  obtain ⟨value, items, _⟩ := inner
  rw [hookedItems, bind_eq_ok]
  constructor
  case mp =>
    rintro ⟨⟨first, behind⟩, read, done⟩
    obtain ⟨document, scanned, interpreted⟩ := (value _ _ _).mp read
    dsimp only at done
    split at done
    case h_1 closes =>
      cases done
      rw [scanItems, scanned]
      dsimp only
      rw [closes]
      refine ⟨[document], rfl, ?_⟩
      rw [interpretItems, interpreted]
      rfl
    case h_2 more continues =>
      obtain ⟨⟨others, _⟩, readOthers, same⟩ := bind_eq_ok.mp done
      cases same
      obtain ⟨later, scannedLater, interpretedLater⟩ :=
        (items _ _ _).mp readOthers
      rw [scanItems, scanned]
      dsimp only
      rw [continues]
      refine ⟨document :: later, ?_, ?_⟩
      · simp only [scannedLater, Option.map_some]
      · rw [interpretItems, interpreted, interpretedLater]
        rfl
    case h_3 => cases done
  case mpr =>
    rintro ⟨all, scanned, interpreted⟩
    rw [scanItems] at scanned
    cases first : scanValue anyLiteral fuel text with
    | none =>
        rw [first] at scanned
        cases scanned
    | some found =>
        obtain ⟨document, behind⟩ := found
        rw [first] at scanned
        dsimp only at scanned
        split at scanned
        case h_1 closes =>
          cases scanned
          obtain ⟨single, isSingle, done⟩ := bind_eq_ok.mp interpreted
          obtain ⟨_, isNone, same⟩ := bind_eq_ok.mp done
          cases isNone
          cases same
          refine ⟨(single, behind), (value _ _ _).mpr
            ⟨document, first, isSingle⟩, ?_⟩
          dsimp only
          rw [closes]
          rfl
        case h_2 more continues =>
          obtain ⟨⟨later, last⟩, scannedLater, same⟩ :=
            Option.map_eq_some_iff.mp scanned
          cases same
          obtain ⟨single, isSingle, done⟩ := bind_eq_ok.mp interpreted
          obtain ⟨others, isOthers, same⟩ := bind_eq_ok.mp done
          cases same
          refine ⟨(single, behind), (value _ _ _).mpr
            ⟨document, first, isSingle⟩, ?_⟩
          dsimp only
          rw [continues]
          exact bind_eq_ok.mpr ⟨(others, last), (items _ _ _).mpr
            ⟨later, scannedLater, isOthers⟩, rfl⟩
        case h_3 => cases scanned

/-- The members of an object are read as they are scanned. -/
theorem readsScanned_pairs (inner : ReadsScanned readNumber hook fuel)
    (text : List Char) (pairs : Members) (rest : List Char) :
    hookedPairs readNumber hook (fuel + 1) text = .ok (pairs, rest) ↔
      ∃ members, scanMembers anyLiteral (fuel + 1) text =
          some (members, rest) ∧
        interpretMembers readNumber hook members = .ok pairs := by
  obtain ⟨value, _, members⟩ := inner
  rw [hookedPairs.eq_def]
  dsimp only
  split
  case h_2 notString =>
    rw [scanMembers]
    · simp
    · intro fuel text same
      exact notString text
  case h_1 text =>
    rw [hookedString]
    cases isString : scanString text with
    | none =>
        rw [scanMembers, isString]
        exact iff_of_false (by rintro ⟨⟩) (by simp)
    | some found =>
        obtain ⟨key, behindKey⟩ := found
        rw [Outcome.ok_bind]
        dsimp only
        split
        case h_2 notColon =>
          rw [scanMembers, isString]
          dsimp only
          split
          case h_1 behindColon colon => exact absurd colon (notColon _)
          case h_2 => simp
        case h_1 behindColon colon =>
          rw [bind_eq_ok]
          constructor
          case mp =>
            rintro ⟨⟨first, behind⟩, read, done⟩
            obtain ⟨document, scanned, interpreted⟩ := (value _ _ _).mp read
            dsimp only at done
            split at done
            case h_1 closes =>
              cases done
              rw [scanMembers, isString]
              dsimp only
              rw [colon]
              simp only [scanned]
              rw [closes]
              refine ⟨[(key, document)], rfl, ?_⟩
              rw [interpretMembers, interpreted]
              rfl
            case h_2 more continues =>
              obtain ⟨⟨others, _⟩, readOthers, same⟩ := bind_eq_ok.mp done
              cases same
              obtain ⟨later, scannedLater, interpretedLater⟩ :=
                (members _ _ _).mp readOthers
              rw [scanMembers, isString]
              dsimp only
              rw [colon]
              simp only [scanned]
              rw [continues]
              refine ⟨(key, document) :: later, ?_, ?_⟩
              · simp only [scannedLater, Option.map_some]
              · rw [interpretMembers, interpreted, interpretedLater]
                rfl
            case h_3 => cases done
          case mpr =>
            rintro ⟨all, scanned, interpreted⟩
            rw [scanMembers, isString] at scanned
            dsimp only at scanned
            rw [colon] at scanned
            cases first : scanValue anyLiteral fuel
                (skipBlanks behindColon) with
            | none =>
                simp only [first] at scanned
                cases scanned
            | some found =>
                obtain ⟨document, behind⟩ := found
                simp only [first] at scanned
                split at scanned
                case h_1 closes =>
                  cases scanned
                  obtain ⟨single, isSingle, done⟩ := bind_eq_ok.mp interpreted
                  obtain ⟨_, isNone, same⟩ := bind_eq_ok.mp done
                  cases isNone
                  cases same
                  refine ⟨(single, behind), (value _ _ _).mpr
                    ⟨document, first, isSingle⟩, ?_⟩
                  dsimp only
                  rw [closes]
                  rfl
                case h_2 more continues =>
                  obtain ⟨⟨later, last⟩, scannedLater, same⟩ :=
                    Option.map_eq_some_iff.mp scanned
                  cases same
                  obtain ⟨single, isSingle, done⟩ := bind_eq_ok.mp interpreted
                  obtain ⟨others, isOthers, same⟩ := bind_eq_ok.mp done
                  cases same
                  refine ⟨(single, behind), (value _ _ _).mpr
                    ⟨document, first, isSingle⟩, ?_⟩
                  dsimp only
                  rw [continues]
                  exact bind_eq_ok.mpr ⟨(others, last), (members _ _ _).mpr
                    ⟨later, scannedLater, isOthers⟩, rfl⟩
                case h_3 => cases scanned

/-- With every fuel, the readers return what the hooks make of the scanned
document. -/
theorem readsScanned (fuel : Nat) : ReadsScanned readNumber hook fuel := by
  induction fuel with
  | zero => exact readsScanned_zero
  | succ fuel inner =>
      exact ⟨readsScanned_value inner, readsScanned_items inner,
        readsScanned_pairs inner⟩

/-- `json.loads` returns what the hooks make of the scanned document. -/
theorem loadHooked_eq_ok_iff :
    loadHooked readNumber hook text = .ok value ↔
      ∃ document, loads anyLiteral text = some document ∧
        interpret readNumber hook document = .ok value := by
  have scans : ReadsScanned readNumber hook (text.length + 1) :=
    readsScanned _
  have read := scans.1 (skipBlanks text)
  rw [loadHooked, bind_eq_ok, loads]
  constructor
  case mp =>
    rintro ⟨⟨first, rest⟩, isRead, done⟩
    obtain ⟨document, scanned, interpreted⟩ := (read first rest).mp isRead
    dsimp only at done
    split at done
    · next whole =>
        cases done
        rw [scanned]
        exact ⟨document, if_pos whole, interpreted⟩
    · cases done
  case mpr =>
    rintro ⟨document, scanned, interpreted⟩
    cases first : scanValue anyLiteral (text.length + 1)
        (skipBlanks text) with
    | none =>
        rw [first] at scanned
        cases scanned
    | some found =>
        obtain ⟨found, rest⟩ := found
        rw [first] at scanned
        dsimp only at scanned
        split at scanned
        · next whole =>
            cases scanned
            refine ⟨(value, rest), (read value rest).mpr
              ⟨_, first, interpreted⟩, ?_⟩
            dsimp only
            rw [if_pos whole]
            rfl
        · cases scanned

/-! ## Where an integer of too many digits is reached -/

theorem readBefore_eq_some_iff {behind : List Char} :
    readBefore readNumber hook fuel text = some behind ↔
      ∃ value, hookedValue readNumber hook fuel text = .ok (value, behind) := by
  have scans : ReadsScanned readNumber hook fuel := readsScanned fuel
  simp only [scans.1, readBefore]
  constructor
  case mp =>
    intro read
    split at read
    · next document rest scanned =>
        split at read
        · next accepted =>
            cases read
            obtain ⟨value, isValue⟩ := Outcome.eq_ok_of_isOk accepted
            exact ⟨value, document, scanned, isValue⟩
        · cases read
    · cases read
  case mpr =>
    rintro ⟨value, document, scanned, isValue⟩
    simp only [scanned, isValue, Except.isOk, Except.toBool, if_true]

/-- The hook raises the error of `int` for the integers of too many digits. -/
def RaisesForLong (readNumber : NumberHook ε) : Prop :=
  ∀ literal, readNumber literal = .error .integer ↔
    isLongInteger literal = true

/-- Of the three readers, with the same fuel: they raise the error of `int`
where they come to an integer of too many digits. -/
def StopsAtLong (readNumber : NumberHook ε) (hook : ObjectHook ε)
    (fuel : Nat) : Prop :=
  (∀ text, hookedValue readNumber hook fuel text = .error .integer ↔
    longInValue readNumber hook fuel text = true) ∧
  (∀ text, hookedItems readNumber hook fuel text = .error .integer ↔
    longInItems readNumber hook fuel text = true) ∧
  ∀ text, hookedPairs readNumber hook fuel text = .error .integer ↔
    longInPairs readNumber hook fuel text = true

/-- A sequence raises an error if its first part does, or the rest behind
it. -/
theorem bind_eq_error_iff {β : Type} {first : Except (JsonRaised ε) α}
    {next : α → Except (JsonRaised ε) β} {raised : JsonRaised ε} :
    (first >>= next) = .error raised ↔ first = .error raised ∨
      ∃ value, first = .ok value ∧ next value = .error raised := by
  cases first with
  | ok value => simp [bind, Except.bind]
  | error other => simp [bind, Except.bind]

theorem hookedObject_ne_integer (pairs : Members) :
    hookedObject hook pairs ≠ .error .integer := by
  rw [hookedObject]
  cases hook pairs <;> nofun

theorem stopsAtLong_scalar (raises : RaisesForLong readNumber)
    (text : List Char) :
    hookedScalar readNumber text = .error .integer ↔
      ((scanWord text).isNone &&
        (scanNumber text).any fun found => isLongInteger found.1) = true := by
  have passed : ∀ (literal rest : List Char), (do
      let value ← readNumber literal
      return (value, rest)) = (.error .integer : Except (JsonRaised ε)
        (Decoded × List Char)) ↔ isLongInteger literal = true := by
    intro literal rest
    rw [bind_eq_error_iff, raises]
    refine or_iff_left ?_
    rintro ⟨value, _, done⟩
    cases done
  rw [hookedScalar]
  cases word : scanWord text with
  | some found =>
      obtain ⟨document, behind⟩ := found
      rcases scanWord_cases word with rfl | ⟨truth, rfl⟩ |
        ⟨literal, isWord, rfl⟩
      · exact iff_of_false nofun nofun
      · exact iff_of_false nofun nofun
      · rw [passed]
        -- The words are no integer literals.
        refine iff_of_false ?_ nofun
        rw [isLongInteger, isIntegerLiteral, decide_eq_false (not_not_intro
          isWord)]
        exact Bool.false_ne_true
  | none =>
      cases scanNumber text with
      | none => exact iff_of_false nofun nofun
      | some found =>
          rw [passed]
          exact Iff.rfl

theorem container_eq_integer_iff {build : α → Except (JsonRaised ε) Decoded}
    (own : ∀ found, build found ≠ .error .integer) :
    (reading >>= fun found => do
        let value ← build found.1
        return (value, found.2)) = .error .integer ↔
      reading = .error .integer := by
  rw [bind_eq_error_iff]
  refine or_iff_left ?_
  rintro ⟨found, _, raised⟩
  rcases bind_eq_error_iff.mp raised with inBuild | ⟨value, _, done⟩
  · exact own _ inBuild
  · cases done

theorem stopsAtLong_value (raises : RaisesForLong readNumber)
    (inner : StopsAtLong readNumber hook fuel) (text : List Char) :
    hookedValue readNumber hook (fuel + 1) text = .error .integer ↔
      longInValue readNumber hook (fuel + 1) text = true := by
  obtain ⟨_, items, pairs⟩ := inner
  rw [hookedValue.eq_def]
  dsimp only
  split
  case h_1 text =>
    rw [longInValue, hookedString]
    cases scanString text <;> simp
  case h_2 text =>
    split
    case h_1 behind closes =>
      rw [longInValue, closes]
      refine iff_of_false ?_ (by simp)
      intro raised
      rcases bind_eq_error_iff.mp raised with inHook | ⟨value, _, done⟩
      · exact hookedObject_ne_integer _ inHook
      · cases done
    case h_2 notClosed =>
      rw [longInValue]
      split
      case h_1 behind closes => exact absurd closes (notClosed behind)
      case h_2 =>
        rw [← pairs]
        exact container_eq_integer_iff hookedObject_ne_integer
  case h_3 text =>
    split
    case h_1 behind closes =>
      rw [longInValue, closes]
      simp
    case h_2 notClosed =>
      rw [longInValue]
      split
      case h_1 behind closes => exact absurd closes (notClosed behind)
      case h_2 =>
        have own : ∀ values : List Decoded,
            (Except.ok (.list values) : Except (JsonRaised ε) Decoded) ≠
              .error .integer :=
          fun _ => by rintro ⟨⟩
        rw [← items]
        exact container_eq_integer_iff own
  case h_4 notString notObject notArray =>
    rw [longInValue_scalar fuel ⟨notString, notObject, notArray⟩]
    exact stopsAtLong_scalar raises text

theorem stopsAtLong_items (inner : StopsAtLong readNumber hook fuel)
    (text : List Char) :
    hookedItems readNumber hook (fuel + 1) text = .error .integer ↔
      longInItems readNumber hook (fuel + 1) text = true := by
  obtain ⟨value, items, _⟩ := inner
  rw [hookedItems, longInItems, bind_eq_error_iff, value, Bool.or_eq_true]
  refine or_congr_right ?_
  constructor
  case mp =>
    rintro ⟨⟨first, behind⟩, read, raised⟩
    rw [readBefore_eq_some_iff.mpr ⟨first, read⟩, Option.map_some]
    dsimp only at raised
    split at raised
    case h_1 => cases raised
    case h_2 rest continues =>
      rw [continues]
      change longInItems readNumber hook fuel (skipBlanks rest) = true
      rw [← items]
      rcases bind_eq_error_iff.mp raised with later | ⟨_, _, done⟩
      · exact later
      · cases done
    case h_3 => cases raised
  case mpr =>
    intro reaches
    split at reaches
    · next rest continues =>
        obtain ⟨behind, isBehind, blank⟩ := Option.map_eq_some_iff.mp continues
        obtain ⟨first, read⟩ := readBefore_eq_some_iff.mp isBehind
        refine ⟨(first, behind), read, ?_⟩
        dsimp only
        rw [blank]
        exact bind_eq_error_iff.mpr (.inl ((items _).mpr reaches))
    · cases reaches

theorem stopsAtLong_pairs (inner : StopsAtLong readNumber hook fuel)
    (text : List Char) :
    hookedPairs readNumber hook (fuel + 1) text = .error .integer ↔
      longInPairs readNumber hook (fuel + 1) text = true := by
  obtain ⟨value, _, pairs⟩ := inner
  rw [hookedPairs.eq_def]
  dsimp only
  split
  case h_2 notString =>
    rw [longInPairs]
    · exact iff_of_false nofun nofun
    · exact notString
  case h_1 text =>
    rw [longInPairs, hookedString]
    cases scanString text with
    | none => exact iff_of_false nofun nofun
    | some found =>
        obtain ⟨key, behindKey⟩ := found
        rw [Outcome.ok_bind, Option.map_some]
        dsimp only
        split
        case h_2 notColon =>
          split
          · next behindColon colon =>
              exact absurd (Option.some_inj.mp colon) (notColon _)
          · exact iff_of_false nofun nofun
        case h_1 behindColon colon =>
          rw [colon, bind_eq_error_iff, value]
          change _ ↔ (_ || _) = true
          rw [Bool.or_eq_true]
          refine or_congr_right ?_
          constructor
          case mp =>
            rintro ⟨⟨first, behind⟩, read, raised⟩
            rw [readBefore_eq_some_iff.mpr ⟨first, read⟩, Option.map_some]
            dsimp only at raised
            split at raised
            case h_1 => cases raised
            case h_2 rest continues =>
              rw [continues]
              change longInPairs readNumber hook fuel (skipBlanks rest) = true
              rw [← pairs]
              rcases bind_eq_error_iff.mp raised with later | ⟨_, _, done⟩
              · exact later
              · cases done
            case h_3 => cases raised
          case mpr =>
            intro reaches
            split at reaches
            · next rest continues =>
                obtain ⟨behind, isBehind, blank⟩ :=
                  Option.map_eq_some_iff.mp continues
                obtain ⟨first, read⟩ := readBefore_eq_some_iff.mp isBehind
                refine ⟨(first, behind), read, ?_⟩
                dsimp only
                rw [blank]
                exact bind_eq_error_iff.mpr (.inl ((pairs _).mpr reaches))
            · cases reaches

theorem stopsAtLong (raises : RaisesForLong readNumber) (fuel : Nat) :
    StopsAtLong readNumber hook fuel := by
  induction fuel with
  | zero =>
      refine ⟨fun text => ?_, fun text => ?_, fun text => ?_⟩
      · rw [hookedValue, longInValue]
        simp
      · rw [hookedItems, longInItems]
        simp
      · rw [hookedPairs, longInPairs]
        simp
  | succ fuel inner =>
      exact ⟨stopsAtLong_value raises inner, stopsAtLong_items inner,
        stopsAtLong_pairs inner⟩

/-- The reader of a text comes to an integer of too many digits, and all before
it can be read. -/
def reachesLong (readNumber : NumberHook ε) (hook : ObjectHook ε)
    (text : List Char) : Bool :=
  longInValue readNumber hook (text.length + 1) (skipBlanks text)

/-- `json.loads` raises the error of `int` exactly where it comes to an integer
of too many digits. -/
theorem loadHooked_eq_integer_iff (raises : RaisesForLong readNumber) :
    loadHooked readNumber hook text = .error .integer ↔
      reachesLong readNumber hook text = true := by
  have stops : StopsAtLong readNumber hook (text.length + 1) :=
    stopsAtLong raises _
  rw [loadHooked, bind_eq_error_iff, stops.1]
  refine or_iff_left ?_
  rintro ⟨found, _, raised⟩
  dsimp only at raised
  split at raised <;> cases raised

end Reading

end SecAI.Text
