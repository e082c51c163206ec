/-
Module: SecAI.Platforms.Fingerprints
Purpose: Which of the values that a trace keeps reach its fingerprint.
Trusted boundary: the hash function is a parameter that is injective
Main exports:
  foldedLines, EvidenceTrace.build_eq_ok, normalizedSha256_eq_iff
-/
import SecAI.Platforms.NetworkMonotone

namespace SecAI.Platforms

open SecAI.Text

/-- The lines of a list as `_safe_lines` folds them. -/
def foldedLines (value : List Char) : List Char :=
  ['\n'].intercalate
    (((lines value).filter fun line => strip line ≠ []).map collapse)

def retainedList : Option (List Char) → Option (List Char)
  | some (first :: rest) => some (foldedLines (first :: rest))
  | _ => none

theorem safeLines_eq_ok {value folded : List Char} {label : String}
    {maximum : Nat} (made : safeLines value label maximum = .ok folded) :
    folded = foldedLines value := by
  unfold safeLines at made
  dsimp only at made
  obtain ⟨-, same⟩ := Outcome.refused_or (Outcome.Refused.error _) made
  cases same
  rfl

theorem keptLines_eq_ok {given kept : Option (List Char)}
    (made : keptLines given = .ok kept) : kept = retainedList given := by
  unfold keptLines at made
  split at made
  case h_1 first rest =>
    obtain ⟨folded, isFolded, same⟩ := Outcome.bind_eq_ok.mp made
    cases same
    rw [retainedList, safeLines_eq_ok isFolded]
  case h_2 other =>
    cases made
    rw [retainedList]
    exact fun first rest same => other first rest same

/-- What a trace keeps of its arguments, and what its fingerprint is made
of. -/
theorem EvidenceTrace.build_eq_ok {library : Library}
    {given : EvidenceArguments} {trace : EvidenceTrace}
    (built : EvidenceTrace.build library given = .ok trace) :
    trace.observedSummary = collapse given.observedSummary ∧
      trace.normalizedValue = retainedList given.normalizedValue ∧
      trace.normalizedSha256 = library.sha256 (encoded trace.observedSummary) := by
  unfold EvidenceTrace.build at built
  obtain ⟨summary, isSummary, built⟩ := Outcome.bind_eq_ok.mp built
  dsimp only at built
  by_cases code : isSafeCode given.methodCode = true
  case neg =>
    simp only [Bool.not_eq_true] at code
    simp only [code, Bool.not_false, ↓reduceIte] at built
    cases built
  by_cases label : prohibitedLabels.any
      (occursIn · (casefold library.toCharacterDatabase given.sourceLabel)) =
        true
  case pos =>
    simp only [code, label, Bool.not_true, Bool.false_eq_true, ↓reduceIte]
      at built
    cases built
  by_cases large : maximumOutput < given.rawOutput.length
  case pos =>
    simp only [code, label, large, Bool.not_true, Bool.false_eq_true,
      ↓reduceIte] at built
    cases built
  simp only [code, label, large, Bool.not_true, Bool.false_eq_true,
    ↓reduceIte, Outcome.bind_eq_ok] at built
  obtain ⟨_, -, _, -, _, -, _, -, _, -, kept, isKept, same⟩ := built
  cases same
  exact ⟨(safeText_eq_ok.mp isSummary).2, keptLines_eq_ok isKept, rfl⟩

theorem toList_loop (bytes : ByteArray) (index : Nat) (collected : List UInt8) :
    ByteArray.toList.loop bytes index collected =
      collected.reverse ++ bytes.data.toList.drop index := by
  induction index, collected using ByteArray.toList.loop.induct bytes with
  | case1 index collected inside ih =>
      have here : bytes.data.toList.drop index =
          bytes.get! index :: bytes.data.toList.drop (index + 1) := by
        have small : index < bytes.data.toList.length := inside
        rw [List.drop_eq_getElem_cons small]
        congr 1
        have inArray : index < bytes.data.size := inside
        rw [ByteArray.get!, getElem!_pos bytes.data index inArray]
        rfl
      rw [ByteArray.toList.loop, if_pos inside, ih, here]
      simp
  | case2 index collected outside =>
      have behind : bytes.data.toList.length ≤ index := Nat.not_lt.mp outside
      rw [ByteArray.toList.loop, if_neg outside, List.drop_of_length_le behind,
        List.append_nil]

theorem encoded_injective : Function.Injective encoded := by
  intro first second same
  unfold encoded ByteArray.toList at same
  rw [toList_loop, toList_loop] at same
  have bytes : (String.ofList first).toUTF8 = (String.ofList second).toUTF8 :=
    ByteArray.ext (Array.toList_inj.mp (by simpa using same))
  exact String.ofList_injective (String.toByteArray_inj.mp bytes)

theorem normalizedSha256_eq_iff {library : Library}
    (collisionFree : Function.Injective library.sha256)
    {first second : EvidenceArguments} {one other : EvidenceTrace}
    (built : EvidenceTrace.build library first = .ok one)
    (builtOther : EvidenceTrace.build library second = .ok other) :
    one.normalizedSha256 = other.normalizedSha256 ↔
      collapse first.observedSummary = collapse second.observedSummary := by
  obtain ⟨summary, -, digest⟩ := EvidenceTrace.build_eq_ok built
  obtain ⟨otherSummary, -, otherDigest⟩ := EvidenceTrace.build_eq_ok builtOther
  rw [digest, otherDigest, collisionFree.eq_iff, encoded_injective.eq_iff,
    summary, otherSummary]

/-- The fingerprints of two traces tell their stored values apart unless the
summaries fold to the same text and the lists do not. -/
theorem fingerprint_covers_iff (library : Library)
    (collisionFree : Function.Injective library.sha256)
    (first second : EvidenceArguments) (one other : EvidenceTrace)
    (built : EvidenceTrace.build library first = .ok one)
    (builtOther : EvidenceTrace.build library second = .ok other) :
    (one.normalizedSha256 = other.normalizedSha256 →
        one.observedSummary = other.observedSummary ∧
          one.normalizedValue = other.normalizedValue) ↔
      collapse first.observedSummary ≠ collapse second.observedSummary ∨
        retainedList first.normalizedValue =
          retainedList second.normalizedValue := by
  rw [normalizedSha256_eq_iff collisionFree built builtOther]
  obtain ⟨summary, kept, -⟩ := EvidenceTrace.build_eq_ok built
  obtain ⟨otherSummary, otherKept, -⟩ := EvidenceTrace.build_eq_ok builtOther
  rw [summary, otherSummary, kept, otherKept]
  constructor
  case mp =>
    intro covered
    by_cases same : collapse first.observedSummary =
        collapse second.observedSummary
    · exact .inr (covered same).2
    · exact .inl same
  case mpr =>
    intro condition same
    exact ⟨same, condition.resolve_left (not_not_intro same)⟩

/-- A library of ASCII whose digests are the bytes themselves. -/
def openLibrary : Library where
  toCharacterDatabase := asciiLibrary.toCharacterDatabase
  sha256 := fun data => data.map fun byte => Char.ofNat byte.toNat
  casefold_hangul := asciiLibrary.casefold_hangul

theorem openLibrary_collisionFree : Function.Injective openLibrary.sha256 := by
  refine List.map_injective_iff.mpr fun first second same => ?_
  have values (byte : UInt8) : (Char.ofNat byte.toNat).toNat = byte.toNat := by
    have valid : Nat.isValidChar byte.toNat :=
      .inl (byte.toNat_lt.trans (by decide))
    rw [Char.ofNat, dif_pos valid]
    rfl
  have bytes := congrArg Char.toNat same
  rw [values, values] at bytes
  exact UInt8.toNat_inj.mp bytes

def accountArguments (accounts : List Char) : EvidenceArguments where
  probeId := ['u', 's', 'e', 'r', 's']
  probeVersion := ['1', '.', '0', '.', '0']
  methodCode := ['S', 'S', 'H']
  methodSummary := ['r', 'e', 'a', 'd']
  sourceLabel := ['u', 's', 'e', 'r', 's']
  technicalLocator := ['u', 's', 'e', 'r', 's']
  observedSummary := ['1', ' ', 'u', 's', 'e', 'r']
  collectedAt := 0
  collectionStatus := .collected
  rawOutput := []
  redactionApplied := true
  normalizedValue := some accounts

def accountTrace (accounts : List Char) : EvidenceTrace :=
  (EvidenceTrace.build openLibrary (accountArguments accounts)).toOption.getD
    default

theorem accountTrace_isBuilt {accounts : List Char}
    (accepted : (EvidenceTrace.build openLibrary
      (accountArguments accounts)).isOk = true) :
    EvidenceTrace.build openLibrary (accountArguments accounts) =
      .ok (accountTrace accounts) := by
  obtain ⟨trace, built⟩ := Outcome.eq_ok_of_isOk accepted
  rw [accountTrace, built]
  rfl

/-- Two different lists under one summary have one fingerprint. -/
theorem exchanged_list_keeps_fingerprint :
    ¬∀ (library : Library), Function.Injective library.sha256 →
      ∀ (first second : EvidenceArguments) (one other : EvidenceTrace),
        EvidenceTrace.build library first = .ok one →
        EvidenceTrace.build library second = .ok other →
        one.normalizedSha256 = other.normalizedSha256 →
        one.observedSummary = other.observedSummary ∧
          one.normalizedValue = other.normalizedValue := by
  intro covered
  have built : EvidenceTrace.build openLibrary
      (accountArguments ['a', 'd', 'a']) = .ok (accountTrace ['a', 'd', 'a']) :=
    accountTrace_isBuilt (by decide)
  have builtOther : EvidenceTrace.build openLibrary
      (accountArguments ['e', 'v', 'e']) = .ok (accountTrace ['e', 'v', 'e']) :=
    accountTrace_isBuilt (by decide)
  obtain ⟨-, same⟩ := covered openLibrary openLibrary_collisionFree _ _ _ _ built
    builtOther ((normalizedSha256_eq_iff openLibrary_collisionFree built
      builtOther).mpr rfl)
  rw [(EvidenceTrace.build_eq_ok built).2.1,
    (EvidenceTrace.build_eq_ok builtOther).2.1] at same
  exact absurd same (by decide)

/-- A list with more blanks is covered, for it folds to the same lines. -/
theorem folded_list_is_covered :
    ((accountTrace ['a', 'd', 'a']).normalizedSha256 =
        (accountTrace [' ', 'a', 'd', 'a']).normalizedSha256 →
      (accountTrace ['a', 'd', 'a']).observedSummary =
          (accountTrace [' ', 'a', 'd', 'a']).observedSummary ∧
        (accountTrace ['a', 'd', 'a']).normalizedValue =
          (accountTrace [' ', 'a', 'd', 'a']).normalizedValue) ↔
      collapse (accountArguments ['a', 'd', 'a']).observedSummary ≠
          collapse (accountArguments [' ', 'a', 'd', 'a']).observedSummary ∨
        retainedList (accountArguments ['a', 'd', 'a']).normalizedValue =
          retainedList (accountArguments [' ', 'a', 'd', 'a']).normalizedValue :=
  fingerprint_covers_iff openLibrary openLibrary_collisionFree _ _ _ _
    (accountTrace_isBuilt (by decide))
    (accountTrace_isBuilt (by decide))

end SecAI.Platforms
