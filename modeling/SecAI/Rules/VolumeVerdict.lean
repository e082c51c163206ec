/-
Module: SecAI.Rules.VolumeVerdict
Purpose: The PC-07 verdict is the one that is due, for any number of volumes
  and any order of arrival, unless an unhashable state is looked up.
Trusted boundary: the Unicode database is a parameter
Main exports:
  collectFilesystems_cases, characterised_iff, verdict_is_characterised
-/
import SecAI.Rules.VolumeClasses

namespace SecAI.Rules

open SecAI.Auth (UnicodeText)

section Classes

variable {evidence : Multiset Json} {records : List NormalizedEvidenceRecord}

/-! ## The loop over the candidates -/

/-- One round of the loop, by what the volume says. -/
theorem filesystemOf_some (volume : Json) :
    (∃ filesystem, filesystemOf (some volume) = .named filesystem ∧
      Readable volume filesystem ∧
      (∀ items, volume.member "bitlocker_state" ≠ some (.arr items)) ∧
      ∀ members, volume.member "bitlocker_state" ≠ some (.obj members)) ∨
    (filesystemOf (some volume) = .unhashable ∧
      (∃ filesystem, Readable volume filesystem) ∧
      ((∃ items, volume.member "bitlocker_state" = some (.arr items)) ∨
        ∃ members, volume.member "bitlocker_state" = some (.obj members))) ∨
    filesystemOf (some volume) = .unavailable ∧
      ∀ filesystem, ¬Readable volume filesystem := by
  simp only [filesystemOf, Readable]
  split
  next filesystem named =>
    rw [named]
    split
    next items array => simp [array]
    next members object => simp [object]
    next state text =>
      by_cases refused : state ∈ ["LOCKED", "UNKNOWN"]
      · rw [if_pos refused]
        simp only [List.mem_cons, List.not_mem_nil, or_false] at refused
        rcases refused with rfl | rfl
        · simp [text]
        · simp [text]
      · rw [if_neg refused]
        simp only [List.mem_cons, List.not_mem_nil, or_false, not_or]
          at refused
        simp [text, refused]
    next other _ _ _ =>
      left
      refine ⟨filesystem, rfl, ⟨rfl, ?_, ?_⟩, ?_, ?_⟩
      all_goals
        intros
        intro same
        simp_all
  next other =>
    right
    right
    refine ⟨rfl, fun filesystem readable => ?_⟩
    exact other filesystem readable.1

theorem collected_volume (read : WellRead evidence records)
    {subject : String} {volume : Json}
    (reports : Reports evidence subject "win.storage.volumes" volume) :
    filesystemOf (collected records subject "win.storage.volumes") =
      filesystemOf (some volume) := by
  rw [read.collected_iff.mpr reports]

theorem filesystemOf_named (read : WellRead evidence records)
    {subject filesystem : String}
    (named : filesystemOf (collected records subject "win.storage.volumes") =
      .named filesystem) :
    HasFilesystem evidence subject filesystem ∧
      ¬UnhashableState evidence subject := by
  cases found : collected records subject "win.storage.volumes" with
  | none =>
      rw [found] at named
      cases named
  | some volume =>
      have reports := read.collected_iff.mp found
      rw [found] at named
      rcases filesystemOf_some volume with
        ⟨other, isNamed, readable, noArray, noObject⟩ | ⟨failed, -⟩ |
        ⟨failed, -⟩
      · rw [named, Filesystem.named.injEq] at isNamed
        subst isNamed
        refine ⟨⟨volume, reports, readable⟩, ?_⟩
        rintro ⟨again, reportsAgain, -, state⟩
        cases reports.unique read reportsAgain
        rcases state with ⟨items, array⟩ | ⟨members, object⟩
        · exact noArray items array
        · exact noObject members object
      · rw [named] at failed
        cases failed
      · rw [named] at failed
        cases failed

theorem filesystemOf_unhashable (read : WellRead evidence records)
    {subject : String}
    (failed : filesystemOf (collected records subject "win.storage.volumes") =
      .unhashable) :
    UnhashableState evidence subject ∧ ¬Unavailable evidence subject := by
  cases found : collected records subject "win.storage.volumes" with
  | none =>
      rw [found] at failed
      cases failed
  | some volume =>
      have reports := read.collected_iff.mp found
      rw [found] at failed
      rcases filesystemOf_some volume with
        ⟨other, isNamed, -⟩ | ⟨-, ⟨filesystem, readable⟩, state⟩ |
        ⟨unavailable, -⟩
      · rw [failed] at isNamed
        cases isNamed
      · refine ⟨⟨volume, reports, ⟨filesystem, readable.1⟩, state⟩, ?_⟩
        rintro ⟨again, reportsAgain, unreadable⟩
        cases reports.unique read reportsAgain
        exact unreadable filesystem readable
      · rw [failed] at unavailable
        cases unavailable

theorem filesystemOf_unavailable (read : WellRead evidence records)
    {subject : String} (complete : Complete evidence subject)
    (failed : filesystemOf (collected records subject "win.storage.volumes") =
      .unavailable) :
    Unavailable evidence subject ∧
      ∀ filesystem, ¬HasFilesystem evidence subject filesystem := by
  obtain ⟨volume, reports⟩ := complete "win.storage.volumes" (by decide)
  rw [collected_volume read reports] at failed
  rcases filesystemOf_some volume with
    ⟨other, isNamed, -⟩ | ⟨unhashable, -⟩ | ⟨-, unreadable⟩
  · rw [failed] at isNamed
    cases isNamed
  · rw [failed] at unhashable
    cases unhashable
  · refine ⟨⟨volume, reports, unreadable⟩, ?_⟩
    rintro filesystem ⟨again, reportsAgain, readable⟩
    cases reports.unique read reportsAgain
    exact unreadable filesystem readable

theorem HasFilesystem.available (read : WellRead evidence records)
    {subject filesystem : String}
    (has : HasFilesystem evidence subject filesystem) :
    ¬Unavailable evidence subject := by
  obtain ⟨volume, reports, readable⟩ := has
  rintro ⟨again, reportsAgain, unreadable⟩
  cases reports.unique read reportsAgain
  exact unreadable filesystem readable

theorem HasFilesystem.unique (read : WellRead evidence records)
    {subject filesystem other : String}
    (first : HasFilesystem evidence subject filesystem)
    (second : HasFilesystem evidence subject other) : filesystem = other := by
  obtain ⟨volume, reports, readable⟩ := first
  obtain ⟨again, reportsAgain, readableAgain⟩ := second
  cases reports.unique read reportsAgain
  have same := readable.1
  rw [readableAgain.1, Option.some.injEq, Json.str.injEq] at same
  exact same.symm

end Classes

/-- How the loop over the candidates ends. -/
theorem collectFilesystems_cases (records : List NormalizedEvidenceRecord) :
    ∀ subjects : List String,
      (∃ filesystems, collectFilesystems records subjects =
          .ok (some filesystems) ∧
        List.Forall₂ (fun subject entry => entry.1 = subject ∧
          filesystemOf (collected records subject "win.storage.volumes") =
            .named entry.2) subjects filesystems) ∨
      ∃ before subject after, subjects = before ++ subject :: after ∧
        (∀ earlier ∈ before, ∃ filesystem,
          filesystemOf (collected records earlier "win.storage.volumes") =
            .named filesystem) ∧
        (filesystemOf (collected records subject "win.storage.volumes") =
            .unavailable ∧ collectFilesystems records subjects = .ok none ∨
          filesystemOf (collected records subject "win.storage.volumes") =
            .unhashable ∧
            collectFilesystems records subjects = .error .typeError)
  | [] => .inl ⟨[], rfl, .nil⟩
  | subject :: rest => by
      cases read : filesystemOf
          (collected records subject "win.storage.volumes") with
      | unavailable =>
          refine .inr ⟨[], subject, rest, rfl, by simp, .inl ⟨read, ?_⟩⟩
          simp [collectFilesystems, read]
      | unhashable =>
          refine .inr ⟨[], subject, rest, rfl, by simp, .inr ⟨read, ?_⟩⟩
          simp [collectFilesystems, read]
      | named filesystem =>
          rcases collectFilesystems_cases records rest with
            ⟨filesystems, done, all⟩ |
            ⟨before, stopped, after, same, passed, ending⟩
          · refine .inl ⟨(subject, filesystem) :: filesystems, ?_,
              .cons ⟨rfl, read⟩ all⟩
            simp [collectFilesystems, read, done]
          · refine .inr ⟨subject :: before, stopped, after, by simp [same],
              ?_, ?_⟩
            · intro earlier member
              rcases List.mem_cons.mp member with rfl | later
              · exact ⟨filesystem, read⟩
              · exact passed earlier later
            · refine ending.imp ?_ ?_
              · rintro ⟨reason, done⟩
                exact ⟨reason, by simp [collectFilesystems, read, done]⟩
              · rintro ⟨reason, done⟩
                exact ⟨reason, by simp [collectFilesystems, read, done]⟩

/-! ## The verdict -/

section Verdict

variable {evidence : Multiset Json} {records : List NormalizedEvidenceRecord}
variable {unicode : UnicodeText}

theorem candidatesOf_ascending (records : List NormalizedEvidenceRecord) :
    (candidatesOf records).Pairwise fun first second => first < second :=
  (Ordered.sortedSet_ascending _).filter _

theorem evaluatePc07Applicability_volumes
    (records : List NormalizedEvidenceRecord) :
    (evaluatePc07Applicability records).candidateVolumeIds =
        candidatesOf records ∧
      (evaluatePc07Applicability records).excludedVolumes =
        excludedOf records := by
  unfold evaluatePc07Applicability
  dsimp only
  split
  · exact ⟨rfl, rfl⟩
  split
  · exact ⟨rfl, rfl⟩
  · split
    next empty => exact ⟨empty.symm, rfl⟩
    next => exact ⟨rfl, rfl⟩

theorem accounted (read : WellRead evidence records)
    (classified : ∀ subject, IsSubject evidence subject →
      TrustedExclusion evidence subject ∨ Candidate evidence subject)
    {subject : String} (isSubject : IsSubject evidence subject) :
    subject ∈ candidatesOf records ∨
      subject ∈ (excludedOf records).map (·.subjectId) := by
  rcases classified subject isSubject with excluded | candidate
  · exact .inr ((mem_excludedOf read).mpr excluded)
  · exact .inl ((mem_candidatesOf read).mpr candidate)

variable {applicability : ApplicabilityDecision}

theorem characterised_error {resultCode : String} {errorCodes : List String}
    (undecided : ¬Decided evidence)
    (nothingDropped : NothingDropped evidence
      (errorDecision applicability resultCode errorCodes)) :
    Characterised evidence unicode
      (.ok (errorDecision applicability resultCode errorCodes)) := by
  refine ⟨_, rfl, ?_, ?_, ?_, nothingDropped⟩
  · constructor
    · intro wrong
      cases wrong
    · exact fun due => (undecided due.1).elim
  · constructor
    · intro wrong
      cases wrong
    · exact fun due => (undecided due.1).elim
  · constructor
    · intro _
      exact ⟨fun due => undecided due.1, fun due => undecided due.1⟩
    · exact fun _ => rfl

theorem nothingDropped_error (read : WellRead evidence records)
    {resultCode : String} {errorCodes : List String}
    (candidates : applicability.candidateVolumeIds = candidatesOf records)
    (excluded : applicability.excludedVolumes = excludedOf records)
    (classified : ∀ subject, IsSubject evidence subject →
      TrustedExclusion evidence subject ∨ Candidate evidence subject) :
    NothingDropped evidence
      (errorDecision applicability resultCode errorCodes) := by
  constructor
  case accounted =>
    intro subject isSubject
    dsimp only [errorDecision]
    rw [candidates, excluded]
    exact (accounted read classified isSubject).imp_right .inl
  case evaluated => exact fun wrong => (wrong rfl).elim

/-- The decision over the filesystems of all candidates. -/
theorem characterised_decided (read : WellRead evidence records)
    (decided : Decided evidence) {applicability : ApplicabilityDecision}
    (candidates : applicability.candidateVolumeIds = candidatesOf records)
    (excluded : applicability.excludedVolumes = excludedOf records)
    {filesystems : List (String × String)}
    (all : List.Forall₂ (fun subject entry => entry.1 = subject ∧
      filesystemOf (collected records subject "win.storage.volumes") =
        .named entry.2) (candidatesOf records) filesystems) :
    Characterised evidence unicode
      (.ok (decideFilesystems unicode applicability filesystems)) := by
  have keys : filesystems.map Prod.fst = candidatesOf records := by
    have sameKeys : List.Forall₂ Eq (candidatesOf records)
        (filesystems.map Prod.fst) :=
      List.forall₂_map_right_iff.mpr (all.imp fun _ _ both => both.1.symm)
    exact (List.forall₂_eq_eq_eq ▸ sameKeys).symm
  have inOrder : Ordered.sortedBy Prod.fst filesystems = filesystems := by
    refine Ordered.sortedBy_of_pairwise ?_
    have ascending := candidatesOf_ascending records
    rw [← keys, List.pairwise_map] at ascending
    exact ascending.imp le_of_lt
  have entryOf : ∀ subject, Candidate evidence subject →
      ∃ entry ∈ filesystems, entry.1 = subject ∧
        HasFilesystem evidence subject entry.2 := by
    intro subject candidate
    obtain ⟨entry, member, same, named⟩ := Outcome.related_of_mem all
      ((mem_candidatesOf read).mpr candidate)
    exact ⟨entry, member, same, (filesystemOf_named read named).1⟩
  have ofEntry : ∀ entry ∈ filesystems, Candidate evidence entry.1 ∧
      HasFilesystem evidence entry.1 entry.2 := by
    intro entry member
    obtain ⟨subject, listed, same, named⟩ :=
      Outcome.related_of_mem all.flip member
    subst same
    exact ⟨(mem_candidatesOf read).mp listed,
      (filesystemOf_named read named).1⟩
  have nothingDropped : ∀ decision : DecisionCandidate,
      decision.applicability = applicability →
      decision.evaluatedVolumeIds = filesystems.map Prod.fst →
      NothingDropped evidence decision := by
    intro decision same evaluated
    constructor
    case accounted =>
      intro subject isSubject
      rw [same, candidates, excluded]
      exact (accounted read decided.classified isSubject).imp_right .inl
    case evaluated =>
      intro _
      rw [evaluated, same, keys, candidates]
  unfold decideFilesystems
  dsimp only
  rw [inOrder]
  split
  case isTrue none_violates =>
    have compliant : Compliant evidence unicode := by
      refine ⟨decided, fun subject candidate => ?_⟩
      obtain ⟨entry, member, same, has⟩ := entryOf subject candidate
      refine ⟨entry.2, has, ?_⟩
      by_contra violates
      exact absurd (List.mem_filter.mpr ⟨member, decide_eq_true violates⟩)
        (none_violates ▸ List.not_mem_nil)
    have notNoncompliant : ¬Noncompliant evidence unicode := by
      rintro ⟨-, subject, candidate, filesystem, has, violates⟩
      obtain ⟨other, hasOther, fine⟩ := compliant.2 subject candidate
      exact violates (has.unique read hasOther ▸ fine)
    refine ⟨_, rfl, ?_, ?_, ?_, nothingDropped _ rfl rfl⟩
    · exact ⟨fun _ => compliant, fun _ => rfl⟩
    · exact ⟨nofun, fun due => (notNoncompliant due).elim⟩
    · exact ⟨nofun, fun due => (due.1 compliant).elim⟩
  case isFalse some_violates =>
    obtain ⟨entry, violating⟩ := List.exists_mem_of_ne_nil _ some_violates
    rw [List.mem_filter, decide_eq_true_eq] at violating
    obtain ⟨candidate, has⟩ := ofEntry entry violating.1
    have noncompliant : Noncompliant evidence unicode :=
      ⟨decided, entry.1, candidate, entry.2, has, violating.2⟩
    have notCompliant : ¬Compliant evidence unicode := by
      rintro ⟨-, all_fine⟩
      obtain ⟨other, hasOther, fine⟩ := all_fine entry.1 candidate
      exact violating.2 (has.unique read hasOther ▸ fine)
    refine ⟨_, rfl, ?_, ?_, ?_, nothingDropped _ rfl rfl⟩
    · exact ⟨nofun, fun due => (notCompliant due).elim⟩
    · exact ⟨fun _ => noncompliant, fun _ => rfl⟩
    · exact ⟨nofun, fun due => (due.2 noncompliant).elim⟩

/-- Once the classification and the candidates are complete, the loop over
the candidates decides. -/
theorem characterised_loop (read : WellRead evidence records)
    (some_candidate : ∃ subject, Candidate evidence subject)
    (classified : ∀ subject, IsSubject evidence subject →
      TrustedExclusion evidence subject ∨ Candidate evidence subject)
    (complete : ∀ subject, Candidate evidence subject →
      Complete evidence subject) (status : applicability.status = .applicable)
    (candidates : applicability.candidateVolumeIds = candidatesOf records)
    (excluded : applicability.excludedVolumes = excludedOf records) :
    Characterised evidence unicode
        (evaluatePc07Ntfs unicode applicability records) ↔
      StatesAreHashable evidence := by
  unfold evaluatePc07Ntfs
  rw [status, if_neg (by simp), candidates]
  rcases collectFilesystems_cases records (candidatesOf records) with
    ⟨filesystems, done, all⟩ |
    ⟨before, stopped, after, same, passed, ending⟩
  · rw [done]
    have named : ∀ subject, Candidate evidence subject → ∃ filesystem,
        HasFilesystem evidence subject filesystem ∧
          ¬UnhashableState evidence subject := by
      intro subject candidate
      obtain ⟨entry, -, -, isNamed⟩ := Outcome.related_of_mem all
        ((mem_candidatesOf read).mpr candidate)
      exact ⟨entry.2, filesystemOf_named read isNamed⟩
    constructor
    case mp =>
      intro _ subject candidate unhashable
      obtain ⟨_, -, hashable⟩ := named subject candidate
      exact (hashable unhashable).elim
    case mpr =>
      intro _
      refine characterised_decided read ?_ candidates excluded all
      exact ⟨some_candidate, classified, complete, fun subject candidate =>
        (named subject candidate).imp fun _ both => both.1⟩
  · have ascending := candidatesOf_ascending records
    rw [same, List.pairwise_append, List.pairwise_cons] at ascending
    obtain ⟨-, ⟨behind, -⟩, across⟩ := ascending
    have isCandidate : Candidate evidence stopped :=
      (mem_candidatesOf read).mp (by rw [same]; simp)
    rcases ending with ⟨unavailable, done⟩ | ⟨unhashable, done⟩
    · rw [done]
      obtain ⟨isUnavailable, nameless⟩ :=
        filesystemOf_unavailable read (complete stopped isCandidate) unavailable
      constructor
      case mp =>
        intro _ subject candidate isUnhashable
        have listed := (mem_candidatesOf read).mpr candidate
        rw [same, List.mem_append, List.mem_cons] at listed
        rcases listed with earlier | rfl | later
        · obtain ⟨filesystem, isNamed⟩ := passed subject earlier
          exact ((filesystemOf_named read isNamed).2 isUnhashable).elim
        · obtain ⟨volume, reports, ⟨filesystem, named⟩, state⟩ := isUnhashable
          refine (nameless filesystem ⟨volume, reports, named, ?_⟩).elim
          rcases state with ⟨items, array⟩ | ⟨members, object⟩
          · simp [array]
          · simp [object]
        · exact .inr (.inr
            ⟨stopped, behind subject later, isCandidate, isUnavailable⟩)
      case mpr =>
        intro _
        refine characterised_error ?_
          (nothingDropped_error read candidates excluded classified)
        intro decided
        obtain ⟨filesystem, has⟩ := decided.readable stopped isCandidate
        exact nameless filesystem has
    · rw [done]
      obtain ⟨isUnhashable, available⟩ := filesystemOf_unhashable read unhashable
      constructor
      case mp =>
        rintro ⟨decision, wrong, -⟩
        cases wrong
      case mpr =>
        intro hashable
        rcases hashable stopped isCandidate isUnhashable with
          ⟨other, isSubject, notExcluded, notCandidate⟩ |
          ⟨other, candidate, incomplete⟩ |
          ⟨other, precedes, candidate, isUnavailable⟩
        · exact ((classified other isSubject).elim notExcluded
            notCandidate).elim
        · exact (incomplete (complete other candidate)).elim
        · have listed := (mem_candidatesOf read).mpr candidate
          rw [same, List.mem_append, List.mem_cons] at listed
          rcases listed with earlier | rfl | later
          · obtain ⟨filesystem, isNamed⟩ := passed other earlier
            exact ((filesystemOf_named read isNamed).1.available read
              isUnavailable).elim
          · exact (lt_irrefl _ precedes).elim
          · exact (lt_asymm precedes (behind other later)).elim

/-- The verdict over records that say what the evidence reports. -/
theorem characterised_iff (read : WellRead evidence records) :
    Characterised evidence unicode
        (evaluatePc07Ntfs unicode (evaluatePc07Applicability records)
          records) ↔
      StatesAreHashable evidence := by
  have volumes := evaluatePc07Applicability_volumes records
  by_cases incomplete : classificationIncomplete records = true
  · -- Some subject is neither excluded nor a candidate.
    obtain ⟨subject, isSubject, notExcluded, notCandidate⟩ :=
      (classificationIncomplete_iff read).mp incomplete
    constructor
    case mp =>
      intro _ _ _ _
      exact .inl ⟨subject, isSubject, notExcluded, notCandidate⟩
    case mpr =>
      intro _
      simp only [evaluatePc07Applicability, incomplete, if_true,
        evaluatePc07Ntfs]
      refine characterised_error ?_ ?_
      · intro decided
        exact (decided.classified subject isSubject).elim notExcluded
          notCandidate
      · constructor
        case accounted => exact fun _ _ => .inr (.inr ⟨rfl, rfl⟩)
        case evaluated => exact fun wrong => (wrong rfl).elim
  have classified : ∀ subject, IsSubject evidence subject →
      TrustedExclusion evidence subject ∨ Candidate evidence subject := by
    intro subject isSubject
    by_contra neither
    rw [not_or] at neither
    exact incomplete ((classificationIncomplete_iff read).mpr
      ⟨subject, isSubject, neither.1, neither.2⟩)
  by_cases errors : candidateErrors records = []
  case neg =>
    -- Some candidate has a failed probe or lacks one.
    rw [candidateErrors_eq_nil read, not_forall] at errors
    obtain ⟨subject, missing⟩ := errors
    rw [Classical.not_imp] at missing
    obtain ⟨candidate, missing⟩ := missing
    have errors : candidateErrors records ≠ [] := fun empty =>
      missing ((candidateErrors_eq_nil read).mp empty subject candidate)
    constructor
    case mp =>
      intro _ _ _ _
      exact .inr (.inl ⟨subject, candidate, missing⟩)
    case mpr =>
      intro _
      simp only [evaluatePc07Applicability, incomplete, errors,
        ne_eq, not_false_eq_true, if_true, evaluatePc07Ntfs]
      refine characterised_error ?_
        (nothingDropped_error read rfl rfl classified)
      exact fun decided => missing (decided.complete subject candidate)
  have complete := (candidateErrors_eq_nil read).mp errors
  by_cases empty : candidatesOf records = []
  case pos =>
    have no_candidate : ∀ subject, ¬Candidate evidence subject := by
      intro subject candidate
      have listed := (mem_candidatesOf read).mpr candidate
      rw [empty] at listed
      cases listed
    constructor
    case mp =>
      intro _ subject candidate
      exact (no_candidate subject candidate).elim
    case mpr =>
      intro _
      simp only [evaluatePc07Applicability, incomplete, if_false, errors,
        ne_eq, not_true_eq_false, empty, if_true, evaluatePc07Ntfs]
      refine characterised_error ?_
        (nothingDropped_error read empty.symm rfl classified)
      rintro ⟨⟨subject, candidate⟩, -⟩
      exact no_candidate subject candidate
  case neg =>
    obtain ⟨subject, listed⟩ := List.exists_mem_of_ne_nil _ empty
    refine characterised_loop read
      ⟨subject, (mem_candidatesOf read).mp listed⟩ classified complete ?_
      volumes.1 volumes.2
    simp [evaluatePc07Applicability, incomplete, errors, empty]

end Verdict

/-- For evidence the reader accepts, in any order, the decision of the
registry is the one that is due and drops no subject, exactly when no
unhashable BitLocker state is looked up. -/
theorem verdict_is_characterised (unicode : UnicodeText) {controlId : String}
    {applicabilityRule evaluationRule : Json} {evidence : Multiset Json}
    {arrival : List Json} (arranged : (arrival : Multiset Json) = evidence)
    (approved : checkRules controlId applicabilityRule evaluationRule = .ok ())
    (accepted : (parseEvidence controlId arrival).isOk = true) :
    Characterised evidence unicode
        (evaluate unicode controlId applicabilityRule evaluationRule arrival) ↔
      StatesAreHashable evidence := by
  obtain ⟨records, parsed⟩ := Outcome.eq_ok_of_isOk accepted
  have read := parseEvidence_wellRead parsed
  rw [arranged] at read
  rw [← characterised_iff read]
  simp only [evaluate, approved, parsed]
  rfl

/-- The Unicode operations, for ASCII text. -/
def asciiText : UnicodeText :=
  let trim (text : List Char) : List Char := text.dropWhile (·.isWhitespace)
  { nfc := id
    strip := fun text =>
      String.ofList (trim (trim text.toList).reverse).reverse
    casefold := fun text => String.ofList (text.toList.map (·.toLower))
    isControlCategory := fun c => decide (c.toNat < 32 ∨ c.toNat = 127)
    isAlpha := (·.isAlpha) }

def packApplicabilityRule : Json :=
  .obj [("parameters", .obj approvedApplicabilityParameters),
    ("rule_id", .str "pc07.applicability"),
    ("rule_version", .str "0.1.0")]

def packEvaluationRule : Json :=
  .obj [("parameters", .obj approvedEvaluationParameters),
    ("rule_id", .str "pc07.ntfs"), ("rule_version", .str "0.1.0")]

/-- A document about the volume `C`. -/
def volumeDocument (probe : String) (members : List (String × Json)) : Json :=
  .obj [("asset_id", .str "asset"), ("collection_status", .str "COLLECTED"),
    ("control_id", .str "PC-07"), ("error_code", .str "NONE"),
    ("id", .str probe), ("job_id", .str "job"),
    ("normalized_value", .obj (members ++ [("volume_id", .str "C")])),
    ("package_id", .str "package"), ("probe_id", .str probe),
    ("probe_version", .str "0.1.0"),
    ("subject", .obj [("scope", .str "VOLUME"), ("subject_key", .str "C")])]

/-- The evidence of one online volume with a BitLocker state. -/
def oneVolume (filesystem : String) (bitlockerState : Json) : List Json :=
  [volumeDocument "win.storage.volumes" [("bitlocker_state", bitlockerState),
      ("filesystem", .str filesystem)],
    volumeDocument "win.storage.partitions" [],
    volumeDocument "win.storage.disks" [("is_online", .bool true),
      ("volume_class", .str "WINDOWS_OS_VOLUME")]]

theorem unlocked_volume_is_characterised :
    Characterised (oneVolume " ntfs" (.str "UNLOCKED")) asciiText
        (evaluate asciiText "PC-07" packApplicabilityRule packEvaluationRule
          (oneVolume " ntfs" (.str "UNLOCKED"))) ↔
      StatesAreHashable (oneVolume " ntfs" (.str "UNLOCKED")) :=
  verdict_is_characterised asciiText rfl (by decide)
    (by decide)

/-- A BitLocker state that is an array ends the evaluation in a `TypeError`,
where the other facts are those of a compliant volume. -/
theorem array_state_has_no_verdict :
    checkRules "PC-07" packApplicabilityRule packEvaluationRule = .ok () ∧
      (parseEvidence "PC-07" (oneVolume "NTFS" (.arr []))).isOk = true ∧
      evaluate asciiText "PC-07" packApplicabilityRule packEvaluationRule
          (oneVolume "NTFS" (.arr [])) = .error .typeError ∧
      ¬Characterised (oneVolume "NTFS" (.arr [])) asciiText
        (evaluate asciiText "PC-07" packApplicabilityRule packEvaluationRule
          (oneVolume "NTFS" (.arr []))) := by
  have raised : evaluate asciiText "PC-07" packApplicabilityRule
      packEvaluationRule (oneVolume "NTFS" (.arr [])) =
        .error .typeError := by
    decide
  refine ⟨by decide, by decide, raised, ?_⟩
  rintro ⟨decision, same, -⟩
  rw [raised] at same
  cases same

end SecAI.Rules
