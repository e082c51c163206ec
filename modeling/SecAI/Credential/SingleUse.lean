/-
Module: SecAI.Credential.SingleUse
Purpose: When a collector credential is single use, revocation is final and
  wrong secrets are counted, over every interleaving of the operations.
Trusted boundary: none
Main exports:
  keepsRecord, single_use_and_final
-/
import SecAI.Credential.Service

namespace SecAI.Credential

open Interleaving

variable (env : CredentialEnvironment)

/-! ## Requests on one credential -/

def presents (credentialId : String) : CredentialRequest → Bool
  | .authorize token _ | .commit token .. =>
      match splitToken env.toUnicodeDigits token with
      | .ok named => decide (named = credentialId)
      | .error _ => false
  | _ => false

def differs (storedHash token : String) : Bool :=
  match tokenHash env token with
  | .ok hash => decide (hash ≠ storedHash)
  | .error _ => false

def wrongSecret (storedHash : String) : CredentialRequest → Bool
  | .authorize token _ | .commit token .. => differs env storedHash token
  | _ => false

def succeeded (thread : CredentialThread) : Bool :=
  match thread.rest with
  | .done _ => true
  | _ => false

def completed (thread : CredentialThread) : Bool :=
  match thread.rest with
  | .call .. => false
  | _ => true

def commits (credentialId : String) (request : CredentialRequest) : Bool :=
  match request with
  | .commit .. => presents env credentialId request
  | _ => false

def revokes (credentialId : String) : CredentialRequest → Bool
  | .revoke target _ => decide (target = credentialId)
  | _ => false

def hasRead (store : CredentialStore) (credentialId : String)
    (thread : CredentialThread) : Bool :=
  thread.history.any fun event =>
    match event with
    | ⟨.get target, answer⟩ =>
        decide (target = credentialId) &&
          decide (answer = store.record credentialId)
    | _ => false

/-- A record is written back only over the record it was made from, and a
commit presents the secret of its credential. -/
def keepsRecord (store : CredentialStore) (thread : CredentialThread) :
    CredentialOp → Prop
  | .replace record => hasRead store record.credentialId thread = true
  | .commit credentialId tokenHash .. =>
      ∀ record ∈ store.record credentialId, record.tokenHash = tokenHash
  | _ => True

instance (store : CredentialStore) (thread : CredentialThread)
    (op : CredentialOp) : Decidable (keepsRecord store thread op) :=
  match op with
  | .replace record =>
      inferInstanceAs (Decidable (hasRead store record.credentialId thread =
        true))
  | .commit credentialId tokenHash _ _ _ =>
      inferInstanceAs (Decidable (∀ record ∈ store.record credentialId,
        record.tokenHash = tokenHash))
  | .insert _ | .get _ | .draw => .isTrue trivial

/-! ## The course of one request -/

variable {env}

variable {token : String} {receivedAt : DateTime}
  {history : List (Event CredentialOp CredentialOp.Resp)}

variable {rest : CredentialProgram AuthorizedCollectorCredential}

/-- The course of an authorization: it reads one record, and either registers
a failure on it or decides by its state. -/
theorem judgeRecord_path {record : Option CollectorCredentialRecord}
    (walked : Program.Path (judgeRecord env token receivedAt record) history
      rest) :
    (∃ error, history = [] ∧ rest = .raise error ∧
      (∀ hash, tokenHash env token = .ok hash →
        presentedFor hash record = none → record = none)) ∨
    (∃ read hash, record = some read ∧ tokenHash env token = .ok hash ∧
      read.tokenHash ≠ hash ∧
      ((∃ resume, history = [] ∧ rest = .call
          (.replace { read with failedAttempts := read.failedAttempts + 1 })
          resume) ∨
        ∃ answer error, history = [⟨.replace
          { read with failedAttempts := read.failedAttempts + 1 }, answer⟩] ∧
          rest = .raise error)) ∨
    ∃ read value, record = some read ∧ history = [] ∧ rest = .done value ∧
      tokenHash env token = .ok read.tokenHash ∧
      checkRecordState read receivedAt = .ok () := by
  unfold judgeRecord at walked
  cases hashed : tokenHash env token with
  | error error =>
      rw [hashed] at walked
      obtain ⟨rfl, rfl⟩ := walked.of_raise
      exact .inl ⟨error, rfl, rfl, fun _ other => by cases other⟩
  | ok hash =>
      rw [hashed] at walked
      simp only [Program.lift_ok, Program.done_bind] at walked
      cases presented : presentedFor hash record with
      | none =>
          rw [presented] at walked
          cases record with
          | none =>
              obtain ⟨rfl, rfl⟩ := Program.Path.of_raise walked
              exact .inl ⟨_, rfl, rfl, fun _ _ _ => rfl⟩
          | some read =>
              have different : read.tokenHash ≠ hash := by
                intro same
                simp [presentedFor, same] at presented
              refine .inr (.inl ⟨read, hash, rfl, rfl, different, ?_⟩)
              rcases walked.of_call with ⟨rfl, rfl⟩ | ⟨answer, later, rfl, tail⟩
              · exact .inl ⟨_, rfl, rfl⟩
              · cases answer <;>
                  (obtain ⟨rfl, rfl⟩ := Program.Path.of_raise tail
                   exact .inr ⟨_, _, rfl, rfl⟩)
      | some read =>
          rw [presented] at walked
          have same : record = some read ∧ read.tokenHash = hash := by
            cases record with
            | none => cases presented
            | some other =>
                simp only [presentedFor, Option.ite_none_right_eq_some,
                  Option.some.injEq] at presented
                obtain ⟨sameHash, rfl⟩ := presented
                exact ⟨rfl, sameHash⟩
          cases checked : checkRecordState read receivedAt with
          | error error =>
              simp only [checked] at walked
              obtain ⟨rfl, rfl⟩ := Program.Path.of_raise walked
              refine .inl ⟨error, rfl, rfl, ?_⟩
              intro other sameHash missing
              cases sameHash
              rw [presented] at missing
              cases missing
          | ok value =>
              simp only [checked] at walked
              obtain ⟨rfl, rfl⟩ := Program.Path.of_done walked
              exact .inr (.inr ⟨read, _, same.1, rfl, rfl, by rw [same.2],
                checked⟩)

theorem authorize_path
    (walked : Program.Path (authorize env token receivedAt) history rest) :
    (∃ error, splitToken env.toUnicodeDigits token = .error error ∧
      history = [] ∧ rest = .raise error) ∨
    ∃ target, splitToken env.toUnicodeDigits token = .ok target ∧
      ((∃ resume, history = [] ∧ rest = .call (.get target) resume) ∨
        ∃ (record : Option CollectorCredentialRecord)
          (later : List (Event CredentialOp CredentialOp.Resp)),
          history = ⟨.get target, record⟩ :: later ∧
          Program.Path (judgeRecord env token receivedAt record) later rest) := by
  unfold authorize at walked
  cases split : splitToken env.toUnicodeDigits token with
  | error error =>
      rw [split] at walked
      obtain ⟨rfl, rfl⟩ := walked.of_raise
      exact .inl ⟨error, rfl, rfl, rfl⟩
  | ok target =>
      rw [split] at walked
      refine .inr ⟨target, rfl, ?_⟩
      rcases walked.of_call with ⟨rfl, rfl⟩ | ⟨record, later, rfl, tail⟩
      · exact .inl ⟨_, rfl, rfl⟩
      · exact .inr ⟨record, later, rfl, tail⟩

variable {archiveSha256 : String}

/-- A commit is one call of the store, with the hash of its token. -/
theorem commit_path {packageId : String}
    {rest : CredentialProgram CollectorSubmissionReceipt}
    (walked : Program.Path (commit env token receivedAt packageId
      archiveSha256) history rest) :
    (∃ error, history = [] ∧ rest = .raise error ∧
      ∀ target hash, splitToken env.toUnicodeDigits token = .ok target →
        tokenHash env token ≠ .ok hash) ∨
    ∃ target hash, splitToken env.toUnicodeDigits token = .ok target ∧
      tokenHash env token = .ok hash ∧
      ((∃ resume, history = [] ∧ rest = .call (.commit target hash receivedAt
          packageId archiveSha256) resume) ∨
        ∃ answer : Except CredentialError CollectorSubmissionReceipt,
          history = [⟨.commit target hash receivedAt packageId archiveSha256,
            answer⟩] ∧ rest = Program.lift answer) := by
  unfold commit at walked
  cases split : splitToken env.toUnicodeDigits token with
  | error error =>
      rw [split] at walked
      obtain ⟨rfl, rfl⟩ := walked.of_raise
      exact .inl ⟨error, rfl, rfl, nofun⟩
  | ok target =>
      cases hashed : tokenHash env token with
      | error error =>
          rw [split, hashed] at walked
          obtain ⟨rfl, rfl⟩ := Program.Path.of_raise walked
          exact .inl ⟨error, rfl, rfl, nofun⟩
      | ok hash =>
          rw [split, hashed] at walked
          refine .inr ⟨target, hash, rfl, rfl, ?_⟩
          rcases Program.Path.of_call walked with
            ⟨rfl, rfl⟩ | ⟨answer, later, rfl, tail⟩
          · exact .inl ⟨_, rfl, rfl⟩
          · right
            cases answer with
            | error error =>
                obtain ⟨rfl, rfl⟩ := Program.Path.of_raise tail
                exact ⟨_, rfl, rfl⟩
            | ok receipt =>
                obtain ⟨rfl, rfl⟩ := Program.Path.of_done tail
                exact ⟨_, rfl, rfl⟩

/-- A revocation reads one record and writes it back with the date. -/
theorem revoke_path {target : String} {revokedAt : DateTime}
    {rest : CredentialProgram Unit}
    (walked : Program.Path (revoke target revokedAt) history rest) :
    (∃ resume, history = [] ∧ rest = .call (.get target) resume) ∨
    (history = [⟨.get target, (none : Option CollectorCredentialRecord)⟩] ∧
      rest = .done ()) ∨
    ∃ read : CollectorCredentialRecord,
      (∃ resume, history = [⟨.get target, some read⟩] ∧ rest =
        .call (.replace { read with revokedAt := some revokedAt }) resume) ∨
      ∃ answer : Except CredentialError Unit,
        history = [⟨.get target, some read⟩,
          ⟨.replace { read with revokedAt := some revokedAt }, answer⟩] ∧
        rest = Program.lift answer := by
  rcases Program.Path.of_call walked with
    ⟨rfl, rfl⟩ | ⟨record, later, rfl, tail⟩
  · exact .inl ⟨_, rfl, rfl⟩
  · cases record with
    | none =>
        obtain ⟨rfl, rfl⟩ := Program.Path.of_done tail
        exact .inr (.inl ⟨rfl, rfl⟩)
    | some read =>
        refine .inr (.inr ⟨read, ?_⟩)
        rcases Program.Path.of_call tail with
          ⟨rfl, rfl⟩ | ⟨answer, rest, rfl, last⟩
        · exact .inl ⟨_, rfl, rfl⟩
        · right
          cases answer with
          | error error =>
              obtain ⟨rfl, rfl⟩ := Program.Path.of_raise last
              exact ⟨_, rfl, rfl⟩
          | ok value =>
              obtain ⟨rfl, rfl⟩ := Program.Path.of_done last
              exact ⟨_, rfl, rfl⟩

variable {record : CollectorCredentialRecord} {request : CredentialRequest}
  {resume : Except CredentialError Unit → CredentialProgram CredentialReply}

/-- A record written back was read just before, and differs from the one read
by one failure of an authorization or by a revocation. -/
theorem replacing_request (walked : Program.Path (request.body env) history
      (.call (.replace record) resume)) :
    ∃ target read, history = [⟨.get target, some read⟩] ∧
      ((∃ token receivedAt, request = .authorize token receivedAt ∧
          splitToken env.toUnicodeDigits token = .ok target ∧
          record = { read with failedAttempts := read.failedAttempts + 1 }) ∨
        ∃ revokedAt, request = .revoke target revokedAt ∧
          record = { read with revokedAt := some revokedAt }) := by
  cases request with
  | issue scope issuedAt ttl =>
      obtain ⟨inner, path⟩ := walked.of_map_call
      exact (path.issues (issue_issues env scope issuedAt ttl)).1.elim
  | authorize token receivedAt =>
      obtain ⟨inner, path⟩ := walked.of_map_call
      rcases authorize_path path with
        ⟨_, _, _, same⟩ | ⟨target, split, ⟨_, _, same⟩ |
          ⟨answer, later, rfl, judged⟩⟩
      · cases same
      · cases same
      · rcases judgeRecord_path judged with
          ⟨_, _, same, _⟩ | ⟨read, hash, rfl, _, _, ⟨_, rfl, same⟩ |
            ⟨_, _, _, same⟩⟩ | ⟨_, _, _, _, same, _, _⟩
        · cases same
        · cases same
          exact ⟨target, read, rfl, .inl ⟨token, receivedAt, rfl, split, rfl⟩⟩
        · cases same
        · cases same
  | commit token receivedAt packageId archiveSha256 =>
      obtain ⟨inner, path⟩ := walked.of_map_call
      rcases commit_path path with
        ⟨_, _, same, _⟩ | ⟨_, _, _, _, ⟨_, _, same⟩ | ⟨answer, _, same⟩⟩
      · cases same
      · cases same
      · cases answer <;> cases same
  | revoke target revokedAt =>
      obtain ⟨inner, path⟩ := walked.of_map_call
      rcases revoke_path path with
        ⟨_, _, same⟩ | ⟨_, same⟩ | ⟨read, ⟨_, rfl, same⟩ | ⟨answer, _, same⟩⟩
      · cases same
      · cases same
      · cases same
        exact ⟨target, read, rfl, .inr ⟨revokedAt, rfl, rfl⟩⟩
      · cases answer <;> cases same

/-! ## What guarded runs preserve -/

/-- The weight of a failure that an authorization registers on the
credential. -/
def failureWeight (env : CredentialEnvironment) (credentialId : String) :
    CredentialRequest → Event CredentialOp CredentialOp.Resp → Nat
  | .authorize token receivedAt, ⟨.replace _, _⟩ =>
      if presents env credentialId (.authorize token receivedAt) then 1 else 0
  | _, _ => 0

def commitWeight (credentialId : String) :
    CredentialRequest → Event CredentialOp CredentialOp.Resp → Nat
  | _, ⟨.commit target .., .ok _⟩ => if target = credentialId then 1 else 0
  | _, _ => 0

/-- What an executed call says about the record now. -/
def Recorded (credentialId : String) (row : CollectorCredentialRecord)
    (request : CredentialRequest) :
    Event CredentialOp CredentialOp.Resp → Prop
  | ⟨.get target, answer⟩ =>
      target = credentialId →
        ∃ read, answer = some read ∧ read.tokenHash = row.tokenHash
  | ⟨.replace _, _⟩ => revokes credentialId request = true → row.closed = true
  | ⟨.commit target hash .., answer⟩ =>
      target = credentialId → hash = row.tokenHash ∧
        ∀ receipt, answer = .ok receipt → row.closed = true
  | _ => True

/-- A record that still answers for the same secret, and is open only if it
was. -/
structure Kept (row after : CollectorCredentialRecord) : Prop where
  sameHash : after.tokenHash = row.tokenHash
  staysClosed : row.closed = true → after.closed = true

theorem Kept.refl (row : CollectorCredentialRecord) : Kept row row :=
  ⟨rfl, id⟩

variable {after : CollectorCredentialRecord}

theorem Recorded.later {credentialId : String}
    {row : CollectorCredentialRecord}
    {event : Event CredentialOp CredentialOp.Resp} (kept : Kept row after)
    (recorded : Recorded credentialId row request event) :
    Recorded credentialId after request event := by
  obtain ⟨op, answer⟩ := event
  obtain ⟨sameHash, staysClosed⟩ := kept
  cases op with
  | get target =>
      intro same
      rw [sameHash]
      exact recorded same
  | replace record => exact fun revoking => staysClosed (recorded revoking)
  | commit =>
      intro same
      rw [sameHash]
      exact ⟨(recorded same).1,
        fun receipt accepted => staysClosed ((recorded same).2 receipt accepted)⟩
  | _ => trivial

/-- The stored record covers everything that has happened to the
credential. -/
structure Sound (env : CredentialEnvironment) (credentialId : String)
    (config : CredentialConfig) (row : CollectorCredentialRecord) : Prop where
  walked : (credentialSystem env).Walked config
  found : config.store.record credentialId = some row
  failures : config.tally (failureWeight env credentialId) ≤ row.failedAttempts
  commitsOnce : config.tally (commitWeight credentialId) ≤ 1
  committedCloses :
    1 ≤ config.tally (commitWeight credentialId) → row.closed = true
  recorded : ∀ thread ∈ config.threads, ∀ event ∈ thread.history,
    Recorded credentialId row thread.request event

namespace Sound

variable {credentialId : String} {config : CredentialConfig}
  {row : CollectorCredentialRecord}

theorem start (sound : Sound env credentialId config row)
    (request : CredentialRequest) :
    Sound env credentialId
      { config with
        threads := config.threads ++ [(credentialSystem env).fresh request] }
      row := by
  have step : (credentialSystem env).Step System.unguarded config
      { config with
        threads := config.threads ++ [(credentialSystem env).fresh request] } :=
    .start request rfl
  have tally (weight) :=
    System.tally_start (credentialSystem env) weight config request
  refine ⟨sound.walked.step step, sound.found, ?_, ?_, ?_, ?_⟩
  · rw [tally]
    exact sound.failures
  · rw [tally]
    exact sound.commitsOnce
  · rw [tally]
    exact sound.committedCloses
  · intro thread member
    rcases List.mem_append.mp member with earlier | last
    · exact sound.recorded thread earlier
    · rw [List.mem_singleton.mp last]
      exact fun _ none => absurd none List.not_mem_nil

variable {thread : CredentialThread} {index : Nat}

/-- Carrying out a call, when the record after it still covers everything. -/
theorem execute {op : CredentialOp}
    {resume : op.Resp → CredentialProgram CredentialReply}
    (sound : Sound env credentialId config row)
    (scheduled : config.threads[index]? = some thread)
    (pending : thread.rest = .call op resume)
    (found : (config.store.execute env op).2.record credentialId = some after)
    (kept : Kept row after)
    (failures : row.failedAttempts + failureWeight env credentialId
      thread.request ⟨op, (config.store.execute env op).1⟩ ≤
        after.failedAttempts)
    (commit : commitWeight credentialId thread.request
      ⟨op, (config.store.execute env op).1⟩ = 0 ∨
        commitWeight credentialId thread.request
          ⟨op, (config.store.execute env op).1⟩ = 1 ∧
        row.closed = false ∧ after.closed = true)
    (recorded : Recorded credentialId after thread.request
      ⟨op, (config.store.execute env op).1⟩) :
    Sound env credentialId
      { store := (config.store.execute env op).2
        threads := config.threads.set index
          (System.answered thread op resume (config.store.execute env op).1) }
      after := by
  have step : (credentialSystem env).Step System.unguarded config
      { store := (config.store.execute env op).2
        threads := config.threads.set index (System.answered thread op resume
          (config.store.execute env op).1) } :=
    .execute index thread op resume scheduled pending trivial
  have tally (weight) := System.tally_execute weight config
    (config.store.execute env op).2 scheduled op resume
    (config.store.execute env op).1
  have before := sound.failures
  have once := sound.commitsOnce
  have closes := sound.committedCloses
  refine ⟨sound.walked.step step, found, ?_, ?_, ?_, ?_⟩
  · rw [tally]
    omega
  · rw [tally]
    rcases commit with none | ⟨one, wasOpen, _⟩
    · omega
    · have zero : config.tally (commitWeight credentialId) = 0 := by
        by_contra some
        have closed := closes (by omega)
        rw [wasOpen] at closed
        cases closed
      omega
  · rw [tally]
    rcases commit with none | ⟨_, _, closed⟩
    · rw [none]
      exact fun some => kept.staysClosed (closes some)
    · exact fun _ => closed
  · intro other member event inHistory
    rcases List.mem_or_eq_of_mem_set member with earlier | rfl
    · exact (sound.recorded other earlier event inHistory).later kept
    · rcases List.mem_append.mp inHistory with old | new
      · exact (sound.recorded thread (List.mem_of_getElem? scheduled) event
          old).later kept
      · rw [List.mem_singleton.mp new]
        exact recorded

/-- Writing back the record that is stored. -/
theorem replace (sound : Sound env credentialId config row)
    (scheduled : config.threads[index]? = some thread)
    (pending : thread.rest = .call (.replace record) resume)
    (guarded : hasRead config.store record.credentialId thread = true) :
    ∃ after, Sound env credentialId
      { store := (config.store.execute env (.replace record)).2
        threads := config.threads.set index
          (System.answered thread (.replace record) resume
            (config.store.execute env (.replace record)).1) } after ∧
      Kept row after := by
  have path := sound.walked thread (List.mem_of_getElem? scheduled)
  rw [pending] at path
  obtain ⟨target, read, history, change⟩ := replacing_request path
  -- The one record read is the one stored now.
  have stored : target = record.credentialId ∧
      some read = config.store.record record.credentialId := by
    simpa [hasRead, history] using guarded
  have written := CredentialStore.record_replace env sound.found record
  by_cases same : record.credentialId = credentialId
  · rw [if_pos same] at written
    rw [same, sound.found] at stored
    obtain ⟨rfl, sameRow⟩ := stored
    cases sameRow
    have kept : Kept row record := by
      rcases change with ⟨_, _, _, _, rfl⟩ | ⟨_, _, rfl⟩
      · exact ⟨rfl, id⟩
      · exact ⟨rfl, fun _ => rfl⟩
    refine ⟨record, sound.execute scheduled pending written kept ?_
      (.inl rfl) ?_, kept⟩
    · rcases change with ⟨token, receivedAt, request, split, rfl⟩ |
        ⟨revokedAt, request, rfl⟩
      · rw [request]
        simp [failureWeight, presents, split]
      · rw [request]
        simp [failureWeight]
    · rcases change with ⟨token, receivedAt, request, split, rfl⟩ |
        ⟨revokedAt, request, rfl⟩
      · rw [request]
        exact nofun
      · exact fun _ => rfl
  · rw [if_neg same] at written
    have other : target ≠ credentialId := by
      rw [stored.1]
      exact same
    refine ⟨row, sound.execute scheduled pending written (.refl row) ?_
      (.inl rfl) ?_, .refl row⟩
    · rcases change with ⟨token, receivedAt, request, split, _⟩ |
        ⟨revokedAt, request, _⟩
      · rw [request]
        simp [failureWeight, presents, split, other]
      · rw [request]
        simp [failureWeight]
    · rcases change with ⟨token, receivedAt, request, split, _⟩ |
        ⟨revokedAt, request, _⟩
      · rw [request]
        exact nofun
      · rw [request]
        intro revoking
        exact absurd (of_decide_eq_true revoking) other

/-- A commit with the secret of the credential. -/
theorem commit {target hash : String} {packageId : String}
    {resume : Except CredentialError CollectorSubmissionReceipt →
      CredentialProgram CredentialReply}
    (sound : Sound env credentialId config row)
    (scheduled : config.threads[index]? = some thread)
    (pending : thread.rest = .call
      (.commit target hash receivedAt packageId archiveSha256) resume)
    (guarded : ∀ record ∈ config.store.record target,
      record.tokenHash = hash) :
    ∃ after, Sound env credentialId
      { store := (config.store.execute env
          (.commit target hash receivedAt packageId archiveSha256)).2
        threads := config.threads.set index (System.answered thread
          (.commit target hash receivedAt packageId archiveSha256) resume
          (config.store.execute env
            (.commit target hash receivedAt packageId archiveSha256)).1) }
      after ∧ Kept row after := by
  have sameHash : target = credentialId → hash = row.tokenHash := by
    rintro rfl
    exact (guarded row sound.found).symm
  have noFailure (answer) : failureWeight env credentialId thread.request
      ⟨.commit target hash receivedAt packageId archiveSha256, answer⟩ = 0 := by
    cases thread.request <;> rfl
  have executed : config.store.execute env
      (.commit target hash receivedAt packageId archiveSha256) =
      config.store.commit env target hash receivedAt packageId archiveSha256 :=
    rfl
  rcases CredentialStore.commit_cases env config.store target hash receivedAt
      packageId archiveSha256 with
    ⟨error, refused⟩ | ⟨record, receiptId, after, found, _, checked, _,
      accepted, records, _⟩
  · refine ⟨row, sound.execute scheduled pending ?_ (.refl row) ?_ ?_ ?_,
        .refl row⟩
    · rw [executed, refused]
      exact sound.found
    · rw [noFailure]
      exact Nat.le_refl _
    · rw [executed, refused]
      exact .inl rfl
    · rw [executed, refused]
      exact fun same => ⟨sameHash same, nofun⟩
  · have written : after.record credentialId =
        some (if target = credentialId then
          record.committed receivedAt receiptId else row) := by
      have put := CredentialStore.record_put sound.found
        (record.committed receivedAt receiptId)
      have recordId : record.credentialId = target := Table.lookup_key found
      rw [CredentialStore.record, records]
      rw [CredentialStore.record] at put
      rw [put]
      simp only [CollectorCredentialRecord.committed, recordId]
    by_cases same : target = credentialId
    · subst same
      rw [sound.found] at found
      cases found
      rw [if_pos rfl] at written
      have wasOpen := CredentialStore.open_of_checkRecordState checked
      have closed : (row.committed receivedAt receiptId).closed = true := by
        simp [CollectorCredentialRecord.closed,
          CollectorCredentialRecord.committed]
      refine ⟨row.committed receivedAt receiptId,
        sound.execute scheduled pending ?_ ⟨rfl, fun _ => closed⟩ ?_ ?_ ?_,
        ⟨rfl, fun _ => closed⟩⟩
      · rw [executed, accepted]
        exact written
      · rw [noFailure]
        exact Nat.le_refl _
      · rw [executed, accepted]
        exact .inr ⟨by simp [commitWeight], wasOpen, closed⟩
      · rw [executed, accepted]
        exact fun _ => ⟨sameHash rfl, fun _ _ => closed⟩
    · rw [if_neg same] at written
      refine ⟨row, sound.execute scheduled pending ?_ (.refl row) ?_ ?_ ?_,
        .refl row⟩
      · rw [executed, accepted]
        exact written
      · rw [noFailure]
        exact Nat.le_refl _
      · rw [executed, accepted]
        exact .inl (by simp [commitWeight, same])
      · rw [executed, accepted]
        exact fun other => absurd other same

/-- A call that writes no known record. -/
theorem quiet {op : CredentialOp}
    {resume : op.Resp → CredentialProgram CredentialReply}
    (sound : Sound env credentialId config row)
    (scheduled : config.threads[index]? = some thread)
    (pending : thread.rest = .call op resume)
    (found : (config.store.execute env op).2.record credentialId = some row)
    (noFailure : failureWeight env credentialId thread.request
      ⟨op, (config.store.execute env op).1⟩ = 0)
    (noCommit : commitWeight credentialId thread.request
      ⟨op, (config.store.execute env op).1⟩ = 0)
    (recorded : Recorded credentialId row thread.request
      ⟨op, (config.store.execute env op).1⟩) :
    ∃ after, Sound env credentialId
      { store := (config.store.execute env op).2
        threads := config.threads.set index
          (System.answered thread op resume (config.store.execute env op).1) }
      after ∧ Kept row after := by
  refine ⟨row, sound.execute scheduled pending found (.refl row) ?_
    (.inl noCommit) recorded, .refl row⟩
  rw [noFailure]
  exact Nat.le_refl _

/-- One guarded step. -/
theorem step {next : CredentialConfig}
    (sound : Sound env credentialId config row)
    (step : (credentialSystem env).Step keepsRecord config next) :
    ∃ after, Sound env credentialId next after ∧
      Kept row after := by
  cases step with
  | start request => exact ⟨row, sound.start request, .refl row⟩
  | execute index thread op resume scheduled pending guarded =>
      cases op with
      | replace record => exact sound.replace scheduled pending guarded
      | commit => exact sound.commit scheduled pending guarded
      | insert record =>
          refine sound.quiet scheduled pending
            (CredentialStore.record_insert env sound.found record) ?_ rfl
            trivial
          cases thread.request <;> rfl
      | get target =>
          refine sound.quiet scheduled pending sound.found ?_ rfl ?_
          · cases thread.request <;> rfl
          · rintro rfl
            exact ⟨row, sound.found, rfl⟩
      | draw =>
          refine sound.quiet scheduled pending sound.found ?_ rfl trivial
          cases thread.request <;> rfl

/-! ## What a sound configuration says about its requests -/

/-- A request that was to close the credential and has returned did close
it. -/
theorem closed_of_succeeded (sound : Sound env credentialId config row)
    (member : thread ∈ config.threads)
    (closing : commits env credentialId thread.request = true ∨
      revokes credentialId thread.request = true)
    (returned : succeeded thread = true) : row.closed = true := by
  have path := sound.walked thread member
  have recorded := sound.recorded thread member
  obtain ⟨value, rest⟩ : ∃ value, thread.rest = .done value := by
    unfold succeeded at returned
    split at returned
    · next value rest => exact ⟨value, rest⟩
    · cases returned
  rw [rest] at path
  change Program.Path (thread.request.body env) _ _ at path
  cases request : thread.request with
  | issue => simp [request, commits, revokes] at closing
  | authorize => simp [request, commits, revokes] at closing
  | commit token receivedAt packageId archiveSha256 =>
      simp only [request, commits, revokes, presents, Bool.false_eq_true,
        or_false] at closing
      rw [request] at path recorded
      obtain ⟨receipt, _, inner⟩ := path.of_map_done
      rcases commit_path inner with
        ⟨_, _, same, _⟩ | ⟨target, hash, split, _, ⟨_, _, same⟩ |
          ⟨answer, history, same⟩⟩
      · cases same
      · cases same
      · cases answer with
        | error error => cases same
        | ok receipt =>
            rw [split] at closing
            have event := recorded _ (by rw [history]; exact List.mem_cons_self)
            exact (event (of_decide_eq_true closing)).2 receipt rfl
  | revoke target revokedAt =>
      simp only [request, commits, revokes, Bool.false_eq_true, false_or,
        decide_eq_true_eq] at closing
      subst closing
      rw [request] at path recorded
      obtain ⟨_, _, inner⟩ := path.of_map_done
      rcases revoke_path inner with
        ⟨_, _, same⟩ | ⟨history, _⟩ | ⟨read, ⟨_, _, same⟩ |
          ⟨answer, history, _⟩⟩
      · cases same
      · have event := recorded _ (by rw [history]; exact List.mem_cons_self)
        obtain ⟨read, missing, _⟩ := event rfl
        cases missing
      · cases same
      · have event := recorded
          ⟨.replace { read with revokedAt := some revokedAt }, answer⟩
          (by simp [history])
        exact event (by simp [revokes])

theorem hash_of_differs {storedHash : String}
    (wrong : differs env storedHash token = true) :
    ∃ hash, tokenHash env token = .ok hash ∧ hash ≠ storedHash := by
  unfold differs at wrong
  split at wrong
  · next hash hashed => exact ⟨hash, hashed, of_decide_eq_true wrong⟩
  · cases wrong

/-- A completed wrong-secret attempt has registered a failure. -/
theorem failure_of_wrongSecret (sound : Sound env credentialId config row)
    (member : thread ∈ config.threads)
    (presented : presents env credentialId thread.request = true)
    (wrong : wrongSecret env row.tokenHash thread.request = true)
    (finished : completed thread = true) :
    1 ≤ thread.tally (failureWeight env credentialId) := by
  have path := sound.walked thread member
  have recorded := sound.recorded thread member
  have done : thread.rest.Finished := by
    unfold completed at finished
    split at finished
    · cases finished
    rename_i other
    cases rest : thread.rest with
    | call op resume => exact (other op resume rest).elim
    | _ => trivial
  change Program.Path (thread.request.body env) _ _ at path
  cases request : thread.request with
  | issue => simp [request, presents] at presented
  | revoke => simp [request, presents] at presented
  | authorize token receivedAt =>
      rw [request] at path recorded wrong
      have namesIt := presented
      simp only [request, presents] at presented
      obtain ⟨left, inner, leftDone⟩ := path.of_map_finished done
      rcases authorize_path inner with
        ⟨_, split, _, _⟩ | ⟨target, split, ⟨_, _, rfl⟩ |
          ⟨record, later, history, judged⟩⟩
      · rw [split] at presented
        cases presented
      · cases leftDone
      · rw [split] at presented
        have sameTarget : target = credentialId := of_decide_eq_true presented
        have event := recorded ⟨.get target, record⟩ (by simp [history])
        obtain ⟨read, rfl, sameHash⟩ := event sameTarget
        obtain ⟨hash, hashed, different⟩ := hash_of_differs wrong
        rcases judgeRecord_path judged with
          ⟨_, _, _, missing⟩ | ⟨_, _, sameRead, _, _, ⟨_, _, rfl⟩ |
            ⟨answer, _, rest, _⟩⟩ | ⟨_, _, sameRead, _, _, sameSecret, _⟩
        · have none := missing hash hashed (by
            simp [presentedFor, sameHash, Ne.symm different])
          cases none
        · cases leftDone
        · have inside : (⟨.replace _, answer⟩ :
              Event CredentialOp CredentialOp.Resp) ∈ thread.history := by
            rw [history, rest]
            exact List.mem_cons_of_mem _ List.mem_cons_self
          have weight := Thread.weight_le_tally
            (failureWeight env credentialId) inside
          have one : failureWeight env credentialId thread.request
              ⟨.replace _, answer⟩ = 1 := by
            rw [request] at namesIt ⊢
            simp only [failureWeight, namesIt, if_true]
          rw [one] at weight
          exact weight
        · cases sameRead
          rw [hashed] at sameSecret
          cases sameSecret
          exact absurd sameHash different
  | commit token receivedAt packageId archiveSha256 =>
      rw [request] at path recorded wrong
      simp only [request, presents] at presented
      obtain ⟨hash, hashed, different⟩ := hash_of_differs wrong
      obtain ⟨left, inner, leftDone⟩ := path.of_map_finished done
      rcases commit_path inner with
        ⟨_, _, _, unhashed⟩ | ⟨target, other, split, hashedToo, ⟨_, _, rfl⟩ |
          ⟨answer, history, _⟩⟩
      · split at presented
        · next target split => exact absurd hashed (unhashed target hash split)
        · cases presented
      · cases leftDone
      · rw [hashed] at hashedToo
        cases hashedToo
        rw [split] at presented
        have event := recorded _ (by rw [history]; exact List.mem_cons_self)
        exact absurd (event (of_decide_eq_true presented)).1 different

end Sound

/-! ## After the credential has been closed -/

/-- What a call answers once the credential is closed. -/
def Refusing (credentialId : String) :
    Event CredentialOp CredentialOp.Resp → Prop
  | ⟨.get target, answer⟩ =>
      target = credentialId →
        ∃ read, answer = some read ∧ read.closed = true
  | ⟨.commit target .., answer⟩ =>
      target = credentialId → ∃ error, answer = .error error
  | _ => True

/-- The credential is closed, and every request started since the first
`count` ones has only met refusals. -/
structure Final (env : CredentialEnvironment) (credentialId : String)
    (count : Nat) (config : CredentialConfig)
    (row : CollectorCredentialRecord) : Prop where
  sound : Sound env credentialId config row
  closed : row.closed = true
  longEnough : count ≤ config.threads.length
  late : ∀ index thread, count ≤ index →
    config.threads[index]? = some thread →
    ∀ event ∈ thread.history, Refusing credentialId event

theorem refusing_execute {credentialId : String} {store : CredentialStore}
    {row : CollectorCredentialRecord}
    (found : store.record credentialId = some row)
    (closed : row.closed = true) (op : CredentialOp) :
    Refusing credentialId ⟨op, (store.execute env op).1⟩ := by
  cases op with
  | get target =>
      rintro rfl
      exact ⟨row, found, closed⟩
  | commit target hash receivedAt packageId archiveSha256 =>
      rintro rfl
      rcases CredentialStore.commit_cases env store target hash receivedAt
          packageId archiveSha256 with
        ⟨error, refused⟩ | ⟨record, _, _, stored, _, checked, _⟩
      · exact ⟨error, by rw [CredentialStore.execute, refused]⟩
      · rw [found] at stored
        cases stored
        rw [CredentialStore.open_of_checkRecordState checked] at closed
        cases closed
  | _ => trivial

theorem Final.step {credentialId : String} {count : Nat}
    {config next : CredentialConfig} {row : CollectorCredentialRecord}
    (final : Final env credentialId count config row)
    (step : (credentialSystem env).Step keepsRecord config next) :
    ∃ after, Final env credentialId count next after := by
  obtain ⟨after, sound, kept⟩ := final.sound.step step
  have longEnough := final.longEnough
  refine ⟨after, sound, kept.staysClosed final.closed, ?_, ?_⟩
  · cases step with
    | start request =>
        rw [List.length_append]
        omega
    | execute => simpa only [List.length_set] using longEnough
  · cases step with
    | start request =>
        intro index thread late found event inHistory
        rcases Nat.lt_or_ge index config.threads.length with inside | beyond
        · rw [List.getElem?_append_left inside] at found
          exact final.late index thread late found event inHistory
        · rw [List.getElem?_append_right beyond] at found
          have fresh := List.mem_of_getElem? found
          rw [List.mem_singleton.mp fresh] at inHistory
          exact absurd inHistory List.not_mem_nil
    | execute moved mover op resume scheduled =>
        intro index thread late found event inHistory
        by_cases same : moved = index
        · subst same
          have inside := (List.getElem?_eq_some_iff.mp scheduled).1
          rw [List.getElem?_set_self inside] at found
          cases found
          rcases List.mem_append.mp inHistory with old | new
          · exact final.late moved mover late scheduled event old
          · rw [List.mem_singleton.mp new]
            exact refusing_execute final.sound.found final.closed op
        · rw [List.getElem?_set_ne same] at found
          exact final.late index thread late found event inHistory

/-- A request with the credential's token that was started after the
credential was closed does not succeed. -/
theorem Final.refused {credentialId : String} {count index : Nat}
    {config : CredentialConfig} {row : CollectorCredentialRecord}
    {thread : CredentialThread}
    (final : Final env credentialId count config row)
    (late : count ≤ index) (started : config.threads[index]? = some thread)
    (presented : presents env credentialId thread.request = true) :
    succeeded thread = false := by
  have path := final.sound.walked thread (List.mem_of_getElem? started)
  have refusing := final.late index thread late started
  unfold succeeded
  split
  · next value rest =>
      exfalso
      rw [rest] at path
      change Program.Path (thread.request.body env) _ _ at path
      cases request : thread.request with
      | issue => simp [request, presents] at presented
      | revoke => simp [request, presents] at presented
      | authorize token receivedAt =>
          rw [request] at path
          simp only [request, presents] at presented
          obtain ⟨_, _, inner⟩ := path.of_map_done
          rcases authorize_path inner with
            ⟨_, _, _, same⟩ | ⟨target, split, ⟨_, _, same⟩ |
              ⟨record, later, history, judged⟩⟩
          · cases same
          · cases same
          · rw [split] at presented
            have event := refusing ⟨.get target, record⟩ (by simp [history])
            obtain ⟨read, rfl, closed⟩ := event (of_decide_eq_true presented)
            rcases judgeRecord_path judged with
              ⟨_, _, same, _⟩ | ⟨_, _, _, _, _, ⟨_, _, same⟩ |
                ⟨_, _, _, same⟩⟩ | ⟨_, _, sameRead, _, _, _, checked⟩
            · cases same
            · cases same
            · cases same
            · cases sameRead
              rw [CredentialStore.open_of_checkRecordState checked] at closed
              cases closed
      | commit token receivedAt packageId archiveSha256 =>
          rw [request] at path
          simp only [request, presents] at presented
          obtain ⟨_, _, inner⟩ := path.of_map_done
          rcases commit_path inner with
            ⟨_, _, same, _⟩ | ⟨target, hash, split, _, ⟨_, _, same⟩ |
              ⟨answer, history, same⟩⟩
          · cases same
          · cases same
          · rw [split] at presented
            have event := refusing _ (by rw [history]; exact List.mem_cons_self)
            obtain ⟨error, rfl⟩ := event (of_decide_eq_true presented)
            cases same
  · rfl

/-! ## The law of the credential -/

def successfulCommits (env : CredentialEnvironment) (credentialId : String)
    (config : CredentialConfig) : Nat :=
  config.threads.countP fun thread =>
    commits env credentialId thread.request && succeeded thread

def wrongSecretAttempts (env : CredentialEnvironment)
    (credentialId storedHash : String) (config : CredentialConfig) : Nat :=
  config.threads.countP fun thread =>
    presents env credentialId thread.request &&
      wrongSecret env storedHash thread.request && completed thread

/-- A revocation or a commit of the credential has completed. -/
def Closing (env : CredentialEnvironment) (credentialId : String)
    (config : CredentialConfig) : Prop :=
  ∃ thread ∈ config.threads, succeeded thread = true ∧
    (commits env credentialId thread.request = true ∨
      revokes credentialId thread.request = true)

/-- The three laws of a credential, at a configuration of a run: one commit at
most, no success for what starts after a completed revocation or commit, and a
failure count that covers the wrong-secret attempts up to the lock. -/
structure CredentialLaw (env : CredentialEnvironment) (credentialId : String)
    (guard : CredentialStore → CredentialThread → CredentialOp → Prop)
    (storedHash : String) (config : CredentialConfig) : Prop where
  commitOnce : successfulCommits env credentialId config ≤ 1
  closedIsFinal : Closing env credentialId config →
    ∀ after, (credentialSystem env).Run guard config after →
    ∀ index thread, config.threads.length ≤ index →
      after.threads[index]? = some thread →
      presents env credentialId thread.request = true →
      succeeded thread = false
  failuresCounted : ∃ record, config.store.record credentialId = some record ∧
    min (wrongSecretAttempts env credentialId storedHash config)
      maxFailedAttempts ≤ record.failedAttempts

/-- A successful commit is an executed one. -/
theorem Sound.commitOnce {credentialId : String} {config : CredentialConfig}
    {row : CollectorCredentialRecord}
    (sound : Sound env credentialId config row) :
    successfulCommits env credentialId config ≤ 1 := by
  refine Nat.le_trans (Config.countP_le_tally (commitWeight credentialId)
    config _ ?_) sound.commitsOnce
  intro thread member counted
  simp only [Bool.and_eq_true] at counted
  obtain ⟨committing, returned⟩ := counted
  have path := sound.walked thread member
  obtain ⟨value, rest⟩ : ∃ value, thread.rest = .done value := by
    unfold succeeded at returned
    split at returned
    · next value rest => exact ⟨value, rest⟩
    · cases returned
  rw [rest] at path
  change Program.Path (thread.request.body env) _ _ at path
  cases request : thread.request with
  | commit token receivedAt packageId archiveSha256 =>
      rw [request] at path
      simp only [request, commits, presents] at committing
      obtain ⟨_, _, inner⟩ := path.of_map_done
      rcases commit_path inner with
        ⟨_, _, same, _⟩ | ⟨target, hash, split, _, ⟨_, _, same⟩ |
          ⟨answer, history, same⟩⟩
      · cases same
      · cases same
      · cases answer with
        | error error => cases same
        | ok receipt =>
            rw [split] at committing
            have executed : (⟨.commit target hash receivedAt packageId
                archiveSha256, .ok receipt⟩ :
                Event CredentialOp CredentialOp.Resp) ∈ thread.history := by
              simp [history]
            have weight := Thread.weight_le_tally (commitWeight credentialId)
              executed
            simpa [commitWeight, of_decide_eq_true committing] using weight
  | _ => simp [request, commits] at committing

/-- In every run in which a record is only written back over the record it was
made from, and a commit presents the credential's own secret, the laws of the
credential hold at every configuration. -/
theorem single_use_and_final {store : CredentialStore} {credentialId : String}
    {row : CollectorCredentialRecord} {config : CredentialConfig}
    (found : store.record credentialId = some row)
    (run : (credentialSystem env).Run keepsRecord (Config.initial store)
      config) :
    CredentialLaw env credentialId keepsRecord row.tokenHash config := by
  have initially : Sound env credentialId (Config.initial store) row :=
    { walked := System.Walked.initial store
      found := found
      failures := Nat.zero_le _
      commitsOnce := Nat.zero_le _
      committedCloses := by simp [Config.tally, Config.initial]
      recorded := nofun }
  obtain ⟨later, sound, sameHash⟩ := run.invariant
    (fun config => ∃ later, Sound env credentialId config later ∧
      later.tokenHash = row.tokenHash)
    ⟨row, initially, rfl⟩ (by
      rintro middle next ⟨later, sound, sameHash⟩ step
      obtain ⟨after, soundAfter, kept⟩ := sound.step step
      exact ⟨after, soundAfter, kept.sameHash.trans sameHash⟩)
  refine ⟨sound.commitOnce, ?_, later, sound.found, ?_⟩
  · rintro ⟨closer, member, returned, closing⟩ after run index thread late
      started presented
    have initial : Final env credentialId config.threads.length config later :=
      { sound := sound
        closed := sound.closed_of_succeeded member closing returned
        longEnough := Nat.le_refl _
        late := by
          intro index thread beyond started
          rw [List.getElem?_eq_none beyond] at started
          cases started }
    obtain ⟨_, final⟩ := run.invariant
      (fun config' => ∃ later, Final env credentialId config.threads.length
        config' later) ⟨later, initial⟩ (by
          rintro middle next ⟨later, final⟩ step
          exact final.step step)
    exact final.refused late started presented
  · have covered : wrongSecretAttempts env credentialId row.tokenHash config ≤
        config.tally (failureWeight env credentialId) := by
      refine Config.countP_le_tally _ config _ ?_
      intro thread member counted
      simp only [Bool.and_eq_true] at counted
      obtain ⟨⟨presented, wrong⟩, finished⟩ := counted
      exact sound.failure_of_wrongSecret member presented
        (by rw [sameHash]; exact wrong) finished
    have failures := sound.failures
    omega

/-! ## A stale failure after a revocation -/

def sampleEnvironment : CredentialEnvironment :=
  { isSpace := fun _ => false
    decimalDigit := fun _ => none
    keyedHash := fun token => "hmac:" ++ token
    hashKeyVersion := "v1"
    uuid4 := fun drawn =>
      "00000000-0000-4000-8000-00000000000" ++ toString drawn
    tokenUrlsafe := fun _ => "AAECAwQFBgcICQoLDA0ODxAREhMUFRYXGBkaGxwdHh8" }

def sampleId : String := "12345678-1234-4678-9234-567812345678"

def rightToken : String :=
  "secai_job_v1.12345678-1234-4678-9234-567812345678." ++
    "AAECAwQFBgcICQoLDA0ODxAREhMUFRYXGBkaGxwdHh8"

def guessedToken : String :=
  "secai_job_v1.12345678-1234-4678-9234-567812345678." ++
    "BAECAwQFBgcICQoLDA0ODxAREhMUFRYXGBkaGxwdHh8"

def sampleScope : CollectorCredentialScope :=
  { organizationId := "10000000-0000-4000-8000-000000000001"
    assetId := "10000000-0000-4000-8000-000000000002"
    jobId := "10000000-0000-4000-8000-000000000003"
    manifestId := "10000000-0000-4000-8000-000000000004"
    manifestSha256 :=
      "0123456789abcdef0123456789abcdef0123456789abcdef0123456789abcdef"
    nonce := "nonce-0001"
    endpointId := "collector-upload"
    contentType := "application/zip"
    schemaVersion := "1.0.0"
    maxArchiveBytes := 104857600 }

def sampleRecord : CollectorCredentialRecord :=
  { credentialId := sampleId
    scope := sampleScope
    tokenHash := "hmac:" ++ rightToken
    hashKeyVersion := "v1"
    issuedAt := 0
    expiresAt := minutes 60
    failedAttempts := 0
    usedAt := none
    revokedAt := none
    receiptId := none }

def sampleStore : CredentialStore :=
  { records := [sampleRecord], usedNonces := [], drawn := 0 }

/-- A wrong guess, a submission and one more authorization, one after the
other. -/
theorem sequential_requests_obey_the_law :
    ∃ config, successfulCommits sampleEnvironment sampleId config = 1 ∧
      wrongSecretAttempts sampleEnvironment sampleId sampleRecord.tokenHash
        config = 1 ∧
      CredentialLaw sampleEnvironment sampleId keepsRecord
        sampleRecord.tokenHash config := by
  let observe (config : CredentialConfig) : Nat × Nat :=
    (successfulCommits sampleEnvironment sampleId config,
      wrongSecretAttempts sampleEnvironment sampleId sampleRecord.tokenHash
        config)
  have scheduled : ((credentialSystem sampleEnvironment).schedule keepsRecord
      (Config.initial sampleStore)
      [.start (.authorize guessedToken 1), .step 0, .step 0,
       .start (.authorize rightToken 2), .step 1,
       .start (.commit rightToken 3 "package" "digest"), .step 2,
       .start (.authorize rightToken 4), .step 3]).map observe =
      some (1, 1) := by
    decide
  obtain ⟨config, run, seen⟩ := System.exists_run_of_schedule scheduled
  obtain ⟨one, wrong⟩ := Prod.mk.inj seen
  have found : sampleStore.record sampleId = some sampleRecord := by
    decide
  exact ⟨config, one, wrong, single_use_and_final found run⟩

/-- A guess reads the record before a revocation and writes it back after it;
the revocation is gone, and the right token is authorized again. -/
theorem stale_failure_undoes_revocation :
    ∃ config,
      (credentialSystem sampleEnvironment).Run System.unguarded
        (Config.initial sampleStore) config ∧
      ¬ CredentialLaw sampleEnvironment sampleId System.unguarded
        sampleRecord.tokenHash config := by
  let isClosing (config : CredentialConfig) : Bool :=
    config.threads.any fun thread =>
      succeeded thread && revokes sampleId thread.request
  let continued (config : CredentialConfig) : Nat × Bool × Option (Option Bool) :=
    (config.threads.length, isClosing config,
      ((credentialSystem sampleEnvironment).schedule System.unguarded config
        [.step 0, .start (.authorize rightToken 3), .step 2]).map fun later =>
          later.threads[2]?.map fun thread =>
            presents sampleEnvironment sampleId thread.request &&
              succeeded thread)
  have scheduled : ((credentialSystem sampleEnvironment).schedule
      System.unguarded (Config.initial sampleStore)
      [.start (.authorize guessedToken 1), .step 0,
       .start (.revoke sampleId 2), .step 1, .step 1]).map continued =
      some (2, true, some (some true)) := by
    decide
  obtain ⟨config, run, seen⟩ := System.exists_run_of_schedule scheduled
  simp only [continued, Prod.mk.injEq] at seen
  obtain ⟨two, closing, later⟩ := seen
  obtain ⟨after, tail, authorized⟩ := System.exists_run_of_schedule later
  obtain ⟨thread, started, returned⟩ := Option.map_eq_some_iff.mp authorized
  refine ⟨config, run, fun law => ?_⟩
  have closed : Closing sampleEnvironment sampleId config := by
    obtain ⟨closer, member, counted⟩ := List.any_eq_true.mp closing
    simp only [Bool.and_eq_true] at counted
    exact ⟨closer, member, counted.1, .inr counted.2⟩
  simp only [Bool.and_eq_true] at returned
  have refused := law.closedIsFinal closed after tail 2 thread
    (Nat.le_of_eq two) started returned.1
  rw [returned.2] at refused
  cases refused

end SecAI.Credential
