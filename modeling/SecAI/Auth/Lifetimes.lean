/-
Module: SecAI.Auth.Lifetimes
Purpose: What outlives every interleaving of authentication requests: no
  account or session is deleted or changes hands, and no name is given twice.
Trusted boundary: none
Main exports:
  AuthStore.identities, Lasting, lasting_execute, records_last
-/
import SecAI.Auth.SessionSteps
import Mathlib.Data.List.Nodup

namespace SecAI.Auth

open Interleaving

variable {store : AuthStore}

/-- The columns of an account that say which account it is. -/
def UserAccountRecord.identity (row : UserAccountRecord) :
    Uuid × String × Uuid × DateTime :=
  (row.id, row.usernameCanonical, row.organizationId, row.createdAt)

namespace AuthStore

/-- The accounts, in the order in which they were registered. -/
def identities (store : AuthStore) : List (Uuid × String × Uuid × DateTime) :=
  store.accounts.map UserAccountRecord.identity

/-- An identifier and a username name one account each. -/
structure Unambiguous (store : AuthStore) : Prop where
  identifiers : (store.identities.map fun identity => identity.1).Nodup
  usernames : (store.identities.map fun identity => identity.2.1).Nodup

variable {change : UserAccountRecord → UserAccountRecord}

theorem identities_updateAccount (target : Uuid)
    (keeps : ∀ row, (change row).identity = row.identity) :
    (store.updateAccount target change).identities = store.identities :=
  Table.map_updateWhere keeps _

theorem identities_updateActive (target organizationId : Uuid)
    (keeps : ∀ row, (change row).identity = row.identity) :
    (store.updateActive target organizationId change).2.identities =
      store.identities := by
  unfold updateActive
  split
  · rfl
  split
  · exact identities_updateAccount target keeps
  · rfl

theorem identities_grantUserRole (target organizationId : Uuid)
    (now : DateTime) :
    (store.grantUserRole target organizationId now).identities =
      store.identities := by
  have bumped : (store.updateAccount target bumpRoleVersion).identities =
      store.identities :=
    identities_updateAccount target fun _ => rfl
  simp only [grantUserRole]
  split
  · exact bumped
  split
  · exact bumped
  · rfl

/-- A call adds at most one account, under a name that is free. -/
theorem identities_execute (store : AuthStore) (op : AuthOp) :
    (store.execute op).2.identities = store.identities ∨
      ∃ added : UserAccountRecord,
        (store.execute op).2.identities =
            store.identities ++ [added.identity] ∧
          ∀ row ∈ store.accounts, row.id ≠ added.id ∧
            row.usernameCanonical ≠ added.usernameCanonical := by
  cases op with
  | registerLoginFailure account now lock =>
      left
      exact identities_updateAccount _ fun row => by cases lock <;> rfl
  | resetLoginFailures =>
      left
      exact identities_updateAccount _ fun _ => rfl
  | transitionAccount target organizationId fromStatuses toStatus now grant =>
      left
      simp only [execute, transitionAccount]
      split
      · rfl
      split
      · cases grant with
        | false => exact identities_updateAccount target fun _ => rfl
        | true =>
            exact (identities_grantUserRole target organizationId now).trans
              (identities_updateAccount target fun _ => rfl)
      · rfl
  | updateDisplayName =>
      left
      simp only [execute]
      split
      · rfl
      · exact identities_updateAccount _ fun _ => rfl
  | changePassword =>
      left
      exact identities_updateActive _ _ fun _ => rfl
  | updateMfaCode =>
      left
      exact identities_updateActive _ _ fun _ => rfl
  | createPendingAccount =>
      simp only [execute, createPendingAccount]
      split
      · exact .inl rfl
      rename_i free
      simp only [List.any_eq_true, Bool.or_eq_true, decide_eq_true_eq,
        not_exists, not_and, not_or] at free
      exact .inr ⟨_, List.map_append, free⟩
  | createSession values =>
      left
      simp only [execute]
      split <;> rfl
  | _ => exact .inl rfl

end AuthStore

/-- `Lasting before after`: what the tables `after` still hold of the tables
`before`. -/
structure Lasting (before after : AuthStore) : Prop where
  accounts : before.identities <+: after.identities
  unambiguous : before.Unambiguous → after.Unambiguous
  credentials : ∀ userId row, before.account userId = some row →
    ∃ later, after.account userId = some later ∧
      row.credentialVersion ≤ later.credentialVersion
  sessions : ∀ sessionIdHash row,
    before.storedSession sessionIdHash = some row →
      ∃ later, after.storedSession sessionIdHash = some later ∧ Aged row later

namespace Lasting

variable {before middle after : AuthStore}

theorem refl (store : AuthStore) : Lasting store store where
  accounts := List.prefix_refl _
  unambiguous := id
  credentials := fun _ row found => ⟨row, found, Nat.le_refl _⟩
  sessions := fun _ row found => ⟨row, found, .refl row⟩

theorem trans (one : Lasting before middle) (two : Lasting middle after) :
    Lasting before after where
  accounts := one.accounts.trans two.accounts
  unambiguous := two.unambiguous ∘ one.unambiguous
  credentials := by
    intro userId row found
    obtain ⟨middle, foundMiddle, grown⟩ := one.credentials userId row found
    obtain ⟨last, foundLast, grownMore⟩ :=
      two.credentials userId middle foundMiddle
    exact ⟨last, foundLast, grown.trans grownMore⟩
  sessions := by
    intro sessionIdHash row found
    obtain ⟨middle, foundMiddle, aged⟩ := one.sessions sessionIdHash row found
    obtain ⟨last, foundLast, agedMore⟩ :=
      two.sessions sessionIdHash middle foundMiddle
    exact ⟨last, foundLast, aged.trans agedMore⟩

end Lasting

theorem AuthStore.Unambiguous.execute (op : AuthOp)
    (unambiguous : store.Unambiguous) : (store.execute op).2.Unambiguous := by
  obtain ⟨identifiers, usernames⟩ := unambiguous
  rcases identities_execute store op with same | ⟨added, grown, free⟩
  · exact ⟨same ▸ identifiers, same ▸ usernames⟩
  constructor
  all_goals
    rw [grown, List.map_append, List.map_singleton, ← List.concat_eq_append,
      List.nodup_concat]
    refine ⟨fun taken => ?_, by assumption⟩
    rw [identities, List.map_map] at taken
    obtain ⟨row, stored, same⟩ := List.mem_map.mp taken
  case identifiers => exact (free row stored).1 same
  case usernames => exact (free row stored).2 same

theorem lasting_execute (store : AuthStore) (op : AuthOp) :
    Lasting store (store.execute op).2 where
  accounts := by
    rcases AuthStore.identities_execute store op with
      same | ⟨added, grown, _⟩
    · exact same ▸ List.prefix_refl _
    · exact grown ▸ List.prefix_append _ _
  unambiguous := AuthStore.Unambiguous.execute op
  credentials := fun _ _ found => AuthStore.credentialVersion_execute op found
  sessions := by
    intro sessionIdHash row found
    obtain ⟨later, foundLater, aged, _⟩ :=
      AuthStore.storedSession_execute op found
    exact ⟨later, foundLater, aged⟩

/-- However requests overlap, no account is deleted, renamed or registered
twice, no credential version falls, and a session keeps its owner and its
limits, and stays revoked once it is. -/
theorem records_last (env : AuthEnvironment) {before after : AuthConfig}
    (run : (authSystem env).Run System.unguarded before after) :
    Lasting before.store after.store := by
  apply run.store_invariant (Lasting before.store) (.refl _)
  intro store thread op lasting _
  exact lasting.trans (lasting_execute store op)

/-- Of two overlapping registrations of one name one succeeds. -/
theorem overlapping_registrations_last :
    ∃ after, (authSystem sampleEnvironment).Run System.unguarded
        (Config.initial sampleStore) after ∧
      after.store.accounts.map UserAccountRecord.displayName =
        ["Alice", "Bob"] ∧
      Lasting sampleStore after.store := by
  have scheduled : ((authSystem sampleEnvironment).schedule System.unguarded
      (Config.initial sampleStore)
      ([.start (.requestRegistration "bobby" "Bob" "Rainy-night8"
          "Rainy-night8" 1),
        .start (.requestRegistration "bobby" "Rob" "Rainy-night7"
          "Rainy-night7" 2)] ++
        (List.replicate 4 [.step 0, .step 1]).flatten)).map (fun config =>
          config.store.accounts.map UserAccountRecord.displayName) =
      some ["Alice", "Bob"] := by
    decide
  obtain ⟨after, run, names⟩ := System.exists_run_of_schedule scheduled
  exact ⟨after, run, names, records_last sampleEnvironment run⟩

end SecAI.Auth
