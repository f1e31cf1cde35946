import Influx.Authorizer.Basic

/-!
# The authorizing secret and backup services

`authorizer/secret.go` and `authorizer/backup.go`.  Each method asks the
authorizer first and calls the wrapped service only if every check passes: reads
of an organization's secrets need read access to its secrets, `PutSecret` the
right to create one, `PatchSecrets` and `DeleteSecret` write access, and
`PutSecrets`, which also deletes the secrets the map leaves out, both.  Both
backups need every operator permission.

None of these checks reads the store, so over a whole session the store moves
exactly as the wrapped service moves it under the calls the authorizer allows.

## Main definitions

* `SecretService`, `BackupService` — the `influxdb` interfaces, over a store.
* `Authorizer.newSecretService`, `Authorizer.newBackupService` — the wrappers.

## Main results

* `secretService_runCalls`, `backupService_runCalls` — a session through a
  wrapper is the wrapped session under the allowed calls.
-/

namespace Influx

open Authorizer

/-- `influxdb.SecretService`, over a store `σ`. -/
structure SecretService (σ ε : Type) where
  loadSecret : UInt64 → String → σ → Except ε String
  getSecretKeys : UInt64 → σ → Except ε (List String)
  putSecret : UInt64 → String → String → Method σ ε Unit
  /-- A Go map is a list of its entries. -/
  putSecrets : UInt64 → List (String × String) → Method σ ε Unit
  patchSecrets : UInt64 → List (String × String) → Method σ ε Unit
  deleteSecret : UInt64 → List String → Method σ ε Unit

/-- `influxdb.BackupService`.  The writer a backup goes to is part of the store. -/
structure BackupService (σ ε : Type) where
  backupKVStore : Method σ ε Unit
  /-- `BackupShard(ctx, w, shardID, since)`, `since` in nanoseconds. -/
  backupShard : UInt64 → Int → Method σ ε Unit

namespace Authorizer

/-- `influxdb.SecretsResourceType`. -/
def secretsResourceType : ResourceType := "secrets"

variable {σ ε : Type} (authorize : Check → Option ε)

/-! ### The secret service -/

namespace SecretService

variable (s : Influx.SecretService σ ε)

/-- `LoadSecret`. -/
def loadSecret (orgID : UInt64) (key : String) : Method σ ε String :=
  guarded authorize [.orgReadResource secretsResourceType orgID]
    (.ofRead (s.loadSecret orgID key))

/-- `GetSecretKeys`. -/
def getSecretKeys (orgID : UInt64) : Method σ ε (List String) :=
  guarded authorize [.orgReadResource secretsResourceType orgID] (.ofRead (s.getSecretKeys orgID))

/-- `PutSecret`. -/
def putSecret (orgID : UInt64) (key val : String) : Method σ ε Unit :=
  guarded authorize [.create secretsResourceType orgID] (s.putSecret orgID key val)

/-- `PutSecrets`: read access too, since the call deletes the secrets `m` leaves
out. -/
def putSecrets (orgID : UInt64) (m : List (String × String)) : Method σ ε Unit :=
  guarded authorize
    [.orgReadResource secretsResourceType orgID, .orgWriteResource secretsResourceType orgID]
    (s.putSecrets orgID m)

/-- `PatchSecrets`. -/
def patchSecrets (orgID : UInt64) (m : List (String × String)) : Method σ ε Unit :=
  guarded authorize [.orgWriteResource secretsResourceType orgID] (s.patchSecrets orgID m)

/-- `DeleteSecret`. -/
def deleteSecret (orgID : UInt64) (keys : List String) : Method σ ε Unit :=
  guarded authorize [.orgWriteResource secretsResourceType orgID] (s.deleteSecret orgID keys)

end SecretService

/-- `NewSecretService`: the wrapper is itself a secret service. -/
def newSecretService (s : Influx.SecretService σ ε) : Influx.SecretService σ ε where
  loadSecret orgID key st := ((SecretService.loadSecret authorize s orgID key).run.run st).1
  getSecretKeys orgID st := ((SecretService.getSecretKeys authorize s orgID).run.run st).1
  putSecret := SecretService.putSecret authorize s
  putSecrets := SecretService.putSecrets authorize s
  patchSecrets := SecretService.patchSecrets authorize s
  deleteSecret := SecretService.deleteSecret authorize s

end Authorizer

/-- A call of a secret service's methods. -/
inductive SecretCall
  | loadSecret (orgID : UInt64) (key : String)
  | getSecretKeys (orgID : UInt64)
  | putSecret (orgID : UInt64) (key val : String)
  | putSecrets (orgID : UInt64) (m : List (String × String))
  | patchSecrets (orgID : UInt64) (m : List (String × String))
  | deleteSecret (orgID : UInt64) (keys : List String)
  deriving DecidableEq, Repr

/-- The access each call needs, as the doc comment of its method states it. -/
def SecretCall.checks : SecretCall → List Check
  | .loadSecret orgID _ | .getSecretKeys orgID => [.orgReadResource secretsResourceType orgID]
  | .putSecret orgID _ _ => [.create secretsResourceType orgID]
  | .putSecrets orgID _ =>
    [.orgReadResource secretsResourceType orgID, .orgWriteResource secretsResourceType orgID]
  | .patchSecrets orgID _ | .deleteSecret orgID _ => [.orgWriteResource secretsResourceType orgID]

/-- The store after a call; reads leave it as it is. -/
def SecretService.apply {σ ε : Type} (s : SecretService σ ε) : SecretCall → σ → σ
  | .loadSecret .., st | .getSecretKeys _, st => st
  | .putSecret orgID key val, st => ((s.putSecret orgID key val).run.run st).2
  | .putSecrets orgID m, st => ((s.putSecrets orgID m).run.run st).2
  | .patchSecrets orgID m, st => ((s.patchSecrets orgID m).run.run st).2
  | .deleteSecret orgID keys, st => ((s.deleteSecret orgID keys).run.run st).2

namespace Authorizer

variable {σ ε : Type} (authorize : Check → Option ε)

/-- A wrapped call is the inner call when the authorizer allows its checks, and
leaves the store alone otherwise. -/
theorem newSecretService_apply (s : Influx.SecretService σ ε) (c : SecretCall) (st : σ) :
    (newSecretService authorize s).apply c st =
      if (firstDenial authorize c.checks).isNone then s.apply c st else st := by
  cases c <;> simp only [SecretService.apply, newSecretService, SecretService.putSecret,
    SecretService.putSecrets, SecretService.patchSecrets, SecretService.deleteSecret,
    SecretCall.checks, guarded_run] <;> split <;> simp_all

/-- **Secrets move only under allowed calls.**  Over any session, the store
behind the authorizing secret service moves exactly as the wrapped service moves
it under the calls whose checks the authorizer allows. -/
theorem secretService_runCalls (s : Influx.SecretService σ ε) (calls : List SecretCall) (st : σ) :
    runCalls (newSecretService authorize s).apply calls st =
      runCalls s.apply (calls.filter fun c => (firstDenial authorize c.checks).isNone) st :=
  runCalls_filter _ (newSecretService_apply authorize s) calls st

/-! ### The backup service -/

/-- `NewBackupService`: both backups need every operator permission. -/
def newBackupService (s : Influx.BackupService σ ε) : Influx.BackupService σ ε where
  backupKVStore := guarded authorize [.operPermissions] s.backupKVStore
  backupShard shardID since := guarded authorize [.operPermissions] (s.backupShard shardID since)

end Authorizer

/-- A call of a backup service's methods. -/
inductive BackupCall
  | backupKVStore
  | backupShard (shardID : UInt64) (since : Int)
  deriving DecidableEq, Repr

/-- The store after a call. -/
def BackupService.apply {σ ε : Type} (s : BackupService σ ε) : BackupCall → σ → σ
  | .backupKVStore, st => (s.backupKVStore.run.run st).2
  | .backupShard shardID since, st => ((s.backupShard shardID since).run.run st).2

namespace Authorizer

variable {σ ε : Type} (authorize : Check → Option ε)

/-- **Backups only with every operator permission.**  A session through the
authorizing backup service leaves the store as it was when the authorizer
lacks an operator permission, and is the wrapped session otherwise. -/
theorem backupService_runCalls (s : Influx.BackupService σ ε) (calls : List BackupCall) (st : σ) :
    runCalls (newBackupService authorize s).apply calls st =
      if (authorize .operPermissions).isNone then runCalls s.apply calls st else st := by
  have step : ∀ c st, (newBackupService authorize s).apply c st =
      if (authorize .operPermissions).isNone then s.apply c st else st := by
    intro c st
    cases c <;> simp only [BackupService.apply, newBackupService, guarded_run, firstDenial,
      List.findSome?_cons, List.findSome?_nil] <;> cases authorize .operPermissions <;> rfl
  rw [runCalls_filter _ step]
  cases (authorize .operPermissions).isNone
  · simp [runCalls]
  · simp

end Authorizer

end Influx
