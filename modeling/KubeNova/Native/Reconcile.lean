import KubeNova.Common.Governance
import KubeNova.Native.RbacSync

/-!
# Synchronising all pairs of a cluster

`NativeRbacReconcileService`: bring the pair of every user in every granted namespace to
the desired state, then remove the KubeNova bindings that nobody asked for.
-/

namespace KubeNova.Native

open KubeNova.Foundation KubeNova.Common KubeNova.Access

def configChanged : Exception := .forbidden "Native configuration changed"

def config (clusterId : String) : RbacHandler NativeConfig := do
  let found ← Async.query fun s => (s.configs clusterId).filter fun c =>
    c.enabled && (s.directory.clusters clusterId).any ClusterRow.isLive
  Async.ofExcept (match found with
    | some c => .ok c
    | none => .error (.notFound "Native access unavailable"))

def assertConfig (clusterId : String) (revision : Nat) : RbacHandler Unit := do
  let current ← config clusterId
  Async.ensure (current.revision = revision) configChanged

def assertCurrent (clusterId : String) (revision : Nat) (userId : String) (authzVersion : Nat) :
    RbacHandler Unit := do
  assertConfig clusterId revision
  let current ← Async.query fun s => s.directory.users.find? (·.id == userId)
  Async.ensure (current.any fun user => user.isActive && user.authzVersion == authzVersion)
    (.forbidden "Native authorization changed")

/-- The columns `writeStatus` sets. -/
structure SyncStatus where
  syncState : String
  syncRevision : Option Nat
  syncMessage : Option String
  syncedAt : Option Nat

/-- `updateMany` on the settings with the id and the revision, and the number of rows. -/
def World.updateStatus (clusterId : String) (revision : Nat) (status : World → SyncStatus)
    (s : World) : Nat × World :=
  match s.configs clusterId with
  | some c =>
      if c.revision = revision then
        (1, { s with configs := Function.update s.configs clusterId (some { c with
          syncState := (status s).syncState, syncRevision := (status s).syncRevision,
          syncMessage := (status s).syncMessage, syncedAt := (status s).syncedAt }) })
      else (0, s)
  | none => (0, s)

def writeStatus (clusterId : String) (revision : Nat) (status : World → SyncStatus) :
    RbacHandler Unit := do
  let count ← Async.exec (World.updateStatus clusterId revision status)
  Async.ensure (count = 1) configChanged

/-! ## The users -/

def grantedIn (grants : List Grant) (clusterId : String) : Bool := grants.any (·.clusterId == clusterId)

def findUsers (d : Directory) (clusterId : String) : List UserRow :=
  d.users.filter fun user => user.isActive &&
    (grantedIn (d.grants.filter (·.userId == some user.id)) clusterId ||
      d.memberships.any fun m => m.userId == user.id && m.state == "active" &&
        grantedIn (d.grants.filter (·.groupId == some m.groupId)) clusterId)

/-- `Map.set` on the scopes under their names: a name keeps its place, the scope is replaced. -/
def setScope (scope : NamespaceScope) : List NamespaceScope → List NamespaceScope
  | [] => [scope]
  | first :: rest =>
      if first.namespaceName = scope.namespaceName then scope :: rest
      else first :: setScope scope rest

/-- `new Map(scopes.map(scope => [scope.namespaceName, scope])).values()`. -/
def scopesByName (scopes : List NamespaceScope) : List NamespaceScope :=
  scopes.foldl (fun map scope => setScope scope map) []

/-- Resolve live: recreating a namespace must not inherit its old grants. -/
def readIdentity (namespaceName : String) : RbacHandler (Option String) := do
  let stored ← Async.query (·.kubeconfig)
  if stored.isNone then return none
  else do
    let read ← Async.toExcept (readNamespaceUid namespaceName)
    return read.toOption

/-- `NamespaceIdentityService.resolve` over the API server of the cluster. -/
def resolveIdentity (clusterId namespaceName : String) : RbacHandler String := do
  let answer ← (if Text.trim clusterId = "" ∨ Text.trim namespaceName = "" then pure none
    else readIdentity namespaceName)
  Async.ofExcept (resolveNamespace (fun _ _ => answer) clusterId namespaceName)

def resolveScopes (clusterId : String) : List NamespaceScope → RbacHandler (List PlanNamespace)
  | [] => return []
  | scope :: rest =>
      if scope.namespaceName = "" then resolveScopes clusterId rest
      else do
        let uid ← resolveIdentity clusterId scope.namespaceName
        Async.ensure (uid = scope.namespaceUid) (.forbidden "Native namespace identity changed")
        let namespaces ← resolveScopes clusterId rest
        return ⟨scope.namespaceName, uid⟩ :: namespaces

/-- The loop over the plans of one user.  Of the map `desired` only the keys are used. -/
def applyPlans (assertCurrent : RbacHandler Unit) :
    List NativeRbac → List String → RbacHandler (List String)
  | [], desired => return desired
  | plan :: rest, desired => do
      reconcileNativeRbacPair plan false assertCurrent
      applyPlans assertCurrent rest (desired.insert plan.role.metadata.name)

section Users

variable (crypto : Crypto) (clusterId : String) (revision now : Nat)

def kubeconfigGrants (d : Directory) (userId : String) : List Grant :=
  (d.listEffectiveGrants userId now (some clusterId)).filter (·.hasCapability .kubeconfig)

def reconcileUser (user : UserRow) (desired : List String) : RbacHandler (List String) := do
  let grants ← Async.query fun s => kubeconfigGrants clusterId now s.directory user.id
  let namespaces ← resolveScopes clusterId (scopesByName (grants.flatMap (·.namespaces)))
  let plans ← Async.ofExcept (planNativeRbac crypto ⟨user.id, clusterId, grants, namespaces, now⟩)
  applyPlans (assertCurrent clusterId revision user.id user.authzVersion) plans desired

def reconcileUsers : List UserRow → List String → RbacHandler (List String)
  | [], desired => return desired
  | user :: rest, desired => do
      let desired ← reconcileUser crypto clusterId revision now user desired
      reconcileUsers rest desired

end Users

def ObjectMeta.isManaged (m : ObjectMeta) : Bool :=
  m.labels.lookup "app.kubernetes.io/managed-by" == some "kubenova"

def ObjectMeta.isOfCluster (m : ObjectMeta) (clusterId : String) : Bool :=
  m.annotations.lookup "kubenova.io/cluster-id" == some clusterId

def listNamespace : RbacHandler (List String) := readCall fun c => .ok c.namespaces.keys

/-- The bindings of a namespace with the `managed-by` label, under their names. -/
def listNamespacedRoleBinding (namespaceName : String) : RbacHandler (List (String × RoleBinding)) :=
  readCall fun c => .ok ((c.bindings.entries.filter fun entry =>
    entry.1.1 == namespaceName && entry.2.metadata.isManaged).map fun entry => (entry.1.2, entry.2))

def RoleBinding.target (binding : RoleBinding) (namespaceName name : String) : PairTarget :=
  ⟨name, namespaceName, (binding.metadata.annotations.lookup "kubenova.io/namespace-uid").getD "",
    (binding.metadata.annotations.lookup "kubenova.io/cluster-id").getD ""⟩

section Sweep

variable (clusterId : String) (revision : Nat) (desired : List String)

def isKept (name : String) (binding : RoleBinding) : Bool :=
  name == "" || !binding.metadata.isOfCluster clusterId || desired.contains name

def sweepBindings (namespaceName : String) : List (String × RoleBinding) → RbacHandler Unit
  | [] => return ()
  | (name, binding) :: rest =>
      if isKept clusterId desired name binding then sweepBindings namespaceName rest
      else do
        revokeOwnedNativeRbacPair (binding.target namespaceName name)
          (assertConfig clusterId revision)
        sweepBindings namespaceName rest

/-- Delete only labelled KubeNova bindings not in the current desired set. -/
def sweep : List String → RbacHandler Unit
  | [] => return ()
  | namespaceName :: rest =>
      if namespaceName = "" then sweep rest
      else do
        let bindings ← listNamespacedRoleBinding namespaceName
        sweepBindings clusterId revision desired namespaceName bindings
        sweep rest

end Sweep

structure ReconcileAnswer where
  clusterId : String
  state : String
  applied : Nat
  revision : Nat
  deriving Repr, DecidableEq

def requireAdministrator (actor : Option Actor) (clusterId : String) : RbacHandler Unit := do
  Async.ofExcept (assertAdministrationPermission (actor.bind (·.role)))
  let id := (actor.bind (·.id)).getD ""
  Async.ensure (id ≠ "" ∧ Text.trim clusterId ≠ "") (.forbidden "Administrator identity required")
  let administrator ← Async.query fun s => s.directory.users.find? (·.id == id)
  Async.ensure (administrator.any (·.isActive)) (.forbidden "Administrator unavailable")
  Async.ofExcept (assertAdministrationPermission (administrator.map (·.role)))

def requireKubeconfig : RbacHandler Unit := do
  let stored ← Async.query (·.kubeconfig)
  match stored with
  | none => Async.fail (.serviceUnavailable "Native cluster credential unavailable")
  | some current =>
      let unverified : Exception := .serviceUnavailable "Native access requires verified TLS"
      match current with
      | none => Async.fail unverified
      | some cluster => do
          Async.ensure (cluster.skipTLSVerify = false) unverified
          let protocol ← Async.ofExcept cluster.protocol
          Async.ensure (protocol = "https:") unverified

def reconcileBody (crypto : Crypto) (clusterId : String) (revision : Nat) :
    RbacHandler ReconcileAnswer := do
  requireKubeconfig
  let users ← Async.query fun s => findUsers s.directory clusterId
  Async.ensure (users.length ≤ 5000)
    (.serviceUnavailable "Native reconciliation user limit exceeded")
  let now ← Async.query (·.now)
  let desired ← reconcileUsers crypto clusterId revision now users []
  let namespaces ← listNamespace
  sweep clusterId revision desired namespaces
  writeStatus clusterId revision fun s => ⟨"ready", some revision, none, some s.now⟩
  return ⟨clusterId, "ready", desired.length, revision⟩

def reportFailure (clusterId : String) (revision : Nat) (error : Exception) :
    RbacHandler ReconcileAnswer := do
  writeStatus clusterId revision fun s =>
    ⟨"error", none, some "Native RBAC reconciliation failed", some s.now⟩
  Async.fail error

def reconcile (crypto : Crypto) (actor : Option Actor) (clusterId : String) :
    RbacHandler ReconcileAnswer := do
  requireAdministrator actor clusterId
  let current ← config clusterId
  writeStatus clusterId current.revision fun _ => ⟨"syncing", none, none, none⟩
  Async.tryCatch (reconcileBody crypto clusterId current.revision)
    (reportFailure clusterId current.revision)

end KubeNova.Native
