import KubeNova.Foundation.Async
import KubeNova.Foundation.Table
import KubeNova.Native.Rbac

/-!
# Synchronising a Role and its RoleBinding

The API server's Roles and RoleBindings, and the two procedures that bring a pair of
them to the desired state or remove it.
-/

namespace KubeNova.Native

open KubeNova.Foundation KubeNova.Common KubeNova.Access

/-- The metadata of a stored object.  Its namespace and name are the key under which the
API server keeps it, so an answer always has the ones that were asked for; `0` stands
for a missing uid or revision. -/
structure ObjectMeta where
  uid : Nat
  resourceVersion : Nat
  labels : List (String × String)
  annotations : List (String × String)
  deriving Repr, DecidableEq

structure Role where
  metadata : ObjectMeta
  rules : Option (List PolicyRule)
  deriving Repr, DecidableEq

structure RoleBinding where
  metadata : ObjectMeta
  subjects : Option (List Subject)
  roleRef : RoleRef
  deriving Repr, DecidableEq

abbrev ObjectKey := String × String

structure RbacCluster where
  /-- The uids of the live namespaces, by name. -/
  namespaces : Table String String
  roles : Table ObjectKey Role
  bindings : Table ObjectKey RoleBinding
  /-- The last uid and the last revision given out. -/
  lastUid : Nat
  lastVersion : Nat

/-- What happens to a call: it is answered, refused before it takes effect, or its answer
is lost after it has taken effect. -/
inductive Fate where
  | answered
  | refused (message : String)
  | lost (message : String)
  deriving Repr, DecidableEq

/-- A row of `NativeAccessConfig`. -/
structure NativeConfig where
  enabled : Bool
  revision : Nat
  syncState : String
  syncRevision : Option Nat
  syncMessage : Option String
  syncedAt : Option Nat
  deriving Repr, DecidableEq

/-- The current cluster of a stored kubeconfig, with what `validatedEndpoint` makes of its
endpoint: the protocol, or the exception. -/
structure Kubeconfig where
  skipTLSVerify : Bool
  protocol : Except Exception String

structure World where
  cluster : RbacCluster
  directory : Directory
  configs : String → Option NativeConfig
  /-- Nothing where there is no kubeconfig, or none with a current cluster. -/
  kubeconfig : Option (Option Kubeconfig)
  now : Nat
  /-- The calls to the API server so far, and what happens to each of them. -/
  calls : Nat
  fate : Nat → Fate

abbrev RbacHandler (α : Type) := Async Exception World α

/-! ## Calls to the API server -/

def World.setCluster (s : World) (c : RbacCluster) : World :=
  { s with cluster := c, calls := s.calls + 1 }

/-- A call that the API server serves with `f`. -/
def World.serve {α : Type} (f : RbacCluster → Except Exception α × RbacCluster) (s : World) :
    Except Exception α × World :=
  match s.fate s.calls with
  | .answered => ((f s.cluster).1, s.setCluster (f s.cluster).2)
  | .refused message => (.error (.error message), s.setCluster s.cluster)
  | .lost message => (.error (.error message), s.setCluster (f s.cluster).2)

def call {α : Type} (f : RbacCluster → Except Exception α × RbacCluster) : RbacHandler α := do
  let result ← Async.exec (World.serve f)
  Async.ofExcept result

namespace RbacCluster

variable (c : RbacCluster) (key : ObjectKey)

def setRoles (roles : Table ObjectKey Role) : RbacCluster :=
  { c with roles := roles, lastUid := c.lastUid + 1, lastVersion := c.lastVersion + 1 }

def setBindings (bindings : Table ObjectKey RoleBinding) : RbacCluster :=
  { c with bindings := bindings, lastUid := c.lastUid + 1, lastVersion := c.lastVersion + 1 }

def notFound : Exception := .notFound "not found"

def conflict : Exception := .conflict "the object has been modified"

def newMeta (plan : PlanMetadata) (uid : Nat) : ObjectMeta :=
  ⟨uid, c.lastVersion + 1, [("app.kubernetes.io/managed-by", plan.managedBy)],
    [("kubenova.io/namespace-uid", plan.namespaceUid), ("kubenova.io/cluster-id", plan.clusterId)]⟩

def unchanged (found expected : ObjectMeta) : Bool :=
  found.uid == expected.uid && found.resourceVersion == expected.resourceVersion

def deleteRole (expected : ObjectMeta) : Except Exception Unit × RbacCluster :=
  match c.roles.lookup key with
  | none => (.error notFound, c)
  | some role =>
      if unchanged role.metadata expected then (.ok (), c.setRoles (c.roles.erase key))
      else (.error conflict, c)

def deleteBinding (expected : ObjectMeta) : Except Exception Unit × RbacCluster :=
  match c.bindings.lookup key with
  | none => (.error notFound, c)
  | some binding =>
      if unchanged binding.metadata expected then (.ok (), c.setBindings (c.bindings.erase key))
      else (.error conflict, c)

def replaceRole (desired : PlannedRole) (resourceVersion : Nat) : Except Exception Unit × RbacCluster :=
  match c.roles.lookup key with
  | none => (.error notFound, c)
  | some role =>
      if role.metadata.resourceVersion = resourceVersion then
        (.ok (), c.setRoles (c.roles.insert key
          ⟨c.newMeta desired.metadata role.metadata.uid, some desired.rules⟩))
      else (.error conflict, c)

def createRole (desired : PlannedRole) : Except Exception Unit × RbacCluster :=
  if (c.namespaces.lookup key.1).isNone then (.error notFound, c)
  else match c.roles.lookup key with
    | some _ => (.error (.conflict "already exists"), c)
    | none => (.ok (), c.setRoles (c.roles.insert key
        ⟨c.newMeta desired.metadata (c.lastUid + 1), some desired.rules⟩))

def createBinding (desired : PlannedBinding) : Except Exception Unit × RbacCluster :=
  if (c.namespaces.lookup key.1).isNone then (.error notFound, c)
  else match c.bindings.lookup key with
    | some _ => (.error (.conflict "already exists"), c)
    | none => (.ok (), c.setBindings (c.bindings.insert key
        ⟨c.newMeta desired.metadata (c.lastUid + 1), some desired.subjects, desired.roleRef⟩))

end RbacCluster

def readCall {α : Type} (f : RbacCluster → Except Exception α) : RbacHandler α :=
  call fun c => (f c, c)

def readNamespaceUid (name : String) : RbacHandler String :=
  readCall fun c => match c.namespaces.lookup name with
    | some uid => .ok uid
    | none => .error RbacCluster.notFound

/-- A read that answers nothing where the API server answers `404`. -/
def readRole (key : ObjectKey) : RbacHandler (Option Role) := readCall fun c => .ok (c.roles.lookup key)

def readBinding (key : ObjectKey) : RbacHandler (Option RoleBinding) :=
  readCall fun c => .ok (c.bindings.lookup key)

/-! ## One pair -/

/-- What identifies a pair: where it is, and the annotations that mark its owner. -/
structure PairTarget where
  name : String
  namespaceName : String
  namespaceUid : String
  clusterId : String
  deriving Repr, DecidableEq

def PairTarget.key (target : PairTarget) : ObjectKey := (target.namespaceName, target.name)

def PlanMetadata.target (m : PlanMetadata) : PairTarget :=
  ⟨m.name, m.namespaceName, m.namespaceUid, m.clusterId⟩

def invalidTarget : Exception := .error "Invalid native RBAC target"

def ownershipConflict : Exception := .error "Native RBAC ownership conflict"

def identityChanged : Exception := .error "Native namespace identity changed"

def ObjectMeta.isOwned (m : ObjectMeta) (target : PairTarget) : Bool :=
  m.uid != 0 && m.resourceVersion != 0 &&
    m.labels.lookup "app.kubernetes.io/managed-by" == some "kubenova" &&
    m.annotations.lookup "kubenova.io/namespace-uid" == some target.namespaceUid &&
    m.annotations.lookup "kubenova.io/cluster-id" == some target.clusterId

def PairTarget.isValid (target : PairTarget) : Bool :=
  Text.startsWith "kn-native-" target.name && target.namespaceName != "" &&
    target.namespaceUid != "" && target.clusterId != ""

def checkNamespace (target : PairTarget) : RbacHandler Unit := do
  let uid ← readNamespaceUid target.namespaceName
  Async.ensure (uid = target.namespaceUid) identityChanged

def roleMatches (desired : NativeRbac) (role : Role) : Bool := role.rules == some desired.role.rules

def bindingMatches (desired : NativeRbac) (binding : RoleBinding) : Bool :=
  binding.subjects == some desired.binding.subjects && binding.roleRef == desired.binding.roleRef

/-- `inspectNativeRbac`: the live pair, where it is not someone else's. -/
def inspectNativeRbac (desired : NativeRbac) : RbacHandler (Option Role × Option RoleBinding) := do
  let target := desired.role.metadata.target
  Async.ensure (target.isValid = true ∧ desired.role.metadata = desired.binding.metadata)
    invalidTarget
  checkNamespace target
  let role ← readRole target.key
  let binding ← readBinding target.key
  Async.ensure (role.all (·.metadata.isOwned target) = true) ownershipConflict
  Async.ensure (binding.all (·.metadata.isOwned target) = true) ownershipConflict
  return (role, binding)

def assertNativeRbacReady (desired : NativeRbac) : RbacHandler Unit := do
  let (role, binding) ← inspectNativeRbac desired
  Async.ensure (role.any (roleMatches desired) = true ∧ binding.any (bindingMatches desired) = true)
    (.error "Native RBAC is not ready")

/-- The RoleBinding goes first, so that nobody is bound to rules meant for another. -/
def removeBinding (key : ObjectKey) (binding : Option RoleBinding) : RbacHandler Unit :=
  match binding with
  | some found => call (·.deleteBinding key found.metadata)
  | none => return ()

def removeRole (key : ObjectKey) (role : Option Role) : RbacHandler Unit :=
  match role with
  | some found => call (·.deleteRole key found.metadata)
  | none => return ()

def putRole (desired : NativeRbac) (role : Option Role) : RbacHandler Unit :=
  let key := desired.role.metadata.target.key
  match role with
  | some found =>
      if roleMatches desired found then return ()
      else call (·.replaceRole key desired.role found.metadata.resourceVersion)
  | none => call (·.createRole key desired.role)

/-- Internal only: caller supplies a persisted target and a live authorization revision guard. -/
def reconcileNativeRbacPair (desired : NativeRbac) (revoke : Bool)
    (assertCurrent : RbacHandler Unit) : RbacHandler Unit := do
  assertCurrent
  let target := desired.role.metadata.target
  let (role, binding) ← inspectNativeRbac desired
  if revoke = false ∧ role.any (roleMatches desired) = true ∧
      binding.any (bindingMatches desired) = true then return ()
  else do
    removeBinding target.key binding
    if revoke then removeRole target.key role
    else do
      putRole desired role
      -- Never restore access after a failed apply or a changed grant/namespace snapshot.
      assertCurrent
      checkNamespace target
      call (·.createBinding target.key desired.binding)

/-- Removes only a live KubeNova-owned pair discovered as stale during a full sync. -/
def revokeOwnedNativeRbacPair (target : PairTarget) (assertCurrent : RbacHandler Unit) :
    RbacHandler Unit := do
  Async.ensure (target.isValid = true) invalidTarget
  assertCurrent
  checkNamespace target
  let binding ← readBinding target.key
  Async.ensure (binding.all (·.metadata.isOwned target) = true) ownershipConflict
  removeBinding target.key binding
  let role ← readRole target.key
  Async.ensure (role.all (·.metadata.isOwned target) = true) ownershipConflict
  removeRole target.key role

end KubeNova.Native
