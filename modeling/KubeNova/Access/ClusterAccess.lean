import KubeNova.Access.Authorization

/-!
# Access to clusters

`ClusterAccessService`: who may read and change a cluster, from the role bindings and the grants;
and the scopes `WorkloadsService` makes of both, which its siblings make in the same way.
-/

namespace KubeNova.Access

open KubeNova.Foundation KubeNova.Common

structure ClusterAccessSubject where
  id : Option String
  username : Option String
  role : Option String
  deriving Repr, DecidableEq

/-- A row of `ClusterRoleBinding`, which has one for a user and a cluster. -/
structure ClusterRoleBinding where
  userId : String
  clusterId : String
  role : String
  state : String
  deriving Repr, DecidableEq

structure AccessTables where
  directory : Directory
  bindings : List ClusterRoleBinding

structure ClusterAccessContext where
  clusterId : String
  accessRole : String
  source : String
  deriving Repr, DecidableEq

def platformAdminRoles : List String := ["platform-admin", "admin"]

def platformOperatorRoles : List String := ["cluster-operator", "operator"]

def platformReadOnlyRoles : List String := ["read-only", "user"]

def bindingRoles : List String := ["viewer", "operator", "cluster-admin"]

def normalizeRole (role : Option String) : String := Text.toLower (Text.trim (role.getD ""))

namespace ClusterAccessSubject

def isPlatformAdmin (subject : ClusterAccessSubject) : Bool :=
  platformAdminRoles.contains (normalizeRole subject.role)

def isPlatformOperator (subject : ClusterAccessSubject) : Bool :=
  platformOperatorRoles.contains (normalizeRole subject.role)

def isKnownPlatformRole (subject : ClusterAccessSubject) : Bool :=
  platformAdminRoles.contains (normalizeRole subject.role) ||
    platformOperatorRoles.contains (normalizeRole subject.role) ||
    platformReadOnlyRoles.contains (normalizeRole subject.role)

end ClusterAccessSubject

def inaccessibleCluster : Exception := .notFound "CLUSTER_NOT_FOUND_OR_INACCESSIBLE"

def requireClusterId (clusterId : String) : Except Exception String :=
  if Text.trim clusterId = "" then .error (.badRequest "CLUSTER_ID_REQUIRED")
  else .ok (Text.trim clusterId)

def requireUserId (subject : ClusterAccessSubject) : Except Exception String :=
  if Text.trim (subject.id.getD "") = "" then .error (.unauthorized "AUTH_SESSION_REQUIRED")
  else .ok (Text.trim (subject.id.getD ""))

namespace AccessTables

variable (t : AccessTables)

def activeBindings (userId : String) : List ClusterRoleBinding :=
  t.bindings.filter fun b => b.userId == userId && b.state == "active" &&
    bindingRoles.contains b.role && (t.directory.clusters b.clusterId).any ClusterRow.isLive

def assertCanRead (now : Nat) (subject : ClusterAccessSubject) (clusterId : String) :
    Except Exception ClusterAccessContext := do
  let id ← requireClusterId clusterId
  if subject.isPlatformAdmin then
    if (t.directory.clusters id).any ClusterRow.isLive then
      return ⟨id, "cluster-admin", "platform-admin"⟩
    else throw (.notFound "CLUSTER_NOT_FOUND")
  else
    let userId ← requireUserId subject
    if subject.isKnownPlatformRole then
      match (t.activeBindings userId).find? fun b => b.clusterId == id with
      | some binding => return ⟨binding.clusterId, binding.role, "role-binding"⟩
      | none =>
          match (t.directory.listEffectiveGrants userId now (some id)).find? fun grant =>
              bindingRoles.contains grant.role with
          | some grant => return ⟨id, grant.role, "access-grant"⟩
          | none => throw inaccessibleCluster
    else throw inaccessibleCluster

def assertCanMutate (now : Nat) (subject : ClusterAccessSubject) (clusterId : String) :
    Except Exception ClusterAccessContext := do
  let access ← t.assertCanRead now subject clusterId
  if subject.isPlatformAdmin then return access
  else if !subject.isPlatformOperator then throw (.forbidden "PLATFORM_WRITE_FORBIDDEN")
  else if access.accessRole = "viewer" then throw (.forbidden "CLUSTER_WRITE_FORBIDDEN")
  else return access

def assertClusterAdmin (now : Nat) (subject : ClusterAccessSubject) (clusterId : String) :
    Except Exception ClusterAccessContext := do
  let access ← t.assertCanMutate now subject clusterId
  if access.accessRole != "cluster-admin" then throw (.forbidden "CLUSTER_ADMIN_REQUIRED")
  else return access

/-- `none` for all clusters. -/
def listAccessibleClusterIds (subject : ClusterAccessSubject) :
    Except Exception (Option (List String)) := do
  if subject.isPlatformAdmin then return none
  else
    let userId ← requireUserId subject
    if subject.isKnownPlatformRole then
      return some ((t.activeBindings userId).map (·.clusterId)).eraseDups
    else return some []

end AccessTables

structure ResourceScope where
  clusterId : String
  «namespace» : Option String
  deriving Repr, DecidableEq

namespace AccessTables

variable (t : AccessTables) (readNamespace : String → String → Option String)

def clusterScopes (now : Nat) (actor : ClusterAccessSubject) (mutation : Bool) :
    List String → Except Exception (List ResourceScope)
  | [] => .ok []
  | clusterId :: rest =>
      let checked := if mutation then (t.assertCanMutate now actor clusterId).map fun _ => ()
        else .ok ()
      match checked with
      | .ok () => (clusterScopes now actor mutation rest).map (⟨clusterId, none⟩ :: ·)
      | .error (.forbidden _) => clusterScopes now actor mutation rest
      | .error (.notFound _) => clusterScopes now actor mutation rest
      | .error e => .error e

def grantScopes (mutation : Bool) (grant : Grant) : List ResourceScope :=
  if mutation && grant.role == "viewer" then []
  else (grant.namespaces.filter fun scope => scope.namespaceName != "" &&
      (resolveNamespace readNamespace grant.clusterId scope.namespaceName).toOption ==
        some scope.namespaceUid).map fun scope => ⟨grant.clusterId, some scope.namespaceName⟩

/-- `scopes(actor, mutation)`, where an actor is given: `none` for everything. -/
def scopes (now : Nat) (actor : ClusterAccessSubject) (mutation : Bool) :
    Except Exception (Option (List ResourceScope)) := do
  if Text.trim (actor.id.getD "") = "" then throw (.forbidden "Forbidden")
  else if actor.isPlatformAdmin then return none
  else
    let legacy ← t.listAccessibleClusterIds actor
    let clusters ← t.clusterScopes now actor mutation (legacy.getD [])
    let grants := t.directory.listEffectiveGrants (actor.id.getD "") now none
    return some (clusters ++ grants.flatMap (grantScopes readNamespace mutation))

end AccessTables

/-- The check of `assertScope`. -/
def inScope (scopes : List ResourceScope) (clusterId «namespace» : String) : Bool :=
  scopes.any fun scope => scope.clusterId == clusterId &&
    (scope.namespace.all fun name => name == "" || name == «namespace»)

namespace AccessTables

variable {t : AccessTables} {now : Nat} {subject : ClusterAccessSubject} {userId id : String}

def userAccess (t : AccessTables) (now : Nat) (userId id : String) :
    Option ClusterAccessContext :=
  match (t.activeBindings userId).find? fun b => b.clusterId == id with
  | some binding => some ⟨binding.clusterId, binding.role, "role-binding"⟩
  | none =>
      ((t.directory.listEffectiveGrants userId now (some id)).find? fun grant =>
        bindingRoles.contains grant.role).map fun grant => ⟨id, grant.role, "access-grant"⟩

theorem assertCanRead_eq (hadmin : subject.isPlatformAdmin = false)
    (huser : requireUserId subject = .ok userId) (hknown : subject.isKnownPlatformRole = true)
    {clusterId : String} (hid : Text.trim clusterId ≠ "") :
    t.assertCanRead now subject clusterId =
      (t.userAccess now userId (Text.trim clusterId)).elim (.error inaccessibleCluster) .ok := by
  have hrequired : requireClusterId clusterId = .ok (Text.trim clusterId) := if_neg hid
  unfold assertCanRead userAccess
  simp only [hrequired, hadmin, huser, hknown, bind, Except.bind, if_true, Bool.false_eq_true,
    if_false]
  cases (t.activeBindings userId).find? fun b => b.clusterId == Text.trim clusterId with
  | some binding => rfl
  | none =>
      cases (t.directory.listEffectiveGrants userId now (some (Text.trim clusterId))).find?
          fun grant => bindingRoles.contains grant.role with
      | some grant => rfl
      | none => rfl

end AccessTables

end KubeNova.Access
