import KubeNova.Foundation.Json
import KubeNova.Foundation.Lookup
import KubeNova.Native.Request

/-!
# The planned Role and RoleBinding

`planNativeRbac`: what a user's grants amount to as Kubernetes objects, one Role and
one RoleBinding in each granted namespace.
-/

namespace KubeNova.Native

open KubeNova.Foundation KubeNova.Common KubeNova.Access

/-- A rule of a Role.  Fields the API server left out are absent. -/
structure PolicyRule where
  apiGroups : Option (List String)
  resources : Option (List String)
  resourceNames : Option (List String)
  nonResourceURLs : Option (List String)
  verbs : List String
  deriving Repr, DecidableEq

structure RoleRef where
  apiGroup : String
  kind : String
  name : String
  deriving Repr, DecidableEq

structure Subject where
  apiGroup : String
  kind : String
  name : String
  deriving Repr, DecidableEq

/-- The metadata a plan sets: the `managed-by` label and the annotations with the uid of
the namespace and the id of the cluster. -/
structure PlanMetadata where
  name : String
  namespaceName : String
  managedBy : String
  namespaceUid : String
  clusterId : String
  deriving Repr, DecidableEq

structure PlannedRole where
  metadata : PlanMetadata
  rules : List PolicyRule
  deriving Repr, DecidableEq

structure PlannedBinding where
  metadata : PlanMetadata
  roleRef : RoleRef
  subjects : List Subject
  deriving Repr, DecidableEq

structure NativeRbac where
  role : PlannedRole
  binding : PlannedBinding
  deriving Repr, DecidableEq

structure PlanNamespace where
  name : String
  uid : String
  deriving Repr, DecidableEq

structure PlanInput where
  userId : String
  clusterId : String
  grants : List Grant
  namespaces : List PlanNamespace
  now : Nat

/-- The group of an API path: `api.split('/')[2]`, empty for the core API. -/
def apiGroup (api : String) : String :=
  if api = "/api/v1" then "" else ((Text.split '/' api)[2]?).getD ""

def rbacGroup : String := "rbac.authorization.k8s.io"

section Plan

variable (crypto : Crypto)

def digest (value : String) : String := String.ofList ((crypto.sha256 value).toList.take 40)

def nativeRbacSubject (userId clusterId : String) : Except Exception String :=
  if Text.trim userId = "" ∨ Text.trim clusterId = "" then
    .error (.badRequest "Native identity and cluster required")
  else .ok ("kubenova:native:" ++ digest crypto (Json.stringifyStrings [clusterId, userId]))

def nativeRbacName (clusterId userId namespaceUid : String) : String :=
  "kn-native-" ++ digest crypto (Json.stringifyStrings [clusterId, userId, namespaceUid])

/-- `^[a-z0-9](?:[-a-z0-9]{0,61}[a-z0-9])?$`. -/
def isNamespaceName (name : String) : Bool := isName ['-'] name.toList && name.toList.length ≤ 63

def plannedGrants (input : PlanInput) (scope : PlanNamespace) : List Grant :=
  input.grants.filter fun grant => grant.clusterId == input.clusterId &&
    (grant.userId == some input.userId ||
      (grant.userId.isNone && grant.groupId.any fun id => id != "")) &&
    grant.state == "active" && grant.revokedAt.isNone && decide (grant.validFrom ≤ input.now) &&
    unexpired grant.expiresAt input.now &&
    ["viewer", "operator", "cluster-admin"].contains grant.role &&
    (grant.namespaces.any fun s => s.namespaceUid == scope.uid && s.namespaceName == scope.name) &&
    grant.hasCapability .kubeconfig

def rule (group : String) (resources verbs : List String) : PolicyRule :=
  ⟨some [group], some resources, none, none, verbs⟩

def planRules (hasCapability : AuthorizationCapability → Bool) : List PolicyRule :=
  (nativeReadResources.map fun entry => rule (apiGroup entry.1)
    (entry.2.filter fun resource => resource != "secrets" || hasCapability .secrets)
    ["get", "list", "watch"]) ++
  (if hasCapability .logs then [rule "" ["pods/log"] ["get"]] else []) ++
  -- Workload writes remain denied until admission prevents SA/Secret escalation.
  (if hasCapability .exec then [rule "" ["pods/exec"] ["get", "create"]] else [])

def planPair (input : PlanInput) (subject : String) (scope : PlanNamespace) : Option NativeRbac :=
  let grants := plannedGrants input scope
  if grants = [] then none
  else
    let name := nativeRbacName crypto input.clusterId input.userId scope.uid
    let metadata : PlanMetadata := ⟨name, scope.name, "kubenova", scope.uid, input.clusterId⟩
    some ⟨⟨metadata, planRules fun capability => grants.any (·.hasCapability capability)⟩,
      ⟨metadata, ⟨rbacGroup, "Role", name⟩, [⟨rbacGroup, "User", subject⟩]⟩⟩

/-- The loop over the namespaces; `seen` are the names before. -/
def planNamespaces (input : PlanInput) (subject : String) :
    List String → List PlanNamespace → Except Exception (List NativeRbac)
  | _, [] => .ok []
  | seen, scope :: rest =>
      if isNamespaceName scope.name = false ∨ Text.trim scope.uid = "" ∨
          seen.contains scope.name = true then
        .error (.badRequest "Invalid or duplicate native namespace")
      else do
        let plans ← planNamespaces input subject (scope.name :: seen) rest
        return (planPair crypto input subject scope).toList ++ plans

/-- Pure desired state.  Apply requires an ownership-aware reconciler and live grant recheck. -/
def planNativeRbac (input : PlanInput) : Except Exception (List NativeRbac) := do
  let subject ← nativeRbacSubject crypto input.userId input.clusterId
  planNamespaces crypto input subject [] input.namespaces

end Plan

/-- Kubernetes matches a name of a rule by equality or by `*`. -/
def admits (names : Option (List String)) (name : String) : Bool :=
  (names.getD []).contains "*" || (names.getD []).contains name

def PolicyRule.covers (r : PolicyRule) (group resource verb : String) : Bool :=
  admits r.apiGroups group && admits r.resources resource && admits (some r.verbs) verb &&
    (r.resourceNames.getD []).isEmpty

theorem rule_covers_iff {group resource verb g : String} {resources verbs : List String}
    (hgroup : g ≠ "*") (hresource : "*" ∉ resources) (hverb : "*" ∉ verbs) :
    (rule g resources verbs).covers group resource verb = true ↔
      g = group ∧ resource ∈ resources ∧ verb ∈ verbs := by
  have hstar : ("*" == g) = false := by simpa using fun h : "*" = g => hgroup h.symm
  simp only [PolicyRule.covers, admits, rule, Option.getD_some, Option.getD_none, List.isEmpty_nil,
    Bool.and_true, Bool.and_eq_true, Bool.or_eq_true, List.contains_eq_mem, decide_eq_true_eq,
    hresource, hverb, false_or, List.mem_singleton]
  constructor
  · rintro ⟨⟨h, hr⟩, hv⟩
    rcases h with h | h
    · exact absurd h.symm hgroup
    · exact ⟨h.symm, hr, hv⟩
  · rintro ⟨rfl, hr, hv⟩
    exact ⟨⟨.inr rfl, hr⟩, hv⟩

end KubeNova.Native
