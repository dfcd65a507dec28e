import KubeNova.Common.Exceptions
import KubeNova.Foundation.Text

/-!
# Access grants

`AuthorizationService`: the grants that are effective for a user at a time, and
the decision on one request.  Times are milliseconds.
-/

namespace KubeNova.Access

open KubeNova.Foundation KubeNova.Common

inductive AuthorizationCapability where
  | logs
  | exec
  | secrets
  | kubeconfig
  | aiAssistantUse
  deriving Repr, DecidableEq

def AuthorizationCapability.text : AuthorizationCapability → String
  | logs => "logs"
  | exec => "exec"
  | secrets => "secrets"
  | kubeconfig => "kubeconfig"
  | aiAssistantUse => "ai-assistant:use"

structure NamespaceScope where
  namespaceUid : String
  namespaceName : String
  deriving Repr, DecidableEq

/-- A row of `AccessGrant` with its namespaces and capabilities.  The table's check
constraint admits exactly one principal; a stored group id is not empty. -/
structure Grant where
  id : String
  userId : Option String
  groupId : Option String
  clusterId : String
  role : String
  state : String
  validFrom : Nat
  expiresAt : Option Nat
  revokedAt : Option Nat
  namespaces : List NamespaceScope
  capabilities : List String
  exactlyOnePrincipal : userId.isNone ≠ groupId.isNone
  groupId_ne_empty : groupId ≠ some ""
  deriving Repr, DecidableEq

structure GroupMembership where
  groupId : String
  userId : String
  state : String
  validFrom : Nat
  expiresAt : Option Nat
  groupId_ne_empty : groupId ≠ ""
  deriving Repr, DecidableEq

structure UserRow where
  id : String
  isActive : Bool
  role : String
  authzVersion : Nat
  deriving Repr, DecidableEq

structure ClusterRow where
  deletedAt : Option Nat
  status : String
  deriving Repr, DecidableEq

structure Directory where
  users : List UserRow
  groupActive : String → Bool
  memberships : List GroupMembership
  clusters : String → Option ClusterRow
  grants : List Grant

def roles : List String := ["cluster-admin", "operator", "viewer"]

/-- `expiresAt` is null or still ahead. -/
def unexpired (expiresAt : Option Nat) (now : Nat) : Bool := expiresAt.all (now < ·)

def ClusterRow.isLive (row : ClusterRow) : Bool := row.deletedAt.isNone && row.status != "deleted"

def Grant.hasCapability (grant : Grant) (capability : AuthorizationCapability) : Bool :=
  grant.capabilities.contains capability.text

namespace Directory

variable (d : Directory)

/-- `groupMembership.findMany`: the user's live memberships in active groups. -/
def activeMemberships (userId : String) (now : Nat) : List GroupMembership :=
  d.memberships.filter fun m => m.userId == userId && m.state == "active" &&
    d.groupActive m.groupId && decide (m.validFrom ≤ now) && unexpired m.expiresAt now

def membershipExpiry (memberships : List GroupMembership) (userId : String) (grant : Grant) :
    Option Nat :=
  if grant.userId = some userId then none
  else (memberships.find? fun m => some m.groupId == grant.groupId).bind (·.expiresAt)

def limitedExpiry : Option Nat → Option Nat → Option Nat
  | none, expiresAt => expiresAt
  | some ends, expiresAt => if expiresAt.all (ends < ·) then some ends else expiresAt

/-- A stream inherited through a group must end when that membership ends. -/
def limitByMembership (memberships : List GroupMembership) (userId : String) (grant : Grant) :
    Grant :=
  { grant with
    expiresAt := limitedExpiry (membershipExpiry memberships userId grant) grant.expiresAt }

def findGrants (userId : String) (groupIds : List String) (clusterId : Option String) :
    List Grant :=
  d.grants.filter fun g => clusterId.all (· == g.clusterId) && g.state == "active" &&
    g.revokedAt.isNone && (d.clusters g.clusterId).any ClusterRow.isLive &&
    (g.userId == some userId || g.groupId.any groupIds.contains)

/-- The tests `listEffectiveGrants` makes on the rows it has read. -/
def isEffective (userId : String) (groupIds : List String) (now : Nat)
    (clusterId : Option String) (g : Grant) : Bool :=
  (g.userId == some userId || groupIds.contains (g.groupId.getD "")) &&
    g.state == "active" && clusterId.all (· == g.clusterId) && roles.contains g.role &&
    decide (g.validFrom ≤ now) && unexpired g.expiresAt now && g.revokedAt.isNone &&
    g.namespaces.any fun scope => Text.trim scope.namespaceUid != ""

def listEffectiveGrants (userId : String) (now : Nat) (clusterId : Option String) : List Grant :=
  if Text.trim userId = "" then []
  else
    let memberships := d.activeMemberships userId now
    let groupIds := memberships.map (·.groupId)
    ((d.findGrants userId groupIds clusterId).map (limitByMembership memberships userId)).filter
      (isEffective userId groupIds now clusterId)

end Directory

/-! ## The decision on one request -/

structure AuthorizationRequest where
  userId : String
  clusterId : String
  namespaceUid : Option String
  capability : Option AuthorizationCapability
  mutation : Bool
  deriving Repr, DecidableEq

structure AuthorizationDecision where
  allowed : Bool
  reasonCode : String
  grantIds : List String
  expiresAt : Option Nat
  role : Option String
  deriving Repr, DecidableEq

def deny (reasonCode : String) : AuthorizationDecision := ⟨false, reasonCode, [], none, none⟩

def roleRank (role : String) : Nat :=
  if role = "cluster-admin" then 2 else if role = "operator" then 1 else 0

def Grant.covers (grant : Grant) (request : AuthorizationRequest) : Bool :=
  grant.clusterId == request.clusterId &&
    grant.namespaces.any (fun scope => some scope.namespaceUid == request.namespaceUid) &&
    request.capability.all grant.hasCapability && !(request.mutation && grant.role == "viewer")

def earliestExpiry (grants : List Grant) : Option Nat :=
  grants.foldl (fun earliest grant => match grant.expiresAt, earliest with
    | none, _ => earliest
    | some at', none => some at'
    | some at', some best => if at' < best then some at' else some best) none

def bestRole (grants : List Grant) : String :=
  grants.foldl (fun best grant => if roleRank best < roleRank grant.role then grant.role else best)
    "viewer"

namespace Directory

variable (d : Directory)

def authorize (request : AuthorizationRequest) (now : Nat) : AuthorizationDecision :=
  if request.userId = "" ∨ request.clusterId = "" then deny "IDENTITY_OR_CLUSTER_REQUIRED"
  else if Text.trim (request.namespaceUid.getD "") = "" then deny "NAMESPACE_SCOPE_REQUIRED"
  else
    let matching := (d.listEffectiveGrants request.userId now (some request.clusterId)).filter
      (·.covers request)
    if matching = [] then deny "GRANT_NOT_FOUND"
    else ⟨true, "GRANT_MATCHED", matching.map (·.id), earliestExpiry matching,
      some (bestRole matching)⟩

end Directory

/-- `NamespaceIdentityService.resolve`, from what reading a namespace of a cluster
finds: its uid, or nothing where the call fails. -/
def resolveNamespace (readNamespace : String → String → Option String)
    (clusterId namespaceName : String) : Except Exception String :=
  if Text.trim clusterId = "" ∨ Text.trim namespaceName = "" then
    .error (.forbidden "NAMESPACE_SCOPE_REQUIRED")
  else match readNamespace clusterId namespaceName with
    | some uid =>
        if Text.trim uid = "" then .error (.forbidden "NAMESPACE_IDENTITY_UNAVAILABLE") else .ok uid
    | none => .error (.forbidden "NAMESPACE_IDENTITY_UNAVAILABLE")

/-- The loop of `createAccessGrant` that records the namespaces of a new grant. -/
def recordScopes (readNamespace : String → String → Option String) (clusterId : String) :
    List String → Except Exception (List NamespaceScope)
  | [] => .ok []
  | name :: names => do
      let uid ← resolveNamespace readNamespace clusterId name
      let scopes ← recordScopes readNamespace clusterId names
      return ⟨uid, name⟩ :: scopes

theorem resolveNamespace_eq_ok {readNamespace : String → String → Option String}
    {clusterId namespaceName uid : String}
    (h : resolveNamespace readNamespace clusterId namespaceName = .ok uid) :
    readNamespace clusterId namespaceName = some uid ∧ Text.trim clusterId ≠ "" ∧
      Text.trim uid ≠ "" := by
  unfold resolveNamespace at h
  split at h
  · simp at h
  rename_i hscope
  push Not at hscope
  split at h
  · rename_i found hread
    split at h
    · simp at h
    · rename_i huid
      obtain rfl : found = uid := by simpa using h
      exact ⟨hread, hscope.1, huid⟩
  · simp at h

/-- What `listEffectiveGrants` promises about each grant it returns. -/
structure Effective (userId : String) (now : Nat) (clusterId : String) (g : Grant) : Prop where
  principal : g.userId = some userId ∨ g.userId = none ∧ ∃ id, g.groupId = some id ∧ id ≠ ""
  clusterId : g.clusterId = clusterId
  state : g.state = "active"
  role : roles.contains g.role = true
  validFrom : g.validFrom ≤ now
  unexpired : unexpired g.expiresAt now = true
  revokedAt : g.revokedAt = none

namespace Directory

variable {d : Directory} {userId : String} {now : Nat} {clusterId : String} {g : Grant}

theorem userId_ne_empty_of_mem (h : g ∈ d.listEffectiveGrants userId now (some clusterId)) :
    Text.trim userId ≠ "" := by
  intro hblank
  simp [listEffectiveGrants, hblank] at h

theorem exists_stored_of_mem (h : g ∈ d.listEffectiveGrants userId now (some clusterId)) :
    ∃ stored ∈ d.grants, g.namespaces = stored.namespaces ∧ g.capabilities = stored.capabilities := by
  simp only [listEffectiveGrants, if_neg (userId_ne_empty_of_mem h), List.mem_filter,
    List.mem_map, findGrants] at h
  obtain ⟨⟨stored, ⟨hstored, -⟩, rfl⟩, -⟩ := h
  exact ⟨stored, hstored, rfl, rfl⟩

theorem effective_of_mem (h : g ∈ d.listEffectiveGrants userId now (some clusterId)) :
    Effective userId now clusterId g := by
  have hblank := userId_ne_empty_of_mem h
  simp only [listEffectiveGrants, if_neg hblank, List.mem_filter, List.mem_map, isEffective,
    Bool.and_eq_true, Bool.or_eq_true, beq_iff_eq, Option.all_some, decide_eq_true_eq,
    Option.isNone_iff_eq_none] at h
  obtain ⟨-, ⟨⟨⟨⟨⟨⟨hprincipal, hstate⟩, hcluster⟩, hrole⟩, hfrom⟩, hexpiry⟩, hrevoked⟩, -⟩ := h
  refine ⟨?_, hcluster.symm, hstate, hrole, hfrom, hexpiry, hrevoked⟩
  have hone := g.exactlyOnePrincipal
  cases huser : g.userId with
  | some other =>
      -- a grant of a user has no group, and no membership is in the group with the empty id
      have hgroup : g.groupId = none := by simpa [huser] using hone
      rcases hprincipal with hself | hmember
      · exact .inl (huser ▸ hself)
      · obtain ⟨m, -, hid⟩ : ∃ m ∈ d.activeMemberships userId now, m.groupId = "" := by
          simpa [hgroup] using hmember
        exact absurd hid m.groupId_ne_empty
  | none =>
      cases hgroup : g.groupId with
      | none => simp [huser, hgroup] at hone
      | some id => exact .inr ⟨rfl, id, rfl, fun hid => g.groupId_ne_empty (hid ▸ hgroup)⟩

end Directory
end KubeNova.Access
