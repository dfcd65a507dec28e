import KubeNova.Update.CanonicalJson
import KubeNova.Foundation.JsNumber
import KubeNova.Foundation.Trimming

/-!
# The graph the resource map draws

Resources are the leaves of a tree of groups.  A node has the relations that are drawn inside it.
-/

namespace KubeNova.Topology

open KubeNova.Foundation

inductive KubejojoRelationRole where
  | owner
  | network
  | storage
  | config
  | policy
  | gateway
  | scope
  deriving Repr, DecidableEq

inductive KubejojoRelationType where
  | owns
  | selects
  | publishes
  | resolves
  | routesTo
  | governs
  | provisions
  | accepts
  | mounts
  | binds
  | usesStorageClass
  | usesConfig
  | usesSecret
  | usesServiceAccount
  | groups
  deriving Repr, DecidableEq

namespace KubejojoRelationRole

def text : KubejojoRelationRole → String
  | owner => "owner"
  | network => "network"
  | storage => "storage"
  | config => "config"
  | policy => "policy"
  | gateway => "gateway"
  | scope => "scope"

end KubejojoRelationRole

namespace KubejojoRelationType

def text : KubejojoRelationType → String
  | owns => "OWNS"
  | selects => "SELECTS"
  | publishes => "PUBLISHES"
  | resolves => "RESOLVES"
  | routesTo => "ROUTES_TO"
  | governs => "GOVERNS"
  | provisions => "PROVISIONS"
  | accepts => "ACCEPTS"
  | mounts => "MOUNTS"
  | binds => "BINDS"
  | usesStorageClass => "USES_STORAGE_CLASS"
  | usesConfig => "USES_CONFIG"
  | usesSecret => "USES_SECRET"
  | usesServiceAccount => "USES_SERVICE_ACCOUNT"
  | groups => "GROUPS"

end KubejojoRelationType

inductive KubejojoDirection where
  | outbound
  | inbound
  deriving Repr, DecidableEq

structure KubejojoRelation where
  id : String
  source : String
  target : String
  label : Option String := none
  role : Option KubejojoRelationRole := none
  type : Option KubejojoRelationType := none
  direction : Option KubejojoDirection := none
  ports : List String := []
  evidence : List String := []
  confidence : Option ℚ := none
  deriving DecidableEq

/-- `relation.type ?? relation.role ?? relation.label ?? 'unknown'` -/
def KubejojoRelation.semantics (relation : KubejojoRelation) : String :=
  match relation.type, relation.role, relation.label with
  | some type, _, _ => type.text
  | none, some role, _ => role.text
  | none, none, some label => label
  | none, none, none => "unknown"

structure ResourceAggregation where
  memberCount : Nat
  representativeId : String
  membersByKind : List (String × Number)
  semanticKey : List (String × String) := []
  deriving DecidableEq

structure KubejojoResource where
  id : String
  name : Option String := none
  kind : Option String := none
  «namespace» : Option String := none
  instanceName : Option String := none
  nodeName : Option String := none
  source : Option String := none
  status : Option String := none
  summary : Option String := none
  detailLines : List String := []
  tags : List String := []
  warnings : List String := []
  weight : Option Number := none
  identityKey : Option String := none
  aggregation : Option ResourceAggregation := none
  deriving DecidableEq

inductive KubejojoGroupKind where
  | scope
  | component
  | isolated
  | stack
  deriving Repr, DecidableEq

/-- What a node of the graph has beside the nodes below it. -/
structure KubejojoItem where
  id : String
  label : Option String := none
  subtitle : Option String := none
  resource : Option KubejojoResource := none
  edges : List KubejojoRelation := []
  overlayEdges : List KubejojoRelation := []
  weight : Option Number := none
  collapsed : Bool := false
  groupKind : Option KubejojoGroupKind := none
  collapsedPreferred : Bool := false
  expandedStackId : Option String := none
  expandedStackLabel : Option String := none
  deriving DecidableEq

structure KubejojoGraphNode where
  item : KubejojoItem
  nodes : List KubejojoGraphNode

namespace KubejojoGraphNode

def id (node : KubejojoGraphNode) : String := node.item.id

end KubejojoGraphNode

mutual

def leavesKubejojo : KubejojoGraphNode → List KubejojoGraphNode
  | ⟨item, []⟩ => [⟨item, []⟩]
  | ⟨_, child :: rest⟩ => leavesKubejojo child ++ leavesOf rest

def leavesOf : List KubejojoGraphNode → List KubejojoGraphNode
  | [] => []
  | child :: rest => leavesKubejojo child ++ leavesOf rest

end

mutual

def eachKubejojo : KubejojoGraphNode → List KubejojoGraphNode
  | ⟨item, nodes⟩ => ⟨item, nodes⟩ :: eachOf nodes

def eachOf : List KubejojoGraphNode → List KubejojoGraphNode
  | [] => []
  | child :: rest => eachKubejojo child ++ eachOf rest

end

theorem leavesOf_eq (nodes : List KubejojoGraphNode) :
    leavesOf nodes = nodes.flatMap leavesKubejojo := by
  induction nodes with
  | nil => rfl
  | cons child rest ih => rw [leavesOf, ih, List.flatMap_cons]

theorem eachOf_eq (nodes : List KubejojoGraphNode) : eachOf nodes = nodes.flatMap eachKubejojo := by
  induction nodes with
  | nil => rfl
  | cons child rest ih => rw [eachOf, ih, List.flatMap_cons]

theorem leavesKubejojo_eq (node : KubejojoGraphNode) : leavesKubejojo node =
    if node.nodes.isEmpty then [node] else node.nodes.flatMap leavesKubejojo := by
  obtain ⟨item, nodes⟩ := node
  cases nodes with
  | nil => rfl
  | cons child rest =>
      rw [leavesKubejojo, leavesOf_eq]
      rfl

theorem eachKubejojo_eq (node : KubejojoGraphNode) :
    eachKubejojo node = node :: node.nodes.flatMap eachKubejojo := by
  obtain ⟨item, nodes⟩ := node
  rw [eachKubejojo, eachOf_eq]

mutual

theorem leaves_subset_each : ∀ node : KubejojoGraphNode, leavesKubejojo node ⊆ eachKubejojo node
  | ⟨item, []⟩ => by
      rw [leavesKubejojo, eachKubejojo]
      exact List.cons_subset_cons _ (List.nil_subset _)
  | ⟨item, child :: rest⟩ => by
      rw [leavesKubejojo, eachKubejojo, eachOf]
      apply List.subset_cons_of_subset
      exact List.append_subset.mpr ⟨List.subset_append_of_subset_left _ (leaves_subset_each child),
        List.subset_append_of_subset_right _ (leavesOf_subset_eachOf rest)⟩

theorem leavesOf_subset_eachOf : ∀ nodes : List KubejojoGraphNode, leavesOf nodes ⊆ eachOf nodes
  | [] => List.nil_subset _
  | child :: rest => by
      rw [leavesOf, eachOf]
      exact List.append_subset.mpr ⟨List.subset_append_of_subset_left _ (leaves_subset_each child),
        List.subset_append_of_subset_right _ (leavesOf_subset_eachOf rest)⟩

end

end KubeNova.Topology
