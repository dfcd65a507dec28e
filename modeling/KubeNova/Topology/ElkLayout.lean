import KubeNova.Topology.ContainerRelations
import KubeNova.Topology.RelationSemantics
import KubeNova.Foundation.JsonParse

/-!
# Layout of the graph

A graph is laid out by an engine of its own, which is told the boxes, the edges between them and how
to place them.  What it answers is turned into cards and lines, which carry the graph's data.
-/

namespace KubeNova.Topology

open KubeNova.Foundation KubeNova.Foundation.Json

structure ElkPoint where
  x : ℚ
  y : ℚ
  deriving DecidableEq

structure ElkSection where
  startPoint : ElkPoint
  endPoint : ElkPoint
  bendPoints : List ElkPoint := []
  deriving DecidableEq

structure ElkGraphEdge where
  id : String
  sources : List String
  targets : List String
  labels : List String := []
  sections : List ElkSection := []
  deriving DecidableEq

structure ElkBox where
  id : String
  width : Option ℚ := none
  height : Option ℚ := none
  x : Option ℚ := none
  y : Option ℚ := none
  layoutOptions : List (String × String) := []
  edges : List ElkGraphEdge := []
  deriving DecidableEq

structure ElkGraph where
  box : ElkBox
  children : List ElkGraph

/-- What the layout rests on: how the language writes and compares texts and numbers, and the engine,
which is given the aspect ratio as a text. -/
structure LayoutEngine where
  toLowerCase : String → String
  toUpperCase : String → String
  showNumber : ℚ → String
  /-- `localeCompare(…, 'en')` -/
  locale : Update.Locale
  /-- `localeCompare(…, 'zh-CN')` -/
  chinese : Update.Locale
  /-- `localeCompare(…, 'en', { numeric: true })` -/
  numeric : Update.Locale
  layout : ElkGraph → String → ElkGraph

def nodeWidth : ℚ := 220

def nodeHeight : ℚ := 70

def isContainer (node : KubejojoGraphNode) : Bool := !node.nodes.isEmpty && !node.item.collapsed

def canonicalKinds : List (String × String) :=
  [("cluster", "Cluster"), ("namespace", "Namespace"), ("deployment", "Deployment"),
    ("statefulset", "StatefulSet"), ("daemonset", "DaemonSet"), ("replicaset", "ReplicaSet"),
    ("pod", "Pod"), ("job", "Job"), ("cronjob", "CronJob"), ("service", "Service"),
    ("ingress", "Ingress"), ("ingressroute", "IngressRoute"), ("endpoints", "Endpoints"),
    ("endpointslice", "EndpointSlice"), ("networkpolicy", "NetworkPolicy"),
    ("gatewayclass", "GatewayClass"), ("gateway", "Gateway"), ("httproute", "HTTPRoute"),
    ("grpcroute", "GRPCRoute"), ("tcproute", "TCPRoute"), ("tlsroute", "TLSRoute"),
    ("udproute", "UDPRoute"), ("persistentvolume", "PersistentVolume"), ("pv", "PersistentVolume"),
    ("persistentvolumeclaim", "PersistentVolumeClaim"), ("pvc", "PersistentVolumeClaim"),
    ("storageclass", "StorageClass"), ("sc", "StorageClass"), ("configmap", "ConfigMap"),
    ("secret", "Secret"), ("serviceaccount", "ServiceAccount"),
    ("horizontalpodautoscaler", "HorizontalPodAutoscaler"), ("hpa", "HorizontalPodAutoscaler"),
    ("verticalpodautoscaler", "VerticalPodAutoscaler"), ("vpa", "VerticalPodAutoscaler")]

def nodeWeights : List (String × ℚ) :=
  [("HorizontalPodAutoscaler", 1000), ("Deployment", 980), ("StatefulSet", 960),
    ("DaemonSet", 960), ("CronJob", 960), ("JobSet", 960), ("LeaderWorkerSet", 960), ("Job", 920),
    ("ReplicaSet", 960), ("Pod", 800), ("ServiceAccount", 960), ("Role", 790),
    ("ClusterRole", 790), ("Service", 790), ("NetworkPolicy", 790),
    ("PersistentVolumeClaim", 790), ("ConfigMap", 790), ("Secret", 790), ("Endpoints", 780),
    ("EndpointSlice", 780), ("MutatingWebhookConfiguration", 780),
    ("ValidatingWebhookConfiguration", 780), ("IngressClass", 780), ("Ingress", 780),
    ("RoleBinding", 800), ("ClusterRoleBinding", 800), ("StorageClass", 770), ("CSIDriver", 760),
    ("PersistentVolume", 750), ("CustomResourceDefinition", 600)]

def nodeWeightOverrides : List (String × ℚ) :=
  [("VerticalPodAutoscaler", 995), ("ReplicationController", 960), ("PodDisruptionBudget", 790),
    ("ResourceQuota", 790), ("LimitRange", 790), ("RuntimeClass", 780), ("PriorityClass", 780),
    ("GatewayClass", 785), ("Gateway", 770), ("HTTPRoute", 770), ("GRPCRoute", 770),
    ("TCPRoute", 770), ("TLSRoute", 770), ("UDPRoute", 770), ("IngressRoute", 770), ("Lease", 600)]

def defaultNodeWeight : ℚ := 500

def finiteNumber? : Number → Option ℚ
  | .finite q => some q
  | _ => none

section Layout

variable (engine : LayoutEngine)

def normalizeTopologyKind (kind : Option String) : String :=
  let value := Text.trim (kind.getD "")
  if value = "" then "Unknown"
  else
    match canonicalKinds.lookup (engine.toLowerCase value) with
    | some canonical => canonical
    | none =>
        engine.toUpperCase (String.ofList (value.toList.take 1)) ++
          engine.toLowerCase (String.ofList (value.toList.drop 1))

def weightForKind (kind : Option String) : Option ℚ :=
  let normalized := normalizeTopologyKind engine kind
  (nodeWeights.lookup normalized).or (nodeWeightOverrides.lookup normalized)

def aggregatedWeight (resource : Option KubejojoResource) : Option ℚ :=
  let members := ((resource.bind (·.aggregation)).map (·.membersByKind)).getD []
  let counted := members.filterMap fun member =>
    match finiteNumber? member.2 with
    | some count => if 0 < count then some (member.1, count) else none
    | none => none
  let total := (counted.map (·.2)).sum
  let weighted := (counted.map fun member =>
    (weightForKind engine (some member.1)).getD defaultNodeWeight * member.2).sum
  if 0 < total then some (weighted / total) else none

def getKubejojoWeight (node : KubejojoGraphNode) : ℚ :=
  let explicit := node.item.weight.or (node.item.resource.bind (·.weight))
  match explicit.bind finiteNumber? with
  | some weight => weight
  | none =>
      ((weightForKind engine (node.item.resource.bind (·.kind))).or
        (aggregatedWeight engine node.item.resource)).getD defaultNodeWeight

/-! ## The order of the children -/

def firstNonZero : List Int → Int
  | [] => 0
  | n :: rest => if n = 0 then firstNonZero rest else n

/-- The sign of the difference of the weights, heaviest first. -/
def compareWeights (left right : KubejojoGraphNode) : Int :=
  let delta := getKubejojoWeight engine right - getKubejojoWeight engine left
  if 0 < delta then 1 else if delta < 0 then -1 else 0

def resourceText (field : KubejojoResource → Option String) (node : KubejojoGraphNode) : String :=
  (node.item.resource.bind field).getD ""

def compareKubejojoNodes (left right : KubejojoGraphNode) : Int :=
  firstNonZero [compareWeights engine left right,
    engine.locale.localeCompare (resourceText (·.kind) left) (resourceText (·.kind) right),
    engine.chinese.localeCompare (resourceText (·.namespace) left)
      (resourceText (·.namespace) right),
    engine.numeric.localeCompare (resourceText (·.name) left) (resourceText (·.name) right),
    engine.locale.localeCompare left.id right.id]

/-- The order `sort()` puts texts in. -/
def unitsLe (a b : String) : Prop :=
  a.toList.flatMap codeUnits ≤ b.toList.flatMap codeUnits

instance : DecidableRel unitsLe := fun _ _ => inferInstanceAs (Decidable (_ ≤ _))

def describeChild (node : KubejojoGraphNode) (id : String) : String :=
  let child := node.nodes.reverse.find? fun child => child.id == id
  let text (field : KubejojoResource → Option String) := (child.map (resourceText field)).getD ""
  "\x00".intercalate [text (·.kind), text (·.namespace), text (·.name), id]

def neighborhood (node : KubejojoGraphNode) (id : String) : List String :=
  (containerRelations engine.locale node).flatMap fun drawn =>
    (if drawn.source = id then
      ["out:" ++ drawn.relation.semantics ++ ":" ++ describeChild node drawn.target] else []) ++
    if drawn.target = id then
      ["in:" ++ drawn.relation.semantics ++ ":" ++ describeChild node drawn.source] else []

def signature (node : KubejojoGraphNode) (id : String) : String :=
  "\x01".intercalate ((neighborhood engine node id).insertionSort unitsLe)

def compareChildren (node left right : KubejojoGraphNode) : Int :=
  firstNonZero [compareWeights engine left right,
    engine.locale.localeCompare (resourceText (·.kind) left) (resourceText (·.kind) right),
    engine.locale.localeCompare (signature engine node left.id) (signature engine node right.id),
    compareKubejojoNodes engine left right]

def orderChildren {α : Type} (node : KubejojoGraphNode) (children : List (KubejojoGraphNode × α)) :
    List α :=
  (children.insertionSort fun left right =>
    compareChildren engine node left.1 right.1 ≤ 0).map Prod.snd

def containerLayoutOptions (hasEdges down : Bool) : List (String × String) :=
  let packing := [("elk.spacing.nodeNode", "20"),
    ("elk.padding", "[left=24, top=12, right=24, bottom=12]")]
  let direction := ("elk.direction", if down then "DOWN" else "RIGHT")
  if !hasEdges then
    if down then
      [("elk.algorithm", "layered"), direction, ("elk.edgeRouting", "SPLINES")] ++ packing
    else
      [("elk.algorithm", "rectpacking"),
        ("elk.rectpacking.widthApproximation.optimizationGoal", "ASPECT_RATIO_DRIVEN"),
        ("elk.rectpacking.packing.compaction.rowHeightReevaluation", "true"),
        ("elk.edgeRouting", "SPLINES")] ++ packing
  else
    [("elk.algorithm", "layered"), ("elk.partitioning.activate", "true"), direction,
      ("elk.randomSeed", "1"), ("elk.separateConnectedComponents", "true"),
      ("elk.edgeRouting", "SPLINES"), ("elk.nodeSize.minimum", "(220.0,70.0)"),
      ("elk.nodeSize.constraints", "[MINIMUM_SIZE]"), ("elk.spacing.nodeNode", "60"),
      ("elk.layered.spacing.nodeNodeBetweenLayers", "60"),
      ("elk.padding", "[left=16, top=16, right=16, bottom=16]")]

def partitionOption (node : KubejojoGraphNode) : String × String :=
  ("elk.partitioning.partition", engine.showNumber (-getKubejojoWeight engine node))

def orient (weight : String → Option ℚ) (source target : String) : String × String :=
  match weight source, weight target with
  | some sourceWeight, some targetWeight =>
      if targetWeight ≤ sourceWeight then (source, target) else (target, source)
  | _, _ => (source, target)

def weightIn (nodes : List KubejojoGraphNode) (id : String) : Option ℚ :=
  (nodes.reverse.find? fun node => node.id == id).map (getKubejojoWeight engine)

def elkEdge (node : KubejojoGraphNode) (drawn : ContainerRelation) : ElkGraphEdge :=
  let ends := orient (weightIn engine node.nodes) drawn.source drawn.target
  { id := drawn.relation.id
    sources := [ends.1]
    targets := [ends.2]
    labels := (drawn.relation.label.filter (· ≠ "")).toList }

def elkEdges (node : KubejojoGraphNode) : List ElkGraphEdge :=
  (containerRelations engine.locale node).map (elkEdge engine node)

def elkBox (node : KubejojoGraphNode) : ElkBox :=
  if isContainer node then
    { id := node.id, width := some nodeWidth, height := some nodeHeight
      layoutOptions := containerLayoutOptions (!(elkEdges engine node).isEmpty)
        (node.item.groupKind == some .stack) ++ [partitionOption engine node]
      edges := elkEdges engine node }
  else
    { id := node.id, width := some nodeWidth, height := some nodeHeight
      layoutOptions := [partitionOption engine node] }

mutual

/-- The engine's graph; what is inside a closed group is not shown to it. -/
def toElkGraph : KubejojoGraphNode → ElkGraph
  | ⟨item, nodes⟩ =>
      { box := elkBox engine ⟨item, nodes⟩
        children :=
          if isContainer ⟨item, nodes⟩ then
            orderChildren engine ⟨item, nodes⟩ (toElkGraphs nodes)
          else [] }

def toElkGraphs : List KubejojoGraphNode → List (KubejojoGraphNode × ElkGraph)
  | [] => []
  | child :: rest => (child, toElkGraph child) :: toElkGraphs rest

end

end Layout

end KubeNova.Topology
