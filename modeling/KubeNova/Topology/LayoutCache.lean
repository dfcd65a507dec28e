import KubeNova.Topology.KubejojoLayout
import KubeNova.Foundation.TimedCache

/-!
# The cache of layouts

A layout is kept under a key made of counts and hashes of the ids of its graph.  What a call is
given was made for a graph with the same key, which may have other labels and relations.
-/

namespace KubeNova.Topology

open KubeNova.Foundation KubeNova.Foundation.Json

/-- `value | 0` -/
def toInt32 (n : Int) : Int := n.bmod (2 ^ 32)

def hashLayoutKey (value : String) (seed : Int) : Int :=
  (value.toList.flatMap codeUnits).foldl
    (fun hash code => toInt32 (toInt32 (hash * 32) + hash + code)) seed

def hashNode (hash : Int) (node : KubejojoGraphNode) : Int :=
  let named := hashLayoutKey (toString (Text.length node.id) ++ ":" ++ node.id) hash
  hashLayoutKey (if node.item.collapsed then "collapsed" else "expanded") named

def hashEdge (hash : Int) (relation : KubejojoRelation) : Int :=
  hashLayoutKey (relation.source ++ "->" ++ relation.target) hash

section Cache

variable (engine : LayoutEngine)

def getKubejojoCacheKey (root : KubejojoGraphNode) (aspectRatio : ℚ) : String :=
  let visited := eachKubejojo root
  let edges := visited.flatMap (·.item.edges)
  "-".intercalate [toString visited.length, toString edges.length,
    toString (visited.foldl hashNode 5381), toString (edges.foldl hashEdge 5381),
    engine.showNumber aspectRatio]

structure LayoutCall where
  root : KubejojoGraphNode
  aspectRatio : Number

def defaultAspectRatio : ℚ := 16 / 10

/-- `Number.isFinite(aspectRatio) && aspectRatio > 0 ? aspectRatio : DEFAULT_ASPECT_RATIO` -/
def LayoutCall.ratio (call : LayoutCall) : ℚ :=
  match call.aspectRatio with
  | .finite q => if 0 < q then q else defaultAspectRatio
  | _ => defaultAspectRatio

/-- `layoutKubejojoGraph`: a layout is given out for a minute, and ten are kept. -/
def layoutKubejojoGraph : Memo LayoutCall KubejojoLayout where
  key call := getKubejojoCacheKey engine call.root call.ratio
  compute call := layoutOf engine call.root call.ratio
  ttl := 60000
  size := 10

def Transparent (events : List (MemoEvent LayoutCall)) : Prop :=
  ∀ served ∈ (layoutKubejojoGraph engine).run {} events,
    served.value = layoutOf engine served.argument.root served.argument.ratio

def drawnPart (root : KubejojoGraphNode) : KubejojoGraphNode :=
  if root.id = "root" then
    { item :=
        { id := "root", edges := root.item.edges
          weight := some (.finite (getKubejojoWeight engine root))
          collapsed := root.item.collapsed, groupKind := root.item.groupKind }
      nodes := root.nodes }
  else root

def DrawsSame (call other : LayoutCall) : Prop :=
  drawnPart engine call.root = drawnPart engine other.root ∧
    engine.showNumber call.ratio = engine.showNumber other.ratio

def KeptForTheSame (events : List (MemoEvent LayoutCall)) : Prop :=
  ∀ served ∈ (layoutKubejojoGraph engine).origins.run {} events,
    DrawsSame engine served.value served.argument

end Cache

/-! ## What the layout depends on -/

section Drawn

variable {engine : LayoutEngine} {node other : KubejojoGraphNode}

structure Alike (engine : LayoutEngine) (node other : KubejojoGraphNode) : Prop where
  id : node.id = other.id
  edges : node.item.edges = other.item.edges
  nodes : node.nodes = other.nodes
  weight : getKubejojoWeight engine node = getKubejojoWeight engine other
  collapsed : node.item.collapsed = other.item.collapsed
  groupKind : node.item.groupKind = other.item.groupKind

theorem alike_drawnPart (h : node.id = "root") : Alike engine (drawnPart engine node) node := by
  rw [drawnPart, if_pos h]
  exact ⟨h.symm, rfl, rfl, rfl, rfl, rfl⟩

theorem Alike.container (h : Alike engine node other) : isContainer node = isContainer other := by
  rw [isContainer, isContainer, h.nodes, h.collapsed]

theorem Alike.relations (h : Alike engine node other) :
    containerRelations engine.locale node = containerRelations engine.locale other := by
  have hcontained : containedIds node = containedIds other := by
    rw [containedIds, containedIds, leavesKubejojo_eq, leavesKubejojo_eq, h.nodes]
    split
    · show [node.id] = [other.id]
      rw [h.id]
    · rfl
  have hproject : projectRelation node = projectRelation other := by
    funext relation
    rw [projectRelation, projectRelation, directChildId, directChildId, directChildId,
      directChildId, h.nodes]
  rw [containerRelations, containerRelations, projectedRelations, projectedRelations, hcontained,
    hproject, h.edges]

theorem Alike.toElkGraph (h : Alike engine node other) :
    toElkGraph engine node = Topology.toElkGraph engine other := by
  have hbox : elkBox engine node = elkBox engine other := by
    have hedges : elkEdges engine node = elkEdges engine other := by
      have hedge : elkEdge engine node = elkEdge engine other := by
        funext drawn
        rw [elkEdge, elkEdge, h.nodes]
      rw [elkEdges, elkEdges, h.relations, hedge]
    rw [elkBox, elkBox, h.container, hedges, h.groupKind, partitionOption, partitionOption,
      h.weight, h.id]
  have hcompare : compareChildren engine node = compareChildren engine other := by
    funext left right
    have hsignature : signature engine node = signature engine other := by
      funext id
      have hdescribe : describeChild node = describeChild other := by
        funext id
        rw [describeChild, describeChild, h.nodes]
      rw [signature, signature, neighborhood, neighborhood, h.relations, hdescribe]
    rw [compareChildren, compareChildren, hsignature]
  have horder : ∀ children : List (KubejojoGraphNode × ElkGraph),
      orderChildren engine node children = orderChildren engine other children := by
    intro children
    rw [orderChildren, orderChildren]
    simp only [hcompare]
  obtain ⟨item, nodes⟩ := node
  obtain ⟨item', nodes'⟩ := other
  have hnodes : nodes = nodes' := h.nodes
  subst hnodes
  rw [Topology.toElkGraph, Topology.toElkGraph, hbox, h.container]
  simp only [horder]

theorem Alike.emitChildren (h : Alike engine node other) (weightById : String → Option ℚ)
    (children : List ElkGraph) (origin : ElkPoint) :
    emitChildren engine weightById children node origin =
      Topology.emitChildren engine weightById children other origin := by
  induction children with
  | nil => rw [Topology.emitChildren, Topology.emitChildren]
  | cons child rest ih =>
      obtain ⟨box, inside⟩ := child
      rw [Topology.emitChildren, Topology.emitChildren, ih, h.nodes, h.id]

theorem Alike.emit (h : Alike engine node other) (hroot : node.id = "root")
    (weightById : String → Option ℚ) (laidOut : ElkGraph) (placement origin : ElkPoint)
    (parentId : Option String) :
    emit engine weightById laidOut node placement origin parentId =
      Topology.emit engine weightById laidOut other placement origin parentId := by
  obtain ⟨box, children⟩ := laidOut
  have hedges : emitEdges engine weightById node box.edges origin =
      emitEdges engine weightById other box.edges origin := by
    rw [emitEdges, emitEdges, h.relations]
  rw [Topology.emit, Topology.emit, h.container, hedges, h.emitChildren, if_pos hroot,
    if_pos (h.id.symm.trans hroot)]

theorem Alike.weightIn (h : Alike engine node other) :
    weightIn engine (eachKubejojo node) = Topology.weightIn engine (eachKubejojo other) := by
  funext id
  rw [Topology.weightIn, Topology.weightIn, eachKubejojo_eq, eachKubejojo_eq, h.nodes,
    List.reverse_cons, List.reverse_cons, List.find?_append, List.find?_append]
  cases (other.nodes.flatMap eachKubejojo).reverse.find? fun node => node.id == id with
  | some found => rfl
  | none =>
      rw [Option.none_or, Option.none_or, List.find?_singleton, List.find?_singleton, h.id]
      split
      · show some _ = some _
        rw [h.weight]
      · rfl

theorem layoutOf_drawnPart (root : KubejojoGraphNode) (ratio : ℚ) :
    layoutOf engine (drawnPart engine root) ratio = layoutOf engine root ratio := by
  by_cases hroot : root.id = "root"
  · have halike := @alike_drawnPart engine _ hroot
    rw [layoutOf, layoutOf, toKubejojoLayout, toKubejojoLayout, halike.toElkGraph, halike.weightIn,
      halike.emit (halike.id.trans hroot)]
  · rw [drawnPart, if_neg hroot]

theorem layoutOf_eq {call other : LayoutCall} (h : DrawsSame engine call other) :
    layoutOf engine call.root call.ratio = layoutOf engine other.root other.ratio := by
  have hratio : ∀ root, layoutOf engine root call.ratio = layoutOf engine root other.ratio := by
    intro root
    rw [layoutOf, layoutOf, h.2]
  rw [hratio, ← layoutOf_drawnPart, h.1, layoutOf_drawnPart]

end Drawn

section Runs

variable (engine : LayoutEngine) (events : List (MemoEvent LayoutCall))

theorem run_layoutKubejojoGraph : (layoutKubejojoGraph engine).run {} events =
    ((layoutKubejojoGraph engine).origins.run {} events).map (layoutKubejojoGraph engine).result :=
  (layoutKubejojoGraph engine).run_results {} events

/-- The cache goes unnoticed where no layout is given out for a graph that draws something else. -/
theorem transparent_of_keptForTheSame (h : KeptForTheSame engine events) :
    Transparent engine events := by
  intro served hserved
  rw [run_layoutKubejojoGraph] at hserved
  obtain ⟨origin, horigin, rfl⟩ := List.mem_map.mp hserved
  exact layoutOf_eq (h origin horigin)

end Runs

def plainEngine : LayoutEngine where
  toLowerCase := Text.toLower
  toUpperCase := id
  showNumber q := toString q.num ++ "/" ++ toString q.den
  locale := Update.foldLocale id
  chinese := Update.foldLocale id
  numeric := Update.foldLocale id
  layout graph _ := graph

def labelledGraph (label : String) : KubejojoGraphNode where
  item := { id := "root" }
  nodes := [⟨{ id := "pod", label := some label }, []⟩]

def labelledCall (label : String) : LayoutCall := ⟨labelledGraph label, .finite 1⟩

/-- A graph is laid out, and a graph with the other label a second later. -/
def relabelled (label other : String) : List (MemoEvent LayoutCall) :=
  [.call (labelledCall label) 0, .settle 0 10 10, .call (labelledCall other) 1000]

theorem young_set {call : LayoutCall} (key : String) :
    ((TimedCache.set [] key call 10).clean 60000 10 10).young 60000 key 1000 = some call := by
  simp [TimedCache.set, setField, TimedCache.clean, TimedCache.young]

theorem transparent_repeated : Transparent plainEngine (relabelled "api" "api") := by
  apply transparent_of_keptForTheSame
  have hrun : (layoutKubejojoGraph plainEngine).origins.run {} (relabelled "api" "api") =
      [⟨labelledCall "api", labelledCall "api"⟩, ⟨labelledCall "api", labelledCall "api"⟩] := by
    rw [relabelled, Memo.run, Memo.step_miss rfl, Memo.run, Memo.step_settle rfl, Memo.run,
      Memo.step_hit (young_set _)]
    rfl
  intro served hserved
  rw [hrun] at hserved
  rcases List.mem_pair.mp hserved with rfl | rfl
  · exact ⟨rfl, rfl⟩
  · exact ⟨rfl, rfl⟩

def givenLabels (events : List (MemoEvent LayoutCall)) : List (List (Option String)) :=
  ((layoutKubejojoGraph plainEngine).run {} events).map fun served =>
    served.value.nodes.map (·.graphNode.item.label)

def ownLabels (events : List (MemoEvent LayoutCall)) : List (List (Option String)) :=
  ((layoutKubejojoGraph plainEngine).run {} events).map fun served =>
    (layoutOf plainEngine served.argument.root served.argument.ratio).nodes.map
      (·.graphNode.item.label)

theorem label_kept : ¬Transparent plainEngine (relabelled "api" "web") := by
  intro h
  have hsame : givenLabels (relabelled "api" "web") = ownLabels (relabelled "api" "web") := by
    apply List.map_congr_left
    intro served hserved
    rw [h served hserved]
  have hgiven : givenLabels (relabelled "api" "web") = [[some "api"], [some "api"]] := by
    decide +kernel
  have hown : ownLabels (relabelled "api" "web") = [[some "api"], [some "web"]] := by
    decide +kernel
  rw [hgiven, hown] at hsame
  revert hsame
  decide

end KubeNova.Topology
