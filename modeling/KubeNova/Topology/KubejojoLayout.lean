import KubeNova.Topology.ElkLayout

/-!
# Cards and lines

What the layout engine answers is walked together with the graph: every box of a node of the graph
becomes a card with the node as its data, every edge of a relation a line.
-/

namespace KubeNova.Topology

open KubeNova.Foundation KubeNova.Foundation.Json

structure FlowNode where
  id : String
  isGroup : Bool
  position : ElkPoint
  parentId : Option String
  width : ℚ
  height : ℚ
  graphNode : KubejojoGraphNode

structure FlowEdge where
  id : String
  source : String
  target : String
  sections : List ElkSection
  relationIds : List String
  count : Option Nat
  role : Option KubejojoRelationRole
  semantics : KubejojoRelationSemantics
  labelPosition : ElkPoint
  ports : List String
  evidence : List String
  confidence : Option ℚ
  deriving DecidableEq

structure KubejojoLayout where
  nodes : List FlowNode
  edges : List FlowEdge

namespace KubejojoLayout

def empty : KubejojoLayout := ⟨[], []⟩

def append (a b : KubejojoLayout) : KubejojoLayout := ⟨a.nodes ++ b.nodes, a.edges ++ b.edges⟩

end KubejojoLayout

/-! ## Lines -/

def offsetPoint (point offset : ElkPoint) : ElkPoint := ⟨point.x + offset.x, point.y + offset.y⟩

def offsetSection (piece : ElkSection) (offset : ElkPoint) : ElkSection where
  startPoint := offsetPoint piece.startPoint offset
  endPoint := offsetPoint piece.endPoint offset
  bendPoints := piece.bendPoints.map fun point => offsetPoint point offset

structure RelationshipCurve where
  startPoint : ElkPoint
  controlPointA : ElkPoint
  controlPointB : ElkPoint
  endPoint : ElkPoint

def straightCurve (startPoint endPoint : ElkPoint) : RelationshipCurve :=
  let absDx := |endPoint.x - startPoint.x|
  let absDy := |endPoint.y - startPoint.y|
  let isVertical : Bool := decide (absDx * 2 < absDy)
  let horizontalWeight := if isVertical then min (absDx / 4) 32 else min (absDx / 3) 140
  let verticalSway := if isVertical then min (absDy * 12 / 100) 28 else 0
  { startPoint := startPoint
    controlPointA := ⟨startPoint.x + horizontalWeight, startPoint.y + verticalSway⟩
    controlPointB := ⟨endPoint.x - horizontalWeight, endPoint.y - verticalSway⟩
    endPoint := endPoint }

def toCurve (piece : ElkSection) (offset : ElkPoint) : RelationshipCurve :=
  let moved := offsetSection piece offset
  match moved.bendPoints with
  | first :: second :: _ => ⟨moved.startPoint, first, second, moved.endPoint⟩
  | [mid] =>
      let t : ℚ := 42 / 100 * (14 / 10)
      let start := moved.startPoint
      let finish := moved.endPoint
      { startPoint := start
        controlPointA := ⟨start.x + (mid.x - start.x) * t, start.y + (mid.y - start.y) * t⟩
        controlPointB := ⟨finish.x - (finish.x - mid.x) * t, finish.y - (finish.y - mid.y) * t⟩
        endPoint := finish }
  | [] => straightCurve moved.startPoint moved.endPoint

def bezierPathMidpoint (sections : List ElkSection) (offset : ElkPoint) : ElkPoint :=
  match sections with
  | [] => offset
  | piece :: _ =>
      let curve := toCurve piece offset
      let middle (a b c d : ℚ) : ℚ := a / 8 + b * 3 / 8 + c * 3 / 8 + d / 8
      { x := middle curve.startPoint.x curve.controlPointA.x curve.controlPointB.x curve.endPoint.x
        y := middle curve.startPoint.y curve.controlPointA.y curve.controlPointB.y curve.endPoint.y }

section Layout

variable (engine : LayoutEngine)

def visibleEdgeEndpoints (weightById : String → Option ℚ) (source target : String) :
    String × String :=
  orient weightById source target

def relationEdge (weightById : String → Option ℚ) (drawn : ContainerRelation)
    (sections : List ElkSection) : FlowEdge :=
  let ends := visibleEdgeEndpoints weightById drawn.source drawn.target
  { id := drawn.relation.id
    source := ends.1
    target := ends.2
    sections := sections
    relationIds := drawn.members.map (·.id)
    count := if drawn.members.length > 1 then some drawn.members.length else none
    role := drawn.relation.role
    semantics := getKubejojoRelationSemantics engine.toLowerCase drawn.relation
    labelPosition := bezierPathMidpoint sections ⟨0, 0⟩
    ports := drawn.relation.ports
    evidence := drawn.relation.evidence
    confidence := drawn.relation.confidence }

def emitEdges (weightById : String → Option ℚ) (node : KubejojoGraphNode)
    (edges : List ElkGraphEdge) (origin : ElkPoint) : List FlowEdge :=
  edges.filterMap fun elkEdge =>
    match drawnById (containerRelations engine.locale node) elkEdge.id with
    | some drawn =>
        if elkEdge.sections.isEmpty then none
        else some (relationEdge engine weightById drawn
          (elkEdge.sections.map fun piece => offsetSection piece origin))
    | none => none

def flowNode (node : KubejojoGraphNode) (laidOut : ElkBox) (placement : ElkPoint)
    (parentId : Option String) : FlowNode where
  id := node.id
  isGroup := isContainer node
  position := placement
  parentId := parentId
  width := laidOut.width.getD nodeWidth
  height := laidOut.height.getD nodeHeight
  graphNode := node

mutual

def emit (weightById : String → Option ℚ) : ElkGraph → KubejojoGraphNode → ElkPoint → ElkPoint →
    Option String → KubejojoLayout
  | ⟨box, children⟩, node, placement, origin, parentId =>
      let card := if node.id = "root" then [] else [flowNode node box placement parentId]
      if isContainer node then
        KubejojoLayout.append ⟨card, emitEdges engine weightById node box.edges origin⟩
          (emitChildren weightById children node origin)
      else ⟨card, []⟩

def emitChildren (weightById : String → Option ℚ) : List ElkGraph → KubejojoGraphNode →
    ElkPoint → KubejojoLayout
  | [], _, _ => .empty
  | ⟨box, inside⟩ :: rest, node, origin =>
      let others := emitChildren weightById rest node origin
      match node.nodes.find? fun item => item.id == box.id with
      | none => others
      | some child =>
          let placement : ElkPoint := ⟨box.x.getD 0, box.y.getD 0⟩
          (emit weightById ⟨box, inside⟩ child placement (offsetPoint origin placement)
            (if node.id = "root" then none else some node.id)).append others

end

def toKubejojoLayout (root : KubejojoGraphNode) (laidOut : ElkGraph) : KubejojoLayout :=
  emit engine (weightIn engine (eachKubejojo root)) laidOut root ⟨0, 0⟩ ⟨0, 0⟩ none

def layoutOf (root : KubejojoGraphNode) (ratio : ℚ) : KubejojoLayout :=
  toKubejojoLayout engine root (engine.layout (toElkGraph engine root) (engine.showNumber ratio))

end Layout

end KubeNova.Topology
