import KubeNova.Topology.KubejojoGraph
import KubeNova.Foundation.Grouping
import KubeNova.Foundation.PercentEncoding
import Mathlib.Data.List.Pairwise

/-!
# The relations drawn in a container

A relation between two leaves is drawn between the direct children of the container that they are
below, together with all relations of its kind between these two.
-/

namespace KubeNova.Topology

open KubeNova.Foundation

def containedIds (node : KubejojoGraphNode) : List String :=
  (leavesKubejojo node).map KubejojoGraphNode.id

def directChildId (node : KubejojoGraphNode) (leafId : String) : Option String :=
  if node.nodes.any fun child => child.id == leafId then some leafId
  else (node.nodes.find? fun child => (containedIds child).contains leafId).map
    KubejojoGraphNode.id

structure ProjectedRelation where
  relation : KubejojoRelation
  source : String
  target : String
  deriving DecidableEq

def ProjectedRelation.key (item : ProjectedRelation) : String :=
  item.source ++ "\x00" ++ item.target ++ "\x00" ++ item.relation.semantics

def projectRelation (node : KubejojoGraphNode) (relation : KubejojoRelation) :
    Option ProjectedRelation :=
  match directChildId node relation.source, directChildId node relation.target with
  | some source, some target =>
      if source = "" ∨ target = "" ∨ source = target then none else some ⟨relation, source, target⟩
  | _, _ => none

def projectedRelations (node : KubejojoGraphNode) : List ProjectedRelation :=
  let contained := containedIds node
  (node.item.edges.filter fun edge =>
    contained.contains edge.source && contained.contains edge.target).filterMap
      (projectRelation node)

structure ContainerRelation where
  relation : KubejojoRelation
  source : String
  target : String
  members : List KubejojoRelation
  deriving DecidableEq

def stackedId (key : String) : String := "stacked:" ++ Percent.encodeURIComponent key

def drawGroup (group : String × List ProjectedRelation) : Option ContainerRelation :=
  match group.2 with
  | [] => none
  | first :: rest => some
      { relation :=
          if rest.isEmpty then first.relation
          else { first.relation with id := stackedId group.1 }
        source := first.source
        target := first.target
        members := (first :: rest).map (·.relation) }

def idLe (locale : Update.Locale) (left right : ContainerRelation) : Prop :=
  locale.le left.relation.id right.relation.id

instance (locale : Update.Locale) : DecidableRel (idLe locale) :=
  fun _ _ => inferInstanceAs (Decidable (_ ≤ _))

def containerRelations (locale : Update.Locale) (node : KubejojoGraphNode) : List ContainerRelation :=
  ((groupsOf ProjectedRelation.key (projectedRelations node)).filterMap drawGroup).insertionSort
    (idLe locale)

/-- `new Map(relations.map((drawn) => [drawn.relation.id, drawn])).get(id)`: the last one counts. -/
def drawnById (drawn : List ContainerRelation) (id : String) : Option ContainerRelation :=
  drawn.reverse.find? fun item => item.relation.id == id

def DistinctIds (node : KubejojoGraphNode) : Prop :=
  ((eachOf node.nodes).map KubejojoGraphNode.id).Nodup

/-- The relation goes from a leaf below the one child to a leaf below the other. -/
def Crosses (relation : KubejojoRelation) (source target : KubejojoGraphNode) : Prop :=
  source.id ≠ target.id ∧ relation.source ∈ containedIds source ∧
    relation.target ∈ containedIds target

structure DrawsOnce (locale : Update.Locale) (node : KubejojoGraphNode) : Prop where
  once : ∀ relation ∈ node.item.edges, ∀ source ∈ node.nodes, ∀ target ∈ node.nodes,
    Crosses relation source target → ∃ drawn,
      (containerRelations locale node).filter (fun item => item.members.contains relation) =
          [drawn] ∧ drawn.source = source.id ∧ drawn.target = target.id
  others : ∀ relation ∈ node.item.edges,
    (∀ source ∈ node.nodes, ∀ target ∈ node.nodes, ¬Crosses relation source target) →
      ∀ drawn ∈ containerRelations locale node, relation ∉ drawn.members
  ids : ((containerRelations locale node).map (·.relation.id)).Nodup
  found : ∀ drawn ∈ containerRelations locale node,
    drawnById (containerRelations locale node) drawn.relation.id = some drawn

def Alone (node : KubejojoGraphNode) (item : ProjectedRelation) : Prop :=
  ((projectedRelations node).filter fun other => other.key = item.key).length = 1

/-- What is drawn can be told apart: by the ids of the children, by the keys of what is drawn
together, and by the ids of what is drawn. -/
structure ToldApart (node : KubejojoGraphNode) : Prop where
  named : ∀ relation ∈ node.item.edges, ∀ source ∈ node.nodes, ∀ target ∈ node.nodes,
    Crosses relation source target → source.id ≠ "" ∧ target.id ≠ ""
  keys : ∀ item ∈ projectedRelations node, ∀ other ∈ projectedRelations node,
    item.key = other.key → item.source = other.source ∧ item.target = other.target
  single : ∀ item ∈ projectedRelations node, ∀ other ∈ projectedRelations node,
    item.key ≠ other.key → Alone node item → Alone node other →
      item.relation.id ≠ other.relation.id
  stacked : ∀ item ∈ projectedRelations node, ∀ other ∈ projectedRelations node,
    item.key ≠ other.key → Alone node item → ¬Alone node other →
      item.relation.id ≠ stackedId other.key

section Children

variable {node child other : KubejojoGraphNode} {x leafId : String}

theorem eq_of_shared_id (h : DistinctIds node) (hchild : child ∈ node.nodes)
    (hother : other ∈ node.nodes) (hx : x ∈ (eachKubejojo child).map KubejojoGraphNode.id)
    (hx' : x ∈ (eachKubejojo other).map KubejojoGraphNode.id) : child = other := by
  rw [DistinctIds, eachOf_eq, List.map_flatMap, List.nodup_flatMap] at h
  by_contra hne
  have hsymm : Std.Symm (Function.onFun List.Disjoint fun a : KubejojoGraphNode =>
      (eachKubejojo a).map KubejojoGraphNode.id) :=
    ⟨fun _ _ hdisjoint _ hx hy => hdisjoint hy hx⟩
  exact (h.2.forall hchild hother hne) hx hx'

theorem mem_each_of_mem_contained (h : x ∈ containedIds child) :
    x ∈ (eachKubejojo child).map KubejojoGraphNode.id :=
  List.map_subset _ (leaves_subset_each child) h

theorem id_mem_each (child : KubejojoGraphNode) :
    child.id ∈ (eachKubejojo child).map KubejojoGraphNode.id := by
  rw [eachKubejojo_eq]
  exact List.mem_cons_self

theorem exists_child_of_contained (h : leafId ∈ containedIds node) (hnodes : node.nodes ≠ []) :
    ∃ child ∈ node.nodes, leafId ∈ containedIds child := by
  have hempty : node.nodes.isEmpty = false := by
    rw [List.isEmpty_eq_false_iff]
    exact hnodes
  rw [containedIds, leavesKubejojo_eq, hempty, if_neg (by decide), List.map_flatMap,
    List.mem_flatMap] at h
  exact h

theorem mem_contained_of_child (hchild : child ∈ node.nodes) (h : leafId ∈ containedIds child) :
    leafId ∈ containedIds node := by
  have hempty : node.nodes.isEmpty = false := by
    rw [List.isEmpty_eq_false_iff]
    exact List.ne_nil_of_mem hchild
  rw [containedIds, leavesKubejojo_eq, hempty, if_neg (by decide), List.map_flatMap,
    List.mem_flatMap]
  exact ⟨child, hchild, h⟩

theorem directChildId_eq_some (h : DistinctIds node) (hleaf : leafId ∈ containedIds node) :
    directChildId node leafId = some x ↔
      ∃ child ∈ node.nodes, child.id = x ∧ leafId ∈ containedIds child := by
  rw [directChildId]
  by_cases hdirect : (node.nodes.any fun child => child.id == leafId) = true
  · rw [if_pos hdirect, Option.some_inj]
    obtain ⟨child, hchild, hid⟩ := List.any_eq_true.mp hdirect
    rw [beq_iff_eq] at hid
    obtain ⟨owner, howner, hbelow⟩ := exists_child_of_contained hleaf (List.ne_nil_of_mem hchild)
    have hsame : child = owner := eq_of_shared_id h hchild howner (hid ▸ id_mem_each child)
      (mem_each_of_mem_contained hbelow)
    constructor
    · rintro rfl
      exact ⟨child, hchild, hid, hsame ▸ hbelow⟩
    · rintro ⟨other, hother, rfl, hbelow'⟩
      rw [← hid, eq_of_shared_id h hchild hother (hid ▸ id_mem_each child)
        (mem_each_of_mem_contained hbelow')]
  · rw [if_neg hdirect, Option.map_eq_some_iff]
    constructor
    · rintro ⟨child, hfind, rfl⟩
      have hbelow := List.find?_some hfind
      rw [List.contains_iff_mem] at hbelow
      exact ⟨child, List.mem_of_find?_eq_some hfind, rfl, hbelow⟩
    · rintro ⟨child, hchild, rfl, hbelow⟩
      cases hfind : node.nodes.find? fun child => (containedIds child).contains leafId with
      | none =>
          have hnone := List.find?_eq_none.mp hfind child hchild
          rw [List.contains_iff_mem] at hnone
          exact absurd hbelow hnone
      | some other =>
          have hbelow' := List.find?_some hfind
          rw [List.contains_iff_mem] at hbelow'
          have hsame := eq_of_shared_id h hchild (List.mem_of_find?_eq_some hfind)
            (mem_each_of_mem_contained hbelow) (mem_each_of_mem_contained hbelow')
          exact ⟨other, rfl, congrArg KubejojoGraphNode.id hsame.symm⟩

end Children

section Projected

variable {node source target : KubejojoGraphNode} {relation : KubejojoRelation}
  {item other : ProjectedRelation}

theorem projectRelation_eq_some : projectRelation node relation = some item ↔
    item.relation = relation ∧ directChildId node relation.source = some item.source ∧
      directChildId node relation.target = some item.target ∧ item.source ≠ "" ∧
      item.target ≠ "" ∧ item.source ≠ item.target := by
  rw [projectRelation]
  cases hsource : directChildId node relation.source with
  | none => simp
  | some source =>
      cases htarget : directChildId node relation.target with
      | none => simp
      | some target =>
          obtain ⟨r, s, t⟩ := item
          simp only [Option.some_inj]
          constructor
          · intro h
            split at h
            · cases h
            · rename_i hne
              rw [not_or, not_or] at hne
              cases h
              exact ⟨rfl, rfl, rfl, hne.1, hne.2.1, hne.2.2⟩
          · rintro ⟨rfl, rfl, rfl, hs, ht, hne⟩
            rw [if_neg (by simp [hs, ht, hne])]

theorem mem_projectedRelations (h : DistinctIds node) : item ∈ projectedRelations node ↔
    item.relation ∈ node.item.edges ∧ item.source ≠ "" ∧ item.target ≠ "" ∧
      ∃ source ∈ node.nodes, ∃ target ∈ node.nodes, Crosses item.relation source target ∧
        source.id = item.source ∧ target.id = item.target := by
  rw [projectedRelations, List.mem_filterMap]
  constructor
  · rintro ⟨relation, hrelation, hitem⟩
    obtain ⟨hedge, hcontained⟩ := List.mem_filter.mp hrelation
    rw [Bool.and_eq_true, List.contains_iff_mem, List.contains_iff_mem] at hcontained
    obtain ⟨rfl, hsource, htarget, hs, ht, hne⟩ := projectRelation_eq_some.mp hitem
    obtain ⟨source, hsourceMem, hsourceId, hbelow⟩ :=
      (directChildId_eq_some h hcontained.1).mp hsource
    obtain ⟨target, htargetMem, htargetId, hbelow'⟩ :=
      (directChildId_eq_some h hcontained.2).mp htarget
    rw [← hsourceId, ← htargetId] at hne
    exact ⟨hedge, hs, ht, source, hsourceMem, target, htargetMem, ⟨hne, hbelow, hbelow'⟩,
      hsourceId, htargetId⟩
  · rintro ⟨hedge, hs, ht, source, hsourceMem, target, htargetMem, ⟨hne, hbelow, hbelow'⟩,
      hsourceId, htargetId⟩
    have hcontained := mem_contained_of_child hsourceMem hbelow
    have hcontained' := mem_contained_of_child htargetMem hbelow'
    refine ⟨item.relation, List.mem_filter.mpr ⟨hedge, ?_⟩, ?_⟩
    · rw [Bool.and_eq_true, List.contains_iff_mem, List.contains_iff_mem]
      exact ⟨hcontained, hcontained'⟩
    · rw [hsourceId, htargetId] at hne
      exact projectRelation_eq_some.mpr ⟨rfl,
        (directChildId_eq_some h hcontained).mpr ⟨source, hsourceMem, hsourceId, hbelow⟩,
        (directChildId_eq_some h hcontained').mpr ⟨target, htargetMem, htargetId, hbelow'⟩,
        hs, ht, hne⟩

theorem eq_of_relation_eq (hitem : item ∈ projectedRelations node)
    (hother : other ∈ projectedRelations node) (h : item.relation = other.relation) :
    item = other := by
  obtain ⟨r, -, hr⟩ := List.mem_filterMap.mp hitem
  obtain ⟨r', -, hr'⟩ := List.mem_filterMap.mp hother
  have hsame : r = r' := by
    rw [← (projectRelation_eq_some.mp hr).1, ← (projectRelation_eq_some.mp hr').1, h]
  rw [hsame, hr'] at hr
  exact (Option.some.inj hr).symm

end Projected

section Drawn

variable {locale : Update.Locale} {node source target : KubejojoGraphNode}
  {relation : KubejojoRelation}
  {item other : ProjectedRelation} {drawn : ContainerRelation}

def together (node : KubejojoGraphNode) (key : String) : List ProjectedRelation :=
  (projectedRelations node).filter fun item => item.key = key

theorem mem_together {key : String} :
    item ∈ together node key ↔ item ∈ projectedRelations node ∧ item.key = key := by
  rw [together, List.mem_filter, decide_eq_true_eq]

theorem mem_containerRelations : drawn ∈ containerRelations locale node ↔
    ∃ item ∈ projectedRelations node,
      drawGroup (item.key, together node item.key) = some drawn := by
  rw [containerRelations, (List.perm_insertionSort _ _).mem_iff, List.mem_filterMap]
  constructor
  · rintro ⟨⟨key, members⟩, hgroup, hdrawn⟩
    obtain ⟨rfl, hne⟩ := mem_groupsOf_iff.mp hgroup
    obtain ⟨first, hfirst⟩ := List.exists_mem_of_ne_nil _ hne
    obtain ⟨hitem, hkey⟩ := List.mem_filter.mp hfirst
    refine ⟨first, hitem, ?_⟩
    rw [of_decide_eq_true hkey]
    exact hdrawn
  · rintro ⟨item, hitem, hdrawn⟩
    exact ⟨_, exists_mem_groupsOf hitem, hdrawn⟩

theorem drawGroup_eq_some {key : String} {group : List ProjectedRelation}
    (h : drawGroup (key, group) = some drawn) :
    drawn.members = group.map (·.relation) ∧
      ∃ first ∈ group, drawn.source = first.source ∧ drawn.target = first.target ∧
        drawn.relation.id = if group.length = 1 then first.relation.id else stackedId key := by
  cases group with
  | nil => cases h
  | cons first rest =>
      cases h
      refine ⟨rfl, first, List.mem_cons_self, rfl, rfl, ?_⟩
      cases rest with
      | nil => rfl
      | cons second rest =>
          rw [if_neg (by simp)]
          rfl

theorem exists_drawn (hitem : item ∈ projectedRelations node) :
    ∃ drawn ∈ containerRelations locale node,
      drawGroup (item.key, together node item.key) = some drawn := by
  have hmem : item ∈ together node item.key := mem_together.mpr ⟨hitem, rfl⟩
  cases hgroup : together node item.key with
  | nil =>
      rw [hgroup] at hmem
      cases hmem
  | cons first rest =>
      have hdrawn : ∃ drawn, drawGroup (item.key, together node item.key) = some drawn := by
        rw [hgroup]
        exact ⟨_, rfl⟩
      obtain ⟨drawn, hdrawn⟩ := hdrawn
      refine ⟨drawn, mem_containerRelations.mpr ⟨item, hitem, hdrawn⟩, ?_⟩
      rw [← hgroup]
      exact hdrawn

theorem mem_members
    (hdrawn : drawGroup (item.key, together node item.key) = some drawn)
    (hother : other ∈ projectedRelations node) :
    other.relation ∈ drawn.members ↔ other.key = item.key := by
  rw [(drawGroup_eq_some hdrawn).1, List.mem_map]
  constructor
  · rintro ⟨member, hmember, heq⟩
    obtain ⟨hmem, hkey⟩ := mem_together.mp hmember
    rw [← eq_of_relation_eq hmem hother heq]
    exact hkey
  · intro hkey
    exact ⟨other, mem_together.mpr ⟨hother, hkey⟩, rfl⟩

theorem exists_of_mem_members (hdrawn : drawn ∈ containerRelations locale node)
    (h : relation ∈ drawn.members) : ∃ item ∈ projectedRelations node, item.relation = relation ∧
      drawGroup (item.key, together node item.key) = some drawn := by
  obtain ⟨first, hfirst, hgroup⟩ := mem_containerRelations.mp hdrawn
  rw [(drawGroup_eq_some hgroup).1] at h
  obtain ⟨item, hitem, rfl⟩ := List.mem_map.mp h
  obtain ⟨hmem, hkey⟩ := mem_together.mp hitem
  refine ⟨item, hmem, rfl, ?_⟩
  rw [hkey]
  exact hgroup

theorem id_drawn (hitem : item ∈ projectedRelations node)
    (hdrawn : drawGroup (item.key, together node item.key) = some drawn) :
    (Alone node item → drawn.relation.id = item.relation.id) ∧
      (¬Alone node item → drawn.relation.id = stackedId item.key) := by
  obtain ⟨-, first, hfirst, -, -, hid⟩ := drawGroup_eq_some hdrawn
  constructor
  · intro halone
    have hlength : (together node item.key).length = 1 := halone
    obtain ⟨only, honly⟩ := List.length_eq_one_iff.mp hlength
    have hmem : item ∈ together node item.key := mem_together.mpr ⟨hitem, rfl⟩
    rw [honly, List.mem_singleton] at hfirst hmem
    rw [hid, if_pos hlength, hfirst, hmem]
  · intro halone
    have hlength : ¬(together node item.key).length = 1 := halone
    rw [hid, if_neg hlength]

end Drawn

end KubeNova.Topology
