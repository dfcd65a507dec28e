import KubeNova.Topology.ContainerRelations

/-!
# When every relation is drawn once

A container draws its relations rightly exactly where what is drawn can be told apart.
-/

namespace KubeNova.Topology

open KubeNova.Foundation

variable {locale : Update.Locale} {node source target : KubejojoGraphNode}
  {relation : KubejojoRelation}
  {item other : ProjectedRelation} {drawn : ContainerRelation}

theorem exists_projected (h : DistinctIds node) (hedge : relation ∈ node.item.edges)
    (hsource : source ∈ node.nodes) (htarget : target ∈ node.nodes)
    (hcrosses : Crosses relation source target) (hs : source.id ≠ "") (ht : target.id ≠ "") :
    (⟨relation, source.id, target.id⟩ : ProjectedRelation) ∈ projectedRelations node :=
  (mem_projectedRelations h).mpr
    ⟨hedge, hs, ht, source, hsource, target, htarget, hcrosses, rfl, rfl⟩

theorem ends_of_crosses (h : DistinctIds node) (hitem : item ∈ projectedRelations node)
    (hsource : source ∈ node.nodes) (htarget : target ∈ node.nodes)
    (hcrosses : Crosses item.relation source target) :
    item.source = source.id ∧ item.target = target.id := by
  obtain ⟨-, -, -, source', hsource', target', htarget', hcrosses', hs, ht⟩ :=
    (mem_projectedRelations h).mp hitem
  have hsame := eq_of_shared_id h hsource hsource' (mem_each_of_mem_contained hcrosses.2.1)
    (mem_each_of_mem_contained hcrosses'.2.1)
  have hsame' := eq_of_shared_id h htarget htarget' (mem_each_of_mem_contained hcrosses.2.2)
    (mem_each_of_mem_contained hcrosses'.2.2)
  rw [← hs, ← ht, hsame, hsame']
  exact ⟨rfl, rfl⟩

theorem DrawsOnce.ends (h : DistinctIds node) (honce : DrawsOnce locale node)
    (hitem : item ∈ projectedRelations node)
    (hdrawn : drawn ∈ containerRelations locale node) (hmember : item.relation ∈ drawn.members) :
    drawn.source = item.source ∧ drawn.target = item.target := by
  obtain ⟨hedge, -, -, source, hsource, target, htarget, hcrosses, hs, ht⟩ :=
    (mem_projectedRelations h).mp hitem
  obtain ⟨only, honly, hsource', htarget'⟩ :=
    honce.once item.relation hedge source hsource target htarget hcrosses
  have hmem : drawn ∈ (containerRelations locale node).filter
      fun drawn => drawn.members.contains item.relation :=
    List.mem_filter.mpr ⟨hdrawn, by rw [List.contains_iff_mem]; exact hmember⟩
  rw [honly, List.mem_singleton] at hmem
  rw [hmem, hsource', htarget']
  exact ⟨hs, ht⟩

theorem ne_of_drawn_ids (honce : DrawsOnce locale node) (hitem : item ∈ projectedRelations node)
    (hkey : item.key ≠ other.key)
    {drawn drawn' : ContainerRelation} (hdrawn : drawn ∈ containerRelations locale node)
    (hgroup : drawGroup (item.key, together node item.key) = some drawn)
    (hdrawn' : drawn' ∈ containerRelations locale node)
    (hgroup' : drawGroup (other.key, together node other.key) = some drawn') :
    drawn.relation.id ≠ drawn'.relation.id := by
  intro hid
  have hsame : drawn = drawn' := List.inj_on_of_nodup_map honce.ids hdrawn hdrawn' hid
  have hmember : item.relation ∈ drawn'.members := hsame ▸ (mem_members hgroup hitem).mpr rfl
  exact hkey ((mem_members hgroup' hitem).mp hmember)

theorem DrawsOnce.toldApart (h : DistinctIds node) (honce : DrawsOnce locale node) :
    ToldApart node where
  named := by
    intro relation hedge source hsource target htarget hcrosses
    obtain ⟨drawn, honly, -, -⟩ := honce.once relation hedge source hsource target htarget hcrosses
    have hmem : drawn ∈ (containerRelations locale node).filter
        fun drawn => drawn.members.contains relation := by
      rw [honly]
      exact List.mem_cons_self
    obtain ⟨hdrawn, hmember⟩ := List.mem_filter.mp hmem
    rw [List.contains_iff_mem] at hmember
    obtain ⟨item, hitem, rfl, -⟩ := exists_of_mem_members hdrawn hmember
    obtain ⟨-, hs, ht, -⟩ := (mem_projectedRelations h).mp hitem
    obtain ⟨hs', ht'⟩ := ends_of_crosses h hitem hsource htarget hcrosses
    rw [← hs', ← ht']
    exact ⟨hs, ht⟩
  keys := by
    intro item hitem other hother hkey
    obtain ⟨drawn, hdrawn, hgroup⟩ := @exists_drawn locale _ _ hitem
    have hends := honce.ends h hitem hdrawn ((mem_members hgroup hitem).mpr rfl)
    have hends' := honce.ends h hother hdrawn ((mem_members hgroup hother).mpr hkey.symm)
    exact ⟨hends.1.symm.trans hends'.1, hends.2.symm.trans hends'.2⟩
  single := by
    intro item hitem other hother hkey halone halone'
    obtain ⟨drawn, hdrawn, hgroup⟩ := @exists_drawn locale _ _ hitem
    obtain ⟨drawn', hdrawn', hgroup'⟩ := @exists_drawn locale _ _ hother
    have hne := ne_of_drawn_ids honce hitem hkey hdrawn hgroup hdrawn' hgroup'
    rw [(id_drawn hitem hgroup).1 halone, (id_drawn hother hgroup').1 halone'] at hne
    exact hne
  stacked := by
    intro item hitem other hother hkey halone halone'
    obtain ⟨drawn, hdrawn, hgroup⟩ := @exists_drawn locale _ _ hitem
    obtain ⟨drawn', hdrawn', hgroup'⟩ := @exists_drawn locale _ _ hother
    have hne := ne_of_drawn_ids honce hitem hkey hdrawn hgroup hdrawn' hgroup'
    rw [(id_drawn hitem hgroup).1 halone, (id_drawn hother hgroup').2 halone'] at hne
    exact hne

theorem ToldApart.ids_ne (h : ToldApart node) (hitem : item ∈ projectedRelations node)
    (hother : other ∈ projectedRelations node) (hkey : item.key ≠ other.key)
    {drawn drawn' : ContainerRelation}
    (hgroup : drawGroup (item.key, together node item.key) = some drawn)
    (hgroup' : drawGroup (other.key, together node other.key) = some drawn') :
    drawn.relation.id ≠ drawn'.relation.id := by
  by_cases halone : Alone node item
  · rw [(id_drawn hitem hgroup).1 halone]
    by_cases halone' : Alone node other
    · rw [(id_drawn hother hgroup').1 halone']
      exact h.single item hitem other hother hkey halone halone'
    · rw [(id_drawn hother hgroup').2 halone']
      exact h.stacked item hitem other hother hkey halone halone'
  · rw [(id_drawn hitem hgroup).2 halone]
    by_cases halone' : Alone node other
    · rw [(id_drawn hother hgroup').1 halone']
      exact (h.stacked other hother item hitem (Ne.symm hkey) halone' halone).symm
    · rw [(id_drawn hother hgroup').2 halone', stackedId, stackedId]
      intro heq
      have hencoded : Percent.encodeURIComponent item.key = Percent.encodeURIComponent other.key :=
        String.append_right_inj _ |>.mp heq
      exact hkey (Percent.encodeURIComponent_injective hencoded)

theorem ToldApart.nodup_ids (h : ToldApart node) :
    ((containerRelations locale node).map (·.relation.id)).Nodup := by
  have hperm : ((containerRelations locale node).map (·.relation.id)).Perm
      (((groupsOf ProjectedRelation.key (projectedRelations node)).filterMap drawGroup).map
        (·.relation.id)) := (List.perm_insertionSort _ _).map _
  rw [hperm.nodup_iff, List.Nodup, List.pairwise_map, List.pairwise_filterMap]
  have hkeys : (groupsOf ProjectedRelation.key (projectedRelations node)).Pairwise
      fun group group' => group.1 ≠ group'.1 := List.pairwise_map.mp nodup_keys_groupsOf
  apply hkeys.imp_of_mem
  intro group group' hgroup hgroup' hne drawn hdrawn drawn' hdrawn'
  obtain ⟨key, members⟩ := group
  obtain ⟨key', members'⟩ := group'
  obtain ⟨rfl, hnonempty⟩ := mem_groupsOf_iff.mp hgroup
  obtain ⟨rfl, hnonempty'⟩ := mem_groupsOf_iff.mp hgroup'
  obtain ⟨item, hitem⟩ := List.exists_mem_of_ne_nil _ hnonempty
  obtain ⟨other, hother⟩ := List.exists_mem_of_ne_nil _ hnonempty'
  obtain ⟨hmem, rfl⟩ := mem_together.mp hitem
  obtain ⟨hmem', rfl⟩ := mem_together.mp hother
  exact h.ids_ne hmem hmem' hne hdrawn hdrawn'

theorem drawnById_eq_some {l : List ContainerRelation} (h : (l.map (·.relation.id)).Nodup)
    (hdrawn : drawn ∈ l) : drawnById l drawn.relation.id = some drawn := by
  rw [drawnById]
  cases hfind : l.reverse.find? fun item => item.relation.id == drawn.relation.id with
  | none =>
      have hnone := List.find?_eq_none.mp hfind drawn (List.mem_reverse.mpr hdrawn)
      exact absurd (beq_self_eq_true _) hnone
  | some other =>
      have hid := List.find?_some hfind
      rw [beq_iff_eq] at hid
      have hother := List.mem_reverse.mp (List.mem_of_find?_eq_some hfind)
      rw [List.inj_on_of_nodup_map h hother hdrawn hid]

theorem ToldApart.drawsOnce (h : DistinctIds node) (hapart : ToldApart node) :
    DrawsOnce locale node where
  once := by
    intro relation hedge source hsource target htarget hcrosses
    obtain ⟨hs, ht⟩ := hapart.named relation hedge source hsource target htarget hcrosses
    have hitem := exists_projected h hedge hsource htarget hcrosses hs ht
    obtain ⟨drawn, hdrawn, hgroup⟩ := @exists_drawn locale _ _ hitem
    have hends : drawn.source = source.id ∧ drawn.target = target.id := by
      obtain ⟨-, first, hfirst, hs', ht', -⟩ := drawGroup_eq_some hgroup
      obtain ⟨hmem, hkey⟩ := mem_together.mp hfirst
      have hsame := hapart.keys first hmem _ hitem hkey
      rw [hs', ht']
      exact hsame
    refine ⟨drawn, ?_, hends⟩
    have honly : ∀ other ∈ (containerRelations locale node).filter
        (fun item => item.members.contains relation), other = drawn := by
      intro other hother
      obtain ⟨hother, hmember⟩ := List.mem_filter.mp hother
      rw [List.contains_iff_mem] at hmember
      obtain ⟨item, hitem', hrelation, hgroup'⟩ := exists_of_mem_members hother hmember
      rw [eq_of_relation_eq hitem' hitem hrelation, hgroup] at hgroup'
      exact (Option.some.inj hgroup').symm
    have hmem : drawn ∈ (containerRelations locale node).filter
        (fun item => item.members.contains relation) := by
      refine List.mem_filter.mpr ⟨hdrawn, ?_⟩
      rw [List.contains_iff_mem]
      exact (mem_members hgroup hitem).mpr rfl
    have hnodup : ((containerRelations locale node).filter
        (fun item => item.members.contains relation)).Nodup :=
      (hapart.nodup_ids.of_map _).filter _
    rw [List.eq_replicate_of_mem honly] at hnodup hmem ⊢
    rw [List.nodup_replicate] at hnodup
    have hpos : 0 < ((containerRelations locale node).filter
        (fun item => item.members.contains relation)).length := by
      rw [List.length_pos_iff]
      rintro hnil
      rw [hnil] at hmem
      cases hmem
    have hone : ((containerRelations locale node).filter
        (fun item => item.members.contains relation)).length = 1 := by omega
    rw [hone]
    rfl
  others := by
    intro relation hedge hcrosses drawn hdrawn hmember
    obtain ⟨item, hitem, rfl, -⟩ := exists_of_mem_members hdrawn hmember
    obtain ⟨-, -, -, source, hsource, target, htarget, hcross, -⟩ :=
      (mem_projectedRelations h).mp hitem
    exact hcrosses source hsource target htarget hcross
  ids := hapart.nodup_ids
  found := fun _ hdrawn => drawnById_eq_some hapart.nodup_ids hdrawn

/-- A container whose nodes have distinct ids draws its relations once exactly where what it draws
can be told apart. -/
theorem drawsOnce_iff (locale : Update.Locale) (node : KubejojoGraphNode) (h : DistinctIds node) :
    DrawsOnce locale node ↔ ToldApart node :=
  ⟨DrawsOnce.toldApart h, ToldApart.drawsOnce h⟩

def resourcesWith (ids : List String) (edges : List KubejojoRelation) : KubejojoGraphNode where
  item := { id := "root", edges := edges }
  nodes := ids.map fun id => ⟨{ id := id }, []⟩

def characterLocale : Update.Locale := Update.foldLocale id

theorem draws_owner :
    DrawsOnce characterLocale (resourcesWith ["rs", "pod"]
      [{ id := "owner", source := "rs", target := "pod", type := some .owns }]) := by
  have hdistinct : DistinctIds (resourcesWith ["rs", "pod"]
      [{ id := "owner", source := "rs", target := "pod", type := some .owns }]) := by
    show List.Nodup _
    decide
  refine (drawsOnce_iff characterLocale _ hdistinct).mpr ⟨?_, ?_, ?_, ?_⟩
  · intro relation _ source hsource target htarget _
    rcases List.mem_pair.mp hsource with rfl | rfl <;>
      rcases List.mem_pair.mp htarget with rfl | rfl <;> decide
  · decide
  · intro item hitem other hother hkey
    rw [List.mem_singleton.mp hitem, List.mem_singleton.mp hother] at hkey
    exact absurd rfl hkey
  · intro item hitem other hother hkey
    rw [List.mem_singleton.mp hitem, List.mem_singleton.mp hother] at hkey
    exact absurd rfl hkey

theorem draws_lost :
    (DistinctIds (resourcesWith ["a", "b", "c"]
        [{ id := "e", source := "a", target := "b" }, { id := "e", source := "b", target := "c" }]) ∧
      ¬DrawsOnce characterLocale (resourcesWith ["a", "b", "c"]
        [{ id := "e", source := "a", target := "b" }, { id := "e", source := "b", target := "c" }])) ∧
    DistinctIds (resourcesWith ["a", ""] [{ id := "e", source := "a", target := "" }]) ∧
      ¬DrawsOnce characterLocale (resourcesWith ["a", ""] [{ id := "e", source := "a", target := "" }])
    := by
  have hpairs : DistinctIds (resourcesWith ["a", "b", "c"]
      [{ id := "e", source := "a", target := "b" }, { id := "e", source := "b", target := "c" }]) := by
    show List.Nodup _
    decide
  have hunnamed : DistinctIds (resourcesWith ["a", ""]
      [{ id := "e", source := "a", target := "" }]) := by
    show List.Nodup _
    decide
  refine ⟨⟨hpairs, ?_⟩, hunnamed, ?_⟩
  · intro honce
    have hapart := honce.toldApart hpairs
    exact hapart.single ⟨{ id := "e", source := "a", target := "b" }, "a", "b"⟩ (by decide)
      ⟨{ id := "e", source := "b", target := "c" }, "b", "c"⟩ (by decide) (by decide)
      (show _ = 1 by decide) (show _ = 1 by decide) rfl
  · intro honce
    have hapart := honce.toldApart hunnamed
    exact (hapart.named { id := "e", source := "a", target := "" } List.mem_cons_self
      ⟨{ id := "a" }, []⟩ List.mem_cons_self ⟨{ id := "" }, []⟩
      (List.mem_cons_of_mem _ List.mem_cons_self)
      ⟨by decide, List.mem_cons_self, List.mem_cons_self⟩).2 rfl

end KubeNova.Topology
