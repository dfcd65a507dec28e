import KubeNova.Update.Deployments
import KubeNova.Update.TaskQueueSafety

/-!
# The image update is atomic

What every call does to the images is said once, for a world in which others
change anything but the containers; the loops over the components then follow
from what one component's update does.  A second contract lets others change
everything, and says that no patch overwrites their images.
-/

namespace KubeNova.Update

open KubeNova.Common KubeNova.Foundation Function

variable {C : Contract World} {quiet : World → World → Prop} {p I : World → Prop}

/-- The assertion is kept by the environment, by the statements `quiet` of the
progress callback and by reading a Deployment, and all of these are allowed. -/
structure Keeps (C : Contract World) (quiet : World → World → Prop) (p : World → Prop) : Prop where
  stable : Stable C p
  report : ∀ s t, p s → quiet s t → p t
  see : ∀ s c image, p s → p (s.see c image)
  guar_report : ∀ s t, quiet s t → C.guar s t
  guar_see : ∀ s c image, C.guar s (s.see c image)

/-- The progress callback keeps what its statements `quiet` keep. -/
def Reports (C : Contract World) (quiet : World → World → Prop)
    (onProgress : String → Nat → String → WorkerHandler Unit) : Prop :=
  ∀ phase percent message p, Keeps C quiet p →
    Triple C p (onProgress phase percent message) fun _ => p

theorem Keeps.and {p' : World → Prop} (hp : Keeps C quiet p) (hp' : Keeps C quiet p') :
    Keeps C quiet fun s => p s ∧ p' s where
  stable := hp.stable.and hp'.stable
  report s t hs hquiet := ⟨hp.report s t hs.1 hquiet, hp'.report s t hs.2 hquiet⟩
  see s c image hs := ⟨hp.see s c image hs.1, hp'.see s c image hs.2⟩
  guar_report := hp.guar_report
  guar_see := hp.guar_see

theorem triple_read (hp : Keeps C quiet p) (c : KubernetesComponent) :
    Triple C p (readNamespacedDeployment c) fun _ => p := by
  refine .exec_ofExcept hp.stable (fun s hs _ => ?_) fun _ => hp.stable
  cases s.outside.failure with
  | none => exact ⟨hp.guar_see s c _, hp.see s c _ hs⟩
  | some message => exact ⟨C.refl s, hs⟩

theorem triple_waitLoop (hp : Keeps C quiet p) {c : KubernetesComponent} {image : String}
    {onWaiting : Nat → WorkerHandler Nat} (hwaiting : ∀ last, Triple C p (onWaiting last) fun _ => p)
    (polls last : Nat) : Triple C p (waitLoop c image onWaiting polls last) fun _ => p := by
  induction polls generalizing last with
  | zero => exact .fail hp.stable fun _ hs => hs
  | succ polls ih =>
      refine .bind (triple_read hp c) (fun d => ?_) fun _ _ hs => hs
      refine .ofExcept_bind hp.stable (fun current _ => ?_) fun _ _ _ hs => hs
      refine .ensure_bind hp.stable (fun _ => ?_) fun _ hs => hs
      refine .ite (fun _ => .done hp.stable fun _ hs => hs) fun _ => ?_
      refine .ensure_bind hp.stable (fun _ => ?_) fun _ hs => hs
      exact .bind (hwaiting last) (fun last => ih last) fun _ _ hs => hs

theorem triple_waitForDeployment (hp : Keeps C quiet p) {c : KubernetesComponent} {image : String}
    {onWaiting : Nat → WorkerHandler Nat} (hwaiting : ∀ last, Triple C p (onWaiting last) fun _ => p)
    (last : Nat) : Triple C p (waitForDeployment c image onWaiting last) fun _ => p :=
  .query_bind hp.stable fun s hs _ => triple_waitLoop hp hwaiting _ last s hs

def adapterUpdate (targetImages : Images)
    (onProgress : String → Nat → String → WorkerHandler Unit) : ImageUpdate where
  readDeployment := readNamespacedDeployment
  patchImage := patchImage
  waitForReady := waitForDeployment
  targetImages := targetImages
  onProgress := onProgress

variable {target : Images} {onProgress : String → Nat → String → WorkerHandler Unit}

theorem triple_reportWaiting (hp : Keeps C quiet p) (hprogress : Reports C quiet onProgress)
    (percent : Nat) (message : String) (last : Nat) :
    Triple C p ((adapterUpdate target onProgress).reportWaiting percent message last)
      fun _ => p := by
  refine .query_bind hp.stable fun s hs _ => ?_
  have hreport : Triple C p (if last + 10000 ≤ s.queue.now then do
      onProgress "health-check" percent message
      return s.queue.now
    else return last : WorkerHandler Nat) fun _ => p :=
    .ite (fun _ => .bind (hprogress _ _ _ p hp) (fun _ => .done hp.stable fun _ hs => hs)
      fun _ _ hs => hs) fun _ => .done hp.stable fun _ hs => hs
  exact hreport s hs

theorem triple_wait (hp : Keeps C quiet p) (hprogress : Reports C quiet onProgress)
    (c : KubernetesComponent) (image : String) (percent : Nat) (message : String) :
    Triple C p (do
      let lastHeartbeat ← Async.query (·.queue.now)
      waitForDeployment c image
        ((adapterUpdate target onProgress).reportWaiting percent message) lastHeartbeat)
      fun _ => p :=
  .query_bind hp.stable fun s hs _ =>
    triple_waitForDeployment hp (triple_reportWaiting hp hprogress percent message) _ s hs

/-- Reading the images: the assertion is kept, and what the answer says about the
images was true when they were read. -/
theorem triple_readPrevious {before : KubernetesComponent → Option String}
    (hp : Keeps C quiet p) (hbefore : ∀ s, p s → s.image = before)
    (cs : List KubernetesComponent) (previous : Images) :
    Triple C p ((adapterUpdate target onProgress).readPrevious cs previous) fun r s =>
      p s ∧ ∀ images, r = .ok images →
        ∀ c, if c ∈ cs then before c = some (images c) else images c = previous c := by
  induction cs generalizing previous with
  | nil =>
      refine .done hp.stable fun s hs => ⟨hs, fun images himages c => ?_⟩
      obtain rfl := Except.ok.inj himages
      simp
  | cons c cs ih =>
      refine .ensure_bind hp.stable (fun _ => ?_) fun s hs => ⟨hs, by simp⟩
      have hread : Triple C p (readNamespacedDeployment c) fun r s =>
          p s ∧ ∀ d, r = .ok d → currentImage c d = before c := by
        refine .exec_ofExcept hp.stable (fun s hs _ => ?_)
          fun _ => hp.stable.and fun _ _ h _ => h
        cases s.outside.failure with
        | none =>
            refine ⟨hp.guar_see s c _, hp.see s c _ hs, fun d hd => ?_⟩
            obtain rfl := Except.ok.inj hd
            exact congrFun (hbefore s hs) c
        | some message => exact ⟨C.refl s, hs, by simp⟩
      refine .bind hread (fun d => ?_) fun e s hs => ⟨hs.1, by simp⟩
      have hstable : Stable C fun s => p s ∧ ∀ d', (Except.ok d : Except Exception Deployment) = .ok d' →
          currentImage c d' = before c := hp.stable.and fun _ _ h _ => h
      refine .ofExcept_bind hstable (fun _ _ => ?_) fun e _ s hs => ⟨hs.1, by simp⟩
      refine .ofExcept_bind hstable (fun image himage => ?_) fun e _ s hs => ⟨hs.1, by simp⟩
      intro s hs
      refine (ih (update previous c image) s hs.1).mono fun r t ht => ⟨ht.1, fun images hr k => ?_⟩
      have hk := ht.2 images hr k
      by_cases hmem : k ∈ cs
      · simp only [hmem, List.mem_cons, or_true, if_true] at hk ⊢
        exact hk
      · simp only [hmem, if_false] at hk
        by_cases hkc : k = c
        · subst hkc
          rw [if_pos (by simp)]
          rw [← hs.2 d rfl, hk, update_self]
          unfold deploymentImage at himage
          split at himage
          · rename_i current hcurrent
            obtain rfl := Except.ok.inj himage
            exact (Option.filter_eq_some_iff.mp hcurrent).1
          · simp at himage
        · rw [if_neg (by simp [hkc, hmem]), hk, update_of_ne hkc]

/-! ## What a patch does to the images -/

theorem find?_modify_findIdx? {α : Type} {q : α → Bool} {f : α → α} (hf : ∀ x, q (f x) = q x)
    {l : List α} {i : Nat} (h : l.findIdx? q = some i) :
    ∃ x, l.find? q = some x ∧ (l.modify i f).find? q = some (f x) := by
  induction l generalizing i with
  | nil => simp at h
  | cons x l ih =>
      by_cases hx : q x = true
      · obtain rfl : 0 = i := by simpa [List.findIdx?_cons, hx] using h
        exact ⟨x, by simp [hx], by simp [hf, hx]⟩
      · rw [List.findIdx?_cons, if_neg hx] at h
        obtain ⟨j, hj, rfl⟩ := Option.map_eq_some_iff.mp h
        obtain ⟨y, hy, hmod⟩ := ih hj
        exact ⟨y, by simp [hx, hy], by simp [hx, hmod]⟩

theorem currentImage_setImage {c : KubernetesComponent} {d : Deployment} {index : Nat}
    (h : d.containers.findIdx? (isContainerOf c) = some index) (image : String) :
    currentImage c (d.setImage index image) = some image := by
  obtain ⟨x, -, hx⟩ := find?_modify_findIdx? (q := isContainerOf c)
    (f := fun x : Container => { x with image := some image }) (fun _ => rfl) h
  simp only [currentImage, Deployment.setImage, hx, Option.bind_some]

theorem servePatch_cases {s : World} {c : KubernetesComponent} {patch : ImagePatch}
    (expected : String)
    (h : (s.deployments c).containers.findIdx? (isContainerOf c) = some patch.index) :
    (s.servePatch c patch expected).2.image = update s.image c (some patch.image) ∨
      ((∃ e, (s.servePatch c patch expected).1 = .error e) ∧
        (s.servePatch c patch expected).2 = s) := by
  unfold World.servePatch
  by_cases hpass : patch.passes (s.deployments c) = true
  · refine .inl ?_
    simp only [hpass, if_true]
    funext k
    by_cases hk : k = c
    · subst hk
      simp only [World.image, update_self]
      exact currentImage_setImage h patch.image
    · simp only [World.image, update_of_ne hk]
  · refine .inr ?_
    rw [if_neg hpass]
    exact ⟨⟨_, rfl⟩, rfl⟩

/-- Others leave the containers alone, and `I` does not depend on what patches change. -/
structure Calm (C : Contract World) (quiet : World → World → Prop) (I : World → Prop) : Prop where
  keeps : Keeps C quiet I
  env : ∀ s t, C.env s t → ∀ c, (t.deployments c).containers = (s.deployments c).containers
  report : ∀ s t, quiet s t → t.deployments = s.deployments
  patch : ∀ s c patch expected, I s → I (s.servePatch c patch expected).2
  guar_patch : ∀ s c patch expected, I s → C.guar s (s.servePatch c patch expected).2

theorem image_eq_of_containers {s t : World}
    (h : ∀ c, (t.deployments c).containers = (s.deployments c).containers) : t.image = s.image := by
  funext c
  simp only [World.image, currentImage, h c]

namespace Calm

theorem keeps_image (h : Calm C quiet I) (P : (KubernetesComponent → Option String) → Prop) :
    Keeps C quiet fun s => P s.image ∧ I s := by
  refine ⟨fun s t hs hmove => ?_, fun s t hs hquiet => ?_, fun s c image hs => ?_,
    h.keeps.guar_report, h.keeps.guar_see⟩
  · rw [image_eq_of_containers (h.env s t hmove)]
    exact ⟨hs.1, h.keeps.stable s t hs.2 hmove⟩
  · have himage : t.image = s.image := image_eq_of_containers fun c => by rw [h.report s t hquiet]
    rw [himage]
    exact ⟨hs.1, h.keeps.report s t hs.2 hquiet⟩
  · exact ⟨hs.1, h.keeps.see s c image hs.2⟩

def Sets {α : Type} (I : World → Prop) (images : KubernetesComponent → Option String)
    (c : KubernetesComponent) (image : String) (r : Except Exception α) (s : World) : Prop :=
  (s.image = update images c (some image) ∨ (s.image = images ∧ ∃ e, r = .error e)) ∧ I s

theorem stable_sets {α : Type} (h : Calm C quiet I) (images : KubernetesComponent → Option String)
    (c : KubernetesComponent) (image : String) (r : Except Exception α) :
    Stable C (Sets I images c image r) :=
  (h.keeps_image fun current => current = update images c (some image) ∨
    (current = images ∧ ∃ e, r = .error e)).stable

variable (h : Calm C quiet I) (images : KubernetesComponent → Option String)
include h

theorem triple_patchNamespacedDeployment {c : KubernetesComponent} {patch : ImagePatch}
    (expected : String) (containers : List Container)
    (hindex : containers.findIdx? (isContainerOf c) = some patch.index) :
    Triple C (fun s => (s.deployments c).containers = containers ∧ s.image = images ∧ I s)
      (patchNamespacedDeployment c patch expected) (Sets I images c patch.image) := by
  have hstable : Stable C fun s =>
      (s.deployments c).containers = containers ∧ s.image = images ∧ I s := by
    refine Stable.and (fun s t hs hmove => ?_) (h.keeps_image (· = images)).stable
    rw [h.env s t hmove c]
    exact hs
  refine .exec_ofExcept hstable (fun s hs _ => ?_) fun r => h.stable_sets images c patch.image r
  obtain ⟨hcontainers, himage, hI⟩ := hs
  have hserve := servePatch_cases (s := s) expected (hcontainers ▸ hindex)
  rw [himage] at hserve
  have hIserve := h.patch s c patch expected hI
  cases s.outside.failure with
  | none =>
      refine ⟨h.guar_patch s c patch expected hI, ?_, hIserve⟩
      rcases hserve with hset | ⟨hfail, hsame⟩
      · exact .inl hset
      · exact .inr ⟨by rw [hsame, himage], hfail⟩
  | some message =>
      by_cases happlied : s.outside.applied = true
      · simp only [happlied, if_true]
        refine ⟨h.guar_patch s c patch expected hI, ?_, hIserve⟩
        rcases hserve with hset | ⟨_, hsame⟩
        · exact .inl hset
        · exact .inr ⟨by rw [hsame, himage], _, rfl⟩
      · simp only [happlied, Bool.false_eq_true, if_false]
        exact ⟨C.refl s, .inr ⟨himage, _, rfl⟩, hI⟩

theorem triple_patchImage (c : KubernetesComponent) (image expected : String) :
    Triple C (fun s => s.image = images ∧ I s) (patchImage c image expected)
      (Sets I images c image) := by
  have hkeeps := h.keeps_image (· = images)
  -- The containers that were read are still there when the patch arrives.
  have hread : Triple C (fun s => s.image = images ∧ I s) (readNamespacedDeployment c) fun r s =>
      (∀ d, r = .ok d → (s.deployments c).containers = d.containers) ∧ s.image = images ∧ I s := by
    refine .exec_ofExcept hkeeps.stable (fun s hs _ => ?_) fun r => ?_
    · cases s.outside.failure with
      | none =>
          refine ⟨hkeeps.guar_see s c _, fun d hd => ?_, hkeeps.see s c _ hs⟩
          obtain rfl := Except.ok.inj hd
          rfl
      | some message => exact ⟨C.refl s, by simp, hs⟩
    · refine Stable.and (fun s t hs hmove d hd => ?_) hkeeps.stable
      rw [h.env s t hmove c]
      exact hs d hd
  have herror : ∀ (e : Exception) (s : World), s.image = images ∧ I s →
      Sets I images c image (.error e : Except Exception Unit) s :=
    fun e s hs => ⟨.inr ⟨hs.1, e, rfl⟩, hs.2⟩
  refine .bind hread (fun d => ?_) fun e s hs => herror e s hs.2
  refine .conseq (q := fun s => (s.deployments c).containers = d.containers ∧ s.image = images ∧ I s)
    ?_ (fun s hs => ⟨hs.1 d rfl, hs.2⟩) fun _ _ hs => hs
  have hstable : Stable C fun s =>
      (s.deployments c).containers = d.containers ∧ s.image = images ∧ I s := by
    refine Stable.and (fun s t hs hmove => ?_) hkeeps.stable
    rw [h.env s t hmove c]
    exact hs
  refine .ensure_bind hstable (fun _ => ?_) fun s hs => herror _ s hs.2
  cases hindex : d.containers.findIdx? (isContainerOf c) with
  | none => exact .fail hstable fun s hs => herror _ s hs.2
  | some index =>
      refine .ite (fun hcurrent => .done hstable fun s hs => ?_) fun _ => ?_
      · -- The image is there already, so the images are as after a patch.
        have hold : images c = some image := by
          rw [← hs.2.1, ← hcurrent]
          simp only [World.image, currentImage, hs.1]
        refine ⟨.inl ?_, hs.2.2⟩
        rw [← hold, update_eq_self]
        exact hs.2.1
      · refine .ensure_bind hstable (fun _ => ?_) fun s hs => herror _ s hs.2
        exact h.triple_patchNamespacedDeployment images expected d.containers hindex

theorem triple_patchAndWait {report wait : WorkerHandler Unit}
    (hreport : ∀ p, Keeps C quiet p → Triple C p report fun _ => p)
    (hwait : ∀ p, Keeps C quiet p → Triple C p wait fun _ => p)
    (c : KubernetesComponent) (image expected : String) :
    Triple C (fun s => s.image = images ∧ I s)
      (report >>= fun _ => patchImage c image expected >>= fun _ => wait)
      (Sets I images c image) := by
  refine .bind (hreport _ (h.keeps_image (· = images))) (fun _ => ?_)
    fun e s hs => ⟨.inr ⟨hs.1, e, rfl⟩, hs.2⟩
  refine .bind (h.triple_patchImage images c image expected) (fun _ => ?_) fun e s hs => ?_
  · refine .conseq (hwait _ (h.keeps_image (· = update images c (some image)))) (fun s hs => ?_)
      fun _ s hs => ⟨.inl hs.1, hs.2⟩
    rcases hs.1 with hset | ⟨_, e, he⟩
    · exact ⟨hset, hs.2⟩
    · simp at he
  · exact hs

variable (hprogress : Reports C quiet onProgress)
include hprogress

theorem triple_updateComponent (index : Nat) (c : KubernetesComponent) (previous : String) :
    Triple C (fun s => s.image = images ∧ I s)
      ((adapterUpdate target onProgress).updateComponent index c previous)
      (Sets I images c (target c)) :=
  h.triple_patchAndWait images (fun p hp => hprogress _ _ _ p hp)
    (fun p hp => .bind (hprogress _ _ _ p hp) (fun _ => triple_wait hp hprogress _ _ _ _)
      fun _ _ hs => hs) c (target c) previous

theorem triple_restoreComponent (entry : Change) :
    Triple C (fun s => s.image = images ∧ I s)
      ((adapterUpdate target onProgress).restoreComponent entry)
      (Sets I images entry.component entry.previous) :=
  h.triple_patchAndWait images (fun p hp => hprogress _ _ _ p hp)
    (fun _ hp => triple_wait hp hprogress _ _ _ _) entry.component entry.previous entry.target

end Calm

def Tracked (previous : Images) (changed : List Change)
    (images : KubernetesComponent → Option String) : Prop :=
  ∀ c, images c = some (previous c) ∨ ∃ entry ∈ changed, entry.component = c

def Restorable (previous : Images) (changed : List Change) : Prop :=
  ∀ entry ∈ changed, entry.previous = previous entry.component

/-- The images while the components `rest` are still to be updated. -/
structure RolledTo (previous target : Images) (rest : List (Nat × KubernetesComponent))
    (images : KubernetesComponent → Option String) : Prop where
  pending : ∀ x ∈ rest, images x.2 = some (previous x.2)
  updated : ∀ c, (∀ x ∈ rest, x.2 ≠ c) → images c = some (target c)

namespace Calm

variable (h : Calm C quiet I) (hprogress : Reports C quiet onProgress) {previous : Images}
include h hprogress

/-- The update loop ends with the target everywhere, or with an error and a list of
changes from which the previous images can be restored. -/
theorem triple_rollOut (rest : List (Nat × KubernetesComponent)) (changed : List Change)
    (hnodup : (rest.map Prod.snd).Nodup) (hchanged : Restorable previous changed) :
    Triple C (fun s => (RolledTo previous target rest s.image ∧ Tracked previous changed s.image) ∧ I s)
      ((adapterUpdate target onProgress).rollOut previous rest changed) fun r s =>
        (∃ changed', (r = .ok (none, changed') ∧ ∀ c, s.image c = some (target c)) ∨
          ∃ e, r = .ok (some e, changed') ∧ Restorable previous changed' ∧
            Tracked previous changed' s.image) ∧ I s := by
  induction rest generalizing changed with
  | nil =>
      have hstable := (h.keeps_image fun images =>
        RolledTo previous target [] images ∧ Tracked previous changed images).stable
      refine .done hstable fun s hs => ⟨⟨changed, .inl ⟨rfl, fun c => ?_⟩⟩, hs.2⟩
      exact hs.1.1.updated c (by simp)
  | cons x rest ih =>
      obtain ⟨index, c⟩ := x
      rw [List.map_cons, List.nodup_cons] at hnodup
      have hrest : ∀ x ∈ rest, x.2 ≠ c := fun x hx hc =>
        hnodup.1 (List.mem_map.mpr ⟨x, hx, hc⟩)
      refine .ite (fun hsame => ?_) fun _ => ?_
      · -- A component that runs the target already is skipped.
        refine .conseq (ih changed hnodup.2 hchanged) (fun s hs => ⟨⟨⟨fun x hx => ?_, fun k hk => ?_⟩,
          hs.1.2⟩, hs.2⟩) fun _ _ hs => hs
        · exact hs.1.1.pending x (List.mem_cons_of_mem _ hx)
        · by_cases hkc : c = k
          · subst hkc
            rw [hs.1.1.pending (index, c) List.mem_cons_self]
            exact congrArg some hsame.symm
          · refine hs.1.1.updated k fun x hx => ?_
            rcases List.mem_cons.mp hx with rfl | hx
            · exact hkc
            · exact hk x hx
      · have hchanged' : Restorable previous (changed ++ [⟨c, previous c, target c⟩]) := by
          intro entry hentry
          rcases List.mem_append.mp hentry with hold | hnew
          · exact hchanged entry hold
          · rw [List.mem_singleton.mp hnew]
        intro s hs
        have hupdate := @Calm.triple_updateComponent C quiet I target onProgress h s.image hprogress index c
          (previous c) s ⟨rfl, hs.2⟩
        -- The images after the update: those before it, or the target on this component.
        have htracked : ∀ t : World, (t.image = update s.image c (some (target c)) ∨
            t.image = s.image) → Tracked previous (changed ++ [⟨c, previous c, target c⟩]) t.image := by
          intro t ht k
          by_cases hk : k = c
          · exact .inr ⟨_, List.mem_append_right _ (List.mem_singleton_self _), hk.symm⟩
          · have hold : t.image k = s.image k := by
              rcases ht with ht | ht
              · rw [ht, update_of_ne hk]
              · rw [ht]
            rcases hs.1.2 k with hprevious | ⟨entry, hentry, hcomponent⟩
            · exact .inl (hold.trans hprevious)
            · exact .inr ⟨entry, List.mem_append_left _ hentry, hcomponent⟩
        refine (hupdate.toExcept).bind (fun answer t ht => ?_) fun e t ht => ?_
        · obtain ⟨answer', hanswer, hset, hI⟩ := ht
          obtain rfl := Except.ok.inj hanswer
          cases answer with
          | ok _ =>
              have hset' : t.image = update s.image c (some (target c)) := by
                rcases hset with hset | ⟨_, e, he⟩
                · exact hset
                · simp at he
              refine ih _ hnodup.2 hchanged' t ⟨⟨⟨fun x hx => ?_, fun k hk => ?_⟩,
                htracked t (.inl hset')⟩, hI⟩
              · rw [hset', update_of_ne (hrest x hx)]
                exact hs.1.1.pending x (List.mem_cons_of_mem _ hx)
              · rw [hset']
                by_cases hkc : k = c
                · rw [hkc, update_self]
                · rw [update_of_ne hkc]
                  refine hs.1.1.updated k fun x hx => ?_
                  rcases List.mem_cons.mp hx with rfl | hx
                  · exact fun heq => hkc heq.symm
                  · exact hk x hx
          | error e =>
              refine Triple.done (h.keeps_image fun images =>
                Tracked previous (changed ++ [⟨c, previous c, target c⟩]) images).stable
                (fun u hu => ⟨⟨_, .inr ⟨e, rfl, hchanged', hu.1⟩⟩, hu.2⟩) t ⟨htracked t ?_, hI⟩
              rcases hset with hset | ⟨hsame, _⟩
              · exact .inl hset
              · exact .inr hsame
        · obtain ⟨_, himpossible, _⟩ := ht
          simp at himpossible

theorem triple_rollBack (entries : List Change) (rollbackFailed : Bool)
    (hentries : Restorable previous entries) :
    Triple C (fun s => (rollbackFailed = false → Tracked previous entries s.image) ∧ I s)
      ((adapterUpdate target onProgress).rollBack entries rollbackFailed) fun r s =>
        (∃ failed, r = .ok failed ∧ (failed = false → ∀ c, s.image c = some (previous c))) ∧ I s := by
  induction entries generalizing rollbackFailed with
  | nil =>
      refine .done (h.keeps_image fun images => rollbackFailed = false →
        Tracked previous [] images).stable fun s hs => ⟨⟨rollbackFailed, rfl, fun hfailed c => ?_⟩, hs.2⟩
      rcases hs.1 hfailed c with hprevious | ⟨_, hentry, _⟩
      · exact hprevious
      · simp at hentry
  | cons entry rest ih =>
      have hrest : Restorable previous rest := fun e he => hentries e (List.mem_cons_of_mem _ he)
      intro s hs
      have hrestore := @Calm.triple_restoreComponent C quiet I target onProgress h s.image hprogress entry s
        ⟨rfl, hs.2⟩
      refine hrestore.toExcept.bind (fun answer t ht => ?_) fun e t ht => ?_
      · obtain ⟨answer', hanswer, hset, hI⟩ := ht
        obtain rfl := Except.ok.inj hanswer
        cases answer with
        | ok _ =>
            refine ih rollbackFailed hrest t ⟨fun hfailed k => ?_, hI⟩
            have hset' : t.image = update s.image entry.component (some entry.previous) := by
              rcases hset with hset | ⟨_, e, he⟩
              · exact hset
              · simp at he
            by_cases hk : k = entry.component
            · refine .inl ?_
              rw [hset', hk, update_self, hentries entry List.mem_cons_self]
            · rw [hset', update_of_ne hk]
              rcases hs.1 hfailed k with hprevious | ⟨e, he, hcomponent⟩
              · exact .inl hprevious
              · rcases List.mem_cons.mp he with rfl | he
                · exact absurd hcomponent.symm hk
                · exact .inr ⟨e, he, hcomponent⟩
        | error e => exact ih true hrest t ⟨by simp, hI⟩
      · obtain ⟨_, himpossible, _⟩ := ht
        simp at himpossible

end Calm

/-- How an image update ends: with the target everywhere, without having touched
anything, with the images of before, or with a rollback that says it failed. -/
inductive UpdateOutcome (target : Images) (s : World) : Except Exception Images → World → Prop
  | updated {t : World} {previous : Images} (hbefore : ∀ c, s.image c = some (previous c))
      (htarget : ∀ c, t.image c = some (target c)) : UpdateOutcome target s (.ok previous) t
  | untouched {t : World} (e : Exception) (himage : t.image = s.image)
      (hpatches : t.patches = s.patches) : UpdateOutcome target s (.error e) t
  | restored {t : World} (cause : String) (himage : t.image = s.image) :
      UpdateOutcome target s (.error (.error (ImageUpdate.restoredPrefix ++ cause))) t
  | incomplete {t : World} :
      UpdateOutcome target s (.error (.error ImageUpdate.rollbackIncomplete)) t

theorem guards_apply (h : Calm C quiet I) (hprogress : Reports C quiet onProgress) {s : World}
    (hpatches : Keeps C quiet fun t => t.patches = s.patches) (hs : I s) :
    Guards C (fun r t => UpdateOutcome target s r t ∧ I t) (apply target onProgress) s := by
  have hkeeps : Keeps C quiet fun t => t.patches = s.patches ∧ t.image = s.image ∧ I t :=
    hpatches.and (h.keeps_image (· = s.image))
  refine (triple_readPrevious hkeeps
 (fun t ht => ht.2.1) components (fun _ => "") s ⟨rfl, rfl, hs⟩).bind
    (fun previous t ht => ?_) fun e t ht => ⟨.untouched e ht.1.2.1 ht.1.1, ht.1.2.2⟩
  have hbefore : ∀ c, s.image c = some (previous c) := by
    intro c
    have hc := ht.2 previous rfl c
    rwa [if_pos (by cases c <;> decide)] at hc
  have hrolled : RolledTo previous target [(0, .controlApi), (1, .runtimeGateway), (2, .frontend)]
      t.image := by
    refine ⟨fun x _ => ?_, fun c hc => ?_⟩
    · rw [ht.1.2.1, hbefore]
    · cases c <;> simp at hc
  refine (h.triple_rollOut hprogress _ [] (by decide) (by simp [Restorable]) t
    ⟨⟨hrolled, fun c => .inl (by rw [ht.1.2.1, hbefore])⟩, ht.1.2.2⟩).bind
    (fun answer u hu => ?_) fun e u hu => ?_
  · obtain ⟨⟨changed, hcases⟩, hI⟩ := hu
    rcases hcases with ⟨hanswer, htarget⟩ | ⟨e, hanswer, hrestorable, htracked⟩
    · obtain rfl := Except.ok.inj hanswer
      exact Triple.done (h.keeps_image fun images => ∀ c, images c = some (target c)).stable
        (fun v hv => ⟨.updated hbefore hv.1, hv.2⟩) u ⟨htarget, hI⟩
    · obtain rfl := Except.ok.inj hanswer
      have hrestorable' : Restorable previous changed.reverse := fun entry hentry =>
        hrestorable entry (List.mem_reverse.mp hentry)
      refine (h.triple_rollBack hprogress changed.reverse false hrestorable' u
        ⟨fun _ c => ?_, hI⟩).bind (fun failed v hv => ?_) fun e v hv => ?_
      · rcases htracked c with hprevious | ⟨entry, hentry, hcomponent⟩
        · exact .inl hprevious
        · exact .inr ⟨entry, List.mem_reverse.mpr hentry, hcomponent⟩
      · obtain ⟨⟨failed', hfailed, hrestored⟩, hI⟩ := hv
        obtain rfl := Except.ok.inj hfailed
        cases failed with
        | true =>
            exact Triple.fail h.keeps.stable (fun w hw => ⟨.incomplete, hw⟩) v hI
        | false =>
            refine Triple.fail (h.keeps_image (· = s.image)).stable
              (fun w hw => ⟨.restored e.message hw.1, hw.2⟩) v ⟨?_, hI⟩
            funext c
            rw [hrestored rfl c, hbefore c]
      · obtain ⟨⟨_, himpossible, _⟩, _⟩ := hv
        simp at himpossible
  · obtain ⟨⟨_, hcases⟩, _⟩ := hu
    rcases hcases with ⟨himpossible, _⟩ | ⟨_, himpossible, _⟩
    · simp at himpossible
    · simp at himpossible

/-! ## Images changed by others -/

def Patch.Careful (patch : Patch) : Prop :=
  patch.replaced = patch.lastKnown ∧ patch.replaced = some patch.expected

/-- Others may change a Deployment in any way; the API server gives it a new revision. -/
def contestedMove (s t : World) : Prop :=
  (∀ c, t.deployments c = s.deployments c ∨
    (s.deployments c).resourceVersion < (t.deployments c).resourceVersion) ∧
    t.seen = s.seen ∧ t.patches = s.patches

def carefulStep (s t : World) : Prop :=
  (t.deployments = s.deployments ∧ t.patches = s.patches) ∨
    ∃ patch, patch.Careful ∧ t.patches = patch :: s.patches

def contested : Contract World := ⟨contestedMove, carefulStep, fun _ => True, fun _ => .inl ⟨rfl, rfl⟩⟩

def reportStep (s t : World) : Prop :=
  t.deployments = s.deployments ∧ t.seen = s.seen ∧ t.patches = s.patches

def reportProtocol : Protocol World :=
  ⟨fun _ => True, reportStep, fun _ => ⟨rfl, rfl, rfl⟩, fun _ _ => trivial⟩

theorem reports_of_obeys
    (h : ∀ phase percent message, Obeys reportProtocol (onProgress phase percent message)) :
    Reports C reportStep onProgress :=
  fun phase percent message _ hp => (h phase percent message).triple (fun s t _ => hp.guar_report s t) hp.stable
    (fun _ _ => trivial) hp.report

theorem keeps_true : Keeps contested reportStep fun _ => True where
  stable := .true
  report _ _ _ _ := trivial
  see _ _ _ _ := trivial
  guar_report _ _ h := .inl ⟨h.1, h.2.2⟩
  guar_see _ _ _ := .inl ⟨rfl, rfl⟩

def readOrNewer (c : KubernetesComponent) (d : Deployment) (s : World) : Prop :=
  (s.deployments c = d ∨ d.resourceVersion < (s.deployments c).resourceVersion) ∧
    s.seen c = currentImage c d

theorem stable_readOrNewer (c : KubernetesComponent) (d : Deployment) :
    Stable contested (readOrNewer c d) := by
  rintro s t ⟨hversion, hseen⟩ ⟨hmove, hsame, _⟩
  refine ⟨?_, by rw [hsame, hseen]⟩
  rcases hmove c with heq | hnewer
  · rw [heq]
    exact hversion
  · rcases hversion with rfl | hlt
    · exact .inr hnewer
    · exact .inr (hlt.trans hnewer)

theorem carefulStep_servePatch {s : World} {c : KubernetesComponent} {d : Deployment}
    {index : Nat} {image expected : String} (hread : readOrNewer c d s)
    (hexpected : currentImage c d = some expected) :
    carefulStep s (s.servePatch c ⟨d.resourceVersion, index, c.container, image⟩ expected).2 := by
  unfold World.servePatch
  by_cases hpass : ImagePatch.passes ⟨d.resourceVersion, index, c.container, image⟩
      (s.deployments c) = true
  · have hversion : (s.deployments c).resourceVersion = d.resourceVersion := by
      simp only [ImagePatch.passes, Bool.and_eq_true, beq_iff_eq] at hpass
      exact hpass.1
    have hsame : s.deployments c = d := by
      rcases hread.1 with hsame | hnewer
      · exact hsame
      · omega
    have himage : s.image c = currentImage c d := by
      rw [World.image, hsame]
    refine .inr ⟨_, ⟨?_, ?_⟩, by rw [if_pos hpass]⟩
    · exact himage.trans hread.2.symm
    · exact himage.trans hexpected
  · rw [if_neg hpass]
    exact .inl ⟨rfl, rfl⟩

theorem triple_patchImage_contested (c : KubernetesComponent) (image expected : String) :
    Triple contested (fun _ => True) (patchImage c image expected) fun _ _ => True := by
  have hread : Triple contested (fun _ => True) (readNamespacedDeployment c) fun r s =>
      ∀ d, r = .ok d → readOrNewer c d s := by
    refine .exec_ofExcept .true (fun s _ _ => ?_) fun r s t hs hmove d hd =>
      stable_readOrNewer c d s t (hs d hd) hmove
    cases s.outside.failure with
    | none =>
        refine ⟨.inl ⟨rfl, rfl⟩, fun d hd => ?_⟩
        obtain rfl := Except.ok.inj hd
        exact ⟨.inl rfl, update_self c _ _⟩
    | some message => exact ⟨contested.refl s, by simp⟩
  refine .bind hread (fun d => ?_) fun _ _ _ => trivial
  refine .conseq (q := readOrNewer c d) ?_ (fun s hs => hs d rfl) fun _ _ hs => hs
  have hstable := stable_readOrNewer c d
  refine .ensure_bind hstable (fun _ => ?_) fun _ _ => trivial
  cases d.containers.findIdx? (isContainerOf c) with
  | none => exact .fail hstable fun _ _ => trivial
  | some index =>
      refine .ite (fun _ => .done hstable fun _ _ => trivial) fun _ => ?_
      refine .ensure_bind hstable (fun hguard => ?_) fun _ _ => trivial
      refine .exec_ofExcept hstable (fun s hs _ => ⟨?_, trivial⟩) fun _ => .true
      have hstep := @carefulStep_servePatch _ _ _ index image _ hs hguard.2
      cases s.outside.failure with
      | none => exact hstep
      | some message =>
          simp only
          split
          · exact hstep
          · exact contested.refl s

theorem triple_apply (hp : Keeps C quiet p) (hprogress : Reports C quiet onProgress)
    (hpatch : ∀ c image expected, Triple C p (patchImage c image expected) fun _ => p) :
    Triple C p (apply target onProgress) fun _ => p := by
  have hread : ∀ cs previous, Triple C p
      ((adapterUpdate target onProgress).readPrevious cs previous) fun _ => p := by
    intro cs
    induction cs with
    | nil => exact fun _ => .done hp.stable fun _ hs => hs
    | cons c cs ih =>
        intro previous
        refine .ensure_bind hp.stable (fun _ => ?_) fun _ hs => hs
        refine .bind (triple_read hp c) (fun d => ?_) fun _ _ hs => hs
        refine .ofExcept_bind hp.stable (fun _ _ => ?_) fun _ _ _ hs => hs
        exact .ofExcept_bind hp.stable (fun image _ => ih _) fun _ _ _ hs => hs
  have hcomponent : ∀ index c previous, Triple C p
      ((adapterUpdate target onProgress).updateComponent index c previous) fun _ => p :=
    fun index c previous => .bind (hprogress _ _ _ p hp) (fun _ => .bind (hpatch _ _ _) (fun _ =>
      .bind (hprogress _ _ _ p hp) (fun _ => triple_wait hp hprogress _ _ _ _) fun _ _ hs => hs)
        fun _ _ hs => hs) fun _ _ hs => hs
  have hrollOut : ∀ previous rest changed, Triple C p
      ((adapterUpdate target onProgress).rollOut previous rest changed) fun _ => p := by
    intro previous rest
    induction rest with
    | nil => exact fun _ => .done hp.stable fun _ hs => hs
    | cons x rest ih =>
        intro changed
        refine .ite (fun _ => ih changed) fun _ => ?_
        refine .bind (hcomponent x.1 x.2 (previous x.2)).toExcept (fun answer => ?_)
          fun e s hs => hs.choose_spec.2
        refine .conseq (q := p) ?_ (fun s hs => hs.choose_spec.2) fun _ _ hs => hs
        cases answer with
        | ok _ => exact ih _
        | error e => exact .done hp.stable fun _ hs => hs
  have hrollBack : ∀ entries failed, Triple C p
      ((adapterUpdate target onProgress).rollBack entries failed) fun _ => p := by
    intro entries
    induction entries with
    | nil => exact fun _ => .done hp.stable fun _ hs => hs
    | cons entry rest ih =>
        intro failed
        refine .bind (Triple.toExcept (R := fun _ => p) ?_) (fun answer => ?_)
          fun e s hs => hs.choose_spec.2
        · exact .bind (hprogress _ _ _ p hp) (fun _ => .bind (hpatch _ _ _)
            (fun _ => triple_wait hp hprogress _ _ _ _) fun _ _ hs => hs) fun _ _ hs => hs
        · refine .conseq (q := p) ?_ (fun s hs => hs.choose_spec.2) fun _ _ hs => hs
          cases answer with
          | ok _ => exact ih _
          | error e => exact ih _
  refine .bind (hread _ _) (fun previous => .bind (hrollOut _ _ _) (fun answer => ?_)
    fun _ _ hs => hs) fun _ _ hs => hs
  obtain ⟨error, changed⟩ := answer
  cases error with
  | none => exact .done hp.stable fun _ hs => hs
  | some e =>
      refine .bind (hrollBack _ _) (fun failed => ?_) fun _ _ hs => hs
      exact .ite (fun _ => .fail hp.stable fun _ hs => hs) fun _ => .fail hp.stable fun _ hs => hs

def calmMove (s t : World) : Prop :=
  (∀ c, (t.deployments c).containers = (s.deployments c).containers) ∧ t.patches = s.patches

def calm : Contract World := ⟨calmMove, fun _ _ => True, fun _ => True, fun _ => trivial⟩

theorem keeps_calm (ps : List Patch) : Keeps calm reportStep fun s => s.patches = ps where
  stable _ _ hs h := h.2.trans hs
  report _ _ hs h := h.2.2.trans hs
  see _ _ _ hs := hs
  guar_report _ _ _ := trivial
  guar_see _ _ _ := trivial

theorem calm_true : Calm calm reportStep fun _ => True where
  keeps := ⟨.true, fun _ _ _ _ => trivial, fun _ _ _ _ => trivial, fun _ _ _ => trivial,
    fun _ _ _ => trivial⟩
  env _ _ h := h.1
  report _ _ h := h.1
  patch _ _ _ _ _ := trivial
  guar_patch _ _ _ _ _ := trivial

/-- Whatever calls fail, the update ends in one of its four outcomes if nobody else
changes the images; and whoever changes them, at every point of the update its
patches have replaced only images that it had last read or written. -/
theorem image_update_atomic (target : Images)
    (onProgress : String → Nat → String → WorkerHandler Unit)
    (hprogress : ∀ phase percent message, Obeys reportProtocol (onProgress phase percent message))
    (s : World) :
    (∀ r t, Executes calm (apply target onProgress) s (.ofExcept r) t →
      UpdateOutcome target s r t) ∧
    ∀ h t, Executes contested (apply target onProgress) s h t →
      ∀ patch ∈ t.patches, patch ∈ s.patches ∨ patch.Careful := by
  constructor
  · intro r t hrun
    have hguards := @guards_apply _ _ _ target onProgress calm_true (reports_of_obeys hprogress)
      (keeps_calm s.patches) (s := s) trivial
    exact (hguards.answer hrun).1
  · intro h t hrun
    have hguards := @triple_apply _ _ _ target onProgress keeps_true (reports_of_obeys hprogress)
      triple_patchImage_contested s trivial
    refine hguards.invariant (p := fun t => ∀ patch ∈ t.patches, patch ∈ s.patches ∨ patch.Careful)
      hrun (fun t u ht hmove patch hpatch => ?_) (fun t u ht hstep patch hpatch => ?_)
      fun patch hpatch => .inl hpatch
    · rw [hmove.2.2] at hpatch
      exact ht patch hpatch
    · rcases hstep with ⟨_, hsame⟩ | ⟨new, hcareful, hsent⟩
      · rw [hsame] at hpatch
        exact ht patch hpatch
      · rw [hsent] at hpatch
        rcases List.mem_cons.mp hpatch with rfl | hold
        · exact .inr hcareful
        · exact ht patch hold

/-- A progress report that changes nothing, and fails when the network does. -/
def reportOnly (_ : String) (_ : Nat) (_ : String) : WorkerHandler Unit :=
  remote fun s => (.ok (), s)

theorem obeys_reportOnly (phase : String) (percent : Nat) (message : String) :
    Obeys reportProtocol (reportOnly phase percent message) := by
  refine .bind (.exec fun s _ => ?_) fun _ => .ofExcept _
  cases s.outside.failure with
  | none => exact reportProtocol.refl s
  | some _ =>
      simp only [ite_self]
      exact reportProtocol.refl s

def sampleDeployment (c : KubernetesComponent) (image : String) : Deployment where
  labels := []
  annotations := []
  managers := []
  generation := some 1
  resourceVersion := 7
  replicas := some 1
  containers := [⟨some c.container, some image⟩]
  status := some ⟨some 1, some 1, some 1, []⟩

/-- The world before an update, with the calls failing as given. -/
def sampleWorld (failure : Option String) : World where
  deployments c := sampleDeployment c "old"
  queue := emptyQueue
  outside :=
    { failure := failure
      applied := true
      polls := 3
      leaseError := none
      settings := ⟨["local"], [], some sampleDigest⟩
      backup := ⟨"/backups/t", 1⟩
      rehearsal := ⟨true, []⟩ }
  seen _ := none
  patches := []
  stage := .working

theorem undisturbed_update_atomic :
    UpdateOutcome sampleImages (sampleWorld none)
        ((apply sampleImages reportOnly).run (sampleWorld none)).1
        ((apply sampleImages reportOnly).run (sampleWorld none)).2 ∧
      ∀ patch ∈ ((apply sampleImages reportOnly).run (sampleWorld none)).2.patches,
        patch ∈ (sampleWorld none).patches ∨ patch.Careful := by
  have hatomic := image_update_atomic sampleImages reportOnly obeys_reportOnly (sampleWorld none)
  exact ⟨hatomic.1 _ _ (.of_run (fun _ => trivial) _ _), hatomic.2 _ _ (.of_run (fun _ => trivial) _ _)⟩

end KubeNova.Update
