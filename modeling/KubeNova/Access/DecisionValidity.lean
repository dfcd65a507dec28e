import KubeNova.Access.EffectiveGrants
import Mathlib.Data.List.Nodup

/-!
# How long a decision is valid

`authorize` reports when the first of the grants behind its decision ends.  Streams go on until then
without another check: `allow_lasts_until_expiry` says that they may.
-/

namespace KubeNova.Access

open KubeNova.Foundation KubeNova.Common

def earlierExpiry (earliest expiresAt : Option Nat) : Option Nat :=
  match expiresAt, earliest with
  | none, _ => earliest
  | some stop, none => some stop
  | some stop, some best => if stop < best then some stop else some best

theorem earliestExpiry_eq (grants : List Grant) :
    earliestExpiry grants = (grants.map (·.expiresAt)).foldl earlierExpiry none := by
  rw [List.foldl_map]
  rfl

theorem unexpired_earlierExpiry (earliest expiresAt : Option Nat) (now : Nat) :
    unexpired (earlierExpiry earliest expiresAt) now =
      (unexpired earliest now && unexpired expiresAt now) := by
  cases expiresAt with
  | none => simp [earlierExpiry, unexpired]
  | some stop =>
      cases earliest with
      | none => simp [earlierExpiry, unexpired]
      | some best =>
          by_cases hlt : stop < best
          · have himp : now < stop → now < best := fun h => by omega
            simpa [earlierExpiry, unexpired, hlt, Bool.and_comm] using himp
          · have himp : now < best → now < stop := fun h => by omega
            simpa [earlierExpiry, unexpired, hlt] using himp

theorem earlierExpiry_cases (earliest expiresAt : Option Nat) :
    earlierExpiry earliest expiresAt = earliest ∨ earlierExpiry earliest expiresAt = expiresAt := by
  unfold earlierExpiry
  split
  · exact .inl rfl
  · exact .inr rfl
  · split
    · exact .inr rfl
    · exact .inl rfl

theorem unexpired_earliestExpiry {grants : List Grant} {now : Nat} :
    unexpired (earliestExpiry grants) now = true ↔
      ∀ grant ∈ grants, unexpired grant.expiresAt now = true := by
  have hfold : ∀ (expiries : List (Option Nat)) (earliest : Option Nat),
      unexpired (expiries.foldl earlierExpiry earliest) now = true ↔
        unexpired earliest now = true ∧ ∀ stop ∈ expiries, unexpired stop now = true := by
    intro expiries
    induction expiries with
    | nil => simp
    | cons stop expiries ih =>
        intro earliest
        rw [List.foldl_cons, ih, unexpired_earlierExpiry, Bool.and_eq_true, List.forall_mem_cons,
          and_assoc]
  rw [earliestExpiry_eq, hfold, List.forall_mem_map]
  exact and_iff_right rfl

theorem exists_of_earliestExpiry {grants : List Grant} {stop : Nat}
    (h : earliestExpiry grants = some stop) : ∃ grant ∈ grants, grant.expiresAt = some stop := by
  have hfold : ∀ (expiries : List (Option Nat)) (earliest : Option Nat),
      expiries.foldl earlierExpiry earliest = earliest ∨
        expiries.foldl earlierExpiry earliest ∈ expiries := by
    intro expiries
    induction expiries with
    | nil => exact fun _ => .inl rfl
    | cons first expiries ih =>
        intro earliest
        rw [List.foldl_cons]
        rcases ih (earlierExpiry earliest first) with hsame | hmem
        · rw [hsame]
          refine (earlierExpiry_cases earliest first).imp_right fun heq => ?_
          rw [heq]
          exact List.mem_cons_self
        · exact .inr (List.mem_cons_of_mem _ hmem)
  rw [earliestExpiry_eq] at h
  rcases hfold (grants.map (·.expiresAt)) none with hnone | hmem
  · rw [hnone] at h
    cases h
  · rw [h] at hmem
    exact List.mem_map.mp hmem

namespace Directory

variable {d d' : Directory} {request : AuthorizationRequest} {now t : Nat}

def matching (d : Directory) (request : AuthorizationRequest) (now : Nat) : List Grant :=
  (d.listEffectiveGrants request.userId now (some request.clusterId)).filter (·.covers request)

theorem authorize_eq (d : Directory) (request : AuthorizationRequest) (now : Nat) :
    d.authorize request now =
      if request.userId = "" ∨ request.clusterId = "" then deny "IDENTITY_OR_CLUSTER_REQUIRED"
      else if Text.trim (request.namespaceUid.getD "") = "" then deny "NAMESPACE_SCOPE_REQUIRED"
      else if d.matching request now = [] then deny "GRANT_NOT_FOUND"
      else ⟨true, "GRANT_MATCHED", (d.matching request now).map (·.id),
        earliestExpiry (d.matching request now), some (bestRole (d.matching request now))⟩ := rfl

theorem authorize_eq_of_allowed (h : (d.authorize request now).allowed = true) :
    ¬(request.userId = "" ∨ request.clusterId = "") ∧
      Text.trim (request.namespaceUid.getD "") ≠ "" ∧ d.matching request now ≠ [] ∧
        d.authorize request now = ⟨true, "GRANT_MATCHED", (d.matching request now).map (·.id),
          earliestExpiry (d.matching request now), some (bestRole (d.matching request now))⟩ := by
  rw [authorize_eq] at h ⊢
  split_ifs at h ⊢ with hidentity hscope hmatching
  · cases h
  · cases h
  · cases h
  · exact ⟨hidentity, hscope, hmatching, rfl⟩

theorem authorize_of_matching {grant : Grant}
    (hidentity : ¬(request.userId = "" ∨ request.clusterId = ""))
    (hscope : Text.trim (request.namespaceUid.getD "") ≠ "")
    (hgrant : grant ∈ d.matching request now) : (d.authorize request now).allowed = true := by
  rw [authorize_eq, if_neg hidentity, if_neg hscope, if_neg (List.ne_nil_of_mem hgrant)]

theorem grantIds_subset (d : Directory) (request : AuthorizationRequest) (now : Nat) :
    (d.authorize request now).grantIds ⊆ (d.matching request now).map (·.id) := by
  rw [authorize_eq]
  split_ifs
  · exact List.nil_subset _
  · exact List.nil_subset _
  · exact List.nil_subset _
  · dsimp only
    exact List.Subset.refl _

theorem matching_later (hkeyed : d.IsKeyed) (hnow : now ≤ t) {grant : Grant}
    (hgrant : grant ∈ d.matching request now) (hahead : unexpired grant.expiresAt t = true) :
    ∃ later ∈ d.matching request t, later.id = grant.id := by
  obtain ⟨hgrant, hcovers⟩ := List.mem_filter.mp hgrant
  obtain ⟨hblank, row, hrow, limit, rfl, hcluster, hstate, hrevoked, hlive, hrole, hnamespaces,
    hfrom, -, hwho⟩ := (mem_listEffectiveGrants_iff hkeyed).mp hgrant
  rw [unexpired_limitedExpiry, Bool.and_eq_true] at hahead
  refine ⟨{ row with expiresAt := limitedExpiry limit row.expiresAt }, List.mem_filter.mpr
    ⟨(mem_listEffectiveGrants_iff hkeyed).mpr ⟨hblank, row, hrow, limit, rfl, hcluster, hstate,
      hrevoked, hlive, hrole, hnamespaces, Nat.le_trans hfrom hnow, hahead.2, ?_⟩, hcovers⟩, rfl⟩
  refine hwho.imp_right fun ⟨huser, m, hm, hgroup, hlimit⟩ => ⟨huser, m, ?_, hgroup, hlimit⟩
  obtain ⟨hrow, hmember, hactive, hgroupActive, hmemberFrom, -⟩ := mem_activeMemberships_iff.mp hm
  exact mem_activeMemberships_iff.mpr ⟨hrow, hmember, hactive, hgroupActive,
    Nat.le_trans hmemberFrom hnow, hlimit ▸ hahead.1⟩

theorem not_matching_at_end (hkeyed : d.IsKeyed) {grant : Grant} {stop : Nat}
    (hgrant : grant ∈ d.matching request now) (hstop : grant.expiresAt = some stop) :
    ∀ later ∈ d.matching request stop, later.id ≠ grant.id := by
  intro later hlater hid
  obtain ⟨-, row, hrow, limit, rfl, -, -, -, -, -, -, -, -, hwho⟩ :=
    (mem_listEffectiveGrants_iff hkeyed).mp (List.mem_filter.mp hgrant).1
  obtain ⟨-, row', hrow', limit', rfl, -, -, -, -, -, -, -, hrowAhead, hwho'⟩ :=
    (mem_listEffectiveGrants_iff hkeyed).mp (List.mem_filter.mp hlater).1
  obtain rfl : row' = row := List.inj_on_of_nodup_map hkeyed.grants hrow' hrow hid
  -- The end is the row's own or that of the membership behind it, which is the same at both times.
  have hlimit : limit' = limit ∧ unexpired limit' stop = true := by
    rcases hwho with ⟨huser, rfl⟩ | ⟨huser, m, hm, hgroup, rfl⟩
    · rcases hwho' with ⟨-, rfl⟩ | ⟨hother, -⟩
      · exact ⟨rfl, rfl⟩
      · exact absurd huser hother
    · rcases hwho' with ⟨hother, -⟩ | ⟨-, m', hm', hgroup', rfl⟩
      · exact absurd hother huser
      · have hin := mem_activeMemberships_iff.mp hm
        have hin' := mem_activeMemberships_iff.mp hm'
        obtain rfl : m' = m := hkeyed.memberships m' hin'.1 m hin.1
          (Option.some.inj (hgroup'.symm.trans hgroup)) (hin'.2.1.trans hin.2.1.symm)
        exact ⟨rfl, hin'.2.2.2.2.2⟩
  have hahead : unexpired (limitedExpiry limit row'.expiresAt) stop = true := by
    rw [unexpired_limitedExpiry, ← hlimit.1, hlimit.2, hrowAhead]
    rfl
  have hends : limitedExpiry limit row'.expiresAt = some stop := hstop
  rw [hends] at hahead
  simp [unexpired] at hahead

theorem Reordered.mem_matching_iff (h : d.Reordered d') (hkeyed : d.IsKeyed) {grant : Grant} :
    grant ∈ d'.matching request now ↔ grant ∈ d.matching request now := by
  rw [matching, matching, List.mem_filter, List.mem_filter, h.mem_listEffectiveGrants_iff hkeyed]

/-- A decision to allow holds, with all its grants, until the expiry it reports, however the rows are
ordered; when it ends, so does one of the grants. -/
theorem allow_lasts_until_expiry (d : Directory) (hkeyed : d.IsKeyed)
    (request : AuthorizationRequest) (now : Nat)
    (hallowed : (d.authorize request now).allowed = true) :
    (∀ d', d.Reordered d' → ∀ t, now ≤ t →
        unexpired (d.authorize request now).expiresAt t = true →
        (d'.authorize request t).allowed = true ∧
          (d.authorize request now).grantIds ⊆ (d'.authorize request t).grantIds) ∧
      ∀ stop, (d.authorize request now).expiresAt = some stop →
        ∃ id ∈ (d.authorize request now).grantIds,
          ∀ d', d.Reordered d' → id ∉ (d'.authorize request stop).grantIds := by
  obtain ⟨hidentity, hscope, hsome, heq⟩ := authorize_eq_of_allowed hallowed
  rw [heq]
  dsimp only
  constructor
  · intro d' horder t hnow hahead
    have hall := unexpired_earliestExpiry.mp hahead
    have hlater : ∀ grant ∈ d.matching request now,
        ∃ later ∈ d'.matching request t, later.id = grant.id := by
      intro grant hgrant
      obtain ⟨later, hmem, hid⟩ := matching_later hkeyed hnow hgrant (hall grant hgrant)
      exact ⟨later, (horder.mem_matching_iff hkeyed).mpr hmem, hid⟩
    obtain ⟨first, hfirst⟩ := List.exists_mem_of_ne_nil _ hsome
    obtain ⟨later, hmem, -⟩ := hlater first hfirst
    have hallowed' : (d'.authorize request t).allowed = true :=
      authorize_of_matching hidentity hscope hmem
    refine ⟨hallowed', fun id hid => ?_⟩
    obtain ⟨grant, hgrant, rfl⟩ := List.mem_map.mp hid
    obtain ⟨later, hmem, hid⟩ := hlater grant hgrant
    have heq' := (authorize_eq_of_allowed hallowed').2.2.2
    rw [heq']
    dsimp only
    rw [List.mem_map]
    exact ⟨later, hmem, hid⟩
  · intro stop hstop
    obtain ⟨grant, hgrant, hends⟩ := exists_of_earliestExpiry hstop
    refine ⟨grant.id, List.mem_map.mpr ⟨grant, hgrant, rfl⟩, fun d' horder hid => ?_⟩
    obtain ⟨later, hlater, hsame⟩ := List.mem_map.mp (grantIds_subset d' request stop hid)
    exact not_matching_at_end hkeyed hgrant hends later
      ((horder.mem_matching_iff hkeyed).mp hlater) hsame

/-- A viewer grant of a group whose membership ends before it, and an operator grant of the user's
own that outlasts it. -/
def sharedDirectory : Directory where
  users := []
  groupActive := fun id => id == "team"
  memberships := [⟨"team", "ada", "active", 0, some 50, by decide⟩]
  clusters := fun id => if id = "c1" then some ⟨none, "ready"⟩ else none
  grants := [
    ⟨"g1", none, some "team", "c1", "viewer", "active", 0, some 90, none, [⟨"uid", "web"⟩], [],
      by decide, by decide⟩,
    ⟨"g2", some "ada", none, "c1", "operator", "active", 5, none, none, [⟨"uid", "web"⟩], [],
      Bool.false_ne_true, Option.not_mem_none ""⟩]

theorem allow_lasts_until_membership_ends :
    (∀ d', sharedDirectory.Reordered d' → ∀ t, 10 ≤ t → t < 50 →
        (d'.authorize ⟨"ada", "c1", some "uid", none, false⟩ t).allowed = true) ∧
      ∃ id ∈ ["g1", "g2"], ∀ d', sharedDirectory.Reordered d' →
        id ∉ (d'.authorize ⟨"ada", "c1", some "uid", none, false⟩ 50).grantIds := by
  have hkeyed : sharedDirectory.IsKeyed := ⟨by decide, by decide⟩
  have heq : sharedDirectory.authorize ⟨"ada", "c1", some "uid", none, false⟩ 10 =
      ⟨true, "GRANT_MATCHED", ["g1", "g2"], some 50, some "operator"⟩ := by decide +kernel
  have hlasts := allow_lasts_until_expiry sharedDirectory hkeyed
    ⟨"ada", "c1", some "uid", none, false⟩ 10 (by rw [heq])
  rw [heq] at hlasts
  refine ⟨fun d' horder t hnow hstop => ?_, hlasts.2 50 rfl⟩
  exact (hlasts.1 d' horder t hnow (by simpa [unexpired] using hstop)).1

end Directory

end KubeNova.Access
