import KubeNova.Foundation.Triple

/-!
# Rely-guarantee reasoning for pools of handlers

A `Protocol` says what one atomic step of anybody may do to the shared state
(`guar`) and which states are good (`inv`).  A handler obeys the protocol when
each of its statements is such a step: from every good state (`Obeys`), or from
those that the others may have produced in the meantime (`Guards`).  If all
handlers and the environment obey it, so does every run of the pool
(`Protocol.reachable`).
-/

namespace KubeNova.Foundation

open Relation

/-- A pool of handlers and the state they share.  Finished handlers stay in the
pool, so their responses remain visible. -/
structure Pool (ε σ ρ : Type) where
  shared : σ
  handlers : List (Async ε σ ρ)

/-- One step of a pool: a request arrives, a handler executes its next
statement, a handler dies (crash, timeout or lost connection), or the
environment changes the state. -/
inductive Step {ε σ ρ : Type} (start : Async ε σ ρ → Prop) (env : σ → σ → Prop) :
    Pool ε σ ρ → Pool ε σ ρ → Prop
  | arrive {s l} (h : Async ε σ ρ) : start h → Step start env ⟨s, l⟩ ⟨s, l ++ [h]⟩
  | statement {s l r} (u : σ → σ) (n : σ → Async ε σ ρ) :
      Step start env ⟨s, l ++ .stmt u n :: r⟩ ⟨u s, l ++ n s :: r⟩
  | crash {s l r} (h : Async ε σ ρ) : Step start env ⟨s, l ++ h :: r⟩ ⟨s, l ++ r⟩
  | environment {s t l} : env s t → Step start env ⟨s, l⟩ ⟨t, l⟩

/-- The pools that runs from the state `init` reach. -/
abbrev Reach {ε σ ρ : Type} (start : Async ε σ ρ → Prop) (env : σ → σ → Prop) (init : σ) :
    Pool ε σ ρ → Prop :=
  ReflTransGen (Step start env) ⟨init, []⟩

/-- The pools that runs reach whose every step satisfies `C` on the shared state. -/
abbrev ReachVia {ε σ ρ : Type} (start : Async ε σ ρ → Prop) (env : σ → σ → Prop)
    (C : σ → σ → Prop) (init : σ) : Pool ε σ ρ → Prop :=
  ReflTransGen (fun c c' => Step start env c c' ∧ C c.shared c'.shared) ⟨init, []⟩

/-- A run with what an observer has written down: `observe` notes one step, given
the shared state before it and after it. -/
inductive Recorded {ε σ ρ γ : Type} (start : Async ε σ ρ → Prop) (env : σ → σ → Prop)
    (observe : γ → σ → σ → γ) (blank : γ) (init : σ) : γ → Pool ε σ ρ → Prop
  | start : Recorded start env observe blank init blank ⟨init, []⟩
  | step {g c c'} : Recorded start env observe blank init g c → Step start env c c' →
      Recorded start env observe blank init (observe g c.shared c'.shared) c'

theorem Recorded.of_reach {ε σ ρ γ : Type} {start : Async ε σ ρ → Prop} {env : σ → σ → Prop}
    {init : σ} {c : Pool ε σ ρ} (hc : Reach start env init c) (observe : γ → σ → σ → γ)
    (blank : γ) : ∃ g, Recorded start env observe blank init g c := by
  induction hc with
  | refl => exact ⟨blank, .start⟩
  | tail _ hstep ih =>
      obtain ⟨g, hg⟩ := ih
      exact ⟨_, hg.step hstep⟩

/-- The pool after the handler at position `i` has executed its next statement. -/
def Pool.advance {ε σ ρ : Type} (c : Pool ε σ ρ) (i : Nat) : Pool ε σ ρ :=
  match c.handlers[i]? with
  | some (.stmt u n) => ⟨u c.shared, c.handlers.set i (n c.shared)⟩
  | _ => c

def Pool.play {ε σ ρ : Type} (c : Pool ε σ ρ) (order : List Nat) : Pool ε σ ρ :=
  order.foldl Pool.advance c

/-- What every atomic step does, and the invariant such steps keep. -/
structure Protocol (σ : Type) where
  inv : σ → Prop
  guar : σ → σ → Prop
  refl : ∀ s, guar s s
  preserves : ∀ {s t}, inv s → guar s t → inv t

namespace Protocol

variable {σ : Type} (P : Protocol σ)

/-- What other handlers may have done between two statements of one handler. -/
def rely : σ → σ → Prop := ReflTransGen P.guar

/-- The contract of one handler: the others' steps start in good states. -/
def contract : Contract σ := ⟨fun s t => P.inv s ∧ P.guar s t, P.guar, fun _ => True, P.refl⟩

variable {P}

theorem inv_of_rely {s t : σ} (hs : P.inv s) (hst : P.contract.rely s t) : P.inv t := by
  induction hst with
  | refl => exact hs
  | tail _ hmove ih => exact P.preserves ih hmove.2

/-- A property that every step keeps is kept by whatever others do. -/
theorem rely_induction {J : σ → Prop}
    (hstep : ∀ {s t}, P.inv s → J s → P.guar s t → J t)
    {s t : σ} (hst : P.rely s t) (hs : P.inv s) (hJ : J s) : P.inv t ∧ J t := by
  induction hst with
  | refl => exact ⟨hs, hJ⟩
  | tail _ hguar ih => exact ⟨P.preserves ih.1 hguar, hstep ih.1 ih.2 hguar⟩

end Protocol

variable {ε σ α β ρ : Type} {P : Protocol σ}

/-- Every statement of the handler is a step of the protocol from every good
state, whatever the statements before it answered. -/
inductive Obeys (P : Protocol σ) : Async ε σ α → Prop
  | done (a : α) : Obeys P (.done a)
  | fail (e : ε) : Obeys P (.fail e)
  | stmt {u : σ → σ} {n : σ → Async ε σ α} (hstep : ∀ t, P.inv t → P.guar t (u t))
      (hnext : ∀ t, P.inv t → Obeys P (n t)) : Obeys P (.stmt u n)

namespace Obeys

theorem query (q : σ → α) : Obeys P (.query q : Async ε σ α) :=
  .stmt (fun t _ => P.refl t) fun _ _ => .done _

theorem exec {f : σ → α × σ} (hf : ∀ t, P.inv t → P.guar t (f t).2) :
    Obeys P (.exec f : Async ε σ α) :=
  .stmt hf fun _ _ => .done _

theorem attempt {body : StateT σ (Except ε) α}
    (hbody : ∀ t, P.inv t → ∀ a u, body t = .ok (a, u) → P.guar t u) :
    Obeys P (.attempt body) := by
  refine .stmt (fun t ht => ?_) fun t _ => ?_
  · cases hrun : body t with
    | ok r => exact hbody t ht r.1 r.2 hrun
    | error e => exact P.refl t
  · cases body t with
    | ok r => exact .done _
    | error e => exact .fail _

theorem transaction {abort : Option ε} {body : Async ε σ α}
    (hbody : ∀ t, P.inv t → ∀ a u, body.run t = (.ok a, u) → P.guar t u) :
    Obeys P (.transaction abort body) :=
  .attempt fun t ht a u h => hbody t ht a u (Async.commit_eq_ok h)

theorem bind {h : Async ε σ β} {k : β → Async ε σ α} (hh : Obeys P h)
    (hk : ∀ b, Obeys P (k b)) : Obeys P (h >>= k) := by
  induction hh with
  | done b => exact hk b
  | fail e => exact .fail e
  | stmt hstep _ ih => exact .stmt hstep ih

theorem tryCatch {h : Async ε σ α} {k : ε → Async ε σ α} (hh : Obeys P h)
    (hk : ∀ e, Obeys P (k e)) : Obeys P (h.tryCatch k) := by
  induction hh with
  | done b => exact .done b
  | fail e => exact hk e
  | stmt hstep _ ih => exact .stmt hstep ih

theorem ite {c : Prop} [Decidable c] {h k : Async ε σ α} (hh : Obeys P h) (hk : Obeys P k) :
    Obeys P (if c then h else k) := by
  split
  · exact hh
  · exact hk

theorem ensure (c : Prop) [Decidable c] (e : ε) : Obeys P (.ensure c e : Async ε σ Unit) :=
  ite (done ()) (fail e)

theorem ofExcept (r : Except ε α) : Obeys P (.ofExcept r : Async ε σ α) := by
  cases r with
  | ok a => exact .done a
  | error e => exact .fail e

/-- The rest of a handler is looked at only for the answer there is. -/
theorem ofExcept_bind {r : Except ε β} {k : β → Async ε σ α} (hk : ∀ b, r = .ok b → Obeys P (k b)) :
    Obeys P (Async.ofExcept r >>= k) := by
  cases r with
  | ok b => exact hk b rfl
  | error e => exact fail e

/-- A handler over a component obeys what its steps on the component amount to. -/
theorem zoom {τ : Type} {P : Protocol τ} {R : Protocol σ} {get : τ → σ} {set : σ → τ → τ}
    {h : Async ε σ α} (hh : Obeys R h) (hinv : ∀ t, P.inv t → R.inv (get t))
    (hguar : ∀ t q, P.inv t → R.guar (get t) q → P.guar t (set q t)) :
    Obeys P (h.zoom get set) := by
  induction hh with
  | done a => exact .done a
  | fail e => exact .fail e
  | stmt hstep _ ih =>
      exact .stmt (fun t ht => hguar t _ ht (hstep (get t) (hinv t ht)))
        fun t ht => ih (get t) (hinv t ht)

theorem mapError {ε' : Type} {f : ε → ε'} {h : Async ε σ α} (hh : Obeys P h) :
    Obeys P (h.mapError f) := by
  induction hh with
  | done a => exact .done a
  | fail e => exact .fail (f e)
  | stmt hstep _ ih => exact .stmt hstep ih

theorem toExcept {h : Async ε σ α} (hh : Obeys P h) : Obeys P h.toExcept := by
  induction hh with
  | done a => exact .done _
  | fail e => exact .done _
  | stmt hstep _ ih => exact .stmt hstep ih

theorem run {h : Async ε σ α} (hh : Obeys P h) {s : σ} (hs : P.inv s) : P.rely s (h.run s).2 := by
  induction hh generalizing s with
  | done a => exact .refl
  | fail e => exact .refl
  | stmt hstep _ ih => exact .head (hstep s hs) (ih s hs (P.preserves hs (hstep s hs)))

/-- A handler that obeys the protocol is safe without any promise about its answer. -/
theorem guards {h : Async ε σ α} (hh : Obeys P h) {s : σ} (hs : P.inv s) :
    Guards P.contract (fun _ _ => True) h s := by
  induction hh generalizing s with
  | done a => exact Guards.done_iff.mpr fun _ _ => trivial
  | fail e => exact Guards.fail_iff.mpr fun _ _ => trivial
  | stmt hstep _ ih =>
      refine Guards.stmt_iff.mpr fun t hst _ => ?_
      have ht := Protocol.inv_of_rely hs hst
      exact ⟨hstep t ht, ih t ht (P.preserves ht (hstep t ht))⟩

/-- A handler that obeys a protocol from every state obeys it wherever it has come to. -/
theorem executes {C : Contract σ} (hall : ∀ s, P.inv s) {h k : Async ε σ α} (hh : Obeys P h)
    {s t : σ} (hrun : Executes C h s k t) : Obeys P k := by
  suffices ∀ c : σ × Async ε σ α, ReflTransGen (Turn C) (s, h) c → Obeys P c.2 from this (t, k) hrun
  intro c hc
  induction hc with
  | refl => exact hh
  | tail _ hturn ih =>
      cases hturn with
      | environment => exact ih
      | @statement s u n _ =>
          cases ih with
          | stmt _ hnext => exact hnext s (hall s)

/-- What the protocol's steps and the environment keep, the handler keeps. -/
theorem triple {C : Contract σ} {p : σ → Prop} {h : Async ε σ α} (hh : Obeys P h)
    (hguar : ∀ s t, p s → P.guar s t → C.guar s t) (hstable : Stable C p)
    (hinv : ∀ s, p s → P.inv s) (hp : ∀ s t, p s → P.guar s t → p t) :
    Triple C p h fun _ => p := by
  induction hh with
  | done a => exact .done hstable fun _ hs => hs
  | fail e => exact .fail hstable fun _ hs => hs
  | stmt hstep _ ih =>
      refine fun s hs => Guards.stmt_iff.mpr fun t hst _ => ?_
      have ht := hstable.rely hs hst
      have hmove := hstep t (hinv t ht)
      exact ⟨hguar _ _ ht hmove, ih t (hinv t ht) _ (hp _ _ ht hmove)⟩

end Obeys

namespace Protocol

variable {start : Async ε σ ρ → Prop} {env : σ → σ → Prop} {R : Except ε ρ → σ → Prop}

structure Safe (P : Protocol σ) (R : Except ε ρ → σ → Prop) (c : Pool ε σ ρ) : Prop where
  inv : P.inv c.shared
  handlers : ∀ h ∈ c.handlers, Guards P.contract R h c.shared

theorem safe_step (hstart : ∀ h s, start h → P.inv s → Guards P.contract R h s)
    (henv : ∀ s t, P.inv s → env s t → P.guar s t)
    {c c' : Pool ε σ ρ} (hc : P.Safe R c) (hstep : Step start env c c') :
    P.Safe R c' ∧ P.guar c.shared c'.shared := by
  cases hstep with
  | arrive h hh =>
      refine ⟨⟨hc.inv, fun g hg => ?_⟩, P.refl _⟩
      rcases List.mem_append.mp hg with hold | hnew
      · exact hc.handlers g hold
      · rw [List.mem_singleton.mp hnew]
        exact hstart h _ hh hc.inv
  | @statement s l r u n =>
      have hstmt := Guards.stmt_iff.mp (hc.handlers (.stmt u n) (by simp)) s .refl trivial
      have hmove : P.contract.rely s (u s) := .single ⟨hc.inv, hstmt.1⟩
      refine ⟨⟨P.preserves hc.inv hstmt.1, fun g hg => ?_⟩, hstmt.1⟩
      rcases List.mem_append.mp hg with hl | hr
      · exact (hc.handlers g (by simp [hl])).stable hmove
      · rcases List.mem_cons.mp hr with rfl | hr
        · exact hstmt.2
        · exact (hc.handlers g (by simp [hr])).stable hmove
  | @crash s l r h =>
      refine ⟨⟨hc.inv, fun g hg => hc.handlers g ?_⟩, P.refl _⟩
      rcases List.mem_append.mp hg with hl | hr
      · simp [hl]
      · simp [hr]
  | environment hst =>
      have hguar := henv _ _ hc.inv hst
      exact ⟨⟨P.preserves hc.inv hguar,
        fun g hg => (hc.handlers g hg).stable (.single ⟨hc.inv, hguar⟩)⟩, hguar⟩

/-- A run from a pool whose handlers obey the protocol makes steps of it only. -/
theorem safe_run (hstart : ∀ h s, start h → P.inv s → Guards P.contract R h s)
    (henv : ∀ s t, P.inv s → env s t → P.guar s t)
    {c c' : Pool ε σ ρ} (hc : P.Safe R c) (hrun : ReflTransGen (Step start env) c c') :
    P.Safe R c' ∧ P.rely c.shared c'.shared := by
  induction hrun with
  | refl => exact ⟨hc, .refl⟩
  | tail _ hstep ih =>
      have h := safe_step hstart henv ih.1 hstep
      exact ⟨h.1, ih.2.tail h.2⟩

/-- The run rule: a pool whose handlers and environment obey the protocol
reaches good states only. -/
theorem reachable (hstart : ∀ h s, start h → P.inv s → Guards P.contract R h s)
    (henv : ∀ s t, P.inv s → env s t → P.guar s t)
    {init : σ} (hinit : P.inv init) {c : Pool ε σ ρ} (hc : Reach start env init c) :
    P.Safe R c ∧ P.rely init c.shared :=
  safe_run hstart henv ⟨hinit, by simp⟩ hc

/-- The run rule for runs whose steps are restricted to `C`: what a restricted
step of the protocol keeps holds in every pool such a run reaches. -/
theorem reachable_via {C : σ → σ → Prop} {J : σ → Prop}
    (hstart : ∀ h, start h → Obeys P h) (henv : ∀ s t, P.inv s → env s t → P.guar s t)
    (hstep : ∀ s t, P.inv s → P.guar s t → C s t → J s → J t)
    {init : σ} (hinit : P.inv init) (hJ : J init) {c : Pool ε σ ρ}
    (hc : ReachVia start env C init c) : J c.shared := by
  have hboth : P.Safe (fun (_ : Except ε ρ) _ => True) c ∧ J c.shared := by
    induction hc with
    | refl => exact ⟨⟨hinit, by simp⟩, hJ⟩
    | tail _ hmove ih =>
        have h := safe_step (fun h s hh hs => (hstart h hh).guards hs) henv ih.1 hmove.1
        exact ⟨h.1, hstep _ _ ih.1.inv h.2 hmove.2 ih.2⟩
  exact hboth.2

/-- The run rule with an observer: what every step of the protocol keeps of the
record holds of the record of every run. -/
theorem recorded {γ : Type} {observe : γ → σ → σ → γ} {blank g : γ} {J : γ → σ → Prop}
    (hstart : ∀ h s, start h → P.inv s → Guards P.contract R h s)
    (henv : ∀ s t, P.inv s → env s t → P.guar s t)
    (hstep : ∀ g s t, P.inv s → P.guar s t → J g s → J (observe g s t) t)
    {init : σ} (hinit : P.inv init) (hJ : J blank init) {c : Pool ε σ ρ}
    (hc : Recorded start env observe blank init g c) : J g c.shared := by
  have hboth : P.Safe R c ∧ J g c.shared := by
    induction hc with
    | start => exact ⟨⟨hinit, by simp⟩, hJ⟩
    | step _ hmove ih =>
        have h := safe_step hstart henv ih.1 hmove
        exact ⟨h.1, hstep _ _ _ ih.1.inv h.2 ih.2⟩
  exact hboth.2

end Protocol

namespace Reach

variable {start : Async ε σ ρ → Prop} {env : σ → σ → Prop} {init : σ}

theorem arrive_all {c : Pool ε σ ρ} (hc : Reach start env init c) (hs : List (Async ε σ ρ))
    (hstart : ∀ h ∈ hs, start h) : Reach start env init ⟨c.shared, c.handlers ++ hs⟩ := by
  induction hs generalizing c with
  | nil => simpa using hc
  | cons h hs ih =>
      have harrive : Reach start env init ⟨c.shared, c.handlers ++ [h]⟩ :=
        hc.tail (.arrive h (hstart h (by simp)))
      simpa using ih harrive fun g hg => hstart g (by simp [hg])

theorem environment {c : Pool ε σ ρ} (hc : Reach start env init c) {t : σ}
    (ht : env c.shared t) : Reach start env init ⟨t, c.handlers⟩ := by
  cases c with
  | mk s l => exact hc.tail (.environment ht)

theorem step_advance (c : Pool ε σ ρ) (i : Nat) :
    Step start env c (c.advance i) ∨ c.advance i = c := by
  rcases c with ⟨s, l⟩
  unfold Pool.advance
  split
  · rename_i u n hi
    obtain ⟨hlt, hget⟩ := List.getElem?_eq_some_iff.mp hi
    obtain ⟨before, after, hl, -, hset⟩ := @List.exists_of_set _ _ (n s) _ hlt
    rw [hget] at hl
    refine .inl ?_
    simp only at hl hset ⊢
    rw [hset, hl]
    exact .statement u n
  · exact .inr rfl

/-- Every order in which the handlers of a pool may move is a run. -/
theorem play_from (c : Pool ε σ ρ) (order : List Nat) :
    ReflTransGen (Step start env) c (c.play order) := by
  induction order generalizing c with
  | nil => exact .refl
  | cons i order ih =>
      show ReflTransGen (Step start env) c ((c.advance i).play order)
      rcases step_advance c i with hmove | hsame
      · exact .head hmove (ih _)
      · rw [hsame]
        exact ih c

theorem play {c : Pool ε σ ρ} (hc : Reach start env init c) (order : List Nat) :
    Reach start env init (c.play order) :=
  hc.trans (play_from c order)

theorem run_from (l : List (Async ε σ ρ)) (h : Async ε σ ρ) (s : σ) :
    ∃ h', ReflTransGen (Step start env) ⟨s, l ++ [h]⟩ ⟨(h.run s).2, l ++ [h']⟩ := by
  induction h generalizing s with
  | done a => exact ⟨.done a, .refl⟩
  | fail e => exact ⟨.fail e, .refl⟩
  | stmt u n ih =>
      obtain ⟨h', hrest⟩ := ih s (u s)
      exact ⟨h', .head (.statement u n) hrest⟩

/-- A request that is served at once, with nobody between its statements. -/
theorem serve {c : Pool ε σ ρ} (hc : Reach start env init c) (h : Async ε σ ρ) (hh : start h) :
    ∃ c' : Pool ε σ ρ, Reach start env init c' ∧ c'.shared = (h.run c.shared).2 := by
  obtain ⟨s, l⟩ := c
  obtain ⟨h', hrun⟩ := @run_from _ _ _ start env l h s
  exact ⟨_, (hc.tail (.arrive h hh)).trans hrun, rfl⟩

end Reach

namespace ReachVia

variable {start : Async ε σ ρ → Prop} {env C : σ → σ → Prop} {init : σ}

theorem arrive {c : Pool ε σ ρ} (hc : ReachVia start env C init c) (h : Async ε σ ρ)
    (hh : start h) (hC : C c.shared c.shared) :
    ReachVia start env C init ⟨c.shared, c.handlers ++ [h]⟩ :=
  hc.tail ⟨.arrive h hh, hC⟩

theorem advance {c : Pool ε σ ρ} (hc : ReachVia start env C init c) (i : Nat)
    (hC : C c.shared (c.advance i).shared) : ReachVia start env C init (c.advance i) := by
  rcases Reach.step_advance c i with hmove | hsame
  · exact hc.tail ⟨hmove, hC⟩
  · rw [hsame]
    exact hc

end ReachVia
end KubeNova.Foundation
