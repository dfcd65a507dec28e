import KubeNova.Foundation.Async

/-!
# A handler among disturbances

`Guards` judges one handler while an environment moves between its statements:
each statement is a step the contract allows, and the answer satisfies the
postcondition.  `Triple` is the Hoare triple over it; its assertions have to be
stable, that is, the environment's moves must keep them.
-/

namespace KubeNova.Foundation

open Relation

/-- What the environment may do between two statements, what a statement may do,
and in which states the runs under consideration execute statements at all. -/
structure Contract (σ : Type) where
  env : σ → σ → Prop
  guar : σ → σ → Prop
  assumes : σ → Prop
  refl : ∀ s, guar s s

/-- The environment may have moved any number of times. -/
abbrev Contract.rely {σ : Type} (C : Contract σ) : σ → σ → Prop := ReflTransGen C.env

variable {ε σ α β : Type} {C : Contract σ} {p q : σ → Prop} {Q R : Except ε α → σ → Prop}

/-- From the state `s` on, every statement of the handler is a step the contract
allows, and what it answers satisfies `Q`, whatever the environment does. -/
def Guards (C : Contract σ) (Q : Except ε α → σ → Prop) : Async ε σ α → σ → Prop
  | .done a, s => ∀ t, C.rely s t → Q (.ok a) t
  | .fail e, s => ∀ t, C.rely s t → Q (.error e) t
  | .stmt u n, s => ∀ t, C.rely s t → C.assumes t → C.guar t (u t) ∧ Guards C Q (n t) (u t)

namespace Guards

theorem done_iff {a : α} {s : σ} :
    Guards C Q (.done a) s ↔ ∀ t, C.rely s t → Q (.ok a) t := Iff.rfl

theorem fail_iff {e : ε} {s : σ} :
    Guards C Q (.fail e) s ↔ ∀ t, C.rely s t → Q (.error e) t := Iff.rfl

theorem stmt_iff {u : σ → σ} {n : σ → Async ε σ α} {s : σ} :
    Guards C Q (.stmt u n) s ↔
      ∀ t, C.rely s t → C.assumes t → C.guar t (u t) ∧ Guards C Q (n t) (u t) := Iff.rfl

theorem stable {h : Async ε σ α} {s t : σ} (hg : Guards C Q h s) (hst : C.rely s t) :
    Guards C Q h t := by
  cases h <;> exact fun u htu => hg u (hst.trans htu)

theorem of_forall {h : Async ε σ α} {s : σ} (hg : ∀ t, C.rely s t → Guards C Q h t) :
    Guards C Q h s := by
  cases h with
  | done a => exact fun t hst => hg t hst t .refl
  | fail e => exact fun t hst => hg t hst t .refl
  | stmt u n => exact fun t hst ht => hg t hst t .refl ht

theorem mono {h : Async ε σ α} {s : σ} (hg : Guards C R h s) (hRQ : ∀ r t, R r t → Q r t) :
    Guards C Q h s := by
  induction h generalizing s with
  | done a => exact fun t hst => hRQ _ t (hg t hst)
  | fail e => exact fun t hst => hRQ _ t (hg t hst)
  | stmt u n ih => exact fun t hst ht => ⟨(hg t hst ht).1, ih t (hg t hst ht).2⟩

/-- Sequencing: the rest of the handler is judged where the first part ends. -/
theorem bind {h : Async ε σ β} {k : β → Async ε σ α} {R : Except ε β → σ → Prop} {s : σ}
    (hh : Guards C R h s) (hok : ∀ b t, R (.ok b) t → Guards C Q (k b) t)
    (herr : ∀ e t, R (.error e) t → Q (.error e) t) : Guards C Q (h >>= k) s := by
  induction h generalizing s with
  | done b => exact of_forall fun t hst => hok b t (hh t hst)
  | fail e => exact fun t hst => herr e t (hh t hst)
  | stmt u n ih => exact fun t hst ht => ⟨(hh t hst ht).1, ih t (hh t hst ht).2⟩

theorem tryCatch {h : Async ε σ α} {k : ε → Async ε σ α} {s : σ} (hh : Guards C R h s)
    (hok : ∀ a t, R (.ok a) t → Q (.ok a) t)
    (herr : ∀ e t, R (.error e) t → Guards C Q (k e) t) : Guards C Q (h.tryCatch k) s := by
  induction h generalizing s with
  | done a => exact fun t hst => hok a t (hh t hst)
  | fail e => exact of_forall fun t hst => herr e t (hh t hst)
  | stmt u n ih => exact fun t hst ht => ⟨(hh t hst ht).1, ih t (hh t hst ht).2⟩

theorem toExcept {h : Async ε σ α} {s : σ} (hh : Guards C R h s) :
    Guards C (fun r s => ∃ r', r = (.ok r' : Except ε (Except ε α)) ∧ R r' s) h.toExcept s := by
  induction h generalizing s with
  | done a => exact fun t hst => ⟨.ok a, rfl, hh t hst⟩
  | fail e => exact fun t hst => ⟨.error e, rfl, hh t hst⟩
  | stmt u n ih => exact fun t hst ht => ⟨(hh t hst ht).1, ih t (hh t hst ht).2⟩

end Guards

/-- The environment's moves keep `p`. -/
def Stable (C : Contract σ) (p : σ → Prop) : Prop := ∀ s t, p s → C.env s t → p t

namespace Stable

theorem rely (hp : Stable C p) {s t : σ} (hs : p s) (hst : C.rely s t) : p t := by
  induction hst with
  | refl => exact hs
  | tail _ hmove ih => exact hp _ _ ih hmove

theorem true : Stable C fun _ => True := fun _ _ _ _ => trivial

theorem and (hp : Stable C p) (hp' : Stable C q) : Stable C fun s => p s ∧ q s :=
  fun s t hs hmove => ⟨hp s t hs.1 hmove, hp' s t hs.2 hmove⟩

end Stable

/-- Started where `p` holds, the handler keeps the contract and answers with `Q`. -/
def Triple (C : Contract σ) (p : σ → Prop) (h : Async ε σ α) (Q : Except ε α → σ → Prop) : Prop :=
  ∀ s, p s → Guards C Q h s

namespace Triple

theorem guards {h : Async ε σ α} (hh : Triple C p h Q) {s : σ} (hs : p s) : Guards C Q h s := hh s hs

theorem done (hp : Stable C p) {a : α} (hQ : ∀ s, p s → Q (.ok a) s) :
    Triple C p (.done a) Q :=
  fun _ hs t hst => hQ t (hp.rely hs hst)

theorem fail (hp : Stable C p) {e : ε} (hQ : ∀ s, p s → Q (.error e) s) :
    Triple C p (.fail e : Async ε σ α) Q :=
  fun _ hs t hst => hQ t (hp.rely hs hst)

theorem conseq {h : Async ε σ α} (hh : Triple C q h R) (hp : ∀ s, p s → q s)
    (hQ : ∀ r s, R r s → Q r s) : Triple C p h Q :=
  fun s hs => (hh s (hp s hs)).mono hQ

theorem bind {h : Async ε σ β} {k : β → Async ε σ α} {R : Except ε β → σ → Prop}
    (hh : Triple C p h R) (hok : ∀ b, Triple C (R (.ok b)) (k b) Q)
    (herr : ∀ e s, R (.error e) s → Q (.error e) s) : Triple C p (h >>= k) Q :=
  fun s hs => (hh s hs).bind hok herr

theorem tryCatch {h : Async ε σ α} {k : ε → Async ε σ α} (hh : Triple C p h R)
    (hok : ∀ a s, R (.ok a) s → Q (.ok a) s)
    (herr : ∀ e, Triple C (R (.error e)) (k e) Q) : Triple C p (h.tryCatch k) Q :=
  fun s hs => (hh s hs).tryCatch hok herr

theorem toExcept {h : Async ε σ α} (hh : Triple C p h R) :
    Triple C p h.toExcept fun r s => ∃ r', r = (.ok r' : Except ε (Except ε α)) ∧ R r' s :=
  fun s hs => (hh s hs).toExcept

/-- A read, followed by a handler that is judged with what the read found. -/
theorem query_bind (hp : Stable C p) {q : σ → β} {k : β → Async ε σ α}
    (hk : ∀ s, p s → C.assumes s → Guards C Q (k (q s)) s) : Triple C p (.query q >>= k) Q :=
  fun _ hs t hst ht => ⟨C.refl t, hk t (hp.rely hs hst) ht⟩

theorem exec_bind (hp : Stable C p) {f : σ → β × σ} {k : β → Async ε σ α}
    (hf : ∀ s, p s → C.assumes s → C.guar s (f s).2 ∧ Guards C Q (k (f s).1) (f s).2) :
    Triple C p (.exec f >>= k) Q :=
  fun _ hs t hst ht => hf t (hp.rely hs hst) ht

/-- A handler over a component, judged on the whole state: `I` is what the steps on the component
and the environment keep beside it. -/
theorem zoom {τ : Type} {D : Contract τ} (get : τ → σ) (set : σ → τ → τ) (I : τ → Prop)
    {h : Async ε σ α} (hh : Triple C p h Q) (hget : ∀ q t, get (set q t) = q)
    (henv : ∀ s t, I s → D.env s t → C.env (get s) (get t) ∧ I t) (hall : ∀ s, C.assumes s)
    (hguar : ∀ t q, I t → C.guar (get t) q → D.guar t (set q t) ∧ I (set q t)) :
    Triple D (fun t => I t ∧ p (get t)) (h.zoom get set) fun r t => I t ∧ Q r (get t) := by
  have hrely : ∀ s t, I s → D.rely s t → C.rely (get s) (get t) ∧ I t := by
    intro s t hs hst
    induction hst with
    | refl => exact ⟨.refl, hs⟩
    | tail _ hmove ih => exact ⟨ih.1.tail (henv _ _ ih.2 hmove).1, (henv _ _ ih.2 hmove).2⟩
  suffices ∀ t, I t → Guards C Q h (get t) →
      Guards D (fun r t => I t ∧ Q r (get t)) (h.zoom get set) t from
    fun t ht => this t ht.1 (hh (get t) ht.2)
  clear hh
  induction h with
  | done a => exact fun s hs hg t hst => ⟨(hrely s t hs hst).2, hg _ (hrely s t hs hst).1⟩
  | fail e => exact fun s hs hg t hst => ⟨(hrely s t hs hst).2, hg _ (hrely s t hs hst).1⟩
  | stmt u n ih =>
      intro s hs hg t hst _
      obtain ⟨hmoves, ht⟩ := hrely s t hs hst
      obtain ⟨hstmt, hnext⟩ := hg _ hmoves (hall _)
      obtain ⟨hstep, hkept⟩ := hguar t _ ht hstmt
      refine ⟨hstep, ih (get t) _ hkept ?_⟩
      rw [hget]
      exact hnext

theorem exec_ofExcept (hp : Stable C p) {f : σ → Except ε α × σ}
    (hf : ∀ s, p s → C.assumes s → C.guar s (f s).2 ∧ Q (f s).1 (f s).2)
    (hQ : ∀ r, Stable C (Q r)) : Triple C p (.exec f >>= .ofExcept) Q := by
  refine exec_bind hp fun s hs ht => ⟨(hf s hs ht).1, ?_⟩
  have hend := (hf s hs ht).2
  cases hr : (f s).1 with
  | ok a => exact fun t hst => (hQ (.ok a)).rely (hr ▸ hend) hst
  | error e => exact fun t hst => (hQ (.error e)).rely (hr ▸ hend) hst

/-- Where every statement is allowed and every answer will do, any handler will do. -/
theorem of_allowed (hguar : ∀ s t, C.guar s t) (hQ : ∀ r s, Q r s) (h : Async ε σ α) :
    Triple C p h Q := by
  suffices ∀ s, Guards C Q h s from fun s _ => this s
  induction h with
  | done a => exact fun _ t _ => hQ _ t
  | fail e => exact fun _ t _ => hQ _ t
  | stmt u n ih => exact fun _ t _ _ => ⟨hguar t (u t), ih t (u t)⟩

theorem ite {c : Prop} [Decidable c] {h k : Async ε σ α} (hh : c → Triple C p h Q)
    (hk : ¬c → Triple C p k Q) : Triple C p (if c then h else k) Q := by
  split
  · exact hh ‹_›
  · exact hk ‹_›

theorem ensure_bind (hp : Stable C p) {c : Prop} [Decidable c] {e : ε} {k : Unit → Async ε σ α}
    (hk : c → Triple C p (k ()) Q) (he : ∀ s, p s → Q (.error e) s) :
    Triple C p (.ensure c e >>= k) Q := by
  unfold Async.ensure
  split
  · exact hk ‹_›
  · exact fail hp he

theorem ofExcept_bind (hp : Stable C p) {r : Except ε β} {k : β → Async ε σ α}
    (hok : ∀ b, r = .ok b → Triple C p (k b) Q)
    (herr : ∀ e, r = .error e → ∀ s, p s → Q (.error e) s) :
    Triple C p (.ofExcept r >>= k) Q := by
  cases r with
  | ok b => exact hok b rfl
  | error e => exact fail hp (herr e rfl)

end Triple

/-! ## Triples that promise nothing after an error -/

/-- Started where `p` holds, the handler keeps the contract, and `R` holds of an answer. -/
def Returns (C : Contract σ) (p : σ → Prop) (h : Async ε σ α) (R : α → σ → Prop) : Prop :=
  Triple C p h fun r s => ∀ a, r = .ok a → R a s

namespace Returns

variable {R S : α → σ → Prop}

theorem guards {h : Async ε σ α} (hh : Returns C p h R) {s : σ} (hs : p s) :
    Guards C (fun r s => ∀ a, r = .ok a → R a s) h s := hh s hs

theorem done (hp : Stable C p) {a : α} (hR : ∀ s, p s → R a s) :
    Returns C p (.done a : Async ε σ α) R := by
  refine Triple.done hp fun s hs b hb => ?_
  obtain rfl := Except.ok.inj hb
  exact hR s hs

theorem fail (hp : Stable C p) {e : ε} : Returns C p (.fail e : Async ε σ α) R :=
  Triple.fail hp fun _ _ _ h => by cases h

theorem conseq {h : Async ε σ α} (hh : Returns C q h S) (hp : ∀ s, p s → q s)
    (hR : ∀ a s, S a s → R a s) : Returns C p h R :=
  Triple.conseq hh hp fun _ s hS a ha => hR a s (hS a ha)

theorem bind {h : Async ε σ β} {k : β → Async ε σ α} {S : β → σ → Prop} (hh : Returns C p h S)
    (hk : ∀ b, Returns C (S b) (k b) R) : Returns C p (h >>= k) R := by
  refine Triple.bind hh (fun b => ?_) fun e s _ a ha => ?_
  · exact (hk b).conseq (fun s hs => hs b rfl) fun _ _ hR => hR
  · cases ha

theorem tryCatch {h : Async ε σ α} {k : ε → Async ε σ α} (hh : Returns C p h R)
    (hk : ∀ e, Returns C (fun _ => True) (k e) R) : Returns C p (h.tryCatch k) R :=
  Triple.tryCatch hh (fun _ _ hR => hR) fun e => (hk e).conseq (fun _ _ => trivial) fun _ _ hR => hR

theorem query_bind (hp : Stable C p) {q : σ → β} {k : β → Async ε σ α}
    (hk : ∀ s, p s → C.assumes s → ∃ p', p' s ∧ Returns C p' (k (q s)) R) :
    Returns C p (.query q >>= k) R := by
  refine Triple.query_bind hp fun s hs ht => ?_
  obtain ⟨q, hp', hk'⟩ := hk s hs ht
  exact hk'.guards hp'

theorem read_bind (hp : Stable C p) {q : σ → β} {k : β → Async ε σ α}
    (hk : ∀ b, Returns C p (k b) R) : Returns C p (.query q >>= k) R :=
  query_bind hp fun s hs _ => ⟨p, hs, hk (q s)⟩

theorem exec_ofExcept (hp : Stable C p) {f : σ → Except ε α × σ}
    (hf : ∀ s, p s → C.assumes s → C.guar s (f s).2 ∧ ∀ a, (f s).1 = .ok a → R a (f s).2)
    (hR : ∀ a, Stable C (R a)) : Returns C p (.exec f >>= .ofExcept) R :=
  Triple.exec_ofExcept hp hf fun _ s t h hmove a ha => hR a s t (h a ha) hmove

theorem attempt (hp : Stable C p) {body : StateT σ (Except ε) α}
    (hbody : ∀ s a t, p s → C.assumes s → body s = .ok (a, t) → C.guar s t ∧ R a t)
    (hR : ∀ a, Stable C (R a)) : Returns C p (.attempt body) R := by
  intro s hs t hst ht
  have hpt := hp.rely hs hst
  cases hrun : body t with
  | ok r =>
      obtain ⟨hguar, hend⟩ := hbody t r.1 r.2 hpt ht hrun
      simp only [hrun]
      exact ⟨hguar, (Returns.done (hR r.1) fun _ h => h).guards hend⟩
  | error e =>
      simp only [hrun]
      exact ⟨C.refl t, (Returns.fail (R := R) Stable.true).guards (s := t) trivial⟩

theorem ite {c : Prop} [Decidable c] {h k : Async ε σ α} (hh : c → Returns C p h R)
    (hk : ¬c → Returns C p k R) : Returns C p (if c then h else k) R :=
  Triple.ite hh hk

theorem ensure_bind (hp : Stable C p) {c : Prop} [Decidable c] {e : ε} {k : Unit → Async ε σ α}
    (hk : c → Returns C p (k ()) R) : Returns C p (.ensure c e >>= k) R :=
  Triple.ensure_bind hp hk fun _ _ _ h => by cases h

theorem ensure (hp : Stable C p) {c : Prop} [Decidable c] {e : ε} :
    Returns C p (.ensure c e : Async ε σ Unit) fun _ s => c ∧ p s := by
  unfold Async.ensure
  split
  · exact done hp fun s hs => ⟨‹_›, hs⟩
  · exact fail hp

theorem ofExcept_bind (hp : Stable C p) {r : Except ε β} {k : β → Async ε σ α}
    (hok : ∀ b, r = .ok b → Returns C p (k b) R) : Returns C p (.ofExcept r >>= k) R :=
  Triple.ofExcept_bind hp hok fun _ _ _ _ _ h => by cases h

/-- A fact that does not depend on the state may be used in the proof. -/
theorem of_fact {h : Async ε σ α} {P : Prop} (hh : P → Returns C p h R) :
    Returns C (fun s => P ∧ p s) h R :=
  fun s hs => hh hs.1 s hs.2

end Returns

inductive Turn (C : Contract σ) : σ × Async ε σ α → σ × Async ε σ α → Prop
  | environment {s t h} : C.env s t → Turn C (s, h) (t, h)
  | statement {s u n} : C.assumes s → Turn C (s, .stmt u n) (u s, n s)

/-- The handler, started in the state `s`, has come to the state `t` with `h'` left to do. -/
def Executes (C : Contract σ) (h : Async ε σ α) (s : σ) (h' : Async ε σ α) (t : σ) : Prop :=
  ReflTransGen (Turn C) (s, h) (t, h')

theorem Executes.of_run (hall : ∀ s, C.assumes s) (h : Async ε σ α) (s : σ) :
    Executes C h s (.ofExcept (h.run s).1) (h.run s).2 := by
  induction h generalizing s with
  | done a => exact .refl
  | fail e => exact .refl
  | stmt u n ih => exact .head (.statement (hall s)) (ih s (u s))

theorem Executes.of_steps (n : Nat) (h : Async ε σ α) (s : σ)
    (hall : ∀ m < n, C.assumes (h.steps m s).2) :
    Executes C h s (h.steps n s).1 (h.steps n s).2 := by
  induction n generalizing h s with
  | zero => exact .refl
  | succ n ih =>
      cases h with
      | done a => exact .refl
      | fail e => exact .refl
      | stmt u k =>
          refine .head (.statement (hall 0 (by omega))) (ih (k s) (u s) fun m hm => ?_)
          exact hall (m + 1) (by omega)

/-- The environment moves once, after some statements, and lets the handler finish. -/
theorem Executes.of_disturbed_run (hall : ∀ s, C.assumes s) (n : Nat) (h : Async ε σ α) {s t : σ}
    (hmove : C.env (h.steps n s).2 t) :
    Executes C h s (.ofExcept ((h.steps n s).1.run t).1) ((h.steps n s).1.run t).2 :=
  ((Executes.of_steps n h s fun _ _ => hall _).tail (.environment hmove)).trans
    (Executes.of_run hall _ t)

theorem Guards.executes {h k : Async ε σ α} {s t : σ} (hg : Guards C Q h s)
    (hrun : Executes C h s k t) : Guards C Q k t := by
  suffices ∀ c : σ × Async ε σ α, ReflTransGen (Turn C) (s, h) c → Guards C Q c.2 c.1 from
    this (t, k) hrun
  intro c hc
  induction hc with
  | refl => exact hg
  | tail _ hturn ih =>
      cases hturn with
      | environment hmove => exact ih.stable (.single hmove)
      | statement hs => exact (ih _ .refl hs).2

/-- A property kept by the environment and by every allowed statement holds
wherever a handler that keeps its contract has come to, finished or not. -/
theorem Guards.invariant {h h' : Async ε σ α} {s t : σ} (hg : Guards C Q h s)
    (hrun : Executes C h s h' t) (hp : Stable C p) (hguar : ∀ s t, p s → C.guar s t → p t)
    (hs : p s) : p t := by
  suffices ∀ c : σ × Async ε σ α, ReflTransGen (Turn C) (s, h) c → p c.1 from this (t, h') hrun
  intro c hc
  induction hc with
  | refl => exact hs
  | tail hprev hturn ih =>
      cases hturn with
      | environment hmove => exact hp _ _ ih hmove
      | @statement s u n hassumes =>
          have hstmt := hg.executes (k := .stmt u n) hprev
          exact hguar _ _ ih (hstmt _ .refl hassumes).1

theorem Guards.answer {h : Async ε σ α} {s t : σ} {r : Except ε α} (hg : Guards C Q h s)
    (hrun : Executes C h s (.ofExcept r) t) : Q r t := by
  have hend := hg.executes hrun
  cases r with
  | ok a => exact hend t .refl
  | error e => exact hend t .refl

/-- Run alone where `p` holds, the handler answers. -/
def Succeeds (p : σ → Prop) (h : Async ε σ α) : Prop := ∀ s, p s → ∃ a, (h.run s).1 = .ok a

/-- What a handler promises of its answers holds where it has run alone. -/
theorem Returns.run {R : α → σ → Prop} {h : Async ε σ α} (hh : Returns C p h R)
    (hall : ∀ s, C.assumes s) {s t : σ} {a : α} (hs : p s) (hrun : h.run s = (.ok a, t)) : R a t := by
  have hexec := Executes.of_run hall h s
  rw [hrun] at hexec
  exact (hh.guards hs).answer (r := .ok a) hexec a rfl

namespace Succeeds

theorem done (a : α) : Succeeds p (.done a : Async ε σ α) := fun _ _ => ⟨a, rfl⟩

theorem conseq {h : Async ε σ α} (hh : Succeeds q h) (hp : ∀ s, p s → q s) : Succeeds p h :=
  fun s hs => hh s (hp s hs)

/-- The rest of the handler is judged where the first part promises to end. -/
theorem bind {R : β → σ → Prop} {h : Async ε σ β} {k : β → Async ε σ α} (hall : ∀ s, C.assumes s)
    (hreturns : Returns C p h R) (hh : Succeeds p h) (hk : ∀ b, Succeeds (R b) (k b)) :
    Succeeds p (h >>= k) := by
  intro s hs
  obtain ⟨b, hb⟩ := hh s hs
  have hrun : h.run s = (.ok b, (h.run s).2) := Prod.ext hb rfl
  rw [Async.run_bind, hrun]
  exact hk b _ (hreturns.run hall hs hrun)

theorem query_bind {q : σ → β} {k : β → Async ε σ α}
    (hk : ∀ s, p s → ∃ p', p' s ∧ Succeeds p' (k (q s))) : Succeeds p (.query q >>= k) := by
  intro s hs
  obtain ⟨q, hp', hk'⟩ := hk s hs
  exact hk' s hp'

theorem ensure {c : Prop} [Decidable c] {e : ε} (hc : ∀ s, p s → c) :
    Succeeds p (.ensure c e : Async ε σ Unit) :=
  fun s hs => ⟨(), by simp [Async.ensure, hc s hs]⟩

theorem ensure_bind {c : Prop} [Decidable c] {e : ε} {k : Unit → Async ε σ α}
    (hc : ∀ s, p s → c) (hk : Succeeds p (k ())) : Succeeds p (.ensure c e >>= k) := by
  intro s hs
  simp only [Async.ensure, if_pos (hc s hs), Async.done_bind]
  exact hk s hs

theorem ite {c : Prop} [Decidable c] {h k : Async ε σ α} (hh : c → Succeeds p h)
    (hk : ¬c → Succeeds p k) : Succeeds p (if c then h else k) := by
  split
  · exact hh ‹_›
  · exact hk ‹_›

end Succeeds

-- From here on a handler is judged by the rules; nothing evaluates it.
attribute [irreducible] Guards

end KubeNova.Foundation
