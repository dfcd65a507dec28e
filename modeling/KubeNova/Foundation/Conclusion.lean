import KubeNova.Foundation.RelyGuarantee

/-!
# How a handler ends

A handler that answers with its last statement, and does nothing of interest before:
`Concludes q fin` holds when every statement is a step `q`, unless it ends the handler
with an answer `a`, and then it is a step `fin a`.  In a pool of such handlers every
step is one of the environment, a `q`, or somebody's end (`Pool.moves`).
-/

namespace KubeNova.Foundation

open Relation

variable {ε σ α β ρ : Type}

def Async.isRunning : Async ε σ α → Bool
  | .done _ => false
  | .fail _ => true
  | .stmt _ _ => true

theorem Async.isRunning_bind (h : Async ε σ α) {k : α → Async ε σ β}
    (hk : ∀ a, (k a).isRunning = true) : (h >>= k).isRunning = true := by
  cases h with
  | done a => exact hk a
  | fail e => rfl
  | stmt u n => rfl

theorem Async.isRunning_tryCatch {h : Async ε σ α} {k : ε → Async ε σ α}
    (hh : h.isRunning = true) (hk : ∀ e, (k e).isRunning = true) :
    (h.tryCatch k).isRunning = true := by
  cases h with
  | done a => cases hh
  | fail e => exact hk e
  | stmt u n => rfl

/-- Every statement is a step `q`, and what the handler answers satisfies `P`. -/
def Quietly (q : σ → σ → Prop) (P : α → Prop) : Async ε σ α → Prop
  | .done a => P a
  | .fail _ => True
  | .stmt u n => ∀ s, q s (u s) ∧ Quietly q P (n s)

/-- Every statement is a step `q`, or the last one and a step `fin` with its answer. -/
def Concludes (q : σ → σ → Prop) (fin : α → σ → σ → Prop) : Async ε σ α → Prop
  | .done _ => True
  | .fail _ => True
  | .stmt u n => ∀ s, (∃ a, n s = .done a ∧ fin a s (u s)) ∨
      (q s (u s) ∧ (n s).isRunning = true ∧ Concludes q fin (n s))

variable {q : σ → σ → Prop}

namespace Quietly

variable {P : α → Prop} {R : β → Prop}

theorem done {a : α} (ha : P a) : Quietly q P (.done a : Async ε σ α) := ha

theorem fail (e : ε) : Quietly q P (.fail e : Async ε σ α) := trivial

theorem stmt_iff {u : σ → σ} {n : σ → Async ε σ α} :
    Quietly q P (.stmt u n) ↔ ∀ s, q s (u s) ∧ Quietly q P (n s) := Iff.rfl

theorem bind {h : Async ε σ α} {k : α → Async ε σ β} (hh : Quietly q P h)
    (hk : ∀ a, P a → Quietly q R (k a)) : Quietly q R (h >>= k) := by
  induction h with
  | done a => exact hk a hh
  | fail e => trivial
  | stmt u n ih => exact fun s => ⟨(hh s).1, ih s (hh s).2⟩

theorem mono {P' : α → Prop} {h : Async ε σ α} (hh : Quietly q P h) (hP : ∀ a, P a → P' a) :
    Quietly q P' h := by
  induction h with
  | done a => exact hP a hh
  | fail e => trivial
  | stmt u n ih => exact fun s => ⟨(hh s).1, ih s (hh s).2⟩

theorem ofExcept (r : Except ε α) : Quietly q (fun a => r = .ok a) (.ofExcept r : Async ε σ α) := by
  cases r with
  | ok a => rfl
  | error e => trivial

theorem ensure (c : Prop) [Decidable c] (e : ε) :
    Quietly q (fun _ => c) (.ensure c e : Async ε σ Unit) := by
  unfold Async.ensure
  split
  · exact ‹c›
  · trivial

theorem of_obeys {Q : Protocol σ} {h : Async ε σ α} (hh : Obeys Q h) (hall : ∀ s, Q.inv s)
    (hq : ∀ s t, Q.guar s t → q s t) : Quietly q (fun _ => True) h := by
  induction hh with
  | done a => trivial
  | fail e => trivial
  | stmt hstep _ ih => exact fun s => ⟨hq _ _ (hstep s (hall s)), ih s (hall s)⟩

end Quietly

namespace Concludes

variable {fin : α → σ → σ → Prop}

theorem done (a : α) : Concludes q fin (.done a : Async ε σ α) := trivial

theorem fail (e : ε) : Concludes q fin (.fail e : Async ε σ α) := trivial

theorem stmt_iff {u : σ → σ} {n : σ → Async ε σ α} :
    Concludes q fin (.stmt u n) ↔ ∀ s, (∃ a, n s = .done a ∧ fin a s (u s)) ∨
      (q s (u s) ∧ (n s).isRunning = true ∧ Concludes q fin (n s)) := Iff.rfl

theorem bind {P : β → Prop} {h : Async ε σ β} {k : β → Async ε σ α} (hh : Quietly q P h)
    (hrunning : ∀ b, P b → (k b).isRunning = true) (hk : ∀ b, P b → Concludes q fin (k b)) :
    Concludes q fin (h >>= k) := by
  induction h with
  | done b => exact hk b hh
  | fail e => trivial
  | stmt u n ih =>
      refine fun s => .inr ⟨(hh s).1, ?_, ih s (hh s).2⟩
      have hnext := (hh s).2
      show ((n s).bind k).isRunning = true
      cases hn : n s with
      | done b =>
          rw [hn] at hnext
          exact hrunning b hnext
      | fail e => rfl
      | stmt u' n' => rfl

theorem tryCatch {h : Async ε σ α} {k : ε → Async ε σ α} (hh : Concludes q fin h)
    (hrunning : ∀ e, (k e).isRunning = true) (hk : ∀ e, Concludes q fin (k e)) :
    Concludes q fin (h.tryCatch k) := by
  induction h with
  | done a => trivial
  | fail e => exact hk e
  | stmt u n ih =>
      intro s
      rcases hh s with ⟨a, hn, hfin⟩ | ⟨hstep, hnext, hrest⟩
      · exact .inl ⟨a, by simp [hn, Async.tryCatch], hfin⟩
      · refine .inr ⟨hstep, ?_, ih s hrest⟩
        exact Async.isRunning_tryCatch hnext hrunning

theorem mono {fin' : α → σ → σ → Prop} {h : Async ε σ α} (hh : Concludes q fin h)
    (hfin : ∀ a s t, fin a s t → fin' a s t) : Concludes q fin' h := by
  induction h with
  | done a => trivial
  | fail e => trivial
  | stmt u n ih =>
      intro s
      rcases hh s with ⟨a, hn, hend⟩ | ⟨hstep, hnext, hrest⟩
      · exact .inl ⟨a, hn, hfin a s (u s) hend⟩
      · exact .inr ⟨hstep, hnext, ih s hrest⟩

theorem map {f : α → β} {fin' : β → σ → σ → Prop} {h : Async ε σ α}
    (hh : Concludes q (fun a => fin' (f a)) h) :
    Concludes q fin' (h >>= fun a => .done (f a)) := by
  induction h with
  | done a => trivial
  | fail e => trivial
  | stmt u n ih =>
      intro s
      rcases hh s with ⟨a, hn, hfin⟩ | ⟨hstep, hnext, hrest⟩
      · refine .inl ⟨f a, ?_, hfin⟩
        show ((n s).bind fun a => .done (f a)) = .done (f a)
        rw [hn]
        rfl
      · refine .inr ⟨hstep, ?_, ih s hrest⟩
        show ((n s).bind fun a => .done (f a)).isRunning = true
        cases hn : n s with
        | done a =>
            rw [hn] at hnext
            cases hnext
        | fail e => rfl
        | stmt u' n' => rfl

theorem attempt {body : StateT σ (Except ε) α} (hq : ∀ s, q s s)
    (hbody : ∀ s a t, body s = .ok (a, t) → fin a s t) :
    Concludes q fin (.attempt body) := by
  intro s
  cases hrun : body s with
  | ok r => exact .inl ⟨r.1, by simp [hrun], by simpa [hrun] using hbody s r.1 r.2 hrun⟩
  | error e => exact .inr ⟨by simpa [hrun] using hq s, by simp [hrun, Async.isRunning],
      by simp [hrun, Concludes]⟩

/-- A handler over a component ends as its steps on the component do. -/
theorem zoom {τ : Type} {get : τ → σ} {set : σ → τ → τ} {q' : τ → τ → Prop}
    {fin' : α → τ → τ → Prop} {h : Async ε σ α} (hh : Concludes q fin h)
    (hq : ∀ t s, q (get t) s → q' t (set s t))
    (hfin : ∀ a t s, fin a (get t) s → fin' a t (set s t)) :
    Concludes q' fin' (h.zoom get set) := by
  induction h with
  | done a => trivial
  | fail e => trivial
  | stmt u n ih =>
      intro t
      rcases hh (get t) with ⟨a, hn, hend⟩ | ⟨hstep, hnext, hrest⟩
      · refine .inl ⟨a, ?_, hfin a t _ hend⟩
        show (n (get t)).zoom get set = .done a
        rw [hn]
        rfl
      · refine .inr ⟨hq t _ hstep, ?_, ih (get t) hrest⟩
        show ((n (get t)).zoom get set).isRunning = true
        cases hn : n (get t) with
        | done a =>
            rw [hn] at hnext
            cases hnext
        | fail e => rfl
        | stmt u' n' => rfl

/-- However far such a handler has come, whatever happened in between: the next
statement is quiet, or it ends the handler with an answer. -/
theorem executes {C : Contract σ} {h : Async ε σ α} (hh : Concludes q fin h) {s t : σ}
    {u : σ → σ} {n : σ → Async ε σ α} (hrun : Executes C h s (.stmt u n) t) :
    q t (u t) ∨ ∃ a, n t = .done a ∧ fin a t (u t) := by
  suffices ∀ c : σ × Async ε σ α, ReflTransGen (Turn C) (s, h) c → Concludes q fin c.2 from
    ((this (t, .stmt u n) hrun) t).symm.imp_left And.left
  intro c hc
  induction hc with
  | refl => exact hh
  | tail _ hturn ih =>
      cases hturn with
      | environment => exact ih
      | @statement s u n _ =>
          rcases ih s with ⟨a, hdone, -⟩ | ⟨-, -, hnext⟩
          · show Concludes q fin (n s)
            rw [hdone]
            trivial
          · exact hnext

end Concludes

def readOnly : Protocol σ := ⟨fun _ => True, Eq, fun _ => rfl, fun _ _ => trivial⟩

namespace Quietly

theorem of_readOnly {h : Async ε σ α} (hh : Obeys readOnly h) : Quietly Eq (fun _ => True) h :=
  .of_obeys hh (fun _ => trivial) fun _ _ heq => heq

theorem of_ofExcept (r : Except ε α) : Quietly Eq (fun _ => True) (.ofExcept r : Async ε σ α) :=
  (Quietly.ofExcept r).mono fun _ _ => trivial

theorem of_ensure (c : Prop) [Decidable c] (e : ε) :
    Quietly Eq (fun _ => True) (.ensure c e : Async ε σ Unit) :=
  (Quietly.ensure c e).mono fun _ _ => trivial

theorem of_query (q : σ → α) : Quietly Eq (fun _ => True) (.query q : Async ε σ α) :=
  .of_readOnly (.query q)

end Quietly

/-- The handler answers with its last statement, and changes nothing before. -/
structure EndsWith (fin : α → σ → σ → Prop) (h : Async ε σ α) : Prop where
  running : h.isRunning = true
  concludes : Concludes Eq fin h

namespace EndsWith

variable {fin : α → σ → σ → Prop}

theorem guard {P : β → Prop} {h : Async ε σ β} {k : β → Async ε σ α}
    (hh : Quietly Eq P h) (hk : ∀ b, P b → EndsWith fin (k b))
    (hrunning : ∀ b, (k b).isRunning = true) : EndsWith fin (h >>= k) where
  running := Async.isRunning_bind h hrunning
  concludes := .bind hh (fun b _ => hrunning b) fun b hb => (hk b hb).concludes

theorem skip {h : Async ε σ β} {k : β → Async ε σ α}
    (hh : Quietly Eq (fun _ => True) h) (hk : ∀ b, EndsWith fin (k b)) : EndsWith fin (h >>= k) :=
  .guard hh (fun b _ => hk b) fun b => (hk b).running

theorem zoom {τ : Type} {get : τ → σ} {set : σ → τ → τ} {fin' : α → τ → τ → Prop}
    {h : Async ε σ α} (hh : EndsWith fin h) (hset : ∀ t, set (get t) t = t)
    (hfin : ∀ a t s, fin a (get t) s → fin' a t (set s t)) : EndsWith fin' (h.zoom get set) where
  running := by
    have hrunning := hh.running
    cases h with
    | done a => cases hrunning
    | fail e => rfl
    | stmt u n => rfl
  concludes := by
    refine hh.concludes.zoom (fun t s hs => ?_) hfin
    subst hs
    exact (hset t).symm

theorem map {f : α → β} {fin' : β → σ → σ → Prop} {h : Async ε σ α}
    (hh : EndsWith (fun a => fin' (f a)) h) : EndsWith fin' (h >>= fun a => .done (f a)) where
  running := by
    have hrunning := hh.running
    cases h with
    | done a => cases hrunning
    | fail e => rfl
    | stmt u n => rfl
  concludes := hh.concludes.map

theorem attempt {body : StateT σ (Except ε) α}
    (hbody : ∀ a s t, body s = .ok (a, t) → fin a s t) : EndsWith fin (.attempt body) where
  running := rfl
  concludes := .attempt (fun _ => rfl) fun s a t h => hbody a s t h

end EndsWith

/-- In this step a handler ends with the answer `a`. -/
def Pool.Ends (c c' : Pool ε σ ρ) (a : ρ) : Prop :=
  ∃ s l r u n, c = ⟨s, l ++ .stmt u n :: r⟩ ∧ c' = ⟨u s, l ++ .done a :: r⟩ ∧ n s = .done a

variable {start : Async ε σ ρ → Prop} {env : σ → σ → Prop} {fin : ρ → σ → σ → Prop}

theorem Pool.Ends.step {c c' : Pool ε σ ρ} {a : ρ} (h : c.Ends c' a) : Step start env c c' := by
  obtain ⟨s, l, r, u, n, rfl, rfl, hn⟩ := h
  rw [← hn]
  exact .statement u n

/-- The answer with which the next statement of the handler at position `i` ends it. -/
def Pool.nextAnswer (c : Pool ε σ ρ) (i : Nat) : Option ρ :=
  match c.handlers[i]? with
  | some (.stmt _ n) => match n c.shared with
      | .done a => some a
      | _ => none
  | _ => none

theorem Pool.ends_advance {c : Pool ε σ ρ} {i : Nat} {a : ρ} (h : c.nextAnswer i = some a) :
    c.Ends (c.advance i) a := by
  rcases c with ⟨s, l⟩
  unfold Pool.nextAnswer at h
  split at h
  · rename_i u n hi
    split at h
    · rename_i b hn
      obtain rfl : b = a := Option.some.inj h
      obtain ⟨hlt, hget⟩ := List.getElem?_eq_some_iff.mp hi
      obtain ⟨before, after, hl, -, hset⟩ := @List.exists_of_set _ _ (n s) _ hlt
      rw [hget] at hl
      have hn' : n s = .done b := hn
      have hpool : (⟨s, l⟩ : Pool ε σ ρ) = ⟨s, before ++ .stmt u n :: after⟩ := congrArg _ hl
      have hadvance : (⟨s, l⟩ : Pool ε σ ρ).advance i = ⟨u s, l.set i (n s)⟩ := by
        simp only [Pool.advance, hi]
      have hafter : l.set i (n s) = before ++ .done b :: after := hset.trans (by rw [hn'])
      exact ⟨s, before, after, u, n, hpool, hadvance.trans (by rw [hafter]), hn'⟩
    · cases h
  · cases h

def Pool.Concluding (q : σ → σ → Prop) (fin : ρ → σ → σ → Prop) (c : Pool ε σ ρ) : Prop :=
  ∀ h ∈ c.handlers, Concludes q fin h

namespace Pool.Concluding

theorem ends {c c' : Pool ε σ ρ} {a : ρ} (hc : c.Concluding q fin) (h : c.Ends c' a) :
    fin a c.shared c'.shared := by
  obtain ⟨s, l, r, u, n, rfl, rfl, hn⟩ := h
  rcases hc (.stmt u n) (by simp) s with ⟨b, hdone, hfin⟩ | ⟨-, hrunning, -⟩
  · rw [hn] at hdone
    cases hdone
    exact hfin
  · rw [hn] at hrunning
    cases hrunning

theorem moves {c c' : Pool ε σ ρ} (hc : c.Concluding q fin) (hq : ∀ s, q s s)
    (henv : ∀ s t, env s t → q s t) (h : Step start env c c') :
    q c.shared c'.shared ∨ ∃ a, c.Ends c' a ∧ fin a c.shared c'.shared := by
  cases h with
  | arrive h hh => exact .inl (hq _)
  | crash h => exact .inl (hq _)
  | environment hst => exact .inl (henv _ _ hst)
  | @statement s l r u n =>
      rcases hc (.stmt u n) (by simp) s with ⟨a, hdone, hfin⟩ | ⟨hquiet, -, -⟩
      · exact .inr ⟨a, ⟨s, l, r, u, n, rfl, by rw [hdone], hdone⟩, hfin⟩
      · exact .inl hquiet

theorem step {c c' : Pool ε σ ρ} (hstart : ∀ h, start h → Concludes q fin h)
    (hc : c.Concluding q fin) (h : Step start env c c') : c'.Concluding q fin := by
  cases h with
  | arrive h hh =>
      intro g hg
      rcases List.mem_append.mp hg with hold | hnew
      · exact hc g hold
      · rw [List.mem_singleton.mp hnew]
        exact hstart h hh
  | crash h =>
      intro g hg
      rcases List.mem_append.mp hg with hl | hr
      · exact hc g (by simp [hl])
      · exact hc g (by simp [hr])
  | environment hst => exact hc
  | @statement s l r u n =>
      intro g hg
      rcases List.mem_append.mp hg with hl | hr
      · exact hc g (by simp [hl])
      rcases List.mem_cons.mp hr with rfl | hr
      · rcases hc (.stmt u n) (by simp) s with ⟨a, hdone, -⟩ | ⟨-, -, hnext⟩
        · rw [hdone]
          trivial
        · exact hnext
      · exact hc g (by simp [hr])

theorem run {c c' : Pool ε σ ρ} (hstart : ∀ h, start h → Concludes q fin h)
    (hc : c.Concluding q fin) (hrun : ReflTransGen (Step start env) c c') :
    c'.Concluding q fin := by
  induction hrun with
  | refl => exact hc
  | tail _ hstep ih => exact ih.step hstart hstep

theorem of_reach {init : σ} {c : Pool ε σ ρ} (hstart : ∀ h, start h → Concludes q fin h)
    (hc : Reach start env init c) : c.Concluding q fin :=
  run hstart (fun h hh => absurd hh (List.not_mem_nil (a := h))) hc

end Pool.Concluding

attribute [irreducible] Quietly Concludes

end KubeNova.Foundation
