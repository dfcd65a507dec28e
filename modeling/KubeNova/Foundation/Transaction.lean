import KubeNova.Foundation.Conclusion

/-!
# Transactions among other handlers

An interactive transaction is a chain of statements that others may come between.
What it has written is its own until the commit: a read sees the committed state
through these writes (`Tx.read`), and `Tx.commit` applies all of them to the state of
that moment, or none when one of them is refused there.
-/

namespace KubeNova.Foundation

variable {ε σ ω α β : Type}

/-- The writes of a transaction in order, refused as a whole with the first that is refused. -/
def applyAll (apply : ω → σ → Except ε σ) : List ω → σ → Except ε σ
  | [], s => .ok s
  | w :: ws, s => apply w s >>= applyAll apply ws

section ApplyAll

variable {apply : ω → σ → Except ε σ}

theorem applyAll_append (ws vs : List ω) (s : σ) :
    applyAll apply (ws ++ vs) s = applyAll apply ws s >>= applyAll apply vs := by
  induction ws generalizing s with
  | nil => rfl
  | cons w ws ih =>
      simp only [List.cons_append, applyAll]
      cases apply w s with
      | ok t => exact ih t
      | error e => rfl

/-- Before the last write that was not refused, all the others were not refused. -/
theorem applyAll_concat_eq_ok {ws : List ω} {w : ω} {s u : σ}
    (h : applyAll apply (ws ++ [w]) s = .ok u) :
    ∃ t, applyAll apply ws s = .ok t ∧ apply w t = .ok u := by
  rw [applyAll_append] at h
  obtain ⟨t, ht, hu⟩ := exists_of_bind_eq_ok h
  obtain ⟨v, hv, hlast⟩ := exists_of_bind_eq_ok hu
  obtain rfl : v = u := Except.ok.inj hlast
  exact ⟨t, ht, hv⟩

theorem applyAll_induction {p : σ → Prop} {ws : List ω}
    (hstep : ∀ w ∈ ws, ∀ s t, p s → apply w s = .ok t → p t) {s t : σ} (hs : p s)
    (h : applyAll apply ws s = .ok t) : p t := by
  induction ws generalizing s with
  | nil =>
      obtain rfl : s = t := Except.ok.inj h
      exact hs
  | cons w ws ih =>
      obtain ⟨u, hu, hrest⟩ := exists_of_bind_eq_ok h
      exact ih (fun v hv => hstep v (List.mem_cons_of_mem w hv))
        (hstep w List.mem_cons_self s u hs hu) hrest

end ApplyAll

/-- The body of a transaction, which carries along what it has written so far. -/
abbrev Tx (ε σ ω α : Type) := StateT (List ω) (Async ε σ) α

namespace Tx

variable (apply : ω → σ → Except ε σ)

/-- A query, answered by the committed state with the transaction's own writes. -/
def read (q : σ → α) : Tx ε σ ω α := fun ws =>
  .stmt id fun s => match applyAll apply ws s with
    | .ok t => .done (q t, ws)
    | .error e => .fail e

def write (w : ω) : Tx ε σ ω Unit := fun ws =>
  .stmt id fun s => match applyAll apply (ws ++ [w]) s with
    | .ok _ => .done ((), ws ++ [w])
    | .error e => .fail e

/-- Stop the transaction with the error unless the condition holds. -/
def ensure (c : Prop) [Decidable c] (e : ε) : Tx ε σ ω Unit := fun ws =>
  if c then .done ((), ws) else .fail e

def ofExcept (r : Except ε α) : Tx ε σ ω α := fun ws =>
  match r with
  | .ok a => .done (a, ws)
  | .error e => .fail e

/-- `$transaction(body)`. -/
def commit (body : Tx ε σ ω α) : Async ε σ α :=
  body [] >>= fun r => .attempt fun s => (applyAll apply r.2 s).map fun t => (r.1, t)

section Obeys

variable {apply} {P : Protocol σ}

theorem obeys_read (q : σ → α) (ws : List ω) : Obeys P (read apply q ws) := by
  refine .stmt (fun t _ => P.refl t) fun t _ => ?_
  cases applyAll apply ws t with
  | ok u => exact .done _
  | error e => exact .fail _

theorem obeys_write (w : ω) (ws : List ω) : Obeys P (write apply w ws) := by
  refine .stmt (fun t _ => P.refl t) fun t _ => ?_
  cases applyAll apply (ws ++ [w]) t with
  | ok u => exact .done _
  | error e => exact .fail _

theorem obeys_ensure (c : Prop) [Decidable c] (e : ε) (ws : List ω) :
    Obeys P (ensure c e ws : Async ε σ (Unit × List ω)) :=
  .ite (.done _) (.fail e)

theorem obeys_bind {body : Tx ε σ ω α} {k : α → Tx ε σ ω β} {ws : List ω}
    (hbody : Obeys P (body ws)) (hk : ∀ a vs, Obeys P (k a vs)) : Obeys P ((body >>= k) ws) :=
  .bind hbody fun r => hk r.1 r.2

/-- Where steps compose, a transaction obeys what each of its writes obeys. -/
theorem obeys_commit {body : Tx ε σ ω α} (hbody : Obeys P (body []))
    (htrans : ∀ s t u, P.inv s → P.guar s t → P.guar t u → P.guar s u)
    (happly : ∀ w s t, P.inv s → apply w s = .ok t → P.guar s t) :
    Obeys P (commit apply body) := by
  refine .bind hbody fun r => .attempt fun s hs a u h => ?_
  obtain ⟨t, ht, hu⟩ : ∃ t, applyAll apply r.2 s = .ok t ∧ t = u := by
    cases hall : applyAll apply r.2 s with
    | ok t =>
        rw [hall] at h
        exact ⟨t, rfl, (Prod.mk.inj (Except.ok.inj h)).2⟩
    | error e =>
        rw [hall] at h
        cases h
  subst hu
  refine applyAll_induction (p := fun v => P.guar s v) (fun w _ v v' hv hw => ?_) (P.refl s) ht
  exact htrans s v v' hs hv (happly w v v' (P.preserves hs hv) hw)

end Obeys

section Returns

variable {apply} {C : Contract σ} {p : σ → Prop} {ws : List ω}

theorem returns_read (hp : Stable C p) {q : σ → α} {R : α × List ω → σ → Prop}
    (hq : ∀ s t, p s → applyAll apply ws s = .ok t → R (q t, ws) s) (hR : ∀ r, Stable C (R r)) :
    Returns C p (read apply q ws) R := by
  intro s hs
  refine Guards.stmt_iff.mpr fun t hst _ => ⟨C.refl t, ?_⟩
  show Guards C _ (match applyAll apply ws t with
    | .ok t => .done (q t, ws)
    | .error e => .fail e) t
  cases hall : applyAll apply ws t with
  | ok u => exact (Returns.done (hR _) fun _ h => h).guards (hq t u (hp.rely hs hst) hall)
  | error e => exact (Returns.fail (R := R) Stable.true).guards (s := t) trivial

theorem returns_write (hp : Stable C p) (w : ω) :
    Returns C p (write apply w ws) fun r s => r.2 = ws ++ [w] ∧ p s := by
  intro s hs
  refine Guards.stmt_iff.mpr fun t hst _ => ⟨C.refl t, ?_⟩
  show Guards C _ (match applyAll apply (ws ++ [w]) t with
    | .ok _ => .done ((), ws ++ [w])
    | .error e => .fail e) t
  have hstable : Stable C fun s => ws ++ [w] = ws ++ [w] ∧ p s :=
    fun s t h hmove => ⟨rfl, hp s t h.2 hmove⟩
  cases applyAll apply (ws ++ [w]) t with
  | ok u => exact (Returns.done hstable fun _ h => h).guards ⟨rfl, hp.rely hs hst⟩
  | error e => exact (Returns.fail Stable.true).guards (s := t) trivial

theorem returns_bind {body : Tx ε σ ω α} {k : α → Tx ε σ ω β} {S : α × List ω → σ → Prop}
    {R : β × List ω → σ → Prop} (hbody : Returns C p (body ws) S)
    (hk : ∀ a vs, Returns C (S (a, vs)) (k a vs) R) : Returns C p ((body >>= k) ws) R :=
  .bind hbody fun r => hk r.1 r.2

theorem returns_ensure (hp : Stable C p) (c : Prop) [Decidable c] (e : ε) :
    Returns C p (ensure c e ws : Async ε σ (Unit × List ω)) fun r s => r.2 = ws ∧ p s := by
  have hstable : Stable C fun s => ws = ws ∧ p s := fun s t h hmove => ⟨rfl, hp s t h.2 hmove⟩
  refine .ite (fun _ => ?_) fun _ => .fail hp
  exact fun s hs => (Returns.done hstable fun _ h => h).guards ⟨rfl, hs⟩

/-- The commit is judged by what the writes do together to a state the body leads to. -/
theorem returns_commit {body : Tx ε σ ω α} {J : List ω → σ → Prop} {R : α → σ → Prop}
    (hbody : Returns C p (body []) fun r s => J r.2 s) (hJ : ∀ ws, Stable C (J ws))
    (hcommit : ∀ ws a s t, J ws s → C.assumes s → applyAll apply ws s = .ok t →
      C.guar s t ∧ R a t) (hR : ∀ a, Stable C (R a)) : Returns C p (commit apply body) R := by
  refine .bind hbody fun r => .attempt (hJ r.2) (fun s a u hs hassumes h => ?_) hR
  cases hall : applyAll apply r.2 s with
  | ok t =>
      rw [hall] at h
      obtain ⟨rfl, rfl⟩ := Prod.mk.inj (Except.ok.inj h)
      exact hcommit r.2 r.1 s t hs hassumes hall
  | error e =>
      rw [hall] at h
      cases h

end Returns

theorem isRunning_commit (apply : ω → σ → Except ε σ) (body : Tx ε σ ω α) :
    (commit apply body).isRunning = true :=
  Async.isRunning_bind _ fun _ => rfl

/-- A transaction changes nothing but by its commit, which ends it. -/
theorem concludes_commit {apply : ω → σ → Except ε σ} {body : Tx ε σ ω α} {q : σ → σ → Prop}
    {fin : α → σ → σ → Prop} {P : α × List ω → Prop} (hq : ∀ s, q s s)
    (hbody : Quietly q P (body []))
    (hcommit : ∀ a ws s t, P (a, ws) → applyAll apply ws s = .ok t → fin a s t) :
    Concludes q fin (commit apply body) := by
  refine .bind hbody (fun r _ => rfl) fun r hr => .attempt hq fun s a t h => ?_
  cases hall : applyAll apply r.2 s with
  | ok u =>
      rw [hall] at h
      obtain ⟨rfl, rfl⟩ := Prod.mk.inj (Except.ok.inj h)
      exact hcommit r.1 r.2 s u hr hall
  | error e =>
      rw [hall] at h
      cases h

theorem quietly_read {apply : ω → σ → Except ε σ} {f : σ → α} {ws : List ω} {q : σ → σ → Prop}
    {P : α × List ω → Prop} (hq : ∀ s, q s s)
    (hf : ∀ s t, applyAll apply ws s = .ok t → P (f t, ws)) : Quietly q P (read apply f ws) := by
  refine Quietly.stmt_iff.mpr fun s => ⟨hq s, ?_⟩
  show Quietly q P (match applyAll apply ws s with
    | .ok t => .done (f t, ws)
    | .error e => .fail e)
  cases hall : applyAll apply ws s with
  | ok t => exact .done (hf s t hall)
  | error e => exact .fail e

theorem quietly_write {apply : ω → σ → Except ε σ} {w : ω} {ws : List ω} {q : σ → σ → Prop}
    {P : Unit × List ω → Prop} (hq : ∀ s, q s s) (hP : P ((), ws ++ [w])) :
    Quietly q P (write apply w ws) := by
  refine Quietly.stmt_iff.mpr fun s => ⟨hq s, ?_⟩
  show Quietly q P (match applyAll apply (ws ++ [w]) s with
    | .ok _ => .done ((), ws ++ [w])
    | .error e => .fail e)
  cases applyAll apply (ws ++ [w]) s with
  | ok t => exact .done hP
  | error e => exact .fail e

theorem quietly_ensure {ws : List ω} {q : σ → σ → Prop} {P : Unit × List ω → Prop} (c : Prop)
    [Decidable c] (e : ε) (hP : c → P ((), ws)) :
    Quietly q P (ensure c e ws : Async ε σ (Unit × List ω)) := by
  unfold ensure
  split
  · exact .done (hP ‹_›)
  · exact .fail e

theorem quietly_ofExcept {ws : List ω} {q : σ → σ → Prop} {P : α × List ω → Prop}
    (r : Except ε α) (hP : ∀ a, r = .ok a → P (a, ws)) :
    Quietly q P (ofExcept r ws : Async ε σ (α × List ω)) := by
  cases r with
  | ok a => exact .done (hP a rfl)
  | error e => exact .fail e

theorem quietly_bind {body : Tx ε σ ω α} {k : α → Tx ε σ ω β} {ws : List ω} {q : σ → σ → Prop}
    {P : α × List ω → Prop} {Q : β × List ω → Prop} (hbody : Quietly q P (body ws))
    (hk : ∀ a vs, P (a, vs) → Quietly q Q (k a vs)) : Quietly q Q ((body >>= k) ws) :=
  .bind hbody fun r hr => hk r.1 r.2 hr

/-- A body that has written nothing more, and what comes after it. -/
theorem quietly_then {body : Tx ε σ ω α} {k : α → Tx ε σ ω β} {ws : List ω} {q : σ → σ → Prop}
    {Q : β × List ω → Prop} (hbody : Quietly q (fun r => r.2 = ws) (body ws))
    (hk : ∀ a, Quietly q Q (k a ws)) : Quietly q Q ((body >>= k) ws) := by
  refine quietly_bind hbody fun a vs hvs => ?_
  obtain rfl : vs = ws := hvs
  exact hk a

end Tx
end KubeNova.Foundation
