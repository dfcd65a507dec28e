import KubeNova.Foundation.RelyGuarantee

/-!
# Tokens that one handler holds

What only the handler may do that earned the right to it.  A step may hand its
handler a token that nobody has, and a handler may spend the token it holds; a
token is never in two hands.  What every step keeps, so counted, holds in every
state a pool reaches (`TokenProtocol.reachable`).
-/

namespace KubeNova.Foundation

open Relation

/-- One step of a party that holds the first token and holds the second one
afterwards, and which tokens are out in a state. -/
structure TokenProtocol (σ τ : Type) where
  inv : σ → Prop
  step : Option τ → σ → σ → Option τ → Prop
  out : τ → σ → Prop
  refl : ∀ a s, step a s s a
  preserves : ∀ {a b s t}, inv s → (∀ x ∈ a, out x s) → step a s t b → inv t
  /-- A token is handed out when it is not out yet. -/
  fresh : ∀ {a s t x}, step a s t (some x) → a = some x ∨ ¬out x s
  held : ∀ {a s t x}, inv s → step a s t (some x) → (∀ y ∈ a, out y s) → out x t
  /-- Nobody spends the token of another. -/
  keeps : ∀ {a b s t x}, step a s t b → out x s → a ≠ some x → out x t

namespace TokenProtocol

variable {ε σ τ α β ρ : Type} (T : TokenProtocol σ τ)

/-- A step of somebody who does not hold the token. -/
def others (tok : Option τ) (s t : σ) : Prop :=
  T.inv s ∧ ∃ a b, T.step a s t b ∧ ∀ x ∈ tok, a ≠ some x

/-- From the state `s` on, each statement of the handler is a step with the token
it then holds, whatever the others do. -/
def Safe : Async ε σ α → Option τ → σ → Prop
  | .done _, _, _ => True
  | .fail _, _, _ => True
  | .stmt u n, tok, s => ∀ t, ReflTransGen (T.others tok) s t → T.inv t → (∀ x ∈ tok, T.out x t) →
      ∃ tok', T.step tok t (u t) tok' ∧ Safe (n t) tok' (u t)

variable {T}

theorem Safe.stable {h : Async ε σ α} {tok : Option τ} {s t : σ} (hh : T.Safe h tok s)
    (hst : ReflTransGen (T.others tok) s t) : T.Safe h tok t := by
  cases h with
  | done a => trivial
  | fail e => trivial
  | stmt u n => exact fun v htv => hh v (hst.trans htv)

theorem Safe.map {h : Async ε σ α} {tok : Option τ} {s : σ} (hh : T.Safe h tok s) (f : α → β) :
    T.Safe (h >>= fun a => .done (f a)) tok s := by
  induction h generalizing tok s with
  | done a => trivial
  | fail e => trivial
  | stmt u n ih =>
      intro t hst ht hout
      obtain ⟨tok', hstep, hnext⟩ := hh t hst ht hout
      exact ⟨tok', hstep, ih t hnext⟩

/-! ## Triples -/

/-- The others keep `p`. -/
def StableFor (T : TokenProtocol σ τ) (tok : Option τ) (p : σ → Prop) : Prop :=
  ∀ s t, p s → T.others tok s t → p t

theorem StableFor.rely {tok : Option τ} {p : σ → Prop} (hp : StableFor T tok p) {s t : σ}
    (hs : p s) (hst : ReflTransGen (T.others tok) s t) : p t := by
  induction hst with
  | refl => exact hs
  | tail _ hmove ih => exact hp _ _ ih hmove

theorem StableFor.true (tok : Option τ) : StableFor T tok fun _ => True := fun _ _ _ _ => trivial

/-- Holding the token where `p` holds, the handler is safe. -/
def Holds (T : TokenProtocol σ τ) (tok : Option τ) (p : σ → Prop) (h : Async ε σ α) : Prop :=
  ∀ s, p s → T.Safe h tok s

namespace Holds

variable {tok : Option τ} {p : σ → Prop}

theorem done (a : α) : Holds T tok p (.done a : Async ε σ α) := fun _ _ => trivial

theorem fail (e : ε) : Holds T tok p (.fail e : Async ε σ α) := fun _ _ => trivial

theorem conseq {p' : σ → Prop} {h : Async ε σ α} (hh : Holds T tok p' h) (hp : ∀ s, p s → p' s) :
    Holds T tok p h :=
  fun s hs => hh s (hp s hs)

theorem ofExcept (r : Except ε α) : Holds T tok p (.ofExcept r : Async ε σ α) := by
  cases r with
  | ok a => exact done a
  | error e => exact fail e

theorem ite {c : Prop} [Decidable c] {h k : Async ε σ α} (hh : c → Holds T tok p h)
    (hk : ¬c → Holds T tok p k) : Holds T tok p (if c then h else k) := by
  split
  · exact hh ‹_›
  · exact hk ‹_›

theorem ensure_bind {c : Prop} [Decidable c] {e : ε} {k : Unit → Async ε σ α}
    (hk : c → Holds T tok p (k ())) : Holds T tok p (.ensure c e >>= k) := by
  unfold Async.ensure
  split
  · exact hk ‹_›
  · exact fail e

theorem query_bind (hp : StableFor T tok p) {q : σ → β} {k : β → Async ε σ α}
    (hk : ∀ s, p s → T.inv s → ∃ p', p' s ∧ Holds T tok p' (k (q s))) :
    Holds T tok p (.query q >>= k) := by
  intro s hs t hst ht _
  obtain ⟨p', hp', hk'⟩ := hk t (hp.rely hs hst) ht
  exact ⟨tok, T.refl tok t, hk' t hp'⟩

theorem exec_bind (hp : StableFor T tok p) {f : σ → β × σ} {k : β → Async ε σ α}
    (hf : ∀ s, p s → T.inv s → (∀ x ∈ tok, T.out x s) → ∃ tok' p', T.step tok s (f s).2 tok' ∧
      p' (f s).2 ∧ Holds T tok' p' (k (f s).1)) : Holds T tok p (.exec f >>= k) := by
  intro s hs t hst ht hout
  obtain ⟨tok', p', hstep, hp', hk⟩ := hf t (hp.rely hs hst) ht hout
  exact ⟨tok', hstep, hk _ hp'⟩

theorem attempt_bind (hp : StableFor T tok p) {body : StateT σ (Except ε) β}
    {k : β → Async ε σ α}
    (hbody : ∀ s b t, p s → T.inv s → body s = .ok (b, t) → ∃ p', T.step tok s t tok ∧ p' t ∧
      Holds T tok p' (k b)) : Holds T tok p (.attempt body >>= k) := by
  intro s hs t hst ht _
  cases hrun : body t with
  | ok r =>
      obtain ⟨p', hstep, hp', hk⟩ := hbody t r.1 r.2 (hp.rely hs hst) ht hrun
      refine ⟨tok, ?_, ?_⟩
      · simpa only [hrun] using hstep
      · simp only [hrun]
        exact hk _ hp'
  | error e =>
      refine ⟨tok, ?_, ?_⟩
      · simpa only [hrun] using T.refl tok t
      · simp only [hrun]
        trivial

theorem of_obeys {P : Protocol σ} {h : Async ε σ α} (hh : Obeys P h)
    (hinv : ∀ s, T.inv s → P.inv s)
    (hstep : ∀ s t, T.inv s → P.guar s t → T.step tok s t tok) : Holds T tok p h := by
  suffices ∀ s, T.Safe h tok s from fun s _ => this s
  intro s
  induction hh generalizing s with
  | done a => trivial
  | fail e => trivial
  | stmt hguar _ ih =>
      exact fun t _ ht _ => ⟨tok, hstep _ _ ht (hguar t (hinv t ht)), ih t (hinv t ht) _⟩

end Holds

structure Shared (T : TokenProtocol σ τ) (c : Pool ε σ ρ) : Prop where
  inv : T.inv c.shared
  tokens : ∃ hands : List (Async ε σ ρ × Option τ), hands.map Prod.fst = c.handlers ∧
    (∀ p ∈ hands, T.Safe p.1 p.2 c.shared ∧ ∀ x ∈ p.2, T.out x c.shared) ∧
    hands.Pairwise fun p q => ∀ x ∈ p.2, q.2 ≠ some x

theorem hand_of_step {h : Async ε σ ρ} {tok a b : Option τ} {s t : σ} (hs : T.inv s)
    (hh : T.Safe h tok s ∧ ∀ x ∈ tok, T.out x s) (hstep : T.step a s t b)
    (hother : ∀ x ∈ tok, a ≠ some x) : T.Safe h tok t ∧ ∀ x ∈ tok, T.out x t :=
  ⟨hh.1.stable (.single ⟨hs, a, b, hstep, hother⟩),
    fun x hx => T.keeps hstep (hh.2 x hx) (hother x hx)⟩

variable {start : Async ε σ ρ → Prop} {env : σ → σ → Prop}

theorem Shared.statement {s : σ} {l r : List (Async ε σ ρ)} {u : σ → σ} {n : σ → Async ε σ ρ}
    (hc : T.Shared ⟨s, l ++ .stmt u n :: r⟩) : T.Shared ⟨u s, l ++ n s :: r⟩ := by
  obtain ⟨hands, hmap, hsafe, hpair⟩ := hc.tokens
  obtain ⟨before, rest, rfl, rfl, hrest⟩ := List.map_eq_append_iff.mp hmap
  obtain ⟨⟨h, tok⟩, after, rfl, hhand, rfl⟩ := List.map_eq_cons_iff.mp hrest
  obtain rfl : h = .stmt u n := hhand
  have hmine := hsafe (.stmt u n, tok) (by simp)
  obtain ⟨tok', hstep, hnext⟩ := hmine.1 s .refl hc.inv hmine.2
  obtain ⟨hbefore, hlater, hcross⟩ := List.pairwise_append.mp hpair
  obtain ⟨hfirst, hafter⟩ := List.pairwise_cons.mp hlater
  -- The token handed out now is in no other hand: those tokens are out already.
  have hnew : ∀ q ∈ before ++ after, ∀ x ∈ tok', q.2 ≠ some x := by
    intro q hq x hx hsame
    have hqout : T.out x s := by
      refine (hsafe q ?_).2 x hsame
      rcases List.mem_append.mp hq with hq | hq
      · exact List.mem_append_left _ hq
      · exact List.mem_append_right _ (List.mem_cons_of_mem _ hq)
    rcases T.fresh (hx ▸ hstep : T.step tok s (u s) (some x)) with hold | hnot
    · rcases List.mem_append.mp hq with hq | hq
      · exact hcross q hq _ List.mem_cons_self x hsame hold
      · exact hfirst q hq x hold hsame
    · exact hnot hqout
  have hothers : ∀ q ∈ before ++ after, ∀ x ∈ q.2, tok ≠ some x := by
    intro q hq x hx hsame
    rcases List.mem_append.mp hq with hq | hq
    · exact hcross q hq _ List.mem_cons_self x hx hsame
    · exact hfirst q hq x hsame hx
  refine ⟨T.preserves hc.inv hmine.2 hstep, before ++ (n s, tok') :: after, by simp, ?_, ?_⟩
  · intro q hq
    rcases List.mem_append.mp hq with hq | hq
    · exact hand_of_step hc.inv (hsafe q (List.mem_append_left _ hq)) hstep
        (hothers q (List.mem_append_left _ hq))
    · rcases List.mem_cons.mp hq with rfl | hq
      · refine ⟨hnext, fun x hx => T.held (a := tok) (s := s) hc.inv ?_ hmine.2⟩
        exact hx ▸ hstep
      · exact hand_of_step hc.inv
          (hsafe q (List.mem_append_right _ (List.mem_cons_of_mem _ hq))) hstep
          (hothers q (List.mem_append_right _ hq))
  · refine List.pairwise_append.mpr ⟨hbefore, List.pairwise_cons.mpr ⟨?_, hafter⟩, ?_⟩
    · exact fun q hq x hx => hnew q (List.mem_append_right _ hq) x hx
    · intro p hp q hq x hx
      rcases List.mem_cons.mp hq with rfl | hq
      · exact fun hsame => hnew p (List.mem_append_left _ hp) x hsame hx
      · exact hcross p hp q (List.mem_cons_of_mem _ hq) x hx

theorem Shared.step (hstart : ∀ h s, start h → T.Safe h none s)
    (henv : ∀ s t, T.inv s → env s t → T.step none s t none) {c c' : Pool ε σ ρ}
    (hc : T.Shared c) (hstep : Step start env c c') : T.Shared c' := by
  cases hstep with
  | @arrive s l h hh =>
      obtain ⟨hands, hmap, hsafe, hpair⟩ := hc.tokens
      refine ⟨hc.inv, hands ++ [(h, none)], by simp [hmap], ?_, ?_⟩
      · intro p hp
        rcases List.mem_append.mp hp with hp | hp
        · exact hsafe p hp
        · rw [List.mem_singleton.mp hp]
          exact ⟨hstart h _ hh, fun x hx => nomatch hx⟩
      · refine List.pairwise_append.mpr ⟨hpair, List.pairwise_singleton _ _, ?_⟩
        intro p _ q hq x _
        rw [List.mem_singleton.mp hq]
        exact fun h => nomatch h
  | statement u n => exact hc.statement
  | @crash s l r h =>
      obtain ⟨hands, hmap, hsafe, hpair⟩ := hc.tokens
      obtain ⟨before, rest, rfl, rfl, hrest⟩ := List.map_eq_append_iff.mp hmap
      obtain ⟨p, after, rfl, -, rfl⟩ := List.map_eq_cons_iff.mp hrest
      have hsub : (before ++ after).Sublist (before ++ p :: after) :=
        (List.sublist_cons_self p after).append_left before
      exact ⟨hc.inv, before ++ after, by simp, fun q hq => hsafe q (hsub.subset hq),
        hpair.sublist hsub⟩
  | @environment s t l hst =>
      obtain ⟨hands, hmap, hsafe, hpair⟩ := hc.tokens
      have hmove := henv _ _ hc.inv hst
      exact ⟨T.preserves (a := none) hc.inv (fun x hx => nomatch hx) hmove, hands, hmap, fun p hp =>
        hand_of_step hc.inv (hsafe p hp) hmove fun x _ => (fun h => nomatch h), hpair⟩

/-- Whatever happens in such a pool is a step of somebody who has the token for it. -/
theorem Shared.moves (henv : ∀ s t, T.inv s → env s t → T.step none s t none) {c c' : Pool ε σ ρ}
    (hc : T.Shared c) (hstep : Step start env c c') :
    ∃ a b, T.step a c.shared c'.shared b ∧ ∀ x ∈ a, T.out x c.shared := by
  cases hstep with
  | arrive h hh => exact ⟨none, none, T.refl _ _, fun x hx => nomatch hx⟩
  | crash h => exact ⟨none, none, T.refl _ _, fun x hx => nomatch hx⟩
  | environment hst => exact ⟨none, none, henv _ _ hc.inv hst, fun x hx => nomatch hx⟩
  | @statement s l r u n =>
      obtain ⟨hands, hmap, hsafe, -⟩ := hc.tokens
      obtain ⟨before, rest, rfl, rfl, hrest⟩ := List.map_eq_append_iff.mp hmap
      obtain ⟨⟨h, tok⟩, after, rfl, hhand, rfl⟩ := List.map_eq_cons_iff.mp hrest
      obtain rfl : h = .stmt u n := hhand
      have hmine := hsafe (.stmt u n, tok) (by simp)
      obtain ⟨tok', hmove, -⟩ := hmine.1 s .refl hc.inv hmine.2
      exact ⟨tok, tok', hmove, hmine.2⟩

/-- The run rule for tokens, from any pool whose tokens are in order. -/
theorem Shared.run (hstart : ∀ h s, start h → T.Safe h none s)
    (henv : ∀ s t, T.inv s → env s t → T.step none s t none) {c c' : Pool ε σ ρ}
    (hc : T.Shared c) (hrun : ReflTransGen (Step start env) c c') : T.Shared c' := by
  induction hrun with
  | refl => exact hc
  | tail _ hstep ih => exact ih.step hstart henv hstep

theorem shared_init {init : σ} (hinit : T.inv init) :
    T.Shared (⟨init, []⟩ : Pool ε σ ρ) :=
  ⟨hinit, [], rfl, by simp, .nil⟩

theorem reachable (hstart : ∀ h s, start h → T.Safe h none s)
    (henv : ∀ s t, T.inv s → env s t → T.step none s t none) {init : σ} (hinit : T.inv init)
    {c : Pool ε σ ρ} (hc : Reach start env init c) : T.inv c.shared :=
  ((shared_init hinit).run hstart henv hc).inv

end TokenProtocol
end KubeNova.Foundation
