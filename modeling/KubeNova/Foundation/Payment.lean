import KubeNova.Foundation.RelyGuarantee
import Mathlib.Algebra.GroupWithZero.Nat

/-!
# Answers that are paid for

`paid` counts something in the shared state that no step of a protocol takes away again.  A handler
that raises it on its way to every answer that counts pays for these answers itself: a pool of such
handlers never has more of them than were paid for, however the handlers move.
-/

namespace KubeNova.Foundation

variable {ε σ α β ρ : Type} {P : Protocol σ} {paid : σ → Nat} {counts : ρ → Bool}

/-- On every way to an answer that counts, some statement raises `paid`. -/
def Pays (paid : σ → Nat) (counts : α → Bool) : Async ε σ α → Prop
  | .done a => counts a = false
  | .fail _ => True
  | .stmt u n => ∀ s, paid s < paid (u s) ∨ Pays paid counts (n s)

namespace Pays

variable {counts : α → Bool} {h : Async ε σ β} {k : β → Async ε σ α}

/-- What comes after need not pay again. -/
theorem bind (hh : Pays paid (fun _ => true) h) : Pays paid counts (h >>= k) := by
  induction h with
  | done b => cases hh
  | fail e => trivial
  | stmt u n ih => exact fun s => (hh s).imp_right (ih s)

theorem of_bind (hk : ∀ b, Pays paid counts (k b)) : Pays paid counts (h >>= k) := by
  induction h with
  | done b => exact hk b
  | fail e => trivial
  | stmt u n ih => exact fun s => .inr (ih s)

theorem exec_bind {f : σ → β × σ}
    (hf : ∀ s, paid s < paid (f s).2 ∨ Pays paid counts (k (f s).1)) :
    Pays paid counts (.exec f >>= k) := hf

end Pays

/-- The handler has come to an answer that counts. -/
def Async.counted (counts : ρ → Bool) : Async ε σ ρ → Bool
  | .done a => counts a
  | _ => false

open Classical in
/-- What the handler has paid already, at least. -/
noncomputable def credit (paid : σ → Nat) (counts : ρ → Bool) (h : Async ε σ ρ) : Nat :=
  if Pays paid counts h then 0 else 1

theorem credit_of_pays {h : Async ε σ ρ} (hh : Pays paid counts h) : credit paid counts h = 0 :=
  if_pos hh

theorem credit_le_one (paid : σ → Nat) (counts : ρ → Bool) (h : Async ε σ ρ) :
    credit paid counts h ≤ 1 := by
  unfold credit
  split <;> omega

theorem credit_of_counted {h : Async ε σ ρ} (hh : h.counted counts = true) :
    credit paid counts h = 1 := by
  cases h with
  | done a => exact if_neg fun hpays => absurd (hh.symm.trans hpays) (by decide)
  | fail e => cases hh
  | stmt u n => cases hh

theorem credit_statement (counts : ρ → Bool) {u : σ → σ} (n : σ → Async ε σ ρ) {s : σ}
    (hrise : paid s ≤ paid (u s)) :
    paid s + credit paid counts (n s) ≤ paid (u s) + credit paid counts (.stmt u n) := by
  by_cases hpays : Pays paid counts (.stmt u n)
  · rw [credit_of_pays hpays]
    rcases hpays s with hraised | hrest
    · have := credit_le_one paid counts (n s)
      omega
    · rw [credit_of_pays hrest]
      omega
  · have hstmt : credit paid counts (.stmt u n : Async ε σ ρ) = 1 := if_neg hpays
    have := credit_le_one paid counts (n s)
    omega

theorem countP_counted_le (l : List (Async ε σ ρ)) :
    l.countP (·.counted counts) ≤ (l.map (credit paid counts)).sum := by
  induction l with
  | nil => exact Nat.le_refl _
  | cons h l ih =>
      rw [List.countP_cons, List.map_cons, List.sum_cons]
      split
      · rename_i hcounted
        rw [credit_of_counted hcounted]
        omega
      · omega

/-- The run rule: a pool whose handlers pay has no more answers than were paid for. -/
theorem Protocol.answers_le_paid {start : Async ε σ ρ → Prop} {env : σ → σ → Prop}
    {R : Except ε ρ → σ → Prop} (hstart : ∀ h s, start h → P.inv s → Guards P.contract R h s)
    (henv : ∀ s t, P.inv s → env s t → P.guar s t)
    (hrise : ∀ s t, P.inv s → P.guar s t → paid s ≤ paid t)
    (hpays : ∀ h, start h → Pays paid counts h) {init : σ} (hinit : P.inv init)
    {c : Pool ε σ ρ} (hc : Reach start env init c) :
    c.handlers.countP (·.counted counts) ≤ paid c.shared := by
  suffices P.Safe R c ∧ (c.handlers.map (credit paid counts)).sum ≤ paid c.shared from
    Nat.le_trans (countP_counted_le _) this.2
  induction hc with
  | refl => exact ⟨⟨hinit, by simp⟩, by simp⟩
  | tail _ hstep ih =>
      obtain ⟨hsafe, hle⟩ := ih
      obtain ⟨hsafe', hguar⟩ := safe_step hstart henv hsafe hstep
      refine ⟨hsafe', ?_⟩
      have hrises := hrise _ _ hsafe.inv hguar
      cases hstep with
      | arrive h hh =>
          simp only [List.map_append, List.map_cons, List.map_nil, List.sum_append, List.sum_cons,
            List.sum_nil, credit_of_pays (hpays h hh)]
          omega
      | @statement s l r u n =>
          have hmoved := credit_statement counts n (s := s) hrises
          simp only [List.map_append, List.map_cons, List.sum_append, List.sum_cons] at hle ⊢
          omega
      | crash h =>
          simp only [List.map_append, List.map_cons, List.sum_append, List.sum_cons] at hle ⊢
          omega
      | environment => exact Nat.le_trans hle hrises

end KubeNova.Foundation
