import KubeNova.Foundation.Async

/-!
# Confinement of handlers

A handler works on a store whose objects lie at places; `Traced` records the places it has had to
do with.  A policy says which accesses are allowed and which stores look alike to whoever may make
them only.  A confined handler makes no other accesses, and cannot tell such stores apart.
-/

namespace KubeNova.Foundation

structure Access (π : Type) where
  isWrite : Bool
  place : π
  deriving Repr, DecidableEq

structure Traced (π σ : Type) where
  store : σ
  accesses : List (Access π)

variable {ε π σ α β : Type}

def access (f : σ → α × σ × List (Access π)) : Async ε (Traced π σ) α :=
  .exec fun s => ((f s.store).1, ⟨(f s.store).2.1, s.accesses ++ (f s.store).2.2⟩)

structure Policy (π σ : Type) where
  may : Access π → Prop
  alike : σ → σ → Prop

structure Confined (P : Policy π σ) (h : Async ε (Traced π σ) α) : Prop where
  accesses : ∀ s, ∃ more, (h.run s).2.accesses = s.accesses ++ more ∧ ∀ a ∈ more, P.may a
  answers : ∀ s s' : Traced π σ, P.alike s.store s'.store →
    (h.run s).1 = (h.run s').1 ∧ P.alike (h.run s).2.store (h.run s').2.store

namespace Confined

variable {P : Policy π σ}

theorem done (a : α) : Confined P (.done a : Async ε (Traced π σ) α) where
  accesses _ := ⟨[], (List.append_nil _).symm, fun _ h => absurd h List.not_mem_nil⟩
  answers _ _ h := ⟨rfl, h⟩

theorem fail (e : ε) : Confined P (.fail e : Async ε (Traced π σ) α) where
  accesses _ := ⟨[], (List.append_nil _).symm, fun _ h => absurd h List.not_mem_nil⟩
  answers _ _ h := ⟨rfl, h⟩

theorem ofExcept (r : Except ε α) : Confined P (.ofExcept r : Async ε (Traced π σ) α) := by
  cases r with
  | ok a => exact done a
  | error e => exact fail e

theorem ofExcept_bind {r : Except ε α} {k : α → Async ε (Traced π σ) β}
    (hk : ∀ a, r = .ok a → Confined P (k a)) : Confined P (.ofExcept r >>= k) := by
  cases r with
  | ok a => exact hk a rfl
  | error e => exact fail e

theorem ensure_bind {c : Prop} [Decidable c] {e : ε} {k : Unit → Async ε (Traced π σ) β}
    (hk : c → Confined P (k ())) : Confined P (.ensure c e >>= k) := by
  unfold Async.ensure
  split
  · rename_i hc
    exact hk hc
  · exact fail e

theorem query {q : Traced π σ → α}
    (hq : ∀ s s' : Traced π σ, P.alike s.store s'.store → q s = q s') :
    Confined P (.query q : Async ε (Traced π σ) α) where
  accesses _ := ⟨[], (List.append_nil _).symm, fun _ h => absurd h List.not_mem_nil⟩
  answers s s' h := ⟨congrArg Except.ok (hq s s' h), h⟩

theorem access {f : σ → α × σ × List (Access π)} (hmay : ∀ w, ∀ a ∈ (f w).2.2, P.may a)
    (hsame : ∀ w w', P.alike w w' → (f w).1 = (f w').1 ∧ P.alike (f w).2.1 (f w').2.1) :
    Confined P (access f : Async ε (Traced π σ) α) where
  accesses s := ⟨(f s.store).2.2, rfl, hmay s.store⟩
  answers s s' h := by
    obtain ⟨hanswer, hstore⟩ := hsame s.store s'.store h
    exact ⟨congrArg Except.ok hanswer, hstore⟩

theorem bind {h : Async ε (Traced π σ) α} {k : α → Async ε (Traced π σ) β} (hh : Confined P h)
    (hk : ∀ a, Confined P (k a)) : Confined P (h >>= k) where
  accesses s := by
    obtain ⟨first, hfirst, hmay⟩ := hh.accesses s
    rw [Async.run_bind]
    rcases hrun : h.run s with ⟨r, t⟩
    rw [hrun] at hfirst
    cases r with
    | error e => exact ⟨first, hfirst, hmay⟩
    | ok a =>
        obtain ⟨more, hmore, hmay'⟩ := (hk a).accesses t
        refine ⟨first ++ more, ?_, fun x hx => ?_⟩
        · show ((k a).run t).2.accesses = _
          rw [hmore, hfirst, List.append_assoc]
        · exact (List.mem_append.mp hx).elim (hmay x) (hmay' x)
  answers s s' hs := by
    obtain ⟨hanswer, hstore⟩ := hh.answers s s' hs
    rw [Async.run_bind, Async.run_bind]
    rcases hrun : h.run s with ⟨r, t⟩
    rcases hrun' : h.run s' with ⟨r', t'⟩
    rw [hrun, hrun'] at hanswer hstore
    obtain rfl : r = r' := hanswer
    cases r with
    | ok a => exact (hk a).answers t t' hstore
    | error e => exact ⟨rfl, hstore⟩

theorem toExcept {h : Async ε (Traced π σ) α} (hh : Confined P h) : Confined P h.toExcept where
  accesses s := by
    rw [Async.run_toExcept]
    exact hh.accesses s
  answers s s' hs := by
    rw [Async.run_toExcept, Async.run_toExcept]
    exact ⟨congrArg Except.ok (hh.answers s s' hs).1, (hh.answers s s' hs).2⟩

theorem mem_of_mem {h : Async ε (Traced π σ) α} (hh : Confined P h) {s : Traced π σ} {a : Access π}
    (ha : a ∈ s.accesses) : a ∈ (h.run s).2.accesses := by
  obtain ⟨more, hmore, -⟩ := hh.accesses s
  rw [hmore]
  exact List.mem_append_left _ ha

theorem mem_bind {h : Async ε (Traced π σ) α} {k : α → Async ε (Traced π σ) β}
    (hk : ∀ a, Confined P (k a)) {s : Traced π σ} {x : Access π}
    (hx : x ∈ (h.run s).2.accesses) : x ∈ ((h >>= k).run s).2.accesses := by
  rw [Async.run_bind]
  rcases hrun : h.run s with ⟨r, t⟩
  rw [hrun] at hx
  cases r with
  | ok a => exact (hk a).mem_of_mem hx
  | error e => exact hx

end Confined

/-- What the second part records after the first one has been answered. -/
theorem mem_bind_of_run {h : Async ε (Traced π σ) α} {k : α → Async ε (Traced π σ) β}
    {s t : Traced π σ} {a : α} {x : Access π} (hrun : h.run s = (.ok a, t))
    (hx : x ∈ ((k a).run t).2.accesses) : x ∈ ((h >>= k).run s).2.accesses := by
  rw [Async.run_bind, hrun]
  exact hx

end KubeNova.Foundation
