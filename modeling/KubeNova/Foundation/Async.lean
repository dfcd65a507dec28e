import Mathlib.Logic.Relation
import Mathlib.Data.List.Basic

/-!
# Asynchronous handlers over a shared state

A server handler is a chain of awaited statements.  Each statement is atomic:
it reads the shared state and may change it, and between two statements of one
handler any other handler may run.  `Async` is the syntax of such handlers,
`Async.run` executes one handler with nobody else around, and `Step` interleaves
a pool of them.
-/

namespace KubeNova.Foundation

theorem exists_of_bind_eq_ok {ε α β : Type} {r : Except ε α} {k : α → Except ε β} {b : β}
    (h : (r >>= k) = .ok b) : ∃ a, r = .ok a ∧ k a = .ok b := by
  cases r with
  | ok a => exact ⟨a, rfl, h⟩
  | error e => cases h

/-- A handler over the shared state `σ`.  `stmt update next` is one atomic
statement: both the update and the rest of the handler depend on the state the
statement finds. -/
inductive Async (ε σ α : Type) : Type where
  | done (a : α)
  | fail (e : ε)
  | stmt (update : σ → σ) (next : σ → Async ε σ α)

namespace Async

variable {ε σ α β : Type}

def bind : Async ε σ α → (α → Async ε σ β) → Async ε σ β
  | done a, k => k a
  | fail e, _ => fail e
  | stmt u n, k => stmt u fun s => (n s).bind k

def tryCatch : Async ε σ α → (ε → Async ε σ α) → Async ε σ α
  | done a, _ => done a
  | fail e, h => h e
  | stmt u n, h => stmt u fun s => (n s).tryCatch h

instance : Monad (Async ε σ) where
  pure := done
  bind := bind

instance : MonadExcept ε (Async ε σ) where
  throw := fail
  tryCatch := tryCatch

def query (q : σ → α) : Async ε σ α := stmt id fun s => done (q s)

/-- One statement that changes the state and reports a value. -/
def exec (f : σ → α × σ) : Async ε σ α :=
  stmt (fun s => (f s).2) fun s => done (f s).1

def attempt (body : StateT σ (Except ε) α) : Async ε σ α :=
  stmt
    (fun s => match body s with
      | .ok (_, t) => t
      | .error _ => s)
    fun s => match body s with
      | .ok (a, _) => done a
      | .error e => fail e

def run : Async ε σ α → σ → Except ε α × σ
  | done a, s => (.ok a, s)
  | fail e, s => (.error e, s)
  | stmt u n, s => (n s).run (u s)

/-- A handler and the state after at most `n` of its statements, run alone. -/
def steps : Nat → Async ε σ α → σ → Async ε σ α × σ
  | n + 1, stmt u k, s => (k s).steps n (u s)
  | _, h, s => (h, s)

/-- What a transaction commits: nothing when the body fails, or when the commit
itself is refused with the error `abort`. -/
def commit (abort : Option ε) (body : Async ε σ α) : StateT σ (Except ε) α := fun s =>
  match body.run s, abort with
  | (.ok a, t), none => .ok (a, t)
  | (.ok _, _), some e => .error e
  | (.error e, _), _ => .error e

/-- The statements of the body as one atomic statement. -/
def transaction (abort : Option ε) (body : Async ε σ α) : Async ε σ α :=
  attempt (commit abort body)

def ofExcept : Except ε α → Async ε σ α
  | .ok a => done a
  | .error e => fail e

/-- Stop with the error unless the condition holds. -/
def ensure (c : Prop) [Decidable c] (e : ε) : Async ε σ Unit :=
  if c then .done () else .fail e

/-- The answer of a handler as a value, so that the caller goes on after an error. -/
def toExcept (h : Async ε σ α) : Async ε σ (Except ε α) :=
  tryCatch (h.bind fun a => done (.ok a)) fun e => done (.error e)

/-- A handler over a component of the state, run on the whole state. -/
def zoom {τ : Type} (get : τ → σ) (set : σ → τ → τ) : Async ε σ α → Async ε τ α
  | done a => done a
  | fail e => fail e
  | stmt u n => stmt (fun t => set (u (get t)) t) fun t => (n (get t)).zoom get set

/-- A handler whose errors are reported in another form. -/
def mapError {ε' : Type} (f : ε → ε') : Async ε σ α → Async ε' σ α
  | done a => done a
  | fail e => fail (f e)
  | stmt u n => stmt u fun s => (n s).mapError f

@[simp] theorem pure_eq (a : α) : (pure a : Async ε σ α) = done a := rfl

@[simp] theorem throw_eq (e : ε) : (throw e : Async ε σ α) = fail e := rfl

@[simp] theorem done_bind (a : α) (k : α → Async ε σ β) : (done a >>= k) = k a := rfl

@[simp] theorem fail_bind (e : ε) (k : α → Async ε σ β) : (fail e >>= k) = fail e := rfl

@[simp] theorem stmt_bind (u : σ → σ) (n : σ → Async ε σ α) (k : α → Async ε σ β) :
    (stmt u n >>= k) = stmt u fun s => n s >>= k := rfl

@[simp] theorem query_bind (q : σ → α) (k : α → Async ε σ β) :
    (query q >>= k) = stmt id fun s => k (q s) := rfl

@[simp] theorem exec_bind (f : σ → α × σ) (k : α → Async ε σ β) :
    (exec f >>= k) = stmt (fun s => (f s).2) fun s => k (f s).1 := rfl

theorem query_bind_tryCatch (q : σ → β) (k : β → Async ε σ α) (h : ε → Async ε σ α) :
    (query q >>= k).tryCatch h = query q >>= fun b => (k b).tryCatch h := rfl

theorem exec_bind_tryCatch (f : σ → β × σ) (k : β → Async ε σ α) (h : ε → Async ε σ α) :
    (exec f >>= k).tryCatch h = exec f >>= fun b => (k b).tryCatch h := rfl

/-- A call whose error is caught together with what comes after it. -/
theorem call_bind_tryCatch (f : σ → Except ε β × σ) (k : β → Async ε σ α)
    (h : ε → Async ε σ α) :
    (exec f >>= (fun r => ofExcept r) >>= k).tryCatch h =
      exec f >>= fun r => (ofExcept r >>= k).tryCatch h := rfl

@[simp] theorem run_done (a : α) (s : σ) : (done a : Async ε σ α).run s = (.ok a, s) := rfl

@[simp] theorem run_fail (e : ε) (s : σ) : (fail e : Async ε σ α).run s = (.error e, s) := rfl

@[simp] theorem run_stmt (u : σ → σ) (n : σ → Async ε σ α) (s : σ) :
    (stmt u n).run s = (n s).run (u s) := rfl

@[simp] theorem run_query (q : σ → α) (s : σ) :
    (query q : Async ε σ α).run s = (.ok (q s), s) := rfl

@[simp] theorem run_exec (f : σ → α × σ) (s : σ) :
    (exec f : Async ε σ α).run s = (.ok (f s).1, (f s).2) := rfl

@[simp] theorem run_query_bind (q : σ → α) (k : α → Async ε σ β) (s : σ) :
    (query q >>= k).run s = (k (q s)).run s := rfl

@[simp] theorem run_exec_bind (f : σ → α × σ) (k : α → Async ε σ β) (s : σ) :
    (exec f >>= k).run s = (k (f s).1).run (f s).2 := rfl

theorem run_attempt_bind_eq_ok {body : StateT σ (Except ε) α} {k : α → Async ε σ β} {s t : σ}
    {b : β} (h : (attempt body >>= k).run s = (.ok b, t)) :
    ∃ a u, body s = .ok (a, u) ∧ (k a).run u = (.ok b, t) := by
  simp only [attempt, stmt_bind, run_stmt] at h
  cases hbody : body s with
  | ok r =>
      rw [hbody] at h
      exact ⟨r.1, r.2, rfl, h⟩
  | error e => simp [hbody] at h

theorem bind_assoc {γ : Type} (h : Async ε σ α) (k : α → Async ε σ β) (l : β → Async ε σ γ) :
    h >>= k >>= l = h >>= fun a => k a >>= l := by
  induction h with
  | done a => rfl
  | fail e => rfl
  | stmt u n ih =>
      simp only [stmt_bind]
      congr 1
      funext s
      exact ih s

theorem run_bind (h : Async ε σ α) (k : α → Async ε σ β) (s : σ) :
    (h >>= k).run s = match h.run s with
      | (.ok a, t) => (k a).run t
      | (.error e, t) => (.error e, t) := by
  induction h generalizing s with
  | done a => rfl
  | fail e => rfl
  | stmt u n ih => exact ih s (u s)

theorem run_toExcept (h : Async ε σ α) (s : σ) :
    h.toExcept.run s = (.ok (h.run s).1, (h.run s).2) := by
  induction h generalizing s with
  | done a => rfl
  | fail e => rfl
  | stmt u n ih => exact ih s (u s)

theorem run_tryCatch (h : Async ε σ α) (k : ε → Async ε σ α) (s : σ) :
    (h.tryCatch k).run s = match h.run s with
      | (.ok a, t) => (.ok a, t)
      | (.error e, t) => (k e).run t := by
  induction h generalizing s with
  | done a => rfl
  | fail e => rfl
  | stmt u n ih => exact ih s (u s)

theorem run_bind_eq_ok {h : Async ε σ α} {k : α → Async ε σ β} {s t : σ} {b : β}
    (hrun : (h >>= k).run s = (.ok b, t)) :
    ∃ a u, h.run s = (.ok a, u) ∧ (k a).run u = (.ok b, t) := by
  rw [run_bind] at hrun
  split at hrun
  · rename_i a u hfirst
    exact ⟨a, u, hfirst, hrun⟩
  · simp at hrun

theorem run_bind_eq_error {h : Async ε σ α} {k : α → Async ε σ β} {s t : σ} {e : ε}
    (hrun : (h >>= k).run s = (.error e, t)) :
    h.run s = (.error e, t) ∨ ∃ a u, h.run s = (.ok a, u) ∧ (k a).run u = (.error e, t) := by
  rw [run_bind] at hrun
  split at hrun
  · rename_i a u hfirst
    exact .inr ⟨a, u, hfirst, hrun⟩
  · rename_i e' u hfirst
    exact .inl (hfirst.trans (by simpa using hrun))

@[simp] theorem run_ensure_snd (c : Prop) [Decidable c] (e : ε) (s : σ) :
    ((ensure c e : Async ε σ Unit).run s).2 = s := by
  unfold ensure
  split <;> rfl

@[simp] theorem run_ofExcept_snd (r : Except ε α) (s : σ) :
    ((ofExcept r : Async ε σ α).run s).2 = s := by
  cases r <;> rfl

section Zoom

variable {τ : Type} (get : τ → σ) (set : σ → τ → τ)

theorem zoom_bind (h : Async ε σ α) (k : α → Async ε σ β) :
    (h >>= k).zoom get set = h.zoom get set >>= fun a => (k a).zoom get set := by
  induction h with
  | done a => rfl
  | fail e => rfl
  | stmt u n ih =>
      simp only [stmt_bind, zoom]
      congr 1
      funext t
      exact ih (get t)

theorem zoom_query (hset : ∀ t, set (get t) t = t) (q : σ → α) :
    (query q : Async ε σ α).zoom get set = query fun t => q (get t) := by
  simp only [query, zoom, id_eq]
  congr 1
  funext t
  exact hset t

theorem zoom_exec (f : σ → α × σ) :
    (exec f : Async ε σ α).zoom get set = exec fun t => ((f (get t)).1, set (f (get t)).2 t) := rfl

theorem zoom_ensure (c : Prop) [Decidable c] (e : ε) :
    (ensure c e : Async ε σ Unit).zoom get set = ensure c e := by
  unfold ensure
  split <;> rfl

end Zoom

theorem commit_eq_ok {abort : Option ε} {body : Async ε σ α} {s t : σ} {a : α}
    (h : commit abort body s = .ok (a, t)) : body.run s = (.ok a, t) := by
  unfold commit at h
  split at h
  · rename_i b u hrun
    obtain ⟨rfl, rfl⟩ : b = a ∧ u = t := by simpa using h
    exact hrun
  all_goals simp at h

theorem run_attempt_eq_error {body : StateT σ (Except ε) α} {s t : σ} {e : ε}
    (h : (attempt body).run s = (.error e, t)) : t = s := by
  simp only [attempt, run_stmt] at h
  cases hbody : body s with
  | ok r => simp [hbody] at h
  | error e' =>
      simp only [hbody, run_fail, Prod.mk.injEq] at h
      exact h.2.symm

theorem run_transaction_eq_ok {abort : Option ε} {body : Async ε σ α} {s t : σ} {a : α}
    (h : (transaction abort body).run s = (.ok a, t)) : body.run s = (.ok a, t) := by
  simp only [transaction, attempt, run_stmt] at h
  cases hcommit : commit abort body s with
  | ok r =>
      simp only [hcommit, run_done, Prod.mk.injEq, Except.ok.injEq] at h
      obtain ⟨rfl, rfl⟩ := h
      exact commit_eq_ok hcommit
  | error e => simp [hcommit] at h

theorem run_transaction_eq_error {abort : Option ε} {body : Async ε σ α} {s t : σ} {e : ε}
    (h : (transaction abort body).run s = (.error e, t)) : t = s :=
  run_attempt_eq_error h

end Async
end KubeNova.Foundation
