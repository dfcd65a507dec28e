import KubeNova.Foundation.JsNumber
import Mathlib.Logic.Function.Iterate

/-!
# Waiting for a scaled workload

`runScaleConvergence`: after a scaling has been accepted the workload is read again and again, until
the counts of its replicas agree with the target or the time or the attempts are used up.  A round
takes the counts an answer leaves out from the round before.  What the answers are, what is read
out of them and what the clock says is open.
-/

namespace KubeNova.Workloads

open KubeNova.Foundation

inductive ScaleConvergenceStatus where
  | accepted
  | converging
  | stable
  | timeout
  deriving DecidableEq

/-- What is read out of an answer; counts may be missing. -/
structure ScaleObservedState where
  observedReplicas : Option Number
  readyReplicas : Option Number
  availableReplicas : Option Number
  observedAt : Option String

/-- The `observed` part of a round. -/
structure Observed where
  desiredReplicas : Nat
  observedReplicas : Option Nat
  readyReplicas : Option Nat
  availableReplicas : Option Nat
  observedAt : String
  deriving DecidableEq

structure ScaleConvergenceRound where
  status : ScaleConvergenceStatus
  attempt : Number
  maxAttempts : Number
  elapsedMs : ℚ
  observed : Observed
  deriving DecidableEq

structure Options where
  desiredReplicas : Number
  initialObservedState : Option ScaleObservedState
  intervalMs : Option Number
  timeoutMs : Option Number
  maxAttempts : Option Number
  requireAvailableReplicas : Bool

/-- The options that are functions, by the answers they give one after the other: `refetch` by the
attempt, `now` by the reading. -/
structure Calls (Data : Type) where
  refetch : Nat → Option Data
  resolveObservedState : Option Data → Option ScaleObservedState
  now : Nat → ℚ
  toISOString : ℚ → String

def toSafeInt : Option Number → Option Nat
  | some (.finite q) => some (Number.toSafeNat q)
  | _ => none

def normalizeDesiredReplicas : Number → Nat
  | .finite q => Number.toSafeNat q
  | _ => 0

def normalizeObservedState (desiredReplicas : Nat) (previous : Option Observed)
    (next : Option ScaleObservedState) (observedAtFallback : String) : Observed where
  desiredReplicas := desiredReplicas
  observedReplicas := toSafeInt ((next.bind (·.observedReplicas)).or
    ((previous.bind (·.observedReplicas)).map Number.ofNat))
  readyReplicas := toSafeInt ((next.bind (·.readyReplicas)).or
    ((previous.bind (·.readyReplicas)).map Number.ofNat))
  availableReplicas := toSafeInt ((next.bind (·.availableReplicas)).or
    ((previous.bind (·.availableReplicas)).map Number.ofNat))
  observedAt :=
    match next.bind (·.observedAt) with
    | some observedAt => observedAt
    | none =>
        match previous with
        | some previous =>
            if previous.observedAt = "" then observedAtFallback else previous.observedAt
        | none => observedAtFallback

def isConverged (observed : Observed) (requireAvailableReplicas : Bool) : Bool :=
  if observed.observedReplicas ≠ some observed.desiredReplicas ∨
      observed.readyReplicas ≠ some observed.desiredReplicas then false
  else if requireAvailableReplicas = false then true
  else decide (observed.availableReplicas = some observed.desiredReplicas)

namespace Options

def desired (options : Options) : Nat := normalizeDesiredReplicas options.desiredReplicas

def interval (options : Options) : Number :=
  Number.max (.ofNat 250) (options.intervalMs.getD (.ofNat 1000)).trunc

def timeout (options : Options) : Number :=
  Number.max options.interval (options.timeoutMs.getD (.ofNat 60000)).trunc

/-- `Math.max(1, Math.ceil(timeoutMs / intervalMs))` -/
def attemptsInTime (options : Options) : Number :=
  Number.max (.ofNat 1) (Number.div options.timeout options.interval).ceil

def attempts (options : Options) : Number :=
  match options.maxAttempts with
  | some (.finite q) => if 0 < q then (Number.finite q).trunc else options.attemptsInTime
  | _ => options.attemptsInTime

end Options

/-- Where a call stands: what it has emitted, and the round it ends with. -/
structure Progress (Data : Type) where
  attempt : Nat
  previousObserved : Observed
  rounds : List ScaleConvergenceRound
  lastData : Option Data
  finalRound : Option ScaleConvergenceRound

section Running

variable {Data : Type}

def start (options : Options) (calls : Calls Data) : Progress Data :=
  let observed := normalizeObservedState options.desired none options.initialObservedState
    (calls.toISOString (calls.now 0))
  { attempt := 0
    previousObserved := observed
    rounds := [⟨.accepted, .ofNat 0, options.attempts, 0, observed⟩]
    lastData := none
    finalRound := none }

def observe (options : Options) (calls : Calls Data) (previous : Observed) (attempt : Nat) :
    Observed :=
  normalizeObservedState options.desired (some previous)
    (calls.resolveObservedState (calls.refetch attempt))
    (calls.toISOString (calls.now (2 * attempt - 1)))

/-- `Math.max(0, now() - startedAt)` -/
def elapsed (calls : Calls Data) (reading : Nat) : ℚ :=
  if calls.now 0 ≤ calls.now reading then calls.now reading - calls.now 0 else 0

def convergingRound (options : Options) (calls : Calls Data) (previous : Observed) (attempt : Nat) :
    ScaleConvergenceRound where
  status := .converging
  attempt := .ofNat attempt
  maxAttempts := options.attempts
  elapsedMs := elapsed calls (2 * attempt)
  observed := observe options calls previous attempt

/-- The body of the loop has emitted its rounds, and the call may have returned. -/
def attemptOnce (options : Options) (calls : Calls Data) (s : Progress Data) : Progress Data :=
  let attempt := s.attempt + 1
  let round := convergingRound options calls s.previousObserved attempt
  let finalRound :=
    if isConverged round.observed options.requireAvailableReplicas then
      some { round with status := .stable }
    else if Number.le options.timeout (.finite round.elapsedMs) ||
        Number.le options.attempts (.ofNat attempt) then
      some { round with status := .timeout }
    else none
  { attempt := attempt
    previousObserved := round.observed
    rounds := s.rounds ++ round :: finalRound.toList
    lastData := calls.refetch attempt
    finalRound := finalRound }

def fallbackTimeout (options : Options) (calls : Calls Data) (s : Progress Data) : Progress Data :=
  let round : ScaleConvergenceRound :=
    ⟨.timeout, options.attempts, options.attempts, elapsed calls (2 * s.attempt + 1),
      s.previousObserved⟩
  { s with rounds := s.rounds ++ [round], finalRound := some round }

def advance (options : Options) (calls : Calls Data) (s : Progress Data) : Progress Data :=
  if s.finalRound.isSome then s
  else if Number.le (.ofNat (s.attempt + 1)) options.attempts then attemptOnce options calls s
  else fallbackTimeout options calls s

/-- The call after so many rounds of its loop; it has returned where there is a final round. -/
def runScaleConvergence (options : Options) (calls : Calls Data) (n : Nat) : Progress Data :=
  (advance options calls)^[n] (start options calls)

end Running

section Steps

variable {Data : Type} {options : Options} {calls : Calls Data} {s : Progress Data}

theorem run_succ (options : Options) (calls : Calls Data) (n : Nat) :
    runScaleConvergence options calls (n + 1) =
      advance options calls (runScaleConvergence options calls n) :=
  Function.iterate_succ_apply' _ _ _

theorem advance_cases (s : Progress Data) :
    (s.finalRound.isSome = true ∧ advance options calls s = s) ∨
    (s.finalRound = none ∧ Number.le (.ofNat (s.attempt + 1)) options.attempts = true ∧
      advance options calls s = attemptOnce options calls s) ∨
    (s.finalRound = none ∧ Number.le (.ofNat (s.attempt + 1)) options.attempts = false ∧
      advance options calls s = fallbackTimeout options calls s) := by
  rw [advance]
  cases hfinal : s.finalRound with
  | some round => exact Or.inl ⟨rfl, if_pos rfl⟩
  | none =>
      rw [if_neg (by decide)]
      cases hle : Number.le (.ofNat (s.attempt + 1)) options.attempts with
      | true => exact Or.inr (Or.inl ⟨rfl, rfl, if_pos rfl⟩)
      | false => exact Or.inr (Or.inr ⟨rfl, rfl, if_neg Bool.false_ne_true⟩)

theorem run_induction {I : Progress Data → Prop} (hstart : I (start options calls))
    (hstep : ∀ s, I s → I (advance options calls s)) (n : Nat) :
    I (runScaleConvergence options calls n) := by
  induction n with
  | zero => exact hstart
  | succ n ih =>
      rw [run_succ]
      exact hstep _ ih

end Steps

end KubeNova.Workloads
