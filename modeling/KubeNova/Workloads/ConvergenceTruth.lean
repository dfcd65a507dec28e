import KubeNova.Workloads.ScaleConvergence

/-!
# What the rounds of a scaling may be believed

The last round says that the workload is stable, or that the time is up.  What an answer itself
shows decides whether that is true; a count it leaves out is zero.  The counts a round takes over
from earlier ones are those stated last, and where they do not change the verdict of the answers
the last round is right.
-/

namespace KubeNova.Workloads

open KubeNova.Foundation

variable {Data : Type}

def answer (calls : Calls Data) (attempt : Nat) : Option ScaleObservedState :=
  calls.resolveObservedState (calls.refetch attempt)

abbrev Field := ScaleObservedState → Option Number

def counted (options : Options) : List Field :=
  [(·.observedReplicas), (·.readyReplicas)] ++
    if options.requireAvailableReplicas then [(·.availableReplicas)] else []

/-- A count as an answer has it: the API leaves out those that are zero. -/
def Reads (desired : Nat) (count : Option Number) : Prop :=
  toSafeInt (some (count.getD (.ofNat 0))) = some desired

instance (desired : Nat) (count : Option Number) : Decidable (Reads desired count) :=
  inferInstanceAs (Decidable (_ = _))

def Shows (options : Options) (state : Option ScaleObservedState) : Prop :=
  ∃ observed ∈ state, ∀ field ∈ counted options, Reads options.desired (field observed)

def carried (options : Options) (calls : Calls Data) (field : Field) : Nat → Option Nat
  | 0 => toSafeInt (options.initialObservedState.bind field)
  | attempt + 1 =>
      match (answer calls (attempt + 1)).bind field with
      | some count => toSafeInt (some count)
      | none => carried options calls field attempt

/-- The counts an attempt leaves out do not matter: one of those it states is not at the target, or
none is left out, or what was stated before for those left out is at the target exactly when the
workload was there and the target is zero. -/
def LeavesOutSafely (options : Options) (calls : Calls Data) (attempt : Nat) : Prop :=
  (∃ field ∈ counted options, ∃ count, (answer calls (attempt + 1)).bind field = some count ∧
      toSafeInt (some count) ≠ some options.desired) ∨
    (∀ field ∈ counted options, (answer calls (attempt + 1)).bind field ≠ none) ∨
    ((∀ field ∈ counted options, (answer calls (attempt + 1)).bind field = none →
        carried options calls field attempt = some options.desired) ↔
      (answer calls (attempt + 1)).isSome = true ∧ options.desired = 0)

structure Truthful (options : Options) (calls : Calls Data) (s : Progress Data) : Prop where
  rounds : ∃ accepted converging, s.rounds = accepted :: (converging ++ s.finalRound.toList) ∧
    accepted.status = .accepted ∧ ∀ round ∈ converging, round.status = .converging
  terminal : ∀ round ∈ s.finalRound, round.status = .stable ∨ round.status = .timeout
  bounded : s.attempt = 0 ∨ Number.le (.ofNat s.attempt) options.attempts = true
  stable : ∀ round ∈ s.finalRound, round.status = .stable →
    ∃ attempt, attempt < s.attempt ∧ Shows options (answer calls (attempt + 1))
  timeout : ∀ round ∈ s.finalRound, round.status = .timeout →
    ∀ attempt, s.attempt = attempt + 1 → ¬Shows options (answer calls (attempt + 1))

/-! ## The counts of a round -/

section Counts

variable {options : Options} {calls : Calls Data} {s : Progress Data}

theorem toSafeInt_ofNat (n : Nat) : toSafeInt (some (.ofNat n)) = some n := by
  rw [Number.ofNat, toSafeInt, Number.toSafeNat_natCast]

theorem toSafeInt_map_ofNat (count : Option Nat) : toSafeInt (count.map Number.ofNat) = count := by
  cases count with
  | none => rfl
  | some n => exact toSafeInt_ofNat n

structure Carries (options : Options) (calls : Calls Data) (attempt : Nat) (counts : Observed) :
    Prop where
  desired : counts.desiredReplicas = options.desired
  observed : counts.observedReplicas = carried options calls (·.observedReplicas) attempt
  ready : counts.readyReplicas = carried options calls (·.readyReplicas) attempt
  available : counts.availableReplicas = carried options calls (·.availableReplicas) attempt

theorem carries_start (options : Options) (calls : Calls Data) :
    Carries options calls 0 (start options calls).previousObserved where
  desired := rfl
  observed := by simp [start, normalizeObservedState, carried]
  ready := by simp [start, normalizeObservedState, carried]
  available := by simp [start, normalizeObservedState, carried]

theorem toSafeInt_or (field : Field) (attempt : Nat) :
    toSafeInt (((answer calls (attempt + 1)).bind field).or
        ((carried options calls field attempt).map Number.ofNat)) =
      carried options calls field (attempt + 1) := by
  rw [carried]
  cases (answer calls (attempt + 1)).bind field with
  | some count => rfl
  | none =>
      rw [Option.none_or]
      exact toSafeInt_map_ofNat _

theorem Carries.observe {attempt : Nat} {previous : Observed}
    (h : Carries options calls attempt previous) :
    Carries options calls (attempt + 1) (observe options calls previous (attempt + 1)) where
  desired := rfl
  observed := by
    rw [← toSafeInt_or, ← h.observed]
    rfl
  ready := by
    rw [← toSafeInt_or, ← h.ready]
    rfl
  available := by
    rw [← toSafeInt_or, ← h.available]
    rfl

theorem isConverged_iff {attempt : Nat} {observed : Observed}
    (h : Carries options calls attempt observed) :
    isConverged observed options.requireAvailableReplicas = true ↔
      ∀ field ∈ counted options, carried options calls field attempt = some options.desired := by
  rw [isConverged, h.desired, h.observed, h.ready, h.available]
  cases hrequire : options.requireAvailableReplicas with
  | false => simp [counted, hrequire]
  | true =>
      simp only [counted, hrequire]
      simp [and_assoc]

theorem carried_of_stated {field : Field} {attempt : Nat} {count : Number}
    (h : (answer calls (attempt + 1)).bind field = some count) :
    carried options calls field (attempt + 1) = toSafeInt (some count) := by
  rw [carried, h]

theorem carried_of_left_out {field : Field} {attempt : Nat}
    (h : (answer calls (attempt + 1)).bind field = none) :
    carried options calls field (attempt + 1) = carried options calls field attempt := by
  rw [carried, h]

theorem reads_none_iff (desired : Nat) : Reads desired none ↔ desired = 0 := by
  rw [Reads, Option.getD_none, toSafeInt_ofNat, Option.some.injEq]
  exact eq_comm

theorem shows_iff {state : Option ScaleObservedState} :
    Shows options state ↔ state.isSome = true ∧ ∀ field ∈ counted options,
      (∀ count, state.bind field = some count →
        toSafeInt (some count) = some options.desired) ∧
      (state.bind field = none → options.desired = 0) := by
  cases state with
  | none => simp [Shows]
  | some observed =>
      simp only [Shows, Option.mem_def, Option.some.injEq, exists_eq_left', Option.isSome_some,
        true_and, Option.bind_some]
      refine forall₂_congr ?_
      intro field _
      cases hfield : field observed with
      | none =>
          rw [reads_none_iff]
          simp
      | some count => simp [Reads]

section Verdict

variable {attempt : Nat}

theorem carried_iff_of_stated (hstated : ∀ field ∈ counted options, ∀ count,
    (answer calls (attempt + 1)).bind field = some count →
      toSafeInt (some count) = some options.desired) :
    (∀ field ∈ counted options,
        carried options calls field (attempt + 1) = some options.desired) ↔
      ∀ field ∈ counted options, (answer calls (attempt + 1)).bind field = none →
        carried options calls field attempt = some options.desired := by
  refine forall₂_congr ?_
  intro field hfield
  cases hcount : (answer calls (attempt + 1)).bind field with
  | none =>
      rw [carried_of_left_out hcount]
      exact ⟨fun h _ => h, fun h => h rfl⟩
  | some count =>
      rw [carried_of_stated hcount]
      refine ⟨fun _ h => ?_, fun _ => hstated field hfield count hcount⟩
      cases h

theorem shows_iff_of_stated (hstated : ∀ field ∈ counted options, ∀ count,
    (answer calls (attempt + 1)).bind field = some count →
      toSafeInt (some count) = some options.desired)
    {field : Field} (hfield : field ∈ counted options)
    (hleft : (answer calls (attempt + 1)).bind field = none) :
    Shows options (answer calls (attempt + 1)) ↔
      (answer calls (attempt + 1)).isSome = true ∧ options.desired = 0 := by
  rw [shows_iff]
  constructor
  · rintro ⟨hthere, hall⟩
    exact ⟨hthere, (hall field hfield).2 hleft⟩
  · rintro ⟨hthere, hzero⟩
    exact ⟨hthere, fun field' hfield' => ⟨hstated field' hfield', fun _ => hzero⟩⟩

theorem isSome_of_stated (h : ∀ field ∈ counted options,
    (answer calls (attempt + 1)).bind field ≠ none) :
    (answer calls (attempt + 1)).isSome = true := by
  cases hanswer : answer calls (attempt + 1) with
  | some state => rfl
  | none =>
      have hobserved := h (·.observedReplicas) (List.mem_cons_self ..)
      rw [hanswer] at hobserved
      exact absurd rfl hobserved

/-- The verdict of the round is the verdict of its answer exactly where the counts left out do not
matter. -/
theorem leavesOutSafely_iff (options : Options) (calls : Calls Data) (attempt : Nat) :
    LeavesOutSafely options calls attempt ↔
      ((∀ field ∈ counted options,
          carried options calls field (attempt + 1) = some options.desired) ↔
        Shows options (answer calls (attempt + 1))) := by
  rw [LeavesOutSafely]
  by_cases hoff : ∃ field ∈ counted options, ∃ count,
      (answer calls (attempt + 1)).bind field = some count ∧
        toSafeInt (some count) ≠ some options.desired
  · obtain ⟨field, hfield, count, hcount, hne⟩ := hoff
    have hcarried : ¬∀ field ∈ counted options,
        carried options calls field (attempt + 1) = some options.desired := by
      intro h
      have hsame := h field hfield
      rw [carried_of_stated hcount] at hsame
      exact hne hsame
    have hshows : ¬Shows options (answer calls (attempt + 1)) := by
      intro h
      exact hne (((shows_iff.mp h).2 field hfield).1 count hcount)
    exact ⟨fun _ => iff_of_false hcarried hshows, fun _ => Or.inl ⟨field, hfield, count, hcount, hne⟩⟩
  · have hstated : ∀ field ∈ counted options, ∀ count,
        (answer calls (attempt + 1)).bind field = some count →
          toSafeInt (some count) = some options.desired := by
      intro field hfield count hcount
      by_contra hne
      exact hoff ⟨field, hfield, count, hcount, hne⟩
    rw [carried_iff_of_stated hstated]
    by_cases hall : ∀ field ∈ counted options, (answer calls (attempt + 1)).bind field ≠ none
    · have hshows : Shows options (answer calls (attempt + 1)) := by
        refine shows_iff.mpr ⟨isSome_of_stated hall, fun field hfield => ?_⟩
        exact ⟨hstated field hfield, fun h => absurd h (hall field hfield)⟩
      have hrest : ∀ field ∈ counted options, (answer calls (attempt + 1)).bind field = none →
          carried options calls field attempt = some options.desired := by
        intro field hfield h
        exact absurd h (hall field hfield)
      exact ⟨fun _ => iff_of_true hrest hshows, fun _ => Or.inr (Or.inl hall)⟩
    · have hexists : ∃ field ∈ counted options, (answer calls (attempt + 1)).bind field = none := by
        by_contra hnone
        exact hall fun field hfield h => hnone ⟨field, hfield, h⟩
      obtain ⟨field, hfield, hleft⟩ := hexists
      rw [shows_iff_of_stated hstated hfield hleft]
      constructor
      · rintro (h | h | h)
        · exact absurd h hoff
        · exact absurd h hall
        · exact h
      · exact fun h => Or.inr (Or.inr h)

end Verdict

end Counts

/-! ## The rounds of a call -/

section Rounds

variable {options : Options} {calls : Calls Data} {s : Progress Data}

def Verdicts (options : Options) (calls : Calls Data) (s : Progress Data) : Prop :=
  ∀ round ∈ s.finalRound,
    (round.status = .stable ∧ ∃ attempt, s.attempt = attempt + 1 ∧
      ∀ field ∈ counted options,
        carried options calls field (attempt + 1) = some options.desired) ∨
    (round.status = .timeout ∧ ∀ attempt, s.attempt = attempt + 1 →
      ¬∀ field ∈ counted options,
        carried options calls field (attempt + 1) = some options.desired)

structure Sound (options : Options) (calls : Calls Data) (s : Progress Data) : Prop where
  counts : Carries options calls s.attempt s.previousObserved
  rounds : ∃ accepted converging, s.rounds = accepted :: (converging ++ s.finalRound.toList) ∧
    accepted.status = .accepted ∧ ∀ round ∈ converging, round.status = .converging
  bounded : s.attempt = 0 ∨ Number.le (.ofNat s.attempt) options.attempts = true
  verdicts : Verdicts options calls s
  unfinished : s.finalRound = none → ∀ attempt, s.attempt = attempt + 1 →
    ¬∀ field ∈ counted options, carried options calls field (attempt + 1) = some options.desired

theorem sound_start (options : Options) (calls : Calls Data) :
    Sound options calls (start options calls) where
  counts := carries_start options calls
  rounds := ⟨_, [], rfl, rfl, fun round h => by cases h⟩
  bounded := Or.inl rfl
  verdicts := fun round h => by cases h
  unfinished := fun _ attempt h => by cases h

theorem finalRound_attemptOnce (options : Options) (calls : Calls Data) (s : Progress Data) :
    (isConverged (observe options calls s.previousObserved (s.attempt + 1))
        options.requireAvailableReplicas = true ∧
      ∃ round, (attemptOnce options calls s).finalRound = some round ∧ round.status = .stable) ∨
    (isConverged (observe options calls s.previousObserved (s.attempt + 1))
        options.requireAvailableReplicas = false ∧
      ∀ round ∈ (attemptOnce options calls s).finalRound, round.status = .timeout) := by
  cases hconverged : isConverged (observe options calls s.previousObserved (s.attempt + 1))
      options.requireAvailableReplicas with
  | true =>
      refine Or.inl ⟨rfl, ?_⟩
      refine ⟨{ convergingRound options calls s.previousObserved (s.attempt + 1) with
        status := .stable }, ?_, rfl⟩
      exact if_pos hconverged
  | false =>
      refine Or.inr ⟨rfl, ?_⟩
      intro round hround
      have hgo : ¬isConverged (convergingRound options calls s.previousObserved
          (s.attempt + 1)).observed options.requireAvailableReplicas = true := by
        intro h
        exact Bool.false_ne_true (hconverged.symm.trans h)
      simp only [attemptOnce, if_neg hgo] at hround
      split at hround
      · rw [← Option.some.inj hround]
      · cases hround

theorem Sound.attemptOnce (h : Sound options calls s) (hgoing : s.finalRound = none)
    (hle : Number.le (.ofNat (s.attempt + 1)) options.attempts = true) :
    Sound options calls (attemptOnce options calls s) := by
  have hcounts : Carries options calls (s.attempt + 1)
      (observe options calls s.previousObserved (s.attempt + 1)) := h.counts.observe
  have hverdict := isConverged_iff hcounts
  refine ⟨hcounts, ?_, Or.inr hle, ?_, ?_⟩
  · obtain ⟨accepted, converging, hrounds, haccepted, hconverging⟩ := h.rounds
    rw [hgoing, Option.toList_none, List.append_nil] at hrounds
    refine ⟨accepted, converging ++
      [convergingRound options calls s.previousObserved (s.attempt + 1)], ?_, haccepted, ?_⟩
    · simp [Workloads.attemptOnce, hrounds]
    · intro round hround
      rcases List.mem_append.mp hround with hold | hnew
      · exact hconverging round hold
      · rw [List.mem_singleton.mp hnew]
        rfl
  · intro round hround
    rcases finalRound_attemptOnce options calls s with ⟨hyes, last, hlast, hstable⟩ | ⟨hno, hall⟩
    · rw [hlast] at hround
      cases hround
      exact Or.inl ⟨hstable, s.attempt, rfl, hverdict.mp hyes⟩
    · refine Or.inr ⟨hall round hround, ?_⟩
      intro attempt hattempt hcarried
      obtain rfl : s.attempt = attempt := Nat.succ.inj hattempt
      exact Bool.false_ne_true (hno.symm.trans (hverdict.mpr hcarried))
  · intro hnone attempt hattempt hcarried
    obtain rfl : s.attempt = attempt := Nat.succ.inj hattempt
    rcases finalRound_attemptOnce options calls s with ⟨-, last, hlast, -⟩ | ⟨hno, -⟩
    · rw [hlast] at hnone
      cases hnone
    · exact Bool.false_ne_true (hno.symm.trans (hverdict.mpr hcarried))

theorem Sound.fallbackTimeout (h : Sound options calls s) (hgoing : s.finalRound = none) :
    Sound options calls (fallbackTimeout options calls s) := by
  refine ⟨h.counts, ?_, h.bounded, ?_, ?_⟩
  · obtain ⟨accepted, converging, hrounds, haccepted, hconverging⟩ := h.rounds
    rw [hgoing, Option.toList_none, List.append_nil] at hrounds
    refine ⟨accepted, converging, ?_, haccepted, hconverging⟩
    simp [Workloads.fallbackTimeout, hrounds]
  · intro round hround
    refine Or.inr ⟨?_, h.unfinished hgoing⟩
    rw [← Option.some.inj hround]
  · intro hnone
    cases hnone

theorem sound_run (options : Options) (calls : Calls Data) (n : Nat) :
    Sound options calls (runScaleConvergence options calls n) := by
  apply run_induction (I := Sound options calls)
  · exact sound_start options calls
  · intro s hs
    rcases @advance_cases _ options calls s with
      ⟨-, h⟩ | ⟨hgoing, hle, h⟩ | ⟨hgoing, -, h⟩
    · rw [h]
      exact hs
    · rw [h]
      exact hs.attemptOnce hgoing hle
    · rw [h]
      exact hs.fallbackTimeout hgoing

theorem Sound.truthful (h : Sound options calls s)
    (hsafe : ∀ attempt, attempt < s.attempt → LeavesOutSafely options calls attempt) :
    Truthful options calls s where
  rounds := h.rounds
  terminal := fun round hround => (h.verdicts round hround).imp (·.1) (·.1)
  bounded := h.bounded
  stable := by
    intro round hround hstable
    rcases h.verdicts round hround with ⟨-, attempt, hattempt, hcarried⟩ | ⟨htimeout, -⟩
    · have hlt : attempt < s.attempt := by omega
      exact ⟨attempt, hlt, ((leavesOutSafely_iff options calls attempt).mp
        (hsafe attempt hlt)).mp hcarried⟩
    · rw [hstable] at htimeout
      cases htimeout
  timeout := by
    intro round hround htimeout attempt hattempt hshows
    rcases h.verdicts round hround with ⟨hstable, -⟩ | ⟨-, hnone⟩
    · rw [htimeout] at hstable
      cases hstable
    · have hlt : attempt < s.attempt := by omega
      exact hnone attempt hattempt (((leavesOutSafely_iff options calls attempt).mp
        (hsafe attempt hlt)).mpr hshows)

theorem attempt_run (options : Options) (calls : Calls Data) (n : Nat) :
    (runScaleConvergence options calls n).finalRound = none →
      (runScaleConvergence options calls n).attempt = n := by
  induction n with
  | zero => exact fun _ => rfl
  | succ n ih =>
      rw [run_succ]
      rcases @advance_cases _ options calls
          (runScaleConvergence options calls n) with ⟨hdone, h⟩ | ⟨hgoing, -, h⟩ | ⟨-, -, h⟩
      · rw [h]
        intro hnone
        rw [hnone] at hdone
        cases hdone
      · rw [h]
        intro _
        exact congrArg Nat.succ (ih hgoing)
      · rw [h]
        intro hnone
        cases hnone

theorem exists_finalRound (calls : Calls Data) (h : options.attempts ≠ .infinity) :
    ∃ n, (runScaleConvergence options calls n).finalRound.isSome = true := by
  obtain ⟨m, hm⟩ := Number.exists_not_le h
  by_contra hnone
  have hgoing : (runScaleConvergence options calls (m + 1)).finalRound = none := by
    cases hfinal : (runScaleConvergence options calls (m + 1)).finalRound with
    | none => rfl
    | some round => exact absurd ⟨m + 1, by rw [hfinal]; rfl⟩ hnone
  have hattempt := attempt_run options calls (m + 1) hgoing
  rcases (sound_run options calls (m + 1)).bounded with hzero | hle
  · rw [hattempt] at hzero
    cases hzero
  · rw [hattempt, hm (m + 1) (Nat.lt_succ_self m)] at hle
    cases hle

end Rounds

/-- A call returns unless both its attempts and its time are without a limit, and as long as no
answer leaves out a count that matters its rounds are true. -/
theorem runScaleConvergence_truthful (options : Options) (calls : Calls Data) :
    (options.attempts ≠ .infinity →
      ∃ n, (runScaleConvergence options calls n).finalRound.isSome = true) ∧
    ∀ n, (∀ attempt, attempt < (runScaleConvergence options calls n).attempt →
        LeavesOutSafely options calls attempt) →
      Truthful options calls (runScaleConvergence options calls n) :=
  ⟨exists_finalRound calls, fun n hsafe => (sound_run options calls n).truthful hsafe⟩

def toTarget (target : Nat) (before : Option ScaleObservedState) (limit : Nat) : Options where
  desiredReplicas := .ofNat target
  initialObservedState := before
  intervalMs := none
  timeoutMs := none
  maxAttempts := some (.ofNat limit)
  requireAvailableReplicas := false

def counts (observed ready : Option Nat) : ScaleObservedState where
  observedReplicas := observed.map .ofNat
  readyReplicas := ready.map .ofNat
  availableReplicas := none
  observedAt := none

/-- Answers one after the other, while the clock stands still. -/
def answering (answers : List ScaleObservedState) : Calls ScaleObservedState where
  refetch := fun attempt => answers[attempt - 1]?
  resolveObservedState := id
  now := fun _ => 0
  toISOString := fun _ => ""

theorem truthful_of_full_counts :
    (∃ n, (runScaleConvergence (toTarget 1 none 5) (answering [counts (some 1) (some 1)])
      n).finalRound.isSome = true) ∧
    Truthful (toTarget 1 none 5) (answering [counts (some 1) (some 1)])
      (runScaleConvergence (toTarget 1 none 5) (answering [counts (some 1) (some 1)]) 1) := by
  have hall := runScaleConvergence_truthful (toTarget 1 none 5)
    (answering [counts (some 1) (some 1)])
  refine ⟨hall.1 (by decide), hall.2 1 ?_⟩
  intro attempt hattempt
  have hfirst : attempt = 0 := by
    have hone : (runScaleConvergence (toTarget 1 none 5)
        (answering [counts (some 1) (some 1)]) 1).attempt = 1 := by decide
    omega
  subst hfirst
  refine Or.inr (Or.inl ?_)
  intro field hfield
  rcases List.mem_cons.mp hfield with rfl | hfield
  · exact Option.some_ne_none _
  · rcases List.mem_cons.mp hfield with rfl | hfield
    · exact Option.some_ne_none _
    · cases hfield

/-- Two answers that state one count each are read as a stable workload; and one with the counts of
a workload scaled to zero, the zero of its ready replicas left out, runs into the timeout. -/
theorem left_out_counts_mislead :
    ((runScaleConvergence (toTarget 3 none 5)
        (answering [counts (some 3) none, counts none (some 3)]) 2).finalRound.map (·.status) =
          some .stable ∧
      ∀ attempt, ¬Shows (toTarget 3 none 5)
        (answer (answering [counts (some 3) none, counts none (some 3)]) (attempt + 1))) ∧
    ((runScaleConvergence (toTarget 0 (some (counts (some 2) (some 2))) 1)
        (answering [counts (some 0) none]) 1).finalRound.map (·.status) = some .timeout ∧
      Shows (toTarget 0 (some (counts (some 2) (some 2))) 1)
        (answer (answering [counts (some 0) none]) 1)) := by
  refine ⟨⟨by decide +kernel, ?_⟩, ⟨by decide +kernel, ?_⟩⟩
  · rintro attempt ⟨observed, hobserved, hall⟩
    have hfirst := hall (·.observedReplicas) (by simp [counted])
    have hsecond := hall (·.readyReplicas) (by simp [counted])
    match attempt, hobserved with
    | 0, hobserved =>
        cases hobserved
        revert hsecond
        decide
    | 1, hobserved =>
        cases hobserved
        revert hfirst
        decide
    | attempt + 2, hobserved => cases hobserved
  · refine ⟨counts (some 0) none, rfl, ?_⟩
    intro field hfield
    rcases List.mem_cons.mp hfield with rfl | hfield
    · decide
    · rcases List.mem_cons.mp hfield with rfl | hfield
      · decide
      · cases hfield

end KubeNova.Workloads
