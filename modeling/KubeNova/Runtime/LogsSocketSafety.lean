import KubeNova.Runtime.LogsSocket

/-!
# One connection at a time

What the logs socket shows in runs in which it is not called while an attempt to connect is under
way: attempts cannot be called off, so a call then leaves one behind that goes on by itself.
-/

namespace KubeNova.Runtime

open KubeNova.Foundation

/-! ## What is seen -/

def SocketEvent.isActivity : SocketEvent → Bool
  | created _ => true
  | timerArmed _ => true
  | status .connected => true
  | opened => true
  | _ => false

/-- The last call was `disconnect`. -/
def isDisconnected : List SocketEvent → Bool
  | [] => false
  | .connectCalled :: _ => false
  | .disconnectCalled :: _ => true
  | _ :: seen => isDisconnected seen

/-- Nothing is done between a `disconnect` and the next `connect`. -/
def isQuiet : List SocketEvent → Bool
  | [] => true
  | event :: seen => !(event.isActivity && isDisconnected seen) && isQuiet seen

def latestSockets : List SocketEvent → List Nat
  | [] => []
  | .attempted :: _ => []
  | .created i :: seen => i :: latestSockets seen
  | _ :: seen => latestSockets seen

def deliversLatest : List SocketEvent → Bool
  | [] => true
  | .logs i _ :: seen => decide (i ∈ latestSockets seen) && deliversLatest seen
  | _ :: seen => deliversLatest seen

namespace WebSocket

def IsLive (socket : WebSocket) : Prop :=
  socket.readyState = .connecting ∨ socket.readyState = .opened

def HasSession (socket : WebSocket) : Prop :=
  socket.onmessage = some .session ∨ socket.onclose = some .session

end WebSocket

namespace RuntimeLogsSocket

/-- One socket at most is connecting or open, `disconnect` is obeyed, and items come from the
latest attempt. -/
structure Orderly (s : RuntimeLogsSocket) : Prop where
  one : ∀ i j, (s.sockets i).IsLive → (s.sockets j).IsLive → i = j
  unarmed : isDisconnected s.seen = true → s.timers = []
  quiet : isQuiet s.seen = true
  latest : deliversLatest s.seen = true

def SocketAction.isCall : SocketAction → Bool
  | .connect => true
  | .reconnectNow => true
  | .disconnect => true
  | _ => false

def Idle (s : RuntimeLogsSocket) : Prop := ∀ a < s.attemptCount, s.attempts a = .done

instance (s : RuntimeLogsSocket) : Decidable (Idle s) :=
  inferInstanceAs (Decidable (∀ a < s.attemptCount, s.attempts a = .done))

def Unhurried (s : RuntimeLogsSocket) (action : SocketAction) : Prop :=
  action.isCall = true → Idle s

instance (s : RuntimeLogsSocket) (action : SocketAction) : Decidable (Unhurried s action) :=
  inferInstanceAs (Decidable (action.isCall = true → Idle s))

structure Inv (s : RuntimeLogsSocket) : Prop where
  single : ∀ a b, s.attempts a ≠ .done → s.attempts b ≠ .done → a = b
  bounded : ∀ a, s.attempts a ≠ .done → a < s.attemptCount
  live : ∀ i, (s.sockets i).IsLive → s.ws = some i
  session : ∀ i, (s.sockets i).HasSession →
    s.ws = some i ∧ i ∈ latestSockets s.seen ∧ isDisconnected s.seen = false
  underWay : ∀ a, s.attempts a ≠ .done →
    s.timers = [] ∧ (∀ i, ¬ (s.sockets i).HasSession) ∧ isDisconnected s.seen = false
  connecting : ∀ a i rest, s.attempts a = .connecting i rest →
    s.ws = some i ∧ i ∈ latestSockets s.seen
  opened : ∀ a i, s.attempts a = .opened i → s.ws = some i ∧ i ∈ latestSockets s.seen
  failed : ∀ a rest, s.attempts a = .failed rest → ∀ i, ¬ (s.sockets i).IsLive
  timer : s.timers = [] ∨ ∃ t, s.timers = [t] ∧ s.reconnectTimer = some t
  armed : s.timers ≠ [] → isDisconnected s.seen = false ∧
    ∀ i, (s.sockets i).onclose = some .session → (s.sockets i).closeFired = true
  quiet : isQuiet s.seen = true
  latest : deliversLatest s.seen = true

structure Vacant (a : Nat) (s : RuntimeLogsSocket) : Prop where
  others : ∀ b, b ≠ a → s.attempts b = .done
  bounded : a < s.attemptCount
  still : ∀ i, ¬ (s.sockets i).IsLive
  unbound : ∀ i, ¬ (s.sockets i).HasSession
  timers : s.timers = []
  called : isDisconnected s.seen = false
  quiet : isQuiet s.seen = true
  latest : deliversLatest s.seen = true

variable {s : RuntimeLogsSocket} {options : RuntimeLogsSocketOptions} {isUrl : String → Bool}

theorem Inv.orderly (h : Inv s) : Orderly s where
  one := by
    intro i j hi hj
    have hsame := (h.live i hi).symm.trans (h.live j hj)
    exact Option.some.inj hsame
  unarmed := by
    intro hdisconnected
    by_contra harmed
    rw [(h.armed harmed).1] at hdisconnected
    cases hdisconnected
  quiet := h.quiet
  latest := h.latest

theorem inv_initial : Inv initial where
  single := fun a _ ha => absurd rfl ha
  bounded := fun a ha => absurd rfl ha
  live := by
    intro i hlive
    rcases hlive with h | h <;> cases h
  session := by
    intro i hsession
    rcases hsession with h | h <;> cases h
  underWay := fun a ha => absurd rfl ha
  connecting := by
    intro a i rest h
    cases h
  opened := by
    intro a i h
    cases h
  failed := by
    intro a rest h
    cases h
  timer := Or.inl rfl
  armed := fun h => absurd rfl h
  quiet := rfl
  latest := rfl

theorem clearReconnectTimer_eq
    (h : s.timers = [] ∨ ∃ t, s.timers = [t] ∧ s.reconnectTimer = some t) :
    clearReconnectTimer s = { s with timers := [], reconnectTimer := none } := by
  rw [clearReconnectTimer]
  rcases h with hnil | ⟨t, htimers, hknown⟩
  · cases htimer : s.reconnectTimer with
    | some timer =>
        rw [hnil]
        rfl
    | none =>
        cases s
        simp only at hnil htimer
        rw [hnil, htimer]
  · rw [hknown, htimers]
    show ({ s with timers := [t].erase t, reconnectTimer := none } : RuntimeLogsSocket) = _
    rw [List.erase_cons_head]

theorem teardownSocket_eq (s : RuntimeLogsSocket) :
    teardownSocket s = { s with ws := none, sockets := (teardownSocket s).sockets } := by
  rw [teardownSocket]
  cases hws : s.ws with
  | some i => rfl
  | none =>
      cases s
      simp only at hws
      rw [hws]

theorem not_isLive_closed (socket : WebSocket) : ¬ (closed socket).IsLive := by
  intro hlive
  rw [closed] at hlive
  cases hstate : socket.readyState with
  | connecting =>
      rw [hstate] at hlive
      rcases hlive with h | h <;> cases h
  | opened =>
      rw [hstate] at hlive
      rcases hlive with h | h <;> cases h
  | closing =>
      rw [hstate] at hlive
      rcases hlive with h | h <;> (rw [hstate] at h; cases h)
  | closed =>
      rw [hstate] at hlive
      rcases hlive with h | h <;> (rw [hstate] at h; cases h)

theorem closed_eq (socket : WebSocket) :
    closed socket = { socket with readyState := (closed socket).readyState } := by
  rw [closed]
  cases hstate : socket.readyState with
  | connecting => rfl
  | opened => rfl
  | closing => rfl
  | closed => rfl

theorem teardownSocket_still (hlive : ∀ i, (s.sockets i).IsLive → s.ws = some i)
    (hsession : ∀ i, (s.sockets i).HasSession → s.ws = some i) (i : Nat) :
    ¬ ((teardownSocket s).sockets i).IsLive ∧ ¬ ((teardownSocket s).sockets i).HasSession := by
  rw [teardownSocket]
  cases hws : s.ws with
  | none =>
      constructor
      · intro h
        have hsome := hlive i h
        rw [hws] at hsome
        cases hsome
      · intro h
        have hsome := hsession i h
        rw [hws] at hsome
        cases hsome
  | some j =>
      show ¬ (Function.update s.sockets j _ i).IsLive ∧
        ¬ (Function.update s.sockets j _ i).HasSession
      by_cases hij : i = j
      · subst hij
        rw [Function.update_self]
        refine ⟨not_isLive_closed _, ?_⟩
        intro h
        rw [closed_eq] at h
        rcases h with h | h <;> cases h
      · rw [Function.update_of_ne hij]
        constructor
        · intro h
          have hsome := hlive i h
          rw [hws] at hsome
          exact hij (Option.some.inj hsome).symm
        · intro h
          have hsome := hsession i h
          rw [hws] at hsome
          exact hij (Option.some.inj hsome).symm

theorem Inv.vacant {a : Nat} {rest : List String} (h : Inv s) (ha : s.attempts a = .failed rest) :
    Vacant a s := by
  have hunder : s.attempts a ≠ .done := by
    rw [ha]
    intro hdone
    cases hdone
  obtain ⟨htimers, hunbound, hcalled⟩ := h.underWay a hunder
  refine ⟨?_, h.bounded a hunder, h.failed a rest ha, hunbound, htimers, hcalled, h.quiet,
    h.latest⟩
  intro b hb
  by_contra hother
  exact hb (h.single b a hother hunder)

theorem Vacant.ended {a : Nat} (h : Vacant a s) (b : Nat) :
    (setAttempt a .done s).attempts b = .done := by
  show Function.update s.attempts a .done b = .done
  by_cases hb : b = a
  · subst hb
    exact Function.update_self _ _ _
  · rw [Function.update_of_ne hb]
    exact h.others b hb

theorem Vacant.inv_failed {a : Nat} {rest : List String} (h : Vacant a s) :
    Inv (setAttempt a (.failed rest) s) := by
  have hother : ∀ b, b ≠ a → (setAttempt a (.failed rest) s).attempts b = .done := by
    intro b hb
    show Function.update s.attempts a _ b = _
    rw [Function.update_of_ne hb]
    exact h.others b hb
  have honly : ∀ b, (setAttempt a (.failed rest) s).attempts b ≠ .done → b = a := by
    intro b hb
    by_contra hne
    exact hb (hother b hne)
  have hself : (setAttempt a (.failed rest) s).attempts a = .failed rest :=
    Function.update_self _ _ _
  refine ⟨?_, ?_, ?_, ?_, ?_, ?_, ?_, ?_, Or.inl h.timers, ?_, h.quiet, h.latest⟩
  · intro b c hb hc
    rw [honly b hb, honly c hc]
  · intro b hb
    rw [honly b hb]
    exact h.bounded
  · intro i hlive
    exact absurd hlive (h.still i)
  · intro i hsession
    exact absurd hsession (h.unbound i)
  · intro b _
    exact ⟨h.timers, h.unbound, h.called⟩
  · intro b i rest' hb
    have hba := honly b (by rw [hb]; intro hdone; cases hdone)
    rw [hba, hself] at hb
    cases hb
  · intro b i hb
    have hba := honly b (by rw [hb]; intro hdone; cases hdone)
    rw [hba, hself] at hb
    cases hb
  · intro b rest' _ i
    exact h.still i
  · intro harmed
    exact absurd h.timers harmed

theorem Vacant.inv_connectSingle {a : Nat} (candidate : String) (rest : List String)
    (h : Vacant a s) : Inv (connectSingle isUrl a candidate rest s) := by
  rw [connectSingle]
  split
  · have hattempt : ∀ b, b ≠ a →
        Function.update s.attempts a (.connecting s.socketCount rest) b = .done := by
      intro b hb
      rw [Function.update_of_ne hb]
      exact h.others b hb
    have honly : ∀ b,
        Function.update s.attempts a (.connecting s.socketCount rest) b ≠ .done → b = a := by
      intro b hb
      by_contra hne
      exact hb (hattempt b hne)
    have hself : Function.update s.attempts a (.connecting s.socketCount rest) a =
        .connecting s.socketCount rest := Function.update_self _ _ _
    have hsocket : ∀ i, i ≠ s.socketCount → ∀ socket : WebSocket,
        Function.update s.sockets s.socketCount socket i = s.sockets i :=
      fun i hi socket => Function.update_of_ne hi _ _
    have hunbound : ∀ i, ¬ (Function.update s.sockets s.socketCount
        ⟨.connecting, false, some (.attempt a), none, some (.attempt a), some (.attempt a)⟩
          i).HasSession := by
      intro i hsession
      by_cases hi : i = s.socketCount
      · subst hi
        rw [Function.update_self] at hsession
        rcases hsession with hs | hs <;> cases hs
      · rw [hsocket i hi] at hsession
        exact h.unbound i hsession
    refine ⟨?_, ?_, ?_, ?_, ?_, ?_, ?_, ?_, Or.inl h.timers, ?_, ?_, ?_⟩
    · intro b c hb hc
      rw [honly b hb, honly c hc]
    · intro b hb
      rw [honly b hb]
      exact h.bounded
    · intro i hlive
      by_contra hne
      have hi : i ≠ s.socketCount := by
        intro heq
        exact hne (congrArg some heq.symm)
      have hlive' : (Function.update s.sockets s.socketCount _ i).IsLive := hlive
      rw [hsocket i hi] at hlive'
      exact h.still i hlive'
    · intro i hsession
      exact absurd hsession (hunbound i)
    · intro b _
      exact ⟨h.timers, hunbound, h.called⟩
    · intro b i rest' hb
      have hb' : Function.update s.attempts a (.connecting s.socketCount rest) b =
          .connecting i rest' := hb
      have hba := honly b (by rw [hb']; intro hdone; cases hdone)
      rw [hba, hself] at hb'
      cases hb'
      exact ⟨rfl, List.mem_cons_self⟩
    · intro b i hb
      have hb' : Function.update s.attempts a (.connecting s.socketCount rest) b = .opened i := hb
      have hba := honly b (by rw [hb']; intro hdone; cases hdone)
      rw [hba, hself] at hb'
      cases hb'
    · intro b rest' hb
      have hb' : Function.update s.attempts a (.connecting s.socketCount rest) b =
          .failed rest' := hb
      have hba := honly b (by rw [hb']; intro hdone; cases hdone)
      rw [hba, hself] at hb'
      cases hb'
    · intro harmed
      exact absurd h.timers harmed
    · show (!((SocketEvent.created s.socketCount).isActivity && isDisconnected s.seen) &&
        isQuiet s.seen) = true
      rw [h.called, h.quiet]
      rfl
    · exact h.latest
  · exact h.inv_failed

theorem Vacant.inv_connectWithCandidates {a : Nat} (h : Vacant a s) (candidates : List String) :
    Inv (connectWithCandidates isUrl a s candidates) := by
  cases candidates with
  | nil => exact h.inv_failed
  | cons candidate rest => exact h.inv_connectSingle candidate rest

theorem Inv.of_idle (hdone : ∀ a, s.attempts a = .done)
    (hlive : ∀ i, (s.sockets i).IsLive → s.ws = some i)
    (hsession : ∀ i, (s.sockets i).HasSession →
      s.ws = some i ∧ i ∈ latestSockets s.seen ∧ isDisconnected s.seen = false)
    (htimer : s.timers = [] ∨ ∃ t, s.timers = [t] ∧ s.reconnectTimer = some t)
    (harmed : s.timers ≠ [] → isDisconnected s.seen = false ∧
      ∀ i, (s.sockets i).onclose = some .session → (s.sockets i).closeFired = true)
    (hquiet : isQuiet s.seen = true) (hlatest : deliversLatest s.seen = true) : Inv s where
  single := fun a _ ha => absurd (hdone a) ha
  bounded := fun a ha => absurd (hdone a) ha
  live := hlive
  session := hsession
  underWay := fun a ha => absurd (hdone a) ha
  connecting := by
    intro a i rest h
    rw [hdone a] at h
    cases h
  opened := by
    intro a i h
    rw [hdone a] at h
    cases h
  failed := by
    intro a rest h
    rw [hdone a] at h
    cases h
  timer := htimer
  armed := harmed
  quiet := hquiet
  latest := hlatest

theorem inv_handleUnexpectedClose (hdone : ∀ a, s.attempts a = .done)
    (hlive : ∀ i, (s.sockets i).IsLive → s.ws = some i)
    (hsession : ∀ i, (s.sockets i).HasSession →
      s.ws = some i ∧ i ∈ latestSockets s.seen ∧ isDisconnected s.seen = false)
    (htimers : s.timers = []) (hcalled : isDisconnected s.seen = false)
    (hclosed : ∀ i, (s.sockets i).onclose = some .session → (s.sockets i).closeFired = true)
    (hquiet : isQuiet s.seen = true) (hlatest : deliversLatest s.seen = true) :
    Inv (handleUnexpectedClose options s) := by
  have hstatus : Inv (note (.status .failed) s) :=
    @Inv.of_idle (note (.status .failed) s) hdone hlive hsession (Or.inl htimers)
      (fun h => absurd htimers h) hquiet hlatest
  rw [handleUnexpectedClose]
  split
  · exact hstatus
  · split
    · exact hstatus
    · have hone : s.timerCount :: s.timers = [s.timerCount] := by rw [htimers]
      have hshown : (!((SocketEvent.timerArmed s.timerCount).isActivity &&
          isDisconnected s.seen) && isQuiet s.seen) = true := by
        rw [hcalled, hquiet]
        rfl
      apply Inv.of_idle
      · exact hdone
      · exact hlive
      · exact hsession
      · exact Or.inr ⟨s.timerCount, hone, rfl⟩
      · intro _
        exact ⟨hcalled, hclosed⟩
      · exact hshown
      · exact hlatest

/-- A socket may stop being live and have its close event, as long as the same functions listen. -/
protected theorem Inv.setSocket {i : Nat} {socket : WebSocket} (h : Inv s)
    (hlive : socket.IsLive → (s.sockets i).IsLive)
    (hmessage : socket.onmessage = (s.sockets i).onmessage)
    (hclose : socket.onclose = (s.sockets i).onclose)
    (hfired : (s.sockets i).closeFired = true → socket.closeFired = true) :
    Inv (setSocket i socket s) := by
  have hlives : ∀ j, (Function.update s.sockets i socket j).IsLive → (s.sockets j).IsLive := by
    intro j hj
    by_cases hji : j = i
    · subst hji
      rw [Function.update_self] at hj
      exact hlive hj
    · rwa [Function.update_of_ne hji] at hj
  have hsessions : ∀ j, (Function.update s.sockets i socket j).HasSession →
      (s.sockets j).HasSession := by
    intro j hj
    by_cases hji : j = i
    · subst hji
      rw [Function.update_self, WebSocket.HasSession, hmessage, hclose] at hj
      exact hj
    · rwa [Function.update_of_ne hji] at hj
  refine ⟨h.single, h.bounded, ?_, ?_, ?_, h.connecting, h.opened, ?_, h.timer, ?_, h.quiet,
    h.latest⟩
  · intro j hj
    exact h.live j (hlives j hj)
  · intro j hj
    exact h.session j (hsessions j hj)
  · intro a ha
    obtain ⟨htimers, hunbound, hcalled⟩ := h.underWay a ha
    exact ⟨htimers, fun j hj => hunbound j (hsessions j hj), hcalled⟩
  · intro a rest ha j hj
    exact h.failed a rest ha j (hlives j hj)
  · intro harmed
    obtain ⟨hcalled, hclosed⟩ := h.armed harmed
    refine ⟨hcalled, ?_⟩
    intro j hj
    have hj' : (Function.update s.sockets i socket j).onclose = some .session := hj
    show (Function.update s.sockets i socket j).closeFired = true
    by_cases hji : j = i
    · subst hji
      rw [Function.update_self] at hj' ⊢
      rw [hclose] at hj'
      exact hfired (hclosed j hj')
    · rw [Function.update_of_ne hji] at hj' ⊢
      exact hclosed j hj'

theorem Inv.fail {a i : Nat} {rest : List String} (h : Inv s)
    (ha : s.attempts a = .connecting i rest) (hdead : ¬ (s.sockets i).IsLive) :
    Inv (setAttempt a (.failed rest) s) := by
  have hunder : s.attempts a ≠ .done := by
    rw [ha]
    intro hdone
    cases hdone
  obtain ⟨htimers, hunbound, hcalled⟩ := h.underWay a hunder
  have hws := (h.connecting a i rest ha).1
  have hvacant : Vacant a s := by
    refine ⟨?_, h.bounded a hunder, ?_, hunbound, htimers, hcalled, h.quiet, h.latest⟩
    · intro b hb
      by_contra hother
      exact hb (h.single b a hother hunder)
    · intro j hj
      have hij : i = j := Option.some.inj (hws.symm.trans (h.live j hj))
      subst hij
      exact hdead hj
  exact hvacant.inv_failed

protected theorem Inv.rejectCandidate {a i : Nat} (h : Inv s) (hdead : ¬ (s.sockets i).IsLive) :
    Inv (rejectCandidate a i s) := by
  rw [rejectCandidate]
  cases ha : s.attempts a with
  | connecting j rest =>
      by_cases hji : j = i
      · subst hji
        simp only [↓reduceIte]
        exact h.fail ha hdead
      · simp only [hji, ↓reduceIte]
        exact h
  | opened j => exact h
  | failed rest => exact h
  | done => exact h

protected theorem Inv.resolveCandidate {a i : Nat} (h : Inv s) : Inv (resolveCandidate a i s) := by
  rw [resolveCandidate]
  cases ha : s.attempts a with
  | connecting j rest =>
      by_cases hji : j = i
      · subst hji
        simp only [↓reduceIte]
        have hunder : s.attempts a ≠ .done := by
          rw [ha]
          intro hdone
          cases hdone
        have honly : ∀ b, Function.update s.attempts a (.opened j) b ≠ .done → b = a := by
          intro b hb
          by_contra hne
          rw [Function.update_of_ne hne] at hb
          exact hne (h.single b a hb hunder)
        have hself : Function.update s.attempts a (.opened j) a = .opened j :=
          Function.update_self _ _ _
        refine ⟨?_, ?_, h.live, h.session, ?_, ?_, ?_, ?_, h.timer, h.armed, h.quiet, h.latest⟩
        · intro b c hb hc
          rw [honly b hb, honly c hc]
        · intro b hb
          rw [honly b hb]
          exact h.bounded a hunder
        · intro b _
          exact h.underWay a hunder
        · intro b k rest' hb
          have hb' : Function.update s.attempts a (.opened j) b = .connecting k rest' := hb
          rw [honly b (by rw [hb']; intro hdone; cases hdone), hself] at hb'
          cases hb'
        · intro b k hb
          have hb' : Function.update s.attempts a (.opened j) b = .opened k := hb
          rw [honly b (by rw [hb']; intro hdone; cases hdone), hself] at hb'
          cases hb'
          exact h.connecting a j rest ha
        · intro b rest' hb
          have hb' : Function.update s.attempts a (.opened j) b = .failed rest' := hb
          rw [honly b (by rw [hb']; intro hdone; cases hdone), hself] at hb'
          cases hb'
      · simp only [hji, ↓reduceIte]
        exact h
  | opened j => exact h
  | failed rest => exact h
  | done => exact h

theorem Inv.sessionBegun {a i : Nat} (h : Inv s) (ha : s.attempts a = .opened i) :
    Inv (handleConnected (bindSocketEvents i { setAttempt a .done s with ws := some i })) := by
  obtain ⟨hws, hlatest⟩ := h.opened a i ha
  have hunder : s.attempts a ≠ .done := by
    rw [ha]
    intro hdone
    cases hdone
  obtain ⟨htimers, hunbound, hcalled⟩ := h.underWay a hunder
  have hclear := @clearReconnectTimer_eq
    (bindSocketEvents i { setAttempt a .done s with ws := some i }) (Or.inl htimers)
  rw [handleConnected, hclear]
  apply Inv.of_idle
  · intro b
    show Function.update s.attempts a .done b = .done
    by_cases hb : b = a
    · subst hb
      exact Function.update_self _ _ _
    · rw [Function.update_of_ne hb]
      by_contra hother
      exact hb (h.single b a hother hunder)
  · intro j hlive
    show some i = some j
    by_cases hj : j = i
    · rw [hj]
    · have hlive' : (Function.update s.sockets i _ j).IsLive := hlive
      rw [Function.update_of_ne hj] at hlive'
      rw [← hws, h.live j hlive']
  · intro j hsession
    have hsession' : (Function.update s.sockets i _ j).HasSession := hsession
    by_cases hj : j = i
    · subst hj
      exact ⟨rfl, hlatest, hcalled⟩
    · rw [Function.update_of_ne hj] at hsession'
      exact absurd hsession' (hunbound j)
  · exact Or.inl rfl
  · intro harmed
    exact absurd rfl harmed
  · show (!(SocketEvent.opened.isActivity && isDisconnected s.seen) &&
      (!((SocketEvent.status .connected).isActivity && isDisconnected s.seen) &&
        isQuiet s.seen)) = true
    rw [hcalled, h.quiet]
    rfl
  · exact h.latest

/-- What has been settled is followed up: a session begins, or the next candidate is tried, or
none is left. -/
protected theorem Inv.resumed {a : Nat} {t : RuntimeLogsSocket} (h : Inv s)
    (hstep : resumed options isUrl a s = some t) : Inv t := by
  rw [resumed] at hstep
  cases ha : s.attempts a with
  | opened i =>
      rw [ha] at hstep
      rw [← Option.some.inj hstep]
      exact h.sessionBegun ha
  | failed rest =>
      have hvacant := h.vacant ha
      cases rest with
      | nil =>
          rw [ha] at hstep
          rw [← Option.some.inj hstep]
          have hunbound := hvacant.unbound
          apply inv_handleUnexpectedClose
          · exact hvacant.ended
          · intro i hlive
            exact absurd hlive (hvacant.still i)
          · intro i hsession
            exact absurd hsession (hunbound i)
          · exact hvacant.timers
          · exact hvacant.called
          · intro i hclose
            exact absurd (Or.inr hclose) (hunbound i)
          · exact hvacant.quiet
          · exact hvacant.latest
      | cons candidate rest =>
          rw [ha] at hstep
          rw [← Option.some.inj hstep]
          exact hvacant.inv_connectSingle candidate rest
  | connecting i rest =>
      rw [ha] at hstep
      cases hstep
  | done =>
      rw [ha] at hstep
      cases hstep

theorem inv_openWithCandidates (hdone : ∀ a, s.attempts a = .done)
    (hlive : ∀ i, (s.sockets i).IsLive → s.ws = some i)
    (hsession : ∀ i, (s.sockets i).HasSession → s.ws = some i)
    (htimers : s.timers = []) (hcalled : isDisconnected s.seen = false)
    (hquiet : isQuiet s.seen = true) (hlatest : deliversLatest s.seen = true)
    (candidates : List String) :
    Inv (connectWithCandidates isUrl (teardownSocket s).attemptCount
      { teardownSocket s with attemptCount := (teardownSocket s).attemptCount + 1 }
      candidates) := by
  have hstill := teardownSocket_still hlive hsession
  rw [teardownSocket_eq]
  apply Vacant.inv_connectWithCandidates
  refine ⟨?_, Nat.lt_succ_self _, ?_, ?_, htimers, hcalled, hquiet, hlatest⟩
  · intro b _
    exact hdone b
  · intro i
    exact (hstill i).1
  · intro i
    exact (hstill i).2

protected theorem Inv.connectInternal (h : Inv s) (hdone : ∀ a, s.attempts a = .done)
    (hcalled : isDisconnected s.seen = false) (reset : Bool) :
    Inv (connectInternal options isUrl reset s) := by
  have hclear := @clearReconnectTimer_eq (note .attempted s) h.timer
  have hsession : ∀ i, (s.sockets i).HasSession → s.ws = some i :=
    fun i hi => (h.session i hi).1
  rw [connectInternal, hclear]
  have hquiet : ∀ reconnecting : Bool, isQuiet
      (.status (if reconnecting then .reconnecting else .connecting) :: .attempted :: s.seen) =
        true := by
    intro reconnecting
    cases reconnecting with
    | true => exact h.quiet
    | false => exact h.quiet
  cases reset with
  | true =>
      apply inv_openWithCandidates
      · exact hdone
      · exact h.live
      · exact hsession
      · rfl
      · exact hcalled
      · exact hquiet false
      · exact h.latest
  | false =>
      apply inv_openWithCandidates
      · exact hdone
      · exact h.live
      · exact hsession
      · rfl
      · exact hcalled
      · exact hquiet s.reconnecting
      · exact h.latest

/-- After a `disconnect` nothing is left. -/
protected theorem Inv.disconnect (h : Inv s) (hdone : ∀ a, s.attempts a = .done) :
    Inv (disconnect s) := by
  have hclear := @clearReconnectTimer_eq (note .disconnectCalled { s with manualClose := true })
    h.timer
  have hstill := @teardownSocket_still
    { clearReconnectTimer (note .disconnectCalled { s with manualClose := true }) with
      reconnectAttempt := 0, reconnecting := false }
  rw [hclear] at hstill
  have hnothing := hstill h.live (fun i hi => (h.session i hi).1)
  rw [disconnect, hclear, teardownSocket_eq]
  apply Inv.of_idle
  · exact hdone
  · intro i hlive
    exact absurd hlive (hnothing i).1
  · intro i hsession
    exact absurd hsession (hnothing i).2
  · exact Or.inl rfl
  · intro harmed
    exact absurd rfl harmed
  · exact h.quiet
  · exact h.latest

/-! ## Steps and runs -/

theorem Inv.done_of_idle (h : Inv s) (hidle : Idle s) (a : Nat) : s.attempts a = .done := by
  by_contra hunder
  exact hunder (hidle a (h.bounded a hunder))

theorem Inv.done_of_armed (h : Inv s) (harmed : s.timers ≠ []) (a : Nat) :
    s.attempts a = .done := by
  by_contra hunder
  exact harmed (h.underWay a hunder).1

protected theorem Inv.socketClosed {i : Nat} (h : Inv s) (hdead : ¬ (s.sockets i).IsLive)
    (hfired : (s.sockets i).closeFired = true)
    (hunarmed : (s.sockets i).onclose = some .session → s.timers = []) :
    Inv (socketClosed options i s) := by
  rw [socketClosed]
  cases honclose : (s.sockets i).onclose with
  | none => exact h
  | some handler =>
      cases handler with
      | attempt a => exact h.rejectCandidate hdead
      | session =>
          have hsession := h.session i (Or.inr honclose)
          have hdone : ∀ a, s.attempts a = .done := by
            intro a
            by_contra hunder
            exact (h.underWay a hunder).2.1 i (Or.inr honclose)
          simp only
          split
          · exact @Inv.of_idle (note (.status .disconnected) s) hdone h.live h.session h.timer
              h.armed h.quiet h.latest
          · apply inv_handleUnexpectedClose hdone h.live h.session (hunarmed honclose) hsession.2.2
            · intro j hj
              have hsame := hsession.1.symm.trans (h.session j (Or.inr hj)).1
              rw [← Option.some.inj hsame]
              exact hfired
            · exact h.quiet
            · exact h.latest

theorem Inv.hasError (h : Inv s) : Inv { s with hasError := true } where
  single := h.single
  bounded := h.bounded
  live := h.live
  session := h.session
  underWay := h.underWay
  connecting := h.connecting
  opened := h.opened
  failed := h.failed
  timer := h.timer
  armed := h.armed
  quiet := h.quiet
  latest := h.latest

theorem Inv.connectCalled (h : Inv s) (hidle : Idle s) :
    Inv (connectInternal options isUrl true (note .connectCalled s)) := by
  have hdone := h.done_of_idle hidle
  have hcalled : Inv (note .connectCalled s) := by
    apply Inv.of_idle
    · exact hdone
    · exact h.live
    · intro i hi
      exact ⟨(h.session i hi).1, (h.session i hi).2.1, rfl⟩
    · exact h.timer
    · intro harmed
      exact ⟨rfl, (h.armed harmed).2⟩
    · exact h.quiet
    · exact h.latest
  exact hcalled.connectInternal hdone rfl true

theorem Inv.socketMessage {i : Nat} (items : List String) (h : Inv s)
    (hmessage : (s.sockets i).onmessage = some .session) : Inv (note (.logs i items) s) := by
  have hsession := h.session i (Or.inl hmessage)
  have hdone : ∀ a, s.attempts a = .done := by
    intro a
    by_contra hunder
    exact (h.underWay a hunder).2.1 i (Or.inl hmessage)
  have hdelivered : (decide (i ∈ latestSockets s.seen) && deliversLatest s.seen) = true := by
    rw [decide_eq_true hsession.2.1, h.latest]
    rfl
  exact @Inv.of_idle (note (.logs i items) s) hdone h.live h.session h.timer h.armed h.quiet
    hdelivered

theorem Inv.timerFired {timer : Nat} (h : Inv s) (harmed : timer ∈ s.timers) :
    Inv (connectInternal options isUrl false
      { s with timers := s.timers.erase timer, reconnectTimer := none }) := by
  have hne : s.timers ≠ [] := List.ne_nil_of_mem harmed
  have hdone := h.done_of_armed hne
  have hnone : s.timers.erase timer = [] := by
    rcases h.timer with hnil | ⟨t, htimers, _⟩
    · exact absurd hnil hne
    · rw [htimers, List.mem_singleton] at harmed
      rw [htimers, harmed, List.erase_cons_head]
  have hfired : Inv { s with timers := s.timers.erase timer, reconnectTimer := none } := by
    apply Inv.of_idle
    · exact hdone
    · exact h.live
    · exact h.session
    · exact Or.inl hnone
    · intro hsome
      exact absurd hnone hsome
    · exact h.quiet
    · exact h.latest
  exact hfired.connectInternal hdone (h.armed hne).1 false

protected theorem Inv.step {action : SocketAction} {t : RuntimeLogsSocket} (h : Inv s)
    (hunhurried : Unhurried s action) (hstep : step options isUrl action s = some t) : Inv t := by
  cases action with
  | connect =>
      rw [← Option.some.inj hstep]
      exact h.connectCalled (hunhurried rfl)
  | reconnectNow =>
      rw [← Option.some.inj hstep]
      exact h.connectCalled (hunhurried rfl)
  | disconnect =>
      rw [← Option.some.inj hstep]
      exact h.disconnect (h.done_of_idle (hunhurried rfl))
  | socketOpen i =>
      rw [step] at hstep
      split at hstep
      · rename_i hconnecting
        have hopened : Inv (setSocket i { s.sockets i with readyState := .opened } s) :=
          h.setSocket (fun _ => Or.inl hconnecting) rfl rfl id
        rw [← Option.some.inj hstep]
        split
        · exact hopened.resolveCandidate
        · exact hopened
      · cases hstep
  | socketError i =>
      rw [step] at hstep
      split at hstep
      · have hdead : ¬ ({ s.sockets i with readyState := .closed } : WebSocket).IsLive := by
          intro hlive
          rcases hlive with hstate | hstate <;> cases hstate
        have hclosed : Inv (setSocket i { s.sockets i with readyState := .closed } s) :=
          h.setSocket (fun hlive => absurd hlive hdead) rfl rfl id
        rw [← Option.some.inj hstep]
        split
        · apply hclosed.rejectCandidate
          show ¬ (Function.update s.sockets i _ i).IsLive
          rw [Function.update_self]
          exact hdead
        · exact hclosed.hasError
        · exact hclosed
      · cases hstep
  | socketClose i =>
      rw [step] at hstep
      split at hstep
      · rename_i hnew
        have hdead : ¬ ({ s.sockets i with readyState := .closed, closeFired := true } :
            WebSocket).IsLive := by
          intro hlive
          rcases hlive with hstate | hstate <;> cases hstate
        have hself : (setSocket i { s.sockets i with readyState := .closed, closeFired := true }
            s).sockets i = { s.sockets i with readyState := .closed, closeFired := true } :=
          Function.update_self _ _ _
        have hclosed : Inv (setSocket i
            { s.sockets i with readyState := .closed, closeFired := true } s) :=
          h.setSocket (fun hlive => absurd hlive hdead) rfl rfl (fun _ => rfl)
        rw [← Option.some.inj hstep]
        apply hclosed.socketClosed
        · rw [hself]
          exact hdead
        · rw [hself]
        · rw [hself]
          intro honclose
          by_contra harmed
          have hfired := (h.armed harmed).2 i honclose
          rw [hnew] at hfired
          cases hfired
      · cases hstep
  | socketMessage i items =>
      rw [step] at hstep
      split at hstep
      · rw [← Option.some.inj hstep]
        split
        · rename_i hitems
          exact h.socketMessage items hitems.1
        · exact h
      · cases hstep
  | candidateTimeout a =>
      rw [step] at hstep
      cases ha : s.attempts a with
      | connecting i rest =>
          rw [ha] at hstep
          have hdead := not_isLive_closed (s.sockets i)
          have hclosed : Inv (setSocket i (closed (s.sockets i)) s) := by
            apply h.setSocket
            · intro hlive
              exact absurd hlive hdead
            · rw [closed_eq]
            · rw [closed_eq]
            · intro hfired
              rw [closed_eq]
              exact hfired
          rw [← Option.some.inj hstep]
          apply hclosed.fail ha
          show ¬ (Function.update s.sockets i _ i).IsLive
          rw [Function.update_self]
          exact hdead
      | opened i =>
          rw [ha] at hstep
          cases hstep
      | failed rest =>
          rw [ha] at hstep
          cases hstep
      | done =>
          rw [ha] at hstep
          cases hstep
  | resume a => exact h.resumed hstep
  | reconnectTimer timer =>
      rw [step] at hstep
      split at hstep
      · rename_i harmed
        rw [← Option.some.inj hstep]
        exact h.timerFired harmed
      · cases hstep

/-- Called when no attempt is under way, the object keeps one connection and obeys `disconnect`,
whatever its sockets and timers do. -/
theorem orderly_of_unhurried
    (hrun : (machine options isUrl).Run Unhurried initial s) : Orderly s := by
  have hinv : Inv s := by
    apply hrun.invariant
    · intro u action t hunhurried hstep hu
      exact hu.step hunhurried hstep
    · exact inv_initial
  exact hinv.orderly

def defaultOptions : RuntimeLogsSocketOptions := ⟨"ws://gateway/ws/logs", none, none, none⟩

/-- A session that ends, a reconnect that holds, and a `disconnect`. -/
def reconnectedRun : List SocketAction :=
  [.connect, .socketOpen 0, .resume 0, .socketMessage 0 ["started"], .socketClose 0,
    .reconnectTimer 0, .socketOpen 1, .resume 1, .socketMessage 1 ["again"], .disconnect]

theorem orderly_of_reconnectedRun :
    ∃ s, (machine defaultOptions fun _ => true).Run Unhurried initial s ∧
      s.seen.contains (.logs 1 ["again"]) = true ∧ Orderly s := by
  have hplay : ((((machine defaultOptions fun _ => true).restrict Unhurried).play reconnectedRun
      initial).map fun s => s.seen.contains (.logs 1 ["again"])) = some true := by
    decide +kernel
  obtain ⟨s, hs, hseen⟩ := Option.map_eq_some_iff.mp hplay
  have hrun := Machine.Run.play hs
  exact ⟨s, hrun, hseen, orderly_of_unhurried hrun⟩

def twoCandidates : RuntimeLogsSocketOptions :=
  ⟨"", some ["ws://first/ws/logs", "ws://second/ws/logs"], none, none⟩

/-- A `disconnect` while the first of two candidates is connecting. -/
def disconnectedRun : List SocketAction :=
  [.connect, .disconnect, .candidateTimeout 0, .resume 0, .socketOpen 1, .resume 0]

/-- The second candidate is opened after the `disconnect`, and reported as connected. -/
theorem not_orderly_of_disconnectedRun :
    ¬ ∀ s, (machine twoCandidates fun _ => true).AnyRun initial s → Orderly s := by
  intro hall
  have hplay : ((((machine twoCandidates fun _ => true).restrict fun _ _ => True).play
      disconnectedRun initial).map fun s => isQuiet s.seen) = some false := by
    decide +kernel
  obtain ⟨s, hs, hquiet⟩ := Option.map_eq_some_iff.mp hplay
  have horderly := hall s (Machine.Run.play hs)
  rw [horderly.quiet] at hquiet
  cases hquiet

end RuntimeLogsSocket

end KubeNova.Runtime
