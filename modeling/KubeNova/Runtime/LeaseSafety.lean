import KubeNova.Runtime.AuthorizationLeases

/-!
# Leases end with the authorization

Notifications come later than the changes they tell of, and checks run beside both.  `Upheld` is
what a stream is still worth: its notification is on the way, or its user is what the check after
the registration found.
-/

namespace KubeNova.Runtime

open KubeNova.Foundation KubeNova.Common KubeNova.Access KubeNova.Native

/-- The message of the triggers on `User` and `AuthorizationChange`. -/
def authorizationNotice (schema : String) (affectedUserId : Option String) : Notification where
  channel := "kubenova_authorization"
  event := some (.object [("schema", .string schema),
    ("userId", affectedUserId.elim .null .string)])

/-- The trigger on `User` notifies. -/
def NotifiesFor (old new : UserRow) : Prop :=
  old.authzVersion ≠ new.authzVersion ∨ old.isActive ≠ new.isActive

def RuntimeSession.disowned (session : RuntimeSession) (userId : String) : RuntimeSession :=
  if session.userId = some userId then { session with userId := none } else session

/-- What happens between the statements of the handlers. -/
inductive LeaseEvent : LeaseWorld → LeaseWorld → Prop
  | tick {w : LeaseWorld} {t : Nat} : w.now ≤ t → LeaseEvent w { w with now := t }
  | timers {w : LeaseWorld} :
      LeaseEvent w { w with timersAt := w.now, listener := w.listener.runTimers w.now }
  /-- A transaction that deletes no user; deleted ids are not given again. -/
  | commit {w : LeaseWorld} {users : String → Option UserRow} {tables : AccessTables}
      {affected : List (Option String)} :
      (∀ id row, w.users id = some row → ∃ new, users id = some new ∧
        (NotifiesFor row new → some id ∈ affected)) →
      (∀ id ∈ w.deleted, users id = none) →
      LeaseEvent w { w with
        users := users
        tables := tables
        inFlight := w.inFlight ++ affected.map (authorizationNotice w.listener.schema) }
  /-- No trigger runs when a user is deleted. -/
  | deleteUser {w : LeaseWorld} {userId : String} : LeaseEvent w { w with
      users := fun id => if id = userId then none else w.users id
      deleted := userId :: w.deleted
      sessions := fun id => (w.sessions id).map (·.disowned userId) }
  | sessions {w : LeaseWorld} {sessions : String → Option RuntimeSession} :
      LeaseEvent w { w with sessions := sessions }
  | namespaces {w : LeaseWorld} {read : String → String → Option String} :
      LeaseEvent w { w with readNamespace := read }
  /-- Anybody may notify, on any channel and with any payload. -/
  | foreign {w : LeaseWorld} {message : Notification} :
      LeaseEvent w { w with inFlight := w.inFlight ++ [message] }
  | deliver {w : LeaseWorld} {message : Notification} {rest : List Notification} :
      w.inFlight = message :: rest → LeaseEvent w { w with
        inFlight := rest, listener := w.listener.onNotification message }
  /-- The connection errs or ends, and what it carried is lost. -/
  | fail {w : LeaseWorld} :
      LeaseEvent w { w with inFlight := [], listener := w.listener.invalidateAll }
  /-- A new connection, which hears of what is committed from now on. -/
  | connect {w : LeaseWorld} : w.listener.ready = false → LeaseEvent w { w with
      inFlight := [], listener := { w.listener with ready := true } }
  /-- Whoever holds a lease gives it back. -/
  | close {w : LeaseWorld} {id : Nat} :
      LeaseEvent w { w with listener := w.listener.close id }

/-- The handling of the message aborts the streams of the user. -/
def Notification.Revokes (m : Notification) (schema userId : String) : Prop :=
  m.channel = "kubenova_authorization" ∧
    ∃ affected, AuthorizationInvalidation.readEvent m.event = some (schema, affected) ∧
      affected.all (· == userId) = true

/-- The user has the version and is active, or a notification says otherwise, or the user was
deleted. -/
def LeaseWorld.Vouches (w : LeaseWorld) (userId : String) (version : Nat) : Prop :=
  (∃ row, w.users userId = some row ∧ row.isActive = true ∧ row.authzVersion = version) ∨
    (∃ m ∈ w.inFlight, m.Revokes w.listener.schema userId) ∨ userId ∈ w.deleted

/-- Streams end with the connection, and no timer that was due is left. -/
structure LeaseWorld.Consistent (w : LeaseWorld) : Prop where
  closed : w.listener.ready = false → w.listener.streams = []
  pending : ∀ stream ∈ w.listener.streams, stream.id < w.listener.next ∧ w.timersAt < stream.dueAt
  clock : w.timersAt ≤ w.now
  deleted : ∀ id ∈ w.deleted, w.users id = none

/-- What every step keeps: streams are those that were there or new ones, and while a stream of a
user stays, the user is vouched for. -/
structure KeepsLeases (w w' : LeaseWorld) : Prop where
  consistent : w.Consistent → w'.Consistent
  next : w.listener.next ≤ w'.listener.next
  streams : ∀ stream ∈ w'.listener.streams,
    stream ∈ w.listener.streams ∨ w.listener.next ≤ stream.id
  vouches : w.Consistent → ∀ stream ∈ w'.listener.streams, stream ∈ w.listener.streams →
    ∀ version, w.Vouches stream.userId version → w'.Vouches stream.userId version

def Registered (id : Nat) (userId : String) (expiresAt : Nat) (w : LeaseWorld) : Prop :=
  id < w.listener.next ∧ ∀ stream ∈ w.listener.streams, stream.id = id →
    stream.userId = userId ∧ stream.dueAt ≤ expiresAt

def Upheld (lease : AuthorizationLease) (w : LeaseWorld) : Prop :=
  Registered lease.id lease.userId lease.expiresAt w ∧
    ∀ stream ∈ w.listener.streams, stream.id = lease.id →
      w.Vouches lease.userId lease.authzVersion

def leaseProtocol : Protocol LeaseWorld where
  inv := LeaseWorld.Consistent
  guar := KeepsLeases
  refl _ := ⟨id, Nat.le_refl _, fun _ h => .inl h, fun _ _ _ _ _ h => h⟩
  preserves h hkeeps := hkeeps.consistent h

theorem stable_registered (id : Nat) (userId : String) (expiresAt : Nat) :
    Stable leaseProtocol.contract (Registered id userId expiresAt) := by
  intro w w' h hmove
  refine ⟨Nat.lt_of_lt_of_le h.1 hmove.2.next, fun stream hstream hid => ?_⟩
  rcases hmove.2.streams stream hstream with hold | hnew
  · exact h.2 stream hold hid
  · exact absurd (hid ▸ h.1) (Nat.not_lt.mpr hnew)

theorem stable_upheld (lease : AuthorizationLease) :
    Stable leaseProtocol.contract (Upheld lease) := by
  intro w w' h hmove
  refine ⟨stable_registered _ _ _ w w' h.1 hmove, fun stream hstream hid => ?_⟩
  rcases hmove.2.streams stream hstream with hold | hnew
  · have huser := (h.1.2 stream hold hid).1
    rw [← huser]
    exact hmove.2.vouches hmove.1 stream hstream hold _ (huser ▸ h.2 stream hold hid)
  · exact absurd (hid ▸ h.1.1) (Nat.not_lt.mpr hnew)

theorem keepsLeases_of_abort {w w' : LeaseWorld} (aborts : LeaseStream → Bool)
    (hlistener : w'.listener.streams = (w.listener.abortWhere aborts).streams)
    (hnext : w'.listener.next = w.listener.next)
    (hready : w'.listener.ready = false → w'.listener.streams = [] ∨ w.listener.ready = false)
    (htimers : ∀ stream ∈ w'.listener.streams, w.timersAt < stream.dueAt →
      w'.timersAt < stream.dueAt) (hclock : w.timersAt ≤ w.now → w'.timersAt ≤ w'.now)
    (hdeleted : (∀ id ∈ w.deleted, w.users id = none) → ∀ id ∈ w'.deleted, w'.users id = none)
    (hvouches : w.Consistent → ∀ stream ∈ w'.listener.streams, ∀ version,
      w.Vouches stream.userId version → w'.Vouches stream.userId version) : KeepsLeases w w' := by
  have hsubset : ∀ stream ∈ w'.listener.streams, stream ∈ w.listener.streams := by
    intro stream hstream
    rw [hlistener] at hstream
    exact (List.mem_filter.mp hstream).1
  refine ⟨fun h => ⟨fun hoff => ?_, fun stream hstream => ?_, hclock h.clock, hdeleted h.deleted⟩,
    Nat.le_of_eq hnext.symm, fun stream hstream => .inl (hsubset stream hstream),
    fun h stream hstream _ => hvouches h stream hstream⟩
  · refine (hready hoff).elim id fun hwas => ?_
    rw [hlistener, AuthorizationInvalidation.abortWhere, h.closed hwas]
    rfl
  · have hpending := h.pending stream (hsubset stream hstream)
    exact ⟨hnext ▸ hpending.1, htimers stream hstream hpending.2⟩

theorem LeaseWorld.Vouches.mono {w w' : LeaseWorld} {userId : String} {version : Nat}
    (h : w.Vouches userId version) (husers : w'.users = w.users)
    (hschema : w'.listener.schema = w.listener.schema) (hflight : w.inFlight ⊆ w'.inFlight)
    (hdeleted : w'.deleted = w.deleted) : w'.Vouches userId version := by
  unfold Vouches at h ⊢
  rw [husers, hschema, hdeleted]
  exact h.imp_right (.imp_left fun ⟨m, hm, hrevokes⟩ => ⟨m, hflight hm, hrevokes⟩)

theorem onNotification_cases (l : AuthorizationInvalidation) (m : Notification) :
    l.onNotification m = l.invalidateAll ∨
      ∃ aborts, l.onNotification m = l.abortWhere aborts ∧
        ∀ stream, m.Revokes l.schema stream.userId → aborts stream = true := by
  unfold AuthorizationInvalidation.onNotification
  split_ifs with hchannel
  · exact .inr ⟨fun _ => false, by simp [AuthorizationInvalidation.abortWhere],
      fun _ h => absurd h.1 hchannel⟩
  · split
    · exact .inl rfl
    · rename_i schema affected hevent
      split_ifs with hschema
      · refine .inr ⟨fun _ => false, by simp [AuthorizationInvalidation.abortWhere], ?_⟩
        rintro stream ⟨-, affected', h, -⟩
        rw [hevent] at h
        exact absurd (Prod.mk.inj (Option.some.inj h)).1 hschema
      · refine .inr ⟨_, rfl, ?_⟩
        rintro stream ⟨-, affected', h, hall⟩
        rw [hevent] at h
        rw [(Prod.mk.inj (Option.some.inj h)).2]
        exact hall

theorem keepsLeases_of_same {w w' : LeaseWorld} (hlistener : w'.listener = w.listener)
    (htimers : w'.timersAt = w.timersAt) (hclock : w.now ≤ w'.now)
    (hdeleted : (∀ id ∈ w.deleted, w.users id = none) → ∀ id ∈ w'.deleted, w'.users id = none)
    (hvouches : ∀ userId version, w.Vouches userId version → w'.Vouches userId version) :
    KeepsLeases w w' := by
  refine keepsLeases_of_abort (fun _ => false) ?_ (by rw [hlistener])
    (fun hoff => .inr (hlistener ▸ hoff)) (fun _ _ h => htimers ▸ h)
    (fun h => htimers ▸ Nat.le_trans h hclock) hdeleted fun _ _ _ version => hvouches _ version
  simp [hlistener, AuthorizationInvalidation.abortWhere]

theorem keeps_commit {w : LeaseWorld} {users : String → Option UserRow} {tables : AccessTables}
    {affected : List (Option String)}
    (hrows : ∀ id row, w.users id = some row → ∃ new, users id = some new ∧
      (NotifiesFor row new → some id ∈ affected))
    (hgone : ∀ id ∈ w.deleted, users id = none) :
    KeepsLeases w { w with
      users := users
      tables := tables
      inFlight := w.inFlight ++ affected.map (authorizationNotice w.listener.schema) } := by
  refine keepsLeases_of_same rfl rfl (Nat.le_refl _) (fun _ => hgone) fun userId version h => ?_
  rcases h with ⟨row, hrow, hactive, hversion⟩ | ⟨m, hm, hrevokes⟩ | hdeleted
  · obtain ⟨new, hnew, hnotified⟩ := hrows userId row hrow
    by_cases hchanged : NotifiesFor row new
    · refine .inr (.inl ⟨_, List.mem_append_right _ (List.mem_map_of_mem (hnotified hchanged)), ?_⟩)
      refine ⟨rfl, some userId, ?_, by simp⟩
      simp [AuthorizationInvalidation.readEvent, authorizationNotice, List.lookup_cons]
    · unfold NotifiesFor at hchanged
      push Not at hchanged
      exact .inl ⟨new, hnew, hchanged.2 ▸ hactive, hchanged.1 ▸ hversion⟩
  · exact .inr (.inl ⟨m, List.mem_append_left _ hm, hrevokes⟩)
  · exact .inr (.inr hdeleted)

theorem keeps_deleteUser (w : LeaseWorld) (userId : String) :
    KeepsLeases w { w with
      users := fun id => if id = userId then none else w.users id
      deleted := userId :: w.deleted
      sessions := fun id => (w.sessions id).map (·.disowned userId) } := by
  refine keepsLeases_of_same rfl rfl (Nat.le_refl _) (fun h id hid => ?_) fun id version h => ?_
  · dsimp only
    split_ifs with heq
    · rfl
    · exact h id ((List.mem_cons.mp hid).resolve_left heq)
  · by_cases heq : id = userId
    · exact .inr (.inr (heq ▸ List.mem_cons_self))
    · refine h.imp (fun ⟨row, hrow, hsame⟩ => ⟨row, ?_, hsame⟩) (.imp_right (List.mem_cons_of_mem _))
      exact (if_neg heq).trans hrow

theorem keeps_invalidateAll (w : LeaseWorld) (inFlight : List Notification) :
    KeepsLeases w { w with inFlight := inFlight, listener := w.listener.invalidateAll } :=
  keepsLeases_of_abort (fun _ => true) rfl rfl
    (fun _ => .inl (by simp [AuthorizationInvalidation.invalidateAll,
      AuthorizationInvalidation.abortWhere])) (fun _ _ h => h) id id
    fun _ stream hstream => by simp [AuthorizationInvalidation.invalidateAll,
      AuthorizationInvalidation.abortWhere] at hstream

theorem keeps_deliver {w : LeaseWorld} {message : Notification} {rest : List Notification}
    (hflight : w.inFlight = message :: rest) :
    KeepsLeases w { w with inFlight := rest, listener := w.listener.onNotification message } := by
  rcases onNotification_cases w.listener message with hall | ⟨aborts, hsome, hrevoked⟩
  · rw [hall]
    exact keeps_invalidateAll w rest
  · rw [hsome]
    refine keepsLeases_of_abort aborts rfl rfl .inr (fun _ _ h => h) id id
      fun _ stream hstream version h => h.imp_right (.imp_left fun ⟨m, hm, hrevokes⟩ => ?_)
    rcases List.mem_cons.mp (hflight ▸ hm) with rfl | hrest
    · have hkept := (List.mem_filter.mp hstream).2
      rw [hrevoked stream hrevokes] at hkept
      cases hkept
    · exact ⟨m, hrest, hrevokes⟩

theorem keeps_close (w : LeaseWorld) (id : Nat) :
    KeepsLeases w { w with listener := w.listener.close id } :=
  keepsLeases_of_abort _ rfl rfl .inr (fun _ _ h => h) (fun h => h) (fun h => h) fun _ _ _ _ h =>
    h.mono rfl rfl (List.Subset.refl _) rfl

theorem keepsLeases_of_event {w w' : LeaseWorld} (h : LeaseEvent w w') : KeepsLeases w w' := by
  cases h with
  | tick hlater =>
      exact keepsLeases_of_same rfl rfl hlater id fun _ _ h =>
        h.mono rfl rfl (List.Subset.refl _) rfl
  | timers =>
      refine keepsLeases_of_abort _ rfl rfl .inr (fun stream hstream _ => ?_)
        (fun _ => Nat.le_refl _) id fun _ _ _ _ h => h.mono rfl rfl (List.Subset.refl _) rfl
      simpa using (List.mem_filter.mp hstream).2
  | commit hrows hgone => exact keeps_commit hrows hgone
  | deleteUser => exact keeps_deleteUser w _
  | sessions => exact keepsLeases_of_same rfl rfl (Nat.le_refl _) id fun _ _ h => h
  | namespaces => exact keepsLeases_of_same rfl rfl (Nat.le_refl _) id fun _ _ h => h
  | foreign =>
      exact keepsLeases_of_same rfl rfl (Nat.le_refl _) id fun _ _ h =>
        h.mono rfl rfl (List.subset_append_left _ _) rfl
  | deliver hflight => exact keeps_deliver hflight
  | fail => exact keeps_invalidateAll w []
  | connect hoff =>
      refine keepsLeases_of_abort (fun _ => false) (by simp [AuthorizationInvalidation.abortWhere])
        rfl (fun _ => .inr hoff) (fun _ _ h => h) id id fun hw stream hstream => ?_
      have hnone : stream ∈ ([] : List LeaseStream) := hw.closed hoff ▸ hstream
      cases hnone
  | close => exact keeps_close w _

theorem keeps_register (w : LeaseWorld) (userId : String) (expiresAt : Nat) :
    KeepsLeases w { w with listener := (w.listener.register w.now userId expiresAt).2 } ∧
      (w.Consistent → ∀ id, (w.listener.register w.now userId expiresAt).1 = .ok id →
        Registered id userId expiresAt
          { w with listener := (w.listener.register w.now userId expiresAt).2 }) := by
  unfold AuthorizationInvalidation.register
  split_ifs with hrefused
  · exact ⟨leaseProtocol.refl w, fun _ _ h => by cases h⟩
  push Not at hrefused
  obtain ⟨hready, -, hahead⟩ := hrefused
  refine ⟨⟨fun h => ⟨fun hoff => absurd hoff hready, fun stream hstream => ?_, h.clock, h.deleted⟩,
    Nat.le_succ _, fun stream hstream => ?_, fun _ stream _ _ version h =>
      h.mono rfl rfl (List.Subset.refl _) rfl⟩, fun h id hid => ?_⟩
  · rcases List.mem_append.mp hstream with hold | hnew
    · exact ⟨Nat.lt_succ_of_lt (h.pending stream hold).1, (h.pending stream hold).2⟩
    · obtain rfl := List.mem_singleton.mp hnew
      have hclock := h.clock
      exact ⟨Nat.lt_succ_self _, by dsimp only; omega⟩
  · exact (List.mem_append.mp hstream).imp_right fun hnew => by
      rw [List.mem_singleton.mp hnew]
  · obtain rfl := Except.ok.inj hid
    refine ⟨Nat.lt_succ_self _, fun stream hstream hsame => ?_⟩
    rcases List.mem_append.mp hstream with hold | hnew
    · exact absurd hsame (Nat.ne_of_lt (h.pending stream hold).1)
    · obtain rfl := List.mem_singleton.mp hnew
      exact ⟨rfl, by dsimp only; omega⟩

/-! ## The handlers -/

section Handlers

variable {α : Type} {p : LeaseWorld → Prop}

theorem stable_consistent : Stable leaseProtocol.contract LeaseWorld.Consistent :=
  fun _ _ h hmove => hmove.2.consistent h

theorem keeps_of_obeys (hp : Stable leaseProtocol.contract p) {h : LeaseHandler α}
    (hh : Obeys leaseProtocol h) : Returns leaseProtocol.contract (fun w => w.Consistent ∧ p w) h
      fun _ w => w.Consistent ∧ p w := by
  refine (hh.triple (fun _ _ _ h => h) (stable_consistent.and hp) (fun _ h => h.1)
    fun w w' h hkeeps => ?_).conseq (fun _ h => h) fun _ _ h _ _ => h
  exact ⟨hkeeps.consistent h.1, hp w w' h.2 ⟨h.1, hkeeps⟩⟩

theorem obeys_check (read : LeaseWorld → Except Exception α) : Obeys leaseProtocol (check read) :=
  .bind (.query _) .ofExcept

theorem returns_check {read : LeaseWorld → Except Exception α} {R : α → LeaseWorld → Prop}
    (hp : Stable leaseProtocol.contract p) (hread : ∀ w a, p w → read w = .ok a → R a w)
    (hR : ∀ a, Stable leaseProtocol.contract (R a)) :
    Returns leaseProtocol.contract p (check read) R :=
  .exec_ofExcept (f := fun w => (read w, w)) hp
    (fun w hw _ => ⟨leaseProtocol.refl w, fun a ha => hread w a hw ha⟩) hR

theorem returns_registerStream (userId : String) (expiresAt : Nat) :
    Returns leaseProtocol.contract LeaseWorld.Consistent (registerStream userId expiresAt)
      fun id w => w.Consistent ∧ Registered id userId expiresAt w := by
  refine .exec_ofExcept stable_consistent (fun w hw _ => ?_)
    fun id => stable_consistent.and (stable_registered id userId expiresAt)
  obtain ⟨hkeeps, hregistered⟩ := keeps_register w userId expiresAt
  exact ⟨hkeeps, fun id hid => ⟨hkeeps.consistent hw, hregistered hw id hid⟩⟩

theorem returns_orClose {id : Nat} {body : LeaseHandler α} {R : α → LeaseWorld → Prop}
    (hbody : Returns leaseProtocol.contract p body R) :
    Returns leaseProtocol.contract p (orClose id body) R :=
  .tryCatch hbody fun _ => Triple.exec_bind .true fun w _ _ =>
    ⟨keeps_close w id, (Returns.fail (p := fun _ => True) .true).guards trivial⟩

theorem obeys_grantedUntil (session : RuntimeSession) (exp : Int) :
    Obeys leaseProtocol (session.grantedUntil exp) := by
  refine .bind (.query _) fun resolved => ?_
  split
  · exact .ite (.done _) (.fail _)
  · exact .bind (.query _) fun _ => .done _

theorem obeys_validUntil (c : RuntimeConfig) (session : RuntimeSession) (user : UserRow)
    (claims : Claims) (exp : Int) : Obeys leaseProtocol (session.validUntil c user claims exp) := by
  refine .ite (.done _) (.ite (.done _) (.bind (.query _) fun _ => .ite (.done _) ?_))
  refine .bind (.query _) fun access => ?_
  dsimp only
  split
  · exact .ite (.bind (obeys_grantedUntil _ _) fun _ => .done _) (.done _)
  · exact .ite (.bind (obeys_grantedUntil _ _) fun _ => .done _) (.fail _)

theorem findSessionById_eq_some {w : LeaseWorld} {id : String} {session : RuntimeSession}
    {user : UserRow} (h : w.findSessionById id = some (session, user)) :
    w.users session.owner = some user ∧ user.isActive = true := by
  obtain ⟨session', -, h⟩ := Option.bind_eq_some_iff.mp h
  obtain ⟨user', huser, h⟩ := Option.bind_eq_some_iff.mp h
  split_ifs at h with hcurrent
  obtain ⟨rfl, rfl⟩ := Prod.mk.inj (Option.some.inj h)
  obtain ⟨key, hkey, hrow⟩ := Option.bind_eq_some_iff.mp huser
  rw [RuntimeSession.owner, hkey]
  exact ⟨hrow, hcurrent.1⟩

/-- Whoever the check has found is vouched for while the stream stays. -/
def FoundBy (id : Nat) (userId : String) (expiresAt : Nat)
    (validated : Except RuntimeSessionValidationCode ValidatedToken) (w : LeaseWorld) : Prop :=
  ∀ token, validated = .ok token → token.userId = userId →
    Upheld ⟨id, userId, expiresAt, token.authzVersion⟩ w

theorem returns_validate (c : RuntimeConfig) (input : ValidateRuntimeSessionTokenInput) (id : Nat)
    (userId : String) (expiresAt : Nat) :
    Returns leaseProtocol.contract (fun w => w.Consistent ∧ Registered id userId expiresAt w)
      (validateSessionTokenDetailed c input) (FoundBy id userId expiresAt) := by
  have hp := stable_consistent.and (stable_registered id userId expiresAt)
  have hnot : ∀ code, Returns leaseProtocol.contract
      (fun w => w.Consistent ∧ Registered id userId expiresAt w)
      (.done (.error code) : LeaseHandler (Except RuntimeSessionValidationCode ValidatedToken))
      (FoundBy id userId expiresAt) :=
    fun code => .done hp fun _ _ _ h => by cases h
  refine .read_bind hp fun verified => ?_
  split
  · exact hnot _
  refine .ite (fun _ => hnot _) fun _ => .ite (fun _ => hnot _) fun _ => ?_
  refine .query_bind hp fun w hw _ => ?_
  split
  · exact ⟨_, hw, hnot _⟩
  rename_i session user hfound
  obtain ⟨hrow, hactive⟩ := findSessionById_eq_some hfound
  by_cases howner : session.owner = userId
  · refine ⟨fun w => w.Consistent ∧ Upheld ⟨id, userId, expiresAt, user.authzVersion⟩ w,
      ⟨hw.1, hw.2, fun _ _ _ => .inl ⟨user, howner ▸ hrow, hactive, rfl⟩⟩, ?_⟩
    have hq := stable_upheld ⟨id, userId, expiresAt, user.authzVersion⟩
    refine .bind (keeps_of_obeys hq (obeys_validUntil c session user _ _)) fun valid =>
      .done (stable_consistent.and hq) fun w hw token htoken _ => ?_
    cases valid with
    | error code => cases htoken
    | ok exp =>
        obtain rfl := Except.ok.inj htoken
        exact hw.2
  · refine ⟨_, hw, .bind (keeps_of_obeys (stable_registered id userId expiresAt)
      (obeys_validUntil c session user _ _)) fun valid => .done hp fun w _ token htoken hsame => ?_⟩
    cases valid with
    | error code => cases htoken
    | ok exp =>
        obtain rfl := Except.ok.inj htoken
        exact absurd hsame howner

theorem obeys_validate (c : RuntimeConfig) (input : ValidateRuntimeSessionTokenInput) :
    Obeys leaseProtocol (validateSessionTokenDetailed c input) := by
  refine .bind (.query _) fun verified => ?_
  split
  · exact .done _
  refine .ite (.done _) (.ite (.done _) (.bind (.query _) fun found => ?_))
  split
  · exact .done _
  · exact .bind (obeys_validUntil _ _ _ _ _) fun _ => .done _

theorem returns_createRuntimeAuthorizationLease (c : RuntimeConfig)
    (input : ValidateRuntimeSessionTokenInput) :
    Returns leaseProtocol.contract LeaseWorld.Consistent (createRuntimeAuthorizationLease c input)
      Upheld := by
  have hfirst := (keeps_of_obeys .true (obeys_validate c input)).conseq
    (fun w (hw : w.Consistent) => ⟨hw, trivial⟩) fun _ _ h => h
  refine .bind hfirst fun validated => ?_
  split
  · exact .fail (stable_consistent.and .true)
  rename_i initial
  refine .bind ((returns_registerStream _ _).conseq (fun _ h => h.1) fun _ _ h => h) fun id => ?_
  refine returns_orClose (.bind (returns_validate c input id _ _) fun validated => ?_)
  cases validated with
  | error code =>
      exact Returns.conseq (.read_bind .true fun _ => .fail .true)
        (fun _ _ => trivial) fun _ _ h => h
  | ok final =>
      by_cases hsame : final.userId = initial.userId
      · have hq := stable_upheld
          ⟨id, initial.userId, (initial.exp * 1000).toNat, final.authzVersion⟩
        refine Returns.conseq (.read_bind hq fun _ => ?_) (fun w h => h final rfl hsame)
          fun _ _ h => h
        exact .ite (fun _ => .fail hq) fun _ => .done hq fun _ h => h
      · refine Returns.conseq (.read_bind .true fun _ => ?_) (fun _ _ => trivial) fun _ _ h => h
        exact .ite (fun _ => .fail .true) fun h => absurd (.inr (.inl hsame)) h

def NativeRead.AuthenticatesUsers (r : NativeRead) : Prop :=
  ∀ w actor, r.authenticate w = .ok actor → ∃ row, w.users actor.userId = some row ∧
    row.isActive = true ∧ row.authzVersion = actor.authzVersion

theorem authorizeNativeRequest_actor {d : Directory}
    {readNamespace : String → String → Option String} {actor : NativeActor}
    {clusterId method target : String} {now later : Nat} {decision : NativeDecision}
    (h : authorizeNativeRequest d readNamespace actor clusterId method target now later =
      .ok decision) :
    decision.userId = actor.userId ∧ decision.authzVersion = actor.authzVersion := by
  obtain ⟨request, -, h⟩ := exists_of_bind_eq_ok h
  dsimp only at h
  split_ifs at h
  obtain ⟨uid, -, h⟩ := exists_of_bind_eq_ok h
  split_ifs at h
  obtain rfl := Except.ok.inj h
  exact ⟨rfl, rfl⟩

theorem returns_authorized {r : NativeRead} (hr : r.AuthenticatesUsers) (id : Nat) (userId : String)
    (expiresAt : Nat) :
    Returns leaseProtocol.contract (fun w => w.Consistent ∧ Registered id userId expiresAt w)
      r.authorized fun decision w => decision.userId = userId →
        Upheld ⟨id, userId, expiresAt, decision.authzVersion⟩ w := by
  have hp := stable_consistent.and (stable_registered id userId expiresAt)
  have hq : ∀ actor : NativeActor, Stable leaseProtocol.contract fun w =>
      actor.userId = userId → Upheld ⟨id, userId, expiresAt, actor.authzVersion⟩ w :=
    fun actor w w' h hmove hsame => stable_upheld _ w w' (h hsame) hmove
  refine .bind (returns_check hp (fun w actor hw hactor hsame => ?_) hq) fun actor => ?_
  · obtain ⟨row, hrow, hactive, hversion⟩ := hr w actor hactor
    exact ⟨hw.2, fun _ _ _ => .inl ⟨row, hsame ▸ hrow, hactive, hversion⟩⟩
  have hstable : ∀ decision : NativeDecision, Stable leaseProtocol.contract fun w =>
      (decision.userId = actor.userId ∧ decision.authzVersion = actor.authzVersion) ∧
        (actor.userId = userId → Upheld ⟨id, userId, expiresAt, actor.authzVersion⟩ w) :=
    fun _ w w' h hmove => ⟨h.1, hq actor w w' h.2 hmove⟩
  refine .bind (returns_check (hq actor) (fun w decision hw hdecision =>
    ⟨authorizeNativeRequest_actor hdecision, hw⟩) hstable) fun decision => ?_
  refine .bind (returns_check (hstable decision) (fun w _ hw _ => hw) fun _ => hstable decision)
    fun _ => .done (hstable decision) fun w hw hsame => ?_
  rw [hw.1.2]
  exact hw.2 (hw.1.1.symm.trans hsame)

theorem obeys_authorized (r : NativeRead) : Obeys leaseProtocol r.authorized :=
  .bind (obeys_check _) fun _ => .bind (obeys_check _) fun _ => .bind (obeys_check _) fun _ =>
    .done _

theorem returns_openNativeRead {r : NativeRead} (hr : r.AuthenticatesUsers) :
    Returns leaseProtocol.contract LeaseWorld.Consistent (openNativeRead r) Upheld := by
  refine .read_bind stable_consistent fun _ => .ite (fun _ => .fail stable_consistent) fun _ => ?_
  have hfirst := (keeps_of_obeys .true (obeys_authorized r)).conseq
    (fun w (hw : w.Consistent) => ⟨hw, trivial⟩) fun _ _ h => h
  refine .bind hfirst fun initial => ?_
  refine .bind ((returns_registerStream _ _).conseq (fun _ h => h.1) fun _ _ h => h) fun id => ?_
  refine returns_orClose (.bind (returns_authorized hr id _ _) fun final => ?_)
  by_cases hsame : final.userId = initial.userId
  · have hq := stable_upheld ⟨id, initial.userId, initial.expiresAt, final.authzVersion⟩
    refine Returns.conseq (.read_bind hq fun _ => ?_) (fun w h => h hsame) fun _ _ h => h
    refine .ite (fun _ => .fail hq) fun _ => .bind (returns_check hq (fun w _ hw _ => hw)
      fun _ => hq) fun _ => .read_bind hq fun _ => ?_
    exact .ite (fun _ => .fail hq) fun _ => .done hq fun _ h => h
  · refine Returns.conseq (.read_bind .true fun _ => ?_) (fun _ _ => trivial) fun _ _ h => h
    exact .ite (fun _ => .fail .true) fun h => absurd (.inr (by simp [sameAuthorization, hsame])) h

end Handlers

def ServesLease (h : LeaseHandler AuthorizationLease) : Prop :=
  (∃ c input, h = createRuntimeAuthorizationLease c input) ∨
    ∃ r : NativeRead, r.AuthenticatesUsers ∧ h = openNativeRead r

/-- A lease that lasts: the connection is up, no timer that ran was due, and the user has still the
version that the last check found and is active, unless a notification that ends the lease is on its
way, or the user was deleted. -/
theorem lease_upheld {init : LeaseWorld} (hinit : init.Consistent)
    {pool : Pool Exception LeaseWorld AuthorizationLease}
    (hreach : Reach ServesLease LeaseEvent init pool) {lease : AuthorizationLease}
    (hlease : .done lease ∈ pool.handlers) {stream : LeaseStream}
    (hstream : stream ∈ pool.shared.listener.streams) (hid : stream.id = lease.id) :
    pool.shared.listener.ready = true ∧ pool.shared.timersAt < stream.dueAt ∧
      stream.dueAt ≤ lease.expiresAt ∧ stream.userId = lease.userId ∧
        pool.shared.Vouches lease.userId lease.authzVersion := by
  have hstart : ∀ h w, ServesLease h → w.Consistent → Guards leaseProtocol.contract
      (fun r w => ∀ lease, r = .ok lease → Upheld lease w) h w := by
    rintro h w (⟨c, input, rfl⟩ | ⟨r, hr, rfl⟩) hw
    · exact (returns_createRuntimeAuthorizationLease c input).guards hw
    · exact (returns_openNativeRead hr).guards hw
  obtain ⟨hsafe, -⟩ := leaseProtocol.reachable hstart
    (fun _ _ _ hevent => keepsLeases_of_event hevent) hinit hreach
  have hupheld := Guards.done_iff.mp (hsafe.handlers _ hlease) _ .refl lease rfl
  obtain ⟨huser, hdue⟩ := hupheld.1.2 stream hstream hid
  refine ⟨?_, (hsafe.inv.pending stream hstream).2, hdue, huser, hupheld.2 stream hstream hid⟩
  by_contra hoff
  rw [hsafe.inv.closed (Bool.not_eq_true _ ▸ hoff)] at hstream
  cases hstream

def annWorld : LeaseWorld where
  now := 1000
  timersAt := 0
  users id := if id = "ann" then some ⟨"ann", true, "admin", 4⟩ else none
  deleted := []
  sessions id := if id = "s" then
    some ⟨some 4, some "ann", "logs", "c1", "web", "pod", "app", 90000, none⟩ else none
  tables := ⟨⟨[], fun _ => false, [], fun _ => some ⟨none, "ready"⟩, []⟩, []⟩
  readNamespace _ _ := none
  listener := ⟨"public", true, [], 0⟩
  inFlight := []

def annClaims : Claims :=
  [("sessionId", .string "s"), ("path", .string "/ws/logs"), ("userId", .string "ann"),
    ("type", .string "logs"), ("clusterId", .string "c1"), ("namespace", .string "web"),
    ("pod", .string "pod"), ("container", .string "app"), ("exp", .number (.digits 60))]

def annLease : LeaseHandler AuthorizationLease :=
  createRuntimeAuthorizationLease ⟨fun _ _ _ => "", "", false⟩
    ⟨"s", some ⟨none, some annClaims, some ""⟩, "/ws/logs"⟩

def annStreams : Pool Exception LeaseWorld AuthorizationLease :=
  (⟨annWorld, [annLease]⟩ : Pool Exception LeaseWorld AuthorizationLease).play
    (List.replicate 10 0)

theorem annLease_upheld : annStreams.shared.Vouches "ann" 4 := by
  have harrive : Reach ServesLease LeaseEvent annWorld ⟨annWorld, [annLease]⟩ :=
    .single (.arrive annLease (.inl ⟨_, _, rfl⟩))
  have hinit : annWorld.Consistent :=
    ⟨fun _ => rfl, fun _ h => absurd h List.not_mem_nil, Nat.zero_le _,
      fun _ h => absurd h List.not_mem_nil⟩
  exact (@lease_upheld _ hinit _ (harrive.play _) ⟨0, "ann", 60000, 4⟩ (.head _)
    ⟨0, "ann", 60000⟩ (.head _) rfl).2.2.2.2

end KubeNova.Runtime
