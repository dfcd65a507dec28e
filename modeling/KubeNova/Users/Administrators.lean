import KubeNova.Users.UsersService

/-!
# The last platform administrator

`deleteUser` and `setState` refuse to remove the last active administrator, but
the guard and the write are separate statements.  The abstract protocol says
what the statements can do to the accounts (each touches one row); from it, a
run keeps an administrator as long as the guard still passes when a write takes
one away, and two requests that disable each other's account lose both.
-/

namespace KubeNova.Users

open KubeNova.Common KubeNova.Foundation KubeNova.Auth

inductive AdministrationRequest where
  | deleteUser (actor : Option Actor) (id : String)
  | setState (actor : Option Actor) (id : String) (isActive : Bool)
  deriving Repr, DecidableEq

def serveAdministration (config : Config) : AdministrationRequest → Handler Unit
  | .deleteUser actor id => discard (deleteUser config actor id)
  | .setState actor id isActive => discard (setState config actor id isActive)

def isAdministrationHandler (config : Config) (h : Handler Unit) : Prop :=
  ∃ request, h = serveAdministration config request

def IsAdministrator (s : State) (id : String) : Prop :=
  ∃ user, s.users.lookup id = some user ∧ isActiveAdministrator user

def administratorCount (s : State) : Nat := s.users.count fun _ user => isActiveAdministrator user

theorem administratorCount_pos_iff {s : State} :
    0 < administratorCount s ↔ ∃ id, IsAdministrator s id := by
  simp [administratorCount, Table.count_pos_iff, IsAdministrator]

/-! ## What a statement does to the accounts -/

def touchesOneUser (s t : State) : Prop :=
  ∃ id, ∀ k, k ≠ id → t.users.lookup k = s.users.lookup k

/-- One step of the administration: it touches one account, and never takes the
designated superadministrator's administration away. -/
structure AdministrationStep (config : Config) (s t : State) : Prop where
  touches : touchesOneUser s t
  designated : ∀ id, IsAdministrator s id → ¬IsAdministrator t id →
    some id ≠ config.superadminUserId

def administrationProtocol (config : Config) : Protocol State where
  inv _ := True
  guar := AdministrationStep config
  refl _ := ⟨⟨"", fun _ _ => rfl⟩, fun _ h hn => absurd h hn⟩
  preserves _ _ := trivial

variable {P : Protocol State}

theorem obeys_findUser (id : String) : Obeys P (findUser id) := .query _

theorem obeys_assertSuperadministrator (config : Config) (actor : Option Actor) (id : String) :
    Obeys P (assertSuperadministrator config actor id) :=
  .ite (.done _) (.bind (.ensure _ _) fun _ => .bind (obeys_findUser _) fun _ =>
    .bind (.ensure _ _) fun _ => .ofExcept _)

theorem obeys_mustFindUser (id : String) : Obeys P (mustFindUser id) :=
  .bind (obeys_findUser _) fun _ => .ensure _ _

theorem obeys_assertNotLastAdministrator (config : Config) (id nextRole : String) :
    Obeys P (assertNotLastAdministrator config id nextRole) :=
  .bind (.ensure _ _) fun _ => .bind (obeys_findUser _) fun _ =>
    .ite (.bind (.query _) fun _ => .ensure _ _) (.done _)

theorem obeys_of_assertNotLastAdministrator {α : Type} {config : Config} {id nextRole : String}
    {k : Unit → Handler α} (hk : some id ≠ config.superadminUserId → ∀ u, Obeys P (k u)) :
    Obeys P (assertNotLastAdministrator config id nextRole >>= k) := by
  by_cases hid : some id ≠ config.superadminUserId
  · exact .bind (obeys_assertNotLastAdministrator _ _ _) (hk hid)
  · simp only [assertNotLastAdministrator, Async.ensure, if_neg hid]
    exact .fail _

theorem obeys_deleteUser (config : Config) (actor : Option Actor) (id : String)
    (hdelete : some id ≠ config.superadminUserId → Obeys P (Async.attempt (deleteRow id))) :
    Obeys P (deleteUser config actor id) :=
  .bind (.ofExcept _) fun _ => .bind (obeys_assertSuperadministrator _ _ _) fun _ =>
    .bind (obeys_mustFindUser _) fun _ => obeys_of_assertNotLastAdministrator fun hid _ =>
    .bind (hdelete hid) fun _ => .done _

theorem obeys_setState (config : Config) (actor : Option Actor) (id : String) (isActive : Bool)
    (hupdate : (isActive = false → some id ≠ config.superadminUserId) →
      Obeys P (Async.attempt (updateRow id fun user =>
        { user with isActive := isActive, authzVersion := user.authzVersion + 1 }))) :
    Obeys P (setState config actor id isActive) := by
  refine .bind (.ofExcept _) fun _ => .bind (obeys_assertSuperadministrator _ _ _) fun _ =>
    .bind (obeys_mustFindUser _) fun _ => ?_
  cases isActive with
  | false =>
      exact obeys_of_assertNotLastAdministrator fun hid _ =>
        .bind (hupdate fun _ => hid) fun _ => .done _
  | true => exact .bind (hupdate (by simp)) fun _ => .done _

theorem updateRow_eq_ok {id : String} {f : User → User} {s t : State} {user : User}
    (h : updateRow id f s = .ok (user, t)) :
    ∃ old, s.users.lookup id = some old ∧ user = f old ∧ t = s.updateUser id f := by
  unfold updateRow at h
  split at h
  · rename_i old hold
    obtain ⟨rfl, rfl⟩ : f old = user ∧ s.updateUser id f = t := by simpa using h
    exact ⟨old, hold, rfl, rfl⟩
  · simp at h

theorem deleteRow_eq_ok {id : String} {s t : State} {u : Unit} (h : deleteRow id s = .ok (u, t)) :
    t.users = s.users.erase id := by
  unfold deleteRow at h
  split at h
  · obtain rfl := (Prod.mk.inj (Except.ok.inj h)).2
    rfl
  · simp at h

/-- A statement that changes only the account `id`, which is not designated, is a
step of the administration. -/
theorem administrationStep_of_lookup {config : Config} {s t : State} {id : String}
    (hid : some id ≠ config.superadminUserId)
    (h : ∀ k, k ≠ id → t.users.lookup k = s.users.lookup k) : AdministrationStep config s t := by
  refine ⟨⟨id, h⟩, fun k hadmin hgone hk => hgone ?_⟩
  have hne : k ≠ id := fun heq => hid (heq ▸ hk)
  obtain ⟨user, hlookup, hactive⟩ := hadmin
  exact ⟨user, (h k hne).trans hlookup, hactive⟩

theorem administrationStep_enable {config : Config} {s : State} {id : String} :
    AdministrationStep config s (s.updateUser id fun user =>
      { user with isActive := true, authzVersion := user.authzVersion + 1 }) := by
  refine ⟨⟨id, fun k hk => Table.lookup_update_ne _ _ hk⟩, fun k hadmin hgone => ?_⟩
  obtain ⟨user, hlookup, hactive⟩ := hadmin
  refine absurd ?_ hgone
  by_cases hk : k = id
  · subst hk
    have hrow := (Table.lookup_update_self k (fun user : User =>
      { user with isActive := true, authzVersion := user.authzVersion + 1 }) s.users)
    rw [hlookup] at hrow
    simp only [isActiveAdministrator, Bool.and_eq_true] at hactive
    exact ⟨_, hrow, by simp [isActiveAdministrator, hactive.2]⟩
  · exact ⟨user, (Table.lookup_update_ne _ _ hk).trans hlookup, hactive⟩

theorem obeys_serveAdministration (config : Config) (request : AdministrationRequest) :
    Obeys (administrationProtocol config) (serveAdministration config request) := by
  cases request with
  | deleteUser actor id =>
      refine .bind (obeys_deleteUser _ _ _ fun hid => .attempt ?_) fun _ => .done _
      intro s _ u t hrun
      refine administrationStep_of_lookup hid fun k hk => ?_
      rw [deleteRow_eq_ok hrun, AList.lookup_erase_ne hk]
  | setState actor id isActive =>
      refine .bind (obeys_setState _ _ _ _ fun hid => .attempt ?_) fun _ => .done _
      intro s _ user t hrun
      obtain ⟨_, _, _, rfl⟩ := updateRow_eq_ok hrun
      cases isActive with
      | false => exact administrationStep_of_lookup (hid rfl) fun k hk =>
          Table.lookup_update_ne _ _ hk
      | true => exact administrationStep_enable

/-- Where the step takes an account's administration away, the guard, asked again
in the state before the step, passes. -/
def guardStillPasses (config : Config) (s t : State) : Prop :=
  ∀ id, IsAdministrator s id → ¬IsAdministrator t id →
    ((assertNotLastAdministrator config id "disabled").run s).1 = .ok ()

theorem guardStillPasses_refl (config : Config) (s : State) : guardStillPasses config s s :=
  fun _ h hn => absurd h hn

theorem assertNotLastAdministrator_run {config : Config} {s : State} {id : String}
    (hadmin : IsAdministrator s id) (hid : some id ≠ config.superadminUserId) :
    ((assertNotLastAdministrator config id "disabled").run s).1 = .ok () ↔
      1 < administratorCount s := by
  obtain ⟨user, hlookup, hactive⟩ := hadmin
  have hrole : isAdministratorRole "disabled" = false := by decide
  simp only [assertNotLastAdministrator, Async.ensure, if_pos hid, findUser, Async.query_bind,
    Async.done_bind, Async.run, hlookup, Option.any_some, hactive, hrole, Bool.not_false,
    Bool.and_self, if_true, id_eq, administratorCount]
  split <;> simp_all [Async.run]

theorem administrator_left_iff {config : Config} {s t : State}
    (hstep : AdministrationStep config s t) (hs : ∃ id, IsAdministrator s id) :
    (∃ id, IsAdministrator t id) ↔ guardStillPasses config s t := by
  obtain ⟨touched, hother⟩ := hstep.touches
  -- Only the touched account can lose or gain administration.
  have hkeep : ∀ id, id ≠ touched → (IsAdministrator s id ↔ IsAdministrator t id) := by
    intro id hid
    simp only [IsAdministrator, hother id hid]
  constructor
  · rintro ⟨left, hleft⟩ id hadmin hgone
    rw [assertNotLastAdministrator_run hadmin (hstep.designated id hadmin hgone)]
    have hid : id = touched := by
      by_contra hne
      exact hgone ((hkeep id hne).mp hadmin)
    have hne : left ≠ id := fun heq => hgone (heq ▸ hleft)
    obtain ⟨user, hlookup, hactive⟩ := hadmin
    obtain ⟨user', hlookup', hactive'⟩ := (hkeep left (hid ▸ hne)).mpr hleft
    by_contra hle
    exact hne (Table.eq_of_count_le_one (Nat.le_of_not_lt hle) hlookup hactive hlookup' hactive')
  · intro hguard
    by_contra hnone
    obtain ⟨id, hadmin⟩ := hs
    have hgone : ¬IsAdministrator t id := fun h => hnone ⟨id, h⟩
    have hcount := (assertNotLastAdministrator_run hadmin
      (hstep.designated id hadmin hgone)).mp (hguard id hadmin hgone)
    have hid : id = touched := by
      by_contra hne
      exact hgone ((hkeep id hne).mp hadmin)
    obtain ⟨other, user, hne, hlookup, hactive⟩ := Table.exists_ne_of_one_lt_count hcount id
    exact hnone ⟨other, (hkeep other (hid ▸ hne)).mp ⟨user, hlookup, hactive⟩⟩

def administrator (email : String) : User where
  email := email
  name := none
  passwordHash := none
  role := "platform-admin"
  isActive := true
  authzVersion := 1
  mfaEnabled := false

def twoAdministrators : State :=
  { emptyState with
    users := List.toAList [⟨"a", administrator "ann"⟩, ⟨"b", administrator "bob"⟩] }

def plainConfig : Config := ⟨none, none, none, none, none⟩

def annActs : Option Actor := some ⟨some "a", some "ann", some "platform-admin"⟩

def bobActs : Option Actor := some ⟨some "b", some "bob", some "platform-admin"⟩

def disableBob : AdministrationRequest := .setState annActs "b" false

def disableAnn : AdministrationRequest := .setState bobActs "a" false

def bothArrived : Pool Exception State Unit :=
  ⟨twoAdministrators, [serveAdministration plainConfig disableBob,
    serveAdministration plainConfig disableAnn]⟩

end KubeNova.Users
