import Reproof.Live.Access.Controller

/-! Histories of an access store and its controller. -/

namespace Reproof.Live.Access

open Contracts Library

/-- A call, with the reading of the clock and what it draws of `secrets`. -/
inductive Event
  | bootstrapAdministrator (identityId : String) (now : Int)
  | bootstrapAdministratorCredential (identityId credentialId secretDigest : String) (lifetime now : Int)
  | createIdentity (actor identityId : String) (administrator : Bool) (now : Int)
  | revokeIdentity (actor identityId : String) (now : Int)
  | registerProject (actor : String) (project : Store.Registered) (now : Int)
  | grantMembership (actor projectId identityId : String) (role : Role) (now : Int)
  | revokeMembership (actor projectId identityId : String) (role : Role) (now : Int)
  | issuePrincipalCredential (actor identityId credentialId secretDigest : String) (lifetime now : Int)
  | revokeCredential (actor credentialId : String) (now : Int)
  | assignDevice (actor deviceId : String) (projectId trustGroup hostId : Option String)
      (receipt : Option SanitationReceipt) (now : Int)
  | createHostEnrollment (actor hostId : String) (projectIds trustGroups : List String) (lifetime credentialLifetime : Int)
      (enrollmentId secretDigest : String) (now : Int)
  | consumeHostEnrollment (token : Token) (hostId incarnation credentialId secretDigest : String) (now : Int)
  | revokeHostEnrollment (actor enrollmentId : String) (now : Int)
  | revokeHost (actor hostId : String) (now : Int)
  | bindProject (registrations : List (String × String))
  | createBrowserSession (token : Token) (sessionId secretDigest csrfDigest : String) (principal now : Int)
  | authenticateBrowser (cookie : Token) (csrfDigest : Option String) (requireCsrf : Bool) (now principal : Int)
  | closeBrowserSession (cookie : Token)

/-- A controller, and the host credentials that have been drawn: `secrets` draws none twice. -/
structure World where
  controller : Controller
  drawn : List String

namespace World

section Steps

variable (digest : SanitationReceipt → String)

def empty (browserSessionSeconds : Int) : World := ⟨⟨.empty, .empty, [], browserSessionSeconds⟩, []⟩

variable (w : World)

def withStore (store : Store) : World := { w with controller := { w.controller with store } }

/-- `bind_project` may leave any registrations. -/
def apply : Event → Except AccessError World
  | .bootstrapAdministrator identityId now => w.withStore <$> w.controller.store.bootstrapAdministrator identityId now
  | .bootstrapAdministratorCredential identityId credentialId secretDigest lifetime now => w.withStore <$>
      w.controller.store.bootstrapAdministratorCredential identityId credentialId secretDigest lifetime now
  | .createIdentity actor identityId administrator now =>
    w.withStore <$> w.controller.store.createIdentity actor identityId administrator now
  | .revokeIdentity actor identityId now => w.withStore <$> w.controller.store.revokeIdentity actor identityId now
  | .registerProject actor project now => w.withStore <$> w.controller.store.registerProject actor project now
  | .grantMembership actor projectId identityId role now =>
    w.withStore <$> w.controller.store.grantMembership actor projectId identityId role now
  | .revokeMembership actor projectId identityId role now =>
    w.withStore <$> w.controller.store.revokeMembership actor projectId identityId role now
  | .issuePrincipalCredential actor identityId credentialId secretDigest lifetime now => w.withStore <$>
      w.controller.store.issuePrincipalCredential actor identityId credentialId secretDigest lifetime now
  | .revokeCredential actor credentialId now => w.withStore <$> w.controller.store.revokeCredential actor credentialId now
  | .assignDevice actor deviceId projectId trustGroup hostId receipt now => w.withStore <$>
      w.controller.store.assignDevice digest actor deviceId projectId trustGroup hostId receipt now
  | .createHostEnrollment actor hostId projectIds trustGroups lifetime credentialLifetime enrollmentId secretDigest now =>
    w.withStore <$> w.controller.store.createHostEnrollment actor hostId projectIds trustGroups lifetime
      credentialLifetime enrollmentId secretDigest now
  | .consumeHostEnrollment token hostId incarnation credentialId secretDigest now => do
    require (credentialId ∉ w.drawn) sqliteError
    let (store, _) ← w.controller.store.consumeHostEnrollment token hostId incarnation credentialId secretDigest now
    return { w.withStore store with drawn := credentialId :: w.drawn }
  | .revokeHostEnrollment actor enrollmentId now =>
    w.withStore <$> w.controller.store.revokeHostEnrollment actor enrollmentId now
  | .revokeHost actor hostId now => w.withStore <$> w.controller.store.revokeHost actor hostId now
  | .bindProject registrations => return { w with controller := { w.controller with registrations } }
  | .createBrowserSession token sessionId secretDigest csrfDigest principal now => do
    let controller ← w.controller.createBrowserSession token sessionId secretDigest csrfDigest principal now
    return { w with controller }
  | .authenticateBrowser cookie csrfDigest requireCsrf now principal =>
    return { w with controller := (w.controller.authenticateBrowser cookie csrfDigest requireCsrf now principal).1 }
  | .closeBrowserSession cookie => return { w with controller := w.controller.closeBrowserSession cookie }

/-- A call that raises changes nothing. -/
def step (event : Event) : World := ((w.apply digest event).toOption).getD w

def run (events : List Event) : World := events.foldl (step digest) w

end Steps

variable {digest : SanitationReceipt → String} {w w' : World}

@[simp] theorem withStore_controller {store : Store} :
    (w.withStore store).controller = { w.controller with store } := rfl

@[simp] theorem withStore_drawn {store : Store} : (w.withStore store).drawn = w.drawn := rfl

theorem run_append {before later : List Event} : w.run digest (before ++ later) = (w.run digest before).run digest later :=
  List.foldl_append

/-- What every call that succeeds keeps holds after any run. -/
theorem run_keeps {P : World → Prop} (kept : ∀ w w' event, w.apply digest event = .ok w' → P w → P w')
    {events : List Event} (holds : P w) : P (w.run digest events) := by
  induction events generalizing w with
  | nil => exact holds
  | cons event rest ih =>
    refine ih ?_
    rw [step]
    cases done : w.apply digest event with
    | error e => exact holds
    | ok w' => exact kept w w' event done holds

end World

namespace Controller

variable {controller controller' : Controller}

theorem createBrowserSession_store {token : Token} {sessionId secretDigest csrfDigest : String} {principal now : Int}
    (done : controller.createBrowserSession token sessionId secretDigest csrfDigest principal now = .ok controller') :
    controller'.store = controller.store := by
  simp only [createBrowserSession, bind_eq_ok, pure_eq_ok] at done
  obtain ⟨_, -, _, -, _, -, rfl⟩ := done
  rfl

theorem authenticateBrowser_store {cookie : Token} {csrfDigest : Option String} {requireCsrf : Bool} {now principal : Int} :
    (controller.authenticateBrowser cookie csrfDigest requireCsrf now principal).1.store = controller.store := by
  unfold authenticateBrowser
  split
  · rfl
  · rfl
  · split <;> rfl

end Controller

namespace World

variable {digest : SanitationReceipt → String} {w w' : World}

/-- What a call does to the devices and the hosts. -/
inductive Moves (digest : SanitationReceipt → String) (w w' : World) : Event → Prop
  | stays (event : Event) (assignments : w'.controller.store.assignments = w.controller.store.assignments)
      (enrollments : w'.controller.store.enrollments = w.controller.store.enrollments)
      (hosts : w'.controller.store.hosts = w.controller.store.hosts) (drawn : w'.drawn = w.drawn) : Moves digest w w' event
  | assigns (actor deviceId : String) (projectId trustGroup hostId : Option String) (receipt : Option SanitationReceipt)
      (now : Int) (done : w.controller.store.assignDevice digest actor deviceId projectId trustGroup hostId receipt now =
        .ok w'.controller.store) (drawn : w'.drawn = w.drawn) :
      Moves digest w w' (.assignDevice actor deviceId projectId trustGroup hostId receipt now)
  | enrolls (actor hostId : String) (projectIds trustGroups : List String) (lifetime credentialLifetime : Int)
      (enrollmentId secretDigest : String) (now : Int)
      (done : w.controller.store.createHostEnrollment actor hostId projectIds trustGroups lifetime credentialLifetime
        enrollmentId secretDigest now = .ok w'.controller.store) (drawn : w'.drawn = w.drawn) :
      Moves digest w w' (.createHostEnrollment actor hostId projectIds trustGroups lifetime credentialLifetime
        enrollmentId secretDigest now)
  | consumes (token : Token) (hostId incarnation credentialId secretDigest : String) (now : Int) (host : Host)
      (new : credentialId ∉ w.drawn)
      (done : w.controller.store.consumeHostEnrollment token hostId incarnation credentialId secretDigest now =
        .ok (w'.controller.store, host)) (drawn : w'.drawn = credentialId :: w.drawn) :
      Moves digest w w' (.consumeHostEnrollment token hostId incarnation credentialId secretDigest now)
  | revokesEnrollment (actor enrollmentId : String) (now : Int)
      (done : w.controller.store.revokeHostEnrollment actor enrollmentId now = .ok w'.controller.store)
      (drawn : w'.drawn = w.drawn) : Moves digest w w' (.revokeHostEnrollment actor enrollmentId now)
  | revokesHost (actor hostId : String) (now : Int)
      (done : w.controller.store.revokeHost actor hostId now = .ok w'.controller.store) (drawn : w'.drawn = w.drawn) :
      Moves digest w w' (.revokeHost actor hostId now)

theorem apply_moves {event : Event} (done : w.apply digest event = .ok w') : Moves digest w w' event := by
  cases event with
  | bootstrapAdministrator =>
    simp only [apply, map_eq_ok] at done
    obtain ⟨store, done, rfl⟩ := done
    obtain ⟨_, -, rfl⟩ := Store.bootstrapAdministrator_ok done
    exact .stays _ rfl rfl rfl rfl
  | bootstrapAdministratorCredential =>
    simp only [apply, map_eq_ok] at done
    obtain ⟨store, done, rfl⟩ := done
    obtain ⟨_, _, -, -, rfl⟩ := Store.bootstrapAdministratorCredential_ok done
    exact .stays _ rfl rfl rfl rfl
  | createIdentity =>
    simp only [apply, map_eq_ok] at done
    obtain ⟨store, done, rfl⟩ := done
    obtain rfl | ⟨_, -, rfl⟩ := Store.createIdentity_ok done
    · exact .stays _ rfl rfl rfl rfl
    · exact .stays _ rfl rfl rfl rfl
  | revokeIdentity =>
    simp only [apply, map_eq_ok] at done
    obtain ⟨store, done, rfl⟩ := done
    obtain ⟨_, _, _, -, -, rfl⟩ := Store.revokeIdentity_ok done
    exact .stays _ rfl rfl rfl rfl
  | registerProject =>
    simp only [apply, map_eq_ok] at done
    obtain ⟨store, done, rfl⟩ := done
    obtain ⟨_, rfl⟩ := Store.registerProject_ok done
    exact .stays _ rfl rfl rfl rfl
  | grantMembership =>
    simp only [apply, map_eq_ok] at done
    obtain ⟨store, done, rfl⟩ := done
    obtain ⟨_, rfl⟩ := Store.grantMembership_ok done
    exact .stays _ rfl rfl rfl rfl
  | revokeMembership =>
    simp only [apply, map_eq_ok] at done
    obtain ⟨store, done, rfl⟩ := done
    obtain ⟨_, rfl⟩ := Store.revokeMembership_ok done
    exact .stays _ rfl rfl rfl rfl
  | issuePrincipalCredential =>
    simp only [apply, map_eq_ok] at done
    obtain ⟨store, done, rfl⟩ := done
    obtain ⟨_, -, rfl⟩ := Store.issuePrincipalCredential_ok done
    exact .stays _ rfl rfl rfl rfl
  | revokeCredential =>
    simp only [apply, map_eq_ok] at done
    obtain ⟨store, done, rfl⟩ := done
    obtain ⟨_, -, rfl⟩ := Store.revokeCredential_ok done
    exact .stays _ rfl rfl rfl rfl
  | assignDevice =>
    simp only [apply, map_eq_ok] at done
    obtain ⟨store, done, rfl⟩ := done
    exact .assigns _ _ _ _ _ _ _ done rfl
  | createHostEnrollment =>
    simp only [apply, map_eq_ok] at done
    obtain ⟨store, done, rfl⟩ := done
    exact .enrolls _ _ _ _ _ _ _ _ _ done rfl
  | consumeHostEnrollment =>
    simp only [apply, bind_eq_ok, require_eq_ok, pure_eq_ok] at done
    obtain ⟨_, new, ⟨store, host⟩, done, rfl⟩ := done
    exact .consumes _ _ _ _ _ _ host new done rfl
  | revokeHostEnrollment =>
    simp only [apply, map_eq_ok] at done
    obtain ⟨store, done, rfl⟩ := done
    exact .revokesEnrollment _ _ _ done rfl
  | revokeHost =>
    simp only [apply, map_eq_ok] at done
    obtain ⟨store, done, rfl⟩ := done
    exact .revokesHost _ _ _ done rfl
  | bindProject =>
    simp only [apply, pure_eq_ok] at done
    subst done
    exact .stays _ rfl rfl rfl rfl
  | createBrowserSession =>
    simp only [apply, bind_eq_ok, pure_eq_ok] at done
    obtain ⟨controller, done, rfl⟩ := done
    have same := Controller.createBrowserSession_store done
    exact .stays _ (congrArg Store.assignments same) (congrArg Store.enrollments same) (congrArg Store.hosts same) rfl
  | authenticateBrowser =>
    simp only [apply, pure_eq_ok] at done
    subst done
    exact .stays _ (congrArg Store.assignments Controller.authenticateBrowser_store)
      (congrArg Store.enrollments Controller.authenticateBrowser_store)
      (congrArg Store.hosts Controller.authenticateBrowser_store) rfl
  | closeBrowserSession =>
    simp only [apply, pure_eq_ok] at done
    subst done
    exact .stays _ rfl rfl rfl rfl

end World

end Reproof.Live.Access
