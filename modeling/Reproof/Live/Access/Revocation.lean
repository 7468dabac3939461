import Reproof.Live.Access.Generations

/-! Effects of a session: what each one is authorized by, and that a revocation ends them. -/

namespace Reproof.Live.Access

open Contracts Library

namespace Store

variable {store store' : Store} {credentialId identityId : String} {now : Int}

theorem principalById_ok {context : PrincipalContext} (done : store.principalById credentialId now = .ok context) :
    ∃ row identity, store.credential? credentialId = some row ∧ Usable row now ∧
      store.identity? row.identityId = some identity ∧ identity.active ∧
      context = ⟨row.identityId, credentialId, row.expiresAt, none⟩ := by
  simp only [principalById, bind_eq_ok, require_eq_ok, orFail_eq_ok, pure_eq_ok] at done
  obtain ⟨_, -, row, found, _, ⟨usable, active⟩, rfl⟩ := done
  obtain ⟨identity, at_identity, active⟩ := (Option.any_eq_true _ _).mp active
  have here : row.credentialId = credentialId := (Table.mem_of_find? found).2
  exact ⟨row, identity, found, usable, at_identity, active, by rw [here]⟩

theorem project_ok {projectId : String} {row : Project} (done : store.project projectId = .ok row) :
    store.project? projectId = some row ∧ row.active := by
  simp only [project, bind_eq_ok, orFail_eq_ok] at done
  obtain ⟨_, -, found⟩ := done
  obtain ⟨mem, same, active⟩ := Table.mem_of_find? found
  exact ⟨(Table.find?_eq_some fun _ _ ha hb => ha.trans hb.symm).mpr ⟨mem, same⟩, active⟩

/-- What is revoked in a store is revoked in the next one. -/
structure Revokes (store store' : Store) : Prop where
  identities : ∀ identityId row, store.identity? identityId = some row → row.active = false →
    ∃ row', store'.identity? identityId = some row' ∧ row'.active = false
  credentials : ∀ credentialId row, store.credential? credentialId = some row → row.revokedAt ≠ none →
    ∃ row', store'.credential? credentialId = some row' ∧ row'.revokedAt ≠ none

theorem Revokes.of_same (identities : store'.identities = store.identities)
    (credentials : store'.credentials = store.credentials) : Revokes store store' where
  identities id row found inactive := ⟨row, by rw [identity?, identities]; exact found, inactive⟩
  credentials id row found revoked := ⟨row, by rw [credential?, credentials]; exact found, revoked⟩

theorem identities_insert {row : Identity} {identities : Table Identity}
    (inserted : store.identities.insert? row = some identities) : Revokes store { store with identities } where
  identities id old found inactive := by
    refine ⟨old, ?_, inactive⟩
    rw [identity?, Table.find?_insert? inserted]
    rw [identity?] at found
    rw [found]
    rfl
  credentials _ row found revoked := ⟨row, found, revoked⟩

theorem credentials_insert {row : Credential} {credentials : Table Credential}
    (inserted : store.credentials.insert? row = some credentials) : Revokes store { store with credentials } where
  identities _ row found inactive := ⟨row, found, inactive⟩
  credentials id old found revoked := by
    refine ⟨old, ?_, revoked⟩
    rw [credential?, Table.find?_insert? inserted]
    rw [credential?] at found
    rw [found]
    rfl

theorem Revokes.trans {store'' : Store} (first : Revokes store store') (second : Revokes store' store'') :
    Revokes store store'' where
  identities id row found inactive := by
    obtain ⟨row', found', inactive'⟩ := first.identities id row found inactive
    exact second.identities id row' found' inactive'
  credentials id row found revoked := by
    obtain ⟨row', found', revoked'⟩ := first.credentials id row found revoked
    exact second.credentials id row' found' revoked'

theorem revokeIdentity_revokes {actor : String} (done : store.revokeIdentity actor identityId now = .ok store') :
    Revokes store store' := by
  obtain ⟨identities, credentials, memberships, first, second, rfl⟩ := revokeIdentity_ok done
  constructor
  · intro id row found inactive
    refine ⟨if row.identityId = identityId then { row with active := false } else row, ?_, ?_⟩
    · rw [identity?, Table.find?_update? first fun _ _ => Iff.rfl]
      rw [identity?] at found
      rw [found]
      rfl
    · split
      · rfl
      · exact inactive
  · intro id row found revoked
    refine ⟨if row.identityId = identityId then { row with revokedAt := some (row.revokedAt.getD now) } else row, ?_, ?_⟩
    · rw [credential?, Table.find?_update? second fun _ _ => Iff.rfl]
      rw [credential?] at found
      rw [found]
      rfl
    · split
      · nofun
      · exact revoked

theorem revokeIdentity_inactive {actor : String} (done : store.revokeIdentity actor identityId now = .ok store') :
    ∃ row, store'.identity? identityId = some row ∧ row.active = false := by
  have known : ∃ row, store.identity? identityId = some row := by
    simp only [revokeIdentity, bind_eq_ok, require_eq_ok] at done
    obtain ⟨_, -, _, -, _, -, _, known, -⟩ := done
    exact Option.isSome_iff_exists.mp known
  obtain ⟨identities, credentials, memberships, first, -, rfl⟩ := revokeIdentity_ok done
  obtain ⟨row, found⟩ := known
  have here : row.identityId = identityId := (Table.mem_of_find? found).2
  refine ⟨{ row with active := false }, ?_, rfl⟩
  rw [identity?, Table.find?_update? first fun _ _ => Iff.rfl]
  rw [identity?] at found
  rw [found, Option.map_some, if_pos here]

theorem revokeCredential_revokes {actor : String} (done : store.revokeCredential actor credentialId now = .ok store') :
    Revokes store store' := by
  obtain ⟨credentials, updated, rfl⟩ := revokeCredential_ok done
  refine ⟨fun _ row found inactive => ⟨row, found, inactive⟩, fun id row found revoked => ⟨row, ?_, revoked⟩⟩
  rw [credential?, Table.find?_update? updated fun _ _ => Iff.rfl]
  rw [credential?] at found
  rw [found, Option.map_some, if_neg fun both => revoked both.2]

theorem revokeCredential_revoked {actor : String} (done : store.revokeCredential actor credentialId now = .ok store') :
    ∃ row, store'.credential? credentialId = some row ∧ row.revokedAt ≠ none := by
  have known : ∃ row, store.credentials.find? (fun row => row.credentialId = credentialId ∧ row.revokedAt = none) =
      some row := by
    simp only [revokeCredential, bind_eq_ok, require_eq_ok] at done
    obtain ⟨_, -, _, -, _, -, _, known, -⟩ := done
    exact Option.isSome_iff_exists.mp known
  obtain ⟨credentials, updated, rfl⟩ := revokeCredential_ok done
  obtain ⟨row, found⟩ := known
  obtain ⟨mem, here, live⟩ := Table.mem_of_find? found
  have found : store.credentials.find? (·.credentialId = credentialId) = some row :=
    (Table.find?_eq_some fun _ _ ha hb => ha.trans hb.symm).mpr ⟨mem, here⟩
  refine ⟨{ row with revokedAt := some now }, ?_, fun h => by cases h⟩
  rw [credential?, Table.find?_update? updated fun _ _ => Iff.rfl, found, Option.map_some, if_pos ⟨here, live⟩]

end Store

namespace Controller

variable {controller : Controller}

/-- What an effect of a kind is authorized by. -/
structure Permits (controller : Controller) (authorizer : Authorizer) (kind : String) (clock : Readings) : Prop where
  credential : ∃ row identity, controller.store.credential? authorizer.credentialId = some row ∧
    row.identityId = authorizer.principalId ∧ Store.Usable row clock.principal ∧ Store.Usable row clock.again ∧
    controller.store.identity? authorizer.principalId = some identity ∧ identity.active
  session : ∀ authorizationId, authorizer.authorizationId = some authorizationId →
    controller.SessionLive authorizationId authorizer.principalId authorizer.credentialId clock.session ∧
      controller.SessionLive authorizationId authorizer.principalId authorizer.credentialId clock.sessionAgain
  membership : ∃ row ∈ controller.store.memberships, row.projectId = authorizer.projectId ∧
    row.identityId = authorizer.principalId ∧ row.active ∧ capabilityOf kind ∈ row.role.capabilities
  device : ∃ project assignment, controller.store.project? authorizer.projectId = some project ∧ project.active ∧
    project.projectDigest = authorizer.admittedDigest ∧
    controller.store.assignment? authorizer.deviceId = some assignment ∧
    Store.Covers assignment.target.scope authorizer.projectId project.trustGroup ∧
    ∀ assigned, assignment.target.host = some assigned → ∃ row, controller.store.host? assigned.hostId = some row ∧
      row.Current clock.host ∧ row.generation = assigned.generation ∧ row.incarnation = assigned.incarnation ∧
      (authorizer.projectId ∈ row.projectIds ∨ project.trustGroup ∈ row.trustGroups)

theorem currentPrincipal_ok {principal context : PrincipalContext} {now session : Int}
    (done : controller.currentPrincipal principal now session = .ok context) :
    (∃ row identity, controller.store.credential? principal.credentialId = some row ∧
      row.identityId = principal.principalId ∧ Store.Usable row now ∧
      controller.store.identity? principal.principalId = some identity ∧ identity.active) ∧
      (∀ authorizationId, principal.authorizationId = some authorizationId →
        controller.SessionLive authorizationId principal.principalId principal.credentialId session) ∧
      context.principalId = principal.principalId := by
  simp only [currentPrincipal, bind_eq_ok, require_eq_ok, pure_eq_ok] at done
  obtain ⟨current, known, _, same, _, guarded, rfl⟩ := done
  obtain ⟨row, identity, found, usable, at_identity, active, rfl⟩ := Store.principalById_ok known
  refine ⟨⟨row, identity, found, same, usable, same ▸ at_identity, active⟩, fun authorizationId authorized => ?_, same⟩
  rw [guardBrowserAuthorization, authorized] at guarded
  simp only [bind_eq_ok, require_eq_ok] at guarded
  obtain ⟨_, -, live⟩ := guarded
  exact live

theorem operationPrincipal_ok {credentialId : String} {authorizationId : Option String} {now guarded session : Int}
    {context : PrincipalContext}
    (done : controller.operationPrincipal credentialId authorizationId now guarded session = .ok context) :
    (∃ row, controller.store.credential? credentialId = some row ∧ row.identityId = context.principalId ∧
      Store.Usable row now) ∧
      context.credentialId = credentialId ∧ context.authorizationId = authorizationId ∧
      ∀ id, authorizationId = some id → controller.SessionLive id context.principalId credentialId session := by
  simp only [operationPrincipal, bind_eq_ok] at done
  obtain ⟨principal, known, done⟩ := done
  obtain ⟨row, identity, found, usable, -, -, rfl⟩ := Store.principalById_ok known
  cases authorizationId with
  | none =>
    rw [pure_eq_ok] at done
    subst done
    exact ⟨⟨row, found, rfl, usable⟩, rfl, rfl, fun _ h => by cases h⟩
  | some authorizationId =>
    simp only [bind_eq_ok, pure_eq_ok] at done
    obtain ⟨_, current, rfl⟩ := done
    exact ⟨⟨row, found, rfl, usable⟩, rfl, rfl, (currentPrincipal_ok current).2.1⟩

theorem authorizeEffect_ok {authorizer : Authorizer} {kind : String} {clock : Readings}
    (done : controller.authorizeEffect authorizer kind clock = .ok ()) : controller.Permits authorizer kind clock := by
  simp only [authorizeEffect, authorize, bind_eq_ok, require_eq_ok, pure_eq_ok] at done
  obtain ⟨current, operating, _, same, project, known, _, admitted, _, -, _, ⟨again, checked, _, -, _, grants, -⟩,
    assignment, device, -⟩ := done
  obtain ⟨⟨row, found, -, usable⟩, credential, authorization, live⟩ := operationPrincipal_ok operating
  obtain ⟨⟨row', identity, found', owner, usable', at_identity, active⟩, liveAgain, principal⟩ := currentPrincipal_ok checked
  obtain ⟨project', known', assigned, covers, hosts⟩ := Store.authorizeDevice_ok device
  obtain rfl := Except.ok.inj (known.symm.trans known')
  obtain ⟨at_project, is_active⟩ := Store.project_ok known
  rw [credential] at found' liveAgain
  rw [same] at owner at_identity principal liveAgain live
  obtain rfl := Option.some.inj (found.symm.trans found')
  constructor
  · exact ⟨row, identity, found, owner, usable, usable', at_identity, active⟩
  · exact fun id authorized => ⟨live id authorized, liveAgain id (authorization.trans authorized)⟩
  · obtain ⟨-, role, mem, capability⟩ := grants
    rw [Store.roles, List.mem_map] at mem
    obtain ⟨membership, listed, rfl⟩ := mem
    obtain ⟨member, project, identity, active⟩ := Table.mem_select.mp listed
    exact ⟨membership, member, project, identity.trans principal, active, capability⟩
  · refine ⟨project, assignment, at_project, is_active, admitted, assigned, covers, fun host there => ?_⟩
    obtain ⟨row, done, serves⟩ := hosts host there
    obtain ⟨at_host, current, generation, incarnation⟩ := Store.assignedHost_ok done
    exact ⟨row, at_host, current, generation, incarnation, serves⟩

/-- The credential of an authorizer is revoked, or its identity is. -/
def Ended (controller : Controller) (authorizer : Authorizer) : Prop :=
  (∃ row, controller.store.credential? authorizer.credentialId = some row ∧ row.revokedAt ≠ none) ∨
    ∃ row, controller.store.identity? authorizer.principalId = some row ∧ row.active = false

theorem Ended.refuses {authorizer : Authorizer} (ended : controller.Ended authorizer) (kind : String)
    (clock : Readings) : controller.authorizeEffect authorizer kind clock ≠ .ok () := by
  intro done
  obtain ⟨row, identity, found, -, usable, -, at_identity, active⟩ := (authorizeEffect_ok done).credential
  obtain ⟨row', found', revoked⟩ | ⟨identity', found', inactive⟩ := ended
  · obtain rfl := Option.some.inj (found.symm.trans found')
    exact revoked usable.1
  · obtain rfl := Option.some.inj (at_identity.symm.trans found')
    exact nomatch inactive.symm.trans active

end Controller

namespace World

variable {digest : SanitationReceipt → String} {w w' : World}

/-- No call takes a revocation back. -/
theorem apply_revokes {event : Event} (done : w.apply digest event = .ok w') :
    Store.Revokes w.controller.store w'.controller.store := by
  cases event with
  | bootstrapAdministrator =>
    simp only [apply, map_eq_ok] at done
    obtain ⟨store, done, rfl⟩ := done
    obtain ⟨_, inserted, rfl⟩ := Store.bootstrapAdministrator_ok done
    exact Store.identities_insert inserted
  | bootstrapAdministratorCredential =>
    simp only [apply, map_eq_ok] at done
    obtain ⟨store, done, rfl⟩ := done
    obtain ⟨_, _, identity, credential, rfl⟩ := Store.bootstrapAdministratorCredential_ok done
    exact (Store.identities_insert identity).trans (Store.credentials_insert credential)
  | createIdentity =>
    simp only [apply, map_eq_ok] at done
    obtain ⟨store, done, rfl⟩ := done
    obtain rfl | ⟨_, inserted, rfl⟩ := Store.createIdentity_ok done
    · exact .of_same rfl rfl
    · exact Store.identities_insert inserted
  | revokeIdentity =>
    simp only [apply, map_eq_ok] at done
    obtain ⟨store, done, rfl⟩ := done
    exact Store.revokeIdentity_revokes done
  | registerProject =>
    simp only [apply, map_eq_ok] at done
    obtain ⟨store, done, rfl⟩ := done
    obtain ⟨_, rfl⟩ := Store.registerProject_ok done
    exact .of_same rfl rfl
  | grantMembership =>
    simp only [apply, map_eq_ok] at done
    obtain ⟨store, done, rfl⟩ := done
    obtain ⟨_, rfl⟩ := Store.grantMembership_ok done
    exact .of_same rfl rfl
  | revokeMembership =>
    simp only [apply, map_eq_ok] at done
    obtain ⟨store, done, rfl⟩ := done
    obtain ⟨_, rfl⟩ := Store.revokeMembership_ok done
    exact .of_same rfl rfl
  | issuePrincipalCredential =>
    simp only [apply, map_eq_ok] at done
    obtain ⟨store, done, rfl⟩ := done
    obtain ⟨_, inserted, rfl⟩ := Store.issuePrincipalCredential_ok done
    exact Store.credentials_insert inserted
  | revokeCredential =>
    simp only [apply, map_eq_ok] at done
    obtain ⟨store, done, rfl⟩ := done
    exact Store.revokeCredential_revokes done
  | assignDevice =>
    simp only [apply, map_eq_ok] at done
    obtain ⟨store, done, rfl⟩ := done
    obtain ⟨-, -, rfl⟩ | ⟨_, _, _, receipts, assignments, -, -, -, -, rfl⟩ | ⟨_, assignments, -, -, rfl⟩ :=
      Store.assignDevice_ok done
    · exact .of_same rfl rfl
    · exact .of_same rfl rfl
    · exact .of_same rfl rfl
  | createHostEnrollment =>
    simp only [apply, map_eq_ok] at done
    obtain ⟨store, done, rfl⟩ := done
    obtain ⟨-, _, enrollments, -, -, -, -, -, -, -, -, rfl⟩ := Store.createHostEnrollment_ok done
    exact .of_same rfl rfl
  | consumeHostEnrollment =>
    obtain ⟨-, -, host, done⟩ := apply_consume done
    obtain ⟨_, enrollments, hosts, -, -, -, -, -, -, -, same⟩ := Store.consumeHostEnrollment_ok done
    rw [same]
    exact .of_same rfl rfl
  | revokeHostEnrollment =>
    simp only [apply, map_eq_ok] at done
    obtain ⟨store, done, rfl⟩ := done
    obtain ⟨enrollments, -, rfl⟩ := Store.revokeHostEnrollment_ok done
    exact .of_same rfl rfl
  | revokeHost =>
    have done := apply_revokeHost done
    obtain ⟨hosts, enrollments, -, -, -, same⟩ := Store.revokeHost_ok done
    rw [same]
    exact .of_same rfl rfl
  | bindProject =>
    simp only [apply, pure_eq_ok] at done
    subst done
    exact .of_same rfl rfl
  | createBrowserSession =>
    simp only [apply, bind_eq_ok, pure_eq_ok] at done
    obtain ⟨controller, done, rfl⟩ := done
    rw [Controller.createBrowserSession_store done]
    exact .of_same rfl rfl
  | authenticateBrowser =>
    simp only [apply, pure_eq_ok] at done
    subst done
    rw [Controller.authenticateBrowser_store]
    exact .of_same rfl rfl
  | closeBrowserSession =>
    simp only [apply, pure_eq_ok] at done
    subst done
    exact .of_same rfl rfl

theorem Ended.run {authorizer : Authorizer} {events : List Event} (ended : w.controller.Ended authorizer) :
    (w.run digest events).controller.Ended authorizer := by
  refine run_keeps (P := fun w => w.controller.Ended authorizer) (fun w w' event done ended => ?_) ended
  have revokes := apply_revokes done
  obtain ⟨row, found, revoked⟩ | ⟨row, found, inactive⟩ := ended
  · exact .inl (revokes.credentials _ row found revoked)
  · exact .inr (revokes.identities _ row found inactive)

/-- In any history an effect is authorized by what holds when it is asked for, and by nothing that has been revoked. -/
theorem run_effects (digest : SanitationReceipt → String) (events later last : List Event) (seconds : Int)
    (principal : PrincipalContext) (projectId deviceId : String) (projectDigest : Option String) (authorizer : Authorizer)
    (issued : ((empty seconds).run digest events).controller.effectAuthorizer principal projectId deviceId projectDigest =
      .ok authorizer) :
    let w := ((empty seconds).run digest events).run digest later
    (∀ kind clock, w.controller.authorizeEffect authorizer kind clock = .ok () →
      authorizer.principalId = principal.principalId ∧ authorizer.credentialId = principal.credentialId ∧
        authorizer.authorizationId = principal.authorizationId ∧ authorizer.projectId = projectId ∧
        authorizer.deviceId = deviceId ∧ w.controller.Permits authorizer kind clock) ∧
    (∀ actor now w', w.apply digest (.revokeIdentity actor authorizer.principalId now) = .ok w' →
      ∀ kind clock, (w'.run digest last).controller.authorizeEffect authorizer kind clock ≠ .ok ()) ∧
    ∀ actor now w', w.apply digest (.revokeCredential actor authorizer.credentialId now) = .ok w' →
      ∀ kind clock, (w'.run digest last).controller.authorizeEffect authorizer kind clock ≠ .ok () := by
  intro w
  refine ⟨fun kind clock done => ?_, fun actor now w' done kind clock => ?_, fun actor now w' done kind clock => ?_⟩
  · simp only [Controller.effectAuthorizer, bind_eq_ok, pure_eq_ok] at issued
    obtain ⟨_, -, rfl⟩ := issued
    exact ⟨rfl, rfl, rfl, rfl, rfl, Controller.authorizeEffect_ok done⟩
  · simp only [apply, map_eq_ok] at done
    obtain ⟨store, done, rfl⟩ := done
    have ended : (w.withStore store).controller.Ended authorizer := .inr (Store.revokeIdentity_inactive done)
    exact (Ended.run ended).refuses kind clock
  · simp only [apply, map_eq_ok] at done
    obtain ⟨store, done, rfl⟩ := done
    have ended : (w.withStore store).controller.Ended authorizer := .inl (Store.revokeCredential_revoked done)
    exact (Ended.run ended).refuses kind clock

section Trial

def shopDigest : String := "0123456789abcdef0123456789abcdef0123456789abcdef0123456789abcdef"

/-- An operator with a credential, and a phone that the project has. -/
def shift : List Event :=
  [.bootstrapAdministrator "admin" 0, .createIdentity "admin" "tester" false 0,
    .registerProject "admin" ⟨"shop", "r1", shopDigest, "team"⟩ 0, .grantMembership "admin" "shop" "tester" .operator 0,
    .issuePrincipalCredential "admin" "tester" "credential" "secret" 3600 0,
    .assignDevice "admin" "phone" (some "shop") none none none 0, .bindProject [("shop", shopDigest)]]

def shiftAuthorizer : Authorizer := ⟨"tester", "credential", none, shopDigest, "shop", "phone"⟩

theorem run_effects_shift :
    ((empty 3600).run (·.kind) shift).controller.Permits shiftAuthorizer "tap" ⟨1, 1, 1, 1, 1, 1⟩ ∧
      ∃ w', ((empty 3600).run (·.kind) shift).apply (·.kind) (.revokeIdentity "admin" "tester" 2) = .ok w' ∧
        ∀ kind clock, w'.controller.authorizeEffect shiftAuthorizer kind clock ≠ .ok () := by
  have effects := run_effects (·.kind) shift [] [] 3600 ⟨"tester", "credential", 3600, none⟩ "shop" "phone" none
    shiftAuthorizer (by decide +kernel)
  rw [run, List.foldl_nil] at effects
  obtain ⟨permits, ended, -⟩ := effects
  have done : (((empty 3600).run (·.kind) shift).controller.authorizeEffect shiftAuthorizer "tap" ⟨1, 1, 1, 1, 1, 1⟩) =
      .ok () := by
    decide +kernel
  have revoked : (((empty 3600).run (·.kind) shift).apply (·.kind)
      (.revokeIdentity "admin" "tester" 2)).toOption.isSome := by
    decide +kernel
  obtain ⟨w', at_once⟩ := Option.isSome_iff_exists.mp revoked
  rw [toOption_eq_some] at at_once
  exact ⟨(permits "tap" _ done).2.2.2.2.2, w', at_once, ended "admin" 2 w' at_once⟩

end Trial

end World

end Reproof.Live.Access
