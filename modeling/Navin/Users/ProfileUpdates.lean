import Navin.Identity.World
import Navin.Semantics.WeakestPreconditions
import Navin.Users.Service

/-! What a rejected profile update leaves behind. Between its calls other requests may
take the email it asks for; the database rejects a save that would break the unique
index. -/
namespace Navin

open Async

namespace IdentityStore

variable (store : IdentityStore)

/-- Another user's document as another request creates or saves it. -/
def putUser (user : User) : IdentityStore :=
  if h : store.users.get? user.id = none then
    { store with users := store.users.insert user h }
  else store.modifyUser user.id (fun old => { user with id := old.id }) fun _ => rfl

/-- Another request takes an email, unless the index is against it. -/
def takeEmail (caller : ObjectId) (email : String) : Option User → IdentityStore
  | none => store
  | some other =>
      if other.id = caller ∨ ∃ doc ∈ store.users.docs, doc.id ≠ other.id ∧ doc.email = email then
        store
      else store.putUser { other with email, deletedAt := none }

/-- The unique index over the emails. -/
def EmailsUnique : Prop :=
  ∀ first ∈ store.users.docs, ∀ second ∈ store.users.docs,
    first.email = second.email → first.id = second.id

end IdentityStore

/-- Before each call another request may take the email. Nothing else goes wrong. -/
abbrev contended (caller : ObjectId) (email : String) :
    World IdentityCall IdentityCall.Answer ThrownError where
  Store := IdentityStore
  Env := Option User
  perform other store call := executeIdentity {} (store.takeEmail caller email other) call

theorem perform_undisturbed (caller : ObjectId) (email : String) (store : IdentityStore)
    (call : IdentityCall) :
    (contended caller email).perform none store call = executeIdentity {} store call := rfl

section Others

variable {store : IdentityStore} {caller : ObjectId} {email : String} {user doc : User}

theorem mem_putUser_iff : doc ∈ (store.putUser user).users.docs ↔
    doc = user ∨ doc ∈ store.users.docs ∧ doc.id ≠ user.id := by
  rw [IdentityStore.putUser]
  split
  next hFree =>
    have hOther : ∀ old ∈ store.users.docs, old.id ≠ user.id :=
      (store.users.get?_eq_none_iff).mp hFree
    rw [Collection.mem_insert]
    constructor
    · rintro (hOld | rfl)
      · exact .inr ⟨hOld, hOther doc hOld⟩
      · exact .inl rfl
    · rintro (rfl | ⟨hOld, -⟩)
      · exact .inr rfl
      · exact .inl hOld
  next hTaken =>
    obtain ⟨old, hOld⟩ := Option.ne_none_iff_exists'.mp hTaken
    obtain ⟨hMem, hId⟩ := store.users.get?_eq_some_iff.mp hOld
    simp only [IdentityStore.modifyUser, Collection.modify, List.mem_map]
    constructor
    · rintro ⟨before, hBefore, rfl⟩
      by_cases hSame : before.id = user.id
      · rw [if_pos hSame, hSame]
        exact .inl rfl
      · rw [if_neg hSame]
        exact .inr ⟨hBefore, hSame⟩
    · rintro (rfl | ⟨hDoc, hNe⟩)
      · exact ⟨old, hMem, by rw [if_pos hId, hId]⟩
      · exact ⟨doc, hDoc, if_neg hNe⟩

theorem putUser_get? {id : ObjectId} (h : id ≠ user.id) :
    (store.putUser user).users.get? id = store.users.get? id := by
  rw [IdentityStore.putUser]
  split
  · rw [Collection.get?_insert, if_neg h]
  · exact Collection.get?_modify_of_ne (f := fun old => { user with id := old.id }) store.users
      (fun _ => rfl) h

theorem putUser_organizations : (store.putUser user).organizations = store.organizations := by
  rw [IdentityStore.putUser]
  split <;> rfl

theorem takeEmail_organizations {other : Option User} :
    (store.takeEmail caller email other).organizations = store.organizations := by
  cases other with
  | none => rfl
  | some other =>
      rw [IdentityStore.takeEmail]
      split
      · rfl
      · exact putUser_organizations

theorem takeEmail_get? {other : Option User} :
    (store.takeEmail caller email other).users.get? caller = store.users.get? caller := by
  cases other with
  | none => rfl
  | some other =>
      rw [IdentityStore.takeEmail]
      split
      · rfl
      · next hFree => exact putUser_get? fun hCaller => hFree (.inl hCaller.symm)

/-- Nobody takes an email that another user has. -/
theorem IdentityStore.EmailsUnique.takeEmail (h : store.EmailsUnique) (other : Option User) :
    (store.takeEmail caller email other).EmailsUnique := by
  cases other with
  | none => exact h
  | some other =>
      rw [IdentityStore.takeEmail]
      split
      · exact h
      · next hFree =>
          have hAlone (doc : User) (hDoc : doc ∈ store.users.docs) (hNe : doc.id ≠ other.id) :
              doc.email ≠ email := fun hEmail => hFree (.inr ⟨doc, hDoc, hNe, hEmail⟩)
          intro first hFirst second hSecond hSame
          rcases mem_putUser_iff.mp hFirst with rfl | ⟨hFirst, hFirstNe⟩ <;>
            rcases mem_putUser_iff.mp hSecond with rfl | ⟨hSecond, hSecondNe⟩
          · rfl
          · exact absurd hSame.symm (hAlone second hSecond hSecondNe)
          · exact absurd hSame (hAlone first hFirst hFirstNe)
          · exact h first hFirst second hSecond hSame

theorem liveUserByEmail_isSome_iff : (∃ holder, store.liveUserByEmail email = some holder) ↔
    ∃ doc ∈ store.users.docs, doc.email = email ∧ doc.deletedAt.isNone = true := by
  simp only [IdentityStore.liveUserByEmail, ← Option.isSome_iff_exists, List.find?_isSome,
    Bool.and_eq_true, decide_eq_true_eq]

/-- Once taken, an email stays taken. -/
theorem takeEmail_keeps_held {holder : User} (h : store.liveUserByEmail email = some holder)
    (other : Option User) :
    ∃ holder, (store.takeEmail caller email other).liveUserByEmail email = some holder := by
  cases other with
  | none => exact ⟨holder, h⟩
  | some other =>
      rw [IdentityStore.takeEmail]
      split
      · exact ⟨holder, h⟩
      · exact liveUserByEmail_isSome_iff.mpr ⟨_, mem_putUser_iff.mpr (.inl rfl), rfl, rfl⟩

/-- What others leave alone while they take the email. -/
structure Around (caller : ObjectId) (email : String) (initial store : IdentityStore) : Prop where
  user : store.users.get? caller = initial.users.get? caller
  organizations : store.organizations = initial.organizations
  unique : store.EmailsUnique
  held : ∀ holder, initial.liveUserByEmail email = some holder →
    ∃ holder, store.liveUserByEmail email = some holder

theorem Around.takeEmail {initial : IdentityStore} (h : Around caller email initial store)
    (other : Option User) : Around caller email initial (store.takeEmail caller email other) := by
  refine ⟨takeEmail_get?.trans h.user, takeEmail_organizations.trans h.organizations, ?_, ?_⟩
  · exact h.unique.takeEmail other
  · intro holder hHolder
    obtain ⟨still, hStill⟩ := h.held holder hHolder
    exact takeEmail_keeps_held hStill other

end Others

section Atomicity

variable (store : IdentityStore) (caller : ObjectId) (input : Users.UpdateInput)

/-- The email the update asks for, which others may take. -/
def requestedEmail : String :=
  input.email.getD ""

/-- However others interfere, a rejected update leaves the user and the organisations as
they were. -/
def AtomicOnError : Prop :=
  ∀ others : Nat → Option User,
    let ended := (Users.updateCurrentUser caller.toString input).run
      (contended caller (requestedEmail input)) others store
    (∃ error, ended.2.1 = .error error) →
      ended.1.users.get? caller = store.users.get? caller ∧
        ended.1.organizations = store.organizations

/-- The email changes to one that no live user has. -/
def ChangesEmail (user : User) : Prop :=
  ∃ email, (truthy input.email).filter (· ≠ user.email) = some email ∧
    store.liveUserByEmail email = none

/-- The organisation of an admin gets another name, which no other organisation has. -/
def RenamesOrganization (user : User) : Prop :=
  ∃ companyName organizationId organization, input.companyName = some companyName ∧
    (user.role = .admin ∨ user.role = .superAdmin) ∧
    user.organizationId = some organizationId ∧
    store.liveOrganization organizationId = some organization ∧
    organization.name ≠ companyName ∧
    ∀ other ∈ store.organizations.docs, other.id ≠ organizationId → other.name ≠ companyName

/-- What is left to show of an outcome. -/
def LeavesDocuments (outcome : Except ThrownError (Option User)) (after : IdentityStore) : Prop :=
  (∃ error, outcome = .error error) →
    after.users.get? caller = store.users.get? caller ∧
      after.organizations = store.organizations

theorem atomicOnError_iff_wp : AtomicOnError store caller input ↔
    (Users.updateCurrentUser caller.toString input).wp
      (fun _ : Step (contended caller (requestedEmail input)) => True)
      (LeavesDocuments store caller) store := by
  constructor
  · intro h
    exact Program.wp_of_run h
  · intro h others
    exact h.run others fun _ _ => trivial

variable {store caller input}

theorem Around.liveUser {initial : IdentityStore} {email : String}
    (h : Around caller email initial store) : store.liveUser caller = initial.liveUser caller := by
  rw [IdentityStore.liveUser, IdentityStore.liveUser, h.user]

theorem Around.leaves {after : IdentityStore} {email : String}
    {outcome : Except ThrownError (Option User)} (h : Around caller email store after) :
    LeavesDocuments store caller outcome after :=
  fun _ => ⟨h.user, h.organizations⟩

/-- A save that changes no email is not against the index. -/
theorem executeIdentity_save_ok {user : User} {changes : UserChanges}
    (hUnique : store.EmailsUnique) (hUser : store.users.get? caller = some user)
    (hEmail : changes.email = none) :
    (executeIdentity {} store (.userSave caller changes)).2 = .ok () := by
  obtain ⟨hMem, hId⟩ := store.users.get?_eq_some_iff.mp hUser
  have hFree : ¬ ∃ other ∈ store.users.docs, other.id ≠ caller ∧
      other.email = (changes.apply user).email := by
    rintro ⟨other, hOther, hNe, hSame⟩
    rw [UserChanges.apply, hEmail, Option.getD_none] at hSame
    exact hNe ((hUnique other hOther user hMem hSame).trans hId)
  simp only [executeIdentity, hUser]
  rw [if_neg hFree]

/-- A name that is already there changes nothing. -/
theorem modify_same_name {organizations : Collection Organization.id} {id : ObjectId}
    {organization : Organization} (hMem : organizations.get? id = some organization) :
    organizations.modify id (fun other => { other with name := organization.name })
      (fun _ => rfl) = organizations := by
  have hDocs : (organizations.docs.map fun doc =>
      if doc.id = id then { doc with name := organization.name } else doc) =
        organizations.docs := by
    refine (List.map_congr_left fun doc hDoc => ?_).trans (List.map_id _)
    split
    next hId =>
      have hFound := organizations.get?_of_mem hDoc
      rw [hId, hMem] at hFound
      rw [Option.some.inj hFound]
      rfl
    next => rfl
  cases organizations with
  | mk docs unique =>
      simp only [Collection.modify, Collection.mk.injEq]
      exact hDocs

/-- The organisations change only if the organisation of an admin is renamed. -/
theorem renameOrganization_wp {user : User} {email : String} {initial : IdentityStore}
    (hAround : Around caller email initial store) :
    (Users.updateCurrentUser.renameOrganization input user).wp
      (fun _ : Step (contended caller email) => True)
      (fun outcome after => after.users.get? caller = initial.users.get? caller ∧
        after.EmailsUnique ∧
        (after.organizations = initial.organizations ∨
          RenamesOrganization initial input user ∧ outcome = .ok ())) store := by
  rw [Users.updateCurrentUser.renameOrganization]
  cases hName : input.companyName with
  | none => exact ⟨hAround.user, hAround.unique, .inl hAround.organizations⟩
  | some companyName =>
      by_cases hRole : user.role = .admin ∨ user.role = .superAdmin
      · simp only [if_pos hRole]
        cases hId : user.organizationId with
        | none => exact ⟨hAround.user, hAround.unique, .inl hAround.organizations⟩
        | some organizationId =>
            refine (Program.wp_await_bind _ _).mpr fun other _ => ?_
            have hTaken := hAround.takeEmail other
            obtain ⟨before, hBefore⟩ : ∃ before, before = store.takeEmail caller email other :=
              ⟨_, rfl⟩
            rw [← hBefore] at hTaken
            simp only [contended, ← hBefore, executeIdentity]
            cases hLive : before.liveOrganization organizationId with
            | none => exact ⟨hTaken.user, hTaken.unique, .inl hTaken.organizations⟩
            | some organization =>
                by_cases hDuplicate : ∃ other ∈ before.organizations.docs,
                    other.id ≠ organizationId ∧ other.name = companyName
                · simp only [if_pos hDuplicate]
                  exact ⟨hTaken.user, hTaken.unique, .inl hTaken.organizations⟩
                · simp only [if_neg hDuplicate]
                  refine ⟨hTaken.user, hTaken.unique, ?_⟩
                  by_cases hSame : organization.name = companyName
                  · subst hSame
                    have hFound := (Option.filter_eq_some_iff.mp hLive).1
                    exact .inl ((modify_same_name hFound).trans hTaken.organizations)
                  · refine .inr ⟨⟨companyName, organizationId, organization, hName, hRole, hId,
                      ?_, hSame, ?_⟩, rfl⟩
                    · rw [IdentityStore.liveOrganization, ← hTaken.organizations]
                      exact hLive
                    · rw [← hTaken.organizations]
                      exact fun other hOther hNe hTheirs =>
                        hDuplicate ⟨other, hOther, hNe, hTheirs⟩
      · simp only [if_neg hRole]
        exact ⟨hAround.user, hAround.unique, .inl hAround.organizations⟩

/-- The check lets only an email through that no live user had. -/
theorem changedEmail_wp {user : User} {initial : IdentityStore}
    (hAround : Around caller (requestedEmail input) initial store) :
    (Users.updateCurrentUser.changedEmail input user).wp
      (fun _ : Step (contended caller (requestedEmail input)) => True)
      (fun outcome after => Around caller (requestedEmail input) initial after ∧
        ∀ email, outcome = .ok (some email) → ChangesEmail initial input user) store := by
  rw [Users.updateCurrentUser.changedEmail]
  cases hEmail : (truthy input.email).filter (· ≠ user.email) with
  | none => exact ⟨hAround, nofun⟩
  | some email =>
      refine (Program.wp_await_bind _ _).mpr fun other _ => ?_
      have hTaken := hAround.takeEmail other
      obtain ⟨before, hBefore⟩ : ∃ before,
        before = store.takeEmail caller (requestedEmail input) other := ⟨_, rfl⟩
      rw [← hBefore] at hTaken
      simp only [contended, ← hBefore, executeIdentity]
      cases hLive : before.liveUserByEmail email with
      | some holder => exact ⟨hTaken, nofun⟩
      | none =>
          have hRequested : requestedEmail input = email := by
            have hGiven := (Option.filter_eq_some_iff.mp (Option.filter_eq_some_iff.mp hEmail).1).1
            rw [requestedEmail, hGiven, Option.getD_some]
          refine ⟨hTaken, fun email _ => ⟨_, hEmail, ?_⟩⟩
          rw [Option.eq_none_iff_forall_ne_some]
          intro holder hHolder
          rw [← hRequested] at hHolder hLive
          obtain ⟨still, hStill⟩ := hTaken.held holder hHolder
          cases hLive.symm.trans hStill

/-- A save that is rejected leaves the store as it is. -/
theorem executeIdentity_save_error {user : User} {changes : UserChanges} {error : ThrownError}
    (h : (executeIdentity {} store (.userSave user.id changes)).2 = .error error) :
    (executeIdentity {} store (.userSave user.id changes)).1 = store := by
  simp only [executeIdentity] at h ⊢
  split at h
  · rfl
  · split at h
    next hDuplicate => rw [if_pos hDuplicate]
    next => cases h

/-- Once the organisation has been renamed, only a changed email can be refused. -/
theorem saveProfile_wp {user : User} {initial : IdentityStore} {email : Option String}
    (hCaller : caller = user.id) (hUser : store.users.get? caller = some user)
    (hInitial : initial.users.get? caller = some user) (hUnique : store.EmailsUnique)
    (hOr : store.organizations = initial.organizations ∨ email = none) :
    (do
      ask (.userSave user.id { email, name := input.fullName })
      ask (.userFindById caller.toString) : IdentityM (Option User)).wp
        (fun _ : Step (contended caller (requestedEmail input)) => True)
        (LeavesDocuments initial caller) store := by
  subst hCaller
  refine (Program.wp_await_bind _ _).mpr fun other _ => ?_
  have hAround : Around user.id (requestedEmail input) store store :=
    ⟨rfl, rfl, hUnique, fun holder hHolder => ⟨holder, hHolder⟩⟩
  have hTaken := hAround.takeEmail other
  obtain ⟨before, hBefore⟩ : ∃ before,
    before = store.takeEmail user.id (requestedEmail input) other := ⟨_, rfl⟩
  rw [← hBefore] at hTaken
  simp only [contended, ← hBefore]
  cases hSave : (executeIdentity {} before
      (.userSave user.id { email, name := input.fullName })).2 with
  | error error =>
      intro _
      rw [executeIdentity_save_error hSave]
      rcases hOr with hSame | rfl
      · exact ⟨by rw [hTaken.user, hUser, hInitial], hTaken.organizations.trans hSame⟩
      · rw [executeIdentity_save_ok hTaken.unique (hTaken.user.trans hUser) rfl] at hSave
        cases hSave
  | ok _ =>
      rw [Program.afterwards, Program.wp_await]
      rintro other - ⟨error, hError⟩
      simp only [executeIdentity, castingId, ObjectId.cast?_toString] at hError
      cases hError

/-- A rejected update leaves both documents unless it renames the organisation and asks
for a new email. -/
theorem atomicOnError_of_not (hUnique : store.EmailsUnique)
    (h : ¬ ∃ user, store.liveUser caller = some user ∧ ChangesEmail store input user ∧
      RenamesOrganization store input user) : AtomicOnError store caller input := by
  rw [atomicOnError_iff_wp, Users.updateCurrentUser]
  refine (Program.wp_await_bind _ _).mpr fun other _ => ?_
  have hAround : Around caller (requestedEmail input) store store :=
    ⟨rfl, rfl, hUnique, fun holder hHolder => ⟨holder, hHolder⟩⟩
  have hTaken := hAround.takeEmail other
  simp only [contended, executeIdentity, castingId, ObjectId.cast?_toString, hTaken.liveUser]
  cases hLive : store.liveUser caller with
  | none => exact hTaken.leaves
  | some user =>
      obtain ⟨hUser, -⟩ := Option.filter_eq_some_iff.mp hLive
      rw [Program.afterwards, Program.wp_bind]
      refine (changedEmail_wp hTaken).mono fun outcome checked hChecked => ?_
      obtain ⟨hChecked, hChanges⟩ := hChecked
      cases outcome with
      | error error => exact hChecked.leaves
      | ok email =>
          rw [Program.afterwards, Program.wp_bind]
          refine (renameOrganization_wp hChecked).mono fun outcome renamed hRenamed => ?_
          obtain ⟨hCaller, hStillUnique, hOrganizations⟩ := hRenamed
          cases outcome with
          | error error =>
              rcases hOrganizations with hSame | ⟨-, hOk⟩
              · exact fun _ => ⟨hCaller, hSame⟩
              · cases hOk
          | ok _ =>
              refine saveProfile_wp (store.users.key_of_get? hUser).symm (hCaller.trans hUser) hUser
                hStillUnique ?_
              rcases hOrganizations with hSame | ⟨hRenames, -⟩
              · exact .inl hSame
              · cases email with
                | none => exact .inr rfl
                | some email => exact absurd ⟨user, hLive, hChanges email rfl, hRenames⟩ h

/-- Once another request has taken the email, somebody else has it. -/
theorem takeEmail_held {user other : User} {email : String}
    (hUser : store.users.get? caller = some user) (hEmail : email ≠ user.email)
    (hOther : other.id ≠ caller) :
    ∃ doc ∈ (store.takeEmail caller email (some other)).users.docs,
      doc.id ≠ caller ∧ doc.email = email := by
  rw [IdentityStore.takeEmail]
  split
  next hKept =>
    obtain ⟨doc, hDoc, -, hTheirs⟩ := hKept.resolve_left hOther
    refine ⟨doc, hDoc, fun hId => hEmail ?_, hTheirs⟩
    have hFound := store.users.get?_of_mem hDoc
    rw [hId, hUser] at hFound
    rw [← hTheirs, Option.some.inj hFound]
  next => exact ⟨_, mem_putUser_iff.mpr (.inl rfl), hOther, rfl⟩

/-- Then the index is against the save. -/
theorem executeIdentity_save_taken {user other : User} {email : String} {changes : UserChanges}
    (hUser : store.users.get? caller = some user) (hEmail : email ≠ user.email)
    (hOther : other.id ≠ caller) (hChanges : changes.email = some email) :
    executeIdentity {} (store.takeEmail caller email (some other)) (.userSave caller changes) =
      (store.takeEmail caller email (some other), .error .duplicateKey) := by
  have hStill : (store.takeEmail caller email (some other)).users.get? caller = some user :=
    takeEmail_get?.trans hUser
  have hTaken : ∃ doc ∈ (store.takeEmail caller email (some other)).users.docs,
      doc.id ≠ caller ∧ doc.email = (changes.apply user).email := by
    rw [UserChanges.apply, hChanges, Option.getD_some]
    exact takeEmail_held hUser hEmail hOther
  simp only [executeIdentity, hStill]
  rw [if_pos hTaken]

/-- When nobody interferes before the save, the organisation has been renamed by then. -/
theorem updateCurrentUser_wp_save {user : User} {email companyName : String}
    {organizationId : ObjectId} {organization : Organization}
    {Q : Except ThrownError (Option User) → IdentityStore → Prop}
    (hLive : store.liveUser caller = some user)
    (hEmail : (truthy input.email).filter (· ≠ user.email) = some email)
    (hNobody : store.liveUserByEmail email = none)
    (hName : input.companyName = some companyName)
    (hRole : user.role = .admin ∨ user.role = .superAdmin)
    (hId : user.organizationId = some organizationId)
    (hOrganization : store.liveOrganization organizationId = some organization)
    (hFree : ∀ other ∈ store.organizations.docs, other.id ≠ organizationId →
      other.name ≠ companyName)
    (h : (Users.updateCurrentUser caller.toString input).wp
      (fun _ : Step (contended caller (requestedEmail input)) => True) Q store) :
    (do
      ask (.userSave user.id { email := some email, name := input.fullName })
      ask (.userFindById caller.toString) : IdentityM (Option User)).wp
        (fun _ : Step (contended caller (requestedEmail input)) => True) Q
        { store with
          organizations := store.organizations.modify organizationId
            (fun organization => { organization with name := companyName }) fun _ => rfl } := by
  have hFind : executeIdentity {} store (.userFindById caller.toString) =
      (store, .ok (some user)) := by
    simp only [executeIdentity, castingId, ObjectId.cast?_toString, hLive]
  have hCheck : executeIdentity {} store (.userFindByEmail email) = (store, .ok none) := by
    simp only [executeIdentity, hNobody]
  have hRename : executeIdentity {} store (.organizationRename organizationId companyName) =
      ({ store with
          organizations := store.organizations.modify organizationId
            (fun organization => { organization with name := companyName }) fun _ => rfl },
        .ok (some { organization with name := companyName })) := by
    have hUnused : ¬ ∃ other ∈ store.organizations.docs,
        other.id ≠ organizationId ∧ other.name = companyName :=
      fun ⟨other, hOther, hNe, hTheirs⟩ => hFree other hOther hNe hTheirs
    simp only [executeIdentity, hOrganization, if_neg hUnused]
  rw [Users.updateCurrentUser] at h
  have hFound := (Program.wp_await_bind _ _).mp h none trivial
  rw [perform_undisturbed, hFind] at hFound
  have hChecked := (Program.wp_bind _).mp hFound
  rw [Users.updateCurrentUser.changedEmail] at hChecked
  simp only [hEmail] at hChecked
  have hFresh := (Program.wp_await_bind _ _).mp hChecked none trivial
  rw [perform_undisturbed, hCheck] at hFresh
  have hAdmin := (Program.wp_bind _).mp hFresh
  rw [Users.updateCurrentUser.renameOrganization] at hAdmin
  simp only [hName, if_pos hRole, hId] at hAdmin
  have hWritten := (Program.wp_await_bind _ _).mp hAdmin none trivial
  rw [perform_undisturbed, hRename] at hWritten
  exact hWritten

theorem not_atomicOnError {user : User}
    (hLive : store.liveUser caller = some user) (hChanges : ChangesEmail store input user)
    (hRenames : RenamesOrganization store input user) : ¬ AtomicOnError store caller input := by
  rw [atomicOnError_iff_wp]
  intro hAtomic
  obtain ⟨email, hEmail, hNobody⟩ := hChanges
  obtain ⟨companyName, organizationId, organization, hName, hRole, hId, hOrganization, hNew,
    hFree⟩ := hRenames
  obtain ⟨hUser, -⟩ := Option.filter_eq_some_iff.mp hLive
  obtain ⟨hText, hDiffers⟩ := Option.filter_eq_some_iff.mp hEmail
  have hRequested : requestedEmail input = email := by
    rw [requestedEmail, (Option.filter_eq_some_iff.mp hText).1, Option.getD_some]
  have hSave := updateCurrentUser_wp_save hLive hEmail hNobody hName hRole hId hOrganization hFree
    hAtomic
  obtain ⟨renamed, hRenamed⟩ : ∃ renamed, renamed = store.organizations.modify organizationId
    (fun organization => { organization with name := companyName }) fun _ => rfl := ⟨_, rfl⟩
  rw [← hRenamed] at hSave
  -- before the save another request takes the email
  obtain ⟨otherId, hOther⟩ : ∃ otherId, otherId ≠ caller := by
    by_cases hZero : ObjectId.repeated 0 = caller
    · exact ⟨.repeated 1, fun hOne => absurd (hZero.trans hOne.symm) (by decide)⟩
    · exact ⟨.repeated 0, hZero⟩
  have hSaved := (Program.wp_await_bind _ _).mp hSave (some { user with id := otherId }) trivial
  have hCaller : user.id = caller := store.users.key_of_get? hUser
  have hRefused : (contended caller (requestedEmail input)).perform
      (some { user with id := otherId })
      { store with organizations := renamed }
      (.userSave user.id { email := some email, name := input.fullName }) =
        (IdentityStore.takeEmail { store with organizations := renamed } caller email
          (some { user with id := otherId }), .error .duplicateKey) := by
    rw [hCaller, ← hRequested]
    exact @executeIdentity_save_taken { store with organizations := renamed } caller _ _ _ _ hUser
      (hRequested.symm ▸ of_decide_eq_true hDiffers) hOther rfl
  rw [hRefused] at hSaved
  obtain ⟨-, hSame⟩ := hSaved ⟨_, rfl⟩
  have hOrganizations : renamed = store.organizations := takeEmail_organizations.symm.trans hSame
  obtain ⟨hStored, -⟩ := Option.filter_eq_some_iff.mp hOrganization
  have hAfter : renamed.get? organizationId =
      some { organization with name := companyName } := by
    rw [hRenamed, Collection.get?_modify_self, hStored, Option.map_some]
  rw [hOrganizations, hStored] at hAfter
  exact hNew (congrArg Organization.name (Option.some.inj hAfter))

/-- A rejected update leaves the user and the organisations as they were, unless a live
user asks for a free email and renames the organisation. -/
theorem updateCurrentUser_atomic_iff (hUnique : store.EmailsUnique) :
    AtomicOnError store caller input ↔ ¬ ∃ user, store.liveUser caller = some user ∧
      ChangesEmail store input user ∧ RenamesOrganization store input user := by
  constructor
  · rintro hAtomic ⟨user, hLive, hChanges, hRenames⟩
    exact not_atomicOnError hLive hChanges hRenames hAtomic
  · exact atomicOnError_of_not hUnique

end Atomicity

section Samples

def sampleOwner : User where
  id := .repeated 0x41
  email := "owner@navin.test"
  name := "Owner"
  passwordHash := ""
  role := .admin
  organizationId := some (.repeated 0x42)
  deletedAt := none

def sampleCompany : Organization where
  id := .repeated 0x42
  name := "Navin"
  type := .logistics
  settings := none
  deletedAt := none

def sampleOwnerStore : IdentityStore where
  users := ⟨[sampleOwner], by simp⟩
  organizations := ⟨[sampleCompany], by simp⟩

theorem sampleOwnerStore_emailsUnique : sampleOwnerStore.EmailsUnique := by
  intro first hFirst second hSecond _
  rw [List.mem_singleton.mp hFirst, List.mem_singleton.mp hSecond]

def profileInput (companyName : Option String) : Users.UpdateInput where
  fullName := some "The Owner"
  email := some "free@navin.test"
  companyName := companyName

/-- Without a name for the organisation, a lost email leaves everything as it was. -/
theorem updateCurrentUser_atomic_sample :
    AtomicOnError sampleOwnerStore sampleOwner.id (profileInput none) :=
  (updateCurrentUser_atomic_iff sampleOwnerStore_emailsUnique).mpr
    fun ⟨_, _, _, _, _, _, hName, _⟩ => nomatch hName

/-- Another request takes the email after three calls. -/
def emailRace : Nat → Option User
  | 3 => some { sampleOwner with id := .repeated 0x43 }
  | _ => none

def lostEmail :=
  (Users.updateCurrentUser sampleOwner.id.toString (profileInput (some "Navin Freight"))).run
    (contended sampleOwner.id (requestedEmail (profileInput (some "Navin Freight"))))
    emailRace sampleOwnerStore

theorem lostEmail_rejected : lostEmail.2.1.toBool = false := by
  decide +kernel

theorem lostEmail_renamed :
    lostEmail.1.organizations.docs.map Organization.name = ["Navin Freight"] := by
  decide +kernel

/-- The email is lost after the organisation has been renamed: the update is rejected and
the new name stays. -/
theorem updateCurrentUser_renames_on_error :
    ¬ ∀ (store : IdentityStore) (caller : ObjectId) (input : Users.UpdateInput),
      store.EmailsUnique → AtomicOnError store caller input := by
  intro hAtomic
  have hLeft : (∃ error, lostEmail.2.1 = .error error) →
      lostEmail.1.users.get? sampleOwner.id = sampleOwnerStore.users.get? sampleOwner.id ∧
        lostEmail.1.organizations = sampleOwnerStore.organizations :=
    hAtomic sampleOwnerStore sampleOwner.id (profileInput (some "Navin Freight"))
      sampleOwnerStore_emailsUnique emailRace
  have hRejected : ∃ error, lostEmail.2.1 = .error error := by
    have hNotOk := lostEmail_rejected
    cases hOutcome : lostEmail.2.1 with
    | error error => exact ⟨error, rfl⟩
    | ok _ => simp [hOutcome, Except.toBool] at hNotOk
  have hRenamed := lostEmail_renamed
  rw [(hLeft hRejected).2] at hRenamed
  exact absurd hRenamed (by decide)

end Samples

end Navin
