import Navin.Auth.Sessions
import Navin.Auth.TokenRecords

/-! Do the session records of a user list the tokens that still work? Only signup and
login store a record, only a revocation deletes one, and nothing else does either. -/
namespace Navin

open Async

/-- A session token of the user, with its identifier. -/
structure SessionOf (token : Token) (user : ObjectId) (jti : String) : Prop where
  issued : IssuedBy token .session
  userId : token.claims.userId = some user.toString
  jti : token.claims.jti = some jti

namespace IdentityStore

variable (store : IdentityStore)

/-- When the entry of an identifier goes, if it was ever blocklisted. -/
def entry (jti : String) : Option Nat :=
  store.redis.lookup (blocklistKeyOf jti)

/-- The token neither has expired nor is on the blocklist. -/
def Live (token : Token) (jti : String) : Prop :=
  store.clock < token.exp ∧ store.holds (blocklistKeyOf jti) = false

/-- The records of a user are those of the live tokens issued to the user. -/
def ListsLiveTokens (user : ObjectId) : Prop :=
  ∀ jti, (∃ session ∈ store.listSessions user, session.jti = jti) ↔
    ∃ token ∈ store.signed, SessionOf token user jti ∧ store.Live token jti

/-- Every token that has expired was blocklisted some time. -/
def ExpireRevoked : Prop :=
  ∀ token ∈ store.signed, ∀ jti, token.claims.jti = some jti →
    store.clock < token.exp ∨ (store.entry jti).isSome

theorem mem_listSessions {user : ObjectId} {session : Session} :
    session ∈ store.listSessions user ↔
      store.sessions.get? session.jti = some session ∧ session.userId = user := by
  rw [listSessions, List.mem_reverse, List.mem_filter, decide_eq_true_iff,
    store.sessions.get?_eq_some_iff]
  tauto

theorem holds_iff {jti : String} :
    store.holds (blocklistKeyOf jti) = true ↔ ∃ gone, store.entry jti = some gone ∧
      store.clock < gone := by
  rw [holds, entry, Option.any_eq_true]
  simp

end IdentityStore

/-- How far the bookkeeping for a token has come. -/
inductive TokenBooked {ι : Type} (books : ι → Bookkeeping) (store : IdentityStore)
    (user : ObjectId) (jti : String) : Prop where
  | creating (i : ι) (hCreating : (books i).creating = some (user.toString, jti))
  | recorded (session : Session) (hSession : store.sessions.get? jti = some session)
      (hUser : session.userId = user) (hEntry : store.entry jti = none)
  | revoked (hEntry : (store.entry jti).isSome)
      (hGone : store.sessions.get? jti = none ∨ ∃ i, (books i).deleting = some jti)

/-- The token an operation has yet to record. -/
structure Unrecorded (store : IdentityStore) (user jti : String) : Prop where
  session : store.sessions.get? jti = none
  entry : store.entry jti = none
  signed : ∃ token ∈ store.signed, ∃ id : ObjectId, user = id.toString ∧ SessionOf token id jti

/-- Every token is about to be recorded, recorded, or revoked. -/
structure Recorded {ι : Type} (books : ι → Bookkeeping) (store : IdentityStore) : Prop where
  pending : ∀ i user jti, (books i).creating = some (user, jti) →
    (books i).records = true ∧ Unrecorded store user jti
  unshared : ∀ i j user user' jti, (books i).creating = some (user, jti) →
    (books j).creating = some (user', jti) → i = j
  found : ∀ i jti, (books i).found = some jti →
    (∃ token ∈ store.signed, token.claims.jti = some jti) ∧
      ∀ j user, (books j).creating ≠ some (user, jti)
  deleting : ∀ i jti, (books i).deleting = some jti → (store.entry jti).isSome
  tokens : ∀ token ∈ store.signed, ∃ user jti, SessionOf token user jti ∧
    TokenBooked books store user jti

variable {ι : Type} {books books' : ι → Bookkeeping} {store store' : IdentityStore} {i : ι}
  {token : Token} {user : ObjectId} {jti key : String}

theorem TokenBooked.of_same (h : TokenBooked books store user jti)
    (hSessions : store'.sessions = store.sessions) (hRedis : store'.redis = store.redis) :
    TokenBooked books store' user jti := by
  have hEntry : store'.entry jti = store.entry jti := by
    rw [IdentityStore.entry, hRedis]
    rfl
  cases h with
  | creating i hCreating => exact .creating i hCreating
  | recorded session hSession hUser hNone =>
      exact .recorded session (hSessions ▸ hSession) hUser (hEntry.trans hNone)
  | revoked hSome hGone => exact .revoked (hEntry ▸ hSome) (hSessions ▸ hGone)

/-- Calls that touch none of the records keep the books. -/
theorem Recorded.of_same (h : Recorded books store) (hSigned : store'.signed = store.signed)
    (hSessions : store'.sessions = store.sessions) (hRedis : store'.redis = store.redis) :
    Recorded books store' := by
  have hEntry : ∀ jti, store'.entry jti = store.entry jti := by
    intro jti
    rw [IdentityStore.entry, hRedis]
    rfl
  refine ⟨fun i user jti hCreating => ?_, h.unshared, fun i jti hFound => ?_,
    fun i jti hDeleting => ?_, fun token hToken => ?_⟩
  · obtain ⟨hRecords, hSession, hNone, hToken⟩ := h.pending i user jti hCreating
    exact ⟨hRecords, hSessions ▸ hSession, (hEntry jti).trans hNone, hSigned ▸ hToken⟩
  · rw [hSigned]
    exact h.found i jti hFound
  · rw [hEntry]
    exact h.deleting i jti hDeleting
  · obtain ⟨user, jti, hOf, hBooked⟩ := h.tokens token (hSigned ▸ hToken)
    exact ⟨user, jti, hOf, hBooked.of_same hSessions hRedis⟩

theorem Recorded.elapse (h : Recorded books store) (seconds : Nat) :
    Recorded books (store.elapse seconds) :=
  h.of_same rfl rfl rfl

/-- The entry of a token outlasts it. -/
theorem Consistent.exp_le_of_entry (h : Consistent store) {gone : Nat} (hToken : token ∈ store.signed)
    (hJti : token.claims.jti = some jti) (hGone : store.entry jti = some gone) :
    token.exp ≤ gone := by
  obtain ⟨before, after, hRedis, -⟩ := List.lookup_eq_some_iff.mp hGone
  have hMem : (blocklistKeyOf jti, gone) ∈ store.redis := by
    rw [hRedis]
    exact List.mem_append_right _ List.mem_cons_self
  obtain ⟨blocked, hBlocked, other, hOther, hKey, hOutlasts⟩ := h.entries _ hMem
  have hDrawn := (h.drawn token hToken jti hJti).1
  obtain rfl := blocklistKeyOf_inj hDrawn (h.drawn blocked hBlocked other hOther).1 hKey
  obtain rfl := h.distinct token hToken blocked hBlocked jti hJti hOther
  exact hOutlasts

/-- An identifier that no signed token has is neither stored nor blocklisted. -/
theorem Consistent.fresh (h : Consistent store) (hDrawn : isDrawnUuid jti = true)
    (hUnused : ∀ token ∈ store.signed, token.claims.jti ≠ some jti) :
    store.sessions.get? jti = none ∧ store.entry jti = none := by
  constructor
  · rw [store.sessions.get?_eq_none_iff]
    rintro session hSession rfl
    obtain ⟨token, hToken, hJti⟩ := h.stored session hSession
    exact hUnused token hToken hJti
  · cases hEntry : store.entry jti with
    | none => rfl
    | some gone =>
        obtain ⟨before, after, hRedis, -⟩ := List.lookup_eq_some_iff.mp hEntry
        have hMem : (blocklistKeyOf jti, gone) ∈ store.redis := by
          rw [hRedis]
          exact List.mem_append_right _ List.mem_cons_self
        obtain ⟨token, hToken, other, hJti, hKey, -⟩ := h.entries _ hMem
        obtain rfl := blocklistKeyOf_inj hDrawn (h.drawn token hToken other hJti).1 hKey
        exact absurd hJti (hUnused token hToken)

/-- Writing an entry touches no other identifier. -/
theorem entry_of_ne {other : String} (hKey : blocklistKeyOf other ≠ key) (gone : Nat) :
    ({ store with redis := (key, gone) :: store.redis } : IdentityStore).entry other =
      store.entry other := by
  simp [IdentityStore.entry, List.lookup_cons, beq_eq_false_iff_ne.mpr hKey]

theorem entry_isSome_cons {other : String} (gone : Nat) (h : (store.entry other).isSome) :
    (({ store with redis := (key, gone) :: store.redis } : IdentityStore).entry other).isSome := by
  simp only [IdentityStore.entry, List.lookup_cons]
  split
  · rfl
  · exact h

/-- Blocklisting again what is on the blocklist. -/
theorem Recorded.prolong (h : Recorded books store) (hHeld : store.holds key = true) (gone : Nat) :
    Recorded books { store with redis := (key, gone) :: store.redis } := by
  have hEntry : ∀ other, store.entry other = none →
      ({ store with redis := (key, gone) :: store.redis } : IdentityStore).entry other = none := by
    intro other hNone
    have hKey : blocklistKeyOf other ≠ key := by
      rintro rfl
      obtain ⟨found, hFound, -⟩ := store.holds_iff.mp hHeld
      rw [hNone] at hFound
      cases hFound
    rw [entry_of_ne hKey, hNone]
  refine ⟨fun j text other hJ => ?_, h.unshared, h.found,
    fun j other hJ => entry_isSome_cons gone (h.deleting j other hJ), fun token hToken => ?_⟩
  · obtain ⟨hRecords, hSession, hNone, hSigned⟩ := h.pending j text other hJ
    exact ⟨hRecords, hSession, hEntry other hNone, hSigned⟩
  · obtain ⟨user, other, hOf, hBooked⟩ := h.tokens token hToken
    refine ⟨user, other, hOf, ?_⟩
    cases hBooked with
    | creating j hJ => exact .creating j hJ
    | recorded session hSession hUser hNone =>
        exact .recorded session hSession hUser (hEntry other hNone)
    | revoked hSome hGone => exact .revoked (entry_isSome_cons gone hSome) hGone

section Steps

variable [DecidableEq ι]

theorem update_field {α : Type} (field : Bookkeeping → α) {after : Bookkeeping}
    (hSame : field after = field (books i)) (j : ι) :
    field (Function.update books i after j) = field (books j) := by
  by_cases hij : j = i
  · subst hij
    rwa [Function.update_self]
  · rw [Function.update_of_ne hij]

/-- Other tokens stay where they are when one operation changes its books. -/
theorem TokenBooked.update {after : Bookkeeping} (h : TokenBooked books store user jti)
    (hCreating : (books i).creating = some (user.toString, jti) →
      after.creating = some (user.toString, jti))
    (hDeleting : (books i).deleting = some jti → after.deleting = some jti) :
    TokenBooked (Function.update books i after) store user jti := by
  have hOwn : Function.update books i after i = after := Function.update_self i after books
  cases h with
  | creating j hJ =>
      refine .creating j ?_
      by_cases hij : j = i
      · subst hij
        rw [hOwn]
        exact hCreating hJ
      · rwa [Function.update_of_ne hij]
  | recorded session hSession hUser hNone => exact .recorded session hSession hUser hNone
  | revoked hSome hGone =>
      refine .revoked hSome (hGone.imp id ?_)
      rintro ⟨j, hJ⟩
      refine ⟨j, ?_⟩
      by_cases hij : j = i
      · subst hij
        rw [hOwn]
        exact hDeleting hJ
      · rwa [Function.update_of_ne hij]

/-- A signed token is to be recorded by its signer. -/
theorem Recorded.sign (h : Recorded books store) (hConsistent : Consistent store)
    {payload : SessionPayload} (hUser : payload.userId = user.toString)
    (hDrawn : isDrawnUuid jti = true) (hUnused : ∀ token ∈ store.signed, token.claims.jti ≠ some jti)
    (hIdle : (books i).creating = none) (hRecords : (books i).records = true) :
    Recorded (Function.update books i { books i with creating := some (payload.userId, jti) })
      { store with signed :=
          ⟨sessionClaims payload jti, store.clock, store.clock + tokenTtlSeconds⟩ ::
            store.signed } := by
  obtain ⟨hSession, hEntry⟩ := hConsistent.fresh hDrawn hUnused
  set new : Token := ⟨sessionClaims payload jti, store.clock, store.clock + tokenTtlSeconds⟩
  set after : Bookkeeping := { books i with creating := some (payload.userId, jti) }
  have hNew : SessionOf new user jti :=
    ⟨⟨payload, jti, hDrawn, rfl, rfl⟩, congrArg some hUser, rfl⟩
  have hOwn : Function.update books i after i = after := Function.update_self i after books
  have hCreating : ∀ j other text, (Function.update books i after j).creating = some (text, other) →
      (j = i ∧ text = payload.userId ∧ other = jti) ∨ (j ≠ i ∧
        (books j).creating = some (text, other)) := by
    intro j other text hJ
    by_cases hij : j = i
    · subst hij
      rw [hOwn] at hJ
      cases hJ
      exact .inl ⟨rfl, rfl, rfl⟩
    · rw [Function.update_of_ne hij] at hJ
      exact .inr ⟨hij, hJ⟩
  have hOther : ∀ j other text, (books j).creating = some (text, other) → other ≠ jti := by
    rintro j other text hJ rfl
    obtain ⟨-, -, -, token, hToken, _, -, hOf⟩ := h.pending j text other hJ
    exact hUnused token hToken hOf.jti
  refine ⟨fun j text other hJ => ?_, fun j k text text' other hJ hK => ?_, fun j other hJ => ?_,
    fun j other hJ => ?_, fun token hToken => ?_⟩
  · rcases hCreating j other text hJ with ⟨rfl, rfl, rfl⟩ | ⟨hij, hOld⟩
    · rw [hOwn]
      exact ⟨hRecords, hSession, hEntry, new, List.mem_cons_self, user, hUser, hNew⟩
    · obtain ⟨hOldRecords, hOldSession, hOldEntry, token, hToken, hOf⟩ := h.pending j text other hOld
      rw [Function.update_of_ne hij]
      exact ⟨hOldRecords, hOldSession, hOldEntry, token, List.mem_cons_of_mem _ hToken, hOf⟩
  · rcases hCreating j other text hJ with ⟨rfl, -, rfl⟩ | ⟨hij, hOld⟩ <;>
      rcases hCreating k _ text' hK with ⟨rfl, -, hSame⟩ | ⟨hik, hOld'⟩
    · rfl
    · exact absurd rfl (hOther k _ text' hOld')
    · exact absurd hSame (hOther j _ text hOld)
    · exact h.unshared j k text text' other hOld hOld'
  · have hFound : (books j).found = some other :=
      (update_field Bookkeeping.found (by rfl) j).symm.trans hJ
    obtain ⟨⟨token, hToken, hJti⟩, hNobody⟩ := h.found j other hFound
    refine ⟨⟨token, List.mem_cons_of_mem _ hToken, hJti⟩, fun k text hK => ?_⟩
    rcases hCreating k other text hK with ⟨-, -, rfl⟩ | ⟨-, hOld⟩
    · exact hUnused token hToken hJti
    · exact hNobody k text hOld
  · exact h.deleting j other ((update_field Bookkeeping.deleting (by rfl) j).symm.trans hJ)
  · rcases List.mem_cons.mp hToken with rfl | hOld
    · refine ⟨user, jti, hNew, .creating i ?_⟩
      rw [hOwn, ← hUser]
    · obtain ⟨other, otherJti, hOf, hBooked⟩ := h.tokens token hOld
      have hMoved : TokenBooked (Function.update books i after) store other otherJti := by
        refine hBooked.update (fun hJ => ?_) id
        rw [hIdle] at hJ
        cases hJ
      exact ⟨other, otherJti, hOf, hMoved.of_same rfl rfl⟩

/-- Storing the record of the token one has signed. -/
theorem Recorded.create (h : Recorded books store) (hConsistent : Consistent store)
    {session : Session} (hFree : store.sessions.get? session.jti = none)
    (hPending : (books i).creating = some (session.userId.toString, session.jti)) :
    Recorded (Function.update books i { books i with creating := none })
      { store with sessions := store.sessions.insert session hFree } := by
  obtain ⟨-, -, hEntry, token, hToken, id, hId, hOf⟩ := h.pending i _ _ hPending
  obtain rfl : session.userId = id := ObjectId.toString_injective hId
  have hCreating : ∀ j other text,
      (Function.update books i { books i with creating := none } j).creating = some (text, other) →
        j ≠ i ∧ (books j).creating = some (text, other) := by
    intro j other text hJ
    by_cases hij : j = i
    · subst hij
      rw [Function.update_self] at hJ
      cases hJ
    · rw [Function.update_of_ne hij] at hJ
      exact ⟨hij, hJ⟩
  have hStill : ∀ other, other ≠ session.jti →
      (store.sessions.insert session hFree).get? other = store.sessions.get? other := by
    intro other hOther
    rw [store.sessions.get?_insert, if_neg hOther]
  refine ⟨fun j text other hJ => ?_, fun j k text text' other hJ hK => ?_, fun j other hJ => ?_,
    fun j other hJ => ?_, fun found hFound => ?_⟩
  · obtain ⟨hij, hOld⟩ := hCreating j other text hJ
    obtain ⟨hRecords, hSession, hNone, hSigned⟩ := h.pending j text other hOld
    have hOther : other ≠ session.jti := by
      rintro rfl
      exact hij (h.unshared j i _ _ _ hOld hPending)
    rw [Function.update_of_ne hij]
    exact ⟨hRecords, (hStill other hOther).trans hSession, hNone, hSigned⟩
  · exact h.unshared j k text text' other (hCreating j other text hJ).2 (hCreating k other text' hK).2
  · obtain ⟨hSigned, hNobody⟩ := h.found j other
      ((update_field Bookkeeping.found (by rfl) j).symm.trans hJ)
    exact ⟨hSigned, fun k text hK => hNobody k text (hCreating k other text hK).2⟩
  · exact h.deleting j other ((update_field Bookkeeping.deleting (by rfl) j).symm.trans hJ)
  · obtain ⟨user, jti, hFoundOf, hBooked⟩ := h.tokens found hFound
    refine ⟨user, jti, hFoundOf, ?_⟩
    by_cases hSame : jti = session.jti
    · subst hSame
      obtain rfl := hConsistent.distinct found hFound token hToken _ hFoundOf.jti hOf.jti
      have hUser : session.userId = user :=
        ObjectId.toString_injective (Option.some.inj (hOf.userId.symm.trans hFoundOf.userId))
      refine .recorded session ?_ hUser hEntry
      rw [store.sessions.get?_insert, if_pos rfl]
    · cases hBooked with
      | creating j hJ =>
          refine .creating j ?_
          have hij : j ≠ i := by
            rintro rfl
            rw [hPending] at hJ
            exact hSame (congrArg Prod.snd (Option.some.inj hJ)).symm
          rwa [Function.update_of_ne hij]
      | recorded old hOld hUser hNone =>
          exact .recorded old ((hStill jti hSame).trans hOld) hUser hNone
      | revoked hSome hGone =>
          refine .revoked hSome (hGone.imp (hStill jti hSame).trans ?_)
          rintro ⟨j, hJ⟩
          exact ⟨j, (update_field Bookkeeping.deleting (by rfl) j).trans hJ⟩

/-- Finding a record. -/
theorem Recorded.find (h : Recorded books store) (hConsistent : Consistent store)
    {session : Session} (hFound : store.sessions.get? jti = some session) :
    Recorded (Function.update books i { books i with found := some jti }) store := by
  have hCreating : ∀ j, (Function.update books i { books i with found := some jti } j).creating =
      (books j).creating := update_field Bookkeeping.creating (by rfl)
  have hDeleting : ∀ j, (Function.update books i { books i with found := some jti } j).deleting =
      (books j).deleting := update_field Bookkeeping.deleting (by rfl)
  refine ⟨fun j text other hJ => ?_, fun j k text text' other hJ hK => ?_, fun j other hJ => ?_,
    fun j other hJ => ?_, fun token hToken => ?_⟩
  · rw [hCreating] at hJ
    rw [update_field Bookkeeping.records (by rfl)]
    exact h.pending j text other hJ
  · rw [hCreating] at hJ hK
    exact h.unshared j k text text' other hJ hK
  · by_cases hij : j = i
    · subst hij
      rw [Function.update_self] at hJ
      obtain rfl := Option.some.inj hJ
      obtain ⟨hMem, hJti⟩ := store.sessions.get?_eq_some_iff.mp hFound
      refine ⟨hJti ▸ hConsistent.stored session hMem, fun k text hK => ?_⟩
      rw [hCreating] at hK
      have hNone := (h.pending k text jti hK).2.session
      rw [hFound] at hNone
      cases hNone
    · rw [Function.update_of_ne hij] at hJ
      obtain ⟨hSigned, hNobody⟩ := h.found j other hJ
      exact ⟨hSigned, fun k text hK => hNobody k text (hCreating k ▸ hK)⟩
  · rw [hDeleting] at hJ
    exact h.deleting j other hJ
  · obtain ⟨user, other, hOf, hBooked⟩ := h.tokens token hToken
    exact ⟨user, other, hOf, hBooked.update id id⟩

/-- Deleting the record of a token one has blocklisted. -/
theorem Recorded.delete (h : Recorded books store) (hDeleting : (books i).deleting = some jti) :
    Recorded (Function.update books i { books i with deleting := none })
      { store with sessions := store.sessions.filter fun session => session.jti ≠ jti } := by
  have hCreating : ∀ j, (Function.update books i { books i with deleting := none } j).creating =
      (books j).creating := update_field Bookkeeping.creating (by rfl)
  have hOwn : ∀ other, (store.sessions.filter fun session => session.jti ≠ jti).get? other =
      if other = jti then none else store.sessions.get? other := by
    intro other
    rw [store.sessions.get?_filter]
    cases hOther : store.sessions.get? other with
    | none => simp
    | some session =>
        have hJti := store.sessions.key_of_get? hOther
        by_cases hSame : other = jti
        · subst hSame
          simp [hJti]
        · simp [hSame, hJti]
  refine ⟨fun j text other hJ => ?_, fun j k text text' other hJ hK => ?_, fun j other hJ => ?_,
    fun j other hJ => ?_, fun token hToken => ?_⟩
  · rw [hCreating] at hJ
    obtain ⟨hRecords, hSession, hNone, hSigned⟩ := h.pending j text other hJ
    rw [update_field Bookkeeping.records (by rfl)]
    refine ⟨hRecords, (hOwn other).trans ?_, hNone, hSigned⟩
    rw [hSession, ite_self]
  · rw [hCreating] at hJ hK
    exact h.unshared j k text text' other hJ hK
  · obtain ⟨hSigned, hNobody⟩ := h.found j other
      ((update_field Bookkeeping.found (by rfl) j).symm.trans hJ)
    exact ⟨hSigned, fun k text hK => hNobody k text (hCreating k ▸ hK)⟩
  · by_cases hij : j = i
    · subst hij
      rw [Function.update_self] at hJ
      cases hJ
    · rw [Function.update_of_ne hij] at hJ
      exact h.deleting j other hJ
  · obtain ⟨user, other, hOf, hBooked⟩ := h.tokens token hToken
    refine ⟨user, other, hOf, ?_⟩
    cases hBooked with
    | creating j hJ => exact .creating j ((hCreating j).trans hJ)
    | recorded session hSession hUser hNone =>
        have hOther : other ≠ jti := by
          rintro rfl
          have hSome := h.deleting i other hDeleting
          rw [hNone] at hSome
          cases hSome
        refine .recorded session ((hOwn other).trans ?_) hUser hNone
        rw [if_neg hOther, hSession]
    | revoked hSome hGone =>
        refine .revoked hSome ?_
        by_cases hOther : other = jti
        · exact .inl ((hOwn other).trans (if_pos hOther))
        · refine hGone.imp (fun hNone => (hOwn other).trans ?_) ?_
          · rw [if_neg hOther, hNone]
          · rintro ⟨j, hJ⟩
            have hij : j ≠ i := by
              rintro rfl
              exact hOther (Option.some.inj (hJ.symm.trans hDeleting))
            exact ⟨j, by rwa [Function.update_of_ne hij]⟩

/-- Blocklisting the token of a record one has found. -/
theorem Recorded.revoke (h : Recorded books store) (hConsistent : Consistent store)
    (hFound : (books i).found = some jti) (hIdle : (books i).deleting = none) (gone : Nat) :
    Recorded (Function.update books i { books i with deleting := some jti })
      { store with redis := (blocklistKeyOf jti, gone) :: store.redis } := by
  have hCreating : ∀ j, (Function.update books i { books i with deleting := some jti } j).creating =
      (books j).creating := update_field Bookkeeping.creating (by rfl)
  obtain ⟨⟨token, hToken, hJti⟩, hNobody⟩ := h.found i jti hFound
  have hDrawn := (hConsistent.drawn token hToken jti hJti).1
  have hEntry : (({ store with redis := (blocklistKeyOf jti, gone) :: store.redis } :
      IdentityStore).entry jti).isSome := by
    simp [IdentityStore.entry]
  have hKey : ∀ found ∈ store.signed, ∀ other, found.claims.jti = some other → other ≠ jti →
      blocklistKeyOf other ≠ blocklistKeyOf jti := by
    intro found hSigned other hOther hNe hSame
    exact hNe (blocklistKeyOf_inj (hConsistent.drawn found hSigned other hOther).1 hDrawn hSame)
  refine ⟨fun j text other hJ => ?_, fun j k text text' other hJ hK => ?_, fun j other hJ => ?_,
    fun j other hJ => ?_, fun found hSigned => ?_⟩
  · rw [hCreating] at hJ
    obtain ⟨hRecords, hSession, hNone, found, hSigned, id, hId, hOf⟩ := h.pending j text other hJ
    have hNe : other ≠ jti := by
      rintro rfl
      exact hNobody j text hJ
    rw [update_field Bookkeeping.records (by rfl)]
    refine ⟨hRecords, hSession, ?_, found, hSigned, id, hId, hOf⟩
    rw [entry_of_ne (hKey found hSigned other hOf.jti hNe), hNone]
  · rw [hCreating] at hJ hK
    exact h.unshared j k text text' other hJ hK
  · obtain ⟨hOld, hNone⟩ := h.found j other ((update_field Bookkeeping.found (by rfl) j).symm.trans hJ)
    exact ⟨hOld, fun k text hK => hNone k text (hCreating k ▸ hK)⟩
  · by_cases hij : j = i
    · subst hij
      rw [Function.update_self] at hJ
      obtain rfl := Option.some.inj hJ
      exact hEntry
    · rw [Function.update_of_ne hij] at hJ
      exact entry_isSome_cons gone (h.deleting j other hJ)
  · obtain ⟨user, other, hOf, hBooked⟩ := h.tokens found hSigned
    refine ⟨user, other, hOf, ?_⟩
    by_cases hSame : other = jti
    · subst hSame
      exact .revoked hEntry (.inr ⟨i, by rw [Function.update_self]⟩)
    · cases hBooked with
      | creating j hJ => exact .creating j ((hCreating j).trans hJ)
      | recorded session hSession hUser hNone =>
          refine .recorded session hSession hUser ?_
          rw [entry_of_ne (hKey found hSigned other hOf.jti hSame), hNone]
      | revoked hSome hGone =>
          refine .revoked (entry_isSome_cons gone hSome) (hGone.imp id ?_)
          rintro ⟨j, hJ⟩
          have hij : j ≠ i := by
            rintro rfl
            rw [hIdle] at hJ
            cases hJ
          exact ⟨j, by rwa [Function.update_of_ne hij]⟩

/-- Calls that have nothing to do with tokens. -/
theorem Recorded.frame {call : IdentityCall} {decision : IdentityDecision} (h : Recorded books store)
    (hOff : call.offTheBooks = true) (hKept : call.writesTokenRecords = false) :
    Recorded (Function.update books i
        (keepsRecords.next (books i) call (executeIdentity decision store call).2))
      (executeIdentity decision store call).1 := by
  have hRecords : (executeIdentity decision store call).1.tokenRecords = store.tokenRecords :=
    tokenRecords_executeIdentity hKept
  simp only [IdentityStore.tokenRecords, Prod.mk.injEq] at hRecords
  obtain ⟨hSigned, -, hSessions, hRedis⟩ := hRecords
  rw [(keepsRecords_frame hOff).2, Function.update_eq_self]
  exact h.of_same hSigned hSessions hRedis

/-- Writing to the blocklist under either excuse. -/
theorem Recorded.block (h : Recorded books store) (hConsistent : Consistent store)
    {ttlSeconds : Nat} (hBooks : keepsRecords.allows (books i) (.redisSet key ttlSeconds))
    (hExcuse : (books i).revokes = true ∨ store.holds key = true) (gone : Nat) :
    Recorded (Function.update books i (keepsRecords.next (books i) (.redisSet key ttlSeconds)
        (.ok ())))
      { store with redis := (key, gone) :: store.redis } := by
  obtain ⟨hIdle, hRevokes⟩ := hBooks
  cases hKind : (books i).revokes with
  | true =>
      obtain ⟨jti, hFound, rfl⟩ := hRevokes hKind
      have hNext : keepsRecords.next (books i) (.redisSet (blocklistKeyOf jti) ttlSeconds)
          (.ok ()) = { books i with deleting := some jti } := by
        simp [keepsRecords, hKind, hFound]
      rw [hNext]
      exact h.revoke hConsistent hFound hIdle gone
  | false =>
      have hHeld : store.holds key = true := by
        refine hExcuse.resolve_left ?_
        rw [hKind]
        exact Bool.false_ne_true
      have hNext : keepsRecords.next (books i) (.redisSet key ttlSeconds) (.ok ()) = books i := by
        simp only [keepsRecords, hKind, Bool.false_eq_true, if_false]
        rw [← hKind, ← hIdle]
      rw [hNext, Function.update_eq_self]
      exact h.prolong hHeld gone

/-- Every call that both protocols allow keeps the books, if the token it signs
is recorded and the one it blocklists has been found or is on the blocklist. -/
theorem Recorded.execute {states : ι → Learned} {call : IdentityCall}
    {decision : IdentityDecision} (h : Recorded books store) (hTrust : Trustworthy states store)
    (hAllows : handlesIdentifiers.allows (states i) call)
    (hBooks : keepsRecords.allows (books i) call)
    (hSign : ∀ claims expiresIn, call = .signToken claims expiresIn → (books i).records = true)
    (hBlock : ∀ key ttlSeconds, call = .redisSet key ttlSeconds →
      (books i).revokes = true ∨ store.holds key = true) :
    Recorded (Function.update books i
        (keepsRecords.next (books i) call (executeIdentity decision store call).2))
      (executeIdentity decision store call).1 := by
  have hSame : Function.update books i (books i) = books := Function.update_eq_self i books
  cases call with
  | signToken claims expiresIn =>
      obtain ⟨hIdle, user, payload, jti, hUser, rfl, rfl⟩ := hBooks
      obtain ⟨hDrawn, -, hUnused⟩ := (hTrust.truthful i).fresh jti (hAllows jti rfl).1
      exact h.sign hTrust.consistent hUser hDrawn hUnused hIdle (hSign _ _ rfl)
  | sessionCreate userId jti ip userAgent =>
      obtain ⟨-, hFree, -, token, -, id, rfl, -⟩ := h.pending i userId jti hBooks
      simp only [executeIdentity, castingId, ObjectId.cast?_toString, hFree, dif_pos]
      let session : Session := ⟨id, jti, ip, userAgent⟩
      have hFree : store.sessions.get? session.jti = none := hFree
      exact h.create hTrust.consistent hFree hBooks
  | sessionDelete jti => exact h.delete hBooks
  | sessionFindByJti jti =>
      cases hFound : store.sessions.get? jti with
      | none =>
          simp only [executeIdentity, hFound]
          exact hSame.symm ▸ h
      | some session =>
          simp only [executeIdentity, hFound]
          exact h.find hTrust.consistent hFound
  | redisSet key ttlSeconds => exact h.block hTrust.consistent hBooks (hBlock _ _ rfl) _
  | randomUUID =>
      simp only [executeIdentity]
      split <;> exact hSame.symm ▸ h.of_same rfl rfl rfl
  | _ => exact h.frame rfl rfl

end Steps

/-- Where nobody has anything left to do, the records are those of the tokens
that still work, unless a token expired without having been blocklisted. -/
theorem Recorded.listsLiveTokens (h : Recorded books store) (hConsistent : Consistent store)
    (hCreated : ∀ i, (books i).creating = none) (hDeleted : ∀ i, (books i).deleting = none)
    (hExpired : store.ExpireRevoked) (user : ObjectId) : store.ListsLiveTokens user := by
  have hBooked : ∀ token ∈ store.signed, ∀ user jti, SessionOf token user jti →
      (∃ session, store.sessions.get? jti = some session ∧ session.userId = user ∧
        store.entry jti = none) ∨
      ((store.entry jti).isSome ∧ store.sessions.get? jti = none) := by
    intro token hToken user jti hOf
    obtain ⟨user', jti', hOf', hBooked⟩ := h.tokens token hToken
    obtain rfl : jti' = jti := Option.some.inj (hOf'.jti.symm.trans hOf.jti)
    obtain rfl : user' = user :=
      ObjectId.toString_injective (Option.some.inj (hOf'.userId.symm.trans hOf.userId))
    cases hBooked with
    | creating i hCreating =>
        rw [hCreated] at hCreating
        cases hCreating
    | recorded session hSession hUser hEntry => exact .inl ⟨session, hSession, hUser, hEntry⟩
    | revoked hEntry hGone =>
        refine .inr ⟨hEntry, hGone.resolve_right ?_⟩
        rintro ⟨i, hDeleting⟩
        rw [hDeleted] at hDeleting
        cases hDeleting
  intro jti
  constructor
  · rintro ⟨session, hListed, rfl⟩
    obtain ⟨hSession, rfl⟩ := store.mem_listSessions.mp hListed
    obtain ⟨token, hToken, hJti⟩ :=
      hConsistent.stored session (store.sessions.get?_eq_some_iff.mp hSession).1
    obtain ⟨user, jti, hOf, -⟩ := h.tokens token hToken
    obtain rfl : jti = session.jti := Option.some.inj (hOf.jti.symm.trans hJti)
    rcases hBooked token hToken user session.jti hOf with ⟨found, hFound, rfl, hEntry⟩ | ⟨-, hNone⟩
    · obtain rfl := Option.some.inj (hSession.symm.trans hFound)
      refine ⟨token, hToken, hOf, (hExpired token hToken _ hJti).resolve_right ?_, ?_⟩
      · simp [hEntry]
      · refine Bool.eq_false_iff.mpr fun hHolds => ?_
        obtain ⟨gone, hGone, -⟩ := store.holds_iff.mp hHolds
        rw [hEntry] at hGone
        cases hGone
    · rw [hSession] at hNone
      cases hNone
  · rintro ⟨token, hToken, hOf, hTime, hFree⟩
    rcases hBooked token hToken user jti hOf with ⟨session, hSession, hUser, -⟩ | ⟨hEntry, -⟩
    · exact ⟨session, store.mem_listSessions.mpr
        ⟨(store.sessions.key_of_get? hSession).symm ▸ hSession, hUser⟩,
        store.sessions.key_of_get? hSession⟩
    · -- The entry of a token outlasts it.
      obtain ⟨gone, hGone⟩ := Option.isSome_iff_exists.mp hEntry
      have hExp := hConsistent.exp_le_of_entry hToken hOf.jti hGone
      have hHolds := store.holds_iff.mpr ⟨gone, hGone, hTime.trans_le hExp⟩
      rw [hFree] at hHolds
      cases hHolds

variable {operations : ι → SessionOperation}

/-- No token has been issued, recorded or blocklisted. -/
structure IdentityStore.Unused (store : IdentityStore) : Prop where
  signed : store.signed = []
  sessions : store.sessions = .empty
  redis : store.redis = []

theorem Recorded.initial (hUnused : store.Unused) :
    Recorded (fun i => (operations i).bookkeeping) store where
  pending := by simp [SessionOperation.bookkeeping]
  unshared := by simp [SessionOperation.bookkeeping]
  found := by simp [SessionOperation.bookkeeping]
  deleting := by simp [SessionOperation.bookkeeping]
  tokens := by simp [hUnused.signed]

theorem Trustworthy.unused (hUnused : store.Unused) :
    Trustworthy (fun i => (operations i).initial) store where
  consistent := by
    constructor <;> simp [hUnused.signed, hUnused.sessions, hUnused.redis, Collection.empty]
  truthful i := by
    constructor <;> cases operations i <;> simp [SessionOperation.initial]
  unshared i j jti h := by
    cases hOperation : operations i <;> simp [SessionOperation.initial, hOperation] at h

section Runs

variable [DecidableEq ι]

/-- A session token is signed by an operation that records it, and blocklisted
by one that deletes its record, or again. -/
def recordsEveryToken (operations : ι → SessionOperation) : Guard reliableIdentity ι :=
  fun _ store i call =>
    (match call with
      | .signToken _ _ => (operations i).records
      | .redisSet key _ => (operations i).revokes || store.holds key
      | _ => true) = true

instance (operations : ι → SessionOperation) (history : List (IdentityEvent ι))
    (store : IdentityStore) (i : ι) (call : IdentityCall) :
    Decidable (recordsEveryToken operations history store i call) :=
  inferInstanceAs (Decidable (_ = true))

/-- What the operations have learned. -/
abbrev learnedAfter (operations : ι → SessionOperation) (history : List (IdentityEvent ι)) :
    ι → Learned :=
  handlesIdentifiers.after (fun i => (operations i).initial) history

/-- What the operations still have to do. -/
abbrev booksAfter (operations : ι → SessionOperation) (history : List (IdentityEvent ι)) :
    ι → Bookkeeping :=
  keepsRecords.after (fun i => (operations i).bookkeeping) history

/-- The books name the operation's kind. -/
theorem kind_after (history : List (IdentityEvent ι)) (i : ι) :
    (booksAfter operations history i).records = (operations i).records ∧
      (booksAfter operations history i).revokes = (operations i).revokes := by
  induction history with
  | nil => exact ⟨rfl, rfl⟩
  | cons event earlier ih =>
      by_cases hi : i = event.thread
      · subst hi
        rw [booksAfter, Protocol.after_cons_self]
        exact ⟨(keepsRecords_next_kind _).1.trans ih.1, (keepsRecords_next_kind _).2.trans ih.2⟩
      · rw [booksAfter, Protocol.after_cons_of_ne _ _ _ hi]
        exact ih

variable [Bcrypt]

/-- The operations about to start over one store. -/
def sessionPool (store : IdentityStore) (operations : ι → SessionOperation) :
    Pool reliableIdentity ι Unit :=
  ⟨store, fun i => (operations i).program⟩

/-- Whatever the interleaving, whenever all operations rest the records of a user
are those of the live tokens. -/
theorem listsLiveTokens_of_recordsEveryToken {point : Point reliableIdentity ι Unit}
    (hUnused : store.Unused)
    (run : GuardedRun (recordsEveryToken operations) (sessionPool store operations) point)
    (hRest : AtRest point) (hExpired : point.2.store.ExpireRevoked) (user : ObjectId) :
    point.2.store.ListsLiveTokens user := by
  have hStart : ∀ i, ((sessionPool store operations).thread i).Follows
      (handlesIdentifiers.both keepsRecords) (fun state _ => True ∧ state.2.Settled)
      ((operations i).initial, (operations i).bookkeeping) :=
    fun i => (operations i).program_careful.both (operations i).program_books
  have hInv : Trustworthy (learnedAfter operations point.1) point.2.store ∧
      Recorded (booksAfter operations point.1) point.2.store := by
    refine GuardedRun.invariant (handlesIdentifiers.both keepsRecords)
      (fun i => ((operations i).initial, (operations i).bookkeeping)) run hStart
      (fun history store => Trustworthy (learnedAfter operations history) store ∧
        Recorded (booksAfter operations history) store)
      ⟨.unused hUnused, .initial hUnused⟩ ?_
    rintro history store decision i call ⟨hTrust, hRecorded⟩ hAllows hGuard
    rw [Protocol.after_both] at hAllows
    refine ⟨hTrust.perform hAllows.1, ?_⟩
    have hPerform := reliableIdentity_perform decision store call
    dsimp only [booksAfter, Protocol.after]
    rw [hPerform]
    refine (hRecorded.execute hTrust hAllows.1 hAllows.2 ?_ ?_).elapse decision.elapsed
    · rintro claims expiresIn rfl
      exact (kind_after history i).1.trans hGuard
    · rintro key ttlSeconds rfl
      rw [(kind_after history i).2]
      exact Bool.or_eq_true_iff.mp hGuard
  obtain ⟨hTrust, hRecorded⟩ := hInv
  have hSettled : ∀ i, (booksAfter operations point.1 i).Settled := by
    intro i
    have hEnded := GuardedRun.ended_of_atRest keepsRecords (fun i => (operations i).bookkeeping)
      run (fun i => (operations i).program_books) hRest i
    rcases hEnded with hInitial | ⟨-, hSettled⟩
    · rw [booksAfter, hInitial]
      exact ⟨fun _ => rfl, rfl⟩
    · exact hSettled
  refine hRecorded.listsLiveTokens hTrust.consistent (fun i => ?_) (fun i => (hSettled i).deleted)
    hExpired user
  cases hCreating : (booksAfter operations point.1 i).creating with
  | none => rfl
  | some pending =>
      have hRecords := (hRecorded.pending i pending.1 pending.2 hCreating).1
      rw [(hSettled i).created hRecords] at hCreating
      cases hCreating

end Runs

section Samples

def sampleJti : String := "00000000-0000-4000-8000-000000000001"

/-- Someone signs up and takes the session back again. -/
def signupThenRevoke : Bool → SessionOperation
  | true => .signup ⟨"ada@example.com", "Ada", "secret", none⟩ ⟨none, none⟩
  | false => .revokeSession (ObjectId.repeated 0).toString sampleJti

def signupThenRevokeSchedule : List (IdentityDecision × Bool) :=
  List.replicate 6 ({ uuid := sampleJti }, true) ++ List.replicate 3 ({ uuid := "" }, false)

theorem listsLiveTokens_of_recordsEveryToken_sample :
    ∃ point : Point reliableIdentity Bool Unit,
      GuardedRun (recordsEveryToken signupThenRevoke)
        (@sessionPool Bool saltBcrypt {} signupThenRevoke) point ∧
      point.1.length = 9 ∧ ∀ user, point.2.store.ListsLiveTokens user := by
  obtain ⟨point, run, hTest⟩ := Pool.exists_run (recordsEveryToken signupThenRevoke)
    (@sessionPool Bool saltBcrypt {} signupThenRevoke)
    (fun point => point.1.length = 9 && (point.2.thread true).settled?.isSome &&
      (point.2.thread false).settled?.isSome &&
      point.2.store.signed.all fun token => point.2.store.clock < token.exp)
    signupThenRevokeSchedule (by decide +kernel)
  simp only [Bool.and_eq_true, decide_eq_true_eq, List.all_eq_true] at hTest
  obtain ⟨⟨⟨hLength, hSignup⟩, hRevoke⟩, hTime⟩ := hTest
  refine ⟨point, run, hLength, fun user => ?_⟩
  refine @listsLiveTokens_of_recordsEveryToken _ {} _ _ saltBcrypt point ⟨rfl, rfl, rfl⟩ run ?_
    (fun token hToken _ _ => .inl (hTime token hToken)) user
  rintro (_ | _)
  · exact .inl hRevoke
  · exact .inl hSignup

def sampleRegistration : Unit → SessionOperation :=
  fun _ => .registerCompany
    ⟨"Navin", "Logistics", "NG", "1-10", "Ada", "ada@example.com", "secret"⟩

/-- The token of the admin who registers the company. -/
def registeredToken : Token where
  claims := sessionClaims
    { userId := (ObjectId.repeated 0).toString, role := .admin
      persona := derivePersona .admin (some .enterprise)
      organizationId := some (ObjectId.repeated 0).toString, organizationType := some .enterprise }
    sampleJti
  iat := 0
  exp := tokenTtlSeconds

/-- The token of a registration is listed nowhere. -/
theorem registered_token_is_not_listed :
    ¬∀ (store : IdentityStore) (operations : Unit → SessionOperation)
      (point : Point reliableIdentity Unit Unit), store.Unused →
      GuardedRun anyStep (@sessionPool Unit saltBcrypt store operations) point → AtRest point →
      ∀ user, point.2.store.ListsLiveTokens user := by
  intro hLists
  obtain ⟨point, run, hTest⟩ := Pool.exists_run anyStep
    (@sessionPool Unit saltBcrypt {} sampleRegistration)
    (fun point => (point.2.thread ()).settled?.isSome && point.2.store.sessions.docs.isEmpty &&
      decide (registeredToken ∈ point.2.store.signed) && point.2.store.clock < tokenTtlSeconds &&
      !point.2.store.holds (blocklistKeyOf sampleJti))
    (List.replicate 6 ({ uuid := sampleJti }, ())) (by decide +kernel)
  simp only [Bool.and_eq_true, decide_eq_true_eq, Bool.not_eq_true', List.isEmpty_iff] at hTest
  obtain ⟨⟨⟨⟨hSettled, hEmpty⟩, hSigned⟩, hTime⟩, hFree⟩ := hTest
  have hOf : SessionOf registeredToken (.repeated 0) sampleJti :=
    ⟨⟨_, _, by decide +kernel, rfl, rfl⟩, rfl, rfl⟩
  have hListed := hLists {} sampleRegistration point ⟨rfl, rfl, rfl⟩ run
    (fun _ => .inl hSettled) (.repeated 0) sampleJti
  obtain ⟨session, hSession, -⟩ := hListed.mpr ⟨registeredToken, hSigned, hOf, hTime, hFree⟩
  simp [IdentityStore.listSessions, hEmpty] at hSession

end Samples

end Navin
