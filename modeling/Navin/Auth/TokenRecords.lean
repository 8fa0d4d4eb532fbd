import Mathlib.Data.List.Basic
import Navin.Auth.Revocation

/-! What the records of signed, stored and blocklisted identifiers say of each
other, over the runs of requests that handle identifiers as they should. -/
namespace Navin

open Async

/-- Every key on the blocklist is that of a signed token, and its entry lasts as
long as the token. Identifiers were drawn, and no two tokens share one. -/
structure Consistent (store : IdentityStore) : Prop where
  drawn : ∀ token ∈ store.signed, ∀ jti, token.claims.jti = some jti →
    isDrawnUuid jti = true ∧ jti ∈ store.drawn
  distinct : ∀ first ∈ store.signed, ∀ second ∈ store.signed, ∀ jti,
    first.claims.jti = some jti → second.claims.jti = some jti → first = second
  window : ∀ token ∈ store.signed, ∀ jti, token.claims.jti = some jti →
    token.exp ≤ store.clock + tokenTtlSeconds
  stored : ∀ session ∈ store.sessions.docs, ∃ token ∈ store.signed,
    token.claims.jti = some session.jti
  entries : ∀ entry ∈ store.redis, ∃ token ∈ store.signed, ∃ jti,
    token.claims.jti = some jti ∧ entry.1 = blocklistKeyOf jti ∧ token.exp ≤ entry.2

/-- What a request has learned is true. -/
structure Truthful (store : IdentityStore) (learned : Learned) : Prop where
  known : ∀ token ∈ learned.known, token ∈ store.signed
  sessions : ∀ jti ∈ learned.sessions, ∃ token ∈ store.signed, token.claims.jti = some jti
  issued : ∀ jti ∈ learned.issued, ∃ token ∈ store.signed, token.claims.jti = some jti
  reading : ∀ now, learned.reading = some now → now ≤ store.clock
  fresh : ∀ jti, learned.fresh = some jti → isDrawnUuid jti = true ∧ jti ∈ store.drawn ∧
    ∀ token ∈ store.signed, token.claims.jti ≠ some jti

variable {ι : Type} {store store' : IdentityStore} {learned : Learned}
  {states : ι → Learned} {i : ι} {call : IdentityCall} {decision : IdentityDecision} {token : Token}

/-- The store is consistent, every request has learned the truth, and nobody
shares a fresh identifier. -/
structure Trustworthy (states : ι → Learned) (store : IdentityStore) : Prop where
  consistent : Consistent store
  truthful : ∀ i, Truthful store (states i)
  unshared : ∀ i j jti, (states i).fresh = some jti → (states j).fresh = some jti → i = j

theorem Consistent.of_records (h : Consistent store)
    (hRecords : store'.tokenRecords = store.tokenRecords) (hClock : store.clock ≤ store'.clock) :
    Consistent store' := by
  simp only [IdentityStore.tokenRecords, Prod.mk.injEq] at hRecords
  obtain ⟨hSigned, hDrawn, hSessions, hRedis⟩ := hRecords
  constructor
  · rw [hSigned, hDrawn]
    exact h.drawn
  · rw [hSigned]
    exact h.distinct
  · rw [hSigned]
    exact fun token hToken jti hJti => (h.window token hToken jti hJti).trans (by omega)
  · rw [hSigned, hSessions]
    exact h.stored
  · rw [hSigned, hRedis]
    exact h.entries

theorem Truthful.of_records (h : Truthful store learned)
    (hSigned : store'.signed = store.signed) (hDrawn : ∀ jti ∈ store.drawn, jti ∈ store'.drawn)
    (hClock : store.clock ≤ store'.clock) : Truthful store' learned := by
  constructor
  · rw [hSigned]
    exact h.known
  · rw [hSigned]
    exact h.sessions
  · rw [hSigned]
    exact h.issued
  · exact fun now hNow => (h.reading now hNow).trans hClock
  · intro jti hJti
    obtain ⟨hUuid, hOld, hUnused⟩ := h.fresh jti hJti
    rw [hSigned]
    exact ⟨hUuid, hDrawn jti hOld, hUnused⟩

theorem Trustworthy.of_records (h : Trustworthy states store)
    (hRecords : store'.tokenRecords = store.tokenRecords) (hClock : store.clock ≤ store'.clock) :
    Trustworthy states store' where
  consistent := h.consistent.of_records hRecords hClock
  truthful j := by
    simp only [IdentityStore.tokenRecords, Prod.mk.injEq] at hRecords
    exact (h.truthful j).of_records hRecords.1 (fun jti hJti => hRecords.2.1 ▸ hJti) hClock
  unshared := h.unshared

/-- Drawing an identifier, before its drawer learns which. -/
theorem Trustworthy.draw (h : Trustworthy states store) (jti : String) :
    Trustworthy states { store with drawn := jti :: store.drawn } where
  consistent := ⟨fun token hToken other hOther =>
      (h.consistent.drawn token hToken other hOther).imp id (List.mem_cons_of_mem _),
    h.consistent.distinct, h.consistent.window, h.consistent.stored, h.consistent.entries⟩
  truthful j := (h.truthful j).of_records rfl (fun _ => List.mem_cons_of_mem _) le_rfl
  unshared := h.unshared

/-- Storing or deleting the session of a signed token. -/
theorem Trustworthy.withSessions (h : Trustworthy states store)
    {sessions : Collection Session.jti} (hSessions : ∀ session ∈ sessions.docs,
      ∃ token ∈ store.signed, token.claims.jti = some session.jti) :
    Trustworthy states { store with sessions } where
  consistent := ⟨h.consistent.drawn, h.consistent.distinct, h.consistent.window, hSessions,
    h.consistent.entries⟩
  truthful j := (h.truthful j).of_records rfl (fun _ => id) le_rfl
  unshared := h.unshared

/-- Writing an entry that the discipline allows. -/
theorem Trustworthy.block (h : Trustworthy states store) {key : String} {ttlSeconds : Nat}
    (hAllows : handlesIdentifiers.allows (states i) (.redisSet key ttlSeconds)) :
    Trustworthy states { store with redis := (key, store.clock + ttlSeconds) :: store.redis } where
  consistent := by
    refine ⟨h.consistent.drawn, h.consistent.distinct, h.consistent.window, h.consistent.stored,
      fun entry hEntry => ?_⟩
    rcases List.mem_cons.mp hEntry with rfl | hOld
    · rcases hAllows with ⟨token, hKnown, jti, hJti, hKey, hOutlasts⟩ | ⟨jti, hFound, hKey, hTtl⟩
      · have hSigned := (h.truthful i).known token hKnown
        refine ⟨token, hSigned, jti, hJti, hKey, ?_⟩
        rcases hOutlasts with hTtl | hRest
        · exact (h.consistent.window token hSigned jti hJti).trans (Nat.add_le_add_left hTtl _)
        · have hReading : (states i).reading.getD 0 ≤ store.clock := by
            cases hNow : (states i).reading with
            | none => exact Nat.zero_le _
            | some now => exact (h.truthful i).reading now hNow
          exact hRest.trans (Nat.add_le_add_right hReading _)
      · obtain ⟨token, hSigned, hJti⟩ := (h.truthful i).sessions jti hFound
        exact ⟨token, hSigned, jti, hJti, hKey,
          (h.consistent.window token hSigned jti hJti).trans (Nat.add_le_add_left hTtl _)⟩
    · exact h.consistent.entries entry hOld
  truthful j := (h.truthful j).of_records rfl (fun _ => id) le_rfl
  unshared := h.unshared

/-- The effect of an allowed call, before its answer arrives. Signing has no such
moment. -/
theorem Trustworthy.execute (h : Trustworthy states store)
    (hAllows : handlesIdentifiers.allows (states i) call)
    (hCall : ∀ claims expiresIn, call ≠ .signToken claims expiresIn) :
    Trustworthy states (executeIdentity decision store call).1 := by
  by_cases hWrites : call.writesTokenRecords = true
  · cases call with
    | randomUUID =>
        simp only [executeIdentity]
        split
        · exact h.draw _
        · exact h
    | sessionCreate userId jti ip userAgent =>
        simp only [executeIdentity, castingId]
        split
        · exact h
        · split
          · rename_i hFree
            refine h.withSessions fun session hSession => ?_
            rcases (store.sessions.mem_insert (h := hFree)).mp hSession with hOld | rfl
            · exact h.consistent.stored session hOld
            · exact (h.truthful i).issued jti hAllows
          · exact h
    | sessionDelete jti =>
        exact h.withSessions fun session hSession =>
          h.consistent.stored session (List.mem_filter.mp hSession).1
    | redisSet key ttlSeconds => exact h.block hAllows
    | signToken claims expiresIn => exact absurd rfl (hCall claims expiresIn)
    | _ => contradiction
  · exact h.of_records (tokenRecords_executeIdentity (eq_false_of_ne_true hWrites))
      clock_executeIdentity.ge

theorem Trustworthy.elapse (h : Trustworthy states store) (seconds : Nat) :
    Trustworthy states (store.elapse seconds) :=
  h.of_records rfl (Nat.le_add_right _ _)

variable [DecidableEq ι]

/-- A request that learns something true, and draws nothing. -/
theorem Trustworthy.learn (h : Trustworthy states store) (hTruth : Truthful store learned)
    (hFresh : learned.fresh = none ∨ learned.fresh = (states i).fresh) :
    Trustworthy (Function.update states i learned) store where
  consistent := h.consistent
  truthful j := by
    by_cases hij : j = i
    · subst hij
      rwa [Function.update_self]
    · rw [Function.update_of_ne hij]
      exact h.truthful j
  unshared j k jti hj hk := by
    have hOld (l : ι) (hl : (Function.update states i learned l).fresh = some jti) :
        (states l).fresh = some jti := by
      by_cases hil : l = i
      · subst hil
        rw [Function.update_self] at hl
        rcases hFresh with hNone | hSame
        · rw [hNone] at hl
          cases hl
        · rwa [← hSame]
      · rwa [Function.update_of_ne hil] at hl
    exact h.unshared j k jti (hOld j hj) (hOld k hk)

/-- The store once a token with the claims has been signed. -/
def IdentityStore.withSigned (store : IdentityStore) (claims : Claims) (expiresIn : Nat) :
    IdentityStore :=
  { store with signed := ⟨claims, store.clock, store.clock + expiresIn⟩ :: store.signed }

omit [DecidableEq ι] in
theorem Consistent.sign (h : Consistent store) {claims : Claims} {expiresIn : Nat}
    (hFresh : ∀ jti, claims.jti = some jti → isDrawnUuid jti = true ∧ jti ∈ store.drawn ∧
      ∀ token ∈ store.signed, token.claims.jti ≠ some jti)
    (hWindow : ∀ jti, claims.jti = some jti → expiresIn ≤ tokenTtlSeconds) :
    Consistent (store.withSigned claims expiresIn) := by
  refine ⟨?_, ?_, ?_, ?_, ?_⟩
  · intro token hToken jti hJti
    rcases List.mem_cons.mp hToken with rfl | hOld
    · obtain ⟨hUuid, hDrawn, -⟩ := hFresh jti hJti
      exact ⟨hUuid, hDrawn⟩
    · exact h.drawn token hOld jti hJti
  · intro first hFirst second hSecond jti hJti hJti'
    rcases List.mem_cons.mp hFirst with rfl | hFirst <;>
      rcases List.mem_cons.mp hSecond with rfl | hSecond
    · rfl
    · exact absurd hJti' ((hFresh jti hJti).2.2 second hSecond)
    · exact absurd hJti ((hFresh jti hJti').2.2 first hFirst)
    · exact h.distinct first hFirst second hSecond jti hJti hJti'
  · intro token hToken jti hJti
    rcases List.mem_cons.mp hToken with rfl | hOld
    · exact Nat.add_le_add_left (hWindow jti hJti) _
    · exact h.window token hOld jti hJti
  · intro session hSession
    obtain ⟨token, hToken, hJti⟩ := h.stored session hSession
    exact ⟨token, List.mem_cons_of_mem _ hToken, hJti⟩
  · intro entry hEntry
    obtain ⟨token, hToken, hRest⟩ := h.entries entry hEntry
    exact ⟨token, List.mem_cons_of_mem _ hToken, hRest⟩

omit [DecidableEq ι] in
/-- What was learned stays true, unless it is that the new identifier is unused. -/
theorem Truthful.sign (h : Truthful store learned) {claims : Claims} {expiresIn : Nat}
    (hFresh : ∀ jti, learned.fresh = some jti → claims.jti ≠ some jti) :
    Truthful (store.withSigned claims expiresIn) learned := by
  refine ⟨fun token hToken => List.mem_cons_of_mem _ (h.known token hToken), ?_, ?_, h.reading,
    fun jti hJti => ?_⟩
  · intro jti hJti
    obtain ⟨token, hToken, hOld⟩ := h.sessions jti hJti
    exact ⟨token, List.mem_cons_of_mem _ hToken, hOld⟩
  · intro jti hJti
    obtain ⟨token, hToken, hOld⟩ := h.issued jti hJti
    exact ⟨token, List.mem_cons_of_mem _ hToken, hOld⟩
  · obtain ⟨hUuid, hDrawn, hUnsigned⟩ := h.fresh jti hJti
    refine ⟨hUuid, hDrawn, fun token hToken => ?_⟩
    rcases List.mem_cons.mp hToken with rfl | hOld
    · exact hFresh jti hJti
    · exact hUnsigned token hOld

/-- Signing the identifier one has drawn, and no other. -/
theorem Trustworthy.sign (h : Trustworthy states store) {claims : Claims} {expiresIn : Nat}
    (hAllows : handlesIdentifiers.allows (states i) (.signToken claims expiresIn)) :
    Trustworthy (Function.update states i { states i with
        fresh := none, issued := claims.jti.toList ++ (states i).issued })
      (store.withSigned claims expiresIn) := by
  refine ⟨h.consistent.sign (fun jti hJti => ?_) fun jti hJti => (hAllows jti hJti).2,
    fun j => ?_, ?_⟩
  · exact (h.truthful i).fresh jti (hAllows jti hJti).1
  · by_cases hij : j = i
    · subst hij
      rw [Function.update_self]
      have hForgets : Truthful store { states j with fresh := none } :=
        ⟨(h.truthful j).known, (h.truthful j).sessions, (h.truthful j).issued,
          (h.truthful j).reading, nofun⟩
      have hOld : Truthful (store.withSigned claims expiresIn) { states j with fresh := none } :=
        hForgets.sign nofun
      refine ⟨hOld.known, hOld.sessions, fun jti hJti => ?_, hOld.reading, nofun⟩
      rcases List.mem_append.mp hJti with hNew | hIssued
      · exact ⟨_, List.mem_cons_self, Option.mem_toList.mp hNew⟩
      · exact hOld.issued jti hIssued
    · rw [Function.update_of_ne hij]
      refine (h.truthful j).sign fun jti hFresh hJti => hij ?_
      exact h.unshared j i jti hFresh (hAllows jti hJti).1
  · intro j k jti hj hk
    have hOld (l : ι) (hl : (Function.update states i { states i with
        fresh := none, issued := claims.jti.toList ++ (states i).issued } l).fresh = some jti) :
        (states l).fresh = some jti := by
      by_cases hil : l = i
      · subst hil
        rw [Function.update_self] at hl
        cases hl
      · rwa [Function.update_of_ne hil] at hl
    exact h.unshared j k jti (hOld j hj) (hOld k hk)

/-- Learning the identifier one has drawn. -/
theorem Trustworthy.drawn (h : Trustworthy states store) {jti : String}
    (hUuid : isDrawnUuid jti = true) (hFresh : jti ∉ store.drawn) :
    Trustworthy (Function.update states i { states i with fresh := some jti })
      { store with drawn := jti :: store.drawn } where
  consistent := (h.draw jti).consistent
  truthful j := by
    by_cases hij : j = i
    · subst hij
      rw [Function.update_self]
      have hOld := (h.draw jti).truthful j
      refine ⟨hOld.known, hOld.sessions, hOld.issued, hOld.reading, ?_⟩
      rintro other ⟨⟩
      refine ⟨hUuid, List.mem_cons_self, fun token hToken hJti => hFresh ?_⟩
      exact (h.consistent.drawn token hToken jti hJti).2
    · rw [Function.update_of_ne hij]
      exact (h.draw jti).truthful j
  unshared j k other hj hk := by
    have hOther (l : ι) (hl : (states l).fresh = some jti) : False :=
      hFresh ((h.truthful l).fresh jti hl).2.1
    by_cases hij : j = i <;> by_cases hik : k = i
    · rw [hij, hik]
    · subst hij
      rw [Function.update_self] at hj
      rw [Function.update_of_ne hik] at hk
      cases hj
      exact (hOther k hk).elim
    · subst hik
      rw [Function.update_self] at hk
      rw [Function.update_of_ne hij] at hj
      cases hk
      exact (hOther j hj).elim
    · rw [Function.update_of_ne hij] at hj
      rw [Function.update_of_ne hik] at hk
      exact h.unshared j k other hj hk

/-- The answer to a call teaches the truth. -/
theorem Trustworthy.answered (h : Trustworthy states store)
    (hAllows : handlesIdentifiers.allows (states i) call) :
    Trustworthy (Function.update states i (handlesIdentifiers.next (states i) call
      (executeIdentity decision store call).2)) (executeIdentity decision store call).1 := by
  have hTruth := h.truthful i
  have hSame : Function.update states i (states i) = states := Function.update_eq_self i states
  cases call with
  | now =>
      refine h.learn ⟨hTruth.known, hTruth.sessions, hTruth.issued, ?_, hTruth.fresh⟩ (.inr rfl)
      rintro now ⟨⟩
      exact le_rfl
  | randomUUID =>
      by_cases hFree : isDrawnUuid decision.uuid = true ∧ decision.uuid ∉ store.drawn
      · simp only [executeIdentity, if_pos hFree]
        exact h.drawn hFree.1 hFree.2
      · simp only [executeIdentity, if_neg hFree]
        exact hSame.symm ▸ h
  | signToken claims expiresIn => exact h.sign hAllows
  | verifyToken token ignoreExpiration =>
      by_cases hValid : token ∈ store.signed ∧ (ignoreExpiration = true ∨ store.clock < token.exp)
      · simp only [executeIdentity, if_pos hValid]
        refine h.learn ⟨fun other hOther => ?_, hTruth.sessions, hTruth.issued, hTruth.reading,
          hTruth.fresh⟩ (.inr rfl)
        rcases List.mem_cons.mp hOther with rfl | hOld
        · exact hValid.1
        · exact hTruth.known other hOld
      · simp only [executeIdentity, if_neg hValid]
        exact hSame.symm ▸ h
  | sessionFindByJti jti =>
      cases hFound : store.sessions.get? jti with
      | none =>
          simp only [executeIdentity, hFound]
          exact hSame.symm ▸ h
      | some session =>
          simp only [executeIdentity, hFound]
          refine h.learn ⟨hTruth.known, fun other hOther => ?_, hTruth.issued, hTruth.reading,
            hTruth.fresh⟩ (.inr rfl)
          obtain ⟨hMem, hJti⟩ := store.sessions.get?_eq_some_iff.mp hFound
          rcases List.mem_cons.mp hOther with rfl | hOld
          · exact hJti ▸ h.consistent.stored session hMem
          · exact hTruth.sessions other hOld
  | redisGet key =>
      refine h.learn ⟨hTruth.known, hTruth.sessions, hTruth.issued, ?_, hTruth.fresh⟩ (.inr rfl)
      rintro _ ⟨⟩
  | _ => exact hSame.symm ▸ h.execute hAllows (by rintro _ _ ⟨⟩)

/-- A failed call teaches nothing. -/
theorem Trustworthy.failed (h : Trustworthy states store) (error : ThrownError) :
    Trustworthy (Function.update states i (handlesIdentifiers.next (states i) call (.error error)))
      store := by
  have hTruth := h.truthful i
  cases call with
  | redisGet key =>
      refine h.learn ⟨hTruth.known, hTruth.sessions, hTruth.issued, ?_, hTruth.fresh⟩ (.inr rfl)
      rintro _ ⟨⟩
  | _ => exact (Function.update_eq_self i states).symm ▸ h

/-- Every allowed call keeps the store consistent and the requests truthful. -/
theorem Trustworthy.perform (h : Trustworthy states store)
    (hAllows : handlesIdentifiers.allows (states i) call) :
    Trustworthy (Function.update states i (handlesIdentifiers.next (states i) call
      (performIdentity decision store call).2)) (performIdentity decision store call).1 := by
  rcases performIdentity_cases decision store call with
    ⟨hStore, -, error, hError⟩ | ⟨hStore, hAnswer | ⟨hFallible, error, hError⟩⟩
  · rw [hStore, hError]
    exact (h.failed error).elapse _
  · rw [hStore, hAnswer]
    exact (h.answered hAllows).elapse _
  · rw [hStore, hError]
    have hCall (claims : Claims) (expiresIn : Nat) : call ≠ .signToken claims expiresIn := by
      rintro rfl
      cases hFallible
    exact ((h.execute hAllows hCall).failed error).elapse _

end Navin
