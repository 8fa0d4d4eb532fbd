import Navin.Auth.Revocation

/-! Session records. Signup and login store one for each token they issue, and a
revocation blocklists the token and deletes the record. -/
namespace Navin

open Async

/-- `SessionModel.find({ userId }).sort({ createdAt: -1 })`. -/
def IdentityStore.listSessions (store : IdentityStore) (userId : ObjectId) : List Session :=
  (store.sessions.docs.filter fun session => session.userId = userId).reverse

/-- The operations that issue and take back session tokens. -/
inductive SessionOperation where
  | signup (input : SignupInput) (ctx : RequestContext)
  | login (input : LoginInput) (ctx : RequestContext)
  | registerCompany (input : RegisterCompanyInput)
  | refreshToken (token : Token)
  | logout (token : Token)
  | revokeSession (requestingUserId jti : String)

namespace SessionOperation

def program [Bcrypt] : SessionOperation → IdentityM Unit
  | .signup input ctx => do
      let _ ← Navin.signup input ctx
  | .login input ctx => do
      let _ ← Navin.login input ctx
  | .registerCompany input => do
      let _ ← Navin.registerCompany input
  | .refreshToken token => do
      let _ ← Navin.refreshToken token
  | .logout token => Navin.logout token
  | .revokeSession requestingUserId jti => Navin.revokeSession requestingUserId jti

/-- Whether the operation stores a record of the token it issues. -/
def records : SessionOperation → Bool
  | .signup _ _ | .login _ _ => true
  | _ => false

def revokes : SessionOperation → Bool
  | .revokeSession _ _ => true
  | _ => false

end SessionOperation

/-- What an operation still has to do for the token it has signed, by its user and
identifier, or for the one it has blocklisted. -/
structure Bookkeeping where
  records : Bool
  revokes : Bool
  creating : Option (String × String) := none
  found : Option String := none
  deleting : Option String := none

def keepsRecords : Protocol IdentityCall IdentityCall.Answer ThrownError Bookkeeping where
  allows books
    | .signToken claims expiresIn => books.creating = none ∧ ∃ (user : ObjectId) (payload :
        SessionPayload) (jti : String), payload.userId = user.toString ∧
          claims = sessionClaims payload jti ∧ expiresIn = tokenTtlSeconds
    | .sessionCreate userId jti _ _ => books.creating = some (userId, jti)
    | .sessionDelete jti => books.deleting = some jti
    | .redisSet key _ => books.deleting = none ∧ (books.revokes = true →
        ∃ jti, books.found = some jti ∧ key = blocklistKeyOf jti)
    | _ => True
  next books call response :=
    match call, response with
    | .signToken claims _, .ok _ =>
        { books with creating := some (claims.userId.getD "", claims.jti.getD "") }
    | .sessionCreate _ _ _ _, _ => { books with creating := none }
    | .sessionFindByJti jti, .ok (some _) => { books with found := some jti }
    | .redisSet _ _, .ok _ =>
        { books with deleting := if books.revokes then books.found else none }
    | .sessionDelete _, _ => { books with deleting := none }
    | _, _ => books

/-- What a settled operation has done for its token. -/
structure Bookkeeping.Settled (books : Bookkeeping) : Prop where
  created : books.records = true → books.creating = none
  deleted : books.deleting = none

/-- Calls that leave the books alone. -/
def IdentityCall.offTheBooks : IdentityCall → Bool
  | .signToken _ _ | .sessionCreate _ _ _ _ | .sessionFindByJti _ | .sessionDelete _
  | .redisSet _ _ => false
  | _ => true

variable {books : Bookkeeping} {call : IdentityCall}

theorem keepsRecords_frame (h : call.offTheBooks = true) :
    keepsRecords.allows books call ∧
      ∀ response, keepsRecords.next books call response = books := by
  constructor
  · cases call <;> trivial
  · intro response
    cases call <;> first | (cases response <;> rfl) | cases h

/-- An operation's kind never changes. -/
theorem keepsRecords_next_kind (response : Except ThrownError call.Answer) :
    (keepsRecords.next books call response).records = books.records ∧
      (keepsRecords.next books call response).revokes = books.revokes := by
  cases call <;> rcases response with error | answer <;>
    first | exact ⟨rfl, rfl⟩ | (cases answer <;> exact ⟨rfl, rfl⟩)

section Steady

/-- Programs that leave the books alone. -/
abbrev Steady {α : Type} (p : IdentityM α) : Prop :=
  p.Uses fun call => call.offTheBooks = true

theorem Steady.follows {α : Type} {p : IdentityM α} (h : Steady p) :
    p.Follows keepsRecords (fun after _ => after = books) books :=
  Program.Uses.follows h fun _ hCall => keepsRecords_frame hCall

theorem steady_organizationTypeOf (user : User) : Steady (organizationTypeOf user) := by
  unfold organizationTypeOf
  split
  · exact .pure
  · exact .bind (.await rfl) fun _ => .pure

theorem steady_findPayloadUser (payload : Token) : Steady (findPayloadUser payload) := by
  unfold findPayloadUser
  split
  · exact .pure
  · exact .await rfl

theorem steady_jwtVerify (token : Token) (ignoreExpiration : Bool) :
    Steady (jwtVerify token ignoreExpiration) :=
  .bind (.await rfl) fun _ => .pure

theorem steady_isTokenBlocked (jti : String) : Steady (isTokenBlocked jti) := by
  unfold isTokenBlocked
  split
  · exact .bind (.await rfl) fun _ => .pure
  · exact .pure

theorem steady_remainingTtl (payload : Token) (fallback : Nat) :
    Steady (remainingTtl payload fallback) := by
  unfold remainingTtl
  split
  · exact .pure
  · exact .bind (.await rfl) fun _ => .pure

theorem steady_hashPassword [Bcrypt] (password : String) : Steady (hashPassword password) :=
  .bind (.await rfl) fun _ => .pure

end Steady

/-- Go on after a program that leaves the books alone. -/
theorem Steady.then {α β : Type} {p : IdentityM α} {f : α → IdentityM β}
    {Q : Bookkeeping → Except ThrownError β → Prop} (h : Steady p)
    (hError : ∀ error, Q books (.error error)) (hOk : ∀ a, (f a).Follows keepsRecords Q books) :
    (p >>= f).Follows keepsRecords Q books :=
  h.follows.bind (fun _ a hSame => hSame ▸ hOk a) fun _ error hSame => hSame ▸ hError error

/-- Nothing has been signed or blocklisted yet. -/
structure Bookkeeping.Clear (books : Bookkeeping) : Prop where
  creating : books.creating = none
  deleting : books.deleting = none

theorem Bookkeeping.Clear.settled (h : books.Clear) : books.Settled :=
  ⟨fun _ => h.creating, h.deleting⟩

/-- A generated token is the one that has to be recorded. -/
theorem generateToken_books {payload : SessionPayload} {user : ObjectId} (hClear : books.Clear)
    (hUser : payload.userId = user.toString) :
    (generateToken payload).Follows keepsRecords (fun after outcome =>
      match outcome with
      | .ok (_, jti) => after = { books with creating := some (payload.userId, jti) }
      | .error _ => after = books) books := by
  refine Steady.then (.await rfl) (fun _ => rfl) fun jti => ?_
  refine Program.follows_bind.mpr (Program.follows_await.mpr ⟨⟨hClear.creating, user, payload, jti,
    hUser, rfl, rfl⟩, fun response => ?_⟩)
  cases response <;> rfl

theorem openSession_books {user : User} {ctx : RequestContext} (hClear : books.Clear) :
    (openSession user ctx).Follows keepsRecords (fun after _ => after.Settled) books := by
  refine Steady.then (steady_organizationTypeOf user) (fun _ => hClear.settled) fun type => ?_
  refine (generateToken_books hClear rfl).bind (fun after result hResult => ?_)
    fun after error hSame => ?_
  · obtain ⟨token, jti⟩ := result
    obtain rfl : after = { books with creating := some (user.id.toString, jti) } := hResult
    refine Program.Follows.bind (Q := fun after _ => after.Settled) ?_ (fun _ _ h => h)
      fun _ _ h => h
    refine Program.follows_tryCatch.mpr (Program.follows_await.mpr ⟨rfl, fun response => ?_⟩)
    cases response <;> exact ⟨fun _ => rfl, hClear.deleting⟩
  · obtain rfl : after = books := hSame
    exact hClear.settled

/-- Blocklisting by an operation that keeps no record, whatever becomes of it. -/
theorem blockToken_books {jti : String} {ttlSeconds : Int} (hClear : books.Clear)
    (hRevokes : books.revokes = false) :
    (blockToken jti ttlSeconds).Follows keepsRecords (fun after _ => after = books) books := by
  unfold blockToken blocklistKey
  split
  · rfl
  · split
    · rfl
    · refine Program.follows_await.mpr ⟨⟨hClear.deleting, fun h => ?_⟩, fun response => ?_⟩
      · rw [hRevokes] at h
        cases h
      · cases response with
        | error error => rfl
        | ok answer =>
            obtain ⟨records, revokes, creating, found, deleting⟩ := books
            obtain rfl : revokes = false := hRevokes
            obtain rfl : deleting = none := hClear.deleting
            rfl

theorem exchangeToken_books {payload : Token} {jti : String} {now : Nat} {user : User}
    (hClear : books.Clear) (hRecords : books.records = false) (hRevokes : books.revokes = false) :
    (exchangeToken payload jti now user).Follows keepsRecords (fun after _ => after.Settled)
      books := by
  refine Steady.then (steady_organizationTypeOf user) (fun _ => hClear.settled) fun type => ?_
  refine (blockToken_books hClear hRevokes).bind (fun after _ hSame => ?_) fun after _ hSame => ?_
  · obtain rfl : after = books := hSame
    refine (generateToken_books hClear rfl).bind (fun last result hResult => ?_)
      fun last error hSame => ?_
    · obtain ⟨token, jti⟩ := result
      obtain rfl : last = { after with creating := some (user.id.toString, jti) } := hResult
      refine ⟨fun h => ?_, hClear.deleting⟩
      rw [hRecords] at h
      cases h
    · obtain rfl : last = after := hSame
      exact hClear.settled
  · obtain rfl : after = books := hSame
    exact hClear.settled

theorem refreshToken_books {token : Token} (hClear : books.Clear)
    (hRecords : books.records = false) (hRevokes : books.revokes = false) :
    (refreshToken token).Follows keepsRecords (fun after _ => after.Settled) books := by
  have hSettled := hClear.settled
  refine Steady.then (.tryCatch (steady_jwtVerify _ _) fun _ => .throw) (fun _ => hSettled)
    fun payload => ?_
  split
  · refine Steady.then (steady_isTokenBlocked _) (fun _ => hSettled) fun blocked => ?_
    split
    · exact hSettled
    · refine Steady.then (.await rfl) (fun _ => hSettled) fun now => ?_
      split
      · exact hSettled
      · refine Steady.then (steady_findPayloadUser _) (fun _ => hSettled) fun found => ?_
        split
        · exact hSettled
        · exact exchangeToken_books hClear hRecords hRevokes
  · exact hSettled

theorem logout_books {token : Token} (hClear : books.Clear) (hRevokes : books.revokes = false) :
    (logout token).Follows keepsRecords (fun after _ => after.Settled) books := by
  have hSettled := hClear.settled
  refine Steady.then (.tryCatch ?_ fun _ => .pure) (fun _ => hSettled) fun found => ?_
  · rw [map_eq_pure_bind]
    exact .bind (steady_jwtVerify _ _) fun _ => .pure
  · cases found with
    | none => exact hSettled
    | some payload =>
        refine Steady.then (steady_remainingTtl _ _) (fun _ => hSettled) fun ttl => ?_
        split
        · exact hSettled
        · exact (blockToken_books hClear hRevokes).mono fun _ _ hSame => hSame ▸ hSettled

/-- A revocation finds the record, blocklists its token and deletes it. -/
theorem revokeSession_books {requestingUserId jti : String} (hClear : books.Clear)
    (hRevokes : books.revokes = true) :
    (revokeSession requestingUserId jti).Follows keepsRecords (fun after _ => after.Settled)
      books := by
  refine Program.follows_bind.mpr (Program.follows_await.mpr ⟨trivial, fun response => ?_⟩)
  cases response with
  | error error => exact hClear.settled
  | ok found =>
      cases found with
      | none => exact hClear.settled
      | some session =>
          rw [Program.then_ok]
          have hFound : ({ books with found := some jti } : Bookkeeping).Clear :=
            ⟨hClear.creating, hClear.deleting⟩
          dsimp only
          split
          · exact hFound.settled
          · unfold blockToken blocklistKey
            split
            · rename_i hTtl
              exact absurd hTtl (by decide)
            · split
              · exact hFound.settled
              · rename_i key hKey
                split at hKey
                · cases hKey
                  refine Program.follows_bind.mpr (Program.follows_await.mpr
                    ⟨⟨hClear.deleting, fun _ => ⟨jti, rfl, rfl⟩⟩, fun response => ?_⟩)
                  cases response with
                  | error error => exact hFound.settled
                  | ok answer =>
                      refine Program.follows_await.mpr ⟨?_, fun response => ?_⟩
                      · simp [keepsRecords, hRevokes]
                      · exact ⟨fun _ => hClear.creating, rfl⟩
                · cases hKey

section Operations

variable [Bcrypt]

theorem signup_books {input : SignupInput} {ctx : RequestContext} (hClear : books.Clear) :
    (signup input ctx).Follows keepsRecords (fun after _ => after.Settled) books := by
  have hSettled := hClear.settled
  refine Steady.then (.await rfl) (fun _ => hSettled) fun existing => ?_
  cases existing with
  | some user => exact hSettled
  | none =>
      refine Steady.then (steady_hashPassword _) (fun _ => hSettled) fun hashedPassword => ?_
      exact Steady.then (.await rfl) (fun _ => hSettled) fun user => openSession_books hClear

theorem login_books {input : LoginInput} {ctx : RequestContext} (hClear : books.Clear) :
    (login input ctx).Follows keepsRecords (fun after _ => after.Settled) books := by
  have hSettled := hClear.settled
  refine Steady.then (.await rfl) (fun _ => hSettled) fun found => ?_
  cases found with
  | none => exact hSettled
  | some user =>
      dsimp only
      split
      · exact openSession_books hClear
      · exact hSettled

theorem registerCompany_books {input : RegisterCompanyInput} (hClear : books.Clear)
    (hRecords : books.records = false) :
    (registerCompany input).Follows keepsRecords (fun after _ => after.Settled) books := by
  have hSettled := hClear.settled
  refine Steady.then (.await rfl) (fun _ => hSettled) fun existing => ?_
  cases existing with
  | some user => exact hSettled
  | none =>
      refine Steady.then (.await rfl) (fun _ => hSettled) fun existingOrg => ?_
      cases existingOrg with
      | some organization => exact hSettled
      | none =>
          refine Steady.then (steady_hashPassword _) (fun _ => hSettled) fun hashedPassword => ?_
          refine Steady.then (.await rfl) (fun _ => hSettled) fun user => ?_
          refine (generateToken_books hClear rfl).bind (fun after result hResult => ?_)
            fun after error hSame => ?_
          · obtain ⟨token, jti⟩ := result
            obtain rfl : after = { books with creating := some (user.id.toString, jti) } := hResult
            refine ⟨fun h => ?_, hClear.deleting⟩
            rw [hRecords] at h
            cases h
          · obtain rfl : after = books := hSame
            exact hSettled

def SessionOperation.bookkeeping (operation : SessionOperation) : Bookkeeping where
  records := operation.records
  revokes := operation.revokes

theorem SessionOperation.program_books (operation : SessionOperation) :
    operation.program.Follows keepsRecords (fun after _ => after.Settled) operation.bookkeeping := by
  have hClear : operation.bookkeeping.Clear := ⟨rfl, rfl⟩
  cases operation with
  | signup input ctx => exact (signup_books hClear).bind (fun _ _ h => h) fun _ _ h => h
  | login input ctx => exact (login_books hClear).bind (fun _ _ h => h) fun _ _ h => h
  | registerCompany input =>
      exact (registerCompany_books hClear rfl).bind (fun _ _ h => h) fun _ _ h => h
  | refreshToken token =>
      exact (refreshToken_books hClear rfl rfl).bind (fun _ _ h => h) fun _ _ h => h
  | logout token => exact logout_books hClear rfl
  | revokeSession requestingUserId jti => exact revokeSession_books hClear rfl

/-- What an operation has learned at its start. -/
def SessionOperation.initial : SessionOperation → Learned
  | .refreshToken token => { presented := some token, refreshing := true }
  | _ => { presented := none, refreshing := false }

/-- The operations handle identifiers as they should. -/
theorem SessionOperation.program_careful (operation : SessionOperation) :
    operation.program.Follows handlesIdentifiers (fun _ _ => True) operation.initial := by
  have hT := careful_compositional []
  have hCreate (fields : UserFields) : Careful [] _ (ask (.userCreate fields)) :=
    careful_ask fun _ _ => trivial
  cases operation with
  | signup input ctx =>
      exact (hT.bind (signup_holds hT careful_ordinary (fun fields _ => hCreate fields)
        fun user => careful_openSession user ctx) (fun _ => hT.pure _) _
          (knows_nil rfl)).mono fun _ _ _ => trivial
  | login input ctx =>
      exact (hT.bind (login_holds hT careful_ordinary fun user => careful_openSession user ctx)
        (fun _ => hT.pure _) _ (knows_nil rfl)).mono fun _ _ _ => trivial
  | registerCompany input =>
      exact (hT.bind (registerCompany_holds hT careful_ordinary
        (fun _ _ _ _ => careful_ask fun _ _ => trivial) careful_generateToken)
        (fun _ => hT.pure _) _ (knows_nil rfl)).mono fun _ _ _ => trivial
  | refreshToken token =>
      exact (refreshToken_careful rfl).bind (fun _ _ _ => trivial) fun _ _ _ => trivial
  | logout token => exact (careful_logout token _ (knows_nil rfl)).mono fun _ _ _ => trivial
  | revokeSession requestingUserId jti =>
      exact (careful_revokeSession requestingUserId jti _ (knows_nil rfl)).mono
        fun _ _ _ => trivial

end Operations

end Navin
