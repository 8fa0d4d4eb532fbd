import Navin.Identity.Routes

/-! The four kinds of tokens the server signs with one key. -/
namespace Navin

open Async

inductive TokenKind where
  | session
  | passwordReset
  | userInvitation
  | companyInvitation
deriving DecidableEq

/-- The `type` claim of a kind; a session has none. -/
def TokenKind.claimed : TokenKind → Option TokenType
  | .session => none
  | .passwordReset => some .passwordReset
  | .userInvitation => some .userInvitation
  | .companyInvitation => some .companyInvitation

theorem TokenKind.claimed_injective : Function.Injective TokenKind.claimed := by
  intro first second h
  cases first <;> cases second <;> first | rfl | cases h

/-- What each issuer signs: `generateToken`, `forgotPassword`,
`generateInvitationLink` and `generateInvitationToken`. -/
def IssuedBy (token : Token) : TokenKind → Prop
  | .session => ∃ payload jti, isDrawnUuid jti = true ∧ token.claims = sessionClaims payload jti ∧
      token.exp = token.iat + tokenTtlSeconds
  | .passwordReset => ∃ (user : ObjectId) (jti : String), isDrawnUuid jti = true ∧
      token.claims = resetClaims user.toString jti ∧ token.exp = token.iat + resetTokenTtlSeconds
  | .userInvitation => ∃ email role organizationId invitedBy,
      token.claims = Users.invitationClaims email role organizationId invitedBy ∧
      token.exp = token.iat + Users.inviteExpirySeconds
  | .companyInvitation => ∃ payload, token.claims = Invitations.invitationClaims payload ∧
      token.exp = token.iat + Invitations.inviteExpirySeconds

variable {token : Token} {kind : TokenKind}

theorem IssuedBy.type_eq (h : IssuedBy token kind) : token.claims.type = kind.claimed := by
  cases kind with
  | session =>
      obtain ⟨payload, jti, -, hClaims, -⟩ := h
      rw [hClaims]
      rfl
  | passwordReset =>
      obtain ⟨user, jti, -, hClaims, -⟩ := h
      rw [hClaims]
      rfl
  | userInvitation =>
      obtain ⟨email, role, organizationId, invitedBy, hClaims, -⟩ := h
      rw [hClaims]
      rfl
  | companyInvitation =>
      obtain ⟨payload, hClaims, -⟩ := h
      rw [hClaims]
      rfl

/-- Only sessions and resets have an identifier, and it was drawn. -/
theorem IssuedBy.isDrawnUuid_of_jti (h : IssuedBy token kind) {jti : String}
    (hJti : token.claims.jti = some jti) : isDrawnUuid jti = true := by
  cases kind with
  | session =>
      obtain ⟨payload, drawn, hDrawn, hClaims, -⟩ := h
      rw [hClaims] at hJti
      exact Option.some.inj hJti ▸ hDrawn
  | passwordReset =>
      obtain ⟨user, drawn, hDrawn, hClaims, -⟩ := h
      rw [hClaims] at hJti
      exact Option.some.inj hJti ▸ hDrawn
  | userInvitation =>
      obtain ⟨email, role, organizationId, invitedBy, hClaims, -⟩ := h
      rw [hClaims] at hJti
      cases hJti
  | companyInvitation =>
      obtain ⟨payload, hClaims, -⟩ := h
      rw [hClaims] at hJti
      cases hJti

end Navin
