import Navin.Identity.Interface
import Navin.Shared.Uuid

/-! The blocklist of token identifiers. A key is written with a lifetime and
nothing ever deletes it. -/
namespace Navin

open Async

def blocklistPrefix : String := "blocklist:uuid:"

/-- The Redis key of an identifier, once it is known to be a UUID. -/
def blocklistKeyOf (jti : String) : String :=
  blocklistPrefix ++ jti.toLower

def isValidJti (jti : String) : Bool :=
  isUuidV4 jti

def blocklistKey (jti : String) : Except ThrownError String :=
  if isValidJti jti then .ok (blocklistKeyOf jti)
  else .error (appError 400 "Invalid token identifier: expected UUID v4"
    "ERR_AUTH_INVALID_TOKEN_IDENTIFIER")

def blockToken (jti : String) (ttlSeconds : Int) : IdentityM Unit := do
  if ttlSeconds ≤ 0 then
    return
  else
    match blocklistKey jti with
    | .error error => throw error
    | .ok key => ask (.redisSet key ttlSeconds.toNat)

def isTokenBlocked (jti : String) : IdentityM Bool := do
  if isValidJti jti then
    let result ← ask (.redisGet (blocklistKeyOf jti))
    return result.isSome
  else
    return false

theorem toLower_of_isDrawnUuid {jti : String} (h : isDrawnUuid jti = true) : jti.toLower = jti := by
  simp only [isDrawnUuid, Bool.and_eq_true, beq_iff_eq] at h
  exact h.2

theorem isValidJti_of_isDrawnUuid {jti : String} (h : isDrawnUuid jti = true) :
    isValidJti jti = true := by
  simp only [isDrawnUuid, Bool.and_eq_true] at h
  exact h.1

/-- A drawn identifier is not empty, so it counts as present. -/
theorem truthy_of_isDrawnUuid {jti : String} (h : isDrawnUuid jti = true) :
    truthy (some jti) = some jti := by
  refine truthy_of_ne ?_
  rintro rfl
  exact absurd h (by decide)

/-- Drawn identifiers have keys of their own. -/
theorem blocklistKeyOf_inj {first second : String} (hFirst : isDrawnUuid first = true)
    (hSecond : isDrawnUuid second = true) (h : blocklistKeyOf first = blocklistKeyOf second) :
    first = second := by
  unfold blocklistKeyOf at h
  rw [toLower_of_isDrawnUuid hFirst, toLower_of_isDrawnUuid hSecond] at h
  have hLists := congrArg String.toList h
  rw [String.toList_append, String.toList_append] at hLists
  exact String.toList_inj.mp (List.append_cancel_left hLists)

end Navin
