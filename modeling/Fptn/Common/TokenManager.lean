import Mathlib.Data.UInt
import Mathlib.Tactic.Common

/-!
# Tokens

`TokenManager` makes the tokens by which clients are let in, and checks them.
JSON Web Tokens are those of a library, which is a parameter: how a token is
decoded, the algorithm which is made from the server's key, and what it signs
and verifies.

`Validate` makes a verifier and does not call it.  It accepts every token
which can be decoded and has both claims.
-/

namespace Fptn.Common.TokenManager

/-! ## JSON Web Tokens -/

inductive ClaimValue where
  | string (value : String)
  | integer (value : Int64)
  | other
deriving DecidableEq

/-- A token which has been decoded, with times in seconds. -/
structure DecodedJwt where
  algorithm : String
  issuer : Option String
  expiresAt : Option Int
  payloadClaim : String → Option ClaimValue
  /-- The part of the token which is signed. -/
  data : String
  signature : String

/-- A token which is to be signed. -/
structure Builder where
  issuer : String
  type : String
  id : String
  issuedAt : Int
  expiresAt : Int
  username : String
  bandwidthBit : Int32

/-- The library; `none` is an exception. -/
structure JwtLibrary where
  /-- What an algorithm is made of. -/
  Algorithm : Type
  decode : String → Option DecodedJwt
  /-- `rs256`, from a private key. -/
  rs256 : String → Option Algorithm
  sign : Algorithm → Builder → Option String
  /-- The data has this signature. -/
  verifies : Algorithm → String → String → Bool

/-- What `jwt::verify` makes, apart from its clock. -/
structure Verifier (library : JwtLibrary) where
  allowedAlgorithm : library.Algorithm
  issuer : String

namespace Verifier

variable {library : JwtLibrary}

/-- `verify` of the library, apart from the times before which a token is not
valid: the algorithm is the allowed one, the signature is right, the issuer
is the expected one, and the token has not expired. -/
def verify (verifier : Verifier library) (decoded : DecodedJwt)
    (now : Int) : Bool :=
  decoded.algorithm == "RS256" &&
    library.verifies verifier.allowedAlgorithm decoded.data
      decoded.signature &&
    decoded.issuer == some verifier.issuer &&
    decoded.expiresAt.all fun expiresAt => decide (now ≤ expiresAt)

end Verifier

/-! ## TokenManager -/

section Manager

variable (library : JwtLibrary) (serverKey : String)

/-- Thirty days. -/
def validity : Int := 24 * 30 * 3600

/-- The access token; the second token is empty. -/
def generate (username : String) (bandwidthBit : Int32) (now : Int) :
    Option String := do
  let algorithm ← library.rs256 serverKey
  library.sign algorithm {
    issuer := "auth0"
    type := "JWT"
    id := "fptn"
    issuedAt := now
    expiresAt := now + validity
    username := username
    bandwidthBit := bandwidthBit }

def asString : ClaimValue → Option String
  | .string value => some value
  | _ => none

def asInteger : ClaimValue → Option Int64
  | .integer value => some value
  | _ => none

/-- The verifier which `Validate` makes. -/
def makeVerifier : Option (Verifier library) := do
  let algorithm ← library.rs256 serverKey
  return ⟨algorithm, "auth0"⟩

/-- The user name and the bandwidth of a token which is accepted. -/
def validate (token : String) : Option (String × UInt64) := do
  let decoded ← library.decode token
  let username ← asString (← decoded.payloadClaim "username")
  let bandwidthBit ←
    asInteger (← decoded.payloadClaim "bandwidth_bit")
  -- made, and never asked
  let _verifier ← makeVerifier library serverKey
  return (username, bandwidthBit.toUInt64)

/-! ## What is accepted -/

/-- The token can be decoded and names a user and a bandwidth. -/
def WellFormed (token username : String) : Prop :=
  ∃ decoded bandwidthBit, library.decode token = some decoded ∧
    decoded.payloadClaim "username" = some (.string username) ∧
    decoded.payloadClaim "bandwidth_bit" = some (.integer bandwidthBit)

/-- The token passes the verifier which has been made. -/
def Verified (token : String) (now : Int) : Prop :=
  ∃ decoded verifier, library.decode token = some decoded ∧
    makeVerifier library serverKey = some verifier ∧
    verifier.verify decoded now = true

variable {library serverKey}

theorem validate_iff {token username : String} :
    (∃ bandwidthBit, validate library serverKey token =
        some (username, bandwidthBit)) ↔
      WellFormed library token username ∧
        (makeVerifier library serverKey).isSome = true := by
  constructor
  · rintro ⟨bandwidthBit, accepted⟩
    obtain ⟨decoded, found, rest⟩ := Option.bind_eq_some_iff.mp accepted
    obtain ⟨name, named, rest⟩ := Option.bind_eq_some_iff.mp rest
    obtain ⟨value, isString, rest⟩ := Option.bind_eq_some_iff.mp rest
    obtain ⟨bandwidth, given, rest⟩ := Option.bind_eq_some_iff.mp rest
    obtain ⟨bits, isInteger, rest⟩ := Option.bind_eq_some_iff.mp rest
    obtain ⟨verifier, made, rest⟩ := Option.bind_eq_some_iff.mp rest
    obtain ⟨rfl, -⟩ := Prod.mk.inj (Option.some.inj rest)
    refine ⟨⟨decoded, bits, found, ?_, ?_⟩, by rw [made]; rfl⟩
    · cases name <;> cases isString
      exact named
    · cases bandwidth <;> cases isInteger
      exact given
  · rintro ⟨⟨decoded, bandwidthBit, found, named, given⟩, keyed⟩
    obtain ⟨verifier, made⟩ := Option.isSome_iff_exists.mp keyed
    exact
      ⟨bandwidthBit.toUInt64, by
        simp [validate, found, named, given, made, asString, asInteger]⟩

/-- Verified tokens only are accepted exactly if the others are malformed, or
the key makes no verifier. -/
theorem validate_verified_iff {token : String} {now : Int} :
    (∀ username bandwidthBit,
        validate library serverKey token = some (username, bandwidthBit) →
          Verified library serverKey token now) ↔
      (∀ username, ¬WellFormed library token username) ∨
        makeVerifier library serverKey = none ∨
          Verified library serverKey token now := by
  constructor
  · intro verified
    by_contra other
    push Not at other
    obtain ⟨⟨username, wellFormed⟩, keyed, notVerified⟩ := other
    obtain ⟨bandwidthBit, accepted⟩ :=
      validate_iff.mpr
        ⟨wellFormed, Option.isSome_iff_ne_none.mpr keyed⟩
    exact notVerified (verified username bandwidthBit accepted)
  · rintro condition username bandwidthBit accepted
    obtain ⟨wellFormed, keyed⟩ := validate_iff.mp ⟨_, accepted⟩
    rcases condition with malformed | keyless | verified
    · exact absurd wellFormed (malformed username)
    · rw [keyless] at keyed
      cases keyed
    · exact verified

end Manager

end Fptn.Common.TokenManager
