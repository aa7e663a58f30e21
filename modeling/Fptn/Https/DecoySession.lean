import Fptn.Lib.BigEndian

/-!
# Keys in session ids

A client marks its ClientHello by a key in the 32 bytes of the session id:
the first four bytes of the SHA-1 hash of the time.  The key's place in the
id says what kind of handshake it is.  The server accepts the key of any
second up to five away from its own clock.

The hash function and the random bytes of the TLS library are parameters; a
hash of four bytes or fewer stands for an exception.
-/

namespace Fptn.Https.DecoySession

open Fptn.BigEndian

def kSessionLen : Nat := 32

def kFptnKeyLength : Nat := 4

def kDecoyHandshakeSessionIDShift : Nat := 10

def kDecoyHandshakeSessionIDShift2 : Nat := 14

def kTimeShiftSeconds : UInt32 := 10

section Keys

variable (sha1 : List UInt8 → List UInt8)

def getSHA1Hash (number : List UInt8) : List UInt8 := sha1 number

/-- The key of a second; `none` is an exception. -/
def generateFptnKey (timestamp : UInt32) : Option (List UInt8) :=
  let result := getSHA1Hash sha1 (bytesOf 4 timestamp.toNat)
  if kFptnKeyLength < result.length then
    some (result.take kFptnKeyLength)
  else
    none

/-- The loop over the seconds `timestamp - shift` for the next `count`
shifts. -/
def matchesKey (recvKey : List UInt8) (timestamp : UInt32) :
    Nat → UInt32 → Option Bool
  | 0, _ => some false
  | count + 1, shift =>
      match generateFptnKey sha1 (timestamp - shift) with
      | none => none
      | some key =>
          if recvKey = key then
            some true
          else
            matchesKey recvKey timestamp count (shift + 1)

/-- There is a valid key at a place of the session id. -/
def hasKeyAt (place : Nat) (session : List UInt8) (now : UInt32) :
    Option Bool :=
  matchesKey sha1 ((session.drop place).take kFptnKeyLength)
    (now + kTimeShiftSeconds / 2) (kTimeShiftSeconds.toNat + 1) 0

def isDecoyHandshakeSessionID (session : List UInt8) (now : UInt32) :
    Option Bool :=
  hasKeyAt sha1 kDecoyHandshakeSessionIDShift session now

def isDecoyHandshakeSessionID2 (session : List UInt8) (now : UInt32) :
    Option Bool :=
  hasKeyAt sha1 kDecoyHandshakeSessionIDShift2 session now

def isFptnClientSessionID (session : List UInt8) (now : UInt32) :
    Option Bool :=
  hasKeyAt sha1 (session.length - kFptnKeyLength) session now

/-! ## Generation -/

/-- `std::memcpy` of a key into a session id. -/
def withKey (place : Nat) (key session : List UInt8) : List UInt8 :=
  session.take place ++ key ++ session.drop (place + key.length)

/-- Random bytes with the key of a second; the inner `none` means that there
were no random bytes, the outer one is an exception. -/
def randomWithKey (place : Nat) (random : Option (List UInt8))
    (timestamp : UInt32) : Option (Option (List UInt8)) :=
  match random with
  | none => some none
  | some session =>
      match generateFptnKey sha1 timestamp with
      | none => none
      | some key => some (some (withKey place key session))

/-- The session id which is set, if any. -/
def setDecoyHandshakeSessionID (random : Option (List UInt8))
    (timestamp : UInt32) : Option (Option (List UInt8)) :=
  randomWithKey sha1 kDecoyHandshakeSessionIDShift random timestamp

def generateDecoyTlsSessionId2 (random : Option (List UInt8))
    (timestamp : UInt32) : Option (Option (List UInt8)) :=
  randomWithKey sha1 kDecoyHandshakeSessionIDShift2 random timestamp

theorem randomWithKey_eq_some {place : Nat} {random : Option (List UInt8)}
    {timestamp : UInt32} {sessionId : List UInt8}
    (drawn : randomWithKey sha1 place random timestamp =
      some (some sessionId)) :
    ∃ session key, random = some session ∧
      generateFptnKey sha1 timestamp = some key ∧
      sessionId = withKey place key session := by
  unfold randomWithKey at drawn
  split at drawn
  · cases drawn
  · split at drawn
    · cases drawn
    case h_2 session _ key made =>
      exact
        ⟨session, key, rfl, made,
          (Option.some.inj (Option.some.inj drawn)).symm⟩

/-! ## Finding a key again -/

/-- The clocks are at most five seconds apart. -/
def CloseClocks (now timestamp : UInt32) : Prop :=
  now + kTimeShiftSeconds / 2 - timestamp ≤ kTimeShiftSeconds

instance (now timestamp : UInt32) : Decidable (CloseClocks now timestamp) :=
  inferInstanceAs (Decidable (_ ≤ _))

/-- A key which fits in leaves the length as it is. -/
theorem withKey_length {place : Nat} {key session : List UInt8}
    (inside : place + key.length ≤ session.length) :
    (withKey place key session).length = session.length := by
  simp only [withKey, List.length_append, List.length_take,
    List.length_drop]
  omega

variable {sha1}

section LongHashes

variable (long : ∀ number, kFptnKeyLength < (sha1 number).length)

include long

theorem generateFptnKey_eq (timestamp : UInt32) :
    generateFptnKey sha1 timestamp =
      some ((sha1 (bytesOf 4 timestamp.toNat)).take kFptnKeyLength) :=
  if_pos (long _)

theorem matchesKey_returns (recvKey : List UInt8) (timestamp : UInt32)
    (count : Nat) (shift : UInt32) :
    ∃ found, matchesKey sha1 recvKey timestamp count shift =
      some found := by
  induction count generalizing shift with
  | zero => exact ⟨false, rfl⟩
  | succ count ih =>
      rw [matchesKey, generateFptnKey_eq long]
      simp only
      split
      · exact ⟨true, rfl⟩
      · exact ih (shift + 1)

/-- The loop finds the key of each second which it tries. -/
theorem matchesKey_finds {recvKey : List UInt8} {timestamp made : UInt32}
    (key : generateFptnKey sha1 made = some recvKey) :
    ∀ (steps count : Nat) (shift : UInt32),
      timestamp - (shift + UInt32.ofNat steps) = made → steps < count →
        matchesKey sha1 recvKey timestamp count shift = some true := by
  intro steps count shift
  induction count generalizing steps shift with
  | zero => intro _ inside; omega
  | succ count ih =>
      intro reached inside
      rw [matchesKey, generateFptnKey_eq long]
      simp only
      split
      case isTrue same => rfl
      case isFalse other =>
        cases steps with
        | zero =>
            change timestamp - (shift + 0) = made at reached
            rw [UInt32.add_zero] at reached
            rw [reached, ← Option.some.injEq, ← generateFptnKey_eq long,
              key] at other
            exact absurd rfl other
        | succ steps =>
            refine ih steps (shift + 1) ?_ (by omega)
            rw [← reached, UInt32.ofNat_add, UInt32.add_assoc,
              UInt32.add_comm 1]
            rfl

theorem hasKeyAt_returns (place : Nat) (session : List UInt8)
    (now : UInt32) :
    ∃ found, hasKeyAt sha1 place session now = some found :=
  matchesKey_returns long _ _ _ _

theorem generateFptnKey_length {timestamp : UInt32} {key : List UInt8}
    (made : generateFptnKey sha1 timestamp = some key) :
    key.length = kFptnKeyLength := by
  rw [generateFptnKey_eq long, Option.some.injEq] at made
  have enough := long (bytesOf 4 timestamp.toNat)
  rw [← made, List.length_take]
  omega

theorem hasKeyAt_withKey {place : Nat} {key session : List UInt8}
    {now timestamp : UInt32}
    (made : generateFptnKey sha1 timestamp = some key)
    (inside : place ≤ session.length)
    (clocks : CloseClocks now timestamp) :
    hasKeyAt sha1 place (withKey place key session) now = some true := by
  have there :
      ((withKey place key session).drop place).take kFptnKeyLength =
        key := by
    rw [withKey, List.append_assoc,
      List.drop_left' (List.length_take_of_le inside),
      List.take_left' (generateFptnKey_length long made)]
  rw [hasKeyAt, there]
  refine matchesKey_finds long made
    (now + kTimeShiftSeconds / 2 - timestamp).toNat _ 0 ?_ ?_
  · rw [UInt32.ofNat_toNat]
    grind
  · exact Nat.lt_succ_of_le (UInt32.le_iff_toNat_le.mp clocks)

end LongHashes

end Keys

/-! ## After the decoy -/

def makeClientChangeCipherSpec : List UInt8 :=
  [0x14, 0x03, 0x03, 0x00, 0x01, 0x01]

end Fptn.Https.DecoySession
