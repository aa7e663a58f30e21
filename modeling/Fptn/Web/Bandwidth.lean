import Fptn.Common.UserManager
import Fptn.TrafficShaper.LeakyBucket
import Fptn.Web.Authentication

/-!
# The bandwidth of a connection

A bandwidth is added with a user, in megabits, and saved in the file of the
users.  A login gets it in bits, as an `int`; another server may have been
asked for it.  It becomes a claim of the token, and from the token it comes
to the traffic shapers of each connection which is opened.

The product of the bandwidth and the bits of a megabit does not fit an `int`
from 2048 on.  Whatever it becomes, it is none of the numbers which the
shapers should get.
-/

namespace Fptn.Web.Bandwidth

open Fptn.NumberText
open Fptn.Common.TokenManager
open Fptn.Common.UserManager
open Fptn.Common.UserManager.CommonUserManager
open Fptn.TrafficShaper
open Fptn.Web.Authentication (exampleKey)

/-! ## From the login to the shapers -/

/-- The users of a server: here, or on another server which is asked. -/
inductive UserManager where
  | common (manager : CommonUserManager) (file : UserFile)
  | remote (server : UserManager)

section Login

variable (library : JwtLibrary) (serverKey : String)
variable (hashPassword : ByteString → Hash)
-- what becomes of an `int` product which does not fit
variable (overflowed : Int → Int32)
-- `get<int>`, from the text of a number in an answer
variable (getInt : ByteString → Option Int32)

/-- The bandwidth of a login which is accepted.  Another server writes it into
its answer with a format string. -/
def loginAsync (username password : ByteString) :
    UserManager → Option Int32
  | .common manager file =>
      match manager.authenticate hashPassword file username password with
      | (true, manager) =>
          some (manager.getUserBandwidthBit overflowed username)
      | (false, _) => none
  | .remote server => do
      let bandwidthBit ← loginAsync username password server
      getInt (printInt bandwidthBit.toInt)

/-- The characters of a name. -/
def text (username : ByteString) : String :=
  String.ofList (username.map fun byte => Char.ofNat byte.toNat)

/-- The token which `HandleApiLogin` has made. -/
def handleApiLogin (userManager : UserManager)
    (username password : ByteString) (now : Int) : Option String := do
  let bandwidthBit ←
    loginAsync hashPassword overflowed getInt username password userManager
  generate library serverKey (text username) bandwidthBit now

/-- The shapers to and from the client, which `HandleWsOpenConnection` makes
for a token. -/
def shapers (token : String) (now later : Int) :
    Option (LeakyBucket × LeakyBucket) := do
  let (_, bandwidthBitesSeconds) ← validate library serverKey token
  return (LeakyBucket.create bandwidthBitesSeconds now,
    LeakyBucket.create bandwidthBitesSeconds later)

end Login

/-- The library decodes a token as it was signed. -/
def Faithful (library : JwtLibrary) : Prop :=
  ∀ algorithm builder token,
    library.sign algorithm builder = some token →
      ∃ decoded, library.decode token = some decoded ∧
        decoded.payloadClaim "username" =
            some (.string builder.username) ∧
          decoded.payloadClaim "bandwidth_bit" =
            some (.integer builder.bandwidthBit.toInt64)

/-- A manager which has looked at the file has the users of the file. -/
def Current (manager : CommonUserManager) (file : UserFile) : Prop :=
  (manager.reloadIfChanged file).users = loadUsers file.text

/-- The users whom a server has, or asks for, are those of a file to which
these have been saved. -/
def UserManager.Reads (users : Users) : UserManager → Prop
  | .common manager file =>
      file.text = some (saveUsers users) ∧ Current manager file
  | .remote server => server.Reads users

theorem current_create (file : UserFile) :
    Current (CommonUserManager.create file) file := by
  rw [Current, reloadIfChanged]
  split
  · split <;> rfl
  · rfl

/-! ## What is carried -/

/-- The bits of a bandwidth, as they are computed. -/
def bandwidthBits (overflowed : Int → Int32) (bandwidth : Int32) : Int32 :=
  multiply overflowed (multiply overflowed bandwidth 1024) 1024

/-- What a user manager answers for a user who has been added. -/
theorem loginAsync_eq_some {hashPassword : ByteString → Hash}
    {overflowed : Int → Int32} {getInt : ByteString → Option Int32}
    (reads : ∀ number, getInt (printInt number.toInt) = some number)
    {users : Users} {userManager : UserManager}
    (current : userManager.Reads users)
    {username password : ByteString} {hash : Hash} {bandwidth : Int32}
    (added : users.find username = some (hash, bandwidth))
    {bandwidthBit : Int32}
    (accepted :
      loginAsync hashPassword overflowed getInt username password
          userManager = some bandwidthBit) :
    bandwidthBit = bandwidthBits overflowed bandwidth := by
  induction userManager generalizing bandwidthBit with
  | common manager file =>
      obtain ⟨saved, looked⟩ := current
      rw [loginAsync, authenticate] at accepted
      cases found :
          (manager.reloadIfChanged file).users.find username with
      | none =>
          simp only [found] at accepted
          cases accepted
      | some user =>
          have fromFile := found
          rw [looked, saved] at fromFile
          obtain ⟨stored, there⟩ := find_loadUsers_saveUsers fromFile
          have same := Option.some.inj (added.symm.trans there)
          simp only [found] at accepted
          split at accepted
          next after answer =>
            obtain ⟨-, rfl⟩ := Prod.mk.inj answer
            rw [getUserBandwidthBit, found] at accepted
            rw [← Option.some.inj accepted, bandwidthBits,
              (Prod.mk.inj same).2]
          next => cases accepted
  | remote server ih =>
      obtain ⟨carried, answered, read⟩ :=
        Option.bind_eq_some_iff.mp accepted
      rw [reads] at read
      rw [← Option.some.inj read]
      exact ih current answered

theorem find_of_addUser {hashPassword : ByteString → Hash}
    {manager added : CommonUserManager} {username password : ByteString}
    {bandwidth : Int32}
    (accepted :
      manager.addUser hashPassword username password bandwidth =
        some added) :
    0 ≤ bandwidth.toInt ∧
      added.users.find username =
        some (hashPassword password, bandwidth) := by
  rw [addUser] at accepted
  split at accepted
  next valid =>
    split at accepted
    · cases accepted
    next notNegative =>
      split at accepted
      · cases accepted
      · obtain rfl := Option.some.inj accepted
        exact
          ⟨not_lt.mp fun negative =>
              notNegative (Int32.lt_iff_toInt_lt.mpr negative),
            Users.find_set _ _ (named_of_validateUsername valid)⟩
  next => cases accepted

/-- The shapers get the claim of the token as an unsigned number. -/
theorem shapers_of_generate {library : JwtLibrary}
    (faithful : Faithful library) {serverKey username token : String}
    {bandwidthBit : Int32} {issuedAt now later : Int}
    (issued :
      generate library serverKey username bandwidthBit issuedAt =
        some token)
    {toClient fromClient : LeakyBucket}
    (opened :
      shapers library serverKey token now later =
        some (toClient, fromClient)) :
    toClient = LeakyBucket.create bandwidthBit.toInt64.toUInt64 now ∧
      fromClient =
        LeakyBucket.create bandwidthBit.toInt64.toUInt64 later := by
  obtain ⟨algorithm, keyed, signed⟩ := Option.bind_eq_some_iff.mp issued
  obtain ⟨decoded, found, named, given⟩ :=
    faithful algorithm _ token signed
  obtain ⟨⟨name, bites⟩, accepted, made⟩ :=
    Option.bind_eq_some_iff.mp opened
  have validated :
      validate library serverKey token =
        some (username, bandwidthBit.toInt64.toUInt64) := by
    simp [validate, found, named, given, asString, asInteger,
      makeVerifier, keyed]
  rw [validated] at accepted
  obtain ⟨rfl, rfl⟩ := Prod.mk.inj (Option.some.inj accepted)
  obtain ⟨rfl, rfl⟩ := Prod.mk.inj (Option.some.inj made)
  exact ⟨rfl, rfl⟩

/-! ## The limit -/

theorem toInt_bandwidthBits {overflowed : Int → Int32} {bandwidth : Int32}
    (notNegative : 0 ≤ bandwidth.toInt) (small : bandwidth.toInt < 2048) :
    (bandwidthBits overflowed bandwidth).toInt =
      bandwidth.toInt * 1048576 := by
  have thousand : (1024 : Int32).toInt = 1024 := by decide
  have first :
      multiply overflowed bandwidth 1024 =
        Int32.ofInt (bandwidth.toInt * 1024) := by
    rw [multiply, thousand, if_pos (by omega)]
  have firstValue :
      (multiply overflowed bandwidth 1024).toInt =
        bandwidth.toInt * 1024 := by
    rw [first]
    exact Int32.toInt_ofInt_of_le (by omega) (by omega)
  rw [bandwidthBits, multiply, firstValue, thousand, if_pos (by omega),
    Int32.toInt_ofInt_of_le (by omega) (by omega)]
  omega

/-- The unsigned number of which a shaper takes an eighth. -/
theorem toNat_toUInt64 (number : Int32) :
    number.toInt64.toUInt64.toNat =
      if 0 ≤ number.toInt then number.toInt.toNat
      else (number.toInt + 18446744073709551616).toNat := by
  have signed : number.toInt64.toInt =
      if 2 * number.toInt64.toUInt64.toNat < 18446744073709551616 then
        (number.toInt64.toUInt64.toNat : Int)
      else
        number.toInt64.toUInt64.toNat - 18446744073709551616 :=
    BitVec.toInt_eq_toNat_cond number.toInt64.toBitVec
  have range := number.toInt64.toUInt64.toNat_lt
  rw [Int32.toInt_toInt64] at signed
  split at signed <;> split <;> omega

/-- An `int` is an eighth of the right number for small bandwidths only. -/
theorem limit_iff {overflowed : Int → Int32} {bandwidth : Int32}
    (notNegative : 0 ≤ bandwidth.toInt) (now : Int) :
    (LeakyBucket.create
          (bandwidthBits overflowed bandwidth).toInt64.toUInt64
          now).maxBytesPerSecond.toNat =
        bandwidth.toInt.toNat * 1048576 / 8 ↔
      bandwidth < 2048 := by
  have lower := (bandwidthBits overflowed bandwidth).le_toInt
  have upper := (bandwidthBits overflowed bandwidth).toInt_lt
  have range := bandwidth.toInt_lt
  have small : bandwidth < 2048 ↔ bandwidth.toInt < 2048 :=
    Int32.lt_iff_toInt_lt
  rw [LeakyBucket.create, UInt64.toNat_div, toNat_toUInt64, small]
  simp only [UInt64.reduceToNat]
  constructor
  · intro same
    by_contra large
    split at same <;> omega
  · intro fits
    have value := @toInt_bandwidthBits overflowed bandwidth notNegative fits
    rw [value, if_pos (by omega)]
    omega

/-- Both shapers of a connection get the bandwidth with which the user of its
token was added, exactly if this is less than 2048 megabits. -/
theorem shapers_iff {library : JwtLibrary} (faithful : Faithful library)
    {serverKey : String} {hashPassword : ByteString → Hash}
    {overflowed : Int → Int32} {getInt : ByteString → Option Int32}
    (reads : ∀ number, getInt (printInt number.toInt) = some number)
    {manager added : CommonUserManager} {username password : ByteString}
    {bandwidth : Int32}
    (accepted :
      manager.addUser hashPassword username password bandwidth =
        some added)
    {userManager : UserManager}
    (current : userManager.Reads added.users)
    {given : ByteString} {token : String} {issuedAt : Int}
    (issued :
      handleApiLogin library serverKey hashPassword overflowed getInt
          userManager username given issuedAt = some token)
    {now later : Int} {toClient fromClient : LeakyBucket}
    (opened :
      shapers library serverKey token now later =
        some (toClient, fromClient)) :
    (toClient.maxBytesPerSecond.toNat =
          bandwidth.toInt.toNat * 1048576 / 8 ∧
        fromClient.maxBytesPerSecond.toNat =
          bandwidth.toInt.toNat * 1048576 / 8) ↔
      bandwidth < 2048 := by
  obtain ⟨notNegative, there⟩ := find_of_addUser accepted
  obtain ⟨bandwidthBit, answered, made⟩ :=
    Option.bind_eq_some_iff.mp issued
  obtain rfl := loginAsync_eq_some reads current there answered
  obtain ⟨rfl, rfl⟩ := shapers_of_generate faithful made opened
  rw [limit_iff notNegative, limit_iff notNegative, and_self]

/-! ## A user with 100 megabits, and one with 2048 -/

def exampleName : ByteString := [0x61, 0x6C, 0x69, 0x63, 0x65]

def examplePassword : ByteString := [0x73, 0x65, 0x63, 0x72, 0x65, 0x74]

/-- The SHA-256 of the password, and nothing for others. -/
def exampleHash (password : ByteString) : Hash :=
  if password = examplePassword then
    ⟨"2bb80d537b1da3e38bd30361aa855686bde0eacd7162fef6a25fe97bf527a25b".toList.map
      fun char => UInt8.ofNat char.toNat, by decide +kernel⟩
  else
    ⟨[], by decide +kernel⟩

/-- What is signed for alice at 1700000000, and its signature: with the bits
of 100 megabits, and with those of 2048 where a product wraps. -/
def exampleJwt (bandwidthBit : Int32) : Option (String × String) :=
  if bandwidthBit = 104857600 then
    some
      ("eyJhbGciOiJSUzI1NiIsInR5cCI6IkpXVCJ9." ++
        "eyJiYW5kd2lkdGhfYml0IjoxMDQ4NTc2MDAsImV4cCI6MTcwMjU5MjAwMCwi" ++
        "aWF0IjoxNzAwMDAwMDAwLCJpc3MiOiJhdXRoMCIsImp0aSI6ImZwdG4iLCJ1" ++
        "c2VybmFtZSI6ImFsaWNlIn0",
        "goEuoqZqDNKl90e-BM9a_dMB3je8GvlMrBXWS_N5bGT8GfkIxcj_VJJioxnt" ++
          "wvvmQw_M-yGE-4E87YqCnIVmTQ")
  else if bandwidthBit = -2147483648 then
    some
      ("eyJhbGciOiJSUzI1NiIsInR5cCI6IkpXVCJ9." ++
        "eyJiYW5kd2lkdGhfYml0IjotMjE0NzQ4MzY0OCwiZXhwIjoxNzAyNTkyMDAw" ++
        "LCJpYXQiOjE3MDAwMDAwMDAsImlzcyI6ImF1dGgwIiwianRpIjoiZnB0biIs" ++
        "InVzZXJuYW1lIjoiYWxpY2UifQ",
        "o3HbN-dzsnZhoSTezeHOw6JdV1G2jQgFRkLBF_jfOunNXA94qvK_WlS1qMn1" ++
          "CSnwTyL3B9sm0qBKi9VILPl54Q")
  else
    none

def exampleClaims (bandwidthBit : Int32) : String → Option ClaimValue
  | "username" => some (.string "alice")
  | "bandwidth_bit" => some (.integer bandwidthBit.toInt64)
  | _ => none

def exampleToken (bandwidthBit : Int32) : Option String :=
  (exampleJwt bandwidthBit).map fun jwt => jwt.1 ++ "." ++ jwt.2

def exampleDecode (token : String) (bandwidthBit : Int32) :
    Option DecodedJwt :=
  match exampleJwt bandwidthBit with
  | some (data, signature) =>
      if data ++ "." ++ signature = token then
        some {
          algorithm := "RS256"
          issuer := some "auth0"
          expiresAt := some 1702592000
          payloadClaim := exampleClaims bandwidthBit
          data := data
          signature := signature }
      else
        none
  | none => none

/-- The library, as far as these two tokens go. -/
def exampleLibrary : JwtLibrary where
  Algorithm := Unit
  decode token :=
    (exampleDecode token 104857600).or (exampleDecode token (-2147483648))
  rs256 _ := some ()
  sign _ builder :=
    if builder.username = "alice" ∧ builder.issuedAt = 1700000000 then
      exampleToken builder.bandwidthBit
    else
      none
  verifies _ data signature :=
    some (data, signature) == exampleJwt 104857600 ||
      some (data, signature) == exampleJwt (-2147483648)

theorem exampleToken_cases {bandwidthBit : Int32} {token : String}
    (made : exampleToken bandwidthBit = some token) :
    bandwidthBit = 104857600 ∨ bandwidthBit = -2147483648 := by
  rw [exampleToken, exampleJwt] at made
  split at made
  · exact Or.inl ‹_›
  · split at made
    · exact Or.inr ‹_›
    · cases made

theorem faithful_exampleLibrary : Faithful exampleLibrary := by
  intro algorithm builder token signed
  have given :
      builder.username = "alice" ∧
        exampleToken builder.bandwidthBit = some token := by
    simp only [exampleLibrary] at signed
    split at signed
    next known => exact ⟨known.1, signed⟩
    next => cases signed
  obtain ⟨named, made⟩ := given
  rw [named]
  have decodes (bandwidthBit : Int32)
      (known : (exampleToken bandwidthBit).all fun token =>
        (exampleLibrary.decode token).any fun decoded =>
          decoded.payloadClaim "username" = some (.string "alice") ∧
            decoded.payloadClaim "bandwidth_bit" =
              some (.integer bandwidthBit.toInt64))
      (same : builder.bandwidthBit = bandwidthBit) :
      ∃ decoded, exampleLibrary.decode token = some decoded ∧
        decoded.payloadClaim "username" = some (.string "alice") ∧
        decoded.payloadClaim "bandwidth_bit" =
          some (.integer builder.bandwidthBit.toInt64) := by
    rw [same] at made ⊢
    rw [made, Option.all_some, Option.any_eq_true] at known
    simpa using known
  rcases exampleToken_cases made with slow | fast
  · exact decodes 104857600 (by decide +kernel) slow
  · exact decodes (-2147483648) (by decide +kernel) fast

/-- The users of `fptn-passwd` when alice has been added to none. -/
def exampleAdded (bandwidth : Int32) : CommonUserManager :=
  ⟨Users.empty.set exampleName (exampleHash examplePassword, bandwidth)
    (by decide +kernel), 0⟩

def exampleFile (bandwidth : Int32) : UserFile :=
  ⟨some (saveUsers (exampleAdded bandwidth).users), some 1⟩

/-- A server which has been started with this file. -/
def exampleServer (bandwidth : Int32) : UserManager :=
  .common (CommonUserManager.create (exampleFile bandwidth))
    (exampleFile bandwidth)

/-- An `int` product which wraps. -/
def exampleWrap (product : Int) : Int32 := Int32.ofInt product

def exampleGetInt (text : ByteString) : Option Int32 :=
  extractInt (0x20 :: text)

theorem reads_exampleServer (bandwidth : Int32) :
    (exampleServer bandwidth).Reads (exampleAdded bandwidth).users :=
  ⟨rfl, current_create (exampleFile bandwidth)⟩

/-- What the shapers of alice get for 100 megabits. -/
theorem shapers_alice :
    ((LeakyBucket.create 104857600 0).maxBytesPerSecond.toNat =
          (100 : Int32).toInt.toNat * 1048576 / 8 ∧
        (LeakyBucket.create 104857600 1).maxBytesPerSecond.toNat =
          (100 : Int32).toInt.toNat * 1048576 / 8) ↔
      (100 : Int32) < 2048 :=
  @shapers_iff exampleLibrary faithful_exampleLibrary exampleKey
    exampleHash exampleWrap exampleGetInt extractInt_printInt
    ⟨Users.empty, 0⟩ (exampleAdded 100) exampleName examplePassword 100 rfl
    (exampleServer 100) (reads_exampleServer 100) examplePassword
    ((exampleToken 104857600).getD "") 1700000000 (by decide +kernel) 0 1
    (LeakyBucket.create 104857600 0) (LeakyBucket.create 104857600 1)
    (by decide +kernel)

/-- With 2048 megabits the shapers get as good as no limit. -/
theorem shapers_wrapped :
    ¬∀ (library : JwtLibrary) (serverKey : String)
        (hashPassword : ByteString → Hash) (overflowed : Int → Int32)
        (getInt : ByteString → Option Int32)
        (manager added : CommonUserManager)
        (username password given : ByteString) (bandwidth : Int32)
        (userManager : UserManager) (token : String)
        (issuedAt now later : Int) (toClient fromClient : LeakyBucket),
      Faithful library →
        (∀ number, getInt (printInt number.toInt) = some number) →
        manager.addUser hashPassword username password bandwidth =
            some added →
          userManager.Reads added.users →
            handleApiLogin library serverKey hashPassword overflowed
                getInt userManager username given issuedAt = some token →
              shapers library serverKey token now later =
                  some (toClient, fromClient) →
                toClient.maxBytesPerSecond.toNat =
                    bandwidth.toInt.toNat * 1048576 / 8 ∧
                  fromClient.maxBytesPerSecond.toNat =
                    bandwidth.toInt.toNat * 1048576 / 8 := by
  intro carried
  have limits :=
    carried exampleLibrary exampleKey exampleHash exampleWrap exampleGetInt
      ⟨Users.empty, 0⟩ (exampleAdded 2048) exampleName examplePassword
      examplePassword 2048 (exampleServer 2048)
      ((exampleToken (-2147483648)).getD "") 1700000000 0 1
      (LeakyBucket.create 18446744071562067968 0)
      (LeakyBucket.create 18446744071562067968 1)
      faithful_exampleLibrary extractInt_printInt rfl
      (reads_exampleServer 2048) (by decide +kernel) (by decide +kernel)
  revert limits
  decide +kernel

end Fptn.Web.Bandwidth
