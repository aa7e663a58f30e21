import Fptn.Lib.Json

/-!
# The login over HTTP

The clients and a server with remote users put the user name and the password
into a JSON text with a format string, as they are.  `HandleApiLogin` reads
them with a JSON parser and has them checked: by the users of its own server,
or by another server, which gets them in the same way.

The names and passwords which arrive are those which need no escapes.
-/

namespace Fptn.Web.ApiLogin

open Fptn.Json

/-- A `std::string`. -/
abbrev ByteString := List UInt8

/-- The bytes of an ASCII text. -/
def ascii (text : String) : ByteString :=
  text.toList.map fun char => UInt8.ofNat char.toNat

/-! ## Requests -/

/-- The format string of all logins. -/
def formatLogin (username password : ByteString) : ByteString :=
  ascii "\x7b \"username\": \"" ++ username ++
    ascii "\", \"password\": \"" ++ password ++ ascii "\" \x7d"

/-- Who sends a login. -/
inductive Sender where
  | connectionManagerLogin
  | userManagerLoginAsync
  | userManagerLogin
  | tryLoginSingleServer

/-- The request body which a sender builds. -/
def Sender.request : Sender → ByteString → ByteString → ByteString
  | .connectionManagerLogin => formatLogin
  | .userManagerLoginAsync => formatLogin
  | .userManagerLogin => formatLogin
  | .tryLoginSingleServer => formatLogin

/-! ## Users -/

structure Response where
  body : ByteString
  code : Int

/-- `CommonUserManager`, with the hash and the bandwidth of each user. -/
structure CommonUserManager where
  users : ByteString → Option (ByteString × Int)
  hashPassword : ByteString → ByteString

namespace CommonUserManager

variable (manager : CommonUserManager)

def authenticate (username password : ByteString) : Bool :=
  match manager.users username with
  | some user => user.1 == manager.hashPassword password
  | none => false

/-- The product is not cut to an `int`: it is only compared with that of
another store of users here. -/
def getUserBandwidthBit (username : ByteString) : Int :=
  match manager.users username with
  | some user => user.2 * 1024 * 1024
  | none => 0

end CommonUserManager

/-- Numbers of JSON texts: which can be represented, and as what. -/
structure Numbers where
  inRange : List UInt8 → Bool
  toInt : List UInt8 → Int

/-- The users of a server, here or on another server, which is asked with
`http_api_client_`. -/
inductive UserManager where
  | here (common : CommonUserManager)
  | remote (post : ByteString → Response)

section Handler

variable (numbers : Numbers)

/-- `get<int>`; `none` is an exception. -/
def getInt : Value → Option Int
  | .number text => some (numbers.toInt text)
  | .bool value => some (if value then 1 else 0)
  | _ => none

/-- Whether the login is accepted, with the bandwidth; `none` is an exception
which is not caught here. -/
def UserManager.loginAsync (manager : UserManager)
    (username password : ByteString) : Option (Option Int) :=
  match manager with
  | .here common =>
      if common.authenticate username password then
        some (some (common.getUserBandwidthBit username))
      else
        some none
  | .remote post =>
      let resp := post (Sender.userManagerLoginAsync.request username password)
      if resp.code = 200 then
        match parse numbers.inRange resp.body with
        | none => some none
        | some msg =>
            match member? (ascii "access_token") msg,
                member? (ascii "bandwidth_bit") msg with
            | some _, some bandwidth => (getInt numbers bandwidth).map some
            | _, _ => some none
      else
        some none

/-- `at` and `get` of both strings of a request. -/
def credentials (body : ByteString) : Option (ByteString × ByteString) := do
  let request ← parse numbers.inRange body
  let username ← (member? (ascii "username") request).bind string?
  let password ← (member? (ascii "password") request).bind string?
  return (username, password)

structure Server where
  userManager : UserManager
  /-- `Generate` of the token manager; `none` is an exception. -/
  generate : ByteString → Int → Option (ByteString × ByteString)

/-- The response, and the user for whom tokens have been made. -/
structure Handled where
  response : Response
  tokensFor : Option ByteString

def refused (code : Int) (message : String) : Handled where
  response :=
    { body :=
        ascii "\x7b\"status\": \"error\", \"message\": \"" ++
          ascii message ++ ascii "\"\x7d"
      code := code }
  tokensFor := none

def Server.handleApiLogin (server : Server) (body : ByteString) : Handled :=
  match credentials numbers body with
  | none => refused 400 "Invalid JSON format."
  | some (username, password) =>
      match server.userManager.loginAsync numbers username password with
      | none => refused 400 "Invalid JSON format."
      | some none => refused 401 "Invalid login or password."
      | some (some bandwidthBit) =>
          match server.generate username bandwidthBit with
          | none => refused 500 "An unexpected error occurred."
          | some tokens =>
              { response :=
                  { body :=
                      ascii "\x7b \"access_token\": \"" ++ tokens.1 ++
                        ascii "\", \"refresh_token\": \"" ++ tokens.2 ++
                        ascii "\", \"bandwidth_bit\": " ++
                        ascii (toString bandwidthBit) ++ ascii " \x7d"
                    code := 200 }
                tokensFor := some username }

end Handler

/-! ## What arrives -/

variable {numbers : Numbers} {username password : ByteString}

theorem plain_username : Plain (ascii "username") :=
  ⟨"username".toList, unescaped_of_all (by decide), by decide⟩

theorem plain_password : Plain (ascii "password") :=
  ⟨"password".toList, unescaped_of_all (by decide), by decide⟩

theorem formatLogin_eq :
    formatLogin username password =
      0x7B :: 0x20 :: 0x22 :: (ascii "username" ++ 0x22 :: 0x3A :: 0x20 ::
        0x22 :: (username ++ 0x22 :: 0x2C :: 0x20 ::
          0x22 :: (ascii "password" ++ 0x22 :: 0x3A :: 0x20 ::
            0x22 :: (password ++ 0x22 :: 0x20 :: 0x7D :: [])))) := by
  simp [formatLogin, ascii]

/-- The tokens of a request whose strings need no escapes. -/
theorem tokens_formatLogin (plainName : Plain username)
    (plainPassword : Plain password) :
    tokens numbers.inRange (formatLogin username password) =
      some [.beginObject, .string (ascii "username"), .nameSeparator,
        .string username, .valueSeparator, .string (ascii "password"),
        .nameSeparator, .string password, .endObject] := by
  have brace : structural.lookup 0x7B = some .beginObject := rfl
  have colon : structural.lookup 0x3A = some .nameSeparator := rfl
  have comma : structural.lookup 0x2C = some .valueSeparator := rfl
  have close : structural.lookup 0x7D = some .endObject := rfl
  have nothing : tokens numbers.inRange [] = some [] := by rw [tokens]
  rw [formatLogin_eq, tokens_structural brace, tokens_space,
    tokens_string plain_username, tokens_structural colon, tokens_space,
    tokens_string plainName, tokens_structural comma, tokens_space,
    tokens_string plain_password, tokens_structural colon, tokens_space,
    tokens_string plainPassword, tokens_space, tokens_structural close,
    nothing]
  rfl

theorem weight_formatLogin :
    weight false (formatLogin username password) =
      weight false username + weight false password + 29 := by
  have opening : weight false (ascii "\x7b \"username\": \"") = 13 := by
    decide
  have between : weight false (ascii "\", \"password\": \"") = 14 := by
    decide
  have closing : weight false (ascii "\" \x7d") = 2 := by
    decide
  rw [formatLogin, weight_append, weight_append, weight_append,
    weight_append, opening, between, closing]
  omega

theorem credentials_eq_some {body : ByteString} :
    credentials numbers body = some (username, password) ↔
      ∃ request, parse numbers.inRange body = some request ∧
        (member? (ascii "username") request).bind string? = some username ∧
        (member? (ascii "password") request).bind string? =
          some password := by
  simp [credentials, Option.bind_eq_some_iff]

/-- Strings which need no escapes arrive, and no others. -/
theorem credentials_formatLogin_iff :
    credentials numbers (formatLogin username password) =
        some (username, password) ↔
      Plain username ∧ Plain password := by
  constructor
  · intro arrived
    obtain ⟨request, parsed, name, word⟩ := credentials_eq_some.mp arrived
    have bytes := parse_two_strings parsed name word (by decide)
    have nameSize : weight false (ascii "username") = 8 := by decide
    have wordSize : weight false (ascii "password") = 8 := by decide
    rw [weight_formatLogin, cost, cost, cost, cost, nameSize, wordSize]
      at bytes
    constructor
    · by_contra escaped
      rw [if_neg escaped] at bytes
      omega
    · by_contra escaped
      rw [if_neg escaped] at bytes
      omega
  · rintro ⟨plainName, plainPassword⟩
    have marked : skipMark (formatLogin username password) =
        some (formatLogin username password) := by
      rw [formatLogin_eq]
      rfl
    rw [credentials, parse, marked]
    simp only [Option.bind_eq_bind, Option.bind_some,
      tokens_formatLogin plainName plainPassword]
    rfl

/-! ## A server which asks another one -/

/-- `AsyncPost` to a server, if it can be reached. -/
def post (numbers : Numbers) (reached : Bool) (remote : Server)
    (request : ByteString) : Response :=
  if reached then
    (remote.handleApiLogin numbers request).response
  else
    { body := []
      code := 609 }

/-- A server which has its users on another one. -/
def front (numbers : Numbers) (reached : Bool) (common : CommonUserManager)
    (generate remoteGenerate :
      ByteString → Int → Option (ByteString × ByteString)) : Server where
  userManager :=
    .remote
      (post numbers reached
        { userManager := .here common
          generate := remoteGenerate })
  generate := generate

/-- Only the user whose login is accepted gets tokens. -/
theorem handleApiLogin_tokensFor {server : Server} {body : ByteString}
    {user : ByteString}
    (issued : (server.handleApiLogin numbers body).tokensFor = some user) :
    ∃ password bandwidthBit,
      credentials numbers body = some (user, password) ∧
        server.userManager.loginAsync numbers user password =
          some (some bandwidthBit) := by
  rw [Server.handleApiLogin] at issued
  split at issued
  · cases issued
  · rename_i name word found
    split at issued
    · cases issued
    · cases issued
    · rename_i bandwidthBit accepted
      split at issued
      · cases issued
      · obtain rfl := Option.some.inj issued
        exact ⟨word, bandwidthBit, found, accepted⟩

/-- The response is positive only for a login which is accepted. -/
theorem handleApiLogin_code {server : Server} {body : ByteString}
    (positive : (server.handleApiLogin numbers body).response.code = 200) :
    ∃ user password bandwidthBit,
      credentials numbers body = some (user, password) ∧
        server.userManager.loginAsync numbers user password =
          some (some bandwidthBit) := by
  rw [Server.handleApiLogin] at positive
  split at positive
  · cases positive
  · rename_i name word found
    split at positive
    · cases positive
    · cases positive
    · rename_i bandwidthBit accepted
      exact ⟨name, word, bandwidthBit, found, accepted⟩

theorem loginAsync_remote {post : ByteString → Response}
    {bandwidthBit : Int}
    (accepted : (UserManager.remote post).loginAsync numbers username
      password = some (some bandwidthBit)) :
    (post (Sender.userManagerLoginAsync.request username
      password)).code = 200 := by
  rw [UserManager.loginAsync] at accepted
  by_contra negative
  rw [if_neg negative] at accepted
  cases accepted

theorem loginAsync_here {common : CommonUserManager} {bandwidthBit : Int}
    (accepted : (UserManager.here common).loginAsync numbers username
      password = some (some bandwidthBit)) :
    common.authenticate username password = true := by
  rw [UserManager.loginAsync] at accepted
  by_contra refusal
  rw [if_neg refusal] at accepted
  cases accepted

/-- Tokens are made for a user only after the other server has found the
user's name and password to be right. -/
def FrontAsksFor (numbers : Numbers) (username password : ByteString) :
    Prop :=
  ∀ reached common generate remoteGenerate body user,
    credentials numbers body = some (username, password) →
      ((front numbers reached common generate
          remoteGenerate).handleApiLogin numbers body).tokensFor =
        some user →
      user = username ∧ common.authenticate username password = true

theorem frontAsksFor_of_credentials
    (arrives : credentials numbers (formatLogin username password) =
      some (username, password)) :
    FrontAsksFor numbers username password := by
  intro reached common generate remoteGenerate body user sent issued
  obtain ⟨word, bandwidthBit, received, accepted⟩ :=
    handleApiLogin_tokensFor issued
  rw [sent] at received
  obtain ⟨rfl, rfl⟩ := Prod.mk.inj (Option.some.inj received)
  have positive := loginAsync_remote accepted
  rw [post] at positive
  split at positive
  · obtain ⟨name, other, bandwidth, asked, found⟩ :=
      handleApiLogin_code positive
    rw [Sender.request, arrives] at asked
    obtain ⟨rfl, rfl⟩ := Prod.mk.inj (Option.some.inj asked)
    exact ⟨rfl, loginAsync_here found⟩
  · cases positive

/-- Credentials arrive with every sender, and tokens are made for them only if
the other server has authenticated them, exactly if neither string needs an
escape. -/
theorem credentials_survive_iff (numbers : Numbers)
    (username password : ByteString) :
    (∀ sender : Sender,
        credentials numbers (sender.request username password) =
          some (username, password)) ∧
        FrontAsksFor numbers username password ↔
      Plain username ∧ Plain password := by
  constructor
  · rintro ⟨arrive, _⟩
    exact credentials_formatLogin_iff.mp (arrive .userManagerLoginAsync)
  · intro plain
    have arrives :
        credentials numbers (formatLogin username password) =
          some (username, password) :=
      credentials_formatLogin_iff.mpr plain
    refine ⟨fun sender => ?_, frontAsksFor_of_credentials arrives⟩
    cases sender <;> exact arrives

/-! ## A password with a quotation mark -/

def anyNumbers : Numbers where
  inRange _ := true
  toInt _ := 0

/-- The other server knows one user, `bob`; passwords are kept as they are. -/
def onlyBob : CommonUserManager where
  users name :=
    if name = ascii "bob" then some (ascii "secret", 10) else none
  hashPassword password := password

def injected : ByteString :=
  ascii "x\", \"username\": \"bob\", \"password\": \"secret"

def anyTokens (_ : ByteString) (_ : Int) :
    Option (ByteString × ByteString) :=
  some (ascii "access", [])

/-- What is sent for `alice`, with the quotation marks escaped. -/
def sentForAlice : ByteString :=
  ascii "\x7b\"username\": \"alice\", \"password\": \"x\\\", " ++
    ascii "\\\"username\\\": \\\"bob\\\", " ++
    ascii "\\\"password\\\": \\\"secret\"\x7d"

/-- The owner of one account gets tokens for another user, whom the other
server does not even know. -/
theorem tokens_for_alice :
    credentials anyNumbers sentForAlice = some (ascii "alice", injected) ∧
      credentials anyNumbers (formatLogin (ascii "alice") injected) =
        some (ascii "bob", ascii "secret") ∧
      ((front anyNumbers true onlyBob anyTokens
          anyTokens).handleApiLogin anyNumbers sentForAlice).tokensFor =
        some (ascii "alice") ∧
      onlyBob.authenticate (ascii "alice") injected = false := by
  decide +kernel

end Fptn.Web.ApiLogin
