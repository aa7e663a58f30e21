import Fptn.Lib.JsonAscii
import Fptn.Lib.Retry
import Fptn.Web.ApiHandles
import Fptn.Web.Bandwidth
import Mathlib.Tactic.IntervalCases

/-!
# Logging in

`ConnectionManager` asks its server for a token, with up to three attempts.
An attempt may fail before the server handles it, and also behind that.  In
between, users may be changed.

Of `nlohmann::json`, `parse` throws where the body is not one value, `contains`
is true only of an object with this member, and a member which is no string
throws when it is assigned to one.

A client puts the token which it has got into a header of its WebSockets.
They are opened for the user who has logged in.
-/

namespace Fptn.Client.ApiExchange

open Fptn.Json
open Fptn.Retry
open Fptn.Common.TokenManager
open Fptn.Web.ApiLogin (ByteString ascii Numbers Response Handled)
open Fptn.Web.ApiHandles
open Fptn.Web.Bandwidth (text)

/-! ## The server -/

/-- The codes which `ApiClient` makes itself. -/
inductive Failure where
  | systemError
  | exception
  | unknown
  | resolve
  | timeout
  | unreachable

def Failure.response (failure : Failure) : Response where
  body := []
  code :=
    match failure with
    | .systemError => 600
    | .exception => 601
    | .unknown => 602
    | .resolve => 603
    | .timeout => 608
    | .unreachable => 609

/-- What becomes of a request. -/
inductive Delivery where
  | lost (failure : Failure)
  /-- It is handled, but the client does not get the response. -/
  | unanswered (failure : Failure)
  | answered

/-- What a server keeps for all requests. -/
structure Site where
  library : JwtLibrary
  serverKey : String
  dnsServerIPv4 : ByteString
  dnsServerIPv6 : ByteString
  prometheusAccessKey : ByteString
  collect : ByteString
  kData : ByteString

/-- The server as a request finds it.  A bandwidth is an `int`. -/
structure Attempt (numbers : Numbers) where
  users : Web.ApiLogin.UserManager
  bandwidths : ∀ username password bandwidthBit,
    users.loginAsync numbers username password = some (some bandwidthBit) →
      ∃ bandwidth : Int32, bandwidth.toInt = bandwidthBit
  now : Int
  delivery : Delivery

variable {numbers : Numbers}

/-- `Generate`, with a second token which is empty. -/
def Site.generate (site : Site) (now : Int) (username : ByteString)
    (bandwidthBit : Int) : Option (ByteString × ByteString) :=
  (Common.TokenManager.generate site.library site.serverKey (text username)
    (Int32.ofInt bandwidthBit) now).map fun token => (ascii token, [])

def Site.server (site : Site) (attempt : Attempt numbers) : Server where
  login :=
    { userManager := attempt.users
      generate := site.generate attempt.now }
  dnsServerIPv4 := site.dnsServerIPv4
  dnsServerIPv6 := site.dnsServerIPv6
  prometheusAccessKey := site.prometheusAccessKey
  collect := site.collect
  kData := site.kData

/-- What the client gets, and for whom tokens are made. -/
def Site.respond (site : Site) (attempt : Attempt numbers)
    (request : HttpRequest) : Response × Option ByteString :=
  match attempt.delivery with
  | .lost failure => (failure.response, none)
  | .unanswered failure =>
      (failure.response,
        ((site.server attempt).handleHttp numbers request).bind
          Handled.tokensFor)
  | .answered =>
      match (site.server attempt).handleHttp numbers request with
      | some handled => (handled.response, handled.tokensFor)
      | none => (Failure.systemError.response, none)

/-! ## The client -/

/-- The client, and the users for whom the server has made tokens. -/
structure Exchange where
  jwtAccessToken : ByteString
  issued : List ByteString

def loginRequest (username password : ByteString) : HttpRequest where
  method := ascii "POST"
  url := ascii "/api/v1/login"
  body :=
    Web.ApiLogin.Sender.connectionManagerLogin.request username password
  spaceless := by decide

/-- What `Login` does with a response: whether it returns, and the token. -/
def handleResponse (numbers : Numbers) (resp : Response)
    (jwtAccessToken : ByteString) : Option Bool × ByteString :=
  if resp.code = 200 then
    match parse numbers.inRange resp.body with
    | none => (none, [])
    | some msg =>
        match member? (ascii "access_token") msg with
        | none => (none, jwtAccessToken)
        | some token =>
            match string? token with
            | none => (none, [])
            | some token => (some true, token)
  else if resp.code = 401 ∨ resp.code = 403 then
    (some false, [])
  else
    (none, [])

section Login

variable (site : Site) (username password : ByteString)
  (attempts : Nat → Attempt numbers)

def loginAttempt (attempt : Nat) (exchange : Exchange) :
    Option Bool × Exchange :=
  let (resp, tokensFor) :=
    site.respond (attempts attempt) (loginRequest username password)
  let (result, token) :=
    handleResponse numbers resp exchange.jwtAccessToken
  (result,
    { jwtAccessToken := token
      issued := exchange.issued ++ tokensFor.toList })

def kMaxRetries : Nat := 3

/-- `Login`, for a client which has this token. -/
def login (jwtAccessToken : ByteString) : Bool × Exchange :=
  let start : Exchange :=
    { jwtAccessToken := jwtAccessToken
      issued := [] }
  if jwtAccessToken ≠ [] then
    (true, start)
  else
    match retry (loginAttempt site username password attempts) kMaxRetries 0
        start with
    | (some result, last) => (result, last)
    | (none, last) => (false, last)

end Login

/-- The header which the client sets. -/
def authorization (jwtAccessToken : ByteString) : ByteString :=
  ascii "Bearer " ++ jwtAccessToken

/-- `replace_first` with nothing. -/
def replaceFirst (search : ByteString) : ByteString → ByteString
  | [] => []
  | byte :: rest =>
      if search.isPrefixOf (byte :: rest) then
        (byte :: rest).drop search.length
      else
        byte :: replaceFirst search rest

/-- The token which `HandleWebSocket2` takes from the header. -/
def jwtAuthToken (header : ByteString) : String :=
  text (replaceFirst (ascii "Bearer ") header)

/-! ## Responses -/

section Responses

variable {site : Site} {attempt : Attempt numbers}
  {username password : ByteString}

/-- The token of the login, if the server makes one. -/
def Site.grants (site : Site) (attempt : Attempt numbers)
    (username password : ByteString) : Option (Int × String) :=
  match attempt.users.loginAsync numbers username password with
  | some (some bandwidthBit) =>
      (Common.TokenManager.generate site.library site.serverKey
        (text username) (Int32.ofInt bandwidthBit) attempt.now).map
          (bandwidthBit, ·)
  | _ => none

/-- The user manager says that there is no such user with this password. -/
def Attempt.Refuses (attempt : Attempt numbers)
    (username password : ByteString) : Prop :=
  attempt.users.loginAsync numbers username password = some none

/-- The format string of the tokens. -/
def formatTokens (accessToken : ByteString) (bandwidthBit : Int) :
    ByteString :=
  ascii "\x7b \"access_token\": \"" ++ accessToken ++
    ascii "\", \"refresh_token\": \"" ++ [] ++
    ascii "\", \"bandwidth_bit\": " ++ ascii (toString bandwidthBit) ++
    ascii " \x7d"

theorem handleHttp_login :
    (site.server attempt).handleHttp numbers
        (loginRequest username password) =
      some ((site.server attempt).login.handleApiLogin numbers
        (Web.ApiLogin.formatLogin username password)) := by
  have named : (loginRequest username password).method ≠ [] := by
    show ascii "POST" ≠ []
    decide
  have registered :
      ⟨kApiLoginUrl, ascii "POST", .handleApiLogin⟩ ∈
        (site.server attempt).registrations :=
    mem_registrations.mpr
      (Or.inl (List.mem_cons_of_mem _ List.mem_cons_self))
  exact handleHttp_of_registered named registered

/-- What the server does with a login. -/
inductive Handles (site : Site) (attempt : Attempt numbers)
    (username password : ByteString) : Handled → Prop where
  | granted {bandwidthBit : Int} {token : String}
      (grants : site.grants attempt username password =
        some (bandwidthBit, token)) :
      Handles site attempt username password
        { response :=
            { body := formatTokens (ascii token) bandwidthBit
              code := 200 }
          tokensFor := some username }
  | refused (refuses : attempt.Refuses username password) :
      Handles site attempt username password
        (Web.ApiLogin.refused 401 "Invalid login or password.")
  | failed {code : Int} {message : String}
      (grants : site.grants attempt username password = none)
      (accepts : ¬attempt.Refuses username password)
      (other : code = 400 ∨ code = 500) :
      Handles site attempt username password
        (Web.ApiLogin.refused code message)

/-- The strings of a login arrive if they need no escapes. -/
theorem handles_login (site : Site) (attempt : Attempt numbers)
    (plainName : Plain username) (plainPassword : Plain password) :
    Handles site attempt username password
      ((site.server attempt).login.handleApiLogin numbers
        (Web.ApiLogin.formatLogin username password)) := by
  rw [Web.ApiLogin.Server.handleApiLogin,
    Web.ApiLogin.credentials_formatLogin_iff.mpr
      ⟨plainName, plainPassword⟩]
  dsimp only [Site.server]
  split
  case h_1 failed =>
    refine .failed ?_ ?_ (Or.inl rfl)
    · rw [Site.grants, failed]
    · rw [Attempt.Refuses, failed]
      intro same
      cases same
  case h_2 refused => exact .refused refused
  case h_3 bandwidthBit accepted =>
    dsimp only [Site.generate]
    cases made : Common.TokenManager.generate site.library site.serverKey
        (text username) (Int32.ofInt bandwidthBit) attempt.now with
    | none =>
        refine .failed ?_ ?_ (Or.inr rfl)
        · rw [Site.grants, accepted]
          dsimp only
          rw [made]
          rfl
        · rw [Attempt.Refuses, accepted]
          intro same
          cases Option.some.inj same
    | some token =>
        refine .granted ?_
        rw [Site.grants, accepted]
        dsimp only
        rw [made]
        rfl

theorem plain_accessToken : Plain (ascii "access_token") :=
  plain_of_all (by decide)

theorem plain_refreshToken : Plain (ascii "refresh_token") :=
  plain_of_all (by decide)

theorem plain_bandwidthBit : Plain (ascii "bandwidth_bit") :=
  plain_of_all (by decide)

theorem formatTokens_eq (accessToken : ByteString) (bandwidthBit : Int) :
    formatTokens accessToken bandwidthBit =
      0x7B :: 0x20 :: 0x22 :: (ascii "access_token" ++ 0x22 :: 0x3A ::
        0x20 :: 0x22 :: (accessToken ++ 0x22 :: 0x2C :: 0x20 ::
          0x22 :: (ascii "refresh_token" ++ 0x22 :: 0x3A :: 0x20 ::
            0x22 :: ([] ++ 0x22 :: 0x2C :: 0x20 ::
              0x22 :: (ascii "bandwidth_bit" ++ 0x22 :: 0x3A :: 0x20 ::
                (ascii (toString bandwidthBit) ++
                  0x20 :: 0x7D :: [])))))) := by
  simp [formatTokens, ascii]

/-- The tokens of a response which needs no escapes. -/
theorem tokens_formatTokens {accessToken : ByteString} {bandwidthBit : Int}
    (plain : Plain accessToken)
    (known : numbers.inRange (ascii (toString bandwidthBit)) = true) :
    tokens numbers.inRange (formatTokens accessToken bandwidthBit) =
      some [.beginObject, .string (ascii "access_token"), .nameSeparator,
        .string accessToken, .valueSeparator,
        .string (ascii "refresh_token"), .nameSeparator, .string [],
        .valueSeparator, .string (ascii "bandwidth_bit"), .nameSeparator,
        .number (ascii (toString bandwidthBit)), .endObject] := by
  have integer : Integer (ascii (toString bandwidthBit)) :=
    integer_toString bandwidthBit
  have delimits : Delimits (0x20 :: 0x7D :: []) := by
    intro byte first
    obtain rfl := Option.some.inj first
    decide
  rw [formatTokens_eq, tokens_openBrace, tokens_space,
    tokens_string plain_accessToken, tokens_colon, tokens_space,
    tokens_string plain, tokens_comma, tokens_space,
    tokens_string plain_refreshToken, tokens_colon, tokens_space,
    tokens_string plain_nil, tokens_comma, tokens_space,
    tokens_string plain_bandwidthBit, tokens_colon, tokens_space,
    tokens_integer integer delimits known, tokens_space,
    tokens_closeBrace, tokens_nil]
  rfl

/-- The client reads the token which the server has written. -/
theorem handleResponse_formatTokens {accessToken : ByteString}
    {bandwidthBit : Int} (plain : Plain accessToken)
    (known : numbers.inRange (ascii (toString bandwidthBit)) = true)
    (before : ByteString) :
    handleResponse numbers
        { body := formatTokens accessToken bandwidthBit
          code := 200 } before = (some true, accessToken) := by
  have marked : skipMark (formatTokens accessToken bandwidthBit) =
      some (formatTokens accessToken bandwidthBit) := by
    rw [formatTokens_eq]
    rfl
  rw [handleResponse, if_pos rfl,
    parse_of_tokens marked (tokens_formatTokens plain known) rfl]
  rfl

theorem handleResponse_failure (failure : Failure) (before : ByteString) :
    handleResponse numbers failure.response before = (none, []) := by
  cases failure <;> rfl

/-- Tokens are made for the user of the login only. -/
theorem Handles.tokensFor {handled : Handled}
    (handles : Handles site attempt username password handled) :
    handled.tokensFor.toList = [] ∨
      handled.tokensFor.toList = [username] := by
  cases handles with
  | granted => exact Or.inr rfl
  | refused | failed => exact Or.inl rfl

end Responses

/-! ## Attempts -/

/-- The library makes tokens of visible characters, without quotation marks
and backslashes. -/
def SimpleTokens (library : JwtLibrary) : Prop :=
  ∀ algorithm builder token, library.sign algorithm builder = some token →
    ∀ char ∈ token.toList, Simple char

/-- Numbers which are an `int` can be read. -/
def ReadsInts (numbers : Numbers) : Prop :=
  ∀ bandwidth : Int32,
    numbers.inRange (ascii (toString bandwidth.toInt)) = true

/-- The client returns after this attempt. -/
def Site.Conclusive (site : Site) (attempt : Attempt numbers)
    (username password : ByteString) : Prop :=
  attempt.delivery = .answered ∧
    ((site.grants attempt username password).isSome = true ∨
      attempt.Refuses username password)

/-- What comes of an attempt to log in. -/
inductive Comes (site : Site) (attempt : Attempt numbers)
    (username password : ByteString) :
    Option Bool → ByteString → List ByteString → Prop where
  | entered {bandwidthBit : Int} {token : String}
      (answered : attempt.delivery = .answered)
      (grants : site.grants attempt username password =
        some (bandwidthBit, token)) :
      Comes site attempt username password (some true) (ascii token)
        [username]
  | rejected (answered : attempt.delivery = .answered)
      (refuses : attempt.Refuses username password) :
      Comes site attempt username password (some false) [] []
  | again {issued : List ByteString}
      (inconclusive : ¬site.Conclusive attempt username password)
      (same : issued = [] ∨ issued = [username]) :
      Comes site attempt username password none [] issued

/-- Where the client returns, the attempt is conclusive. -/
theorem Comes.conclusive {site : Site} {attempt : Attempt numbers}
    {username password token : ByteString} {issued : List ByteString}
    {result : Bool}
    (comes : Comes site attempt username password (some result) token
      issued) : site.Conclusive attempt username password := by
  cases comes with
  | entered answered grants =>
      exact ⟨answered, Or.inl (Option.isSome_of_eq_some grants)⟩
  | rejected answered refuses => exact ⟨answered, Or.inr refuses⟩

section Attempts

variable {site : Site} {username password : ByteString}
  (attempts : Nat → Attempt numbers)

/-- A token is made of an accepted login, and of its bandwidth. -/
theorem grants_eq_some {attempt : Attempt numbers} {bandwidthBit : Int}
    {token : String}
    (grants : site.grants attempt username password =
      some (bandwidthBit, token)) :
    attempt.users.loginAsync numbers username password =
        some (some bandwidthBit) ∧
      Common.TokenManager.generate site.library site.serverKey
        (text username) (Int32.ofInt bandwidthBit) attempt.now =
          some token := by
  rw [Site.grants] at grants
  split at grants
  case h_1 found accepted =>
    obtain ⟨made, given, same⟩ := Option.map_eq_some_iff.mp grants
    obtain ⟨rfl, rfl⟩ := Prod.mk.inj same
    exact ⟨accepted, given⟩
  case h_2 => cases grants

theorem generate_simple {now : Int} {token : String} {name : String}
    {bandwidthBit : Int32} (simple : SimpleTokens site.library)
    (made : Common.TokenManager.generate site.library site.serverKey name
      bandwidthBit now = some token) :
    ∀ char ∈ token.toList, Simple char := by
  obtain ⟨algorithm, -, signed⟩ := Option.bind_eq_some_iff.mp made
  exact simple algorithm _ token signed

theorem loginAttempt_comes (plainName : Plain username)
    (plainPassword : Plain password)
    (simple : SimpleTokens site.library) (reads : ReadsInts numbers)
    (attempt : Nat) (exchange : Exchange) :
    ∃ result token issued,
      Comes site (attempts attempt) username password result token issued ∧
        loginAttempt site username password attempts attempt exchange =
          (result, ⟨token, exchange.issued ++ issued⟩) := by
  have handles :=
    handles_login site (attempts attempt) plainName plainPassword
  cases delivered : (attempts attempt).delivery with
  | lost failure =>
      refine ⟨none, [], [], .again ?_ (Or.inl rfl), ?_⟩
      · rintro ⟨answered, -⟩
        rw [delivered] at answered
        cases answered
      · simp only [loginAttempt, Site.respond, delivered,
          handleResponse_failure]
        rfl
  | unanswered failure =>
      refine ⟨none, [], _, .again ?_ handles.tokensFor, ?_⟩
      · rintro ⟨answered, -⟩
        rw [delivered] at answered
        cases answered
      · simp only [loginAttempt, Site.respond, delivered,
          handleResponse_failure, handleHttp_login]
        rfl
  | answered =>
      simp only [loginAttempt, Site.respond, delivered, handleHttp_login]
      generalize (site.server (attempts attempt)).login.handleApiLogin
        numbers _ = handled at handles ⊢
      cases handles with
      | @granted bandwidthBit token grants =>
          obtain ⟨accepted, made⟩ := grants_eq_some grants
          obtain ⟨bandwidth, rfl⟩ :=
            (attempts attempt).bandwidths _ _ _ accepted
          have plain : Plain (ascii token) :=
            plain_bytesOf (generate_simple simple made)
          refine
            ⟨some true, ascii token, [username], .entered delivered grants,
              ?_⟩
          dsimp only
          rw [handleResponse_formatTokens plain (reads bandwidth)]
          rfl
      | refused refuses =>
          exact ⟨some false, [], [], .rejected delivered refuses, rfl⟩
      | failed grants accepts other =>
          refine ⟨none, [], [], .again ?_ (Or.inl rfl), ?_⟩
          · rintro ⟨-, granted | refuses⟩
            · rw [grants] at granted
              cases granted
            · exact accepts refuses
          · rcases other with rfl | rfl
            · rfl
            · rfl

/-- The attempts go on exactly behind one which is not conclusive. -/
theorem loginAttempt_none_iff (plainName : Plain username)
    (plainPassword : Plain password)
    (simple : SimpleTokens site.library) (reads : ReadsInts numbers)
    (attempt : Nat) (exchange : Exchange) :
    (loginAttempt site username password attempts attempt exchange).1 =
        none ↔
      ¬site.Conclusive (attempts attempt) username password := by
  obtain ⟨result, token, issued, comes, same⟩ :=
    loginAttempt_comes attempts plainName plainPassword simple reads
      attempt exchange
  rw [same]
  cases result with
  | none =>
      cases comes with
      | again inconclusive => exact ⟨fun _ => inconclusive, fun _ => rfl⟩
  | some result =>
      refine ⟨fun other => ?_, fun inconclusive => ?_⟩
      · cases other
      · exact absurd comes.conclusive inconclusive

/-- Tokens are made for the user of the login only, and one for each attempt
at most. -/
def Exchange.Issued (username : ByteString) (most : Nat)
    (exchange : Exchange) : Prop :=
  (∀ user ∈ exchange.issued, user = username) ∧
    exchange.issued.length ≤ most

theorem loginAttempt_issued (plainName : Plain username)
    (plainPassword : Plain password)
    (simple : SimpleTokens site.library) (reads : ReadsInts numbers)
    (attempt : Nat) {most : Nat} {exchange : Exchange}
    (before : exchange.Issued username most) :
    (loginAttempt site username password attempts attempt
      exchange).2.Issued username (most + 1) := by
  obtain ⟨result, token, issued, comes, same⟩ :=
    loginAttempt_comes attempts plainName plainPassword simple reads
      attempt exchange
  have one : issued = [] ∨ issued = [username] := by
    cases comes with
    | entered => exact Or.inr rfl
    | rejected => exact Or.inl rfl
    | again _ one => exact one
  rw [same]
  obtain ⟨all, few⟩ := before
  rcases one with rfl | rfl
  · rw [List.append_nil]
    exact ⟨all, Nat.le_succ_of_le few⟩
  · constructor
    · intro user member
      rcases List.mem_append.mp member with earlier | now
      · exact all user earlier
      · exact List.mem_singleton.mp now
    · rw [List.length_append]
      exact Nat.succ_le_succ few

theorem stateAfter_issued (plainName : Plain username)
    (plainPassword : Plain password)
    (simple : SimpleTokens site.library) (reads : ReadsInts numbers)
    (count : Nat) :
    (stateAfter (loginAttempt site username password attempts) ⟨[], []⟩
      count).Issued username count := by
  induction count with
  | zero =>
      refine ⟨fun user member => ?_, Nat.le_refl 0⟩
      cases member
  | succ count ih =>
      exact
        loginAttempt_issued attempts plainName plainPassword simple reads
          count ih

/-- The first conclusive attempt decides, and the login fails without one. -/
theorem login_cases (plainName : Plain username)
    (plainPassword : Plain password)
    (simple : SimpleTokens site.library) (reads : ReadsInts numbers) :
    let outcome := login site username password attempts []
    outcome.2.Issued username kMaxRetries ∧
      ((∃ count < kMaxRetries,
          (∀ earlier < count,
            ¬site.Conclusive (attempts earlier) username password) ∧
          ∃ issued, Comes site (attempts count) username password
            (some outcome.1) outcome.2.jwtAccessToken issued) ∨
        (∀ count < kMaxRetries,
          ¬site.Conclusive (attempts count) username password) ∧
          outcome.1 = false ∧ outcome.2.jwtAccessToken = []) := by
  intro outcome
  have none_iff := loginAttempt_none_iff attempts plainName
    plainPassword simple reads
  have issuedAfter := stateAfter_issued attempts plainName
    plainPassword simple reads
  rcases ended : retry (loginAttempt site username password attempts)
      kMaxRetries 0 ⟨[], []⟩ with ⟨_ | result, last⟩
  · have same : outcome = (false, last) := by
      simp only [outcome, login, ended]
      rfl
    obtain ⟨fruitless, rfl⟩ := retry_eq_none_iff.mp ended
    have inconclusive (count : Nat) (within : count < kMaxRetries) :
        ¬site.Conclusive (attempts count) username password :=
      (none_iff count _).mp (fruitless count within)
    rw [same]
    refine ⟨issuedAfter kMaxRetries, Or.inr ⟨inconclusive, rfl, ?_⟩⟩
    obtain ⟨result, token, issued, comes, made⟩ :=
      loginAttempt_comes attempts plainName plainPassword simple reads 2
        (stateAfter (loginAttempt site username password attempts) ⟨[], []⟩ 2)
    show (loginAttempt site username password attempts 2
      (stateAfter _ _ 2)).2.jwtAccessToken = []
    have here := fruitless 2 (by decide)
    rw [made] at here ⊢
    cases comes with
    | entered | rejected => cases here
    | again => rfl
  · have same : outcome = (result, last) := by
      simp only [outcome, login, ended]
      rfl
    obtain ⟨count, within, fruitless, here⟩ := retry_eq_some_iff.mp ended
    have inconclusive (earlier : Nat) (before : earlier < count) :
        ¬site.Conclusive (attempts earlier) username password :=
      (none_iff earlier _).mp (fruitless earlier before)
    have issued := loginAttempt_issued attempts plainName
      plainPassword simple reads count (issuedAfter count)
    obtain ⟨_, token, more, comes, made⟩ :=
      loginAttempt_comes attempts plainName plainPassword simple reads
        count
        (stateAfter (loginAttempt site username password attempts) ⟨[], []⟩
          count)
    rw [here] at made issued
    obtain ⟨rfl, rfl⟩ := Prod.mk.inj made
    rw [same]
    exact
      ⟨⟨issued.1, Nat.le_trans issued.2 within⟩,
        Or.inl ⟨count, within, inconclusive, more, comes⟩⟩

/-- A server which refuses a login makes no token for it. -/
theorem grants_of_refuses {attempt : Attempt numbers}
    (refuses : attempt.Refuses username password) :
    site.grants attempt username password = none := by
  rw [Site.grants, refuses]

/-- The login succeeds exactly if an attempt is answered with a token, and
none before it is conclusive. -/
theorem login_true_iff (plainName : Plain username)
    (plainPassword : Plain password)
    (simple : SimpleTokens site.library) (reads : ReadsInts numbers) :
    (login site username password attempts []).1 = true ↔
      ∃ count < kMaxRetries,
        (∀ earlier < count,
          ¬site.Conclusive (attempts earlier) username password) ∧
        (attempts count).delivery = .answered ∧
          (site.grants (attempts count) username password).isSome =
            true := by
  obtain ⟨-, ends⟩ :=
    login_cases attempts plainName plainPassword simple reads
  generalize login site username password attempts [] = outcome at ends ⊢
  obtain ⟨result, token, users⟩ := outcome
  constructor
  · rintro rfl
    rcases ends with ⟨count, within, earlier, more, comes⟩ | ⟨-, failed, -⟩
    · cases comes with
      | entered answered grants =>
          exact
            ⟨count, within, earlier, answered,
              Option.isSome_of_eq_some grants⟩
    · cases failed
  · rintro ⟨count, within, earlier, answered, granted⟩
    have here : site.Conclusive (attempts count) username password :=
      ⟨answered, Or.inl granted⟩
    rcases ends with ⟨other, -, before, more, comes⟩ | ⟨all, -⟩
    · have same : other = count :=
        Nat.le_antisymm
          (Nat.le_of_not_lt fun less => before count less here)
          (Nat.le_of_not_lt fun less =>
            earlier other less comes.conclusive)
      subst same
      cases comes with
      | entered => rfl
      | rejected answered refuses =>
          rw [grants_of_refuses refuses] at granted
          cases granted
    · exact absurd here (all count within)

end Attempts

/-! ## WebSockets -/

theorem text_ascii {word : String}
    (simple : ∀ char ∈ word.toList, Simple char) :
    text (ascii word) = word := by
  show String.ofList (charsOf (bytesOf word.toList)) = word
  rw [charsOf_bytesOf simple, String.ofList_toList]

theorem jwtAuthToken_authorization {token : String}
    (simple : ∀ char ∈ token.toList, Simple char) :
    jwtAuthToken (authorization (ascii token)) = token := by
  have removed : replaceFirst (ascii "Bearer ")
      (authorization (ascii token)) = ascii token := rfl
  rw [jwtAuthToken, removed, text_ascii simple]

/-- A token which has been made lets its user in. -/
theorem validate_of_generate {library : JwtLibrary} {serverKey : String}
    {username token : String} {bandwidthBit : Int32} {now : Int}
    (faithful : Web.Bandwidth.Faithful library)
    (made : Common.TokenManager.generate library serverKey username
      bandwidthBit now = some token) :
    validate library serverKey token =
      some (username, bandwidthBit.toInt64.toUInt64) := by
  obtain ⟨algorithm, keyed, signed⟩ := Option.bind_eq_some_iff.mp made
  obtain ⟨decoded, found, named, given⟩ :=
    faithful algorithm _ token signed
  simp [validate, found, named, given, asString, asInteger, makeVerifier,
    keyed]

/-- Where a connection is opened for the user. -/
def OpensFor (site : Site) (token : ByteString) (username : String) :
    Prop :=
  ∀ clock maxSessions (server next : Web.WebServer.Server) id open_,
    open_.url = Web.WebServer.kApiWebSocketUrl →
      open_.jwtAuthToken = jwtAuthToken (authorization token) →
        (server.session id).run = .openValidate open_ →
          server.runStep
              (Web.Authentication.serverConfig site.library site.serverKey
                clock maxSessions) id .proceed = some next →
            Web.Authentication.asUser (next.session id).run =
              some (open_, username)

theorem opensFor_of_generate {site : Site} {username token : String}
    {bandwidthBit : Int32} {now : Int}
    (faithful : Web.Bandwidth.Faithful site.library)
    (simple : SimpleTokens site.library)
    (made : Common.TokenManager.generate site.library site.serverKey
      username bandwidthBit now = some token) :
    OpensFor site (ascii token) username := by
  intro clock maxSessions server next id open_ url presented here taken
  rw [jwtAuthToken_authorization (generate_simple simple made)]
    at presented
  have known : Web.Authentication.KnownUrl open_ := Or.inl url
  rw [Web.Authentication.checkStep_asUser here taken, if_pos known,
    presented]
  show ((validate site.library site.serverKey token).map Prod.fst).map _ = _
  rw [validate_of_generate faithful made]
  rfl

/-- A login succeeds exactly if one of three attempts is answered with a token
and none before it has been refused or answered so.  The token then opens
connections for the user, with the bandwidth which the user has had in that
attempt.  Otherwise the client has no token.  Tokens have been made for the
user only, and one for each attempt at most. -/
theorem login_opens (site : Site) (username password : ByteString)
    (attempts : Nat → Attempt numbers) (plainName : Plain username)
    (plainPassword : Plain password)
    (faithful : Web.Bandwidth.Faithful site.library)
    (simple : SimpleTokens site.library) (reads : ReadsInts numbers) :
    let outcome := login site username password attempts []
    (outcome.1 = true ↔
        ∃ count < kMaxRetries,
          (∀ earlier < count,
            ¬site.Conclusive (attempts earlier) username password) ∧
          (attempts count).delivery = .answered ∧
            (site.grants (attempts count) username password).isSome =
              true) ∧
      (outcome.1 = true →
        OpensFor site outcome.2.jwtAccessToken (text username) ∧
          ∃ count < kMaxRetries, ∃ bandwidth : Int32,
            (attempts count).users.loginAsync numbers username password =
                some (some bandwidth.toInt) ∧
              validate site.library site.serverKey
                  (jwtAuthToken
                    (authorization outcome.2.jwtAccessToken)) =
                some (text username, bandwidth.toInt64.toUInt64)) ∧
      (outcome.1 = false → outcome.2.jwtAccessToken = []) ∧
      (∀ user ∈ outcome.2.issued, user = username) ∧
      outcome.2.issued.length ≤ kMaxRetries := by
  obtain ⟨issued, ends⟩ :=
    login_cases attempts plainName plainPassword simple reads
  have entered :=
    login_true_iff attempts plainName plainPassword simple reads
  dsimp only
  generalize login site username password attempts [] = outcome
    at issued ends entered ⊢
  obtain ⟨result, token, users⟩ := outcome
  refine ⟨entered, ?_, ?_, issued.1, issued.2⟩
  · rintro rfl
    rcases ends with ⟨count, within, -, more, comes⟩ | ⟨-, failed, -⟩
    · cases comes with
      | entered answered grants =>
          obtain ⟨accepted, made⟩ := grants_eq_some grants
          obtain ⟨bandwidth, rfl⟩ :=
            (attempts count).bandwidths _ _ _ accepted
          rw [Int32.ofInt_toInt] at made
          refine
            ⟨opensFor_of_generate faithful simple made, count, within,
              bandwidth, accepted, ?_⟩
          have carried :=
            jwtAuthToken_authorization (generate_simple simple made)
          exact
            (congrArg (validate site.library site.serverKey) carried).trans
              (validate_of_generate faithful made)
    · cases failed
  · rintro rfl
    rcases ends with ⟨count, -, -, more, comes⟩ | ⟨-, -, nothing⟩
    · cases comes with
      | rejected => rfl
    · exact nothing

/-! ## A login at the third attempt -/

open Fptn.Web.ApiLogin (anyNumbers)
open Fptn.Web.Bandwidth (exampleJwt exampleLibrary faithful_exampleLibrary)

/-- A server with one user, `alice`; passwords are kept as they are. -/
def onlyAlice : Web.ApiLogin.CommonUserManager where
  users name :=
    if name = ascii "alice" then some (ascii "secret", 100) else none
  hashPassword password := password

def exampleSite : Site where
  library := exampleLibrary
  serverKey := Web.Authentication.exampleKey
  dnsServerIPv4 := ascii "10.1.0.1"
  dnsServerIPv6 := ascii "fd01:1:1:1:1:1:1:1"
  prometheusAccessKey := []
  collect := []
  kData := []

theorem onlyAlice_bandwidth (username password : ByteString)
    (bandwidthBit : Int)
    (accepted : (Web.ApiLogin.UserManager.here onlyAlice).loginAsync
      anyNumbers username password = some (some bandwidthBit)) :
    ∃ bandwidth : Int32, bandwidth.toInt = bandwidthBit := by
  rw [Web.ApiLogin.UserManager.loginAsync] at accepted
  split at accepted
  case isFalse => cases accepted
  case isTrue authenticated =>
    obtain rfl := Option.some.inj (Option.some.inj accepted)
    by_cases alice : username = ascii "alice"
    · subst alice
      exact ⟨104857600, by decide +kernel⟩
    · have unknown : onlyAlice.users username = none := if_neg alice
      rw [Web.ApiLogin.CommonUserManager.authenticate, unknown]
        at authenticated
      cases authenticated

/-- The first request is lost, and the second response. -/
def exampleAttempts (attempt : Nat) : Attempt anyNumbers where
  users := .here onlyAlice
  bandwidths := onlyAlice_bandwidth
  now := 1700000000
  delivery :=
    match attempt with
    | 0 => .lost .timeout
    | 1 => .unanswered .systemError
    | _ => .answered

theorem simple_exampleJwt {bandwidthBit : Int32} {jwt : String × String}
    (made : exampleJwt bandwidthBit = some jwt) :
    (∀ char ∈ jwt.1.toList, Simple char) ∧
      ∀ char ∈ jwt.2.toList, Simple char := by
  rw [exampleJwt] at made
  split at made
  · obtain rfl := Option.some.inj made
    constructor
    · refine simple_append (simple_append (simple_append ?_ ?_) ?_) ?_
      all_goals exact simple_of_all (by decide +kernel)
    · refine simple_append ?_ ?_
      all_goals exact simple_of_all (by decide +kernel)
  · split at made
    · obtain rfl := Option.some.inj made
      constructor
      · refine simple_append (simple_append (simple_append ?_ ?_) ?_) ?_
        all_goals exact simple_of_all (by decide +kernel)
      · refine simple_append ?_ ?_
        all_goals exact simple_of_all (by decide +kernel)
    · cases made

theorem simpleTokens_exampleLibrary : SimpleTokens exampleLibrary := by
  intro algorithm builder token signed
  simp only [exampleLibrary] at signed
  split at signed
  case isTrue =>
    obtain ⟨jwt, made, rfl⟩ := Option.map_eq_some_iff.mp signed
    obtain ⟨data, signature⟩ := simple_exampleJwt made
    exact
      simple_append (simple_append data (simple_of_all (by decide)))
        signature
  case isFalse => cases signed

theorem login_opens_alice :
    let outcome :=
      login exampleSite (ascii "alice") (ascii "secret") exampleAttempts []
    outcome.1 = true ∧
      OpensFor exampleSite outcome.2.jwtAccessToken (text (ascii "alice")) ∧
        outcome.2.issued.length ≤ kMaxRetries := by
  have plainName : Plain (ascii "alice") := plain_of_all (by decide)
  have plainPassword : Plain (ascii "secret") := plain_of_all (by decide)
  obtain ⟨entered, opens, -, -, few⟩ :=
    login_opens exampleSite (ascii "alice") (ascii "secret")
      exampleAttempts plainName plainPassword faithful_exampleLibrary
      simpleTokens_exampleLibrary fun _ => rfl
  have third : (login exampleSite (ascii "alice") (ascii "secret")
      exampleAttempts []).1 = true := by
    refine entered.mpr ⟨2, by decide, ?_, rfl, by decide +kernel⟩
    rintro earlier before ⟨answered, -⟩
    interval_cases earlier
    · cases answered
    · cases answered
  exact ⟨third, (opens third).1, few⟩

end Fptn.Client.ApiExchange
