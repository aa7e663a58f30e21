import Fptn.Web.ApiLogin

/-!
# Requests over HTTP

A server registers handles for methods and URLs, and `HandleHttp` answers each
request which asks for no WebSocket.  Requests have methods without spaces, as
HTTP has them.

The metrics have a URL which ends in an access key, and no URL if there is no
such key.  Tokens are made for requests to log in, and for no others.
-/

namespace Fptn.Web.ApiHandles

open Fptn.Web.ApiLogin

/-! ## Handles -/

inductive ApiHandle where
  | handleApiDns
  | handleApiLogin
  | handleApiTestFile
  | handleApiMetrics
deriving DecidableEq

abbrev ApiHandleMap := ByteString → Option ApiHandle

def getApiKey (url method : ByteString) : ByteString :=
  method ++ 0x20 :: url

def addApiHandle (handles : ApiHandleMap) (url method : ByteString)
    (handle : ApiHandle) : ApiHandleMap :=
  Function.update handles (getApiKey url method) (some handle)

def getApiHandle (handles : ApiHandleMap) (url method : ByteString) :
    Option ApiHandle :=
  handles (getApiKey url method)

def kApiDnsUrl : ByteString := ascii "/api/v1/dns"

def kApiLoginUrl : ByteString := ascii "/api/v1/login"

def kApiTestFileBinUrl : ByteString := ascii "/api/v1/test/file.bin"

def kApiMetricsUrl : ByteString := ascii "/api/v1/metrics"

/-- A server, as far as its handles go. -/
structure Server where
  login : ApiLogin.Server
  dnsServerIPv4 : ByteString
  dnsServerIPv6 : ByteString
  prometheusAccessKey : ByteString
  /-- `Collect` of the metrics. -/
  collect : ByteString
  /-- The data for downloads. -/
  kData : ByteString

@[ext]
structure Registration where
  url : ByteString
  method : ByteString
  handle : ApiHandle

/-- What each server registers. -/
def commonRegistrations : List Registration :=
  [⟨kApiDnsUrl, ascii "GET", .handleApiDns⟩,
    ⟨kApiLoginUrl, ascii "POST", .handleApiLogin⟩,
    ⟨kApiTestFileBinUrl, ascii "GET", .handleApiTestFile⟩]

/-- What the constructor of a server registers; there are no metrics without
a key. -/
def Server.registrations (server : Server) : List Registration :=
  if server.prometheusAccessKey = [] then
    commonRegistrations
  else
    commonRegistrations ++
      [⟨kApiMetricsUrl ++ 0x2F :: server.prometheusAccessKey, ascii "GET",
        .handleApiMetrics⟩]

def addAll (handles : ApiHandleMap) (registrations : List Registration) :
    ApiHandleMap :=
  registrations.foldl
    (fun handles registration =>
      addApiHandle handles registration.url registration.method
        registration.handle)
    handles

def Server.apiHandles (server : Server) : ApiHandleMap :=
  addAll (fun _ => none) server.registrations

/-- A method of HTTP. -/
def Method (method : ByteString) : Prop :=
  0x20 ∉ method

instance (method : ByteString) : Decidable (Method method) :=
  inferInstanceAs (Decidable (_ ∉ _))

structure HttpRequest where
  method : ByteString
  url : ByteString
  body : ByteString
  spaceless : Method method

/-- The body of the response, with the addresses as they are. -/
def formatDns (dnsServerIPv4 dnsServerIPv6 : ByteString) : ByteString :=
  ascii "\x7b\"dns\": \"" ++ dnsServerIPv4 ++ ascii "\", \"dns_ipv6\": \"" ++
    dnsServerIPv6 ++ ascii "\" \x7d"

section Answer

variable (numbers : Numbers) (server : Server)

def Server.handle (body : ByteString) : ApiHandle → Handled
  | .handleApiDns =>
      { response :=
          { body := formatDns server.dnsServerIPv4 server.dnsServerIPv6
            code := 200 }
        tokensFor := none }
  | .handleApiLogin => server.login.handleApiLogin numbers body
  | .handleApiTestFile =>
      { response :=
          { body := server.kData
            code := 200 }
        tokensFor := none }
  | .handleApiMetrics =>
      { response :=
          { body := server.collect
            code := 200 }
        tokensFor := none }

def notFound : Handled where
  response :=
    { body := ascii "404 Not Found"
      code := 404 }
  tokensFor := none

/-- `HandleHttp`; there is no response to a request without a method and a
URL. -/
def Server.handleHttp (request : HttpRequest) : Option Handled :=
  if request.method = [] ∧ request.url = [] then
    none
  else
    match getApiHandle server.apiHandles request.url request.method with
    | some handle => some (server.handle numbers request.body handle)
    | none => some notFound

end Answer

/-! ## Keys -/

variable {method method' url url' : ByteString}

/-- A key tells the method and the URL. -/
theorem getApiKey_inj (spaceless : Method method)
    (spaceless' : Method method') :
    getApiKey url method = getApiKey url' method' ↔
      method = method' ∧ url = url' := by
  constructor
  · intro same
    have word {text rest : ByteString} (none_ : Method text) :
        (text ++ 0x20 :: rest).takeWhile (· != 0x20) = text := by
      rw [List.takeWhile_append_of_pos]
      · simp
      · intro byte member
        rw [bne_iff_ne]
        rintro rfl
        exact none_ member
    have first := congrArg (List.takeWhile (· != 0x20)) same
    rw [getApiKey, getApiKey, word spaceless, word spaceless'] at first
    subst first
    exact ⟨rfl, (List.cons.inj (List.append_cancel_left same)).2⟩
  · rintro ⟨rfl, rfl⟩
    rfl

theorem getApiHandle_addApiHandle {handles : ApiHandleMap}
    {handle : ApiHandle} (spaceless : Method method)
    (spaceless' : Method method') :
    getApiHandle (addApiHandle handles url' method' handle) url method =
      if method = method' ∧ url = url' then
        some handle
      else
        getApiHandle handles url method := by
  rw [getApiHandle, addApiHandle, Function.update_apply]
  simp only [getApiKey_inj spaceless spaceless']
  rfl

/-- Two registrations have not the same key. -/
def Registration.Apart (first second : Registration) : Prop :=
  ¬(second.method = first.method ∧ second.url = first.url)

instance (first second : Registration) :
    Decidable (first.Apart second) :=
  inferInstanceAs (Decidable ¬(_ ∧ _))

/-- What is registered can be found, and what has been there otherwise. -/
theorem getApiHandle_addAll {registrations : List Registration}
    {handles : ApiHandleMap} {handle : ApiHandle}
    (apart : registrations.Pairwise Registration.Apart)
    (methods : ∀ registration ∈ registrations, Method registration.method)
    (spaceless : Method method) :
    getApiHandle (addAll handles registrations) url method = some handle ↔
      ⟨url, method, handle⟩ ∈ registrations ∨
        (∀ registration ∈ registrations,
          ¬(method = registration.method ∧ url = registration.url)) ∧
          getApiHandle handles url method = some handle := by
  induction registrations generalizing handles with
  | nil => simp [addAll]
  | cons registration rest ih =>
      obtain ⟨others, apart⟩ := List.pairwise_cons.mp apart
      obtain ⟨here, methods⟩ := List.forall_mem_cons.mp methods
      show getApiHandle (addAll _ rest) url method = some handle ↔ _
      rw [ih apart methods, getApiHandle_addApiHandle spaceless here,
        List.forall_mem_cons, List.mem_cons]
      by_cases same :
          method = registration.method ∧ url = registration.url
      · obtain ⟨rfl, rfl⟩ := same
        have alone : ∀ other ∈ rest, ¬(registration.method = other.method ∧
            registration.url = other.url) := by
          rintro other member ⟨method, url⟩
          exact others other member ⟨method.symm, url.symm⟩
        have found : some registration.handle = some handle ↔
            ⟨registration.url, registration.method, handle⟩ =
              registration := by
          rw [Option.some.injEq, eq_comm, Registration.ext_iff]
          simp
        rw [if_pos ⟨rfl, rfl⟩, found]
        tauto
      · have different :
            ⟨url, method, handle⟩ ≠ registration := by
          rintro rfl
          exact same ⟨rfl, rfl⟩
        rw [if_neg same]
        tauto

/-- The URL of the metrics is none of the others. -/
theorem metrics_apart (key : ByteString) :
    ∀ other ∈ commonRegistrations,
      kApiMetricsUrl ++ 0x2F :: key ≠ other.url := by
  have apart : ∀ other ∈ commonRegistrations,
      other.url.take kApiMetricsUrl.length ≠ kApiMetricsUrl := by
    decide
  intro other member same
  apply apart other member
  rw [← same, List.take_left]

theorem registrations_apart (server : Server) :
    server.registrations.Pairwise Registration.Apart := by
  have common : commonRegistrations.Pairwise Registration.Apart := by
    decide
  rw [Server.registrations]
  split
  · exact common
  · refine
      List.pairwise_append.mpr
        ⟨common, List.pairwise_singleton _ _, ?_⟩
    rintro one member other later ⟨-, same⟩
    obtain rfl := List.mem_singleton.mp later
    exact metrics_apart server.prometheusAccessKey one member same

theorem registrations_methods (server : Server) :
    ∀ registration ∈ server.registrations, Method registration.method := by
  have common : ∀ registration ∈ commonRegistrations,
      Method registration.method := by
    decide
  have get : Method (ascii "GET") := by decide
  rw [Server.registrations]
  split
  · exact common
  · intro registration member
    rcases List.mem_append.mp member with first | metrics
    · exact common registration first
    · obtain rfl := List.mem_singleton.mp metrics
      exact get

/-- A request reaches the handle which is registered for its method and its
URL. -/
theorem getApiHandle_eq_some_iff {server : Server} {handle : ApiHandle}
    (spaceless : Method method) :
    getApiHandle server.apiHandles url method = some handle ↔
      ⟨url, method, handle⟩ ∈ server.registrations := by
  rw [Server.apiHandles, getApiHandle_addAll (registrations_apart server)
    (registrations_methods server) spaceless]
  exact or_iff_left fun other => by cases other.2

theorem mem_registrations {server : Server} {registration : Registration} :
    registration ∈ server.registrations ↔
      registration ∈ commonRegistrations ∨
        server.prometheusAccessKey ≠ [] ∧
          registration =
            ⟨kApiMetricsUrl ++ 0x2F :: server.prometheusAccessKey,
              ascii "GET", .handleApiMetrics⟩ := by
  rw [Server.registrations]
  split
  case isTrue none_ => simp [none_]
  case isFalse keyed => simp [keyed]

/-! ## Answers -/

section Answers

variable {numbers : Numbers} {server : Server} {request : HttpRequest}

/-- What a request with a registered method and URL is answered. -/
theorem handleHttp_of_registered {handle : ApiHandle}
    (named : request.method ≠ [])
    (registered :
      ⟨request.url, request.method, handle⟩ ∈ server.registrations) :
    server.handleHttp numbers request =
      some (server.handle numbers request.body handle) := by
  rw [Server.handleHttp, if_neg fun nothing => named nothing.1,
    (getApiHandle_eq_some_iff request.spaceless).mpr registered]

/-- An answer is that of a handle, or that there is none. -/
theorem handled_of_handleHttp {handled : Handled}
    (answered : server.handleHttp numbers request = some handled) :
    handled = notFound ∨
      ∃ handle,
        ⟨request.url, request.method, handle⟩ ∈ server.registrations ∧
          handled = server.handle numbers request.body handle := by
  rw [Server.handleHttp] at answered
  split at answered
  · cases answered
  · split at answered
    case h_1 handle found =>
      exact
        Or.inr
          ⟨handle, (getApiHandle_eq_some_iff request.spaceless).mp found,
            (Option.some.inj answered).symm⟩
    case h_2 =>
      exact Or.inl (Option.some.inj answered).symm

/-- Tokens are made for posts to the URL of the login only, and only for a
user whose password the user manager accepts; the handle of the metrics is
reached with their URL and the access key, exactly if there is a key. -/
theorem handles_reached (numbers : Numbers) (server : Server)
    (request : HttpRequest) :
    (∀ handled user,
        server.handleHttp numbers request = some handled →
          handled.tokensFor = some user →
            request.method = ascii "POST" ∧ request.url = kApiLoginUrl ∧
              ∃ password bandwidthBit,
                credentials numbers request.body = some (user, password) ∧
                  server.login.userManager.loginAsync numbers user
                    password = some (some bandwidthBit)) ∧
      (getApiHandle server.apiHandles request.url request.method =
          some .handleApiMetrics ↔
        server.prometheusAccessKey ≠ [] ∧ request.method = ascii "GET" ∧
          request.url =
            kApiMetricsUrl ++ 0x2F :: server.prometheusAccessKey) := by
  constructor
  · intro handled user answered issued
    rcases handled_of_handleHttp answered with
      rfl | ⟨handle, registered, rfl⟩
    · cases issued
    · cases handle with
      | handleApiDns | handleApiTestFile | handleApiMetrics => cases issued
      | handleApiLogin =>
          rcases mem_registrations.mp registered with common | ⟨-, same⟩
          · obtain ⟨url, method⟩ :
                request.url = kApiLoginUrl ∧
                  request.method = ascii "POST" := by
              simpa [commonRegistrations] using common
            exact ⟨method, url, handleApiLogin_tokensFor issued⟩
          · cases congrArg Registration.handle same
  · rw [getApiHandle_eq_some_iff request.spaceless, mem_registrations]
    simp [commonRegistrations, and_comm]

end Answers

end Fptn.Web.ApiHandles
