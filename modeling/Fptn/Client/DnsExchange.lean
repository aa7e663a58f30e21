import Fptn.Client.ApiExchange

/-!
# The addresses of the name servers

`GetDns` asks the server for the addresses of its name servers, with up to
three attempts, and keeps them.  Later calls return what has been kept, unless
one of the addresses is empty.
-/

namespace Fptn.Client.DnsExchange

open Fptn.Json
open Fptn.Retry
open Fptn.Network.IPAddress
open Fptn.Client.ApiExchange
open Fptn.Web.ApiLogin (ByteString ascii Numbers Response)
open Fptn.Web.ApiHandles
open Fptn.Web.Bandwidth (text)

/-! ## The client -/

/-- The addresses which a client keeps. -/
structure Addresses where
  dnsIPv4 : IPv4Address
  dnsIPv6 : IPv6Address

/-- An address object which has not been built from any text. -/
def Addresses.start : Addresses where
  dnsIPv4 := ⟨"", 0⟩
  dnsIPv6 := ⟨"", none⟩

def isEmptyIPv4 (address : IPv4Address) : Bool :=
  address.ip == "" || address.impl == 0

def isEmptyIPv6 (address : IPv6Address) : Bool :=
  address.ip == "" || address.impl == none

def fptnServerDefaultAddressIP6 : ByteString := ascii "fc00:1::1"

def dnsRequest : HttpRequest where
  method := ascii "GET"
  url := ascii "/api/v1/dns"
  body := []
  spaceless := by decide

section Client

variable (addressText : AddressText) {numbers : Numbers}

/-- The text of the second address, which may be missing. -/
def secondAddress (msg : Value) : Option ByteString :=
  match member? (ascii "dns_ipv6") msg with
  | some value => string? value
  | none => some fptnServerDefaultAddressIP6

/-- The addresses of a response, if it has them. -/
def readAddresses (numbers : Numbers) (resp : Response) : Option Addresses :=
  if resp.code = 200 then do
    let msg ← parse numbers.inRange resp.body
    let dnsIPv4 ← string? (← member? (ascii "dns") msg)
    let dnsIPv6 ← secondAddress msg
    return {
      dnsIPv4 := IPv4Address.ofString addressText (text dnsIPv4)
      dnsIPv6 := IPv6Address.ofString addressText (text dnsIPv6) }
  else
    none

variable (site : Site) (attempts : Nat → Attempt numbers)

def dnsAttempt (attempt : Nat) (known : Addresses) :
    Option Unit × Addresses :=
  match readAddresses addressText numbers
      (site.respond (attempts attempt) dnsRequest).1 with
  | some addresses => (some (), addresses)
  | none => (none, known)

/-- `GetDns`: what is kept, which is also what is returned. -/
def getDns (known : Addresses) : Addresses :=
  if !isEmptyIPv4 known.dnsIPv4 && !isEmptyIPv6 known.dnsIPv6 then
    known
  else
    (retry (dnsAttempt addressText site attempts) kMaxRetries 0 known).2

end Client

/-- Some calls, one after the other. -/
def getDnsCalls (addressText : AddressText) {numbers : Numbers} (site : Site)
    (calls : List (Nat → Attempt numbers)) (known : Addresses) : Addresses :=
  calls.foldl (fun known attempts => getDns addressText site attempts known)
    known

/-! ## What is read -/

section Reads

variable {addressText : AddressText} {numbers : Numbers} {site : Site}

theorem plain_dns : Plain (ascii "dns") :=
  plain_of_all (by decide)

theorem plain_dnsIPv6 : Plain (ascii "dns_ipv6") :=
  plain_of_all (by decide)

theorem formatDns_eq (dnsIPv4 dnsIPv6 : ByteString) :
    formatDns dnsIPv4 dnsIPv6 =
      0x7B :: 0x22 :: (ascii "dns" ++ 0x22 :: 0x3A :: 0x20 ::
        0x22 :: (dnsIPv4 ++ 0x22 :: 0x2C :: 0x20 ::
          0x22 :: (ascii "dns_ipv6" ++ 0x22 :: 0x3A :: 0x20 ::
            0x22 :: (dnsIPv6 ++ 0x22 :: 0x20 :: 0x7D :: [])))) := by
  simp [formatDns, ascii]

theorem tokens_formatDns {dnsIPv4 dnsIPv6 : ByteString}
    (plainIPv4 : Plain dnsIPv4) (plainIPv6 : Plain dnsIPv6) :
    tokens numbers.inRange (formatDns dnsIPv4 dnsIPv6) =
      some [.beginObject, .string (ascii "dns"), .nameSeparator,
        .string dnsIPv4, .valueSeparator, .string (ascii "dns_ipv6"),
        .nameSeparator, .string dnsIPv6, .endObject] := by
  rw [formatDns_eq, tokens_openBrace, tokens_string plain_dns,
    tokens_colon, tokens_space, tokens_string plainIPv4, tokens_comma,
    tokens_space, tokens_string plain_dnsIPv6, tokens_colon, tokens_space,
    tokens_string plainIPv6, tokens_space, tokens_closeBrace, tokens_nil]
  rfl

/-- The texts of two addresses, as the server has them. -/
structure Printed (site : Site) where
  ipv4 : String
  ipv6 : String
  simpleIPv4 : ∀ char ∈ ipv4.toList, Simple char
  simpleIPv6 : ∀ char ∈ ipv6.toList, Simple char
  sameIPv4 : site.dnsServerIPv4 = ascii ipv4
  sameIPv6 : site.dnsServerIPv6 = ascii ipv6

/-- The addresses of the server. -/
def Printed.addresses (printed : Printed site) (addressText : AddressText) :
    Addresses where
  dnsIPv4 := IPv4Address.ofString addressText printed.ipv4
  dnsIPv6 := IPv6Address.ofString addressText printed.ipv6

theorem readAddresses_formatDns (printed : Printed site) :
    readAddresses addressText numbers
        { body := formatDns site.dnsServerIPv4 site.dnsServerIPv6
          code := 200 } = some (printed.addresses addressText) := by
  have marked : skipMark (formatDns site.dnsServerIPv4 site.dnsServerIPv6) =
      some (formatDns site.dnsServerIPv4 site.dnsServerIPv6) := by
    rw [formatDns_eq]
    rfl
  have plainIPv4 : Plain site.dnsServerIPv4 := by
    rw [printed.sameIPv4]
    exact plain_bytesOf printed.simpleIPv4
  have plainIPv6 : Plain site.dnsServerIPv6 := by
    rw [printed.sameIPv6]
    exact plain_bytesOf printed.simpleIPv6
  have same : printed.addresses addressText =
      { dnsIPv4 := IPv4Address.ofString addressText (text site.dnsServerIPv4)
        dnsIPv6 :=
          IPv6Address.ofString addressText (text site.dnsServerIPv6) } := by
    rw [Printed.addresses, printed.sameIPv4, printed.sameIPv6,
      text_ascii printed.simpleIPv4, text_ascii printed.simpleIPv6]
  rw [same, readAddresses, if_pos rfl,
    parse_of_tokens marked (tokens_formatDns plainIPv4 plainIPv6) rfl]
  rfl

theorem handleHttp_dns (attempt : Attempt numbers) :
    (site.server attempt).handleHttp numbers dnsRequest =
      some
        { response :=
            { body := formatDns site.dnsServerIPv4 site.dnsServerIPv6
              code := 200 }
          tokensFor := none } := by
  have named : dnsRequest.method ≠ [] := by decide
  have registered :
      ⟨kApiDnsUrl, ascii "GET", .handleApiDns⟩ ∈
        (site.server attempt).registrations :=
    mem_registrations.mpr (Or.inl List.mem_cons_self)
  exact handleHttp_of_registered named registered

/-- An attempt gives the addresses if it is answered. -/
theorem dnsAttempt_eq (printed : Printed site)
    (attempts : Nat → Attempt numbers) (attempt : Nat) (known : Addresses) :
    ((attempts attempt).delivery = .answered ∧
        dnsAttempt addressText site attempts attempt known =
          (some (), printed.addresses addressText)) ∨
      ((attempts attempt).delivery ≠ .answered ∧
        dnsAttempt addressText site attempts attempt known =
          (none, known)) := by
  have failed (failure : Failure) :
      readAddresses addressText numbers failure.response = none := by
    cases failure <;> rfl
  cases delivered : (attempts attempt).delivery with
  | lost failure | unanswered failure =>
      refine Or.inr ⟨?_, ?_⟩
      · rintro ⟨⟩
      · simp only [dnsAttempt, Site.respond, delivered, failed]
  | answered =>
      refine Or.inl ⟨rfl, ?_⟩
      simp only [dnsAttempt, Site.respond, delivered, handleHttp_dns,
        readAddresses_formatDns printed]

end Reads

/-! ## Calls -/

/-- One of the attempts is answered. -/
def Reaches {numbers : Numbers} (attempts : Nat → Attempt numbers) : Prop :=
  ∃ count < kMaxRetries, (attempts count).delivery = .answered

section Calls

variable {addressText : AddressText} {numbers : Numbers} {site : Site}
  {attempts : Nat → Attempt numbers}

theorem not_answered (printed : Printed site) {count : Nat}
    {known : Addresses}
    (nothing : (dnsAttempt addressText site attempts count known).1 = none) :
    (attempts count).delivery ≠ .answered ∧
      (dnsAttempt addressText site attempts count known).2 = known := by
  rcases dnsAttempt_eq printed attempts count known with
    ⟨-, same⟩ | ⟨other, same⟩
  · rw [same] at nothing
    cases nothing
  · exact ⟨other, congrArg Prod.snd same⟩

/-- Attempts which are not answered leave the addresses as they are. -/
theorem stateAfter_dns (printed : Printed site) {known : Addresses}
    {count : Nat}
    (fruitless :
      Fruitless (dnsAttempt addressText site attempts) known count) :
    stateAfter (dnsAttempt addressText site attempts) known count =
      known := by
  induction count with
  | zero => rfl
  | succ count ih =>
      obtain ⟨before, here⟩ := fruitless_succ.mp fruitless
      rw [stateAfter, (not_answered printed here).2, ih before]

/-- The addresses of the server are known behind a call which reaches it. -/
theorem retry_dns (printed : Printed site) (known : Addresses) :
    (Reaches attempts ∧
        (retry (dnsAttempt addressText site attempts) kMaxRetries 0
          known).2 = printed.addresses addressText) ∨
      (¬Reaches attempts ∧
        (retry (dnsAttempt addressText site attempts) kMaxRetries 0
          known).2 = known) := by
  rcases fruitless_or_first (dnsAttempt addressText site attempts) known
      kMaxRetries with fruitless | ⟨count, within, before, result, last, here⟩
  · refine Or.inr ⟨?_, ?_⟩
    · rintro ⟨count, within, answered⟩
      exact (not_answered printed (fruitless count within)).1 answered
    · rw [retry_all fruitless]
      exact stateAfter_dns printed fruitless
  · rcases dnsAttempt_eq printed attempts count _ with
      ⟨answered, same⟩ | ⟨-, same⟩
    · rw [here] at same
      refine Or.inl ⟨⟨count, within, answered⟩, ?_⟩
      rw [retry_eq_some_iff.mpr ⟨count, within, before, here⟩]
      exact (Prod.mk.inj same).2
    · rw [here] at same
      cases (Prod.mk.inj same).1

/-- What has been read once is not lost, whether or not it is asked for
again. -/
theorem getDns_server (printed : Printed site) :
    getDns addressText site attempts (printed.addresses addressText) =
      printed.addresses addressText := by
  rw [getDns]
  split
  · rfl
  · rcases retry_dns printed (printed.addresses addressText) with
      ⟨-, same⟩ | ⟨-, same⟩
    · exact same
    · exact same

theorem getDns_start (printed : Printed site) :
    (Reaches attempts ∧
        getDns addressText site attempts .start =
          printed.addresses addressText) ∨
      (¬Reaches attempts ∧
        getDns addressText site attempts .start = .start) :=
  retry_dns printed .start

/-- However often a client has asked, it has the addresses of the server once
one of the attempts of one of the calls has been answered, and empty ones
before.  No call loses them again. -/
theorem getDnsCalls_eq (addressText : AddressText) (site : Site)
    (printed : Printed site)
    (calls : List (Nat → Attempt numbers)) :
    ((∃ attempts ∈ calls, Reaches attempts) →
        getDnsCalls addressText site calls .start =
          printed.addresses addressText) ∧
      ((∀ attempts ∈ calls, ¬Reaches attempts) →
        getDnsCalls addressText site calls .start = .start) := by
  induction calls using List.reverseRecOn with
  | nil =>
      constructor
      · rintro ⟨attempts, member, -⟩
        cases member
      · exact fun _ => rfl
  | append_singleton calls attempts ih =>
      rw [getDnsCalls, List.foldl_append, List.foldl_cons, List.foldl_nil]
      change (_ → getDns addressText site attempts
          (getDnsCalls addressText site calls .start) = _) ∧
        (_ → getDns addressText site attempts
          (getDnsCalls addressText site calls .start) = _)
      by_cases earlier : ∃ attempts ∈ calls, Reaches attempts
      · rw [ih.1 earlier, getDns_server printed]
        refine ⟨fun _ => rfl, fun none_ => ?_⟩
        obtain ⟨other, member, reaches⟩ := earlier
        exact
          absurd reaches (none_ other (List.mem_append_left _ member))
      · have none_ (other : Nat → Attempt numbers) (member : other ∈ calls) :
            ¬Reaches other :=
          fun reaches => earlier ⟨other, member, reaches⟩
        rw [ih.2 none_]
        have last : attempts ∈ calls ++ [attempts] :=
          List.mem_append_right _ (List.mem_singleton_self _)
        rcases getDns_start printed with ⟨reaches, same⟩ | ⟨lost, same⟩
        · rw [same]
          exact ⟨fun _ => rfl, fun all => absurd reaches (all _ last)⟩
        · rw [same]
          refine ⟨?_, fun _ => rfl⟩
          rintro ⟨other, member, reaches⟩
          rcases List.mem_append.mp member with before | here
          · exact absurd reaches (none_ other before)
          · obtain rfl := List.mem_singleton.mp here
            exact absurd reaches lost

end Calls

/-! ## A server which is reached at the second call -/

open Fptn.Web.ApiLogin (anyNumbers)

def examplePrinted : Printed exampleSite where
  ipv4 := "10.1.0.1"
  ipv6 := "fd01:1:1:1:1:1:1:1"
  simpleIPv4 := simple_of_all (by decide)
  simpleIPv6 := simple_of_all (by decide)
  sameIPv4 := rfl
  sameIPv6 := rfl

/-- All requests are lost. -/
def lostAttempts (attempt : Nat) : Attempt anyNumbers :=
  { exampleAttempts attempt with delivery := .lost .timeout }

/-- The first call is lost, and the second one is answered at its third
attempt. -/
theorem getDnsCalls_second :
    getDnsCalls plainText exampleSite [lostAttempts, exampleAttempts]
        .start =
      examplePrinted.addresses plainText ∧
        isEmptyIPv4 (examplePrinted.addresses plainText).dnsIPv4 = false ∧
          isEmptyIPv6 (examplePrinted.addresses plainText).dnsIPv6 =
            false := by
  have second : Reaches exampleAttempts := ⟨2, by decide, rfl⟩
  obtain ⟨reached, -⟩ :=
    getDnsCalls_eq plainText exampleSite examplePrinted
      [lostAttempts, exampleAttempts]
  refine ⟨reached ⟨exampleAttempts, ?_, second⟩, ?_, ?_⟩
  · exact List.mem_cons_of_mem _ (List.mem_singleton_self _)
  · decide +kernel
  · decide +kernel

end Fptn.Client.DnsExchange
