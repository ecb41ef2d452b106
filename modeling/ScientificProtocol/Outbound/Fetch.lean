import ScientificProtocol.Outbound.Classify

/-!
# Fetching from the outside

`fetchBoundedOutbound` of `src/shared/outbound-request.ts`. A request is made, and as long as it is
answered with a redirect, another one; each goes through the same checks, and the names it needs are
looked up before it is made. The client gets a lookup that hands out the addresses that were checked,
and no others. So whatever is answered, by servers and by the DNS, no request leaves the public
address space (`fetchBoundedOutbound_public`).

What the client and `new URL` do is assumed: a URL of the web has a host in lower case, with brackets
around an IPv6 address (`IsHostname`), and the client connects to the address that the host is, or to
one that the lookup has handed out (`Connects`).
-/

namespace ScientificProtocol.Outbound

open Js

/-! ### The source -/

structure LookupResult where
  address : List Char
  family : ℕ

structure Url where
  protocol : String
  username : String
  password : String
  hostname : List Char

structure OutboundRequestPolicy where
  allowPrivateNetworks : Bool := false
  maxBytes : ℕ := 32 * 1024 * 1024
  maxRedirects : ℕ := 3

inductive OutboundError where
  | unsafeDestination (message : String)
  | responseLimit (maxBytes : ℕ)
  /-- What the client, the lookup or `new URL` throws. -/
  | thrown

/-- What a server answers. A body comes in chunks, and reading one may fail. -/
structure Response where
  status : ℕ
  location : Option String
  contentLength : Option String
  body : Option (List (Option (List UInt8)))

structure BoundedOutboundResponse where
  body : List UInt8
  finalUrl : String
  status : ℕ

/-- A host as `new URL` gives it. -/
def IsHostname (hostname : List Char) : Prop :=
  hostname.map Char.toLower = hostname ∧ '%' ∉ hostname ∧
    ('[' ∉ hostname ∧ ']' ∉ hostname ∨ ∃ inner, hostname = '[' :: inner ++ [']'])

def Url.IsWeb (url : Url) : Prop := url.protocol = "https:" ∨ url.protocol = "http:"

instance (url : Url) : Decidable url.IsWeb :=
  inferInstanceAs (Decidable (url.protocol = "https:" ∨ url.protocol = "http:"))

/-- What the host provides: `isIP`, `new URL(text)`, `new URL(location, url).toString()` and
`url.toString()`. -/
structure Web extends Net where
  parse : String → Option Url
  resolve : String → Url → Option String
  text : Url → String
  hostname_parse : ∀ rawUrl url, parse rawUrl = some url → url.IsWeb → IsHostname url.hostname

/-- What comes from outside while one request is made: what the DNS answers for each name, and what
the server answers. Either may fail. -/
structure Round where
  dnsLookup : List Char → Option (List LookupResult)
  response : Option Response

def blockedHostnames : List (List Char) :=
  ["metadata.google.internal".toList, "metadata.aws.internal".toList,
    "instance-data.ec2.internal".toList]

section

variable (web : Web) (policy : OutboundRequestPolicy)

def isBlockedOutboundHostname (rawHostname : List Char) : Bool :=
  let hostname := normalizeHostname rawHostname
  hostname.isEmpty || blockedHostnames.contains hostname || hostname == "localhost".toList ||
    ".localhost".toList.isSuffixOf hostname ||
    (web.isIP hostname != 0 && isPrivateOrSpecialAddress web.isIP hostname)

def parseSafeOutboundUrl (rawUrl : String) : Except OutboundError Url :=
  match web.parse rawUrl with
  | none => .error (.unsafeDestination "outbound destination must be an absolute URL")
  | some url =>
    if ¬url.IsWeb then
      .error (.unsafeDestination "outbound destination must use http or https")
    else if url.username ≠ "" ∨ url.password ≠ "" then
      .error (.unsafeDestination "outbound destination must not contain credentials")
    else if isBlockedOutboundHostname web (normalizeHostname url.hostname) ∧
        ¬(policy.allowPrivateNetworks ∧ web.isIP (normalizeHostname url.hostname) ≠ 0) then
      .error (.unsafeDestination "outbound destination host is blocked")
    else .ok url

/-- The address that a name is, or those the DNS has for it. -/
def addressesOf (dnsLookup : List Char → Option (List LookupResult)) (hostname : List Char) :
    Option (List LookupResult) :=
  if web.isIP hostname ≠ 0 then some [⟨hostname, web.isIP hostname⟩] else dnsLookup hostname

def resolveSafeOutboundTarget (dnsLookup : List Char → Option (List LookupResult))
    (rawUrl : String) : Except OutboundError (List LookupResult × Url) := do
  let url ← parseSafeOutboundUrl web policy rawUrl
  match addressesOf web dnsLookup (normalizeHostname url.hostname) with
  | none => .error .thrown
  | some addresses =>
    if addresses = [] then
      .error (.unsafeDestination "outbound destination has no resolved address")
    else if ¬policy.allowPrivateNetworks ∧
        ∃ entry ∈ addresses, isPrivateOrSpecialAddress web.isIP entry.address then
      .error (.unsafeDestination "outbound destination resolves to a private or special address")
    else .ok (addresses, url)

/-- It answers for the host that was checked only, with all its addresses or with the first one. -/
def createPinnedLookup (expectedHostname : List Char) (addresses : List LookupResult)
    (hostname : List Char) (all : Bool) : Option (List LookupResult) :=
  if normalizeHostname hostname ≠ normalizeHostname expectedHostname ∨ addresses = [] then none
  else if all then some addresses
  else addresses.head?.map fun selected => [selected]

/-- The chunks of a body, while there are not too many bytes. -/
def readChunks (maxBytes : ℕ) : ℕ → List (Option (List UInt8)) →
    Except OutboundError (List (List UInt8))
  | _, [] => .ok []
  | _, none :: _ => .error .thrown
  | total, some chunk :: chunks =>
    if maxBytes < total + chunk.length then .error (.responseLimit maxBytes)
    else (readChunks maxBytes (total + chunk.length) chunks).map (chunk :: ·)

/-- `Number(contentLength) > maxBytes` -/
def exceeds (maxBytes : ℕ) : Double → Bool
  | .nan => false
  | .infinite negative => !negative
  | .finite q => (maxBytes : ℚ) < q

def readBoundedBody (response : Response) (maxBytes : ℕ) : Except OutboundError (List UInt8) :=
  if ∃ contentLength ∈ response.contentLength,
      contentLength ≠ "" ∧ exceeds maxBytes (number contentLength.toList) = true then
    .error (.responseLimit maxBytes)
  else (readChunks maxBytes 0 (response.body.getD [])).map List.flatten

/-- A request, with the lookup that the client is given. -/
structure Request where
  url : Url
  lookup : List Char → Bool → Option (List LookupResult)

/-- The requests that are made, and what is returned at the end. There are `left` redirects that may
be followed. -/
def fetchLoop (world : ℕ → Round) : ℕ → ℕ → String →
    List Request × Except OutboundError BoundedOutboundResponse
  | left, redirects, currentUrl =>
    match resolveSafeOutboundTarget web policy (world redirects).dnsLookup currentUrl with
    | .error e => ([], .error e)
    | .ok (addresses, url) =>
      let request : Request := ⟨url, createPinnedLookup url.hostname addresses⟩
      match (world redirects).response with
      | none => ([request], .error .thrown)
      | some response =>
        if response.status ∈ [301, 302, 303, 307, 308] then
          if response.location = none ∨ response.location = some "" then
            ([request], .error (.unsafeDestination "outbound redirect is missing a location"))
          else
            match left with
            | 0 => ([request], .error (.unsafeDestination "outbound redirect limit exceeded"))
            | left + 1 =>
              match web.resolve (response.location.getD "") url with
              | none => ([request], .error .thrown)
              | some nextUrl =>
                let (requests, result) := fetchLoop world left (redirects + 1) nextUrl
                (request :: requests, result)
        else ([request], (readBoundedBody response policy.maxBytes).map fun body =>
          ⟨body, web.text url, response.status⟩)

def fetchBoundedOutbound (world : ℕ → Round) (rawUrl : String) :
    List Request × Except OutboundError BoundedOutboundResponse :=
  fetchLoop web policy world policy.maxRedirects 0 rawUrl

end

/-! ### The client -/

/-- A host without its brackets. -/
def unbracketed (hostname : List Char) : List Char :=
  if hostname.head? = some '[' then hostname.tail.dropLast else hostname

/-- **The addresses a client connects to**: the one that the host is, or one that the lookup has
handed out, for whatever name it was asked. -/
inductive Connects (isIP : List Char → ℕ) (request : Request) : List Char → Prop where
  | literal (h : isIP (unbracketed request.url.hostname) ≠ 0) :
      Connects isIP request (unbracketed request.url.hostname)
  | lookup {hostname : List Char} {all : Bool} {answers : List LookupResult} {entry : LookupResult}
      (h : request.lookup hostname all = some answers) (hentry : entry ∈ answers) :
      Connects isIP request entry.address

/-- **An address was checked** while this request was made, for its host, and is not private. -/
def Checked (web : Web) (round : Round) (hostname address : List Char) : Prop :=
  (∃ addresses, addressesOf web round.dnsLookup (normalizeHostname hostname) = some addresses ∧
    ∃ entry ∈ addresses, entry.address = address) ∧
  isPrivateOrSpecialAddress web.isIP address = false

/-- **A request stays outside**: it is one of the web, without credentials, and the client connects
to checked addresses only. -/
structure Public (web : Web) (round : Round) (request : Request) : Prop where
  isWeb : request.url.IsWeb
  username : request.url.username = ""
  password : request.url.password = ""
  checked : ∀ address, Connects web.isIP request address →
    Checked web round request.url.hostname address

/-! ### One request -/

section

variable {web : Web} {policy : OutboundRequestPolicy}
  {dnsLookup : List Char → Option (List LookupResult)} {addresses : List LookupResult} {url : Url}

/-- A host that is an address is looked at as the client sees it. -/
theorem normalizeHostname_of_isIP {hostname : List Char} (hhost : IsHostname hostname)
    (hip : web.isIP (unbracketed hostname) ≠ 0) :
    normalizeHostname hostname = unbracketed hostname := by
  obtain ⟨hlower, hzone, ⟨hopen, hclose⟩ | ⟨inner, rfl⟩⟩ := hhost
  · have hhead : hostname.head? ≠ some '[' := fun h => hopen (List.mem_of_head? h)
    rw [unbracketed, if_neg hhead] at hip ⊢
    have hdot : hostname.getLast? ≠ some '.' := by
      rcases web.isIP_values hostname with h | h | h
      · exact absurd h hip
      · obtain ⟨bits, -, rfl⟩ := (web.isIP_eq_four _).mp h
        exact getLast?_quad_ne bits
      · obtain ⟨address, -, hspells⟩ := (web.isIP_eq_six _ hzone).mp h
        exact hspells.getLast?_ne
    rw [normalizeHostname]
    simp only [hlower, if_neg hdot, if_neg hhead]
    exact if_neg fun h => hclose (List.mem_of_getLast? h)
  · have hlast : ('[' :: inner ++ [']']).getLast? ≠ some '.' := by
      rw [List.getLast?_concat]
      decide
    have hhead : ('[' :: inner ++ [']']).head? = some '[' := rfl
    have htail : ('[' :: inner ++ [']']).tail = inner ++ [']'] := rfl
    rw [normalizeHostname]
    simp only [hlower, if_neg hlast, if_pos hhead, htail]
    rw [unbracketed, if_pos hhead, htail, List.getLast?_concat, if_pos rfl]

theorem parseSafeOutboundUrl_eq_ok {rawUrl : String}
    (h : parseSafeOutboundUrl web policy rawUrl = .ok url) :
    web.parse rawUrl = some url ∧ url.IsWeb ∧ url.username = "" ∧ url.password = "" := by
  rw [parseSafeOutboundUrl] at h
  split at h
  next => cases h
  next url' hparse =>
    split at h
    next => cases h
    next hweb =>
      split at h
      next => cases h
      next hcredentials =>
        split at h
        next => cases h
        next =>
          obtain rfl := Except.ok.inj h
          obtain ⟨husername, hpassword⟩ := not_or.mp hcredentials
          exact ⟨hparse, not_not.mp hweb, not_not.mp husername, not_not.mp hpassword⟩

/-- **What has been resolved has been checked.** -/
theorem resolveSafeOutboundTarget_eq_ok {rawUrl : String}
    (hpublic : policy.allowPrivateNetworks = false)
    (h : resolveSafeOutboundTarget web policy dnsLookup rawUrl = .ok (addresses, url)) :
    (web.parse rawUrl = some url ∧ url.IsWeb ∧ url.username = "" ∧ url.password = "") ∧
      addressesOf web dnsLookup (normalizeHostname url.hostname) = some addresses ∧
      ∀ entry ∈ addresses, isPrivateOrSpecialAddress web.isIP entry.address = false := by
  rw [resolveSafeOutboundTarget] at h
  cases hurl : parseSafeOutboundUrl web policy rawUrl with
  | error e =>
    rw [hurl] at h
    cases h
  | ok url' =>
    rw [hurl] at h
    change (match addressesOf web dnsLookup (normalizeHostname url'.hostname) with
      | none => _
      | some addresses => _) = _ at h
    split at h
    next => cases h
    next addresses' haddresses =>
      split at h
      next => cases h
      next =>
        split at h
        next => cases h
        next hprivate =>
          obtain ⟨rfl, rfl⟩ := Prod.mk.inj (Except.ok.inj h)
          refine ⟨parseSafeOutboundUrl_eq_ok hurl, haddresses, fun entry hentry => ?_⟩
          by_contra hentry'
          refine hprivate ⟨by rw [hpublic]; decide, entry, hentry, ?_⟩
          exact Bool.not_eq_false _ ▸ hentry'

/-- The lookup that the client is given knows the addresses that were resolved. -/
theorem mem_of_createPinnedLookup {expected hostname : List Char} {all : Bool}
    {answers : List LookupResult} {entry : LookupResult}
    (h : createPinnedLookup expected addresses hostname all = some answers)
    (hentry : entry ∈ answers) : entry ∈ addresses := by
  rw [createPinnedLookup] at h
  split at h
  · cases h
  · split at h
    · exact Option.some.inj h ▸ hentry
    · obtain ⟨selected, hselected, rfl⟩ := Option.map_eq_some_iff.mp h
      exact List.mem_singleton.mp hentry ▸ List.mem_of_head? hselected

/-- **Each request stays outside**: what the client connects to was checked for its host before. -/
theorem public_of_resolve {rawUrl : String} {response : Option Response}
    (hpublic : policy.allowPrivateNetworks = false)
    (h : resolveSafeOutboundTarget web policy dnsLookup rawUrl = .ok (addresses, url)) :
    Public web ⟨dnsLookup, response⟩ ⟨url, createPinnedLookup url.hostname addresses⟩ := by
  obtain ⟨⟨hparse, hweb, husername, hpassword⟩, haddresses, hchecked⟩ :=
    resolveSafeOutboundTarget_eq_ok hpublic h
  refine ⟨hweb, husername, hpassword, fun address hconnects => ?_⟩
  have hentry : ∃ entry ∈ addresses, entry.address = address := by
    cases hconnects with
    | literal hip =>
      have hsame := normalizeHostname_of_isIP (web.hostname_parse _ _ hparse hweb) hip
      rw [hsame, addressesOf, if_pos hip] at haddresses
      obtain rfl := Option.some.inj haddresses
      exact ⟨_, List.mem_singleton_self _, rfl⟩
    | lookup hlookup hentry => exact ⟨_, mem_of_createPinnedLookup hlookup hentry, rfl⟩
  refine ⟨⟨addresses, haddresses, hentry⟩, ?_⟩
  obtain ⟨entry, hentry, rfl⟩ := hentry
  exact hchecked entry hentry

end

/-! ### The body -/

/-- **A body is read whole or not at all.** -/
theorem readChunks_eq_ok {maxBytes total : ℕ} {chunks : List (Option (List UInt8))}
    {read : List (List UInt8)} (hle : total ≤ maxBytes)
    (h : readChunks maxBytes total chunks = .ok read) :
    chunks = read.map some ∧ total + read.flatten.length ≤ maxBytes := by
  induction chunks generalizing total read with
  | nil =>
    obtain rfl := Except.ok.inj h
    exact ⟨rfl, hle⟩
  | cons chunk chunks ih =>
    cases chunk with
    | none => cases h
    | some chunk =>
      rw [readChunks] at h
      split at h
      next => cases h
      next hlt =>
        cases hrest : readChunks maxBytes (total + chunk.length) chunks with
        | error e =>
          rw [hrest] at h
          cases h
        | ok rest =>
          rw [hrest] at h
          obtain rfl := Except.ok.inj h
          obtain ⟨rfl, hlength⟩ := ih (not_lt.mp hlt) hrest
          refine ⟨rfl, ?_⟩
          rw [List.flatten_cons, List.length_append]
          omega

theorem readBoundedBody_eq_ok {response : Response} {maxBytes : ℕ} {body : List UInt8}
    (h : readBoundedBody response maxBytes = .ok body) :
    body.length ≤ maxBytes ∧
      ∃ chunks : List (List UInt8), response.body.getD [] = chunks.map some ∧
        body = chunks.flatten := by
  rw [readBoundedBody] at h
  split at h
  next => cases h
  next =>
    cases hread : readChunks maxBytes 0 (response.body.getD []) with
    | error e =>
      rw [hread] at h
      cases h
    | ok chunks =>
      rw [hread] at h
      obtain rfl := Except.ok.inj h
      obtain ⟨hchunks, hlength⟩ := readChunks_eq_ok (Nat.zero_le _) hread
      exact ⟨by omega, chunks, hchunks, rfl⟩

/-! ### All requests -/

/-- What a fetch guarantees, from one of its rounds on. -/
structure Guarded (web : Web) (policy : OutboundRequestPolicy) (world : ℕ → Round)
    (left redirects : ℕ) (result : List Request × Except OutboundError BoundedOutboundResponse) :
    Prop where
  length : result.1.length ≤ left + 1
  requests : ∀ i request, result.1[i]? = some request → Public web (world (redirects + i)) request
  body : ∀ fetched, result.2 = .ok fetched → fetched.body.length ≤ policy.maxBytes ∧
    ∃ i, result.1.length = i + 1 ∧ ∃ response, (world (redirects + i)).response = some response ∧
      ∃ chunks : List (List UInt8), response.body.getD [] = chunks.map some ∧
        fetched.body = chunks.flatten

section

variable {web : Web} {policy : OutboundRequestPolicy} {world : ℕ → Round}

/-- A fetch that ends with one request. -/
theorem Guarded.last {left redirects : ℕ} {request : Request}
    {result : Except OutboundError BoundedOutboundResponse}
    (h : Public web (world redirects) request)
    (hbody : ∀ fetched, result = .ok fetched → fetched.body.length ≤ policy.maxBytes ∧
      ∃ response, (world redirects).response = some response ∧ ∃ chunks : List (List UInt8),
        response.body.getD [] = chunks.map some ∧ fetched.body = chunks.flatten) :
    Guarded web policy world left redirects ([request], result) where
  length := Nat.le_add_left 1 left
  requests i request' hi := by
    cases i with
    | zero =>
      obtain rfl := Option.some.inj hi
      exact h
    | succ i => cases hi
  body fetched hfetched := ⟨(hbody fetched hfetched).1, 0, rfl, (hbody fetched hfetched).2⟩

/-- A request before others. -/
theorem Guarded.cons {left redirects : ℕ} {request : Request}
    {result : List Request × Except OutboundError BoundedOutboundResponse}
    (h : Public web (world redirects) request)
    (hrest : Guarded web policy world left (redirects + 1) result) :
    Guarded web policy world (left + 1) redirects (request :: result.1, result.2) where
  length := Nat.succ_le_succ hrest.length
  requests i request' hi := by
    cases i with
    | zero =>
      obtain rfl := Option.some.inj hi
      exact h
    | succ i =>
      rw [← Nat.add_assoc, Nat.add_right_comm]
      exact hrest.requests i request' hi
  body fetched hfetched := by
    obtain ⟨hlength, i, hi, hresponse⟩ := hrest.body fetched hfetched
    refine ⟨hlength, i + 1, congrArg (· + 1) hi, ?_⟩
    rwa [← Nat.add_assoc, Nat.add_right_comm]

/-- **Whatever is answered**, the requests of a loop stay outside: by induction on the redirects that
are left. -/
theorem guarded_fetchLoop (hpublic : policy.allowPrivateNetworks = false) (left redirects : ℕ)
    (currentUrl : String) :
    Guarded web policy world left redirects
      (fetchLoop web policy world left redirects currentUrl) := by
  have hrequest : ∀ {redirects currentUrl addresses url},
      resolveSafeOutboundTarget web policy (world redirects).dnsLookup currentUrl =
        .ok (addresses, url) →
      Public web (world redirects) ⟨url, createPinnedLookup url.hostname addresses⟩ := fun h =>
    public_of_resolve hpublic h
  fun_induction fetchLoop web policy world left redirects currentUrl with
  | case1 left redirects currentUrl e h =>
    exact ⟨Nat.zero_le _, nofun, nofun⟩
  | case2 left redirects currentUrl addresses url h => exact .last (hrequest h) nofun
  | case3 left redirects currentUrl addresses url h => exact .last (hrequest h) nofun
  | case4 redirects currentUrl addresses url h => exact .last (hrequest h) nofun
  | case5 redirects currentUrl addresses url h => exact .last (hrequest h) nofun
  | case6 redirects currentUrl addresses url h request response _ _ _ left nextUrl _ requests result
      hrest ih =>
    rw [hrest] at ih
    exact ih.cons (hrequest h)
  | case7 left redirects currentUrl addresses url h request response hresponse =>
    refine .last (hrequest h) fun fetched hfetched => ?_
    cases hbody : readBoundedBody response policy.maxBytes with
    | error e =>
      rw [hbody] at hfetched
      cases hfetched
    | ok body =>
      rw [hbody] at hfetched
      obtain rfl := Except.ok.inj hfetched
      obtain ⟨hlength, hchunks⟩ := readBoundedBody_eq_ok hbody
      exact ⟨hlength, response, hresponse, hchunks⟩

end

/-- **A fetch never leaves the public address space**: for every URL, everything the DNS answers and
everything servers answer, each request is one of the web without credentials, the client connects
to addresses only that were checked in the same round for the same host, there are at most as many
redirects as are allowed, and the body that is returned is a whole one and not too long. -/
theorem fetchBoundedOutbound_public (web : Web) (world : ℕ → Round) (rawUrl : String)
    (maxBytes maxRedirects : ℕ) :
    let result := fetchBoundedOutbound web ⟨false, maxBytes, maxRedirects⟩ world rawUrl
    result.1.length ≤ maxRedirects + 1 ∧
      (∀ i request, result.1[i]? = some request → Public web (world i) request) ∧
      ∀ fetched, result.2 = .ok fetched → fetched.body.length ≤ maxBytes ∧
        ∃ i, result.1.length = i + 1 ∧ ∃ response, (world i).response = some response ∧
          ∃ chunks : List (List UInt8), response.body.getD [] = chunks.map some ∧
            fetched.body = chunks.flatten := by
  have hguarded : Guarded web ⟨false, maxBytes, maxRedirects⟩ world maxRedirects 0 _ :=
    guarded_fetchLoop rfl maxRedirects 0 rawUrl
  refine ⟨hguarded.length, fun i request hi => ?_, fun fetched hfetched => ?_⟩
  · have hround := hguarded.requests i request hi
    rwa [Nat.zero_add] at hround
  · obtain ⟨hlength, i, hi, hresponse⟩ := hguarded.body fetched hfetched
    rw [Nat.zero_add] at hresponse
    exact ⟨hlength, i, hi, hresponse⟩

/-- One page, on a name that is looked up. -/
noncomputable def Web.onePage : Web where
  toNet := .exact
  parse rawUrl := if rawUrl = "http://rebound.example/" then
    some ⟨"http:", "", "", "rebound.example".toList⟩ else none
  resolve location _ := some location
  text url := url.protocol ++ "//" ++ String.ofList url.hostname ++ "/"
  hostname_parse rawUrl url h _ := by
    split at h
    · obtain rfl := Option.some.inj h
      exact ⟨by decide, by decide, .inl ⟨by decide, by decide⟩⟩
    · cases h

/-- The page redirects to itself, and its name is that of another host after the first request. -/
def rebinding (redirects : ℕ) : Round where
  dnsLookup _ := some [⟨(if redirects = 0 then "93.184.216.34" else "127.0.0.1").toList, 4⟩]
  response := some ⟨302, some "http://rebound.example/", none, none⟩

/-- What the fetch of the page does. -/
noncomputable def reboundFetch : List Request × Except OutboundError BoundedOutboundResponse :=
  fetchBoundedOutbound .onePage ⟨false, 1024, 3⟩ rebinding "http://rebound.example/"

theorem fetchBoundedOutbound_rebinding :
    reboundFetch.1.length ≤ 4 ∧
      (∀ i request, reboundFetch.1[i]? = some request → Public .onePage (rebinding i) request) ∧
      ∀ fetched, reboundFetch.2 = .ok fetched → fetched.body.length ≤ 1024 ∧
        ∃ i, reboundFetch.1.length = i + 1 ∧ ∃ response, (rebinding i).response = some response ∧
          ∃ chunks : List (List UInt8), response.body.getD [] = chunks.map some ∧
            fetched.body = chunks.flatten :=
  fetchBoundedOutbound_public .onePage rebinding "http://rebound.example/" 1024 3

end ScientificProtocol.Outbound
