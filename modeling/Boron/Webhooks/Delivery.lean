import Mathlib.Algebra.Group.Nat.Defs
import Mathlib.Data.List.Basic

namespace Boron.Webhooks

/-- An address as `ipaddress` has it, and how it prints. -/
structure Ip where
  v6 : Bool
  bits : Nat
  text : String

structure Network where
  v6 : Bool
  base : Nat
  prefixLen : Nat
  deriving DecidableEq

def v4 (a b c d prefixLen : Nat) : Network :=
  { v6 := false, base := a * 2 ^ 24 + b * 2 ^ 16 + c * 2 ^ 8 + d, prefixLen }

/-- A network whose base ends in zeros after its first 32 bits. -/
def v6 (high prefixLen : Nat) : Network := { v6 := true, base := high * 2 ^ 96, prefixLen }

def Network.contains (network : Network) (ip : Ip) : Bool :=
  let shift := (if network.v6 then 128 else 32) - network.prefixLen
  network.v6 = ip.v6 && network.base / 2 ^ shift = ip.bits / 2 ^ shift

/-- The `_private_networks` of `ipaddress`, and its exceptions from them. -/
def privateNetworks : List Network :=
  [v4 0 0 0 0 8, v4 10 0 0 0 8, v4 127 0 0 0 8, v4 169 254 0 0 16, v4 172 16 0 0 12, v4 192 0 0 0 24, v4 192 0 0 170 31,
    v4 192 0 2 0 24, v4 192 168 0 0 16, v4 198 18 0 0 15, v4 198 51 100 0 24, v4 203 0 113 0 24, v4 240 0 0 0 4,
    v4 255 255 255 255 32,
    { v6 := true, base := 1, prefixLen := 128 }, { v6 := true, base := 0, prefixLen := 128 },
    { v6 := true, base := 0xffff00000000, prefixLen := 96 }, { v6 := true, base := 0x64ff9b0001 * 2 ^ 80, prefixLen := 48 },
    v6 0x01000000 64, v6 0x20010000 23, v6 0x20010db8 32, v6 0x20020000 16, v6 0x3fff0000 20, v6 0xfc000000 7,
    v6 0xfe800000 10]

def privateExceptions : List Network :=
  [v4 192 0 0 9 32, v4 192 0 0 10 32,
    { v6 := true, base := 0x20010001 * 2 ^ 96 + 1, prefixLen := 128 },
    { v6 := true, base := 0x20010001 * 2 ^ 96 + 2, prefixLen := 128 }, v6 0x20010003 32,
    { v6 := true, base := 0x200100040112 * 2 ^ 80, prefixLen := 48 }, v6 0x20010020 28, v6 0x20010030 28]

/-- The IPv4 address within an IPv6 one decides for both. -/
def Ip.unmapped (ip : Ip) : Ip :=
  if ip.v6 && ip.bits / 2 ^ 32 = 0xffff then { v6 := false, bits := ip.bits % 2 ^ 32, text := ip.text } else ip

def Ip.isPrivate (ip : Ip) : Bool :=
  privateNetworks.any (·.contains ip.unmapped) && privateExceptions.all (! ·.contains ip.unmapped)

def Ip.isGlobal (ip : Ip) : Bool := !ip.isPrivate && !(v4 100 64 0 0 10).contains ip.unmapped

def Ip.isMulticast (ip : Ip) : Bool :=
  (v4 224 0 0 0 4).contains ip.unmapped || (Boron.Webhooks.v6 0xff000000 8).contains ip.unmapped

def ipIsBlocked (ip : Ip) : Bool := !ip.isGlobal || ip.isMulticast

/-- What no delivery may reach: this host, loopback, private, link-local with the metadata endpoint, multicast. -/
def internalNetworks : List Network :=
  [v4 0 0 0 0 8, v4 127 0 0 0 8, v4 10 0 0 0 8, v4 172 16 0 0 12, v4 192 168 0 0 16, v4 169 254 0 0 16, v4 224 0 0 0 4,
    { v6 := true, base := 0, prefixLen := 128 }, { v6 := true, base := 1, prefixLen := 128 }, v6 0xfc000000 7,
    v6 0xfe800000 10, v6 0xff000000 8]

def Ip.Public (ip : Ip) : Prop := ∀ network ∈ internalNetworks, network.contains ip.unmapped = false

def Network.overlaps (a b : Network) : Bool :=
  let shift := (if a.v6 then 128 else 32) - min a.prefixLen b.prefixLen
  a.v6 = b.v6 && a.base / 2 ^ shift = b.base / 2 ^ shift

theorem quotient_eq {n m shift wider : Nat} (less : shift ≤ wider) (same : n / 2 ^ shift = m / 2 ^ shift) :
    n / 2 ^ wider = m / 2 ^ wider := by
  obtain ⟨more, rfl⟩ := Nat.exists_eq_add_of_le less
  rw [Nat.pow_add, ← Nat.div_div_eq_div_mul, ← Nat.div_div_eq_div_mul, same]

theorem overlaps_of_contains {a b : Network} {ip : Ip} (first : a.contains ip = true) (second : b.contains ip = true) :
    a.overlaps b = true := by
  unfold Network.contains at first second
  unfold Network.overlaps
  simp only [Bool.and_eq_true, decide_eq_true_eq] at first second ⊢
  obtain ⟨familyA, sameA⟩ := first
  obtain ⟨familyB, sameB⟩ := second
  rw [familyB, ← familyA] at sameB
  refine ⟨familyA.trans familyB.symm, ?_⟩
  have fromA := quotient_eq (Nat.sub_le_sub_left (Nat.min_le_left a.prefixLen b.prefixLen) _) sameA
  have fromB := quotient_eq (Nat.sub_le_sub_left (Nat.min_le_right a.prefixLen b.prefixLen) _) sameB
  exact fromA.trans fromB.symm

theorem internal_cases : ∀ network ∈ internalNetworks, (network = v4 224 0 0 0 4 ∨ network = v6 0xff000000 8) ∨
    network ∈ privateNetworks ∧ ∀ exception ∈ privateExceptions, network.overlaps exception = false := by
  decide

theorem public_of_open {ip : Ip} (open_ : ipIsBlocked ip = false) : ip.Public := by
  obtain ⟨global, single⟩ := Bool.or_eq_false_iff.mp open_
  have reachable : ip.isGlobal = true := by
    rw [← Bool.not_not ip.isGlobal, global]
    rfl
  obtain ⟨notPrivate, _⟩ := Bool.and_eq_true_iff.mp reachable
  obtain ⟨notFour, notSix⟩ := Bool.or_eq_false_iff.mp single
  intro network internal
  rcases internal_cases network internal with (rfl | rfl) | ⟨listed, excepted⟩
  · exact notFour
  · exact notSix
  · by_contra inside
    have contained : network.contains ip.unmapped = true := Bool.of_not_eq_false inside
    have hidden : ip.isPrivate = true := by
      unfold Ip.isPrivate
      rw [Bool.and_eq_true]
      refine ⟨List.any_eq_true.mpr ⟨network, listed, contained⟩, List.all_eq_true.mpr fun exception member => ?_⟩
      rw [Bool.not_eq_true', Bool.eq_false_iff]
      intro within
      have overlap := overlaps_of_contains contained within
      rw [excepted exception member] at overlap
      cases overlap
    rw [hidden] at notPrivate
    cases notPrivate

end Boron.Webhooks

namespace Boron.Webhooks

/-- An error of a class that the code expects of the call, or another one. -/
inductive Failure
  | expected (text : String)
  | other (text : String)

/-- What reaches `_deliver`: a `WebhookError`, an `httpx.HTTPError`, or another exception. -/
inductive Raised
  | webhook (text : String)
  | http (text : String)
  | other (text : String)

structure Parsed where
  hostname : Option String
  https : Bool
  netloc : String
  port : Except String (Option Nat)

/-- A request that fails, or a response, with what goes wrong when it is closed. -/
inductive Sent
  | failed (error : Failure)
  | response (status : Nat) (close : Option Failure)

/-- The parts that are not the panel's, for one stored URL; `getaddrinfo` and `send` at each attempt. -/
structure Net where
  url : String
  urlparse : Except String Parsed
  getaddrinfo : Nat → Except Failure (List String)
  ipAddress : String → Except String Ip
  send : Nat → Sent

structure Post where
  attempt : Nat
  address : String
  port : Nat
  host : String
  serverName : Option String
  sent : Sent

inductive Status | pending | success | failed
  deriving DecidableEq

structure Delivery where
  status : Status
  responseCode : Option Nat
  attemptCount : Nat
  error : Option String

def Delivery.fresh : Delivery := { status := .pending, responseCode := none, attemptCount := 0, error := none }

def unresolved (host : String) : String := "could not resolve webhook host '" ++ host ++ "'"

def refusal (ip : Ip) (host : String) : String :=
  "refusing to deliver webhook to non-public address " ++ ip.text ++ " (host '" ++ host ++ "') -- " ++
    "internal/loopback/link-local/metadata endpoints are blocked (SSRF protection)"

/-- The loop over the answer of the resolver. -/
def pin (net : Net) (host : String) : List String → Option String → Except Raised String
  | [], none => .error (.webhook (unresolved host))
  | [], some pinned => .ok pinned
  | addr :: rest, pinned => match net.ipAddress addr with
    | .error text => .error (.other text)
    | .ok ip => if ipIsBlocked ip then .error (.webhook (refusal ip host)) else pin net host rest (pinned.or (some addr))

def assertPublicDestination (net : Net) (attempt : Nat) : Except Raised String :=
  match net.urlparse with
  | .error text => .error (.other text)
  | .ok parsed => match parsed.hostname with
    | none => .error (.webhook ("webhook URL has no host: '" ++ net.url ++ "'"))
    | some host => match net.getaddrinfo attempt with
      | .error (.expected text) => .error (.webhook (unresolved host ++ ": " ++ text))
      | .error (.other text) => .error (.other text)
      | .ok infos => pin net host infos none

def Failure.raised : Failure → Raised
  | .expected text => .http text
  | .other text => .other text

/-- `_pinned_post`: what it sends, and the status it returns. -/
def pinnedPost (net : Net) (attempt : Nat) : List Post × Except Raised Nat :=
  match net.urlparse with
  | .error text => ([], .error (.other text))
  | .ok parsed => match assertPublicDestination net attempt with
    | .error raised => ([], .error raised)
    | .ok address => match parsed.port with
      | .error text => ([], .error (.other text))
      | .ok port =>
        let number := if port.getD 0 ≠ 0 then port.getD 0 else if parsed.https then 443 else 80
        let post : Post :=
          { attempt, address, port := number, host := parsed.netloc
            serverName := if parsed.https then parsed.hostname else none, sent := net.send attempt }
        match net.send attempt with
        | .failed error => ([post], .error error.raised)
        | .response _ (some error) => ([post], .error error.raised)
        | .response status none => ([post], .ok status)

/-- How a delivery ends: its row, what has been sent, and an exception that ends the thread. -/
structure Outcome where
  delivery : Delivery
  posts : List Post
  raised : Option Raised

def Outcome.after (posts : List Post) (outcome : Outcome) : Outcome := { outcome with posts := posts ++ outcome.posts }

/-- The loop of `_deliver`. -/
def attempts (net : Net) : Nat → Nat → Delivery → Outcome
  | 0, _, delivery => { delivery := { delivery with status := .failed }, posts := [], raised := none }
  | left + 1, attempt, delivery =>
    let begun := { delivery with attemptCount := attempt }
    match pinnedPost net attempt with
    | (posts, .ok status) =>
      if 200 ≤ status ∧ status < 300 then
        { delivery := { begun with responseCode := some status, status := .success, error := none }, posts, raised := none }
      else
        (attempts net left (attempt + 1)
          { begun with responseCode := some status, error := some ("HTTP " ++ toString status) }).after posts
    | (posts, .error (.webhook text)) => (attempts net left (attempt + 1) { begun with error := some text }).after posts
    | (posts, .error (.http text)) => (attempts net left (attempt + 1) { begun with error := some text }).after posts
    | (posts, .error (.other text)) => { delivery := begun, posts, raised := some (.other text) }

def deliver (net : Net) (maxAttempts : Nat) (delivery : Delivery) : Outcome :=
  match assertPublicDestination net 0 with
  | .error (.webhook text) =>
    { delivery := { delivery with status := .failed, error := some text, attemptCount := 1 }, posts := [], raised := none }
  | .error raised => { delivery, posts := [], raised := some raised }
  | .ok _ => attempts net maxAttempts 1 delivery

def accepted (status : Nat) : Prop := 200 ≤ status ∧ status < 300

def Post.status (post : Post) : Option Nat :=
  match post.sent with
  | .failed _ => none
  | .response status _ => some status

def Fine (net : Net) (addr : String) : Prop := ∃ ip, net.ipAddress addr = .ok ip ∧ ipIsBlocked ip = false

/-- The answer of a look-up has addresses, all of them public. -/
def Vetted (net : Net) (attempt : Nat) : Prop :=
  ∃ parsed host infos, net.urlparse = .ok parsed ∧ parsed.hostname = some host ∧ net.getaddrinfo attempt = .ok infos ∧
    infos ≠ [] ∧ ∀ addr ∈ infos, Fine net addr

/-- What goes wrong at an attempt that the code does not expect. -/
inductive Fault (net : Net) (attempt : Nat) : Prop
  | parse (text : String) (parse : net.urlparse = .error text)
  | lookup (parsed : Parsed) (host text : String) (parse : net.urlparse = .ok parsed) (named : parsed.hostname = some host)
    (lookup : net.getaddrinfo attempt = .error (.other text))
  | address (parsed : Parsed) (host text : String) (before : List String) (addr : String) (after : List String)
    (parse : net.urlparse = .ok parsed) (named : parsed.hostname = some host)
    (answer : net.getaddrinfo attempt = .ok (before ++ addr :: after))
    (fine : ∀ earlier ∈ before, Fine net earlier)
    (unreadable : net.ipAddress addr = .error text)
  | port (parsed : Parsed) (text : String) (tried : 0 < attempt) (vetted : Vetted net attempt)
    (parse : net.urlparse = .ok parsed) (port : parsed.port = .error text)
  | send (parsed : Parsed) (port : Option Nat) (text : String) (tried : 0 < attempt) (vetted : Vetted net attempt)
    (parse : net.urlparse = .ok parsed) (numbered : parsed.port = .ok port) (sent : net.send attempt = .failed (.other text))
  | close (parsed : Parsed) (port : Option Nat) (status : Nat) (error : Failure) (tried : 0 < attempt)
    (vetted : Vetted net attempt) (parse : net.urlparse = .ok parsed) (numbered : parsed.port = .ok port)
    (sent : net.send attempt = .response status (some error)) (late : accepted status ∨ ∃ text, error = .other text)

def Answered (net : Net) (attempt : Nat) : Prop :=
  ∃ parsed port status, net.urlparse = .ok parsed ∧ parsed.port = .ok port ∧ Vetted net attempt ∧
    net.send attempt = .response status none ∧ accepted status

end Boron.Webhooks
