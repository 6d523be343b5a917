import Continuity.DisclosureManifest
import Continuity.JsOrder
import Continuity.NonMembership
import Continuity.WebHosts

namespace Continuity
open WebHosts
set_option autoImplicit true

structure GossipPeerError where
  code : String
  message : String
  status : Nat
  deriving DecidableEq

/-- What the code reads of a parsed address. -/
structure WebUrl where
  protocol : JsString
  username : JsString
  password : JsString
  search : JsString
  hash : JsString
  hostname : JsString
  origin : JsString

/-- The address parser, `isIP` of `node:net`, and `Number` of a text that is not digits alone. -/
structure UrlLibrary where
  parse : JsString → Option WebUrl
  isIP : JsString → Nat
  otherNumber : JsString → JsNumber

section Peers

variable (H : Host) (U : UrlLibrary)

/-- `Number(text)`; the digits of an address are few enough to be exact. -/
def UrlLibrary.number (text : JsString) : JsNumber :=
  match parseDigits 10 text with
  | some n => .ofNat n
  | none => U.otherNumber text

/-- `hostname.replace(/^\[|\]$/g, "")`. -/
def stripBrackets (hostname : JsString) : JsString :=
  let opened := if hostname.head? = some 91 then hostname.tail else hostname
  if opened.getLast? = some 93 then opened.dropLast else opened

def privateOctets (a b : JsNumber) : Bool :=
  a.strictEq (.ofNat 0) || a.strictEq (.ofNat 10) || a.strictEq (.ofNat 127) ||
    (a.strictEq (.ofNat 100) && (JsNumber.ofNat 64).le b && b.le (.ofNat 127)) ||
    (a.strictEq (.ofNat 169) && b.strictEq (.ofNat 254)) ||
    (a.strictEq (.ofNat 172) && (JsNumber.ofNat 16).le b && b.le (.ofNat 31)) ||
    (a.strictEq (.ofNat 192) && b.strictEq (.ofNat 168)) || (JsNumber.ofNat 224).le a

def privateOrLocalHost (hostname : JsString) : Bool :=
  let host := H.toLowerCase (stripBrackets hostname)
  if host == js "localhost" || (js ".localhost").isSuffixOf host then true
  else if U.isIP host = 4 then
    let octets := (host.splitOn 46).map U.number
    -- a missing octet is `undefined`, which no comparison holds of
    privateOctets (octets[0]?.getD .nan) (octets[1]?.getD .nan)
  else if U.isIP host = 6 then
    host == js "::1" || host == js "::" || (js "::ffff:").isPrefixOf host ||
      (js "fc").isPrefixOf host || (js "fd").isPrefixOf host || (js "fe80:").isPrefixOf host
  else false

def urlInvalid (message : String) : GossipPeerError where
  code := "TSL_GOSSIP_PEER_URL_INVALID"
  message := message
  status := 400

def normalizeGossipPeerUrl (peerUrl : JsValue) (allowPrivateHosts : Bool) :
    Except GossipPeerError JsString :=
  match peerUrl with
  | .str text =>
    match U.parse text with
    | some url =>
      if !(url.protocol == js "http:" || url.protocol == js "https:") then
        throw (urlInvalid "Gossip peer URL must use http or https")
      else if !url.username.isEmpty || !url.password.isEmpty || !url.search.isEmpty ||
          !url.hash.isEmpty then
        throw (urlInvalid "Gossip peer URL must not include credentials, query, or fragment")
      else if !allowPrivateHosts && privateOrLocalHost H U url.hostname then
        throw (urlInvalid ("Gossip peer URL host must be public unless private gossip peers are " ++
          "explicitly enabled"))
      else return url.origin
    | none => throw (urlInvalid "Gossip peer URL is not parseable")
  | _ => throw (urlInvalid "Gossip peer URL must be a string")

def allowPrivateGossipPeers : Bool := H.flag "TSL_ALLOW_PRIVATE_GOSSIP_PEERS"

def listNormalizedGossipPeers (peers : List JsString) : Except GossipPeerError (List JsString) := do
  let normalized ← peers.mapM fun peer =>
    normalizeGossipPeerUrl H U (.str peer) (allowPrivateGossipPeers H)
  return unique normalized

/-- The peers to ask: all of the known ones, or the one that is asked for. -/
def selectKnownGossipPeers (peerUrl : JsValue) (knownPeers : List JsString) :
    Except GossipPeerError (List JsString) := do
  let known ← listNormalizedGossipPeers H U knownPeers
  match peerUrl with
  | .undefined => return known
  | .null => return known
  | .str [] => return known
  | peerUrl =>
    let requested ← normalizeGossipPeerUrl H U peerUrl (allowPrivateGossipPeers H)
    match known.find? fun peer => peer == requested with
    | some matched =>
      if matched.isEmpty then throw {
          code := "TSL_GOSSIP_PEER_NOT_REGISTERED"
          message := "peer_url must match a configured or registered gossip peer"
          status := 403 }
      else return [matched]
    | none => throw {
        code := "TSL_GOSSIP_PEER_NOT_REGISTERED"
        message := "peer_url must match a configured or registered gossip peer"
        status := 403 }

def registerRequestedGossipPeer (peerUrl : JsValue) : Except GossipPeerError JsString :=
  if !H.flag "TSL_ALLOW_DYNAMIC_GOSSIP_PEERS" then throw {
      code := "TSL_GOSSIP_DYNAMIC_PEERS_DISABLED"
      message := "Dynamic gossip peer registration is disabled"
      status := 403 }
  else normalizeGossipPeerUrl H U peerUrl (allowPrivateGossipPeers H)

end Peers

section Blocks

/-- Networks of 32 bits that are not public, with the lengths of their prefixes. -/
def privateBlocks4 : List (Nat × Nat) :=
  [(0, 8), (0x0a000000, 8), (0x64400000, 10), (0x7f000000, 8), (0xa9fe0000, 16), (0xac100000, 12),
    (0xc0a80000, 16), (0xe0000000, 3)]

/-- `fe80::`. -/
def linkLocal : Nat := 0xfe80 * 2 ^ 112

def privateBlocks6 : List (Nat × Nat) :=
  [(0, 128), (1, 128), (0xffff * 2 ^ 32, 96), (0xfc00 * 2 ^ 112, 7), (linkLocal, 10)]

/-- `localhost` or a name below it, with or without a dot at the end. -/
def LocalName (name : JsString) : Prop :=
  let bare := if name.getLast? = some 46 then name.dropLast else name
  bare = js "localhost" ∨ js ".localhost" <:+ bare

def PublicHost : WebHost → Prop
  | .domain name => ¬LocalName name
  | .ipv4 address => ∀ block ∈ privateBlocks4, ¬InBlock address block.1 block.2
  | .ipv6 address => ∀ block ∈ privateBlocks6, ¬InBlock address block.1 block.2

/-- The hosts that are not public and have a text that the check does not know. -/
def Overlooked : WebHost → Prop
  | .domain name => name.getLast? = some 46 ∧ LocalName name
  | .ipv4 _ => False
  | .ipv6 address => InBlock address linkLocal 10

theorem privateOctets_of_block (address : BitVec 32) (hb : block ∈ privateBlocks4)
    (h : InBlock address block.1 block.2) :
    privateOctets (.ofNat (address.toNat / 2 ^ 24)) (.ofNat (address.toNat / 2 ^ 16 % 256)) =
      true := by
  simp only [privateOctets, JsNumber.ofNat_strictEq, JsNumber.ofNat_le, Bool.or_eq_true,
    Bool.and_eq_true, decide_eq_true_eq]
  simp only [privateBlocks4, List.mem_cons, List.not_mem_nil, or_false] at hb
  rcases hb with rfl | rfl | rfl | rfl | rfl | rfl | rfl | rfl <;>
    simp only [InBlock] at h <;> omega

end Blocks

section Texts

variable {H : Host} {U : UrlLibrary} {name : JsString}

theorem toLowerCase_small (h : ∀ u ∈ name, u < 128 ∧ ¬(65 ≤ u ∧ u ≤ 90)) :
    H.toLowerCase name = name := by
  have hascii : name.all (· < 128) = true := by
    rw [List.all_eq_true]
    exact fun u hu => decide_eq_true (h u hu).1
  rw [Host.toLowerCase, if_pos hascii]
  refine (List.map_congr_left fun u hu => ?_).trans (List.map_id name)
  rw [if_neg]
  · rfl
  · simpa using (h u hu).2

theorem isDigit_small (h : IsDigit u ∨ u = 58 ∨ u = 46) :
    u < 128 ∧ ¬(65 ≤ u ∧ u ≤ 90) ∧ u ≠ 91 ∧ u ≠ 93 := by
  simp only [IsDigit, UInt16.le_iff_toNat_le, UInt16.lt_iff_toNat_lt, ne_eq, ← UInt16.toNat_inj,
    UInt16.reduceToNat] at h ⊢
  omega

theorem stripBrackets_plain (h : ∀ u ∈ name, u ≠ 91 ∧ u ≠ 93) : stripBrackets name = name := by
  have hhead : name.head? ≠ some 91 := fun he => (h 91 (List.mem_of_head? he)).1 rfl
  have hlast : name.getLast? ≠ some 93 := fun he => (h 93 (List.mem_of_getLast? he)).2 rfl
  rw [stripBrackets, if_neg hhead, if_neg hlast]

theorem stripBrackets_bracketed (name : JsString) :
    stripBrackets ([91] ++ name ++ [93]) = name := by
  simp [stripBrackets]

theorem number_octetText (h : n < 256) : U.number (octetText n) = .ofNat n := by
  have hall : ∀ m < 256, parseDigits 10 (octetText m) = some m := by decide +kernel
  rw [UrlLibrary.number, hall n h]

end Texts

/-- What the parser and `isIP` are relied on for: the hosts of web addresses are normalised, and
the texts of addresses are recognised. -/
structure UrlRules (U : UrlLibrary) : Prop where
  host : ∀ text url, U.parse text = some url →
    url.protocol = js "http:" ∨ url.protocol = js "https:" →
    ∃ host : WebHost, host.Normal ∧ url.hostname = host.text
  isIP_ipv4 : ∀ address, U.isIP (ipv4Text address) = 4
  isIP_ipv6 : ∀ address, U.isIP (ipv6Text address) = 6

section Private

variable {H : Host} {U : UrlLibrary}

theorem privateOrLocalHost_domain (hnormal : (WebHost.domain name).Normal) (h : LocalName name)
    (hdot : name.getLast? ≠ some 46) : privateOrLocalHost H U name = true := by
  have hstrip : stripBrackets name = name :=
    stripBrackets_plain fun u hu => ⟨(hnormal u hu).2.2.1, (hnormal u hu).2.2.2⟩
  have hlower : H.toLowerCase name = name :=
    toLowerCase_small fun u hu => ⟨(hnormal u hu).1, (hnormal u hu).2.1⟩
  have hlocal : (name == js "localhost" || (js ".localhost").isSuffixOf name) = true := by
    rw [LocalName, if_neg hdot] at h
    rw [Bool.or_eq_true, beq_iff_eq, List.isSuffixOf_iff_suffix]
    exact h
  simp only [privateOrLocalHost, hstrip, hlower, if_pos hlocal]

theorem privateOrLocalHost_ipv4 (hrules : UrlRules U) (hb : block ∈ privateBlocks4)
    (h : InBlock address block.1 block.2) :
    privateOrLocalHost H U (ipv4Text address) = true := by
  have hsmall : ∀ u ∈ ipv4Text address, u < 128 ∧ ¬(65 ≤ u ∧ u ≤ 90) ∧ u ≠ 91 ∧ u ≠ 93 :=
    fun u hu => isDigit_small ((mem_ipv4Text address u hu).imp_right .inr)
  have hstrip : stripBrackets (ipv4Text address) = ipv4Text address :=
    stripBrackets_plain fun u hu => (hsmall u hu).2.2
  have hlower : H.toLowerCase (ipv4Text address) = ipv4Text address :=
    toLowerCase_small fun u hu => ⟨(hsmall u hu).1, (hsmall u hu).2.1⟩
  have hlt := octets_lt address
  have hoctets : ((ipv4Text address).splitOn 46).map U.number = (octets address).map .ofNat := by
    rw [splitOn_ipv4Text, List.map_map]
    exact List.map_congr_left fun n hn => number_octetText (hlt n hn)
  simp only [privateOrLocalHost, hstrip, hlower]
  split
  · rfl
  · rw [if_pos (hrules.isIP_ipv4 address), hoctets]
    exact privateOctets_of_block address hb h

/-- Which texts the addresses of the known networks have. -/
theorem ipv6Text_of_block (hb : block ∈ privateBlocks6) (h : InBlock address block.1 block.2)
    (hlocal : ¬InBlock address linkLocal 10) :
    ipv6Text address = js "::1" ∨ ipv6Text address = js "::" ∨
      js "::ffff:" <+: ipv6Text address ∨ js "fc" <+: ipv6Text address ∨
        js "fd" <+: ipv6Text address := by
  simp only [privateBlocks6, List.mem_cons, List.not_mem_nil, or_false] at hb
  rcases hb with rfl | rfl | rfl | rfl | rfl
  · have hzero : address = 0#128 := BitVec.eq_of_toNat_eq (by simpa [InBlock] using h)
    rw [hzero]
    exact .inr (.inl (by decide))
  · have hone : address = 1#128 := BitVec.eq_of_toNat_eq (by simpa [InBlock] using h)
    rw [hone]
    exact .inl (by decide)
  · have hprefix : address.toNat / 2 ^ 32 = 65535 := h
    have hpieces : pieces address = [0, 0, 0, 0, 0, 65535, address.toNat / 2 ^ 16 % 65536,
        address.toNat % 65536] := by
      rw [pieces_eq]
      simp only [List.cons.injEq, and_true]
      omega
    obtain ⟨tail, htail⟩ := ipv6Text_mapped hpieces
    exact .inr (.inr (.inl ⟨tail, by rw [htail]; rfl⟩))
  · have hprefix : address.toNat / 2 ^ 121 = 126 := h
    have hfirst : 64512 ≤ address.toNat / 2 ^ 112 % 65536 ∧
        address.toNat / 2 ^ 112 % 65536 < 65024 := by
      omega
    obtain ⟨tail, htail⟩ := ipv6Text_first (pieces_eq address) (by omega)
    generalize address.toNat / 2 ^ 112 % 65536 = piece at hfirst htail
    rw [pieceText_long (by omega), show piece / 4096 = 15 by omega] at htail
    rcases (by omega : piece / 256 % 16 = 12 ∨ piece / 256 % 16 = 13) with hsecond | hsecond
    · rw [hsecond] at htail
      exact .inr (.inr (.inr (.inl ⟨_, htail.symm⟩)))
    · rw [hsecond] at htail
      exact .inr (.inr (.inr (.inr ⟨_, htail.symm⟩)))
  · exact absurd h hlocal

theorem privateOrLocalHost_ipv6 (hrules : UrlRules U) (hb : block ∈ privateBlocks6)
    (h : InBlock address block.1 block.2) (hlocal : ¬InBlock address linkLocal 10) :
    privateOrLocalHost H U ([91] ++ ipv6Text address ++ [93]) = true := by
  have hlower : H.toLowerCase (ipv6Text address) = ipv6Text address := by
    apply toLowerCase_small
    intro u hu
    have hsmall := isDigit_small ((mem_ipv6Text address u hu).imp_right .inl)
    exact ⟨hsmall.1, hsmall.2.1⟩
  simp only [privateOrLocalHost, stripBrackets_bracketed, hlower]
  split
  · rfl
  · rw [if_neg (by rw [hrules.isIP_ipv6]; decide), if_pos (hrules.isIP_ipv6 address)]
    simp only [Bool.or_eq_true, beq_iff_eq, List.isPrefixOf_iff_prefix]
    have htext := ipv6Text_of_block hb h hlocal
    tauto

/-- The only hosts that are not public and still get past the check are the overlooked ones. -/
theorem publicHost_iff (hrules : UrlRules U) (hnormal : host.Normal)
    (h : privateOrLocalHost H U host.text = false) : PublicHost host ↔ ¬Overlooked host := by
  cases host with
  | domain name =>
    constructor
    · exact fun hpublic hover => hpublic hover.2
    · intro hover hlocal
      by_cases hdot : name.getLast? = some 46
      · exact hover ⟨hdot, hlocal⟩
      · rw [WebHost.text, privateOrLocalHost_domain hnormal hlocal hdot] at h
        cases h
  | ipv4 address =>
    refine iff_of_true (fun block hb hin => ?_) nofun
    rw [WebHost.text, privateOrLocalHost_ipv4 hrules hb hin] at h
    cases h
  | ipv6 address =>
    constructor
    · exact fun hpublic => hpublic (linkLocal, 10) (by simp [privateBlocks6])
    · intro hover block hb hin
      rw [WebHost.text, privateOrLocalHost_ipv6 hrules hb hin hover] at h
      cases h

end Private

section Accepted

variable {H : Host} {U : UrlLibrary} {peerUrl : JsValue} {allowPrivateHosts : Bool}

theorem normalizeGossipPeerUrl_ok
    (h : normalizeGossipPeerUrl H U peerUrl allowPrivateHosts = .ok origin) :
    ∃ text url, peerUrl = .str text ∧ U.parse text = some url ∧ url.origin = origin ∧
      (url.protocol = js "http:" ∨ url.protocol = js "https:") ∧
      url.username = [] ∧ url.password = [] ∧ url.search = [] ∧ url.hash = [] ∧
      (allowPrivateHosts = false → privateOrLocalHost H U url.hostname = false) := by
  cases peerUrl with
  | str text =>
    rw [normalizeGossipPeerUrl] at h
    cases hparse : U.parse text with
    | none =>
      rw [hparse] at h
      cases h
    | some url =>
      rw [hparse] at h
      dsimp only at h
      by_cases hprotocol : (!(url.protocol == js "http:" || url.protocol == js "https:")) = true
      · rw [if_pos hprotocol] at h
        cases h
      by_cases hparts : (!url.username.isEmpty || !url.password.isEmpty || !url.search.isEmpty ||
          !url.hash.isEmpty) = true
      · rw [if_neg hprotocol, if_pos hparts] at h
        cases h
      by_cases hprivate : (!allowPrivateHosts && privateOrLocalHost H U url.hostname) = true
      · rw [if_neg hprotocol, if_neg hparts, if_pos hprivate] at h
        cases h
      rw [if_neg hprotocol, if_neg hparts, if_neg hprivate] at h
      cases h
      rw [Bool.not_eq_true] at hprotocol hparts
      simp only [Bool.not_eq_false', Bool.or_eq_false_iff, Bool.or_eq_true, beq_iff_eq,
        List.isEmpty_iff] at hprotocol hparts
      refine ⟨text, url, rfl, hparse, rfl, hprotocol, hparts.1.1.1, hparts.1.1.2, hparts.1.2,
        hparts.2, ?_⟩
      rintro rfl
      simpa using hprivate
  | null => cases h
  | undefined => cases h
  | bool => cases h
  | num => cases h
  | arr => cases h
  | obj => cases h

/-- The host of an accepted peer is public just when it is none of the overlooked hosts. -/
theorem gossip_peer_public (hrules : UrlRules U)
    (h : normalizeGossipPeerUrl H U peerUrl false = .ok origin) :
    ∃ text url, peerUrl = .str text ∧ U.parse text = some url ∧
      (∃ host : WebHost, host.Normal ∧ url.hostname = host.text) ∧
      ∀ host : WebHost, host.Normal → url.hostname = host.text →
        (PublicHost host ↔ ¬Overlooked host) := by
  obtain ⟨text, url, htext, hparse, -, hprotocol, -, -, -, -, hpublic⟩ :=
    normalizeGossipPeerUrl_ok h
  refine ⟨text, url, htext, hparse, hrules.host text url hparse hprotocol, ?_⟩
  intro host hnormal hhost
  have hchecked := hpublic rfl
  rw [hhost] at hchecked
  exact publicHost_iff hrules hnormal hchecked

/-- What is listed or selected went through the check of the addresses. -/
def sampleUrl (protocol hostname origin : String) : WebUrl where
  protocol := js protocol
  username := []
  password := []
  search := []
  hash := []
  hostname := js hostname
  origin := js origin

/-- Two addresses and the texts of numeric hosts. -/
def sampleUrls : UrlLibrary where
  parse text :=
    if text = js "https://peer.example/" then
      some (sampleUrl "https:" "peer.example" "https://peer.example")
    else if text = js "http://localhost./" then
      some (sampleUrl "http:" "localhost." "http://localhost.")
    else none
  isIP text :=
    if 58 ∈ text then 6
    else if text.all fun u => u == 46 || isDigitUnit u then 4
    else 0
  otherNumber _ := .nan

theorem sampleUrls_rules : UrlRules sampleUrls where
  host := by
    intro text url hparse _
    simp only [sampleUrls] at hparse
    split at hparse
    · cases hparse
      exact ⟨.domain (js "peer.example"), by decide, rfl⟩
    · split at hparse
      · cases hparse
        exact ⟨.domain (js "localhost."), by decide, rfl⟩
      · cases hparse
  isIP_ipv4 := by
    intro address
    have hcolon : (58 : UInt16) ∉ ipv4Text address := by
      intro hu
      have hdigit := mem_ipv4Text address 58 hu
      revert hdigit
      simp only [IsDigit]
      decide
    have hdecimal : ∀ n < 256, (octetText n).all isDigitUnit = true := by decide +kernel
    have hall : (ipv4Text address).all (fun u => u == 46 || isDigitUnit u) = true := by
      rw [List.all_eq_true]
      intro u hu
      rcases mem_ipv4Text_octet hu with rfl | ⟨n, hn, hd⟩
      · rfl
      · have hunit := List.all_eq_true.mp (hdecimal n (octets_lt address n hn)) u hd
        rw [hunit, Bool.or_true]
    simp only [sampleUrls, if_neg hcolon, if_pos hall]
  isIP_ipv6 := fun address => if_pos (colon_mem_ipv6Text address)

theorem gossip_peer_public_example :
    ∃ text url, JsValue.str (js "https://peer.example/") = .str text ∧
      sampleUrls.parse text = some url ∧
      (∃ host : WebHost, host.Normal ∧ url.hostname = host.text) ∧
      ∀ host : WebHost, host.Normal → url.hostname = host.text →
        (PublicHost host ↔ ¬Overlooked host) :=
  gossip_peer_public (H := zeroHost) sampleUrls_rules
    (by decide : normalizeGossipPeerUrl zeroHost sampleUrls (.str (js "https://peer.example/"))
      false = .ok (js "https://peer.example"))

/-- With a dot at its end `localhost` is another text, and is accepted. -/
theorem gossip_peer_localhost :
    ¬∀ (H : Host) (U : UrlLibrary), UrlRules U → ∀ text origin url,
      normalizeGossipPeerUrl H U (.str text) false = .ok origin → U.parse text = some url →
      ∀ host : WebHost, host.Normal → url.hostname = host.text → PublicHost host := by
  intro h
  have hpublic := h zeroHost sampleUrls sampleUrls_rules (js "http://localhost./")
    (js "http://localhost.") (sampleUrl "http:" "localhost." "http://localhost.") (by decide) rfl
    (.domain (js "localhost.")) (by decide) rfl
  exact hpublic (.inl (by decide))

theorem listNormalizedGossipPeers_accepted (h : listNormalizedGossipPeers H U peers = .ok listed)
    (hp : peer ∈ listed) : ∃ known ∈ peers,
      normalizeGossipPeerUrl H U (.str known) (allowPrivateGossipPeers H) = .ok peer := by
  obtain ⟨normalized, hn, h⟩ := bind_eq_ok.mp h
  cases h
  have hall := mapM_forall (Q := fun peer => ∃ known ∈ peers,
    normalizeGossipPeerUrl H U (.str known) (allowPrivateGossipPeers H) = .ok peer)
    (fun known hk peer hpeer => ⟨known, hk, hpeer⟩) hn
  exact hall peer (mem_unique.mp hp)

theorem selectKnownGossipPeers_accepted
    (h : selectKnownGossipPeers H U peerUrl knownPeers = .ok selected) (hp : peer ∈ selected) :
    ∃ known ∈ knownPeers,
      normalizeGossipPeerUrl H U (.str known) (allowPrivateGossipPeers H) = .ok peer := by
  obtain ⟨listed, hl, h⟩ := bind_eq_ok.mp h
  have hlisted : ∀ {peer}, peer ∈ listed → _ := listNormalizedGossipPeers_accepted hl
  split at h
  · cases h
    exact hlisted hp
  · cases h
    exact hlisted hp
  · cases h
    exact hlisted hp
  · obtain ⟨requested, -, h⟩ := bind_eq_ok.mp h
    split at h
    · next matched hmatched =>
      split at h
      · cases h
      · cases h
        rw [List.mem_singleton] at hp
        rw [hp]
        exact hlisted (List.mem_of_find?_eq_some hmatched)
    · cases h

end Accepted

end Continuity
