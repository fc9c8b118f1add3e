import CoreVpn.Lib.RustStr
import CoreVpn.Protocol.Opcode

/-!
# Push replies

`PushReply`, `PushRoute` and `Topology` (`corevpn-protocol/src/control.rs`): the
configuration a server pushes to a client as one line of comma-separated directives.
`encode` writes `PUSH_REPLY`, the topology, the addresses, the routes, the gateway
redirect, the DNS servers and search domains, the ping settings and the extra options,
in that order; `parse` strips the prefix, trims each comma-separated part and sorts it
by its first word, with every part it does not know kept as an option.

A reply whose texts are well-formed words, whose route gateways are not the literal
`vpn_gateway` and whose options neither hold a comma nor start with a directive parses
back from its encoding field by field (`parse_encode_of_wellFormed`).

`AuthMessage` carries a username and a password, each ended by a NUL; a message whose
fields hold no NUL parses back from its encoding (`AuthMessage.parse_encode_of_nul_free`).
-/

namespace CoreVpn.Protocol

open RustStr

set_option autoImplicit false

inductive Topology
  | net30
  | p2p
  | subnet
  deriving DecidableEq, Repr

namespace Topology

/-- `Topology::parse`: any unknown name is `Subnet`. -/
def parse (text : String) : Topology :=
  match toLowercase text with
  | "net30" => .net30
  | "p2p" => .p2p
  | "subnet" => .subnet
  | _ => .subnet

def asStr : Topology → String
  | .net30 => "net30"
  | .p2p => "p2p"
  | .subnet => "subnet"

theorem parse_asStr (topology : Topology) : parse topology.asStr = topology := by
  cases topology <;> decide

end Topology

/-- A token of a push reply: a word without a comma. -/
def IsToken (text : String) : Prop := IsWord text ∧ ',' ∉ text.toList

instance : DecidablePred IsToken := fun text =>
  decidable_of_iff (IsWord text ∧ text.toList.contains ',' = false) (by simp [IsToken])

theorem isToken_toString (n : Nat) : IsToken (toString n) :=
  ⟨isWord_toString n, fun comma => absurd (isDigit_of_mem_toString comma) (by decide)⟩

structure PushRoute where
  network : String
  netmask : String
  gateway : Option String
  metric : Option UInt32
  deriving DecidableEq

namespace PushRoute

def new (network netmask : String) : PushRoute := ⟨network, netmask, none, none⟩

/-- `PushRoute::encode`: without a gateway the route names `vpn_gateway`. -/
def encode (route : PushRoute) : String :=
  let text := "route " ++ route.network ++ " " ++ route.netmask
  let text :=
    match route.gateway with
    | some gateway => text ++ " " ++ gateway
    | none => text ++ " vpn_gateway"
  match route.metric with
  | some metric => text ++ " " ++ toString metric.toNat
  | none => text

/-- `PushRoute::parse`: the first word is skipped; a missing network or netmask is an
error, a gateway named `vpn_gateway` is none, and a metric that does not parse is none. -/
def parse (text : String) : Except ProtocolError PushRoute := do
  let tokens := (splitWhitespace text).drop 1
  let network ← match tokens[0]? with
    | some network => pure network
    | none => throw (.invalidPacket "missing network in route")
  let netmask ← match tokens[1]? with
    | some netmask => pure netmask
    | none => throw (.invalidPacket "missing netmask in route")
  let gateway := tokens[2]?.bind fun gateway => if gateway = "vpn_gateway" then none else some gateway
  let metric := tokens[3]?.bind parseU32
  pure ⟨network, netmask, gateway, metric⟩

def words (route : PushRoute) : List String :=
  ["route", route.network, route.netmask, route.gateway.getD "vpn_gateway"] ++
    route.metric.toList.map fun metric => toString metric.toNat

theorem encode_eq_intercalate (route : PushRoute) : route.encode = " ".intercalate route.words := by
  obtain ⟨network, netmask, gateway, metric⟩ := route
  rw [← String.toList_inj]
  unfold encode words
  cases gateway <;> cases metric <;> simp [String.toList_append]

/-! ## Well-formed routes -/

/-- A route whose texts are tokens and whose gateway is not the word that stands for none. -/
structure WellFormed (route : PushRoute) : Prop where
  network : IsToken route.network
  netmask : IsToken route.netmask
  gateway : ∀ gateway ∈ route.gateway, IsToken gateway ∧ gateway ≠ "vpn_gateway"

instance (route : PushRoute) : Decidable route.WellFormed :=
  decidable_of_iff (IsToken route.network ∧ IsToken route.netmask ∧
      (route.gateway.all fun gateway => decide (IsToken gateway) && gateway != "vpn_gateway") = true) (by
    constructor
    · rintro ⟨network, netmask, gateway⟩
      exact ⟨network, netmask, by simpa [Option.all_eq_true] using gateway⟩
    · rintro ⟨network, netmask, gateway⟩
      exact ⟨network, netmask, by simpa [Option.all_eq_true] using gateway⟩)

theorem WellFormed.words_isToken {route : PushRoute} (wf : route.WellFormed) :
    ∀ word ∈ route.words, IsToken word := by
  have gateway : IsToken (route.gateway.getD "vpn_gateway") := by
    cases found : route.gateway with
    | none => decide
    | some gateway => exact (wf.gateway gateway found).1
  intro word member
  unfold words at member
  simp only [List.cons_append, List.nil_append, List.mem_cons, List.mem_map,
    Option.mem_toList] at member
  rcases member with rfl | rfl | rfl | rfl | ⟨metric, -, rfl⟩
  · decide
  · exact wf.network
  · exact wf.netmask
  · exact gateway
  · exact isToken_toString _

theorem WellFormed.comma_not_mem_encode {route : PushRoute} (wf : route.WellFormed) :
    ',' ∉ route.encode.toList := by
  rw [encode_eq_intercalate, String.toList_intercalate]
  apply not_mem_intercalate (by decide)
  simp only [List.mem_map]
  rintro _ ⟨word, member, rfl⟩
  exact (wf.words_isToken word member).2

theorem parse_encode (route : PushRoute) (wf : route.WellFormed) : parse route.encode = .ok route := by
  have read : splitWhitespace route.encode = route.words := by
    rw [encode_eq_intercalate]
    exact splitWhitespace_intercalate _ (fun word member => (wf.words_isToken word member).1) (by unfold words; simp)
  unfold words at read
  unfold parse
  obtain ⟨network, netmask, gateway, metric⟩ := route
  cases gateway with
  | none => cases metric <;> simp [read, pure, Except.pure]
  | some gateway =>
      have named := (wf.gateway gateway rfl).2
      cases metric <;> simp [read, named, pure, Except.pure]

end PushRoute

structure PushReply where
  routes : List PushRoute
  ifconfig : Option (String × String)
  ifconfigIpv6 : Option String
  dns : List String
  dnsSearch : List String
  redirectGateway : Bool
  topology : Topology
  ping : UInt32
  pingRestart : UInt32
  options : List String
  deriving DecidableEq

namespace PushReply

def default : PushReply := ⟨[], none, none, [], [], false, .subnet, 10, 60, []⟩

def parts (reply : PushReply) : List String :=
  ["PUSH_REPLY", "topology " ++ reply.topology.asStr] ++
    (reply.ifconfig.map fun (ip, mask) => "ifconfig " ++ ip ++ " " ++ mask).toList ++
    (reply.ifconfigIpv6.map fun ipv6 => "ifconfig-ipv6 " ++ ipv6).toList ++
    reply.routes.map PushRoute.encode ++
    (if reply.redirectGateway then ["redirect-gateway def1"] else []) ++
    reply.dns.map (fun dns => "dhcp-option DNS " ++ dns) ++
    reply.dnsSearch.map (fun domain => "dhcp-option DOMAIN " ++ domain) ++
    ["ping " ++ toString reply.ping.toNat, "ping-restart " ++ toString reply.pingRestart.toNat] ++
    reply.options

def encode (reply : PushReply) : String := ",".intercalate reply.parts

def readDirective (reply : PushReply) (part : String) (tokens : List String) : PushReply :=
  match tokens with
  | "topology" :: rest =>
      match rest.head? with
      | some topo => { reply with topology := Topology.parse topo }
      | none => reply
  | "ifconfig" :: rest => { reply with ifconfig := some (rest.headD "", (rest.drop 1).headD "") }
  | "ifconfig-ipv6" :: rest =>
      match rest.head? with
      | some ipv6 => { reply with ifconfigIpv6 := some ipv6 }
      | none => reply
  | "route" :: _ =>
      match PushRoute.parse part with
      | .ok route => { reply with routes := reply.routes ++ [route] }
      | .error _ => reply
  | "redirect-gateway" :: _ => { reply with redirectGateway := true }
  | "dhcp-option" :: rest =>
      match rest with
      | "DNS" :: dns :: _ => { reply with dns := reply.dns ++ [dns] }
      | "DOMAIN" :: domain :: _ => { reply with dnsSearch := reply.dnsSearch ++ [domain] }
      | _ => reply
  | "ping" :: rest =>
      match rest.head?.bind parseU32 with
      | some ping => { reply with ping := ping }
      | none => reply
  | "ping-restart" :: rest =>
      match rest.head?.bind parseU32 with
      | some pingRestart => { reply with pingRestart := pingRestart }
      | none => reply
  | _ => { reply with options := reply.options ++ [part] }

def readPart (reply : PushReply) (part : String) : PushReply :=
  let part := trim part
  if part.isEmpty then reply else readDirective reply part (splitWhitespace part)

/-- `PushReply::parse`: a leading `PUSH_REPLY,` is dropped and the comma-separated parts
are read into the default reply. It never fails. -/
def parse (text : String) : Except ProtocolError PushReply :=
  let text := (stripPrefix text "PUSH_REPLY,").getD text
  .ok ((split text ',').foldl readPart default)

/-! ## Well-formed replies -/

def directives : List String :=
  ["topology", "ifconfig", "ifconfig-ipv6", "route", "redirect-gateway", "dhcp-option", "ping",
    "ping-restart"]

/-- An extra option that reads back as itself: not empty, without a comma, without
whitespace at either end, and not starting with a directive. -/
structure IsOption (option : String) : Prop where
  nonempty : option ≠ ""
  noComma : ',' ∉ option.toList
  headClean : ∀ c ∈ option.toList.head?, isWhitespace c = false
  lastClean : ∀ c ∈ option.toList.getLast?, isWhitespace c = false
  notDirective : ∀ word ∈ (splitWhitespace option).head?, word ∉ directives

instance (option : String) : Decidable (IsOption option) :=
  decidable_of_iff (option.toList.isEmpty = false ∧ option.toList.contains ',' = false ∧
      (option.toList.head?.all fun c => !isWhitespace c) = true ∧
      (option.toList.getLast?.all fun c => !isWhitespace c) = true ∧
      ((splitWhitespace option).head?.all fun word => !directives.contains word) = true) (by
    constructor
    · rintro ⟨nonempty, noComma, headClean, lastClean, notDirective⟩
      exact ⟨by simpa using nonempty, by simpa using noComma,
        by simpa [Option.all_eq_true] using headClean, by simpa [Option.all_eq_true] using lastClean,
        by simpa [Option.all_eq_true] using notDirective⟩
    · rintro ⟨nonempty, noComma, headClean, lastClean, notDirective⟩
      exact ⟨by simpa using nonempty, by simpa using noComma,
        by simpa [Option.all_eq_true] using headClean, by simpa [Option.all_eq_true] using lastClean,
        by simpa [Option.all_eq_true] using notDirective⟩)

/-- A reply whose texts are tokens, whose routes are well-formed and whose options read
back as themselves. -/
structure WellFormed (reply : PushReply) : Prop where
  ifconfig : ∀ addresses ∈ reply.ifconfig, IsToken addresses.1 ∧ IsToken addresses.2
  ifconfigIpv6 : ∀ ipv6 ∈ reply.ifconfigIpv6, IsToken ipv6
  routes : ∀ route ∈ reply.routes, route.WellFormed
  dns : ∀ dns ∈ reply.dns, IsToken dns
  dnsSearch : ∀ domain ∈ reply.dnsSearch, IsToken domain
  options : ∀ option ∈ reply.options, IsOption option

instance (reply : PushReply) : Decidable reply.WellFormed :=
  decidable_of_iff
    ((reply.ifconfig.all fun addresses => decide (IsToken addresses.1) && decide (IsToken addresses.2)) = true ∧
      (reply.ifconfigIpv6.all fun ipv6 => decide (IsToken ipv6)) = true ∧
      (reply.routes.all fun route => decide route.WellFormed) = true ∧
      (reply.dns.all fun dns => decide (IsToken dns)) = true ∧
      (reply.dnsSearch.all fun domain => decide (IsToken domain)) = true ∧
      (reply.options.all fun option => decide (IsOption option)) = true) (by
    constructor
    · rintro ⟨ifconfig, ifconfigIpv6, routes, dns, dnsSearch, options⟩
      exact ⟨by simpa [Option.all_eq_true] using ifconfig, by simpa [Option.all_eq_true] using ifconfigIpv6,
        by simpa using routes, by simpa using dns, by simpa using dnsSearch, by simpa using options⟩
    · rintro ⟨ifconfig, ifconfigIpv6, routes, dns, dnsSearch, options⟩
      exact ⟨by simpa [Option.all_eq_true] using ifconfig, by simpa [Option.all_eq_true] using ifconfigIpv6,
        by simpa using routes, by simpa using dns, by simpa using dnsSearch, by simpa using options⟩)

theorem WellFormed.comma_not_mem_parts {reply : PushReply} (wf : reply.WellFormed) :
    ∀ part ∈ reply.parts, ',' ∉ part.toList := by
  have topology : ',' ∉ reply.topology.asStr.toList := by
    cases reply.topology <;> decide
  have joined : ∀ {pre text : String}, ',' ∉ pre.toList → ',' ∉ text.toList → ',' ∉ (pre ++ text).toList := by
    intro pre text preClean textClean
    simpa [String.toList_append] using ⟨preClean, textClean⟩
  intro part member
  unfold parts at member
  simp only [List.cons_append, List.mem_cons, List.mem_append, List.mem_map, Option.mem_toList,
    Option.map_eq_some_iff, List.nil_append, List.mem_ite_nil_right, List.not_mem_nil, or_false] at member
  rcases member with rfl | rfl | ((((((⟨⟨ip, mask⟩, found, rfl⟩ | ⟨ipv6, found, rfl⟩) |
      ⟨route, routeMember, rfl⟩) | ⟨-, rfl⟩) | ⟨dns, dnsMember, rfl⟩) | ⟨domain, domainMember, rfl⟩) |
      rfl | rfl) | optionMember
  · decide
  · exact joined (by decide) topology
  · have tokens := wf.ifconfig _ found
    exact joined (joined (joined (by decide) tokens.1.2) (by decide)) tokens.2.2
  · exact joined (by decide) (wf.ifconfigIpv6 _ found).2
  · exact (wf.routes route routeMember).comma_not_mem_encode
  · decide
  · exact joined (by decide) (wf.dns dns dnsMember).2
  · exact joined (by decide) (wf.dnsSearch domain domainMember).2
  · exact joined (by decide) (isToken_toString _).2
  · exact joined (by decide) (isToken_toString _).2
  · exact (wf.options part optionMember).noComma

/-! ## Reading one part -/

theorem readPart_intercalate (reply : PushReply) (words : List String)
    (isWord : ∀ word ∈ words, IsWord word) (nonempty : words ≠ []) :
    readPart reply (" ".intercalate words) = readDirective reply (" ".intercalate words) words := by
  have filled : (" ".intercalate words).isEmpty = false := by
    rw [Bool.eq_false_iff, ne_eq, String.isEmpty_iff]
    intro empty
    have read := splitWhitespace_intercalate words isWord nonempty
    rw [empty] at read
    exact nonempty (by rw [← read]; rfl)
  unfold readPart
  dsimp only
  rw [trim_intercalate words isWord nonempty, filled, splitWhitespace_intercalate words isWord nonempty]
  rfl

theorem readPart_directive (reply : PushReply) (keywords args : List String)
    (isKeyword : ∀ keyword ∈ keywords, IsWord keyword) (isArg : ∀ arg ∈ args, IsWord arg)
    (named : keywords ≠ []) :
    readPart reply (" ".intercalate (keywords ++ args)) =
      readDirective reply (" ".intercalate (keywords ++ args)) (keywords ++ args) := by
  refine readPart_intercalate reply _ ?_ (List.append_ne_nil_of_left_ne_nil named _)
  intro word member
  rcases List.mem_append.mp member with keyword | arg
  · exact isKeyword word keyword
  · exact isArg word arg

theorem readPart_topology (reply : PushReply) (topology : Topology) :
    readPart reply ("topology " ++ topology.asStr) = { reply with topology := topology } := by
  have spelled : "topology " ++ topology.asStr = " ".intercalate (["topology"] ++ [topology.asStr]) := by
    simp [String.intercalate_cons_cons]
  have isArg : ∀ arg ∈ [topology.asStr], IsWord arg := by
    cases topology <;> decide
  rw [spelled, readPart_directive _ _ _ (by decide) isArg (by simp)]
  exact congrArg (fun topology => { reply with topology := topology }) (Topology.parse_asStr topology)

theorem readPart_ifconfig (reply : PushReply) {ip mask : String} (ipToken : IsToken ip)
    (maskToken : IsToken mask) :
    readPart reply ("ifconfig " ++ ip ++ " " ++ mask) = { reply with ifconfig := some (ip, mask) } := by
  have spelled : "ifconfig " ++ ip ++ " " ++ mask = " ".intercalate (["ifconfig"] ++ [ip, mask]) := by
    simp [String.intercalate_cons_cons, String.append_assoc]
  have isArg : ∀ arg ∈ [ip, mask], IsWord arg := by
    simp [ipToken.1, maskToken.1]
  rw [spelled, readPart_directive _ _ _ (by decide) isArg (by simp)]
  rfl

theorem readPart_ifconfigIpv6 (reply : PushReply) {ipv6 : String} (token : IsToken ipv6) :
    readPart reply ("ifconfig-ipv6 " ++ ipv6) = { reply with ifconfigIpv6 := some ipv6 } := by
  have spelled : "ifconfig-ipv6 " ++ ipv6 = " ".intercalate (["ifconfig-ipv6"] ++ [ipv6]) := by
    simp [String.intercalate_cons_cons]
  rw [spelled, readPart_directive _ _ _ (by decide) (by simpa using token.1) (by simp)]
  rfl

theorem readPart_route (reply : PushReply) {route : PushRoute} (wf : route.WellFormed) :
    readPart reply route.encode = { reply with routes := reply.routes ++ [route] } := by
  have parsed := PushRoute.parse_encode route wf
  have isWord : ∀ word ∈ route.words, IsWord word := fun word member => (wf.words_isToken word member).1
  have first : route.words = "route" :: route.words.tail := rfl
  rw [PushRoute.encode_eq_intercalate] at parsed ⊢
  rw [readPart_intercalate _ _ isWord (by unfold PushRoute.words; simp)]
  generalize " ".intercalate route.words = part at parsed ⊢
  rw [first]
  unfold readDirective; simp only [parsed]

theorem readPart_redirectGateway (reply : PushReply) :
    readPart reply "redirect-gateway def1" = { reply with redirectGateway := true } := by
  rw [show "redirect-gateway def1" = " ".intercalate ["redirect-gateway", "def1"] by decide,
    readPart_intercalate _ _ (by decide) (by simp)]
  rfl

theorem readPart_dns (reply : PushReply) {dns : String} (token : IsToken dns) :
    readPart reply ("dhcp-option DNS " ++ dns) = { reply with dns := reply.dns ++ [dns] } := by
  have spelled : "dhcp-option DNS " ++ dns = " ".intercalate (["dhcp-option", "DNS"] ++ [dns]) := by
    simp [String.intercalate_cons_cons, ← String.append_assoc]
  rw [spelled, readPart_directive _ _ _ (by decide) (by simpa using token.1) (by simp)]
  rfl

theorem readPart_dnsSearch (reply : PushReply) {domain : String} (token : IsToken domain) :
    readPart reply ("dhcp-option DOMAIN " ++ domain) =
      { reply with dnsSearch := reply.dnsSearch ++ [domain] } := by
  have spelled : "dhcp-option DOMAIN " ++ domain = " ".intercalate (["dhcp-option", "DOMAIN"] ++ [domain]) := by
    simp [String.intercalate_cons_cons, ← String.append_assoc]
  rw [spelled, readPart_directive _ _ _ (by decide) (by simpa using token.1) (by simp)]
  rfl

theorem readPart_ping (reply : PushReply) (ping : UInt32) :
    readPart reply ("ping " ++ toString ping.toNat) = { reply with ping := ping } := by
  have spelled : "ping " ++ toString ping.toNat = " ".intercalate (["ping"] ++ [toString ping.toNat]) := by
    simp [String.intercalate_cons_cons]
  rw [spelled, readPart_directive _ _ _ (by decide) (by simpa using isWord_toString _) (by simp)]
  exact congrArg (fun parsed => match parsed with | some ping => { reply with ping := ping } | none => reply)
    (parseU32_repr ping)

theorem readPart_pingRestart (reply : PushReply) (pingRestart : UInt32) :
    readPart reply ("ping-restart " ++ toString pingRestart.toNat) =
      { reply with pingRestart := pingRestart } := by
  have spelled : "ping-restart " ++ toString pingRestart.toNat =
      " ".intercalate (["ping-restart"] ++ [toString pingRestart.toNat]) := by
    simp [String.intercalate_cons_cons]
  rw [spelled, readPart_directive _ _ _ (by decide) (by simpa using isWord_toString _) (by simp)]
  exact congrArg (fun parsed => match parsed with
    | some pingRestart => { reply with pingRestart := pingRestart }
    | none => reply) (parseU32_repr pingRestart)

theorem readPart_option (reply : PushReply) {option : String} (isOption : IsOption option) :
    readPart reply option = { reply with options := reply.options ++ [option] } := by
  have filled : option.isEmpty = false := by
    rw [Bool.eq_false_iff, ne_eq, String.isEmpty_iff]
    exact isOption.nonempty
  unfold readPart
  dsimp only
  rw [trim_eq_self option isOption.headClean isOption.lastClean, filled]
  cases tokens : splitWhitespace option with
  | nil => unfold readDirective; simp
  | cons word rest =>
      have other := isOption.notDirective word (by rw [tokens]; rfl)
      simp only [directives, List.mem_cons, List.not_mem_nil, or_false, not_or] at other
      unfold readDirective; simp [other]

/-! ## Reading an encoding back -/

theorem foldl_readPart_append {α : Type} (render : α → String) (field : PushReply → List α)
    (update : PushReply → List α → PushReply)
    (field_update : ∀ reply items, field (update reply items) = items)
    (update_update : ∀ reply items items', update (update reply items) items' = update reply items')
    (update_field : ∀ reply, update reply (field reply) = reply) (items : List α)
    (reads : ∀ reply, ∀ item ∈ items, readPart reply (render item) = update reply (field reply ++ [item]))
    (reply : PushReply) :
    (items.map render).foldl readPart reply = update reply (field reply ++ items) := by
  induction items generalizing reply with
  | nil => rw [List.map_nil, List.foldl_nil, List.append_nil, update_field]
  | cons item items ih =>
      have later := ih fun reply item member => reads reply item (List.mem_cons_of_mem _ member)
      rw [List.map_cons, List.foldl_cons, reads reply item List.mem_cons_self, later, field_update,
        update_update, List.append_assoc, List.singleton_append]

theorem foldl_readPart_ifconfig (reply : PushReply) {ifconfig : Option (String × String)}
    (tokens : ∀ addresses ∈ ifconfig, IsToken addresses.1 ∧ IsToken addresses.2)
    (unset : reply.ifconfig = none) :
    (ifconfig.map fun (ip, mask) => "ifconfig " ++ ip ++ " " ++ mask).toList.foldl readPart reply =
      { reply with ifconfig := ifconfig } := by
  cases ifconfig with
  | none => rw [Option.map_none, Option.toList_none, List.foldl_nil, ← unset]
  | some addresses =>
      have found := tokens addresses rfl
      rw [Option.map_some, Option.toList_some, List.foldl_cons, List.foldl_nil,
        readPart_ifconfig reply found.1 found.2]

theorem foldl_readPart_ifconfigIpv6 (reply : PushReply) {ifconfigIpv6 : Option String}
    (token : ∀ ipv6 ∈ ifconfigIpv6, IsToken ipv6) (unset : reply.ifconfigIpv6 = none) :
    (ifconfigIpv6.map fun ipv6 => "ifconfig-ipv6 " ++ ipv6).toList.foldl readPart reply =
      { reply with ifconfigIpv6 := ifconfigIpv6 } := by
  cases ifconfigIpv6 with
  | none => rw [Option.map_none, Option.toList_none, List.foldl_nil, ← unset]
  | some ipv6 =>
      rw [Option.map_some, Option.toList_some, List.foldl_cons, List.foldl_nil,
        readPart_ifconfigIpv6 reply (token ipv6 rfl)]

theorem foldl_readPart_redirectGateway (reply : PushReply) (redirectGateway : Bool)
    (unset : reply.redirectGateway = false) :
    (if redirectGateway then ["redirect-gateway def1"] else []).foldl readPart reply =
      { reply with redirectGateway := redirectGateway } := by
  cases redirectGateway with
  | false => rw [if_neg Bool.false_ne_true, List.foldl_nil, ← unset]
  | true => rw [if_pos rfl, List.foldl_cons, List.foldl_nil, readPart_redirectGateway]

theorem foldl_parts (reply : PushReply) (wf : reply.WellFormed) :
    reply.parts.tail.foldl readPart default = reply := by
  have routes := foldl_readPart_append PushRoute.encode PushReply.routes
    (fun reply routes => { reply with routes := routes }) (fun _ _ => rfl) (fun _ _ _ => rfl)
    (fun _ => rfl) reply.routes fun reply route member => readPart_route reply (wf.routes route member)
  have dns := foldl_readPart_append (fun dns => "dhcp-option DNS " ++ dns) PushReply.dns
    (fun reply dns => { reply with dns := dns }) (fun _ _ => rfl) (fun _ _ _ => rfl)
    (fun _ => rfl) reply.dns fun reply dns member => readPart_dns reply (wf.dns dns member)
  have dnsSearch := foldl_readPart_append (fun domain => "dhcp-option DOMAIN " ++ domain)
    PushReply.dnsSearch (fun reply domains => { reply with dnsSearch := domains }) (fun _ _ => rfl)
    (fun _ _ _ => rfl) (fun _ => rfl) reply.dnsSearch
    fun reply domain member => readPart_dnsSearch reply (wf.dnsSearch domain member)
  have options := foldl_readPart_append id PushReply.options
    (fun reply options => { reply with options := options }) (fun _ _ => rfl) (fun _ _ _ => rfl)
    (fun _ => rfl) reply.options fun reply option member => readPart_option reply (wf.options option member)
  rw [List.map_id] at options
  have ifconfig := fun reply => foldl_readPart_ifconfig reply wf.ifconfig
  have ifconfigIpv6 := fun reply => foldl_readPart_ifconfigIpv6 reply wf.ifconfigIpv6
  have redirectGateway := fun state => foldl_readPart_redirectGateway state reply.redirectGateway
  unfold parts
  simp only [List.cons_append, List.tail_cons, List.foldl_append, List.foldl_cons, List.foldl_nil,
    default, readPart_topology, ifconfig, ifconfigIpv6, routes, redirectGateway, dns, dnsSearch,
    readPart_ping, readPart_pingRestart, options, List.nil_append]

/-- Every well-formed push reply parses back from its encoding, field by field, with its
routes, DNS servers, search domains and options in their order. -/
theorem parse_encode_of_wellFormed (reply : PushReply) (wf : reply.WellFormed) :
    parse reply.encode = .ok reply := by
  have nonempty : reply.parts.tail ≠ [] := by unfold parts; simp
  have stripped : stripPrefix reply.encode "PUSH_REPLY," = some (",".intercalate reply.parts.tail) := by
    obtain ⟨rest, tail⟩ : ∃ rest, reply.parts.tail = ("topology " ++ reply.topology.asStr) :: rest :=
      ⟨_, rfl⟩
    have leading : reply.parts = "PUSH_REPLY" :: reply.parts.tail := rfl
    unfold encode
    rw [leading, tail, String.intercalate_cons_cons, String.append_assoc]
    exact stripPrefix_append _ _
  have pieces : split (",".intercalate reply.parts.tail) ',' = reply.parts.tail := by
    apply split_intercalate _ ',' _ nonempty
    intro part member
    exact wf.comma_not_mem_parts part (List.mem_of_mem_tail member)
  unfold parse
  dsimp only
  rw [stripped, Option.getD_some, pieces, foldl_parts reply wf]

/-- The reply of the source's round-trip test, with a gateway, a metric, an IPv6 address, a
search domain and an option added. -/
theorem parse_encode_test_reply :
    PushReply.WellFormed ⟨[⟨"10.0.0.0", "255.0.0.0", some "10.8.0.1", some 5⟩,
        PushRoute.new "192.168.1.0" "255.255.255.0"], some ("10.8.0.2", "255.255.255.0"),
        some "fd00::2/64", ["1.1.1.1"], ["vpn.local"], true, .subnet, 10, 60, ["comp-lzo no"]⟩ ∧
      parse (encode ⟨[⟨"10.0.0.0", "255.0.0.0", some "10.8.0.1", some 5⟩,
        PushRoute.new "192.168.1.0" "255.255.255.0"], some ("10.8.0.2", "255.255.255.0"),
        some "fd00::2/64", ["1.1.1.1"], ["vpn.local"], true, .subnet, 10, 60, ["comp-lzo no"]⟩) =
        .ok ⟨[⟨"10.0.0.0", "255.0.0.0", some "10.8.0.1", some 5⟩,
          PushRoute.new "192.168.1.0" "255.255.255.0"], some ("10.8.0.2", "255.255.255.0"),
          some "fd00::2/64", ["1.1.1.1"], ["vpn.local"], true, .subnet, 10, 60, ["comp-lzo no"]⟩ :=
  ⟨by decide, parse_encode_of_wellFormed _ (by decide)⟩

end PushReply

/-! ## Username and password -/

structure AuthMessage where
  username : String
  password : String
  deriving DecidableEq

namespace AuthMessage

/-- `parse`: the text before the first NUL is the username and the text after it, up to
the next NUL, the password; what follows is ignored. -/
def parse (data : List UInt8) : Except ProtocolError AuthMessage :=
  match fromUtf8 data with
  | none => .error (.invalidPacket "invalid UTF-8 in auth")
  | some text =>
      let parts := split text '\x00'
      if parts.length < 2 then .error (.invalidPacket "missing auth fields")
      else .ok ⟨parts.getD 0 "", parts.getD 1 ""⟩

/-- `encode`: each field followed by a NUL. -/
def encode (message : AuthMessage) : List UInt8 :=
  asBytes message.username ++ [0] ++ asBytes message.password ++ [0]

theorem encode_eq_asBytes (message : AuthMessage) :
    message.encode = asBytes ((String.singleton '\x00').intercalate [message.username, message.password, ""]) := by
  have nul : asBytes (String.singleton '\x00') = [0] := by decide
  show _ = asBytes (message.username ++ String.singleton '\x00' ++ message.password ++ String.singleton '\x00' ++ "")
  have empty : asBytes "" = [] := rfl
  rw [asBytes_append, asBytes_append, asBytes_append, asBytes_append, nul, empty, List.append_nil]
  rfl

/-- A message whose fields hold no NUL parses back from its encoding. -/
theorem parse_encode_of_nul_free (message : AuthMessage)
    (clean : '\x00' ∉ message.username.toList ∧ '\x00' ∉ message.password.toList) :
    parse message.encode = .ok message := by
  have pieces : split ((String.singleton '\x00').intercalate [message.username, message.password, ""]) '\x00' =
      [message.username, message.password, ""] := by
    apply split_intercalate _ _ _ (List.cons_ne_nil _ _)
    intro piece member
    rcases List.mem_cons.mp member with rfl | member
    · exact clean.1
    rcases List.mem_cons.mp member with rfl | member
    · exact clean.2
    rw [List.mem_singleton.mp member]
    exact List.not_mem_nil
  rw [parse, encode_eq_asBytes, fromUtf8_asBytes]
  simp only [pieces]
  rfl

theorem parse_encode_alice :
    ('\x00' ∉ "alice".toList ∧ '\x00' ∉ "s3cret".toList) ∧
      parse (AuthMessage.mk "alice" "s3cret").encode = .ok ⟨"alice", "s3cret"⟩ :=
  ⟨by decide, parse_encode_of_nul_free ⟨"alice", "s3cret"⟩ (by decide)⟩

end AuthMessage

end CoreVpn.Protocol
