import CoreVpn.Config.ServerConfig
import CoreVpn.Core.AddressPool

/-!
# Starting the server

`VpnServer::new` (`corevpn-server/src/server.rs`) parses the configured subnet and
builds the address pool from it, with no IPv6 network. A configuration that
`ServerConfig::validate` accepts always gets its pool (`addressPool_of_validate`),
since `validate` parses the same text; but it asks nothing more of the network. The
one-address network at the top of the IPv4 space passes, and `AddressPool::new` then
computes its gateway `network + 1` past `u32::MAX`: a panic in a debug build, and
`0.0.0.0` in a release build.
-/

namespace CoreVpn.Server

open CoreVpn.Config CoreVpn.Core

set_option autoImplicit false

def addressPool (parseIpv4Net : String → Except String Ipv4Net) (config : ServerConfig) :
    Except String AddressPool :=
  match parseIpv4Net config.network.subnet with
  | .error message => .error ("Invalid subnet: " ++ message)
  | .ok subnet => .ok (AddressPool.new (some subnet) none)

theorem addressPool_of_validate (parseIpv4Net : String → Except String Ipv4Net) (config : ServerConfig)
    (valid : config.validate parseIpv4Net = .ok ()) :
    ∃ subnet, parseIpv4Net config.network.subnet = .ok subnet ∧
      addressPool parseIpv4Net config = .ok (AddressPool.new (some subnet) none) := by
  cases parsed : parseIpv4Net config.network.subnet with
  | error message =>
      have refused : config.validate parseIpv4Net =
          .error (if config.server.publicHost.isEmpty then .missingField "server.public_host"
            else .validationError ("invalid subnet: " ++ message)) := by
        by_cases empty : config.server.publicHost.isEmpty
        · simp only [ServerConfig.validate, empty, if_true]
          rfl
        · simp only [ServerConfig.validate, empty, parsed, Bool.false_eq_true, if_false]
          rfl
      rw [refused] at valid
      cases valid
  | ok subnet => exact ⟨subnet, rfl, by rw [addressPool, parsed]⟩

def topIpv4Net : Ipv4Net := ⟨BitVec.allOnes 32, 32, le_refl 32⟩

/-- The setup wizard's configuration with the subnet `255.255.255.255/32` validates
wherever `ipnet` reads that text as the network of the top address, and the pool the
server starts with computes a gateway past `u32::MAX`, which wraps to `0.0.0.0`. -/
theorem top_subnet_gateway_passes_u32_max (parseIpv4Net : String → Except String Ipv4Net)
    (parsed : parseIpv4Net "255.255.255.255/32" = .ok topIpv4Net) :
    (setupConfig "vpn.example.com" 1194 "udp" "/var/lib/corevpn" "255.255.255.255/32" true none).validate
        parseIpv4Net = .ok () ∧
      ∃ pool, addressPool parseIpv4Net
          (setupConfig "vpn.example.com" 1194 "udp" "/var/lib/corevpn" "255.255.255.255/32" true none) =
            .ok pool ∧
        ∃ net ∈ pool.ipv4Net, 4294967295 < net.network.toNat + 1 ∧ pool.gatewayV4 = some 0 := by
  have passed : (setupConfig "vpn.example.com" 1194 "udp" "/var/lib/corevpn" "255.255.255.255/32" true
      none).validate parseIpv4Net = .ok () := by
    simp [ServerConfig.validate, setupConfig, ServerConfig.defaultConfig, parsed, pure, Except.pure]
  obtain ⟨subnet, same, started⟩ := addressPool_of_validate parseIpv4Net _ passed
  have top : subnet = topIpv4Net := by
    simp only [setupConfig, ServerConfig.defaultConfig, parsed] at same
    exact (Except.ok.inj same).symm
  subst top
  have network : topIpv4Net.network.toNat = 4294967295 := by
    rw [IpNet.toNat_network_of_span_eq_one _ rfl]
    rfl
  refine ⟨passed, _, started, topIpv4Net, rfl, by omega, ?_⟩
  simp only [AddressPool.gatewayV4, AddressPool.new, Option.map_some, Option.some.injEq]
  exact BitVec.eq_of_toNat_eq (by simp [network])

/-- `ipnet`'s reading of the text, for a parser that knows only that network. -/
theorem top_subnet_gateway_passes_u32_max_for_ipnet :
    (setupConfig "vpn.example.com" 1194 "udp" "/var/lib/corevpn" "255.255.255.255/32" true none).validate
        (fun _ => .ok topIpv4Net) = .ok () ∧
      ∃ pool, addressPool (fun _ => .ok topIpv4Net)
          (setupConfig "vpn.example.com" 1194 "udp" "/var/lib/corevpn" "255.255.255.255/32" true none) =
            .ok pool ∧
        ∃ net ∈ pool.ipv4Net, 4294967295 < net.network.toNat + 1 ∧ pool.gatewayV4 = some 0 :=
  top_subnet_gateway_passes_u32_max (fun _ => .ok topIpv4Net) rfl

end CoreVpn.Server
