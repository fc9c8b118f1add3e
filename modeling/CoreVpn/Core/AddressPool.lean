import CoreVpn.Lib.FirstFit
import CoreVpn.Lib.Machine
import Mathlib.Data.Finset.Option

/-!
# The address pool

`AddressPool` (`corevpn-core/src/network.rs`) hands out VPN addresses from an IPv4
and an IPv6 network. `allocate` scans each configured network first-fit from the
address after the gateway, `allocate_specific` claims a given address, and `release`
gives one back. The `HashSet`s behind their locks are finite sets; `u32` and `u128`
addresses are `BitVec 32` and `BitVec 128`, whose `+` wraps as a release build's
does. Networks follow `ipnet`: `network()` clears the host bits, `broadcast()` sets
them, and `contains` is the interval from one to the other.

The two scans differ in where they stop. The IPv4 scan stops at the broadcast
address and finds the least free address of the network (`allocateV4_eq_ok_iff`).
The IPv6 scan covers 65534 addresses whatever the prefix: on a network of at least
2^16 addresses it stays inside (`allocateV6_contains`), on a smaller one it hands out
addresses beyond the network. Over every run of calls, no address is handed out
while an earlier grant of it is outstanding (`run_grants_fresh`).
-/

namespace CoreVpn.Core

open FirstFit

set_option autoImplicit false

/-- The `CoreError` variants the address pool raises. -/
inductive CoreError
  | addressPoolExhausted
  | invalidAddress (message : String)
  | configError (message : String)
  deriving DecidableEq, Repr

abbrev Ipv4Addr := BitVec 32
abbrev Ipv6Addr := BitVec 128

/-- An `ipnet` network of `width`-bit addresses: `Ipv4Net::new` and `Ipv6Net::new`
refuse a prefix longer than the address. -/
structure IpNet (width : Nat) where
  addr : BitVec width
  prefixLen : Nat
  valid : prefixLen ≤ width
  deriving DecidableEq

abbrev Ipv4Net := IpNet 32
abbrev Ipv6Net := IpNet 128

namespace IpNet

variable {width : Nat}

def span (net : IpNet width) : Nat := 2 ^ (width - net.prefixLen)

/-- `network()`: the address with its host bits cleared. -/
def network (net : IpNet width) : BitVec width :=
  BitVec.ofNat width (net.addr.toNat / net.span * net.span)

/-- `broadcast()`: the address with its host bits set. -/
def broadcast (net : IpNet width) : BitVec width :=
  BitVec.ofNat width (net.addr.toNat / net.span * net.span + (net.span - 1))

/-- `contains`: from the network address to the broadcast address. -/
def contains (net : IpNet width) (addr : BitVec width) : Bool :=
  decide (net.network.toNat ≤ addr.toNat ∧ addr.toNat ≤ net.broadcast.toNat)

theorem span_pos (net : IpNet width) : 0 < net.span := Nat.two_pow_pos _

theorem network_add_span_le (net : IpNet width) :
    net.addr.toNat / net.span * net.span + net.span ≤ 2 ^ width := by
  have whole : 2 ^ width = 2 ^ net.prefixLen * net.span := by
    rw [span, ← Nat.pow_add]
    congr 1
    have := net.valid
    omega
  have quotient : net.addr.toNat / net.span < 2 ^ net.prefixLen := by
    rw [Nat.div_lt_iff_lt_mul net.span_pos, ← whole]
    exact net.addr.isLt
  calc net.addr.toNat / net.span * net.span + net.span
      = (net.addr.toNat / net.span + 1) * net.span := (Nat.add_one_mul _ _).symm
    _ ≤ 2 ^ net.prefixLen * net.span := Nat.mul_le_mul_right _ quotient
    _ = 2 ^ width := whole.symm

theorem toNat_network (net : IpNet width) :
    net.network.toNat = net.addr.toNat / net.span * net.span := by
  have room := network_add_span_le net
  have positive := span_pos net
  rw [network, BitVec.toNat_ofNat, Nat.mod_eq_of_lt (by omega)]

theorem toNat_broadcast (net : IpNet width) :
    net.broadcast.toNat = net.network.toNat + (net.span - 1) := by
  have room := network_add_span_le net
  have positive := span_pos net
  rw [broadcast, BitVec.toNat_ofNat, Nat.mod_eq_of_lt (by omega), toNat_network]

theorem contains_iff (net : IpNet width) (addr : BitVec width) :
    net.contains addr = true ↔
      net.network.toNat ≤ addr.toNat ∧ addr.toNat < net.network.toNat + net.span := by
  have positive := span_pos net
  rw [contains, decide_eq_true_iff, toNat_broadcast]
  omega

theorem network_add_span_le_size (net : IpNet width) :
    net.network.toNat + net.span ≤ 2 ^ width := by
  rw [toNat_network]
  exact network_add_span_le net

/-! ### Sums on the network address

`AddressPool::new`, `gateway_v4`, `gateway_v6`, `allocate_v4` and `allocate_v6` add
small numbers to `u32::from(net.network())` or `u128::from(net.network())`. A sum past
`2 ^ width - 1` panics in a debug build and wraps in a release build, as the `BitVec`
sums of the model do. -/

theorem network_add_lt_of_lt_span (net : IpNet width) {k : Nat} (small : k < net.span) :
    net.network.toNat + k < 2 ^ width := by
  have room := network_add_span_le_size net
  omega

theorem span_eq_one_iff (net : IpNet width) : net.span = 1 ↔ net.prefixLen = width := by
  have valid := net.valid
  rw [span, Nat.pow_eq_one]
  omega

theorem toNat_network_of_span_eq_one (net : IpNet width) (single : net.span = 1) :
    net.network.toNat = net.addr.toNat := by
  rw [toNat_network, single, Nat.div_one, Nat.mul_one]

theorem network_add_one_lt_iff (net : IpNet width) :
    net.network.toNat + 1 < 2 ^ width ↔ ¬ (net.prefixLen = width ∧ net.addr = BitVec.allOnes width) := by
  have positive := Nat.two_pow_pos width
  constructor
  · rintro fits ⟨whole, top⟩
    have single : net.span = 1 := (span_eq_one_iff net).mpr whole
    rw [toNat_network_of_span_eq_one net single, top, BitVec.toNat_allOnes] at fits
    omega
  · intro notTop
    by_cases single : net.span = 1
    · -- the network is its own address, which is not the top one
      have whole := (span_eq_one_iff net).mp single
      have below : net.addr.toNat ≠ 2 ^ width - 1 := fun top =>
        notTop ⟨whole, BitVec.eq_of_toNat_eq (by rw [top, BitVec.toNat_allOnes])⟩
      have inRange := net.addr.isLt
      rw [toNat_network_of_span_eq_one net single]
      omega
    · exact network_add_lt_of_lt_span net (by have := span_pos net; omega)

/-- `hosts().count()` of an `ipnet` IPv4 network: the addresses strictly between the
network and broadcast addresses, or every address of a /31 or /32. -/
def hostsCount (net : Ipv4Net) : Nat := if net.prefixLen < 31 then net.span - 2 else net.span

end IpNet

structure VpnAddress where
  ipv4 : Option Ipv4Addr
  ipv6 : Option Ipv6Addr
  deriving DecidableEq

/-- `struct AddressPool`; the two allocated sets sit behind locks in the source. -/
structure AddressPool where
  ipv4Net : Option Ipv4Net
  ipv6Net : Option Ipv6Net
  allocatedV4 : Finset Ipv4Addr
  allocatedV6 : Finset Ipv6Addr
  reservedV4 : Finset Ipv4Addr
  reservedV6 : Finset Ipv6Addr

/-- The standard library's `Display` of addresses and `ipnet`'s of networks; only the
texts of `allocate_specific`'s errors use them. -/
structure Render where
  ipv4 : Ipv4Addr → String
  ipv6 : Ipv6Addr → String
  ipv4Net : Ipv4Net → String
  ipv6Net : Ipv6Net → String

/-! ## What the two families share -/

section Family

variable {width : Nat}

def firstFree (reserved allocated : Finset (BitVec width)) (start stop : BitVec width) :
    Option (BitVec width) :=
  (firstFit (fun n => decide (BitVec.ofNat width n ∉ reserved ∧ BitVec.ofNat width n ∉ allocated))
    start.toNat (stop.toNat - start.toNat)).map (BitVec.ofNat width)

def claimFirstFree (reserved allocated : Finset (BitVec width)) (start stop : BitVec width) :
    Except CoreError (BitVec width) × Finset (BitVec width) :=
  match firstFree reserved allocated start stop with
  | some addr => (.ok addr, insert addr allocated)
  | none => (.error .addressPoolExhausted, allocated)

def claimSpecific (showAddr : BitVec width → String) (showNet : IpNet width → String)
    (net : Option (IpNet width)) (reserved allocated : Finset (BitVec width)) :
    Option (BitVec width) → Except CoreError (Finset (BitVec width))
  | none => .ok allocated
  | some addr =>
      match net.filter (fun net => !net.contains addr) with
      | some net => .error (.invalidAddress (showAddr addr ++ " not in pool " ++ showNet net))
      | none =>
          if addr ∈ reserved ∨ addr ∈ allocated then
            .error (.invalidAddress (showAddr addr ++ " is reserved or already allocated"))
          else .ok (insert addr allocated)

def releaseIn (allocated : Finset (BitVec width)) : Option (BitVec width) → Finset (BitVec width)
  | some addr => allocated.erase addr
  | none => allocated

theorem firstFree_eq_some_iff (reserved allocated : Finset (BitVec width))
    (start stop addr : BitVec width) :
    firstFree reserved allocated start stop = some addr ↔
      start.toNat ≤ addr.toNat ∧ addr.toNat < stop.toNat ∧ addr ∉ reserved ∧ addr ∉ allocated ∧
        ∀ other : BitVec width, start.toNat ≤ other.toNat → other.toNat < addr.toNat →
          other ∈ reserved ∨ other ∈ allocated := by
  rw [firstFree, Option.map_eq_some_iff]
  constructor
  · rintro ⟨n, found, rfl⟩
    obtain ⟨low, high, free, before⟩ := (firstFit_eq_some_iff _ _ _ _).mp found
    have inside : n < 2 ^ width := by
      have := stop.isLt
      omega
    rw [BitVec.toNat_ofNat, Nat.mod_eq_of_lt inside]
    obtain ⟨notReserved, notAllocated⟩ := of_decide_eq_true free
    refine ⟨low, by omega, notReserved, notAllocated, fun other otherLow otherHigh => ?_⟩
    have taken := before other.toNat otherLow otherHigh
    rw [BitVec.ofNat_toNat, BitVec.setWidth_eq, decide_eq_false_iff_not, not_and_or,
      not_not, not_not] at taken
    exact taken
  · rintro ⟨low, high, notReserved, notAllocated, before⟩
    refine ⟨addr.toNat, (firstFit_eq_some_iff _ _ _ _).mpr ⟨low, by omega, ?_, ?_⟩, ?_⟩
    · simp only [BitVec.ofNat_toNat, BitVec.setWidth_eq]
      exact decide_eq_true ⟨notReserved, notAllocated⟩
    · intro m mLow mHigh
      have small : m < 2 ^ width := by
        have := addr.isLt
        omega
      have taken := before (BitVec.ofNat width m) (by rw [BitVec.toNat_ofNat, Nat.mod_eq_of_lt small]; exact mLow)
        (by rw [BitVec.toNat_ofNat, Nat.mod_eq_of_lt small]; exact mHigh)
      rw [decide_eq_false_iff_not, not_and_or, not_not, not_not]
      exact taken
    · simp only [BitVec.ofNat_toNat, BitVec.setWidth_eq]

theorem firstFree_eq_none_iff (reserved allocated : Finset (BitVec width))
    (start stop : BitVec width) :
    firstFree reserved allocated start stop = none ↔
      ∀ other : BitVec width, start.toNat ≤ other.toNat → other.toNat < stop.toNat →
        other ∈ reserved ∨ other ∈ allocated := by
  rw [firstFree, Option.map_eq_none_iff, firstFit_eq_none_iff]
  constructor
  · intro taken other low high
    have refused := taken other.toNat low (by omega)
    rw [BitVec.ofNat_toNat, BitVec.setWidth_eq, decide_eq_false_iff_not, not_and_or,
      not_not, not_not] at refused
    exact refused
  · intro taken m low high
    have small : m < 2 ^ width := by
      have := stop.isLt
      omega
    have refused := taken (BitVec.ofNat width m)
      (by rw [BitVec.toNat_ofNat, Nat.mod_eq_of_lt small]; exact low)
      (by rw [BitVec.toNat_ofNat, Nat.mod_eq_of_lt small]; omega)
    rw [decide_eq_false_iff_not, not_and_or, not_not, not_not]
    exact refused

/-! ## Claiming addresses -/

section Claims

variable {α : Type}

/-- A step from the allocated set `before` to `after` that only adds, and whose handed
out address, if any, was free before and is allocated after. -/
def Claims (before after : Finset α) (handed : Option α) : Prop :=
  before ⊆ after ∧ ∀ addr, handed = some addr → addr ∉ before ∧ addr ∈ after

theorem Claims.unchanged (allocated : Finset α) : Claims allocated allocated none :=
  ⟨Finset.Subset.refl _, fun _ absent => nomatch absent⟩

theorem Claims.forget {before after : Finset α} {handed : Option α}
    (claims : Claims before after handed) : Claims before after none :=
  ⟨claims.1, fun _ absent => nomatch absent⟩

theorem Claims.insert [DecidableEq α] {allocated : Finset α} {addr : α} (free : addr ∉ allocated) :
    Claims allocated (insert addr allocated) (some addr) := by
  refine ⟨Finset.subset_insert _ _, ?_⟩
  rintro other ⟨⟩
  exact ⟨free, Finset.mem_insert_self _ _⟩

end Claims

theorem claimFirstFree_claims (reserved allocated : Finset (BitVec width)) (start stop : BitVec width) :
    Claims allocated (claimFirstFree reserved allocated start stop).2
      (claimFirstFree reserved allocated start stop).1.toOption := by
  unfold claimFirstFree
  split
  · next addr found =>
      exact Claims.insert ((firstFree_eq_some_iff _ _ _ _ _).mp found).2.2.2.1
  · exact Claims.unchanged allocated

theorem claimSpecific_claims {showAddr : BitVec width → String} {showNet : IpNet width → String}
    {net : Option (IpNet width)} {reserved allocated after : Finset (BitVec width)}
    {handed : Option (BitVec width)}
    (claimed : claimSpecific showAddr showNet net reserved allocated handed = .ok after) :
    Claims allocated after handed := by
  cases handed with
  | none =>
      cases claimed
      exact Claims.unchanged allocated
  | some addr =>
      simp only [claimSpecific] at claimed
      split at claimed
      · cases claimed
      · by_cases taken : addr ∈ reserved ∨ addr ∈ allocated
        · rw [if_pos taken] at claimed
          cases claimed
        · rw [if_neg taken] at claimed
          cases claimed
          exact Claims.insert fun allocatedAlready => taken (Or.inr allocatedAlready)

theorem releaseIn_eq_sdiff (allocated : Finset (BitVec width)) (addr : Option (BitVec width)) :
    releaseIn allocated addr = allocated \ addr.toFinset := by
  cases addr with
  | none => simp [releaseIn]
  | some addr => simp [releaseIn, Finset.erase_eq]

end Family

/-! ## The pool -/

namespace AddressPool

/-- `AddressPool::new`: the network, broadcast and gateway addresses of the IPv4
network are reserved, and the gateway address of the IPv6 network. -/
def new (ipv4Net : Option Ipv4Net) (ipv6Net : Option Ipv6Net) : AddressPool where
  ipv4Net := ipv4Net
  ipv6Net := ipv6Net
  allocatedV4 := ∅
  allocatedV6 := ∅
  reservedV4 :=
    match ipv4Net with
    | some net => {net.network, net.broadcast, net.network + 1}
    | none => ∅
  reservedV6 :=
    match ipv6Net with
    | some net => {net.network + 1}
    | none => ∅

def gatewayV4 (pool : AddressPool) : Option Ipv4Addr :=
  pool.ipv4Net.map fun net => net.network + 1

def gatewayV6 (pool : AddressPool) : Option Ipv6Addr :=
  pool.ipv6Net.map fun net => net.network + 1

/-- `allocate_v4`: from the address after the gateway up to the broadcast address. -/
def allocateV4 (pool : AddressPool) (net : Ipv4Net) : Except CoreError Ipv4Addr × AddressPool :=
  let (result, allocated) :=
    claimFirstFree pool.reservedV4 pool.allocatedV4 (net.network + 2) net.broadcast
  (result, { pool with allocatedV4 := allocated })

/-- `allocate_v6`: 65534 addresses from the address after the gateway, whatever the
prefix. -/
def allocateV6 (pool : AddressPool) (net : Ipv6Net) : Except CoreError Ipv6Addr × AddressPool :=
  let start := net.network + 2
  let (result, allocated) := claimFirstFree pool.reservedV6 pool.allocatedV6 start (start + 65534)
  (result, { pool with allocatedV6 := allocated })

/-- `if let Some(net) = net { Some(allocate(net)?) } else { None }`: one family's
step of `allocate`. -/
def allocateIn {ν β : Type} (pool : AddressPool) (net : Option ν)
    (allocateFrom : ν → Except CoreError β × AddressPool) :
    Except CoreError (Option β) × AddressPool :=
  match net with
  | some net =>
      let (result, pool) := allocateFrom net
      (result.map some, pool)
  | none => (.ok none, pool)

/-- `allocate`: IPv4 first, then IPv6. A failure of either is returned as it is, and
an IPv4 address the first step claimed stays claimed. -/
def allocate (pool : AddressPool) : Except CoreError VpnAddress × AddressPool :=
  match pool.allocateIn pool.ipv4Net pool.allocateV4 with
  | (.error failure, pool) => (.error failure, pool)
  | (.ok ipv4, pool) =>
      match pool.allocateIn pool.ipv6Net pool.allocateV6 with
      | (.error failure, pool) => (.error failure, pool)
      | (.ok ipv6, pool) =>
          if ipv4.isNone && ipv6.isNone then
            (.error (.configError "No address pools configured"), pool)
          else (.ok ⟨ipv4, ipv6⟩, pool)

/-- `allocate_specific`: the IPv4 address is checked and claimed before the IPv6
address is checked, and stays claimed when that check fails. -/
def allocateSpecific (render : Render) (pool : AddressPool) (addr : VpnAddress) :
    Except CoreError VpnAddress × AddressPool :=
  match claimSpecific render.ipv4 render.ipv4Net pool.ipv4Net pool.reservedV4 pool.allocatedV4
      addr.ipv4 with
  | .error failure => (.error failure, pool)
  | .ok allocatedV4 =>
      let pool := { pool with allocatedV4 := allocatedV4 }
      match claimSpecific render.ipv6 render.ipv6Net pool.ipv6Net pool.reservedV6
          pool.allocatedV6 addr.ipv6 with
      | .error failure => (.error failure, pool)
      | .ok allocatedV6 => (.ok addr, { pool with allocatedV6 := allocatedV6 })

def release (pool : AddressPool) (addr : VpnAddress) : AddressPool :=
  { pool with
    allocatedV4 := releaseIn pool.allocatedV4 addr.ipv4
    allocatedV6 := releaseIn pool.allocatedV6 addr.ipv6 }

/-- `available_v4`: the host count less the reserved and the allocated addresses,
each subtraction saturating. -/
def availableV4 (pool : AddressPool) : Nat :=
  match pool.ipv4Net with
  | some net => net.hostsCount - pool.reservedV4.card - pool.allocatedV4.card
  | none => 0

/-- `available_v6`: the 65534 addresses the scan covers, less the allocated ones. -/
def availableV6 (pool : AddressPool) : Nat :=
  if pool.ipv6Net.isSome then 65534 - pool.allocatedV6.card else 0

/-! ## What each call claims -/

/-- A pool step that, in each family, only adds to the allocated set and claims the
address of that family it hands out. -/
def ClaimsBoth (before after : AddressPool) (handed : Option VpnAddress) : Prop :=
  Claims before.allocatedV4 after.allocatedV4 (handed.bind VpnAddress.ipv4) ∧
    Claims before.allocatedV6 after.allocatedV6 (handed.bind VpnAddress.ipv6)

/-! The kernel unfolds `allocate_v4` and `allocate_v6` slowly: their pair pattern sits on
the scan, which it reduces before it looks at the pair. These equations rewrite with the
generated equation and generalise the scan first; the proofs below use them instead. -/

theorem allocateV4_fst (pool : AddressPool) (net : Ipv4Net) :
    (pool.allocateV4 net).1 =
      (claimFirstFree pool.reservedV4 pool.allocatedV4 (net.network + 2) net.broadcast).1 := by
  rewrite [allocateV4.eq_1]
  cases claimFirstFree pool.reservedV4 pool.allocatedV4 (net.network + 2) net.broadcast
  rfl

theorem allocateV4_allocatedV4 (pool : AddressPool) (net : Ipv4Net) :
    (pool.allocateV4 net).2.allocatedV4 =
      (claimFirstFree pool.reservedV4 pool.allocatedV4 (net.network + 2) net.broadcast).2 := by
  rewrite [allocateV4.eq_1]
  cases claimFirstFree pool.reservedV4 pool.allocatedV4 (net.network + 2) net.broadcast
  rfl

theorem allocateV4_snd (pool : AddressPool) (net : Ipv4Net) :
    (pool.allocateV4 net).2 = { pool with allocatedV4 := (pool.allocateV4 net).2.allocatedV4 } := by
  rewrite [allocateV4.eq_1]
  cases claimFirstFree pool.reservedV4 pool.allocatedV4 (net.network + 2) net.broadcast
  rfl

theorem allocateV6_fst (pool : AddressPool) (net : Ipv6Net) :
    (pool.allocateV6 net).1 =
      (claimFirstFree pool.reservedV6 pool.allocatedV6 (net.network + 2)
        (net.network + 2 + 65534)).1 := by
  rewrite [allocateV6.eq_1]
  cases claimFirstFree pool.reservedV6 pool.allocatedV6 (net.network + 2) (net.network + 2 + 65534)
  rfl

theorem allocateV6_allocatedV6 (pool : AddressPool) (net : Ipv6Net) :
    (pool.allocateV6 net).2.allocatedV6 =
      (claimFirstFree pool.reservedV6 pool.allocatedV6 (net.network + 2)
        (net.network + 2 + 65534)).2 := by
  rewrite [allocateV6.eq_1]
  cases claimFirstFree pool.reservedV6 pool.allocatedV6 (net.network + 2) (net.network + 2 + 65534)
  rfl

theorem allocateV6_snd (pool : AddressPool) (net : Ipv6Net) :
    (pool.allocateV6 net).2 = { pool with allocatedV6 := (pool.allocateV6 net).2.allocatedV6 } := by
  rewrite [allocateV6.eq_1]
  cases claimFirstFree pool.reservedV6 pool.allocatedV6 (net.network + 2) (net.network + 2 + 65534)
  rfl

theorem allocateV4_claims (pool : AddressPool) (net : Ipv4Net) :
    Claims pool.allocatedV4 (pool.allocateV4 net).2.allocatedV4 (pool.allocateV4 net).1.toOption := by
  rw [allocateV4_fst, allocateV4_allocatedV4]
  exact claimFirstFree_claims _ _ _ _

theorem allocateV6_claims (pool : AddressPool) (net : Ipv6Net) :
    Claims pool.allocatedV6 (pool.allocateV6 net).2.allocatedV6 (pool.allocateV6 net).1.toOption := by
  rw [allocateV6_fst, allocateV6_allocatedV6]
  exact claimFirstFree_claims _ _ _ _

theorem allocateIn_none {ν β : Type} (pool : AddressPool)
    (allocateFrom : ν → Except CoreError β × AddressPool) :
    pool.allocateIn none allocateFrom = (.ok none, pool) := rfl

theorem allocateIn_some {ν β : Type} (pool : AddressPool) (net : ν)
    (allocateFrom : ν → Except CoreError β × AddressPool) :
    pool.allocateIn (some net) allocateFrom =
      ((allocateFrom net).1.map some, (allocateFrom net).2) := by
  simp only [allocateIn]

theorem allocateIn_claims {ν : Type} {width : Nat} (pool : AddressPool) (net : Option ν)
    (allocateFrom : ν → Except CoreError (BitVec width) × AddressPool)
    (allocated : AddressPool → Finset (BitVec width))
    (claims : ∀ net, Claims (allocated pool) (allocated (allocateFrom net).2)
      (allocateFrom net).1.toOption) :
    Claims (allocated pool) (allocated (pool.allocateIn net allocateFrom).2)
      (pool.allocateIn net allocateFrom).1.toOption.join := by
  cases net with
  | none => exact Claims.unchanged _
  | some net =>
      have claimed := claims net
      simp only [allocateIn]
      rcases result : allocateFrom net with ⟨_ | addr, after⟩ <;> rw [result] at claimed
      · exact claimed
      · exact claimed

theorem allocateIn_keeps {ν β : Type} (pool : AddressPool) (net : Option ν)
    (allocateFrom : ν → Except CoreError β × AddressPool) (keeps : AddressPool → Prop)
    (kept : keeps pool) (each : ∀ net, keeps (allocateFrom net).2) :
    keeps (pool.allocateIn net allocateFrom).2 := by
  cases net with
  | none => exact kept
  | some net => exact each net

theorem allocate_claims (pool : AddressPool) :
    ClaimsBoth pool pool.allocate.2 pool.allocate.1.toOption := by
  have v4Claims := allocateIn_claims pool pool.ipv4Net pool.allocateV4 allocatedV4
    (allocateV4_claims pool)
  have v4Keeps := allocateIn_keeps pool pool.ipv4Net pool.allocateV4
    (fun after => after.allocatedV6 = pool.allocatedV6) rfl (fun net => by rw [allocateV4_snd])
  unfold allocate
  rcases first : pool.allocateIn pool.ipv4Net pool.allocateV4 with ⟨_ | ipv4, afterV4⟩ <;>
    rw [first] at v4Claims v4Keeps
  · -- the IPv4 step failed and claimed nothing
    exact ⟨v4Claims, by rw [← v4Keeps]; exact Claims.unchanged _⟩
  · have v6Claims := allocateIn_claims afterV4 afterV4.ipv6Net afterV4.allocateV6 allocatedV6
      (allocateV6_claims afterV4)
    have v6Keeps := allocateIn_keeps afterV4 afterV4.ipv6Net afterV4.allocateV6
      (fun after => after.allocatedV4 = afterV4.allocatedV4) rfl (fun net => by rw [allocateV6_snd])
    dsimp only
    rcases second : afterV4.allocateIn afterV4.ipv6Net afterV4.allocateV6 with
      ⟨_ | ipv6, afterV6⟩ <;> rw [second] at v6Claims v6Keeps <;> dsimp only at v6Keeps ⊢
    · -- the IPv6 step failed: the IPv4 address stays claimed, nothing is handed out
      rw [v4Keeps] at v6Claims
      exact ⟨by rw [v6Keeps]; exact v4Claims.forget, v6Claims⟩
    · rw [v4Keeps] at v6Claims
      split
      · exact ⟨by rw [v6Keeps]; exact v4Claims.forget, v6Claims.forget⟩
      · exact ⟨by rw [v6Keeps]; exact v4Claims, v6Claims⟩

theorem allocateSpecific_claims (render : Render) (pool : AddressPool) (addr : VpnAddress) :
    ClaimsBoth pool (pool.allocateSpecific render addr).2
      (pool.allocateSpecific render addr).1.toOption := by
  unfold allocateSpecific
  rcases first : claimSpecific render.ipv4 render.ipv4Net pool.ipv4Net pool.reservedV4
    pool.allocatedV4 addr.ipv4 with failure | allocatedV4
  · exact ⟨Claims.unchanged _, Claims.unchanged _⟩
  · have v4 := claimSpecific_claims first
    dsimp only
    rcases second : claimSpecific render.ipv6 render.ipv6Net pool.ipv6Net pool.reservedV6
      pool.allocatedV6 addr.ipv6 with failure | allocatedV6
    · exact ⟨v4.forget, Claims.unchanged _⟩
    · exact ⟨v4, claimSpecific_claims second⟩

/-! ## Where each scan looks -/

theorem claimFirstFree_eq_ok_iff {width : Nat} (reserved allocated : Finset (BitVec width))
    (start stop addr : BitVec width) :
    (claimFirstFree reserved allocated start stop).1 = .ok addr ↔
      firstFree reserved allocated start stop = some addr := by
  unfold claimFirstFree
  split
  · next found found' => simp only [found', Except.ok.injEq, Option.some.injEq]
  · next missing => simp only [missing, reduceCtorEq]

theorem claimFirstFree_snd_of_ok {width : Nat} {reserved allocated : Finset (BitVec width)}
    {start stop addr : BitVec width} (found : (claimFirstFree reserved allocated start stop).1 = .ok addr) :
    (claimFirstFree reserved allocated start stop).2 = insert addr allocated := by
  have scanned := (claimFirstFree_eq_ok_iff _ _ _ _ _).mp found
  simp only [claimFirstFree, scanned]

theorem allocateV4_eq_ok_iff (pool : AddressPool) (net : Ipv4Net) (addr : Ipv4Addr) :
    (pool.allocateV4 net).1 = .ok addr ↔
      (net.network + 2).toNat ≤ addr.toNat ∧ addr.toNat < net.broadcast.toNat ∧
        addr ∉ pool.reservedV4 ∧ addr ∉ pool.allocatedV4 ∧
        ∀ other : Ipv4Addr, (net.network + 2).toNat ≤ other.toNat → other.toNat < addr.toNat →
          other ∈ pool.reservedV4 ∨ other ∈ pool.allocatedV4 := by
  rw [allocateV4_fst]
  exact (claimFirstFree_eq_ok_iff _ _ _ _ _).trans (firstFree_eq_some_iff _ _ _ _ _)

theorem allocate_ipv4 (pool : AddressPool) {net : Ipv4Net} (configured : pool.ipv4Net = some net)
    {addr : VpnAddress} (handed : pool.allocate.1 = .ok addr) :
    ∃ ipv4, addr.ipv4 = some ipv4 ∧ (pool.allocateV4 net).1 = .ok ipv4 := by
  unfold allocate at handed
  rcases first : pool.allocateIn pool.ipv4Net pool.allocateV4 with ⟨_ | ipv4, afterV4⟩ <;>
    rw [first] at handed
  · cases handed
  · simp only [allocateIn, configured] at first
    rcases result : pool.allocateV4 net with ⟨_ | found, after⟩ <;> rw [result] at first <;>
      simp only [Except.map, Prod.mk.injEq, reduceCtorEq, false_and, Except.ok.injEq] at first
    · obtain ⟨rfl, rfl⟩ := first
      dsimp only at handed
      split at handed
      · cases handed
      · split at handed
        · cases handed
        · cases handed
          exact ⟨found, rfl, rfl⟩

theorem allocateV6_fst_congr {pool other : AddressPool} (reserved : pool.reservedV6 = other.reservedV6)
    (allocated : pool.allocatedV6 = other.allocatedV6) (net : Ipv6Net) :
    (pool.allocateV6 net).1 = (other.allocateV6 net).1 := by
  rw [allocateV6_fst, allocateV6_fst, reserved, allocated]

theorem allocate_succeeds_iff (pool : AddressPool) :
    (∃ addr, pool.allocate.1 = .ok addr) ↔
      (pool.ipv4Net.isSome ∨ pool.ipv6Net.isSome) ∧
        (∀ net ∈ pool.ipv4Net, ∃ addr, (pool.allocateV4 net).1 = .ok addr) ∧
        (∀ net ∈ pool.ipv6Net, ∃ addr, (pool.allocateV6 net).1 = .ok addr) := by
  -- Each branch first rewrites the steps of `allocate` to what they found, and only then
  -- simplifies: left to the full simp set, the matches of `allocate` are reduced first,
  -- with the scans still in them, and the kernel then has to run a scan to check that.
  rcases configured4 : pool.ipv4Net with _ | net4
  · rcases configured6 : pool.ipv6Net with _ | net6
    · simp only [allocate, allocateIn_none, configured4, configured6]
      simp
    · rcases found6 : pool.allocateV6 net6 with ⟨_ | addr6, after6⟩ <;>
        simp only [allocate, allocateIn_none, allocateIn_some, configured4, configured6, found6] <;>
        simp [Except.map, found6]
  · rcases found4 : pool.allocateV4 net4 with ⟨_ | addr4, after4⟩
    · simp only [allocate, allocateIn_some, configured4, found4]
      simp [Except.map, found4]
    · have kept : after4.reservedV6 = pool.reservedV6 ∧ after4.allocatedV6 = pool.allocatedV6 ∧
          after4.ipv6Net = pool.ipv6Net := by
        have frame : (pool.allocateV4 net4).2.reservedV6 = pool.reservedV6 ∧
            (pool.allocateV4 net4).2.allocatedV6 = pool.allocatedV6 ∧
            (pool.allocateV4 net4).2.ipv6Net = pool.ipv6Net := by
          rw [allocateV4_snd]
          exact ⟨rfl, rfl, rfl⟩
        rwa [found4] at frame
      simp only [allocate, allocateIn_some, configured4, found4, Except.map]
      rw [kept.2.2]
      rcases configured6 : pool.ipv6Net with _ | net6
      · rw [allocateIn_none]
        simp [found4]
      · -- the IPv6 step runs on the pool the IPv4 step left, which it reads alike
        have same6 := allocateV6_fst_congr kept.1 kept.2.1 net6
        rcases found6 : after4.allocateV6 net6 with ⟨_ | addr6, after6⟩ <;> rw [found6] at same6 <;>
          rw [allocateIn_some, found6] <;>
          simp [Except.map, found4, ← same6]

theorem allocate_keeps_ipv4_of_ipv6_failure (pool : AddressPool) {net4 : Ipv4Net} {net6 : Ipv6Net}
    (configured4 : pool.ipv4Net = some net4) (configured6 : pool.ipv6Net = some net6)
    {addr4 : Ipv4Addr} (found4 : (pool.allocateV4 net4).1 = .ok addr4)
    {failure : CoreError} (failed6 : (pool.allocateV6 net6).1 = .error failure) :
    pool.allocate.1 = .error failure ∧ addr4 ∉ pool.allocatedV4 ∧
      pool.allocate.2.allocatedV4 = insert addr4 pool.allocatedV4 := by
  have fresh := ((allocateV4_eq_ok_iff pool net4 addr4).mp found4).2.2.2.1
  have claimed : (pool.allocateV4 net4).2.allocatedV4 = insert addr4 pool.allocatedV4 := by
    rw [allocateV4_fst] at found4
    rw [allocateV4_allocatedV4, claimFirstFree_snd_of_ok found4]
  have frame := allocateV4_snd pool net4
  rcases step4 : pool.allocateV4 net4 with ⟨result4, after4⟩
  rw [step4] at found4 claimed frame
  dsimp only at found4 claimed frame
  subst found4
  have kept6 : after4.reservedV6 = pool.reservedV6 ∧ after4.allocatedV6 = pool.allocatedV6 ∧
      after4.ipv6Net = pool.ipv6Net := by
    rw [frame]
    exact ⟨rfl, rfl, rfl⟩
  have same6 := allocateV6_fst_congr kept6.1 kept6.2.1 net6
  have kept4 := allocateV6_snd after4 net6
  rcases step6 : after4.allocateV6 net6 with ⟨result6, after6⟩
  rw [step6, failed6] at same6
  rw [step6] at kept4
  dsimp only at same6 kept4
  subst same6
  simp only [allocate, allocateIn_some, configured4, step4, Except.map]
  rw [kept6.2.2, configured6, allocateIn_some, step6]
  dsimp only [Except.map]
  rw [kept4]
  exact ⟨rfl, fresh, claimed⟩

theorem allocateV6_contains (pool : AddressPool) (net : Ipv6Net) (large : 65536 ≤ net.span)
    {addr : Ipv6Addr} (handed : (pool.allocateV6 net).1 = .ok addr) :
    net.contains addr = true ∧ addr ≠ net.network ∧ addr ≠ net.network + 1 := by
  rw [allocateV6_fst] at handed
  obtain ⟨low, high, -⟩ :=
    (firstFree_eq_some_iff _ _ _ _ _).mp ((claimFirstFree_eq_ok_iff _ _ _ _ _).mp handed)
  have room := net.network_add_span_le_size
  have start : (net.network + 2).toNat = net.network.toNat + 2 := by
    rw [BitVec.toNat_add, show (2 : Ipv6Addr).toNat = 2 from rfl, Nat.mod_eq_of_lt (by omega)]
  have stop : (net.network + 2 + 65534).toNat ≤ net.network.toNat + 2 + 65534 := by
    rw [BitVec.toNat_add, start, show (65534 : Ipv6Addr).toNat = 65534 from rfl]
    exact Nat.mod_le _ _
  have gateway : (net.network + 1).toNat = net.network.toNat + 1 := by
    rw [BitVec.toNat_add, show (1 : Ipv6Addr).toNat = 1 from rfl, Nat.mod_eq_of_lt (by omega)]
  refine ⟨(IpNet.contains_iff net addr).mpr ⟨by omega, by omega⟩, ?_, ?_⟩
  · intro same
    rw [same] at low
    omega
  · intro same
    rw [same, gateway] at low
    omega

/-- On the network fd00::/127, which holds fd00:: and fd00::1 only, the first
`allocate` hands out fd00::2, outside it. -/
theorem allocate_leaves_small_ipv6_network :
    (AddressPool.new none (some ⟨0xfd00 <<< 112, 127, by decide⟩)).allocate.1 =
        .ok ⟨none, some (0xfd00 <<< 112 + 2)⟩ ∧
      (⟨0xfd00 <<< 112, 127, by decide⟩ : Ipv6Net).contains (0xfd00 <<< 112 + 2) = false :=
  ⟨by decide, by decide⟩

/-- `allocate_specific` is not atomic either: with a free IPv4 address and the
reserved IPv6 gateway address of a new dual-stack pool, the call fails on the IPv6
half and leaves the IPv4 address allocated. -/
theorem allocate_specific_keeps_ipv4_of_ipv6_failure (render : Render) :
    let pool := new (some ⟨0x0A080000, 24, by decide⟩) (some ⟨0xfd00 <<< 112, 64, by decide⟩)
    let addr : VpnAddress := ⟨some 0x0A080005, some (0xfd00 <<< 112 + 1)⟩
    (pool.allocateSpecific render addr).1 = .error (.invalidAddress
        (render.ipv6 (0xfd00 <<< 112 + 1) ++ " is reserved or already allocated")) ∧
      pool.allocatedV4 = ∅ ∧ (pool.allocateSpecific render addr).2.allocatedV4 = {0x0A080005} := by
  intro pool addr
  have inside4 : (⟨0x0A080000, 24, by decide⟩ : Ipv4Net).contains 0x0A080005 = true := by decide
  have inside6 : (⟨0xfd00 <<< 112, 64, by decide⟩ : Ipv6Net).contains (0xfd00 <<< 112 + 1) = true := by
    decide
  have checked4 : claimSpecific render.ipv4 render.ipv4Net pool.ipv4Net pool.reservedV4
      pool.allocatedV4 addr.ipv4 = .ok {0x0A080005} := by
    simp only [claimSpecific, pool, addr, new, Option.filter, inside4, Bool.not_true]
    rfl
  have refused6 : claimSpecific render.ipv6 render.ipv6Net pool.ipv6Net pool.reservedV6
      pool.allocatedV6 addr.ipv6 = .error (.invalidAddress
        (render.ipv6 (0xfd00 <<< 112 + 1) ++ " is reserved or already allocated")) := by
    simp only [claimSpecific, pool, addr, new, Option.filter, inside6, Bool.not_true]
    rfl
  simp only [allocateSpecific, checked4, refused6, true_and, and_true]
  rfl

/-! ## Availability -/

/-- On a new IPv4-only /30 pool, `available_v4` reports no address, yet one `allocate`
succeeds (the address after the gateway) before the pool is exhausted: the host count
already leaves out the network and broadcast addresses, and the reserved set removes
them again. -/
theorem available_v4_misses_allocatable_address :
    (new (some ⟨0x0A080000, 30, by decide⟩) none).availableV4 = 0 ∧
      (new (some ⟨0x0A080000, 30, by decide⟩) none).allocate.1 = .ok ⟨some 0x0A080002, none⟩ ∧
      (new (some ⟨0x0A080000, 30, by decide⟩) none).allocate.2.allocate.1 =
        .error .addressPoolExhausted := by
  decide

/-! ## Runs of calls -/

/-- A call a client of the pool makes. -/
inductive Call
  | allocate
  | allocateSpecific (addr : VpnAddress)
  | release (addr : VpnAddress)

def call (render : Render) (pool : AddressPool) : Call → Option (Except CoreError VpnAddress) × AddressPool
  | .allocate => (some pool.allocate.1, pool.allocate.2)
  | .allocateSpecific addr => (some (pool.allocateSpecific render addr).1, (pool.allocateSpecific render addr).2)
  | .release addr => (none, pool.release addr)

/-- What the clients hold: the addresses successful calls handed out and no `release`
has given back since. -/
structure Grants where
  v4 : Finset Ipv4Addr
  v6 : Finset Ipv6Addr

namespace Grants

def empty : Grants := ⟨∅, ∅⟩

def record (grants : Grants) : Call → Option (Except CoreError VpnAddress) → Grants
  | .release addr, _ => ⟨grants.v4 \ addr.ipv4.toFinset, grants.v6 \ addr.ipv6.toFinset⟩
  | _, some (.ok addr) => ⟨grants.v4 ∪ addr.ipv4.toFinset, grants.v6 ∪ addr.ipv6.toFinset⟩
  | _, _ => grants

/-- Every address a client holds is allocated in the pool. -/
def Covered (grants : Grants) (pool : AddressPool) : Prop :=
  grants.v4 ⊆ pool.allocatedV4 ∧ grants.v6 ⊆ pool.allocatedV6

end Grants

def audited (render : Render) (state : AddressPool × Grants) (request : Call) :
    Option (Except CoreError VpnAddress) × (AddressPool × Grants) :=
  ((call render state.1 request).1,
    ((call render state.1 request).2, state.2.record request (call render state.1 request).1))

theorem audited_simulation (render : Render) :
    Machine.Simulation (fun pool (state : AddressPool × Grants) => state.1 = pool)
      (call render) (audited render) := by
  rintro pool ⟨_, grants⟩ request rfl
  exact ⟨rfl, rfl⟩

theorem Claims.union_toFinset {α : Type} [DecidableEq α] {before after grants : Finset α}
    {handed : Option α} (claims : Claims before after handed) (held : grants ⊆ before) :
    grants ∪ handed.toFinset ⊆ after := by
  intro addr member
  rcases Finset.mem_union.mp member with old | new
  · exact claims.1 (held old)
  · exact (claims.2 addr (Option.mem_toFinset.mp new)).2

theorem Grants.record_covered {grants : Grants} {pool after : AddressPool} {request : Call}
    (notRelease : ∀ addr, request ≠ .release addr) {answer : Option (Except CoreError VpnAddress)}
    (claims : ClaimsBoth pool after (answer.bind Except.toOption)) (covered : grants.Covered pool) :
    (grants.record request answer).Covered after := by
  obtain ⟨claims4, claims6⟩ := claims
  have kept : grants.Covered after := ⟨covered.1.trans claims4.1, covered.2.trans claims6.1⟩
  have recorded : grants.record request answer =
      match answer with
      | some (.ok addr) => ⟨grants.v4 ∪ addr.ipv4.toFinset, grants.v6 ∪ addr.ipv6.toFinset⟩
      | _ => grants := by
    cases request with
    | release addr => exact absurd rfl (notRelease addr)
    | allocate | allocateSpecific _ => rcases answer with _ | _ | _ <;> rfl
  rw [recorded]
  rcases answer with _ | _ | addr
  · exact kept
  · exact kept
  · exact ⟨Claims.union_toFinset claims4 covered.1, Claims.union_toFinset claims6 covered.2⟩

theorem audited_covered (render : Render) (state : AddressPool × Grants) (request : Call)
    (covered : state.2.Covered state.1) :
    (audited render state request).2.2.Covered (audited render state request).2.1 := by
  obtain ⟨pool, grants⟩ := state
  cases request with
  | release addr =>
      obtain ⟨held4, held6⟩ := covered
      simp only [audited, call, Grants.record, Grants.Covered, release, releaseIn_eq_sdiff]
      exact ⟨Finset.sdiff_subset_sdiff held4 (Finset.Subset.refl _),
        Finset.sdiff_subset_sdiff held6 (Finset.Subset.refl _)⟩
  | allocate =>
      exact Grants.record_covered (fun _ => Call.noConfusion) (allocate_claims pool) covered
  | allocateSpecific addr =>
      exact Grants.record_covered (fun _ => Call.noConfusion)
        (allocateSpecific_claims render pool addr) covered

theorem ClaimsBoth.fresh {pool after : AddressPool} {result : Except CoreError VpnAddress}
    (claims : ClaimsBoth pool after result.toOption) {addr : VpnAddress} (handed : result = .ok addr)
    {grants : Grants} (covered : grants.Covered pool) :
    (∀ a ∈ addr.ipv4, a ∉ grants.v4) ∧ (∀ a ∈ addr.ipv6, a ∉ grants.v6) := by
  subst handed
  exact ⟨fun a member held => (claims.1.2 a member).1 (covered.1 held),
    fun a member held => (claims.2.2 a member).1 (covered.2 held)⟩

theorem audited_fresh (render : Render) (state : AddressPool × Grants) (request : Call)
    (covered : state.2.Covered state.1) {addr : VpnAddress}
    (handed : (audited render state request).1 = some (.ok addr)) :
    (∀ a ∈ addr.ipv4, a ∉ state.2.v4) ∧ (∀ a ∈ addr.ipv6, a ∉ state.2.v6) := by
  obtain ⟨pool, grants⟩ := state
  cases request with
  | release addr => cases handed
  | allocate => exact (allocate_claims pool).fresh (Option.some.inj handed) covered
  | allocateSpecific addr =>
      exact (allocateSpecific_claims render pool addr).fresh (Option.some.inj handed) covered

theorem run_grants_fresh (render : Render) (ipv4Net : Option Ipv4Net) (ipv6Net : Option Ipv6Net)
    (calls : List Call) (k : Nat) (inside : k < calls.length) {addr : VpnAddress}
    (handed : (Machine.run (call render) (new ipv4Net ipv6Net) calls).1[k]? = some (some (.ok addr))) :
    (∀ a ∈ addr.ipv4, a ∉ (Machine.run (audited render) (new ipv4Net ipv6Net, Grants.empty)
        (calls.take k)).2.2.v4) ∧
      (∀ a ∈ addr.ipv6, a ∉ (Machine.run (audited render) (new ipv4Net ipv6Net, Grants.empty)
        (calls.take k)).2.2.v6) := by
  have same := ((audited_simulation render).run
    (show (new ipv4Net ipv6Net, Grants.empty).1 = new ipv4Net ipv6Net from rfl) calls).1
  rw [same, Machine.run_getElem? _ _ _ k inside, Option.some.injEq] at handed
  have covered := Machine.run_invariant (audited render) (fun state => state.2.Covered state.1)
    (fun state request held => audited_covered render state request held)
    (show (new ipv4Net ipv6Net, Grants.empty).2.Covered (new ipv4Net ipv6Net, Grants.empty).1 from
      ⟨Finset.empty_subset _, Finset.empty_subset _⟩) (calls.take k)
  exact audited_fresh render _ _ covered handed

end AddressPool

end CoreVpn.Core
