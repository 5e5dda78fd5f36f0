import Sacn.Packet.Layout
import Sacn.Rust.Outcome

/-!
# Universes and their multicast addresses (`packet.rs`)

`is_universe_in_range` and the multicast address of a universe over IPv4 and IPv6.

* `universeToIpv4MulticastAddr_injective`, `universeToIpv6MulticastAddr_injective`: no two
  universes share an address.
-/

namespace Sacn

open Rust Rust.Outcome

/-- `std::net::IpAddr`. -/
inductive IpAddr where
  | v4 (a b c d : UInt8)
  | v6 (a b c d e f g h : UInt16)
  deriving DecidableEq, Repr

/-- `std::net::SocketAddr`. -/
structure SocketAddr where
  ip : IpAddr
  port : UInt16
  deriving DecidableEq, Repr

/-- `SocketAddr::is_ipv6`. -/
def SocketAddr.isIpv6 (addr : SocketAddr) : Bool :=
  match addr.ip with
  | .v4 .. => false
  | .v6 .. => true

/-- `ACN_SDT_MULTICAST_PORT`. -/
def acnSdtMulticastPort : UInt16 := 5568

/-- What `is_universe_in_range` asks: the legal universes are `1..=63999` and the discovery
universe. -/
def UniverseInRange (uni : UInt16) : Prop :=
  uni = e131DiscoveryUniverse ∨ e131MinMulticastUniverse ≤ uni ∧ uni ≤ e131MaxMulticastUniverse

instance (uni : UInt16) : Decidable (UniverseInRange uni) := inferInstanceAs (Decidable (_ ∨ _))

/-- `is_universe_in_range`. -/
def isUniverseInRange (uni : UInt16) : Outcome SacnError Unit :=
  throwIf (¬ UniverseInRange uni) (.illegalUniverse uni)

/-- `universe_to_ipv4_multicast_addr`. -/
def universeToIpv4MulticastAddr (uni : UInt16) : Outcome SacnError SocketAddr := do
  isUniverseInRange uni
  let highByte : UInt8 := ((uni >>> 8) &&& 0xff).toUInt8
  let lowByte : UInt8 := (uni &&& 0xff).toUInt8
  return { ip := .v4 239 255 highByte lowByte, port := acnSdtMulticastPort }

/-- `universe_to_ipv6_multicast_addr`. -/
def universeToIpv6MulticastAddr (uni : UInt16) : Outcome SacnError SocketAddr := do
  isUniverseInRange uni
  return { ip := .v6 0xFF18 0 0 0 0 0 0x8300 uni, port := acnSdtMulticastPort }

theorem isUniverseInRange_eq_ok {uni : UInt16} {a : Unit} :
    isUniverseInRange uni = .ok a ↔ UniverseInRange uni := by
  unfold isUniverseInRange
  rw [throwIf_eq_ok, not_not]

theorem universeToIpv4MulticastAddr_injective {u v : UInt16} {addr : SocketAddr}
    (hu : universeToIpv4MulticastAddr u = .ok addr)
    (hv : universeToIpv4MulticastAddr v = .ok addr) : u = v := by
  simp only [universeToIpv4MulticastAddr, bind_eq_ok, pure_eq, ok.injEq] at hu hv
  obtain ⟨_, _, rfl⟩ := hu
  obtain ⟨_, _, h⟩ := hv
  simp only [SocketAddr.mk.injEq, IpAddr.v4.injEq, true_and, and_true] at h
  obtain ⟨hhigh, hlow⟩ := h
  have hbytes : ∀ w : UInt16, (((w >>> 8) &&& 0xff).toUInt8).toNat = w.toNat / 256 ∧
      ((w &&& 0xff).toUInt8).toNat = w.toNat % 256 := by
    intro w
    have hw := w.toNat_lt
    have hmask : ∀ n, n &&& 255 = n % 256 := fun n => Nat.and_two_pow_sub_one_eq_mod n 8
    constructor
    · simp only [UInt16.toNat_toUInt8, UInt16.toNat_and, UInt16.toNat_shiftRight]
      show ((w.toNat >>> 8) &&& 255) % 2 ^ 8 = _
      rw [hmask, Nat.shiftRight_eq_div_pow]
      omega
    · simp only [UInt16.toNat_toUInt8, UInt16.toNat_and]
      show (w.toNat &&& 255) % 2 ^ 8 = _
      rw [hmask]
      omega
  have h1 := congrArg UInt8.toNat hhigh
  have h2 := congrArg UInt8.toNat hlow
  rw [(hbytes v).1, (hbytes u).1] at h1
  rw [(hbytes v).2, (hbytes u).2] at h2
  rw [← UInt16.toNat_inj]
  omega

theorem universeToIpv6MulticastAddr_injective {u v : UInt16} {addr : SocketAddr}
    (hu : universeToIpv6MulticastAddr u = .ok addr)
    (hv : universeToIpv6MulticastAddr v = .ok addr) : u = v := by
  simp only [universeToIpv6MulticastAddr, bind_eq_ok, pure_eq, ok.injEq] at hu hv
  obtain ⟨_, _, rfl⟩ := hu
  obtain ⟨_, _, h⟩ := hv
  simp only [SocketAddr.mk.injEq, IpAddr.v6.injEq, true_and, and_true] at h
  exact h.symm

end Sacn
