import Mathlib.Data.List.AList
import Mathlib.Data.UInt
import Mathlib.Algebra.Ring.Int.Defs

/-! # Types shared by the rita modules

The addresses and identities of `althea_types` and `std::net`, the `Peer` of the peer listener
and the `Neighbor` record that the tunnel manager hands to the traffic watcher.

A `std::collections::HashMap` is an `AList`: an association list whose keys are distinct, so a
map with a repeated key cannot be built. `insert` overwrites, as `HashMap::insert` does, and a
write through `get_mut` is an `insert` of the new value. Iteration is over `entries`; the order
of a `HashMap` is unspecified, and no result below depends on it.

`lookup_foldl_insert` is the one fact about maps built by a loop of inserts: the last insert of a
key wins. -/

namespace Rita

/-- `std::net::IpAddr`. -/
inductive IpAddr where
  | v4 (addr : UInt32)
  | v6 (addr : BitVec 128)
deriving DecidableEq, Repr

/-- `std::net::SocketAddr`. -/
structure SocketAddr where
  ip : IpAddr
  port : UInt16
deriving DecidableEq, Repr

/-- A 32-byte Curve25519 public key (`althea_types::WgKey`). -/
abbrev WgKey := BitVec 256

/-- A 20-byte account address (`clarity::Address`). -/
abbrev Address := BitVec 160

/-- Modelled from the spec: `althea_types::Identity`, whose declaration is not in the source.
Two identities are equal iff all three components match. -/
structure Identity where
  meshIp : IpAddr
  ethAddress : Address
  wgPublicKey : WgKey
deriving DecidableEq, Repr

/-- Modelled from the spec: `althea_types::LocalIdentity`, an identity with the peer's chosen
listen port and its claim about whether it already holds a tunnel to us. -/
structure LocalIdentity where
  wgPort : UInt16
  haveTunnel : Option Bool
  global : Identity
deriving DecidableEq, Repr

/-- Modelled from the spec: `rita_common::peer_listener::Peer`, a neighbor observed on the
physical interface `ifidx` (`0` for a manual peer). -/
structure Peer where
  ifidx : UInt32
  contactSocket : SocketAddr
deriving DecidableEq, Repr

/-- `rita_common::tunnel_manager::Neighbor`, one per stored tunnel. -/
structure Neighbor where
  identity : LocalIdentity
  ifaceName : String
  tunnelIp : IpAddr
deriving DecidableEq, Repr

/-- `i128` arithmetic of a release build: the result modulo `2^128`, in `[-2^127, 2^127)`. -/
def wrapI128 (x : Int) : Int := x.bmod (2 ^ 128)

@[simp] theorem wrapI128_wrapI128 (x : Int) : wrapI128 (wrapI128 x) = wrapI128 x := Int.bmod_bmod

/-- Wrapping an intermediate sum changes nothing: a run of `i128` additions is the wrap of the
unbounded sum. -/
theorem wrapI128_wrapI128_add (x y : Int) : wrapI128 (wrapI128 x + y) = wrapI128 (x + y) :=
  Int.bmod_add_bmod_congr

/-- A value in the range of `i128` is its own wrap. -/
theorem wrapI128_of_mem {x : Int} (h₁ : -2 ^ 127 ≤ x) (h₂ : x < 2 ^ 127) : wrapI128 x = x := by
  rcases Int.le_or_lt 0 x with h0 | h0
  · have hm : x % ((2 ^ 128 : Nat) : Int) = x := Int.emod_eq_of_lt h0 (by omega)
    rw [wrapI128, Int.bmod_pos _ _ (by rw [hm]; omega), hm]
  · have hm : x % ((2 ^ 128 : Nat) : Int) = x + ((2 ^ 128 : Nat) : Int) := by
      rw [← Int.add_emod_self, Int.emod_eq_of_lt (by omega) (by omega)]
    rw [wrapI128, Int.bmod_neg _ _ (by rw [hm]; omega), hm]
    omega

/-- `std::collections::HashMap`. -/
abbrev HashMap (K V : Type) := AList (fun _ : K => V)

section
variable {K V : Type} [DecidableEq K]

/-- A map built by inserting the pairs of `xs` in order maps `k` to the value of the last pair
with key `k`, and otherwise as the map it started from. -/
theorem lookup_foldl_insert (xs : List (K × V)) (m : HashMap K V) (k : K) :
    (xs.foldl (fun m p => m.insert p.1 p.2) m).lookup k =
      ((xs.reverse.find? (·.1 == k)).map (·.2)).or (m.lookup k) := by
  induction xs generalizing m with
  | nil => simp
  | cons x xs ih =>
    rw [List.foldl_cons, ih, List.reverse_cons, List.find?_append]
    by_cases hx : x.1 = k
    · subst hx
      cases xs.reverse.find? (·.1 == x.1) <;> simp [AList.lookup_insert]
    · cases xs.reverse.find? (·.1 == k) <;>
        simp [hx, AList.lookup_insert_ne (Ne.symm hx)]

theorem lookup_foldl_insert_empty (xs : List (K × V)) (k : K) :
    (xs.foldl (fun m p => m.insert p.1 p.2) (∅ : HashMap K V)).lookup k =
      (xs.reverse.find? (·.1 == k)).map (·.2) := by
  rw [lookup_foldl_insert]
  cases xs.reverse.find? (·.1 == k) <;> rfl

end

end Rita
