import Pyzlc.Foundation.Text

/-!
# Subnets

The address parser is the strict one of the standard library: four decimal octets
without leading zeros.
-/

namespace Pyzlc

open Foundation

/-- An IPv4 address by its octets. -/
structure IPv4Address where
  first : Nat
  second : Nat
  third : Nat
  fourth : Nat
  deriving DecidableEq, Repr

namespace IPv4Address

/-- The value of a decimal numeral. -/
def numeral (text : Text) : Nat :=
  text.foldl (fun value point => 10 * value + (point.val - 48)) 0

def parseOctet (text : Text) : Option Nat :=
  if text = [] then
    none
  else if text.any (fun point => point.val < 48 || 57 < point.val) then
    none
  else if 3 < text.length then
    none
  else if text ≠ Text.ofString "0" ∧ text.head? = some (CodePoint.ofChar '0') then
    none
  else if 255 < numeral text then
    none
  else
    some (numeral text)

/-- `ipaddress.IPv4Address(text)`, absent where it raises. -/
def parse (text : Text) : Option IPv4Address :=
  match text.splitOn (CodePoint.ofChar '.') with
  | [first, second, third, fourth] => do
      let first ← parseOctet first
      let second ← parseOctet second
      let third ← parseOctet third
      let fourth ← parseOctet fourth
      return { first := first, second := second, third := third, fourth := fourth }
  | _ => none

/-- The network part under the mask 255.255.255.0. -/
def network (address : IPv4Address) : Nat × Nat × Nat :=
  (address.first, address.second, address.third)

end IPv4Address

/-- Determines if two addresses reside within the same subnet, for the default mask
255.255.255.0.  What is no IPv4 address makes the first constructor raise `ValueError` or
lies in no IPv4 network. -/
def isInSameSubnet (ip1 ip2 : Text) : Bool :=
  match IPv4Address.parse ip1, IPv4Address.parse ip2 with
  | some address, some other => address.network == other.network
  | _, _ => false

/-- Both texts are addresses of one /24. -/
def SameNetwork (ip1 ip2 : Text) : Prop :=
  ∃ first second, IPv4Address.parse ip1 = some first ∧ IPv4Address.parse ip2 = some second ∧
    first.network = second.network

theorem isInSameSubnet_iff {ip1 ip2 : Text} :
    isInSameSubnet ip1 ip2 = true ↔ SameNetwork ip1 ip2 := by
  unfold isInSameSubnet SameNetwork
  cases IPv4Address.parse ip1 <;> cases IPv4Address.parse ip2 <;> simp

example : isInSameSubnet "192.168.0.7" "192.168.0.250" = true := by decide

end Pyzlc
