import ProcInspection.Text.Decimal
import ProcInspection.Text.Hex

namespace ProcInspection

/-!
Endpoints of connections and their table form.

A table writes the address as one 32-bit number in host order, eight digits in
upper case.  On the little-endian hosts that are covered the digits therefore
give the four octets last one first.  The port follows a colon, four digits
wide; a reader accepts one to four digits in either case.
-/

structure Address where
  first : UInt8
  second : UInt8
  third : UInt8
  fourth : UInt8
  deriving DecidableEq

structure Endpoint where
  address : Address
  port : UInt16
  deriving DecidableEq

namespace Address

/-- The four octets in decimal with dots between them. -/
def dotted (address : Address) : List Char :=
  Decimal.digits address.first.toNat ++ '.' :: Decimal.digits address.second.toNat
    ++ '.' :: Decimal.digits address.third.toNat ++ '.' :: Decimal.digits address.fourth.toNat

def text (address : Address) : String :=
  String.ofList address.dotted

/-- The number in host order: the first octet is its lowest byte. -/
def toNumber (address : Address) : Nat :=
  address.first.toNat + 256 * (address.second.toNat
    + 256 * (address.third.toNat + 256 * address.fourth.toNat))

def ofNumber (number : Nat) : Address :=
  ⟨UInt8.ofNat number, UInt8.ofNat (number / 256), UInt8.ofNat (number / 65536),
    UInt8.ofNat (number / 16777216)⟩

def decode? (digits : List Char) : Option Address :=
  (Hex.value? 8 8 digits).map ofNumber

def encode (address : Address) : List Char :=
  Hex.upper 8 address.toNumber

end Address

namespace Endpoint

/-- The dotted address, a colon and the port in decimal. -/
def dotted (endpoint : Endpoint) : List Char :=
  endpoint.address.dotted ++ ':' :: Decimal.digits endpoint.port.toNat

def text (endpoint : Endpoint) : String :=
  String.ofList endpoint.dotted

/-- What stands before the first colon of a field, and what stands after it. -/
def splitAtColon? (field : List Char) : Option (List Char × List Char) :=
  match field.dropWhile fun c => c ≠ ':' with
  | _ :: rest => some (field.takeWhile fun c => c ≠ ':', rest)
  | [] => none

def decode? (field : List Char) : Option Endpoint :=
  match splitAtColon? field with
  | some (address, port) =>
      match Address.decode? address, Hex.value? 1 4 port with
      | some address, some port => some ⟨address, UInt16.ofNat port⟩
      | _, _ => none
  | none => none

def encode (endpoint : Endpoint) : List Char :=
  endpoint.address.encode ++ ':' :: Hex.upper 4 endpoint.port.toNat

end Endpoint
end ProcInspection
