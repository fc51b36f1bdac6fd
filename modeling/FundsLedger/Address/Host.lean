import FundsLedger.Address.Label
import FundsLedger.Address.Numeric

/-!
# Hosts

A host is an address of 128 bits in brackets or a name. In the schemes of the web, a name has its
percent escapes decoded and its characters mapped to those they count as, its labels are checked,
and it may be an address of 32 bits. In other schemes a name stands for itself.
-/

namespace FundsLedger.Address

open FundsLedger.Text

/-- The byte that two hexadecimal digits denote. -/
def escapedByte? (a b : UInt8) : Option UInt8 :=
  (radixValue? 16 [Char.ofNat a.toNat, Char.ofNat b.toNat]).map Nat.toUInt8

/-- Decodes percent escapes. A percent sign before anything but two digits stands for itself. -/
def percentDecode : List UInt8 → List UInt8
  | [] => []
  | p :: a :: b :: rest =>
    match if p = '%'.toUInt8 then escapedByte? a b else none with
    | some byte => byte :: percentDecode rest
    | none => p :: percentDecode (a :: b :: rest)
  | p :: rest => p :: percentDecode rest

def decodedName? (s : List Char) : Option (List Char) :=
  let bytes := percentDecode (String.ofList s).toUTF8.toList
  (String.fromUTF8? (ByteArray.mk bytes.toArray)).map String.toList

/-- Whether a text in front of which a bracket was opened is an address and closes it. -/
def closesAddress (s : List Char) : Bool :=
  s.getLast? = some ']' && isLong s.dropLast

def isDomain (s : List Char) : Bool :=
  match s with
  | '[' :: rest => closesAddress rest
  | s =>
    ((decodedName? s).bind mappedName?).any fun name =>
      !name.isEmpty && (!endsInNumber name || isShort name)

/-- Whether a name is a host in any other scheme. No name at all is one. -/
def isOpaqueHost (s : List Char) : Bool :=
  match s with
  | '[' :: rest => closesAddress rest
  | s => s.all (!isForbidden ·)

end FundsLedger.Address
