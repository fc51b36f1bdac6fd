import FundsLedger.Json.Scalar
import FundsLedger.Ledger.Entry

/-!
# Fields of a record

A record is sent as an object. Its fields have names and kinds, and the kind of a field fixes the
type of its values and how they are read and written.
-/

namespace FundsLedger.Wire

open FundsLedger.Json

inductive Kind where
  | uuid
  | text
  | integer (bits : Nat)
  | time
  | direction
  | status
  /-- A status that may be null or left out. -/
  | optionalStatus
deriving DecidableEq

abbrev Kind.Value : Kind → Type
  | .uuid => Uuid
  | .text => String
  | .integer bits => Signed bits
  | .time => Time.Timestamp
  | .direction => Direction
  | .status => Status
  | .optionalStatus => Option Status

def ofNumber? (bits : Nat) : Number → Option (Signed bits)
  | .integer n => Signed.ofInt? n
  | .inexact => none

def statusOfChars? (s : List Char) : Option Status :=
  Status.ofName? (String.ofList s)

def directionOfChars? (s : List Char) : Option Direction :=
  Direction.ofName? (String.ofList s)

def Kind.read : (kind : Kind) → Reader kind.Value
  | .uuid => readTextAs Uuid.ofText?
  | .text => readTextAs fun chars => some (String.ofList chars)
  | .integer bits => readNumberAs (ofNumber? bits)
  | .time => readTextAs Time.Timestamp.ofText?
  | .direction => readChoice directionOfChars?
  | .status => readChoice statusOfChars?
  | .optionalStatus => readOptional (readChoice statusOfChars?)

def Kind.write : (kind : Kind) → kind.Value → List Char
  | .uuid, id => writeString (Uuid.text id)
  | .text, s => writeString s.toList
  | .integer _, n => Text.signedDecimal n.toInt
  | .time, t => writeString t.text
  | .direction, d => writeString d.name.toList
  | .status, s => writeString s.name.toList
  | .optionalStatus, none => "null".toList
  | .optionalStatus, some s => writeString s.name.toList

/-- The value of a field that is left out, where it may be. -/
def Kind.absent? : (kind : Kind) → Option kind.Value
  | .optionalStatus => some none
  | _ => none

structure Field where
  name : String
  kind : Kind

end FundsLedger.Wire
