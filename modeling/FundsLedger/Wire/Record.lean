import FundsLedger.Json.Skip
import FundsLedger.Wire.Field

/-!
# Records

The values of a list of fields, read from an object in any order or from an array in the order of
the fields, and written as an object. Names that no field has are passed over with their values.
-/

namespace FundsLedger.Wire

open FundsLedger.Json

/-- One value for each field. -/
def Record : List Field → Type
  | [] => Unit
  | f :: fs => f.kind.Value × Record fs

/-- At most one value for each field. -/
def Slots : List Field → Type
  | [] => Unit
  | f :: fs => Option f.kind.Value × Slots fs

def Slots.empty : (fs : List Field) → Slots fs
  | [] => ()
  | _ :: fs => (none, Slots.empty fs)

/-- The record, once every field has a value or may be left out. -/
def Slots.complete : {fs : List Field} → Slots fs → Option (Record fs)
  | [], () => some ()
  | f :: _, (slot, slots) => do
    let value ← slot.or f.kind.absent?
    let values ← slots.complete
    return (value, values)

/-- Reads the colon and the value of the field with the given name, if there is such a field. A
field that has a value already is refused before its second value is looked at. -/
def Slots.readMember (name : List Char) : {fs : List Field} → Slots fs → Option (Reader (Slots fs))
  | [], () => none
  | f :: _, (slot, slots) =>
    if f.name.toList = name then
      some fun s =>
        if slot.isSome then .error .mismatch
        else do
          let s ← readColon s
          let (value, s) ← f.kind.read s
          return ((some value, slots), s)
    else (slots.readMember name).map fun read s => do
      let (slots, s) ← read s
      return ((slot, slots), s)

/-- Reads a member whose name no field has. -/
def skipMember (s : List Char) : Except Fault (List Char) := do
  skip (← readColon s)

/-- Reads one member, after the quote that opens its name. -/
def Slots.readNamed {fs : List Field} (slots : Slots fs) : Reader (Slots fs) := fun s => do
  let (name, s) ← readString s
  match slots.readMember name with
  | some read => read s
  | none => return (slots, ← skipMember s)

/-- Reads the members of an object and the brace that closes it. Each member takes a character at
least, so the length of the text bounds their number. -/
def Slots.readMembers {fs : List Field} :
    (fuel : Nat) → (first : Bool) → Slots fs → Reader (Record fs)
  | 0, _, _, _ => .error .truncated
  | fuel + 1, first, slots, s =>
    match skipBlanks s with
    | [] => .error .truncated
    | c :: rest =>
      if c = '}' then
        match slots.complete with
        | some record => .ok (record, rest)
        | none => .error .mismatch
      else if first then
        if c = '"' then next fuel slots rest else .error .malformed
      else if c = ',' then
        match skipBlanks rest with
        | [] => .error .truncated
        | c :: rest => if c = '"' then next fuel slots rest else .error .malformed
      else .error .malformed
where
  next (fuel : Nat) (slots : Slots fs) (s : List Char) : Except Fault (Record fs × List Char) := do
    let (slots, s) ← slots.readNamed s
    Slots.readMembers fuel false slots s

/-- Reads what comes before an element of an array: nothing before the first one, a comma before
the others. The answer is whether there is an element at all. -/
def readSeparator (first : Bool) : Reader Bool := fun s =>
  match skipBlanks s with
  | [] => .error .truncated
  | c :: rest =>
    if c = ']' then .ok (false, c :: rest)
    else if first then .ok (true, c :: rest)
    else if c = ',' then
      match skipBlanks rest with
      | [] => .error .truncated
      | c :: rest => if c = ']' then .error .malformed else .ok (true, c :: rest)
    else .error .malformed

def readElements : (fs : List Field) → (first : Bool) → Reader (Record fs)
  | [], _, s => .ok ((), s)
  | f :: fs, first, s => do
    let (present, s) ← readSeparator first s
    if present then
      let (value, s) ← f.kind.read s
      let (values, s) ← readElements fs false s
      return ((value, values), s)
    else
      match f.kind.absent? with
      | none => .error .mismatch
      | some value =>
        let (values, s) ← readElements fs false s
        return ((value, values), s)

/-- Reads the bracket that closes an array. Whatever else follows the last element is refused as
trailing text, a comma at the very end included. -/
def readArrayEnd (s : List Char) : Except Fault (List Char) :=
  match skipBlanks s with
  | [] => .error .truncated
  | c :: rest => if c = ']' then .ok rest else .error .malformed

def Record.read (fs : List Field) : Reader (Record fs) := fun s =>
  match skipBlanks s with
  | [] => .error .truncated
  | c :: rest =>
    if c = '[' then do
      let (record, rest) ← readElements fs true rest
      return (record, ← readArrayEnd rest)
    else if c = '{' then (Slots.empty fs).readMembers (rest.length + 1) true rest
    else .error (faultAt (c :: rest))

def Record.writeMembers : {fs : List Field} → (first : Bool) → Record fs → List Char
  | [], _, () => []
  | f :: _, first, (value, values) =>
    (if first then [] else [',']) ++ writeString f.name.toList ++ ':' :: f.kind.write value ++
      values.writeMembers false

def Record.write {fs : List Field} (record : Record fs) : List Char :=
  '{' :: (record.writeMembers true ++ ['}'])

end FundsLedger.Wire
