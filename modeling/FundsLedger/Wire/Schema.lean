import FundsLedger.Wire.Record

/-!
# What is sent and received

Each type of the ledger that crosses the wire has a `Codec`. Requests and entries name their fields
in camel case, stored rows by their columns.
-/

namespace FundsLedger.Wire

open FundsLedger.Json

structure Codec (α : Type) where
  read : Reader α
  write : α → List Char

namespace Codec

variable {α β : Type}

/-- The value that a whole text denotes. Only blanks may follow it. -/
def decode (codec : Codec α) (text : String) : Except Fault α := do
  let (a, rest) ← codec.read text.toList
  if (skipBlanks rest).isEmpty then return a else .error .malformed

def encode (codec : Codec α) (a : α) : String :=
  String.ofList (codec.write a)

/-- A type whose values are records of the given fields. -/
def record (fields : List Field) (ofRecord : Record fields → α) (toRecord : α → Record fields) :
    Codec α where
  read s := do
    let (r, rest) ← Record.read fields s
    return (ofRecord r, rest)
  write a := (toRecord a).write

def status : Codec Status where
  read := Kind.status.read
  write := Kind.status.write

def direction : Codec Direction where
  read := Kind.direction.read
  write := Kind.direction.write

def user : Codec User :=
  record [⟨"id", .uuid⟩, ⟨"created_at", .time⟩]
    (fun (id, createdAt, ()) => { id, createdAt })
    (fun u => (u.id, u.createdAt, ()))

def currency : Codec Currency :=
  record [⟨"id", .uuid⟩, ⟨"code", .text⟩, ⟨"minor_unit_digits", .integer 16⟩, ⟨"created_at", .time⟩]
    (fun (id, code, minorUnitDigits, createdAt, ()) => { id, code, minorUnitDigits, createdAt })
    (fun c => (c.id, c.code, c.minorUnitDigits, c.createdAt, ()))

def posting : Codec Posting :=
  record
    [⟨"id", .uuid⟩, ⟨"user_id", .uuid⟩, ⟨"currency_id", .uuid⟩, ⟨"amount", .integer 64⟩,
      ⟨"status", .status⟩, ⟨"created_at", .time⟩, ⟨"updated_at", .time⟩]
    (fun (id, userId, currencyId, amount, status, createdAt, updatedAt, ()) =>
      { id, userId, currencyId, amount, status, createdAt, updatedAt })
    (fun p => (p.id, p.userId, p.currencyId, p.amount, p.status, p.createdAt, p.updatedAt, ()))

def entry : Codec Entry :=
  record
    [⟨"direction", .direction⟩, ⟨"id", .uuid⟩, ⟨"userId", .uuid⟩, ⟨"currencyId", .uuid⟩,
      ⟨"amount", .integer 64⟩, ⟨"status", .status⟩, ⟨"createdAt", .time⟩, ⟨"updatedAt", .time⟩]
    (fun (direction, id, userId, currencyId, amount, status, createdAt, updatedAt, ()) =>
      { direction, id, userId, currencyId, amount, status, createdAt, updatedAt })
    (fun e =>
      (e.direction, e.id, e.userId, e.currencyId, e.amount, e.status, e.createdAt, e.updatedAt, ()))

/-- Requests to record a deposit or withdrawal. The status may be null or left out. -/
def newEntry : Codec NewEntry :=
  record
    [⟨"userId", .uuid⟩, ⟨"currencyId", .uuid⟩, ⟨"amount", .integer 64⟩,
      ⟨"status", .optionalStatus⟩]
    (fun (userId, currencyId, amount, status, ()) => { userId, currencyId, amount, status })
    (fun e => (e.userId, e.currencyId, e.amount, e.status, ()))

def convert (source : Codec α) (target : Codec β) (f : α → β) (text : String) :
    Except Fault String := do
  return target.encode (f (← source.decode text))

end Codec

end FundsLedger.Wire
