import FundsLedger.Proofs.Wire.Record
import FundsLedger.Wire.Schema

/-!
# What is sent is received

Whatever crosses the wire can be read again and is the same then, to the last digit of a time. The
reader takes many texts for one value and the writer chooses one of them, so a text that was written
anew stays as it is when it is written anew once more. The main statement is `wire_round_trip`.
-/

namespace FundsLedger.Wire

open Json

namespace Codec

variable {α : Type} {codec : Codec α}

/-- A codec is lawful if it reads what it writes, and leaves what stands behind. -/
def Lawful (codec : Codec α) : Prop :=
  ∀ a {rest}, Delimited rest → codec.read (codec.write a ++ rest) = .ok (a, rest)

theorem Lawful.decode_encode (h : codec.Lawful) (a : α) :
    codec.decode (codec.encode a) = .ok a := by
  have read := h a delimited_nil
  rw [List.append_nil] at read
  rw [decode, encode, String.toList_ofList, read]
  rfl

/-- What a lawful codec has written anew stays as it is. -/
theorem Lawful.convert_idem (h : codec.Lawful) {text output : String}
    (written : codec.convert codec id text = .ok output) :
    codec.convert codec id output = .ok output := by
  unfold convert at written ⊢
  cases read : codec.decode text with
  | error fault =>
    rw [read] at written
    cases written
  | ok a =>
    rw [read] at written
    cases written
    have again := h.decode_encode a
    rw [id, again]
    rfl

theorem lawful_record {fields : List Field} {ofRecord : Record fields → α}
    {toRecord : α → Record fields} (distinct : (fields.map Field.name).Nodup)
    (readable : ∀ f ∈ fields, f.kind.Readable) (inverse : ∀ a, ofRecord (toRecord a) = a) :
    (record fields ofRecord toRecord).Lawful := by
  intro a rest _
  have read := Record.read_write (toRecord a) distinct readable rest
  simp only [record, bind, Except.bind, read, pure, Except.pure, inverse]

theorem lawful_status : status.Lawful :=
  fun a _ => @Kind.read_write .status trivial a _

theorem lawful_direction : direction.Lawful :=
  fun a _ => @Kind.read_write .direction trivial a _

theorem lawful_newEntry : newEntry.Lawful :=
  lawful_record (by decide) (by decide) fun _ => rfl

theorem lawful_entry : entry.Lawful :=
  lawful_record (by decide) (by decide) fun _ => rfl

theorem lawful_user : user.Lawful :=
  lawful_record (by decide) (by decide) fun _ => rfl

theorem lawful_currency : currency.Lawful :=
  lawful_record (by decide) (by decide) fun _ => rfl

theorem lawful_posting : posting.Lawful :=
  lawful_record (by decide) (by decide) fun _ => rfl

end Codec

inductive Subject where
  | status
  | direction
  | newEntry
  | entry
  | user
  | currency
  | deposit
  | withdrawal

namespace Subject

abbrev Value : Subject → Type
  | status => Status
  | direction => Direction
  | newEntry => NewEntry
  | entry => Entry
  | user => User
  | currency => Currency
  | deposit | withdrawal => Posting

def codec : (s : Subject) → Codec s.Value
  | status => .status
  | direction => .direction
  | newEntry => .newEntry
  | entry => .entry
  | user => .user
  | currency => .currency
  | deposit | withdrawal => .posting

theorem lawful (s : Subject) : s.codec.Lawful := by
  cases s with
  | status => exact Codec.lawful_status
  | direction => exact Codec.lawful_direction
  | newEntry => exact Codec.lawful_newEntry
  | entry => exact Codec.lawful_entry
  | user => exact Codec.lawful_user
  | currency => exact Codec.lawful_currency
  | deposit | withdrawal => exact Codec.lawful_posting

end Subject

/-- The wire format round-trips. Every value of every type that crosses the wire is read as it was
written, and whatever text was accepted, the text written for it is accepted and written again. -/
theorem wire_round_trip (s : Subject) :
    (∀ v, s.codec.decode (s.codec.encode v) = .ok v) ∧
      ∀ text output, s.codec.convert s.codec id text = .ok output →
        s.codec.convert s.codec id output = .ok output :=
  ⟨s.lawful.decode_encode, fun _ _ => s.lawful.convert_idem⟩

namespace Subject

/-- A user in an array, with an identifier as a URN and a leap second in a year of five digits. -/
def looseUser : String :=
  "[\"URN:UUID:00000000-0000-0000-0000-0000000000FF\", \" +10000 -1-2t23:59 : 60.5 -0330\\u0020\"]"

def strictUser : String :=
  "\x7b\"id\":\"00000000-0000-0000-0000-0000000000ff\"," ++
    "\"created_at\":\"+10000-01-02T23:59:60.500-03:30\"\x7d"

end Subject

/-- A user whose text is anything but what is written for it. -/
theorem wire_round_trip_looseUser :
    Codec.user.convert Codec.user id Subject.looseUser = .ok Subject.strictUser ∧
      Codec.user.convert Codec.user id Subject.strictUser = .ok Subject.strictUser := by
  have written : Codec.user.convert Codec.user id Subject.looseUser = .ok Subject.strictUser := by
    have read : (Codec.user.convert Codec.user id Subject.looseUser).toOption =
        some Subject.strictUser := by decide +kernel
    cases converted : Codec.user.convert Codec.user id Subject.looseUser with
    | error fault =>
      rw [converted] at read
      cases read
    | ok output =>
      rw [converted] at read
      exact congrArg Except.ok (Option.some.inj read)
  exact ⟨written, (wire_round_trip .user).2 _ _ written⟩

end FundsLedger.Wire
