import FundsLedger.Proofs.Json.Number
import FundsLedger.Proofs.Wire.Parcel
import Mathlib.Data.List.Nodup

/-!
# Amounts are read exactly

Whatever number stands for the amount of a record that is spelled well otherwise, it is read as the
integer that it denotes or the record is refused. No amount is ever wrapped, rounded or cut. The
main statement is `amounts_exact`.
-/

namespace FundsLedger.Wire

open Json

/-! ### Number tokens -/

section Tokens

variable {t : Numeral} {rest : List Char}

/-- What is read from a numeral is the integer that it denotes. -/
theorem read_numeral {bits : Nat} {n : Signed bits} {rest' : List Char}
    (delimited : Delimited rest)
    (h : Kind.read (.integer bits) (t.text ++ rest) = .ok (n, rest')) :
    t.IsInteger ∧ n.toInt = t.value := by
  obtain ⟨number, read, parsed⟩ := readNumberAs_numeral h
  cases number with
  | inexact => cases parsed
  | integer value =>
    obtain ⟨isInteger, rfl⟩ := readNumber_integer delimited read
    simp only [ofNumber?, Signed.ofInt?] at parsed
    split at parsed
    · cases parsed
      exact ⟨isInteger, rfl⟩
    · cases parsed

/-- A numeral that denotes no integer of the width is refused. -/
theorem refuses_numeral {bits : Nat} (h : ∀ n : Signed bits, t.IsInteger → n.toInt ≠ t.value)
    {name : String} {value : Signed bits} :
    Holding.Refuses ⟨⟨name, .integer bits⟩, value⟩ t.text where
  visible := t.visible
  read {rest} delimited := by
    cases read : Kind.read (.integer bits) (t.text ++ rest) with
    | error fault => exact ⟨fault, rfl⟩
    | ok result =>
      obtain ⟨isInteger, same⟩ := read_numeral delimited read
      exact absurd same (h _ isInteger)

end Tokens

/-! ### Records with an amount -/

inductive Priced where
  | newEntry
  | entry
  | deposit
  | withdrawal

namespace Priced

def parcel : Priced → Parcel
  | newEntry => .newEntry
  | entry => .entry
  | deposit => .deposit
  | withdrawal => .withdrawal

abbrev Value (p : Priced) : Type :=
  p.parcel.subject.Value

def codec (p : Priced) : Codec p.Value :=
  p.parcel.subject.codec

def amount : (p : Priced) → p.Value → Amount
  | newEntry, (e : NewEntry) => e.amount
  | entry, (e : Entry) => e.amount
  | deposit, (p : Posting) | withdrawal, (p : Posting) => p.amount

def withAmount (n : Amount) : (p : Priced) → p.Value → p.Value
  | newEntry, (e : NewEntry) => { e with amount := n }
  | entry, (e : Entry) => { e with amount := n }
  | deposit, (p : Posting) | withdrawal, (p : Posting) => { p with amount := n }

end Priced

namespace Holding

/-- Whether a text stands for the value of a field. For the field of the given name it has to be the
given token, whatever the value is. -/
def HoldsBut (name : String) (token : List Char) (h : Holding) (s : List Char) : Prop :=
  if h.name = name then s = token else h.Holds s

def writeBut (name : String) (token : List Char) (h : Holding) : List Char :=
  writeString h.name.toList ++ ':' :: if h.name = name then token else h.field.kind.write h.value

def setAmount (n : Amount) (h : Holding) : Holding :=
  if h.name = "amount" then ⟨⟨"amount", .integer 64⟩, n⟩ else h

theorem name_setAmount (n : Amount) (h : Holding) : (h.setAmount n).name = h.name := by
  rw [setAmount]
  split
  · exact Eq.symm ‹_›
  · rfl

theorem text_setAmount (n : Amount) (h : Holding) :
    (h.setAmount n).member.text = h.writeBut "amount" (Text.signedDecimal n.toInt) := by
  by_cases isAmount : h.name = "amount"
  · rw [setAmount, writeBut, if_pos isAmount, if_pos isAmount, isAmount]
    simp [member, name, Member.text, Padded.text, Padded.bare, writeString, Kind.write]
  · rw [setAmount, writeBut, if_neg isAmount, if_neg isAmount]
    simp [member, Member.text, Padded.text, Padded.bare, writeString]

end Holding

theorem toInt_bounds (n : Amount) :
    -9223372036854775808 ≤ n.toInt ∧ n.toInt ≤ 9223372036854775807 := by
  have bound : Signed.bound 64 = 9223372036854775808 := rfl
  have lower := n.lower
  have upper := n.upper
  omega

theorem exists_toInt {value : Int}
    (h : -9223372036854775808 ≤ value ∧ value ≤ 9223372036854775807) :
    ∃ n : Amount, n.toInt = value := by
  have bound : Signed.bound 64 = 9223372036854775808 := rfl
  exact ⟨⟨value, by omega, by omega⟩, rfl⟩

section Priced

variable (p : Priced) (v : p.Value) (n : Amount)

theorem amount_withAmount : p.amount (p.withAmount n v) = n := by
  cases p <;> rfl

theorem held_withAmount :
    p.parcel.held (p.withAmount n v) = (p.parcel.held v).map (Holding.setAmount n) := by
  cases p <;> simp [Priced.parcel, Parcel.held, Priced.withAmount, Holding.setAmount, Holding.name]

theorem amount_mem_held : ⟨⟨"amount", .integer 64⟩, p.amount v⟩ ∈ p.parcel.held v := by
  cases p <;> simp [Priced.parcel, Parcel.held, Priced.amount]

/-- Nothing else goes by the name of the amount. -/
theorem eq_amount {h : Holding} (mem : h ∈ p.parcel.held v) (isAmount : h.name = "amount") :
    h = ⟨⟨"amount", .integer 64⟩, p.amount v⟩ :=
  List.inj_on_of_nodup_map (p.parcel.layout.nodup_held v) mem (amount_mem_held p v) isAmount

theorem encode_withAmount :
    p.codec.encode (p.withAmount n v) = String.ofList (enclosed '{' '}' []
      ((p.parcel.held v).map (Holding.writeBut "amount" (Text.signedDecimal n.toInt)))) := by
  refine (p.parcel.layout.encode_eq _).trans ?_
  simp only [held_withAmount, List.map_map, Function.comp_def, Holding.text_setAmount]

variable {p v} {t : Numeral} {text : String}
variable (spelling : Spelling (Holding.HoldsBut "amount" t.text) (p.parcel.held v) text.toList)
include spelling

/-- A numeral that denotes an amount is read as that amount. -/
theorem decode_amount (isInteger : t.IsInteger) (same : n.toInt = t.value) :
    p.codec.decode text = .ok (p.withAmount n v) := by
  refine p.parcel.layout.decode_spelling ?_
  rw [held_withAmount]
  refine spelling.map (fun h mem s holds => ?_) (fun h _ => h.name_setAmount n)
    fun h mem absent => ?_
  · rw [Holding.HoldsBut] at holds
    by_cases isAmount : h.name = "amount"
    · rw [if_pos isAmount, Numeral.text_eq isInteger, ← same] at holds
      rw [Holding.setAmount, if_pos isAmount]
      exact holds
    · rw [if_neg isAmount] at holds
      rwa [Holding.setAmount, if_neg isAmount]
  · have notAmount : h.name ≠ "amount" := by
      intro isAmount
      rw [eq_amount p v mem isAmount] at absent
      cases absent
    rwa [Holding.setAmount, if_neg notAmount]

/-- A numeral that denotes no amount is refused. -/
theorem decode_no_amount (none : ∀ n : Amount, t.IsInteger → n.toInt ≠ t.value) :
    ∃ fault, p.codec.decode text = .error fault := by
  have needed : ¬Holding.MayBeAbsent ⟨⟨"amount", .integer 64⟩, p.amount v⟩ := by
    intro absent
    cases absent
  refine p.parcel.layout.decode_refused (spelling.mono fun h mem s holds => ?_)
    (amount_mem_held p v) (show Holding.name _ = "amount" from rfl) needed
  rw [Holding.HoldsBut] at holds
  by_cases isAmount : h.name = "amount"
  · rw [if_pos isAmount] at holds ⊢
    rw [holds, eq_amount p v mem isAmount]
    exact refuses_numeral none
  · rw [if_neg isAmount] at holds ⊢
    exact p.parcel.layout.reads_of_holds h mem s holds

end Priced

/-- Amounts are read exactly. Whatever number stands for the amount of a record that is spelled well
otherwise, the record is accepted if and only if the number has no fraction and no exponent, is not
`-0` and lies in the range of an amount; then the amount is that number, the rest of the record is
as it was spelled, and the amount is written as the shortest numeral of the number. -/
theorem amounts_exact (p : Priced) (v : p.Value) (t : Numeral) (text : String)
    (spelling : Spelling (Holding.HoldsBut "amount" t.text) (p.parcel.held v) text.toList) :
    ((∃ u, p.codec.decode text = .ok u) ↔
        t.IsInteger ∧ -9223372036854775808 ≤ t.value ∧ t.value ≤ 9223372036854775807) ∧
      ∀ u, p.codec.decode text = .ok u →
        (p.amount u).toInt = t.value ∧ u = p.withAmount (p.amount u) v ∧
          p.codec.encode u = String.ofList (enclosed '{' '}' []
            ((p.parcel.held v).map (Holding.writeBut "amount" (Text.signedDecimal t.value)))) := by
  by_cases isAmount :
      t.IsInteger ∧ -9223372036854775808 ≤ t.value ∧ t.value ≤ 9223372036854775807
  · obtain ⟨n, same⟩ := exists_toInt isAmount.2
    have accepted := decode_amount n spelling isAmount.1 same
    refine ⟨⟨fun _ => isAmount, fun _ => ⟨_, accepted⟩⟩, fun u read => ?_⟩
    have equal : p.withAmount n v = u := Except.ok.inj (accepted.symm.trans read)
    subst equal
    rw [amount_withAmount, ← same]
    exact ⟨rfl, rfl, encode_withAmount p v n⟩
  · obtain ⟨fault, refused⟩ := decode_no_amount spelling fun n isInteger same =>
      isAmount ⟨isInteger, same ▸ toInt_bounds n⟩
    have rejected : ¬∃ u, p.codec.decode text = .ok u := by
      rintro ⟨u, read⟩
      cases refused.symm.trans read
    exact ⟨iff_of_false rejected isAmount, fun u read => absurd ⟨u, read⟩ rejected⟩

namespace Priced

/-- The request that leaves the status open, as an array with a numeral for the amount. -/
def request (t : Numeral) : String :=
  String.ofList (enclosed '[' ']' [] [Parcel.openMembers.id, Parcel.openMembers.id, t.text])

theorem spelling_request (t : Numeral) :
    Spelling (Holding.HoldsBut "amount" t.text) (newEntry.parcel.held Parcel.openRequest)
      (request t).toList := by
  have bare : [Parcel.openMembers.id, Parcel.openMembers.id, t.text] =
      [.bare Parcel.openMembers.id, .bare Parcel.openMembers.id, .bare t.text].map Padded.text := by
    simp [Padded.text, Padded.bare]
  have text : (request t).toList = [] ++ (enclosed '[' ']' []
      ([.bare Parcel.openMembers.id, .bare Parcel.openMembers.id, .bare t.text].map
        Padded.text) ++ []) := by
    rw [request, String.toList_ofList, bare, List.append_nil, List.nil_append]
  have gives : List.Forall₂ (fun (h : Holding) (p : Padded) => h.HoldsBut "amount" t.text p.core)
      [⟨⟨"userId", .uuid⟩, Uuid.nil⟩, ⟨⟨"currencyId", .uuid⟩, Uuid.nil⟩,
        ⟨⟨"amount", .integer 64⟩, Parcel.openRequest.amount⟩]
      [.bare Parcel.openMembers.id, .bare Parcel.openMembers.id, .bare t.text] :=
    .cons Parcel.holds_id <| .cons Parcel.holds_id <| .cons rfl .nil
  rw [text]
  exact .array blank_nil blank_nil blank_nil gives rfl (List.forall_mem_singleton.mpr rfl)

def least : Numeral :=
  ⟨true, ⟨"9223372036854775808".toList, by decide, by decide⟩, none, none, by decide⟩

/-- The same without its sign, which is one more than the greatest amount. -/
def beyond : Numeral :=
  ⟨false, least.whole, none, none, by decide⟩

def minusZero : Numeral :=
  ⟨true, ⟨['0'], by decide, by decide⟩, none, none, by decide⟩

end Priced

/-- The least amount is accepted, one beyond the greatest is not, and neither is `-0`. -/
theorem amounts_exact_limits :
    (∃ u : NewEntry, Codec.newEntry.decode (Priced.request Priced.least) = .ok u) ∧
      (¬∃ u : NewEntry, Codec.newEntry.decode (Priced.request Priced.beyond) = .ok u) ∧
      ¬∃ u : NewEntry, Codec.newEntry.decode (Priced.request Priced.minusZero) = .ok u := by
  have exact (t : Numeral) := (amounts_exact .newEntry Parcel.openRequest t (Priced.request t)
    (Priced.spelling_request t)).1
  have least : Priced.least.value = -9223372036854775808 := by decide +kernel
  have beyond : Priced.beyond.value = 9223372036854775808 := by decide +kernel
  refine ⟨(exact Priced.least).mpr ?_, fun h => ?_, fun h => ?_⟩
  · rw [least]
    exact ⟨⟨rfl, rfl, fun zero => absurd zero.2 (by decide)⟩, by decide, by decide⟩
  · have small := ((exact Priced.beyond).mp h).2.2
    omega
  · exact ((exact Priced.minusZero).mp h).1.2.2 ⟨rfl, by decide +kernel⟩

end FundsLedger.Wire
