import FundsLedger.Proofs.Wire.RoundTrip

/-!
# What a record may look like on the wire

Whatever text spells a record is read as that record: as an object with the fields in any order and
any other members among them, or as an array. A field that comes a second time is refused for what
it is. The main statement is `record_spellings`.
-/

namespace FundsLedger.Wire

open Json

/-- How a codec lays out a value as a record that holds what `held` says. -/
structure Layout {α : Type} (codec : Codec α) (held : α → List Holding) where
  fields : List Field
  ofRecord : Record fields → α
  toRecord : α → Record fields
  codec_eq : codec = .record fields ofRecord toRecord
  distinct : (fields.map Field.name).Nodup
  readable : ∀ f ∈ fields, f.kind.Readable
  inverse : ∀ a, ofRecord (toRecord a) = a
  held_eq : ∀ a, (toRecord a).held = held a

namespace Layout

variable {α : Type} {codec : Codec α} {held : α → List Holding}

def ofFields {fields : List Field} {ofRecord : Record fields → α} {toRecord : α → Record fields}
    (distinct : (fields.map Field.name).Nodup) (readable : ∀ f ∈ fields, f.kind.Readable)
    (inverse : ∀ a, ofRecord (toRecord a) = a) (held_eq : ∀ a, (toRecord a).held = held a) :
    Layout (.record fields ofRecord toRecord) held :=
  { fields, ofRecord, toRecord, codec_eq := rfl, distinct, readable, inverse, held_eq }

variable (l : Layout codec held) {a : α} {text : String}
include l

theorem decode_ok {after : List Char} (blank : Blank after)
    (read : Record.read l.fields text.toList = .ok (l.toRecord a, after)) :
    codec.decode text = .ok a := by
  have nothing := skipBlanks_blank blank []
  rw [List.append_nil] at nothing
  rw [l.codec_eq]
  simp only [Codec.decode, Codec.record, read, bind, Except.bind, pure, Except.pure, nothing,
    l.inverse]
  rfl

theorem decode_error {fault : Fault}
    (read : Record.read l.fields text.toList = .error fault) :
    codec.decode text = .error fault := by
  rw [l.codec_eq]
  simp only [Codec.decode, Codec.record, read, bind, Except.bind]

theorem reads_of_holds : ∀ h ∈ held a, ∀ token, h.Holds token → h.Reads token := by
  intro h mem token holds
  rw [← l.held_eq] at mem
  exact Holding.reads_holds (readable_held _ l.readable h mem) holds

theorem decode_spelling (spelling : Spelling Holding.Holds (held a) text.toList) :
    codec.decode text = .ok a := by
  have spelling := spelling.mono l.reads_of_holds
  rw [← l.held_eq] at spelling
  generalize h : text.toList = s at spelling
  cases spelling with
  | object blankBefore blankLead blankAfter gives once absent =>
    have read := read_object _ l.distinct once blankBefore blankLead gives absent
    exact l.decode_ok blankAfter (h ▸ read _)
  | array blankBefore blankLead blankAfter gives order absent =>
    have read := read_array _ gives order absent blankBefore blankLead
    exact l.decode_ok blankAfter (h ▸ read _)

theorem decode_repeating (repeating : Repeating (held a) text.toList) :
    codec.decode text = .error .mismatch := by
  generalize h : text.toList = s at repeating
  cases repeating with
  | again blankBefore blankLead blankGap gives once again name rest =>
    have gives := gives.mono fun x hx =>
      l.reads_of_holds x (once.subset (List.mem_append_left _ hx))
    rw [← l.held_eq] at gives once
    have read :=
      read_repeated _ l.distinct once blankBefore blankLead gives again blankGap name rest
    exact l.decode_error (h ▸ read)

/-- A record is refused with any value that has to be given. -/
theorem decode_refused {bad : String}
    (spelling : Spelling (fun x token => if x.name = bad then x.Refuses token else x.Reads token)
      (held a) text.toList)
    {h : Holding} (mem : h ∈ held a) (isBad : h.name = bad) (needed : ¬h.MayBeAbsent) :
    ∃ fault, codec.decode text = .error fault := by
  rw [← l.held_eq] at spelling mem
  generalize equal : text.toList = s at spelling
  cases spelling with
  | object blankBefore blankLead blankAfter gives once absent =>
    have given := (List.mem_append.mp (once.mem_iff.mpr mem)).resolve_right fun left =>
      needed (absent h left)
    obtain ⟨fault, refused⟩ :=
      refuse_object _ l.distinct once blankBefore blankLead gives given isBad _
    exact ⟨fault, l.decode_error (equal ▸ refused)⟩
  | array blankBefore blankLead blankAfter gives order absent =>
    have given := (List.mem_append.mp (order ▸ mem)).resolve_right fun left =>
      needed (absent h left)
    obtain ⟨fault, refused⟩ := refuse_array _ gives order given isBad blankBefore blankLead _
    exact ⟨fault, l.decode_error (equal ▸ refused)⟩

theorem nodup_held (a : α) : ((held a).map Holding.name).Nodup := by
  rw [← l.held_eq, names_held]
  exact l.distinct

theorem encode_eq (a : α) :
    codec.encode a = String.ofList (enclosed '{' '}' [] ((held a).map fun h => h.member.text)) := by
  have written := writeMembers_eq (l.toRecord a) true
  rw [List.map_map, l.held_eq] at written
  rw [l.codec_eq]
  simp only [Codec.encode, Codec.record, Record.write, written, enclosed, List.nil_append]
  rfl

end Layout

inductive Parcel where
  | newEntry
  | entry
  | user
  | currency
  | deposit
  | withdrawal

namespace Parcel

def subject : Parcel → Subject
  | newEntry => .newEntry
  | entry => .entry
  | user => .user
  | currency => .currency
  | deposit => .deposit
  | withdrawal => .withdrawal

def held : (p : Parcel) → p.subject.Value → List Holding
  | newEntry, (e : NewEntry) =>
    [⟨⟨"userId", .uuid⟩, e.userId⟩, ⟨⟨"currencyId", .uuid⟩, e.currencyId⟩,
      ⟨⟨"amount", .integer 64⟩, e.amount⟩, ⟨⟨"status", .optionalStatus⟩, e.status⟩]
  | entry, (e : Entry) =>
    [⟨⟨"direction", .direction⟩, e.direction⟩, ⟨⟨"id", .uuid⟩, e.id⟩,
      ⟨⟨"userId", .uuid⟩, e.userId⟩, ⟨⟨"currencyId", .uuid⟩, e.currencyId⟩,
      ⟨⟨"amount", .integer 64⟩, e.amount⟩, ⟨⟨"status", .status⟩, e.status⟩,
      ⟨⟨"createdAt", .time⟩, e.createdAt⟩, ⟨⟨"updatedAt", .time⟩, e.updatedAt⟩]
  | user, (u : User) => [⟨⟨"id", .uuid⟩, u.id⟩, ⟨⟨"created_at", .time⟩, u.createdAt⟩]
  | currency, (c : Currency) =>
    [⟨⟨"id", .uuid⟩, c.id⟩, ⟨⟨"code", .text⟩, c.code⟩,
      ⟨⟨"minor_unit_digits", .integer 16⟩, c.minorUnitDigits⟩,
      ⟨⟨"created_at", .time⟩, c.createdAt⟩]
  | deposit, (p : Posting) | withdrawal, (p : Posting) =>
    [⟨⟨"id", .uuid⟩, p.id⟩, ⟨⟨"user_id", .uuid⟩, p.userId⟩,
      ⟨⟨"currency_id", .uuid⟩, p.currencyId⟩, ⟨⟨"amount", .integer 64⟩, p.amount⟩,
      ⟨⟨"status", .status⟩, p.status⟩, ⟨⟨"created_at", .time⟩, p.createdAt⟩,
      ⟨⟨"updated_at", .time⟩, p.updatedAt⟩]

def layout : (p : Parcel) → Layout p.subject.codec p.held
  | newEntry => newEntryLayout
  | entry => entryLayout
  | user => userLayout
  | currency => currencyLayout
  | deposit | withdrawal => postingLayout
where
  newEntryLayout : Layout Codec.newEntry newEntry.held :=
    .ofFields (by decide) (by decide) (fun _ => rfl) fun _ => rfl
  entryLayout : Layout Codec.entry entry.held :=
    .ofFields (by decide) (by decide) (fun _ => rfl) fun _ => rfl
  userLayout : Layout Codec.user user.held :=
    .ofFields (by decide) (by decide) (fun _ => rfl) fun _ => rfl
  currencyLayout : Layout Codec.currency currency.held :=
    .ofFields (by decide) (by decide) (fun _ => rfl) fun _ => rfl
  postingLayout : Layout Codec.posting deposit.held :=
    .ofFields (by decide) (by decide) (fun _ => rfl) fun _ => rfl

end Parcel

/-- Decoding a record depends on its fields alone. Whatever text spells a value of a record is
decoded to that value, and a text in which a field comes again is refused as not being of the
type, whatever the field holds the second time. -/
theorem record_spellings (p : Parcel) (v : p.subject.Value) (text : String) :
    (Spelling Holding.Holds (p.held v) text.toList → p.subject.codec.decode text = .ok v) ∧
      (Repeating (p.held v) text.toList → p.subject.codec.decode text = .error .mismatch) :=
  ⟨p.layout.decode_spelling, p.layout.decode_repeating⟩

namespace Parcel

def openRequest : NewEntry where
  userId := .nil
  currencyId := .nil
  amount := ⟨-5, by decide, by decide⟩

/-- What all the objects below have in common: the amount, a note that nobody reads, and the two
identifiers, with an escape in a name. -/
def openMembers : List Member :=
  [⟨.bare "amount".toList, ⟨[' '], "-5".toList, [], by decide, by decide⟩⟩,
    ⟨.bare "note".toList, .bare (enclosed '[' ']' [] [(Padded.bare note).text])⟩,
    ⟨.bare ('\\' :: 'u' :: '0' :: '0' :: '7' :: '5' :: "serId".toList), .bare id⟩,
    ⟨.bare "currencyId".toList, ⟨[], id, ['\n'], by decide, by decide⟩⟩]
where
  id := writeString (List.replicate 32 '0')
  /-- A lone surrogate for a name, and a number beyond every double. -/
  note := enclosed '{' '}' [] [(Member.mk (.bare ['\\', 'u', 'd', '8', '0', '0'])
    (.bare ['1', 'e', '9', '9', '9'])).text]

def openText : String :=
  "\"amount\": -5,\"note\":[\x7b\"\\ud800\":1e999\x7d]," ++
    "\"\\u0075serId\":\"00000000000000000000000000000000\"," ++
    "\"currencyId\":\"00000000000000000000000000000000\"\n"

def withoutStatus : String :=
  "\x7b" ++ openText ++ "\x7d"

def withNull : String :=
  "\x7b\"status\":null," ++ openText ++ "\x7d"

/-- The request as an array that ends before the status. -/
def shortArray : String :=
  "[\"00000000000000000000000000000000\",\"00000000000000000000000000000000\", -5]"

def withRepetition : String :=
  "\x7b" ++ openText ++ ",\"amount\":-5\x7d"

theorem isValue_note : IsValue openMembers.note := by
  have number : IsValue ['1', 'e', '9', '9', '9'] :=
    .number ⟨false, ⟨['1'], by decide, by decide⟩, none,
      some ⟨'e', [], ⟨['9', '9', '9'], by decide, by decide⟩, by decide, by decide⟩, by decide⟩
  have surrogate : IsBody ('\\' :: 'u' :: (['d', '8', '0', '0'] ++ [])) :=
    .unit ⟨rfl, show _ = some 0xd800 by decide⟩ .nil
  exact .object blank_nil [⟨_, _⟩] (List.forall_mem_singleton.mpr surrogate)
    (List.forall_mem_singleton.mpr number)

theorem holds_id : Kind.uuid.Holds Uuid.nil openMembers.id :=
  ⟨_, quoted_writeString _, by decide⟩

def nullStatus : Member :=
  ⟨.bare "status".toList, .bare ['n', 'u', 'l', 'l']⟩

def openStatus : Holding :=
  ⟨⟨"status", .optionalStatus⟩, none⟩

def openGiven : List Holding :=
  [⟨⟨"amount", .integer 64⟩, openRequest.amount⟩, ⟨⟨"userId", .uuid⟩, openRequest.userId⟩,
    ⟨⟨"currencyId", .uuid⟩, openRequest.currencyId⟩]

theorem gives_openMembers : Gives Holding.Holds ((newEntry.held openRequest).map Holding.name)
    openMembers openGiven := by
  have amount : "-5".toList = Text.signedDecimal (-5) := by decide +kernel
  have escaped : Spells ('\\' :: ('u' :: ['0', '0', '7', '5'] ++ "serId".toList)) "userId".toList :=
    .escape (.unit ⟨rfl, show _ = some 0x75 by decide⟩ rfl rfl) (spells_plain (by decide))
  have list := IsValue.list blank_nil [.bare openMembers.note]
    (List.forall_mem_singleton.mpr isValue_note)
  exact .field (spells_plain (by decide)) amount <|
    .foreign (spells_plain (by decide)) (by decide) list <|
    .field escaped holds_id <| .field (spells_plain (by decide)) holds_id .nil

end Parcel

/-- The three ways to leave a status open, and a field that comes twice. -/
theorem record_spellings_openRequest :
    Codec.newEntry.decode Parcel.withoutStatus = .ok Parcel.openRequest ∧
      Codec.newEntry.decode Parcel.withNull = .ok Parcel.openRequest ∧
      Codec.newEntry.decode Parcel.shortArray = .ok Parcel.openRequest ∧
      Codec.newEntry.decode Parcel.withRepetition = .error .mismatch := by
  have absent : ∀ h ∈ [Parcel.openStatus], h.MayBeAbsent := List.forall_mem_singleton.mpr rfl
  have amount : "-5".toList = Text.signedDecimal (-5) := by decide +kernel
  refine ⟨?_, ?_, ?_, ?_⟩
  · refine (record_spellings .newEntry Parcel.openRequest _).1 ?_
    have text : Parcel.withoutStatus.toList =
      [] ++ (enclosed '{' '}' [] (Parcel.openMembers.map Member.text) ++ []) := by decide +kernel
    rw [text]
    exact .object blank_nil blank_nil blank_nil Parcel.gives_openMembers List.perm_middle.symm
      absent
  · refine (record_spellings .newEntry Parcel.openRequest _).1 ?_
    have text : Parcel.withNull.toList =
      [] ++ (enclosed '{' '}' [] ((Parcel.nullStatus :: Parcel.openMembers).map Member.text) ++
        []) := by decide +kernel
    have gives : Gives Holding.Holds ((Parcel.newEntry.held Parcel.openRequest).map Holding.name)
        (Parcel.nullStatus :: Parcel.openMembers) (Parcel.openStatus :: Parcel.openGiven) :=
      .field (spells_plain (by decide)) rfl Parcel.gives_openMembers
    have once := (List.perm_append_singleton Parcel.openStatus Parcel.openGiven).symm.trans
      List.perm_middle.symm
    rw [text]
    exact .object blank_nil blank_nil blank_nil gives once (List.forall_mem_nil _)
  · refine (record_spellings .newEntry Parcel.openRequest _).1 ?_
    have text : Parcel.shortArray.toList = [] ++ (enclosed '[' ']' []
      ([.bare Parcel.openMembers.id, .bare Parcel.openMembers.id,
        ⟨[' '], "-5".toList, [], by decide, by decide⟩].map Padded.text) ++ []) := by decide +kernel
    have gives : List.Forall₂ (fun (h : Holding) (p : Padded) => h.Holds p.core)
        [⟨⟨"userId", .uuid⟩, Uuid.nil⟩, ⟨⟨"currencyId", .uuid⟩, Uuid.nil⟩,
          ⟨⟨"amount", .integer 64⟩, Parcel.openRequest.amount⟩]
        [.bare Parcel.openMembers.id, .bare Parcel.openMembers.id,
          ⟨[' '], "-5".toList, [], by decide, by decide⟩] :=
      .cons Parcel.holds_id <| .cons Parcel.holds_id <| .cons amount .nil
    rw [text]
    exact .array blank_nil blank_nil blank_nil gives rfl absent
  · refine (record_spellings .newEntry Parcel.openRequest _).2 ?_
    have text : Parcel.withRepetition.toList =
      [] ++ '{' :: ([] ++ (joined true (Parcel.openMembers.map Member.text) ++
        ',' :: ([] ++ '"' :: ("amount".toList ++ '"' :: ":-5\x7d".toList)))) := by decide +kernel
    rw [text]
    exact .again blank_nil blank_nil blank_nil Parcel.gives_openMembers List.perm_middle.symm
      List.mem_cons_self (spells_plain (by decide)) _

end FundsLedger.Wire
