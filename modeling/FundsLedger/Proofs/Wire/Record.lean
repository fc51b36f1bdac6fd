import FundsLedger.Proofs.Wire.Slots

/-!
# Records, however they are spelled

An object is read member by member, in whatever order its fields come, and an array item by item.
Reading stops at the first value that is refused and at a field that was given already. The main
statements are `read_object` and `read_array`; what is written is one spelling among the others.
-/

namespace FundsLedger.Wire

open Json

variable {fs : List Field} {f : Field} {filled : String → Bool}

/-! ### Objects -/

section Objects

variable (v : Record fs) (distinct : (fs.map Field.name).Nodup)
variable {members : List Member} {given left : List Holding} {rest : List Char}

include distinct

/-- One more field is read. -/
theorem readMembers_field {m : Member} {h : Holding} (held : h ∈ v.held)
    (name : Spells m.name.core h.name.toList) (value : h.Reads m.value.core)
    (new : filled h.name = false) (fuel : Nat) (first : Bool) (delimited : Delimited rest) :
    (v.slots filled).readMembers (fuel + 1) first
        ((if first then [] else [',']) ++ (m.text ++ rest)) =
      (v.slots (fill h.name filled)).readMembers fuel false rest := by
  obtain ⟨p, same⟩ := exists_place v held
  have free : (v.slots filled).get p = none := by
    rw [get_slots]
    exact if_neg (Bool.eq_false_iff.mp new)
  have read := value.read (delimited.blank m.value.blankAfter)
  rw [← same] at read
  have put : (v.slots filled).put p (v.get p) = v.slots (fill h.name filled) :=
    put_slots v distinct p
  rw [readMembers_member, Slots.readMembers.next, readNamed_place _ distinct p name,
    readPlace_value _ free, read]
  simp only [Except.map, bind, Except.bind, put, readMembers_blank _ m.value.blankAfter]

/-- Members are read one by one, and the fields that they give are filled then. -/
theorem readMembers_gives (gives : Gives Holding.Reads (fs.map Field.name) members given)
    (held : ∀ h ∈ given, h ∈ v.held) (once : (given.map Holding.name).Nodup)
    (new : ∀ h ∈ given, filled h.name = false) (fuel : Nat) (first : Bool)
    (delimited : Delimited rest) :
    (v.slots filled).readMembers (members.length + fuel) first
        (joined first (members.map Member.text) ++ rest) =
      (v.slots fun name => (given.map Holding.name).contains name || filled name).readMembers fuel
        (first && members.isEmpty) rest := by
  induction gives generalizing filled first with
  | nil => simp [joined]
  | @field m h members given name value _ ih =>
    rw [List.map_cons, List.nodup_cons] at once
    have others : ∀ x ∈ given, fill h.name filled x.name = false := by
      intro x hx
      have different : x.name ≠ h.name := fun same => once.1 (same ▸ List.mem_map_of_mem hx)
      simp [fill, different, new x (List.mem_cons_of_mem _ hx)]
    have more := delimited_joined (members.map Member.text) delimited
    have count : (m :: members).length + fuel = members.length + fuel + 1 := by
      rw [List.length_cons]
      omega
    rw [List.map_cons, joined, List.append_assoc, List.append_assoc, count,
      readMembers_field v distinct (held h List.mem_cons_self) name value
        (new h List.mem_cons_self) _ first more,
      ih (fun x hx => held x (List.mem_cons_of_mem _ hx)) once.2 others false]
    have filled' : v.slots (fun name =>
        (given.map Holding.name).contains name || fill h.name filled name) =
          v.slots fun name => ((h :: given).map Holding.name).contains name || filled name := by
      refine slots_congr v fun f _ => ?_
      simp only [fill, List.map_cons, List.contains_cons, Bool.or_left_comm, Bool.or_assoc]
    rw [filled', Bool.false_and, List.isEmpty_cons, Bool.and_false]
  | @foreign m name members given spells unknown value _ ih =>
    have more := delimited_joined (members.map Member.text) delimited
    have count : (m :: members).length + fuel = members.length + fuel + 1 := by
      rw [List.length_cons]
      omega
    have unknown' : ∀ f ∈ fs, f.name.toList ≠ name := fun f hf =>
      unknown f.name (List.mem_map_of_mem hf)
    rw [List.map_cons, joined, List.append_assoc, List.append_assoc, count, readMembers_member,
      Slots.readMembers.next, readNamed_foreign _ spells unknown' value more]
    simp only [bind, Except.bind, readMembers_blank _ m.value.blankAfter]
    rw [ih held once new false, Bool.false_and, List.isEmpty_cons, Bool.and_false]

section Begun

variable (once : (given ++ left).Perm v.held)
include once

theorem nodup_given : ((given ++ left).map Holding.name).Nodup := by
  rw [(once.map Holding.name).nodup_iff, names_held]
  exact distinct

variable {before lead : List Char} (blankBefore : Blank before) (blankLead : Blank lead)
include blankBefore blankLead

/-- An object is read as far as its members are known. What is left is any text. -/
theorem read_begun (gives : Gives Holding.Reads (v.held.map Holding.name) members given)
    {s : List Char} (delimited : Delimited s) :
    ∃ fuel, Record.read fs
        (before ++ '{' :: (lead ++ (joined true (members.map Member.text) ++ s))) =
      (v.slots (given.map Holding.name).contains).readMembers (fuel + 1) members.isEmpty s := by
  rw [names_held] at gives
  have names := nodup_given v distinct once
  rw [List.map_append] at names
  have nonempty : ∀ part ∈ members.map Member.text, part ≠ [] := by
    intro part hpart
    obtain ⟨m, _, rfl⟩ := List.mem_map.mp hpart
    exact m.text_ne_nil
  have enough := length_le_joined nonempty true
  obtain ⟨fuel, count⟩ : ∃ fuel, (lead ++ (joined true (members.map Member.text) ++ s)).length + 1 =
      members.length + (fuel + 1) := by
    simp only [List.length_append, List.length_map] at enough ⊢
    exact ⟨lead.length + (joined true (members.map Member.text)).length + s.length -
      members.length, by omega⟩
  have held : ∀ h ∈ given, h ∈ v.held := fun h hh => once.subset (List.mem_append_left _ hh)
  refine ⟨fuel, ?_⟩
  rw [Record.read, skipBlanks_blank_cons blankBefore (show isBlank '{' = false from rfl)]
  dsimp only
  rw [if_neg (by decide), if_pos rfl, ← slots_none v, readMembers_blank _ blankLead, count,
    readMembers_gives v distinct gives held (List.nodup_append.mp names).1 (fun _ _ => rfl)
      (fuel + 1) true delimited]
  simp only [Bool.or_false, Bool.true_and]

/-- A record is read from an object that gives its fields, in any order. -/
theorem read_object (gives : Gives Holding.Reads (v.held.map Holding.name) members given)
    (absent : ∀ h ∈ left, h.MayBeAbsent) (rest : List Char) :
    Record.read fs (before ++ (enclosed '{' '}' lead (members.map Member.text) ++ rest)) =
      .ok (v, rest) := by
  obtain ⟨fuel, read⟩ := read_begun v distinct once blankBefore blankLead gives
    (delimited_closing .object rest)
  have complete : (v.slots (given.map Holding.name).contains).complete = some v := by
    refine complete_slots v fun f p => ?_
    rcases List.mem_append.mp (once.mem_iff.mpr (mem_held v p)) with mem | mem
    · exact .inl (List.contains_iff_mem.mpr (List.mem_map_of_mem mem))
    · exact .inr (absent _ mem)
  rw [enclosed_append]
  refine read.trans ?_
  simp [Slots.readMembers, Bracket.closing, skipBlanks_cons (show isBlank '}' = false from rfl),
    complete]

/-- A field that was given already is refused by its name. -/
theorem read_repeated (gives : Gives Holding.Reads (v.held.map Holding.name) members given)
    {h : Holding} (again : h ∈ given) {gap raw : List Char} (blankGap : Blank gap)
    (name : Spells raw h.name.toList) (rest : List Char) :
    Record.read fs (before ++ '{' :: (lead ++ (joined true (members.map Member.text) ++
      ',' :: (gap ++ '"' :: (raw ++ '"' :: rest))))) = .error .mismatch := by
  obtain ⟨fuel, read⟩ := read_begun v distinct once blankBefore blankLead gives
    (delimited_cons (c := ',') (by decide) (gap ++ '"' :: (raw ++ '"' :: rest)))
  obtain ⟨p, _⟩ := exists_place v (once.subset (List.mem_append_left _ again))
  have filled : (given.map Holding.name).contains h.field.name :=
    List.contains_iff_mem.mpr (List.mem_map_of_mem again)
  have taken : ((v.slots (given.map Holding.name).contains).get p).isSome := by
    rw [get_slots, if_pos filled]
    rfl
  have notFirst : members.isEmpty = false := by
    cases gives with
    | nil => cases again
    | field => rfl
    | foreign => rfl
  have quote := readMembers_quote (v.slots (given.map Holding.name).contains) blankGap fuel false
    (raw ++ '"' :: rest)
  rw [read, notFirst]
  refine quote.trans ?_
  rw [Slots.readMembers.next, readNamed_place _ distinct p name, Slots.readPlace, if_pos taken]
  rfl

/-- An object is refused with the value of any of its fields. -/
theorem refuse_object {bad : String}
    (gives : Gives (fun x token => if x.name = bad then x.Refuses token else x.Reads token)
      (v.held.map Holding.name) members given)
    {h : Holding} (mem : h ∈ given) (isBad : h.name = bad) (rest : List Char) :
    ∃ fault, Record.read fs (before ++ (enclosed '{' '}' lead (members.map Member.text) ++ rest)) =
      .error fault := by
  have names := nodup_given v distinct once
  obtain ⟨pre, m, post, givenPre, givenPost, rfl, rfl, gives, name, value⟩ := gives.split mem
  obtain ⟨p, _⟩ := exists_place v (once.subset (List.mem_append_left _ mem))
  simp only [List.append_assoc] at once
  simp only [List.append_assoc, List.map_append, List.cons_append, List.map_cons] at names
  have others : h.name ∉ givenPre.map Holding.name := fun before =>
    (List.nodup_append.mp names).2.2 _ before _ List.mem_cons_self rfl
  have gives : Gives Holding.Reads (v.held.map Holding.name) pre givenPre := by
    refine gives.mono fun x hx token value => ?_
    have good : x.name ≠ bad := fun same => others (isBad ▸ same ▸ List.mem_map_of_mem hx)
    rwa [if_neg good] at value
  rw [if_pos isBad] at value
  have free : (v.slots (givenPre.map Holding.name).contains).get p = none := by
    rw [get_slots]
    exact if_neg fun filled => others (List.contains_iff_mem.mp filled)
  have front : Delimited (joined (pre.map Member.text).isEmpty ((m :: post).map Member.text) ++
      '}' :: rest) := by
    cases pre with
    | nil =>
      rw [List.map_cons, joined, List.append_assoc]
      exact m.delimited _
    | cons => exact delimited_joined _ (delimited_closing .object rest)
  obtain ⟨fuel, read⟩ := read_begun v distinct once blankBefore blankLead gives front
  obtain ⟨fault, refused⟩ := value.read
    ((delimited_joined (post.map Member.text) (delimited_closing .object rest)).blank
      m.value.blankAfter)
  refine ⟨fault, ?_⟩
  rw [enclosed_append, List.map_append, joined_append, List.append_assoc, Bool.true_and]
  refine read.trans ?_
  rw [List.map_cons, joined, List.append_assoc, List.append_assoc, List.isEmpty_map,
    readMembers_member, Slots.readMembers.next, readNamed_place _ distinct p name,
    readPlace_value _ free]
  rw [Bracket.closing] at refused
  simp only [refused, Except.map, bind, Except.bind]

end Begun

end Objects

/-! ### Arrays -/

section Arrays

variable {items : List Padded} {given left : List Holding} {lead : List Char}

theorem readSeparator_item (blankLead : Blank lead) {p : Padded} (visible : Visible p.core)
    (first : Bool) (s : List Char) :
    readSeparator first (lead ++ ((if first then [] else [',']) ++ (p.text ++ s))) =
      .ok (true, p.core ++ (p.after ++ s)) := by
  obtain ⟨c, more, front, visible, notEnd⟩ := visible
  have comma : isBlank ',' = false := rfl
  rw [Padded.text_append, front, List.cons_append]
  have skipped := skipBlanks_blank_cons p.blankBefore visible (more ++ (p.after ++ s))
  cases first with
  | true => simp [readSeparator, skipBlanks_blank blankLead, skipped, notEnd]
  | false => simp [readSeparator, skipBlanks_blank_cons blankLead comma, skipped, notEnd]

theorem readSeparator_end (blankLead : Blank lead) (first : Bool) (rest : List Char) :
    readSeparator first (lead ++ ']' :: rest) = .ok (false, ']' :: rest) := by
  simp [readSeparator, skipBlanks_blank_cons blankLead (show isBlank ']' = false from rfl)]

/-- Items are read one by one. The fields that no item is left for have to be absent. -/
theorem readElements_gives (v : Record fs)
    (gives : List.Forall₂ (fun h p => h.Reads p.core) given items) (order : given ++ left = v.held)
    (absent : ∀ h ∈ left, h.MayBeAbsent) (blankLead : Blank lead) (first : Bool)
    (rest : List Char) :
    ∃ s, readElements fs first (lead ++ (joined first (items.map Padded.text) ++ ']' :: rest)) =
      .ok (v, s) ∧ readArrayEnd s = .ok rest := by
  induction fs generalizing items given left lead first with
  | nil =>
    obtain ⟨rfl, rfl⟩ := List.append_eq_nil_iff.mp order
    cases gives
    refine ⟨_, rfl, ?_⟩
    simp [joined, readArrayEnd, skipBlanks_blank_cons blankLead (show isBlank ']' = false from rfl)]
  | cons f fs ih =>
    obtain ⟨value, values⟩ := v
    rw [held_cons] at order
    cases gives with
    | nil =>
      rw [List.nil_append] at order
      subst order
      have absentValue : f.kind.absent? = some value := absent _ List.mem_cons_self
      have others : ∀ h ∈ values.held, h.MayBeAbsent := fun h hh =>
        absent h (List.mem_cons_of_mem _ hh)
      obtain ⟨s, read, ends⟩ := ih values .nil (List.nil_append _) others blank_nil false
      refine ⟨s, ?_, ends⟩
      rw [List.map_nil, joined, List.nil_append, List.nil_append] at read
      simp only [List.map_nil, joined, List.nil_append, readElements, readSeparator_end blankLead,
        bind, Except.bind, Bool.false_eq_true, if_false, absentValue, read, pure, Except.pure]
    | @cons h p given items value' rest' =>
      obtain ⟨rfl, order'⟩ := List.cons.inj order
      obtain ⟨s, read, ends⟩ := ih values rest' order' absent p.blankAfter false
      have front := value'.read
        ((delimited_joined (items.map Padded.text) (delimited_closing .list rest)).blank
          p.blankAfter)
      refine ⟨s, ?_, ends⟩
      rw [List.map_cons, joined, List.append_assoc, List.append_assoc, readElements,
        readSeparator_item blankLead value'.visible]
      rw [Bracket.closing] at front
      simp only [bind, Except.bind, if_true, front, read, pure, Except.pure]

/-- A record is read from an array that gives its fields in order. -/
theorem read_array (v : Record fs) (gives : List.Forall₂ (fun h p => h.Reads p.core) given items)
    (order : given ++ left = v.held) (absent : ∀ h ∈ left, h.MayBeAbsent) {before : List Char}
    (blankBefore : Blank before) (blankLead : Blank lead) (rest : List Char) :
    Record.read fs (before ++ (enclosed '[' ']' lead (items.map Padded.text) ++ rest)) =
      .ok (v, rest) := by
  obtain ⟨s, read, ends⟩ := readElements_gives v gives order absent blankLead true rest
  rw [enclosed_append, Record.read,
    skipBlanks_blank_cons blankBefore (show isBlank '[' = false from rfl)]
  simp only [if_true, read, ends, bind, Except.bind, pure, Except.pure]

/-- An array is refused with the value of any of its fields. -/
theorem readElements_refuses (v : Record fs) {bad : String}
    (gives : List.Forall₂ (fun h p => if h.name = bad then h.Refuses p.core else h.Reads p.core)
      given items)
    (order : given ++ left = v.held) {h : Holding} (mem : h ∈ given) (isBad : h.name = bad)
    (blankLead : Blank lead) (first : Bool) (rest : List Char) :
    ∃ fault, readElements fs first
      (lead ++ (joined first (items.map Padded.text) ++ ']' :: rest)) = .error fault := by
  induction fs generalizing items given lead first with
  | nil =>
    obtain ⟨rfl, rfl⟩ := List.append_eq_nil_iff.mp order
    cases mem
  | cons f fs ih =>
    obtain ⟨value, values⟩ := v
    rw [held_cons] at order
    cases gives with
    | nil => cases mem
    | @cons h' p given items value' rest' =>
      obtain ⟨rfl, order'⟩ := List.cons.inj order
      have front := (delimited_joined (items.map Padded.text) (delimited_closing .list rest)).blank
        p.blankAfter
      rw [Bracket.closing] at front
      rw [List.map_cons, joined, List.append_assoc, List.append_assoc, readElements]
      by_cases bad' : (⟨f, value⟩ : Holding).name = bad
      · rw [if_pos bad'] at value'
        obtain ⟨fault, refused⟩ := value'.read front
        refine ⟨fault, ?_⟩
        rw [readSeparator_item blankLead value'.visible]
        simp only [bind, Except.bind, if_true, refused]
      · rw [if_neg bad'] at value'
        have later : h ∈ given := by
          rcases List.mem_cons.mp mem with rfl | later
          · exact absurd isBad bad'
          · exact later
        obtain ⟨fault, refused⟩ := ih values rest' order' later p.blankAfter false
        refine ⟨fault, ?_⟩
        rw [readSeparator_item blankLead value'.visible]
        simp only [bind, Except.bind, if_true, value'.read front, refused]

theorem refuse_array (v : Record fs) {bad : String}
    (gives : List.Forall₂ (fun h p => if h.name = bad then h.Refuses p.core else h.Reads p.core)
      given items)
    (order : given ++ left = v.held) {h : Holding} (mem : h ∈ given) (isBad : h.name = bad)
    {before : List Char} (blankBefore : Blank before) (blankLead : Blank lead) (rest : List Char) :
    ∃ fault, Record.read fs (before ++ (enclosed '[' ']' lead (items.map Padded.text) ++ rest)) =
      .error fault := by
  obtain ⟨fault, refused⟩ := readElements_refuses v gives order mem isBad blankLead true rest
  refine ⟨fault, ?_⟩
  rw [enclosed_append, Record.read,
    skipBlanks_blank_cons blankBefore (show isBlank '[' = false from rfl)]
  simp only [if_true, refused, bind, Except.bind]

end Arrays

/-! ### What is written -/

def Holding.member (h : Holding) : Member :=
  ⟨.bare (h.name.toList.flatMap writeChar), .bare (h.field.kind.write h.value)⟩

theorem writeMembers_eq (v : Record fs) (first : Bool) :
    v.writeMembers first = joined first ((v.held.map Holding.member).map Member.text) := by
  induction fs generalizing first with
  | nil => rfl
  | cons f fs ih =>
    obtain ⟨value, values⟩ := v
    rw [Record.writeMembers, ih values, held_cons, List.map_cons, List.map_cons, joined]
    simp [Holding.member, Holding.name, Member.text, Padded.text, Padded.bare, writeString]

theorem Holding.reads_holds {h : Holding} (readable : h.field.kind.Readable) {token : List Char}
    (holds : h.Holds token) : h.Reads token :=
  ⟨Kind.holds_visible holds, Kind.read_holds readable holds⟩

theorem gives_written {names : List String} {holdings : List Holding}
    (readable : ∀ h ∈ holdings, h.field.kind.Readable) :
    Gives Holding.Reads names (holdings.map Holding.member) holdings := by
  induction holdings with
  | nil => exact .nil
  | cons h holdings ih =>
    refine .field (spells_written _) ?_ (ih fun x hx => readable x (List.mem_cons_of_mem _ hx))
    exact Holding.reads_holds (readable h List.mem_cons_self) (Kind.holds_write _ _)

theorem readable_held (v : Record fs) (readable : ∀ f ∈ fs, f.kind.Readable) :
    ∀ h ∈ v.held, h.field.kind.Readable := by
  intro h mem
  obtain ⟨p, _⟩ := exists_place v mem
  exact readable _ p.mem

/-- A record is read as it was written. -/
theorem Record.read_write (v : Record fs) (distinct : (fs.map Field.name).Nodup)
    (readable : ∀ f ∈ fs, f.kind.Readable) (rest : List Char) :
    Record.read fs (v.write ++ rest) = .ok (v, rest) := by
  have once : (v.held ++ []).Perm v.held := by rw [List.append_nil]
  have read := read_object v distinct once blank_nil blank_nil
    (gives_written (readable_held v readable)) (List.forall_mem_nil _) rest
  rwa [List.nil_append, enclosed, List.nil_append, ← writeMembers_eq] at read

end FundsLedger.Wire
