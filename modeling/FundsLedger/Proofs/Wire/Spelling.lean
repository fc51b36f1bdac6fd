import FundsLedger.Proofs.Wire.Field
import Mathlib.Data.List.Forall2

/-!
# Ways to write a record

One record has many texts. In an object its fields may come in any order, among members of other
names that hold any value at all; in an array they come in the order of the fields. A field that may
be left out need not be there, blanks may stand anywhere, and names and values may be spelled with
escapes. What counts as a spelling of a single value is a parameter.
-/

namespace FundsLedger.Wire

open Json

structure Holding where
  field : Field
  value : field.kind.Value

namespace Holding

def name (h : Holding) : String :=
  h.field.name

def Holds (h : Holding) (token : List Char) : Prop :=
  h.field.kind.Holds h.value token

def MayBeAbsent (h : Holding) : Prop :=
  h.field.kind.absent? = some h.value

end Holding

/-- Whether members give the holdings `given`, one after the other. In between may stand members
that have none of the `names`, with any values. -/
inductive Gives (holds : Holding → List Char → Prop) (names : List String) :
    List Member → List Holding → Prop
  | nil : Gives holds names [] []
  | field {m : Member} {h : Holding} {members : List Member} {given : List Holding}
      (name : Spells m.name.core h.name.toList) (value : holds h m.value.core)
      (rest : Gives holds names members given) : Gives holds names (m :: members) (h :: given)
  | foreign {m : Member} {name : List Char} {members : List Member} {given : List Holding}
      (spells : Spells m.name.core name) (unknown : ∀ n ∈ names, n.toList ≠ name)
      (value : IsValue m.value.core) (rest : Gives holds names members given) :
      Gives holds names (m :: members) given

/-- The texts of a record that holds `held`: every field once, unless it may be left out. -/
inductive Spelling (holds : Holding → List Char → Prop) (held : List Holding) : List Char → Prop
  | object {before lead after : List Char} (blankBefore : Blank before) (blankLead : Blank lead)
      (blankAfter : Blank after) {members : List Member} {given left : List Holding}
      (gives : Gives holds (held.map Holding.name) members given) (once : (given ++ left).Perm held)
      (absent : ∀ h ∈ left, h.MayBeAbsent) :
      Spelling holds held (before ++ (enclosed '{' '}' lead (members.map Member.text) ++ after))
  | array {before lead after : List Char} (blankBefore : Blank before) (blankLead : Blank lead)
      (blankAfter : Blank after) {items : List Padded} {given left : List Holding}
      (gives : List.Forall₂ (fun h p => holds h p.core) given items) (order : given ++ left = held)
      (absent : ∀ h ∈ left, h.MayBeAbsent) :
      Spelling holds held (before ++ (enclosed '[' ']' lead (items.map Padded.text) ++ after))

/-- The texts in which, after some fields were given once each, the name of one of them comes again.
Whatever follows that name is left open: its value, if it has any, and all the rest. -/
inductive Repeating (held : List Holding) : List Char → Prop
  | again {before lead gap raw : List Char} (blankBefore : Blank before) (blankLead : Blank lead)
      (blankGap : Blank gap) {members : List Member} {given left : List Holding} {h : Holding}
      (gives : Gives Holding.Holds (held.map Holding.name) members given)
      (once : (given ++ left).Perm held) (again : h ∈ given) (name : Spells raw h.name.toList)
      (rest : List Char) :
      Repeating held (before ++ '{' :: (lead ++ (joined true (members.map Member.text) ++
        ',' :: (gap ++ '"' :: (raw ++ '"' :: rest)))))

section Change

variable {holds holds' : Holding → List Char → Prop} {names : List String}
variable {members : List Member} {given held : List Holding} {g : Holding → Holding}

theorem Gives.map (gives : Gives holds names members given)
    (token : ∀ h ∈ given, ∀ s, holds h s → holds' (g h) s)
    (named : ∀ h ∈ given, (g h).name = h.name) :
    Gives holds' names members (given.map g) := by
  induction gives with
  | nil => exact .nil
  | @field m h members given name value _ ih =>
    refine .field ?_ (token h List.mem_cons_self _ value)
      (ih (fun x hx => token x (List.mem_cons_of_mem _ hx))
        fun x hx => named x (List.mem_cons_of_mem _ hx))
    rwa [named h List.mem_cons_self]
  | foreign spells unknown value _ ih => exact .foreign spells unknown value (ih token named)

/-- What spells one record spells another whose values are spelled the same. -/
theorem Spelling.map {text : List Char} (spelling : Spelling holds held text)
    (token : ∀ h ∈ held, ∀ s, holds h s → holds' (g h) s)
    (named : ∀ h ∈ held, (g h).name = h.name)
    (absent : ∀ h ∈ held, h.MayBeAbsent → (g h).MayBeAbsent) :
    Spelling holds' (held.map g) text := by
  cases spelling with
  | @object _ _ _ blankBefore blankLead blankAfter members given left gives once left' =>
    have names : (held.map g).map Holding.name = held.map Holding.name := by
      rw [List.map_map]
      exact List.map_congr_left named
    have mem {h : Holding} (mem : h ∈ given) : h ∈ held := once.subset (List.mem_append_left _ mem)
    have gives' := gives.map (fun h hh => token h (mem hh)) fun h hh => named h (mem hh)
    rw [← names] at gives'
    have once' := once.map g
    rw [List.map_append] at once'
    refine .object blankBefore blankLead blankAfter gives' once' ?_
    rw [List.forall_mem_map]
    exact fun h hh => absent h (once.subset (List.mem_append_right _ hh)) (left' h hh)
  | @array _ _ _ blankBefore blankLead blankAfter items given left gives order left' =>
    subst order
    have gives' : List.Forall₂ (fun h p => holds' h p.core) (given.map g) items := by
      rw [List.forall₂_map_left_iff]
      refine ((List.forall₂_and_left _ _).mpr ⟨fun h hh => hh, gives⟩).imp fun h p ⟨hh, value⟩ => ?_
      exact token h (List.mem_append_left _ hh) _ value
    refine .array blankBefore blankLead blankAfter gives' (List.map_append ..).symm ?_
    rw [List.forall_mem_map]
    exact fun h hh => absent h (List.mem_append_right _ hh) (left' h hh)

theorem Gives.mono (gives : Gives holds names members given)
    (token : ∀ h ∈ given, ∀ s, holds h s → holds' h s) : Gives holds' names members given := by
  have mapped := gives.map (g := id) token fun _ _ => rfl
  rwa [List.map_id] at mapped

theorem Spelling.mono {text : List Char} (spelling : Spelling holds held text)
    (token : ∀ h ∈ held, ∀ s, holds h s → holds' h s) : Spelling holds' held text := by
  have mapped := spelling.map (g := id) token (fun _ _ => rfl) fun _ _ => id
  rwa [List.map_id] at mapped

/-- The member that gives a holding, with those before it and those after it. -/
theorem Gives.split (gives : Gives holds names members given) {h : Holding} (mem : h ∈ given) :
    ∃ pre m post givenPre givenPost,
      members = pre ++ m :: post ∧ given = givenPre ++ h :: givenPost ∧
        Gives holds names pre givenPre ∧ Spells m.name.core h.name.toList ∧
          holds h m.value.core := by
  induction gives with
  | nil => cases mem
  | @field m h' members given name value rest ih =>
    rcases List.mem_cons.mp mem with rfl | mem
    · exact ⟨[], m, members, [], given, rfl, rfl, .nil, name, value⟩
    · obtain ⟨pre, m', post, givenPre, givenPost, rfl, rfl, before, at'⟩ := ih mem
      exact ⟨m :: pre, m', post, h' :: givenPre, givenPost, rfl, rfl, .field name value before, at'⟩
  | @foreign m name members given spells unknown value rest ih =>
    obtain ⟨pre, m', post, givenPre, givenPost, rfl, rfl, before, at'⟩ := ih mem
    exact ⟨m :: pre, m', post, givenPre, givenPost, rfl, rfl,
      .foreign spells unknown value before, at'⟩

end Change

end FundsLedger.Wire
