import FundsLedger.Proofs.Json.Skip
import FundsLedger.Proofs.Wire.Spelling
import FundsLedger.Wire.Record

/-!
# The slots of a record that is being read

While an object is read, some fields have their values already and the others have none. A member
with the name of a field puts a value in its slot, or is refused where the slot is taken, and a
member of another name leaves the slots alone.
-/

namespace FundsLedger.Wire

open Json

inductive Place : List Field → Field → Type
  | here {f : Field} {fs : List Field} : Place (f :: fs) f
  | there {f g : Field} {fs : List Field} (p : Place fs f) : Place (g :: fs) f

namespace Record

def get : {fs : List Field} → Record fs → {f : Field} → Place fs f → f.kind.Value
  | _ :: _, (value, _), _, .here => value
  | _ :: _, (_, values), _, .there p => get values p

/-- The values of a record that were read, where `filled` tells which by their names. -/
def slots : {fs : List Field} → Record fs → (filled : String → Bool) → Slots fs
  | [], _, _ => ()
  | f :: _, (value, values), filled =>
    (if filled f.name then some value else none, slots values filled)

end Record

namespace Slots

def get : {fs : List Field} → Slots fs → {f : Field} → Place fs f → Option f.kind.Value
  | _ :: _, (slot, _), _, .here => slot
  | _ :: _, (_, slots), _, .there p => get slots p

def put : {fs : List Field} → Slots fs → {f : Field} → Place fs f → f.kind.Value → Slots fs
  | _ :: _, (_, slots), _, .here, value => (some value, slots)
  | _ :: _, (slot, slots), _, .there p, value => (slot, put slots p value)

end Slots

variable {fs : List Field} {f : Field} {filled filled' : String → Bool}

theorem Place.mem (p : Place fs f) : f ∈ fs := by
  induction p with
  | here => exact List.mem_cons_self
  | there p ih => exact List.mem_cons_of_mem _ ih

def Place.all : (fs : List Field) → List ((f : Field) × Place fs f)
  | [] => []
  | f :: fs => ⟨f, .here⟩ :: (all fs).map fun p => ⟨p.1, .there p.2⟩

theorem Place.mem_all (p : Place fs f) : ⟨f, p⟩ ∈ Place.all fs := by
  induction p with
  | here => exact List.mem_cons_self
  | there p ih => exact List.mem_cons_of_mem _ (List.mem_map_of_mem ih)

theorem names_all (fs : List Field) :
    ((Place.all fs).map fun p => p.1.name) = fs.map Field.name := by
  induction fs with
  | nil => rfl
  | cons f fs ih =>
    rw [Place.all, List.map_cons, List.map_map]
    exact congrArg (f.name :: ·) ih

def Record.held (v : Record fs) : List Holding :=
  (Place.all fs).map fun p => ⟨p.1, v.get p.2⟩

section Held

variable (v : Record fs)

theorem held_cons (value : f.kind.Value) (values : Record fs) :
    Record.held (show Record (f :: fs) from (value, values)) = ⟨f, value⟩ :: values.held := by
  simp only [Record.held, Place.all, List.map_cons, List.map_map]
  rfl

theorem mem_held (p : Place fs f) : ⟨f, v.get p⟩ ∈ v.held :=
  List.mem_map_of_mem p.mem_all

/-- Whatever a record holds stands at a place. -/
theorem exists_place {h : Holding} (mem : h ∈ v.held) :
    ∃ p : Place fs h.field, v.get p = h.value := by
  obtain ⟨⟨f, p⟩, _, rfl⟩ := List.mem_map.mp mem
  exact ⟨p, rfl⟩

theorem names_held : v.held.map Holding.name = fs.map Field.name := by
  rw [← names_all, Record.held, List.map_map]
  rfl

end Held

/-! ### Slots -/

theorem slots_none (v : Record fs) : v.slots (fun _ => false) = Slots.empty fs := by
  induction fs with
  | nil => rfl
  | cons f fs ih => exact congrArg (none, ·) (ih v.2)

/-- Only the names of the fields matter. -/
theorem slots_congr (v : Record fs) (h : ∀ f ∈ fs, filled f.name = filled' f.name) :
    v.slots filled = v.slots filled' := by
  induction fs with
  | nil => rfl
  | cons f fs ih =>
    obtain ⟨value, values⟩ := v
    have rest := ih values fun g hg => h g (List.mem_cons_of_mem _ hg)
    rw [Record.slots, Record.slots, h f List.mem_cons_self, rest]

/-- A record is complete if every field was filled or may be left out. -/
theorem complete_slots (v : Record fs)
    (h : ∀ f (p : Place fs f), filled f.name = true ∨ f.kind.absent? = some (v.get p)) :
    (v.slots filled).complete = some v := by
  induction fs with
  | nil => rfl
  | cons f fs ih =>
    obtain ⟨value, values⟩ := v
    have rest := ih values fun g p => h g (.there p)
    have first : (if filled f.name then some value else none).or f.kind.absent? = some value := by
      rcases h f .here with filled | absent
      · rw [if_pos filled, Option.some_or]
      · rw [absent]
        split <;> rfl
    rw [Record.slots, Slots.complete, first, rest]
    rfl

def fill (name : String) (filled : String → Bool) : String → Bool :=
  fun other => other == name || filled other

theorem get_slots (v : Record fs) (p : Place fs f) :
    (v.slots filled).get p = if filled f.name then some (v.get p) else none := by
  induction p with
  | here => rfl
  | there p ih => exact ih v.2

theorem put_slots (v : Record fs) (distinct : (fs.map Field.name).Nodup) (p : Place fs f) :
    (v.slots filled).put p (v.get p) = v.slots (fill f.name filled) := by
  induction p with
  | @here f fs =>
    obtain ⟨value, values⟩ := v
    rw [List.map_cons, List.nodup_cons] at distinct
    have others : values.slots filled = values.slots (fill f.name filled) := by
      refine slots_congr values fun g hg => ?_
      have different : g.name ≠ f.name := fun same => distinct.1 (same ▸ List.mem_map_of_mem hg)
      simp [fill, different]
    have filled' : fill f.name filled f.name = true := by simp [fill]
    change (some value, values.slots filled) = (if _ then some value else none, values.slots _)
    rw [filled', if_pos rfl, others]
  | @there f g fs p ih =>
    obtain ⟨value, values⟩ := v
    rw [List.map_cons, List.nodup_cons] at distinct
    have different : g.name ≠ f.name := fun same => distinct.1 (same ▸ List.mem_map_of_mem p.mem)
    have unchanged : fill f.name filled g.name = filled g.name := by simp [fill, different]
    change (_, (values.slots filled).put p (values.get p)) =
      (if _ then some value else none, values.slots _)
    rw [ih values distinct.2, unchanged]

/-! ### One member -/

/-- What is read under the name of a field: nothing where its slot is taken, else its value. -/
def Slots.readPlace (slots : Slots fs) (p : Place fs f) : Reader (Slots fs) := fun s =>
  if (slots.get p).isSome then .error .mismatch
  else do
    let s ← readColon s
    let (value, s) ← f.kind.read s
    return (slots.put p value, s)

theorem readMember_place (slots : Slots fs) (distinct : (fs.map Field.name).Nodup)
    (p : Place fs f) : slots.readMember f.name.toList = some (slots.readPlace p) := by
  induction p with
  | here =>
    obtain ⟨slot, slots⟩ := slots
    rw [Slots.readMember, if_pos rfl]
    rfl
  | @there f g fs p ih =>
    obtain ⟨slot, slots⟩ := slots
    rw [List.map_cons, List.nodup_cons] at distinct
    have different : g.name ≠ f.name := fun same => distinct.1 (same ▸ List.mem_map_of_mem p.mem)
    rw [Slots.readMember, if_neg (different ∘ String.toList_inj.mp), ih slots distinct.2]
    refine congrArg some (funext fun s => ?_)
    simp only [Slots.readPlace, Slots.get]
    split
    · rfl
    · cases readColon s with
      | error fault => rfl
      | ok s =>
        simp only [bind, Except.bind]
        cases f.kind.read s <;> rfl

theorem readMember_none {name : List Char} (unknown : ∀ f ∈ fs, f.name.toList ≠ name)
    (slots : Slots fs) : slots.readMember name = none := by
  induction fs with
  | nil => rfl
  | cons f fs ih =>
    obtain ⟨slot, slots⟩ := slots
    rw [Slots.readMember, if_neg (unknown f List.mem_cons_self),
      ih fun g hg => unknown g (List.mem_cons_of_mem _ hg)]
    rfl

/-- Whether a text is read as the value of a field. -/
structure Holding.Reads (h : Holding) (token : List Char) : Prop where
  visible : Visible token
  read : ∀ {rest}, Delimited rest → h.field.kind.read (token ++ rest) = .ok (h.value, rest)

/-- Whether a text is refused as the value of a field. -/
structure Holding.Refuses (h : Holding) (token : List Char) : Prop where
  visible : Visible token
  read : ∀ {rest}, Delimited rest → ∃ fault, h.field.kind.read (token ++ rest) = .error fault

section Member

variable (slots : Slots fs) {m : Member} {rest : List Char}

theorem readNamed_place (distinct : (fs.map Field.name).Nodup) (p : Place fs f) {raw : List Char}
    (name : Spells raw f.name.toList) (s : List Char) :
    slots.readNamed (raw ++ '"' :: s) = slots.readPlace p s := by
  simp [Slots.readNamed, readString_append name, readMember_place slots distinct p, bind,
    Except.bind]

theorem readPlace_value {p : Place fs f} (free : slots.get p = none) :
    slots.readPlace p (m.name.after ++ ':' :: (m.value.text ++ rest)) =
      (f.kind.read (m.value.core ++ (m.value.after ++ rest))).map
        fun r => (slots.put p r.1, r.2) := by
  simp only [Slots.readPlace, free, Option.isSome_none, Bool.false_eq_true, if_false,
    readColon_blank m.name.blankAfter, bind, Except.bind, Padded.text_append,
    f.kind.read_blank m.value.blankBefore]
  cases f.kind.read (m.value.core ++ (m.value.after ++ rest)) <;> rfl

theorem readNamed_foreign {name : List Char} (spells : Spells m.name.core name)
    (unknown : ∀ f ∈ fs, f.name.toList ≠ name) (value : IsValue m.value.core)
    (h : Delimited rest) :
    slots.readNamed (m.name.core ++ '"' :: (m.name.after ++ ':' :: (m.value.text ++ rest))) =
      .ok (slots, m.value.after ++ rest) := by
  have skipped := skip_isValue m.value.blankBefore value (h.blank m.value.blankAfter)
  simp [Slots.readNamed, readString_append spells, readMember_none unknown, skipMember,
    readColon_blank m.name.blankAfter, Padded.text_append, skipped, bind, Except.bind, pure,
    Except.pure]

/-- Reading goes on after the quote that opens a name. -/
theorem readMembers_quote {before : List Char} (blank : Blank before) (fuel : Nat) (first : Bool)
    (s : List Char) :
    slots.readMembers (fuel + 1) first ((if first then [] else [',']) ++ (before ++ '"' :: s)) =
      Slots.readMembers.next fuel slots s := by
  have front := skipBlanks_blank_cons blank (show isBlank '"' = false from rfl) s
  cases first with
  | true => simp [Slots.readMembers, front]
  | false => simp [Slots.readMembers, skipBlanks_cons (show isBlank ',' = false from rfl), front]

theorem readMembers_blank {before : List Char} (blank : Blank before) (fuel : Nat) (first : Bool)
    (s : List Char) :
    slots.readMembers fuel first (before ++ s) = slots.readMembers fuel first s := by
  cases fuel with
  | zero => rw [Slots.readMembers, Slots.readMembers]
  | succ fuel => simp only [Slots.readMembers, skipBlanks_blank blank]

theorem readMembers_member (m : Member) (fuel : Nat) (first : Bool) (rest : List Char) :
    slots.readMembers (fuel + 1) first ((if first then [] else [',']) ++ (m.text ++ rest)) =
      Slots.readMembers.next fuel slots
        (m.name.core ++ '"' :: (m.name.after ++ ':' :: (m.value.text ++ rest))) := by
  rw [Member.text_append, readMembers_quote slots m.name.blankBefore]

end Member

end FundsLedger.Wire
