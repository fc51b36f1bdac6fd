import FundsLedger.Proofs.Json.Scalar
import FundsLedger.Proofs.Time.Text
import FundsLedger.Proofs.Uuid
import FundsLedger.Wire.Field

/-!
# Values of fields, however they are spelled

Whatever the kind of a field is, a value of it is read from every text that stands for it. What is
written for the value is one of these texts.
-/

namespace FundsLedger

theorem Direction.ofName?_name (d : Direction) : ofName? d.name = some d := by
  cases d <;> decide

namespace Wire

open Json

/-- Whether every number of a kind can be read. Beyond 64 bits it cannot. -/
def Kind.Readable : Kind → Prop
  | .integer bits => bits ≤ 64
  | _ => True

instance : (kind : Kind) → Decidable kind.Readable
  | .integer bits => inferInstanceAs (Decidable (bits ≤ 64))
  | .uuid | .text | .time | .direction | .status | .optionalStatus =>
    inferInstanceAs (Decidable True)

theorem statusOfChars?_name (s : Status) : statusOfChars? s.name.toList = some s := by
  rw [statusOfChars?, String.ofList_toList, Status.ofName?_name]

theorem directionOfChars?_name (d : Direction) : directionOfChars? d.name.toList = some d := by
  rw [directionOfChars?, String.ofList_toList, Direction.ofName?_name]

theorem bound_le {bits : Nat} (h : bits ≤ 64) : Signed.bound bits ≤ (Nat.pow 2 63 : Nat) := by
  have power : Nat.pow 2 (bits - 1) ≤ Nat.pow 2 63 :=
    Nat.pow_le_pow_right (by decide) (by omega)
  exact Int.ofNat_le.mpr power

/-- Whether a text stands for a value of a kind, however it is spelled. -/
def Kind.Holds : (kind : Kind) → kind.Value → List Char → Prop
  | .uuid, id, token => ∃ chars, Quoted chars token ∧ Uuid.ofText? chars = some id
  | .text, s, token => Quoted s.toList token
  | .integer _, n, token => token = Text.signedDecimal n.toInt
  | .time, t, token => ∃ chars, Quoted chars token ∧ Time.Timestamp.ofText? chars = some t
  | .direction, d, token => Chooses d.name.toList token
  | .status, s, token => Chooses s.name.toList token
  | .optionalStatus, none, token => token = ['n', 'u', 'l', 'l']
  | .optionalStatus, some s, token => Chooses s.name.toList token

theorem Kind.holds_write (kind : Kind) (value : kind.Value) :
    kind.Holds value (kind.write value) := by
  cases kind with
  | uuid => exact ⟨_, quoted_writeString _, Uuid.ofText?_text value⟩
  | text => exact quoted_writeString _
  | integer bits => rfl
  | time => exact ⟨_, quoted_writeString _, Time.Timestamp.ofText?_text value⟩
  | direction => exact .string (quoted_writeString _)
  | status => exact .string (quoted_writeString _)
  | optionalStatus =>
    cases value with
    | none => rfl
    | some status => exact .string (quoted_writeString _)

theorem Kind.holds_visible {kind : Kind} {value : kind.Value} {token : List Char}
    (holds : kind.Holds value token) : Visible token := by
  cases kind with
  | uuid | time =>
    obtain ⟨chars, quoted, _⟩ := holds
    exact quoted.visible
  | text => exact Quoted.visible holds
  | integer bits =>
    subst holds
    exact visible_signedDecimal _
  | direction | status => exact Chooses.visible holds
  | optionalStatus =>
    cases value with
    | none =>
      subst holds
      exact IsValue.isNull.visible
    | some status => exact Chooses.visible holds

theorem Kind.read_blank (kind : Kind) {before : List Char} (h : Blank before) (s : List Char) :
    kind.read (before ++ s) = kind.read s := by
  cases kind <;>
    simp only [Kind.read, readTextAs_blank h, readNumberAs_blank h, readChoice_blank h,
      readOptional_blank h]

/-- A value is read however it is spelled. -/
theorem Kind.read_holds {kind : Kind} (readable : kind.Readable) {value : kind.Value}
    {token rest : List Char} (holds : kind.Holds value token) (h : Delimited rest) :
    kind.read (token ++ rest) = .ok (value, rest) := by
  cases kind with
  | uuid =>
    obtain ⟨chars, quoted, parsed⟩ := holds
    exact readTextAs_quoted quoted parsed rest
  | text =>
    change readTextAs (fun chars => some (String.ofList chars)) (token ++ rest) = .ok (value, rest)
    refine readTextAs_quoted holds ?_ rest
    rw [String.ofList_toList]
  | integer bits =>
    subst holds
    have bound := bound_le readable
    have limit : Nat.pow 2 63 ≤ maxWord := by decide
    have lower := value.lower
    have upper := value.upper
    exact readNumberAs_signedDecimal (by omega) (by omega) (Signed.ofInt?_toInt value) h
  | time =>
    obtain ⟨chars, quoted, parsed⟩ := holds
    exact readTextAs_quoted quoted parsed rest
  | direction => exact readChoice_append holds (directionOfChars?_name value) rest
  | status => exact readChoice_append holds (statusOfChars?_name value) rest
  | optionalStatus =>
    cases value with
    | none =>
      subst holds
      rfl
    | some status => exact readOptional_append holds (statusOfChars?_name status) rest

theorem Kind.read_write {kind : Kind} (readable : kind.Readable) (value : kind.Value)
    {rest : List Char} (h : Delimited rest) :
    kind.read (kind.write value ++ rest) = .ok (value, rest) :=
  Kind.read_holds readable (kind.holds_write value) h

end Wire

end FundsLedger
