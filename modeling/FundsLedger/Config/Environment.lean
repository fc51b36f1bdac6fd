import FundsLedger.Config.AssignmentFile

/-!
# The environment of a process

Variables have names and values. A value that is not text counts as absent, and may be set by a file
of assignments like one that is missing. What an earlier assignment has set is seen by later ones. No
variable can hold a NUL, where its value would end: a process that tries to set such a value is
stopped.
-/

namespace FundsLedger.Config

/-- The variables of a process. The value of a variable that is not text is none. -/
structure Environment where
  entries : List (String × Option String)

namespace Environment

def value? (env : Environment) (name : String) : Option String :=
  (env.entries.lookup name).bind id

def set (env : Environment) (name value : String) : Environment where
  entries := (name, some value) :: env.entries.filter (·.1 ≠ name)

/-- The environment with a variable set, unless the value has a NUL. The names that files give have
none, and no equals sign either. -/
def set? (env : Environment) (name value : String) : Option Environment :=
  if '\x00' ∈ value.toList then none else some (env.set name value)

/-- The text of a value, with references looked up. A name without a value stands for nothing. -/
def expand (lookup : String → Option String) (value : List Piece) : String :=
  String.ofList <| value.flatMap fun
    | .char c => [c]
    | .reference name => ((lookup (String.ofList name)).getD "").toList

/-- Sets the variable of an assignment unless it has a value. -/
def assign (env : Environment) (a : Assignment) : Option Environment :=
  let key := String.ofList a.key
  match env.value? key with
  | some _ => some env
  | none => env.set? key (expand env.value? a.value)

/-- The environment after a file of assignments, if there is one, unless the process is stopped. -/
def load (env : Environment) (file : Option String) : Option Environment :=
  (file.elim [] assignments).foldlM assign env

/-- The values of assignments. References are looked up in the environment first, then among the
assignments before. -/
def values (env : Environment) (earlier : List (String × String)) :
    List Assignment → List (String × String)
  | [] => earlier
  | a :: rest =>
    let lookup := fun name => (env.value? name).or (earlier.lookup name)
    values env (earlier ++ [(String.ofList a.key, expand lookup a.value)]) rest

/-- The value of a variable in the environment or, where that has none, in its first assignment of
a file. -/
def merged (env : Environment) (file : Option String) (name : String) : Option String :=
  (env.value? name).or ((env.values [] (file.elim [] assignments)).lookup name)

end Environment

end FundsLedger.Config
