import FundsLedger.Config.Settings
import Mathlib.Data.List.Forall2

/-!
# Environments with a file beside them

A file is loaded assignment by assignment, and each looks its references up in what the ones before
it have left. What comes of it can be told at once: the environment counts first, and after it the
first assignment of a name in front of the first bad line, unless a variable would have to hold what it
cannot. The main statement is `settings_of_merged`.
-/

namespace FundsLedger.Config

/-! ### What counts in a file -/

/-- What the lines of a file say, a bad line being none. -/
def readings (file : String) : List (Option (Option Assignment)) :=
  (logicalLines [] .complete (physicalLines (withoutMark file.toList))).map (·.bind readLine)

def beforeBad (readings : List (Option (Option Assignment))) : List Assignment :=
  (readings.takeWhile Option.isSome).filterMap Option.join

theorem assignmentsOf_eq (lines : List (Option (List Char))) :
    assignmentsOf lines = beforeBad (lines.map (·.bind readLine)) := by
  induction lines with
  | nil => rfl
  | cons line lines ih =>
    rw [assignmentsOf, List.map_cons, beforeBad]
    rcases line.bind readLine with _ | _ | a
    · rfl
    · exact ih
    · exact congrArg (a :: ·) ih

theorem assignments_eq (file : String) : assignments file = beforeBad (readings file) :=
  assignmentsOf_eq _

/-- Readings that differ in one line give assignments that differ in what this line says. -/
theorem beforeBad_append_cons (front back : List (Option (Option Assignment))) (a : Assignment) :
    beforeBad (front ++ some (some a) :: back) =
      beforeBad front ++ if front.all Option.isSome then a :: beforeBad back else [] := by
  induction front with
  | nil => rfl
  | cons reading front ih =>
    rcases reading with _ | _ | b
    · rfl
    · exact ih
    · exact congrArg (b :: ·) ih

namespace Environment

variable {env : Environment}

/-! ### Setting variables -/

theorem lookup_filter_ne {α : Type} {name other : String} (h : other ≠ name)
    (entries : List (String × α)) :
    (entries.filter (·.1 ≠ name)).lookup other = entries.lookup other := by
  induction entries with
  | nil => rfl
  | cons entry entries ih =>
    by_cases same : entry.1 = name
    · have passed : (other == entry.1) = false := beq_eq_false_iff_ne.mpr (same ▸ h)
      rw [List.filter_cons_of_neg (by simpa using same), ih, List.lookup_cons, passed]
    · rw [List.filter_cons_of_pos (by simpa using same), List.lookup_cons, List.lookup_cons, ih]

theorem value?_set (env : Environment) (name value other : String) :
    (env.set name value).value? other = if other = name then some value else env.value? other := by
  by_cases h : other = name
  · subst h
    simp [value?, set]
  · have passed : (other == name) = false := beq_eq_false_iff_ne.mpr h
    rw [if_neg h, value?, set, List.lookup_cons, passed, lookup_filter_ne h, value?]

def Unsettable (value : String) : Prop :=
  '\x00' ∈ value.toList

theorem set?_eq_none_iff {name value : String} :
    env.set? name value = none ↔ Unsettable value := by
  unfold set?
  split
  · rename_i h
    exact iff_of_true rfl h
  · rename_i h
    exact iff_of_false (Option.some_ne_none _) h

theorem eq_set_of_set? {next : Environment} {name value : String}
    (h : env.set? name value = some next) : next = env.set name value := by
  unfold set? at h
  split at h
  · cases h
  · exact (Option.some.inj h).symm

/-- An assignment stops the process where its name has no value and cannot be set to the one that is
given. -/
theorem assign_eq_none_iff {a : Assignment} : env.assign a = none ↔
    env.value? (String.ofList a.key) = none ∧ Unsettable (expand env.value? a.value) := by
  rw [assign]
  cases here : env.value? (String.ofList a.key) with
  | some value => simp
  | none => simp [set?_eq_none_iff]

/-- An assignment gives its name a value, unless that has one. -/
theorem value?_assign {next : Environment} {a : Assignment} (h : env.assign a = some next)
    (name : String) :
    next.value? name =
      (env.value? name).or
        ([(String.ofList a.key, expand env.value? a.value)].lookup name) := by
  rw [assign] at h
  cases here : env.value? (String.ofList a.key) with
  | some value =>
    rw [here] at h
    cases h
    by_cases same : name = String.ofList a.key
    · simp [same, here]
    · simp [List.lookup_cons, beq_eq_false_iff_ne.mpr same]
  | none =>
    rw [here] at h
    rw [eq_set_of_set? h, value?_set]
    by_cases same : name = String.ofList a.key
    · simp [same, here]
    · simp [same, List.lookup_cons, beq_eq_false_iff_ne.mpr same]

/-! ### Loading -/

/-- The first value of a name stays. -/
theorem lookup_values {earlier : List (String × String)} {name value : String}
    (h : earlier.lookup name = some value) (rest : List Assignment) :
    (env.values earlier rest).lookup name = some value := by
  induction rest generalizing earlier with
  | nil => exact h
  | cons a rest ih =>
    refine ih ?_
    rw [List.lookup_append, h, Option.some_or]

/-- A name that gets its value from assignments which come after others is to get one that no variable
can hold. -/
def Halts (env : Environment) (earlier : List (String × String)) (rest : List Assignment) : Prop :=
  ∃ name value, env.value? name = none ∧ earlier.lookup name = none ∧
    (env.values earlier rest).lookup name = some value ∧ Unsettable value

/-- An assignment that can be carried out gives no reason to halt. -/
theorem halts_cons {earlier : List (String × String)} {a : Assignment} {rest : List Assignment}
    {value : String} (values : env.values earlier (a :: rest) =
      env.values (earlier ++ [(String.ofList a.key, value)]) rest)
    (goes : env.value? (String.ofList a.key) = none →
      earlier.lookup (String.ofList a.key) = none → ¬Unsettable value) :
    env.Halts earlier (a :: rest) ↔
      env.Halts (earlier ++ [(String.ofList a.key, value)]) rest := by
  unfold Halts
  rw [values]
  refine exists_congr fun name => exists_congr fun given => and_congr_right fun unknown => ?_
  rw [List.lookup_append, Option.or_eq_none_iff]
  constructor
  · rintro ⟨fresh, hgiven, unsettable⟩
    refine ⟨⟨fresh, ?_⟩, hgiven, unsettable⟩
    by_cases here : name = String.ofList a.key
    · subst here
      have first : (earlier ++ [(String.ofList a.key, value)]).lookup (String.ofList a.key) =
          some value := by
        rw [List.lookup_append, fresh, Option.none_or, List.lookup_cons_self]
      cases (lookup_values first rest).symm.trans hgiven
      exact absurd unsettable (goes unknown fresh)
    · rw [List.lookup_cons, beq_eq_false_iff_ne.mpr here]
      rfl
  · rintro ⟨⟨fresh, _⟩, hgiven, unsettable⟩
    exact ⟨fresh, hgiven, unsettable⟩

/-- How the rest of a file is loaded, where the environment by then knows what it knew at first and,
after that, what the assignments so far have given. -/
inductive Loads (env now : Environment) (earlier : List (String × String))
    (rest : List Assignment) : Prop
  | stopped (h : rest.foldlM assign now = none) (halts : env.Halts earlier rest)
  | loaded {last : Environment} (h : rest.foldlM assign now = some last)
      (known : ∀ name, last.value? name =
        (env.value? name).or ((env.values earlier rest).lookup name))
      (goes : ¬env.Halts earlier rest)

theorem loads {earlier : List (String × String)} {now : Environment}
    (known : ∀ name, now.value? name = (env.value? name).or (earlier.lookup name))
    (rest : List Assignment) : Loads env now earlier rest := by
  induction rest generalizing earlier now with
  | nil =>
    refine .loaded rfl known ?_
    rintro ⟨name, value, -, fresh, given, -⟩
    cases fresh.symm.trans given
  | cons a rest ih =>
    have lookups : now.value? = fun name => (env.value? name).or (earlier.lookup name) :=
      funext known
    have values : env.values earlier (a :: rest) =
        env.values (earlier ++ [(String.ofList a.key, expand now.value? a.value)]) rest := by
      rw [Environment.values, ← lookups]
    cases assigned : now.assign a with
    | none =>
      obtain ⟨unknown, unsettable⟩ := assign_eq_none_iff.mp assigned
      rw [known, Option.or_eq_none_iff] at unknown
      refine .stopped (by rw [List.foldlM_cons, assigned]; rfl)
        ⟨_, _, unknown.1, unknown.2, ?_, unsettable⟩
      rw [values]
      refine lookup_values ?_ rest
      rw [List.lookup_append, unknown.2, Option.none_or, List.lookup_cons_self]
    | some next =>
      have whole : (a :: rest).foldlM assign now = rest.foldlM assign next := by
        rw [List.foldlM_cons, assigned]
        rfl
      have halts := halts_cons values fun unknown fresh bad => by
        have none : now.assign a = none := assign_eq_none_iff.mpr
          ⟨by rw [known, unknown, fresh, Option.none_or], bad⟩
        cases none.symm.trans assigned
      have known' (name : String) : next.value? name = (env.value? name).or
          ((earlier ++ [(String.ofList a.key, expand now.value? a.value)]).lookup name) := by
        rw [value?_assign assigned, known, List.lookup_append, Option.or_assoc]
      cases ih known' with
      | stopped h halted => exact .stopped (whole.trans h) (halts.mpr halted)
      | loaded h known goes =>
        rw [← values] at known
        exact .loaded (whole.trans h) known fun halted => goes (halts.mp halted)

/-! ### Values that make no difference -/

/-- Whether two assignments have one name and, unless the environment has a value for it, one
value. -/
def Alike (env : Environment) (a b : Assignment) : Prop :=
  a.key = b.key ∧ (env.value? (String.ofList a.key) = none → a.value = b.value)

instance : Std.Refl env.Alike :=
  ⟨fun _ => ⟨rfl, fun _ => rfl⟩⟩

theorem lookup_values_of_alike {as bs : List Assignment} (alike : List.Forall₂ env.Alike as bs)
    {earlier earlier' : List (String × String)}
    (agree : ∀ name, env.value? name = none → earlier.lookup name = earlier'.lookup name)
    (name : String) (open_ : env.value? name = none) :
    (env.values earlier as).lookup name = (env.values earlier' bs).lookup name := by
  induction alike generalizing earlier earlier' with
  | nil => exact agree name open_
  | @cons a b as bs same _ ih =>
    -- References that the environment knows come from there, and the others agree.
    have lookups : (fun name => (env.value? name).or (earlier.lookup name)) =
        fun name => (env.value? name).or (earlier'.lookup name) := by
      funext name
      cases known : env.value? name with
      | none => rw [agree name known]
      | some value => rfl
    refine ih fun name open_ => ?_
    rw [List.lookup_append, List.lookup_append, agree name open_, lookups, ← same.1]
    by_cases here : name = String.ofList a.key
    · rw [same.2 (here ▸ open_)]
    · simp [List.lookup_cons, beq_eq_false_iff_ne.mpr here]

/-- A file would give some name that has no value in the environment one that no variable can
hold. -/
def Chokes (env : Environment) (file : String) : Prop :=
  ∃ name value, env.value? name = none ∧
    (env.values [] (beforeBad (readings file))).lookup name = some value ∧ Unsettable value

theorem halts_iff_chokes {file : String} :
    env.Halts [] (assignments file) ↔ env.Chokes file := by
  simp [Halts, Chokes, assignments_eq]

theorem merged_of_alike {file file' : String}
    (alike : List.Forall₂ env.Alike (assignments file) (assignments file')) :
    env.merged (some file) = env.merged (some file') := by
  funext name
  rw [merged, merged]
  cases known : env.value? name with
  | some value => rfl
  | none => exact lookup_values_of_alike alike (fun _ _ => rfl) name known

theorem chokes_of_alike {file file' : String}
    (alike : List.Forall₂ env.Alike (assignments file) (assignments file')) :
    env.Chokes file ↔ env.Chokes file' := by
  unfold Chokes
  rw [← assignments_eq, ← assignments_eq]
  refine exists_congr fun name => exists_congr fun value => and_congr_right fun unknown => ?_
  rw [lookup_values_of_alike alike (fun _ _ => rfl) name unknown]

end Environment

namespace Settings

variable {env : Environment} {file file' : String}

theorem load_of_chokes (chokes : env.Chokes file) : load env (some file) = none := by
  have start : ∀ name, env.value? name = (env.value? name).or (List.lookup name []) :=
    fun _ => Option.or_none.symm
  cases Environment.loads start (assignments file) with
  | stopped h halts =>
    change Option.map _ ((assignments file).foldlM Environment.assign env) = none
    rw [h]
    rfl
  | loaded h known goes => exact absurd (Environment.halts_iff_chokes.mpr chokes) goes

theorem load_of_not_chokes (goes : ¬env.Chokes file) :
    load env (some file) = some (ofEnvironment env (some file)) := by
  have start : ∀ name, env.value? name = (env.value? name).or (List.lookup name []) :=
    fun _ => Option.or_none.symm
  cases Environment.loads start (assignments file) with
  | stopped h halts => exact absurd (Environment.halts_iff_chokes.mp halts) goes
  | @loaded last h known _ =>
    have values : last.value? = env.merged (some file) := funext known
    change Option.map _ ((assignments file).foldlM Environment.assign env) = _
    rw [h, Option.map_some, values]
    rfl

theorem load_of_alike
    (alike : List.Forall₂ env.Alike (assignments file) (assignments file')) :
    load env (some file) = load env (some file') := by
  have same := Environment.chokes_of_alike alike
  by_cases chokes : env.Chokes file
  · rw [load_of_chokes chokes, load_of_chokes (same.mp chokes)]
  · rw [load_of_not_chokes chokes, load_of_not_chokes fun h => chokes (same.mpr h), ofEnvironment,
      ofEnvironment, Environment.merged_of_alike alike]

/-- How the settings of a process come from its environment and a file beside it. -/
structure Merge (env : Environment) : Prop where
  /-- Without a file the environment is all there is. -/
  alone : load env none = some (ofLookup env.value?)
  /-- A variable has its value from the environment if it has one there, and else from its first
  assignment in front of the first bad line, where references are looked up in the environment first
  and then among the assignments before. -/
  merged (file : String) (goes : ¬env.Chokes file) :
    load env (some file) = some (ofLookup fun name =>
      (env.value? name).or ((env.values [] (beforeBad (readings file))).lookup name))
  /-- There are no settings at all where a variable would have to hold what it cannot. -/
  stopped (file : String) : load env (some file) = none ↔ env.Chokes file
  /-- All that counts of a file is the assignments in front of the first bad line. -/
  same (file file' : String) (h : beforeBad (readings file) = beforeBad (readings file')) :
    load env (some file) = load env (some file')
  /-- What a line gives to a name that has a value in the environment makes no difference. -/
  known (file file' : String) (front back : List (Option (Option Assignment)))
    (key : List Char) (value value' : List Piece)
    (line : readings file = front ++ some (some ⟨key, value⟩) :: back)
    (line' : readings file' = front ++ some (some ⟨key, value'⟩) :: back)
    (here : env.value? (String.ofList key) ≠ none) :
    load env (some file) = load env (some file')

end Settings

/-- The settings of a process with a file beside it are those of the environment and the file merged,
unless the file stops the process. -/
theorem settings_of_merged (env : Environment) : Settings.Merge env where
  alone := rfl
  merged file goes := by
    rw [Settings.load_of_not_chokes goes, ← assignments_eq]
    rfl
  stopped file := by
    refine ⟨fun h => ?_, Settings.load_of_chokes⟩
    by_contra goes
    cases h.symm.trans (Settings.load_of_not_chokes goes)
  same file file' h := by
    refine Settings.load_of_alike ?_
    rw [assignments_eq, assignments_eq, h]
    exact List.forall₂_refl _
  known file file' front back key value value' line line' here := by
    refine Settings.load_of_alike ?_
    rw [assignments_eq, assignments_eq, line, line', beforeBad_append_cons, beforeBad_append_cons]
    refine List.rel_append (List.forall₂_refl _) ?_
    split
    · exact .cons ⟨rfl, fun none => absurd none here⟩ (List.forall₂_refl _)
    · exact .nil

/-- An environment in which the address of the database is there and is not text. -/
def Environment.sample : Environment :=
  ⟨[("ROLE", some "ledger"), ("DATABASE_URL", none)]⟩

/-- A file that gives a role, which is known already, and has a bad line in front of its last. -/
def sampleFile (role : String) : String :=
  "export DATABASE_URL='postgres://'$ROLE/wallet # the address\nDATABASE_URL=second\n" ++
    "ROLE=" ++ role ++ "\nSIZE=2\nDB_MAX_CONNECTIONS=\"${SIZE}5\"\n=\nDB_SQL_LOGGING=true\n"

/-- A file with a value that no variable can hold, and with the address of the database. -/
def chokingFile : String :=
  "NOTE=\x00\nDATABASE_URL=postgres://localhost/wallet\n"

/-- Merged with a file, an environment would give settings, and yet there are none. And of two files
that differ in the value of a name alone, which is there already, each has settings of its own. -/
theorem settings_not_merged :
    Settings.load ⟨[]⟩ (some chokingFile) = none ∧
      Settings.ofLookup (Environment.merged ⟨[]⟩ (some chokingFile)) =
        .ok ⟨"postgres://localhost/wallet", 10, 8, false⟩ ∧
      Settings.load .sample (some "DATABASE_URL=postgres://first/wallet\n") =
        some (.ok ⟨"postgres://first/wallet", 10, 8, false⟩) ∧
      Settings.load .sample (some "DATABASE_URL=postgres://second/wallet\n") =
        some (.ok ⟨"postgres://second/wallet", 10, 8, false⟩) := by
  refine ⟨?_, ?_, ?_, ?_⟩ <;> decide +kernel

theorem settings_of_merged_sample :
    ¬Environment.sample.Chokes (sampleFile "auditor") ∧
      Settings.load .sample (some (sampleFile "auditor")) =
        some (.ok ⟨"postgres://ledger/wallet", 25, 8, false⟩) ∧
      Environment.sample.value? "ROLE" ≠ none ∧
      Settings.load .sample (some (sampleFile "auditor")) =
        Settings.load .sample (some (sampleFile "\"any one\"")) := by
  have merge := settings_of_merged .sample
  have role : Environment.sample.value? (String.ofList "ROLE".toList) ≠ none := by decide +kernel
  have loaded : Settings.load .sample (some (sampleFile "auditor")) =
      some (.ok ⟨"postgres://ledger/wallet", 25, 8, false⟩) := by decide +kernel
  refine ⟨fun chokes => ?_, loaded, role, ?_⟩
  · cases loaded.symm.trans ((merge.stopped _).mpr chokes)
  · exact merge.known _ _ ((readings (sampleFile "auditor")).take 2)
      ((readings (sampleFile "auditor")).drop 3) "ROLE".toList ("auditor".toList.map .char)
      ("any one".toList.map .char) (by decide +kernel) (by decide +kernel) role

end FundsLedger.Config
