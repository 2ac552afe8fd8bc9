/-
# The setting that holds the path of a database file

The path of a database file can be asked for as `path` or as `dbname`, and the report of a missing
one says so.  But of the further parameters of a configuration only `path` is looked at; the name
`dbname` is another name of the field that holds the path of a file, and settings are parameters.
So a section that has just `dbname` is refused as if it had neither, and its connection string is
that of the database in memory, while a configuration made for a file is opened at its path.
-/
import BulkValues.Proofs.Except
import BulkValues.Proofs.Settings.Conninfo
import BulkValues.Sqlite.Connect

namespace BulkValues

/-- Set further parameters one after the other. -/
def ConnectionConfig.withParams (c : ConnectionConfig) (pairs : List (String × String)) :
    ConnectionConfig :=
  pairs.foldl (fun c e => c.withParam e.1 e.2) c

lemma ConnectionConfig.withParams_eq (c : ConnectionConfig) (pairs : List (String × String)) :
    c.withParams pairs = { c with params := c.params.insertAll pairs } := by
  induction pairs generalizing c with
  | nil => rfl
  | cons e pairs ih => exact ih (c.withParam e.1 e.2)

namespace Sqlite

/-- The path that is asked for, under the one name or else under the other. -/
def asked? (get? : String → Option String) : Option String := (get? "path").or (get? "dbname")

/-- A configuration is opened at a path: that is what connecting tries to open, and it is the
connection string.  Without a path connecting fails for want of it, and the connection string is the
database in memory. -/
structure OpensAt (c : ConnectionConfig) (path? : Option String) : Prop where
  path : pathOf c = path?.elim (.error .missingPath) .ok
  connect : ∀ files places,
    connect files places c = path?.elim (.error .missingPath) (openPath files places)
  string : connectionString c = path?.getD inMemory

variable {c : ConnectionConfig} {path? path?' : Option String}

/-- What is looked at is the parameter and the field. -/
lemma get?_path (c : ConnectionConfig) :
    c.get? "path" = (c.params.get? "path").or c.database := rfl

lemma opensAt_get? (c : ConnectionConfig) : OpensAt c (c.get? "path") := by
  have hpath : pathOf c = (c.get? "path").elim (.error .missingPath) .ok := by
    rw [pathOf]
    cases c.get? "path" <;> rfl
  refine ⟨hpath, fun files places => ?_, rfl⟩
  rw [Sqlite.connect, hpath]
  cases c.get? "path" <;> rfl

lemma OpensAt.unique (h : OpensAt c path?) (h' : OpensAt c path?') : path? = path?' := by
  have heq := h.path.symm.trans h'.path
  cases path? <;> cases path?' <;> simp_all

/-- A configuration is opened at the path that is asked for, unless that is a parameter under the
name that is not looked at. -/
lemma opensAt_asked_iff_of_get? {get? : String → Option String}
    (hpath : c.get? "path" = get? "path") :
    OpensAt c (asked? get?) ↔ (get? "path").isSome ∨ get? "dbname" = none := by
  have hopens := opensAt_get? c
  rw [hpath] at hopens
  have hasked : OpensAt c (asked? get?) ↔ asked? get? = get? "path" :=
    ⟨fun h => h.unique hopens, fun h => h ▸ hopens⟩
  rw [hasked, asked?]
  cases get? "path" with
  | none => simp
  | some path => simp

/-! ## Errors -/

/-- A path that is there is not reported as missing, whatever becomes of it. -/
lemma openPath_ne_missingPath (files : FileTree) (places : Places) (path : String) :
    openPath files places path ≠ .error .missingPath := by
  intro h
  rcases bind_eq_error.mp h with hexpand | ⟨expanded, -, hopen⟩
  · rw [expandPath] at hexpand
    grind
  · split at hopen
    · cases hopen
    · rw [openFile] at hopen
      grind

lemma connect_eq_missingPath_iff (files : FileTree) (places : Places) (c : ConnectionConfig) :
    connect files places c = .error .missingPath ↔ c.get? "path" = none := by
  rw [(opensAt_get? c).connect files places]
  cases c.get? "path" with
  | none => simp
  | some path => simp [openPath_ne_missingPath]

/-! ## Sections and files -/

lemma get?_path_toConnectionConfig (s : Section) (name : String) :
    (s.toConnectionConfig name).get? "path" = s.get? "path" := by
  have hparam : (s.toConnectionConfig name).params.get? "path" = s.get? "path" := by
    rw [Conninfo.get?_toConnectionConfig, if_neg (by decide)]
  rw [get?_path, hparam, Section.toConnectionConfig, Option.or_none]

lemma get?_path_forFile (path : String) (pairs : List (String × String)) :
    ((ConnectionConfig.forFile path).withParams pairs).get? "path" =
      some ((lastText? pairs "path").getD path) := by
  rw [ConnectionConfig.withParams_eq, get?_path, Params.get?_insertAll, ConnectionConfig.forFile,
    Params.get?_empty, Option.or_none, Option.or_some]

/-- A section is opened at its `path`, so it is opened at the path that it asks for exactly if it
has a `path` or no `dbname`; and the path is reported as missing exactly if there is no `path`,
whatever is under the other name that the report speaks of.  The same holds of every configuration
and what it has under the two names.  A configuration made for a file has the path that was given
last, and it is always opened there. -/
theorem opensAt_asked_iff (s : Section) (name : String) :
    OpensAt (s.toConnectionConfig name) (s.get? "path") ∧
    (OpensAt (s.toConnectionConfig name) (asked? s.get?) ↔
      (s.get? "path").isSome ∨ s.get? "dbname" = none) ∧
    (∀ files places, connect files places (s.toConnectionConfig name) = .error .missingPath ↔
      s.get? "path" = none) ∧
    Error.missingPath.message = "Configuration error: " ++
      "SQLite requires a 'path' (or 'dbname') setting, e.g. path = \"/data/app.db\"" ∧
    (∀ c : ConnectionConfig, OpensAt c (asked? c.get?) ↔
      (c.get? "path").isSome ∨ c.get? "dbname" = none) ∧
    ∀ path pairs,
      let c := (ConnectionConfig.forFile path).withParams pairs
      asked? c.get? = some ((lastText? pairs "path").getD path) ∧ OpensAt c (asked? c.get?) := by
  have hpath := get?_path_toConnectionConfig s name
  refine ⟨hpath ▸ opensAt_get? (s.toConnectionConfig name), opensAt_asked_iff_of_get? hpath,
    fun files places => ?_, rfl, fun c => opensAt_asked_iff_of_get? rfl, fun path pairs => ?_⟩
  · rw [connect_eq_missingPath_iff, hpath]
  · have hfile := get?_path_forFile path pairs
    refine ⟨by rw [asked?, hfile, Option.some_or], (opensAt_asked_iff_of_get? rfl).mpr (.inl ?_)⟩
    rw [hfile]
    rfl

/-- A section that asks for a path under the other name: connecting fails for want of a path, and
the connection string is that of the database in memory. -/
theorem dbname_not_opened :
    let s : Section := ⟨.ofList [("driver", "sqlite"), ("dbname", "/data/app.db")]⟩
    let c := s.toConnectionConfig "scratch"
    s.driver = "sqlite" ∧ s.get? "path" = none ∧ asked? s.get? = some "/data/app.db" ∧
      (∀ files places, connect files places c = .error .missingPath) ∧
      connectionString c = ":memory:" := by
  intro s c
  refine ⟨by decide +kernel, by decide +kernel, by decide +kernel, fun files places => ?_,
    by decide +kernel⟩
  exact (connect_eq_missingPath_iff files places c).mpr (by decide +kernel)

end Sqlite

end BulkValues
