/-
# Which drivers are found

A registry keeps the driver that was registered last under each name, as the name stands, and `has`
asks for a name as it stands.  A lookup asks for what the name stands for instead.  So a lookup
finds the driver that was registered last under a name, and agrees with `has`, exactly for the names
that stand for themselves: those that are in lower case and no other name of a built-in driver.  A
driver of any other name can be registered, and is listed, but is not found under its name.
-/
import BulkValues.Registry
import Mathlib.Data.List.Basic
import Mathlib.Tactic.Lemma

namespace BulkValues.Registry

open BulkValues.Text

/-- The driver that was registered last under a name, as it stands. -/
def lastNamed? (registered : List Driver) (name : String) : Option Driver :=
  registered.reverse.find? fun d => d.name == name

/-- Register drivers, one after the other. -/
def registerAll (r : Registry) (drivers : List Driver) : Registry := drivers.foldl register r

/-- The driver that is kept under a name, as it stands. -/
def kept? (r : Registry) (name : String) : Option Driver :=
  r.drivers.find? fun d => d.name == name

variable {r start : Registry} {d : Driver} {name : String} {registered : List Driver}

/-! ## The driver kept under a name -/

lemma get?_eq_kept? (r : Registry) (name : String) : r.get? name = r.kept? (lookupName name) := rfl

lemma has_iff : r.has name = true ↔ (r.kept? name).isSome = true := by
  rw [has, kept?, List.find?_isSome, List.any_eq_true]

lemma kept?_register (r : Registry) (d : Driver) (name : String) :
    (r.register d).kept? name = if d.name = name then some d else r.kept? name := by
  rw [kept?, register, List.find?_append, List.find?_singleton, kept?]
  by_cases h : d.name = name
  -- A driver of that name that was there before is gone.
  · have hgone : (r.drivers.filter fun e => e.name != d.name).find? (fun e => e.name == name) =
        none := by
      simp [List.find?_eq_none, h]
    rw [hgone, Option.none_or, if_pos h, if_pos (beq_iff_eq.mpr h)]
  · have hsame : (r.drivers.filter fun e => e.name != d.name).find? (fun e => e.name == name) =
        r.drivers.find? fun e => e.name == name := by
      rw [List.find?_filter]
      congr 1
      funext e
      by_cases he : e.name = name <;> simp [he, Ne.symm h]
    rw [hsame, if_neg h, if_neg (by simpa using h), Option.or_none]

lemma lastNamed?_cons (d : Driver) (registered : List Driver) (name : String) :
    lastNamed? (d :: registered) name =
      (lastNamed? registered name).or (if d.name = name then some d else none) := by
  rw [lastNamed?, List.reverse_cons, List.find?_append, List.find?_singleton, ← lastNamed?]
  simp only [beq_iff_eq]

lemma isSome_lastNamed?_iff :
    (lastNamed? registered name).isSome = true ↔ ∃ d ∈ registered, d.name = name := by
  simp [lastNamed?]

lemma name_of_lastNamed? (h : lastNamed? registered name = some d) : d.name = name := by
  simpa using List.find?_some h

lemma kept?_registerAll (r : Registry) (drivers : List Driver) (name : String) :
    (r.registerAll drivers).kept? name = (lastNamed? drivers name).or (r.kept? name) := by
  induction drivers generalizing r with
  | nil => rfl
  | cons d drivers ih =>
    have hcons : r.registerAll (d :: drivers) = (r.register d).registerAll drivers := rfl
    rw [hcons, ih, kept?_register, lastNamed?_cons, Option.or_assoc]
    split <;> rfl

/-- What is kept in a registry that starts without drivers or with the built-in ones. -/
lemma kept?_eq_lastNamed? (hstart : start = .empty ∨ start = .builtIn) (drivers : List Driver)
    (name : String) :
    (start.registerAll drivers).kept? name = lastNamed? (start.drivers ++ drivers) name := by
  have hall : start.registerAll drivers = empty.registerAll (start.drivers ++ drivers) := by
    rw [registerAll, registerAll, List.foldl_append]
    rcases hstart with rfl | rfl <;> rfl
  have hempty : empty.kept? name = none := rfl
  rw [hall, kept?_registerAll, hempty, Option.or_none]

/-! ## Names that stand for themselves -/

/-- A name stands for itself if it is in lower case and no other name of a built-in driver. -/
lemma lookupName_eq_self_iff :
    lookupName name = name ↔ lower name = name ∧ name ∉ ["postgresql", "pg", "sqlite3"] := by
  have hpostgres : lower "postgres" = "postgres" := by decide
  have hsqlite : lower "sqlite" = "sqlite" := by decide
  simp only [lookupName, List.mem_cons, List.not_mem_nil, or_false, not_or]
  constructor
  · intro h
    split at h
    · rename_i halias
      rw [← h, hpostgres] at halias
      simp at halias
    · rename_i hpostgresql
      split at h
      · rename_i halias
        rw [← h, hsqlite] at halias
        simp at halias
      · rename_i hsqlite3
        rw [h] at hpostgresql hsqlite3
        exact ⟨h, fun heq => hpostgresql (.inl heq), fun heq => hpostgresql (.inr heq), hsqlite3⟩
  · rintro ⟨hlower, hpostgresql, hpg, hsqlite3⟩
    rw [hlower, if_neg (not_or.mpr ⟨hpostgresql, hpg⟩), if_neg hsqlite3]

/-- In any registry that starts without drivers or with the built-in ones, `has` says whether a
driver was registered under a name as it stands, and a lookup finds the driver that was registered
last under what the name stands for.  So whatever is registered, a lookup agrees with `has` and
finds the driver that was registered last under the name, exactly if the name stands for itself: if
it is in lower case and none of the other names of the built-in drivers. -/
theorem finds_registered_iff (hstart : start = .empty ∨ start = .builtIn) :
    (∀ drivers name,
      let r := start.registerAll drivers
      let registered := start.drivers ++ drivers
      (r.has name = true ↔ ∃ d ∈ registered, d.name = name) ∧
      r.get? name = lastNamed? registered (lookupName name)) ∧
    ∀ name,
      ((∀ drivers,
        let r := start.registerAll drivers
        (r.has name = true ↔ (r.get? name).isSome = true) ∧
        ∀ d, lastNamed? (start.drivers ++ drivers) name = some d → r.get? name = some d) ↔
        lookupName name = name) ∧
      (lookupName name = name ↔ lower name = name ∧ name ∉ ["postgresql", "pg", "sqlite3"]) := by
  have hget : ∀ drivers name, (start.registerAll drivers).get? name =
      lastNamed? (start.drivers ++ drivers) (lookupName name) := fun drivers name => by
    rw [get?_eq_kept?, kept?_eq_lastNamed? hstart]
  have hhas : ∀ drivers name, (start.registerAll drivers).has name = true ↔
      (lastNamed? (start.drivers ++ drivers) name).isSome = true := fun drivers name => by
    rw [has_iff, kept?_eq_lastNamed? hstart]
  refine ⟨fun drivers name => ⟨(hhas drivers name).trans isSome_lastNamed?_iff, hget drivers name⟩,
    fun name => ⟨⟨fun h => ?_, fun hself drivers => ?_⟩, lookupName_eq_self_iff⟩⟩
  -- A driver registered under the name is the one that is found, so that its name is asked for.
  · let d : Driver := ⟨name, name, none⟩
    have hlast : lastNamed? (start.drivers ++ [d]) name = some d := by simp [lastNamed?, d]
    have hfound := (h [d]).2 d hlast
    rw [hget] at hfound
    exact (name_of_lastNamed? hfound).symm
  · refine ⟨?_, fun d hd => ?_⟩
    · rw [hhas, hget, hself]
    · rw [hget, hself, hd]

/-- Behind the built-in drivers another one is registered as `Oracle`, and one as `oracle`: the
lookup finds the latter under either name. -/
theorem finds_registered_iff_capital :
    let drivers : List Driver := [⟨"Oracle", "first", none⟩, ⟨"oracle", "second", none⟩]
    let r := builtIn.registerAll drivers
    (builtIn = .empty ∨ builtIn = .builtIn) ∧
      r.get? "oracle" = some ⟨"oracle", "second", none⟩ ∧
      r.get? "Oracle" = lastNamed? (builtIn.drivers ++ drivers) "oracle" ∧
      r.has "Oracle" = true := by
  intro drivers r
  have hstart : builtIn = .empty ∨ builtIn = .builtIn := .inr rfl
  obtain ⟨hfound, hself⟩ := finds_registered_iff hstart
  have horacle : lookupName "oracle" = "oracle" := by decide
  have hcapital : lookupName "Oracle" = "oracle" := by decide
  have hlast : lastNamed? (builtIn.drivers ++ drivers) "oracle" =
      some ⟨"oracle", "second", none⟩ := by decide
  refine ⟨hstart, ((hself "oracle").1.mpr horacle drivers).2 _ hlast, ?_, ?_⟩
  · rw [(hfound drivers "Oracle").2, hcapital]
  · exact (hfound drivers "Oracle").1.mpr ⟨⟨"Oracle", "first", none⟩, by simp [drivers], rfl⟩

/-- A driver that is registered with a capital letter is there and is not found: the refusal lists
its name among those that are. -/
theorem registered_not_found :
    let r := empty.register ⟨"Oracle", "Oracle Database", none⟩
    r.has "Oracle" = true ∧ r.get? "Oracle" = none ∧
      r.require "Oracle" = .error (.unknownDriver "Oracle" ["Oracle"]) := by
  intro r
  have hnone : r.get? "Oracle" = none := by decide
  refine ⟨by decide, hnone, ?_⟩
  rw [require, hnone]
  simp [names, r, register, empty]

end BulkValues.Registry
