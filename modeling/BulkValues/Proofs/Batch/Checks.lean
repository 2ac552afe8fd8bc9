/-
# The checks before the transaction

A template with slots, the only place for tuples in the query, a page size and rows: a batch is
not run unless it has all four, and they are looked for in this order.  The first fault decides
what is returned.
-/
import BulkValues.Batch.Execute
import BulkValues.Proofs.Except
import Mathlib.Data.Nat.Notation
import Mathlib.Tactic.SplitIfs

namespace BulkValues.Batch

open BulkValues.Text

/-- The parts of a batch that can be run: a template with slots, the only place for tuples in
the query, a page size, and rows. -/
structure Ready (o : Options) (query template : String) (rows : List Record) (t : Template)
    (site : Site) (size : ℕ) : Prop where
  not_blank : allBlank template = false
  template_eq : Template.ofChars template.toList = t
  slots : t.size ≠ 0
  one_place : (Site.places query.toList).length = 1
  located : Site.locate query = .ok site
  size_eq : size = o.pageSize.getD rows.length
  size_pos : 0 < size
  given : rows ≠ []

/-- The faults of a batch that is not run, in the order in which they are looked for, and the
results they have. That there are no rows is none. -/
inductive Unfit (o : Options) (query template : String) (rows : List Record) :
    Except Error (Option (List Row)) → Prop
  | blank (h : allBlank template = true) : Unfit o query template rows (.error .blankTemplate)
  | no_slots (not_blank : allBlank template = false)
      (h : (Template.ofChars template.toList).size = 0) :
      Unfit o query template rows (.error .noPlaceholder)
  | no_place (not_blank : allBlank template = false)
      (slots : (Template.ofChars template.toList).size ≠ 0)
      (h : (Site.places query.toList).length = 0) :
      Unfit o query template rows (.error .noSite)
  | many_places (not_blank : allBlank template = false)
      (slots : (Template.ofChars template.toList).size ≠ 0)
      (h : 2 ≤ (Site.places query.toList).length) :
      Unfit o query template rows (.error (.manySites (Site.places query.toList).length))
  | empty_pages (not_blank : allBlank template = false)
      (slots : (Template.ofChars template.toList).size ≠ 0)
      (one_place : (Site.places query.toList).length = 1) (h : o.pageSize = some 0) :
      Unfit o query template rows (.error .zeroPageSize)
  | no_rows (not_blank : allBlank template = false)
      (slots : (Template.ofChars template.toList).size ≠ 0)
      (one_place : (Site.places query.toList).length = 1) (pages : o.pageSize ≠ some 0)
      (h : rows = []) : Unfit o query template rows (.ok none)

variable {o : Options} {query template : String} {t : Template} {site : Site} {n size : ℕ}
  {e : Error}

lemma prepare_eq_ok_iff :
    prepare o query template n = .ok (t, site, size) ↔
      Template.parseValid template = .ok t ∧ Site.locate query = .ok site ∧
        o.resolvePageSize n = .ok size := by
  simp only [prepare, bind_eq_ok, pure, Except.pure, Except.ok.injEq, Prod.mk.injEq]
  constructor
  · rintro ⟨t', ht, site', hsite, size', hsize, rfl, rfl, rfl⟩
    exact ⟨ht, hsite, hsize⟩
  · rintro ⟨ht, hsite, hsize⟩
    exact ⟨t, ht, site, hsite, size, hsize, rfl, rfl, rfl⟩

/-- A template is checked for being blank and then for having slots. -/
lemma parseValid_eq (template : String) :
    Template.parseValid template =
      if allBlank template then .error .blankTemplate
      else if (Template.ofChars template.toList).size = 0 then .error .noPlaceholder
      else .ok (Template.ofChars template.toList) := by
  by_cases hblank : allBlank template
  · simp [Template.parseValid, Template.parse, hblank, bind, Except.bind]
  · by_cases hsize : (Template.ofChars template.toList).size = 0
    · simp [Template.parseValid, Template.parse, Template.ensureValid, Template.isValid, hblank,
        hsize, bind, Except.bind]
    · simp [Template.parseValid, Template.parse, Template.ensureValid, Template.isValid, hblank,
        hsize, bind, Except.bind]

lemma parseValid_eq_ok (h : Template.parseValid template = .ok t) :
    allBlank template = false ∧ Template.ofChars template.toList = t ∧ t.size ≠ 0 := by
  rw [parseValid_eq] at h
  split_ifs at h with hblank hsize
  cases h
  exact ⟨by simpa using hblank, rfl, hsize⟩

/-- A site is found at the only place of the query. -/
lemma length_places_of_locate (h : Site.locate query = .ok site) :
    (Site.places query.toList).length = 1 := by
  rw [Site.locate] at h
  split at h
  · cases h
  · rename_i p hp
    rw [hp]
    rfl
  · cases h

/-- A query is refused for the number of its places, or because the keyword is torn. -/
lemma locate_eq_error (h : Site.locate query = .error e) :
    ((Site.places query.toList).length = 0 ∧ e = .noSite) ∨
      (2 ≤ (Site.places query.toList).length ∧
        e = .manySites (Site.places query.toList).length) ∨ e = .tornCharacter := by
  rw [Site.locate] at h
  split at h
  · rename_i hp
    cases h
    exact .inl ⟨by rw [hp]; rfl, rfl⟩
  · rw [Site.ofPlace] at h
    split at h
    · cases h
    · cases h
      exact .inr (.inr rfl)
  · rename_i ps hnone hone
    cases h
    refine .inr (.inl ⟨?_, rfl⟩)
    match hps : Site.places query.toList with
    | [] => exact absurd hps hnone
    | [p] => exact absurd hps (hone p)
    | _ :: _ :: _ => simp

lemma resolvePageSize_eq_ok (h : o.resolvePageSize n = .ok size) :
    o.pageSize ≠ some 0 ∧ size = o.pageSize.getD (max n 1) := by
  rw [Options.resolvePageSize] at h
  split at h
  · cases h
  · rename_i k hk hne
    cases h
    rw [hne]
    exact ⟨fun hzero => hk (Option.some.inj hzero), rfl⟩
  · rename_i hnone
    cases h
    rw [hnone]
    exact ⟨nofun, rfl⟩

lemma resolvePageSize_pos (h : o.resolvePageSize n = .ok size) : 0 < size := by
  obtain ⟨hzero, rfl⟩ := resolvePageSize_eq_ok h
  cases hpage : o.pageSize with
  | none => exact Nat.lt_of_lt_of_le Nat.zero_lt_one (Nat.le_max_right n 1)
  | some k =>
    rw [hpage] at hzero
    exact Nat.pos_of_ne_zero fun hk => hzero (congrArg some hk)

lemma exists_resolvePageSize (h : o.pageSize ≠ some 0) (n : ℕ) :
    ∃ size, o.resolvePageSize n = .ok size := by
  rw [Options.resolvePageSize]
  split
  · contradiction
  · exact ⟨_, rfl⟩
  · exact ⟨_, rfl⟩

/-- A batch whose checks pass is ready if there are rows. -/
lemma ready_of_prepare {rows : List Record}
    (h : prepare o query template rows.length = .ok (t, site, size)) (given : rows ≠ []) :
    Ready o query template rows t site size := by
  obtain ⟨ht, hsite, hsize⟩ := prepare_eq_ok_iff.mp h
  obtain ⟨hblank, htemplate, hslots⟩ := parseValid_eq_ok ht
  have hpos := resolvePageSize_pos hsize
  obtain ⟨-, hsize⟩ := resolvePageSize_eq_ok hsize
  have hrows := List.length_pos_iff.mpr given
  have hmax : max rows.length 1 = rows.length := by omega
  rw [hmax] at hsize
  exact ⟨hblank, htemplate, hslots, length_places_of_locate hsite, hsite, hsize, hpos, given⟩

/-- A batch whose checks fail is unfit, with the failure of the first check. -/
lemma unfit_of_prepare {rows : List Record} (hquery : Site.locate query ≠ .error .tornCharacter)
    (h : prepare o query template rows.length = .error e) :
    Unfit o query template rows (.error e) := by
  simp only [prepare, bind_eq_error] at h
  rcases h with htemplate | ⟨t, ht, h⟩
  · rw [parseValid_eq] at htemplate
    split_ifs at htemplate with hblank hsize
    · cases htemplate
      exact .blank hblank
    · cases htemplate
      exact .no_slots (by simpa using hblank) hsize
  · obtain ⟨hblank, rfl, hslots⟩ := parseValid_eq_ok ht
    rcases h with hsite | ⟨site, hsite, hsize⟩
    · rcases locate_eq_error hsite with ⟨hnone, rfl⟩ | ⟨hmany, rfl⟩ | rfl
      · exact .no_place hblank hslots hnone
      · exact .many_places hblank hslots hmany
      · exact absurd hsite hquery
    · have hone := length_places_of_locate hsite
      rcases hsize with hsize | ⟨size, -, hsize⟩
      · rw [Options.resolvePageSize] at hsize
        split at hsize
        · rename_i hzero
          cases hsize
          exact .empty_pages hblank hslots hone hzero
        · cases hsize
        · cases hsize
      · cases hsize

/-- A batch whose checks pass has nothing to do without rows. -/
lemma unfit_of_no_rows {rows : List Record}
    (h : prepare o query template rows.length = .ok (t, site, size)) (none_given : rows = []) :
    Unfit o query template rows (.ok none) := by
  obtain ⟨ht, hsite, hsize⟩ := prepare_eq_ok_iff.mp h
  obtain ⟨hblank, rfl, hslots⟩ := parseValid_eq_ok ht
  exact .no_rows hblank hslots (length_places_of_locate hsite) (resolvePageSize_eq_ok hsize).1
    none_given

end BulkValues.Batch
