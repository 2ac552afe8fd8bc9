/-
# What splicing leaves alone

A query with a site is cut in three: the text up to the end of the keyword, what stands between the
keyword and the end of the place, and the text after it.  The keyword is six bytes long, whatever
stands around it, so that the cut never falls inside a character.  Splicing puts a text for the
part in the middle and keeps the bytes of the two others, also if that text is a place itself.
-/
import BulkValues.Proofs.Site.Grammar
import BulkValues.Proofs.Text.Utf8

namespace BulkValues.Site

open BulkValues.Text

variable {l c : Char} {ls w gap : List Char} {p : Place} {query : String} {site : Site}

/-- The byte of a query at which a place begins. -/
def Place.start (p : Place) : ℕ := (String.ofList p.before).utf8ByteSize

/-- A site is cut from its query around the only place there, of which `gap` follows the
keyword. -/
structure IsCutAround (site : Site) (query : String) (p : Place) (gap : List Char) : Prop where
  alone : standing query = {p}
  text : query.toList = p.before ++ (p.word ++ (gap ++ p.after))
  endsWord : EndsWord p.before
  /-- The keyword is written with six ASCII letters, each in some case. -/
  letters : p.word.map Char.toLower = keyword
  isGap : IsGap gap
  head_eq : site.head = p.before ++ p.word
  tail_eq : site.tail = p.after

/-! ## The keyword -/

lemma toLower_of_foldsTo (h : foldsTo l c = true) (hc : c ≠ longS) : c.toLower = l := by
  simp only [foldsTo, Bool.or_eq_true, Bool.and_eq_true, beq_iff_eq] at h
  rcases h with h | ⟨-, h⟩
  · exact h
  · exact absurd h hc

/-- Without the long s a word is written with the letters themselves. -/
lemma Folds.map_toLower (h : Folds ls w) (hlong : longS ∉ w) : w.map Char.toLower = ls := by
  induction h with
  | nil => rfl
  | cons hc _ ih =>
    rw [List.mem_cons, not_or] at hlong
    rw [List.map_cons, toLower_of_foldsTo hc (Ne.symm hlong.1), ih hlong.2]

/-- The keyword takes six bytes. -/
lemma utf8ByteSize_word (hfolds : Folds keyword p.word) (hlong : longS ∉ p.word) :
    (String.ofList p.word).utf8ByteSize = keyword.length := by
  have hascii : ∀ c ∈ p.word, c.toNat < 128 := by
    intro c hc
    have hall := (all_ascii_iff hfolds).mpr hlong
    rw [List.all_eq_true] at hall
    exact of_decide_eq_true (hall c hc)
  rw [← length_toUTF8_toList, toUTF8_toList_of_ascii (by rwa [String.toList_ofList]),
    List.length_map, String.toList_ofList, hfolds.length_eq]

/-! ## The cut -/

/-- The site of a query is at its only place, which is written without the long s. -/
lemma exists_place_of_locate (h : locate query = .ok site) :
    ∃ p, standing query = {p} ∧ longS ∉ p.word ∧ site = ⟨p.before ++ p.word, p.after⟩ := by
  rcases locate_cases query with ⟨-, hnone⟩ | ⟨p, hplaces, hone⟩ | ⟨-, hmany⟩
  · rw [hnone] at h
    cases h
  · refine ⟨p, places_eq_singleton_iff.mp hplaces, ?_⟩
    rw [hone] at h
    split at h
    · cases h
    · rename_i hlong
      cases h
      exact ⟨hlong, rfl⟩
  · rw [hmany] at h
    cases h

lemma exists_isCutAround (h : locate query = .ok site) :
    ∃ p gap, site.IsCutAround query p gap ∧
      (String.ofList p.word).utf8ByteSize = keyword.length := by
  obtain ⟨p, halone, hlong, rfl⟩ := exists_place_of_locate h
  have hp : p ∈ standing query := halone ▸ Set.mem_singleton p
  obtain ⟨hends, hfolds, gap, hgap, htext⟩ := hp
  exact ⟨p, gap, ⟨halone, htext, hends, hfolds.map_toLower hlong, hgap, rfl, rfl⟩,
    utf8ByteSize_word hfolds hlong⟩

/-- The bytes before the cut are those of the head, and the bytes after the place those of the
tail. -/
lemma IsCutAround.bytes (h : site.IsCutAround query p gap)
    (hword : (String.ofList p.word).utf8ByteSize = keyword.length) :
    (String.ofList site.head).toUTF8.toList =
        query.toUTF8.toList.take (p.start + keyword.length) ∧
      (String.ofList site.tail).toUTF8.toList =
        query.toUTF8.toList.drop
          (p.start + keyword.length + (String.ofList gap).utf8ByteSize) := by
  have hquery :
      query = String.ofList site.head ++ (String.ofList gap ++ String.ofList site.tail) := by
    rw [h.head_eq, h.tail_eq, ← String.ofList_append, ← String.ofList_append, List.append_assoc,
      ← h.text, String.ofList_toList]
  have hhead : (String.ofList site.head).toUTF8.toList.length = p.start + keyword.length := by
    rw [length_toUTF8_toList, h.head_eq, String.ofList_append, String.utf8ByteSize_append, hword]
    rfl
  rw [hquery, toUTF8_toList_append, toUTF8_toList_append]
  refine ⟨(List.take_left' hhead).symm, ?_⟩
  rw [← List.append_assoc]
  refine (List.drop_left' ?_).symm
  rw [List.length_append, hhead, length_toUTF8_toList]

/-- **Splicing touches only the place.**  A query with a site has one place and no other.  Its
keyword has six ASCII letters, begins a word, and ends where the head of the site ends; the head,
what follows the keyword in the place, and the tail are the whole query.  Whatever text is spliced,
the bytes before it are a blank and all bytes of the query up to the end of the keyword, and the
bytes behind it are all those of the query after the place. -/
theorem splice_frame (h : locate query = .ok site) :
    ∃ p gap, site.IsCutAround query p gap ∧ ∀ text : String,
      site.splice text = String.ofList site.head ++ " " ++ text ++ String.ofList site.tail ∧
        (site.splice text).toUTF8.toList =
          query.toUTF8.toList.take (p.start + keyword.length) ++
            (" ".toUTF8.toList ++ (text.toUTF8.toList ++
              query.toUTF8.toList.drop
                (p.start + keyword.length + (String.ofList gap).utf8ByteSize))) := by
  obtain ⟨p, gap, hcut, hword⟩ := exists_isCutAround h
  obtain ⟨hhead, htail⟩ := hcut.bytes hword
  refine ⟨p, gap, hcut, fun text => ⟨rfl, ?_⟩⟩
  rw [splice, toUTF8_toList_append, toUTF8_toList_append, toUTF8_toList_append, hhead, htail,
    List.append_assoc, List.append_assoc]

/-- A site between two texts that are almost places, with characters of several bytes around it, and
a place for the text that is spliced. -/
theorem splice_frame_near_misses :
    let query := "évalues (%s) VALUES (%d) vAlUeS\u00a0(\t%S )ſ VALUES %s"
    let site : Site := ⟨"évalues (%s) VALUES (%d) vAlUeS".toList, "ſ VALUES %s".toList⟩
    locate query = .ok site ∧
      site.splice "VALUES (%s)" =
        "évalues (%s) VALUES (%d) vAlUeS VALUES (%s)ſ VALUES %s" ∧
      ∃ p gap, site.IsCutAround query p gap ∧ ∀ text : String,
        site.splice text = String.ofList site.head ++ " " ++ text ++ String.ofList site.tail ∧
          (site.splice text).toUTF8.toList =
            query.toUTF8.toList.take (p.start + keyword.length) ++
              (" ".toUTF8.toList ++ (text.toUTF8.toList ++
                query.toUTF8.toList.drop
                  (p.start + keyword.length + (String.ofList gap).utf8ByteSize))) := by
  intro query site
  have hlocate : locate query = .ok site := by decide +kernel
  exact ⟨hlocate, by decide +kernel, splice_frame hlocate⟩

end BulkValues.Site
