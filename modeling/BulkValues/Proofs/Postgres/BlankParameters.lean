/-
# Blank parameters of transport security

Every parameter of transport security has a short name and a long one.  A blank text is no setting;
but if it stands under the short name, the long name is not looked at, and what stands there is
hidden.  So a configuration and the same without its blank parameters agree unless something is
hidden: the files of certificates and keys that are hidden are lost, and instead of a mode that is
hidden the connection prefers security, whatever was asked for.
-/
import BulkValues.Postgres.Tls
import BulkValues.Proofs.Except
import BulkValues.Proofs.Params

namespace BulkValues.Postgres.TlsSettings

open BulkValues.Text

/-- The names of the parameters, each with its short and its long one. -/
def names : List (String × String) :=
  [("sslmode", "ssl_mode"), ("sslrootcert", "ssl_ca_cert"), ("sslcert", "ssl_client_cert"),
    ("sslkey", "ssl_client_key")]

/-- Whether a parameter is one of transport security that is blank. -/
def isBlankSetting (c : ConnectionConfig) (key : String) : Bool :=
  (names.any fun pair => pair.1 == key || pair.2 == key) && (c.params.get? key).any allBlank

/-- A configuration without the blank parameters of transport security. -/
def withoutBlank (c : ConnectionConfig) : ConnectionConfig :=
  { c with params := c.params.filter fun key => !isBlankSetting c key }

/-- The text under a long name that is hidden by a blank one under the short name. -/
def hidden? (c : ConnectionConfig) (short long : String) : Option String :=
  if (c.get? short).any allBlank then (c.get? long).filter fun text => !allBlank text else none

/-- The mode of a configuration. -/
def modeOf (c : ConnectionConfig) : Except TlsError TlsMode :=
  match lookup c "sslmode" "ssl_mode" with
  | some text => TlsMode.read text
  | none => .ok .prefer

variable {c : ConnectionConfig} {short long key text : String} {mode mode' : TlsMode} {e : TlsError}

lemma ofConfig_eq (c : ConnectionConfig) : ofConfig c = (modeOf c).map fun mode =>
    ⟨mode, lookup c "sslrootcert" "ssl_ca_cert", lookup c "sslcert" "ssl_client_cert",
      lookup c "sslkey" "ssl_client_key"⟩ := by
  rw [ofConfig, modeOf]
  cases lookup c "sslmode" "ssl_mode" with
  | none => rfl
  | some text =>
    dsimp only
    cases TlsMode.read text <;> rfl

lemma ofConfig_of_modeOf_error (h : modeOf c = .error e) : ofConfig c = .error e := by
  rw [ofConfig_eq, h]
  rfl

lemma ofConfig_ne_error (h : modeOf c = .ok mode) (e : TlsError) : ofConfig c ≠ .error e := by
  rw [ofConfig_eq, h]
  exact nofun

/-! ## One parameter -/

/-- Without blank parameters, what is there under the names is not blank. -/
lemma get?_withoutBlank (hkey : (names.any fun pair => pair.1 == key || pair.2 == key) = true)
    (hfield : c.field? key = none) :
    (withoutBlank c).get? key = (c.get? key).filter fun text => !allBlank text := by
  have hfield' : (withoutBlank c).field? key = none := hfield
  rw [ConnectionConfig.get?, ConnectionConfig.get?, hfield, hfield', Option.or_none, Option.or_none,
    withoutBlank, Params.get?_filter, isBlankSetting, hkey, Bool.true_and]
  cases c.params.get? key with
  | none => simp
  | some text => cases h : allBlank text <;> simp [h, Option.filter_some]

/-- Without blank parameters, what was hidden is found, and otherwise what was found before. -/
lemma lookup_withoutBlank (h : (short, long) ∈ names) :
    lookup (withoutBlank c) short long = (hidden? c short long).or (lookup c short long) := by
  have hpair : (withoutBlank c).get? short = (c.get? short).filter (fun text => !allBlank text) ∧
      (withoutBlank c).get? long = (c.get? long).filter fun text => !allBlank text := by
    simp only [names, List.mem_cons, Prod.mk.injEq, List.not_mem_nil, or_false] at h
    rcases h with ⟨rfl, rfl⟩ | ⟨rfl, rfl⟩ | ⟨rfl, rfl⟩ | ⟨rfl, rfl⟩ <;>
      exact ⟨get?_withoutBlank rfl rfl, get?_withoutBlank rfl rfl⟩
  rw [lookup, hpair.1, hpair.2, hidden?, lookup]
  cases c.get? short with
  | none => cases c.get? long <;> simp
  | some text =>
    cases hblank : allBlank text with
    | false => simp [hblank, Option.filter_some]
    | true => simp [hblank, Option.filter_some]

lemma lookup_eq_none_of_hidden? (h : hidden? c short long = some text) :
    lookup c short long = none := by
  rw [hidden?] at h
  rw [lookup]
  cases hshort : c.get? short with
  | none => simp [hshort] at h
  | some found =>
    cases hblank : allBlank found <;> simp_all [Option.filter_some]

/-- A parameter is the same without blank parameters if nothing is hidden. -/
lemma lookup_withoutBlank_eq_iff (h : (short, long) ∈ names) :
    lookup (withoutBlank c) short long = lookup c short long ↔ hidden? c short long = none := by
  rw [lookup_withoutBlank h]
  cases hhidden : hidden? c short long with
  | none => simp
  | some text => simp [lookup_eq_none_of_hidden? hhidden]

/-! ## All parameters -/

/-- With the same mode, the files decide. -/
lemma ofConfig_withoutBlank_of_modeOf (h : modeOf c = .ok mode)
    (h' : modeOf (withoutBlank c) = .ok mode') : ofConfig (withoutBlank c) = ofConfig c ↔
      mode' = mode ∧ hidden? c "sslrootcert" "ssl_ca_cert" = none ∧
        hidden? c "sslcert" "ssl_client_cert" = none ∧
        hidden? c "sslkey" "ssl_client_key" = none := by
  rw [ofConfig_eq, ofConfig_eq, h, h', Except.map, Except.map, Except.ok.injEq,
    TlsSettings.mk.injEq, lookup_withoutBlank_eq_iff (by decide),
    lookup_withoutBlank_eq_iff (by decide), lookup_withoutBlank_eq_iff (by decide)]

/-- Leaving out the blank parameters of transport security changes nothing exactly if the mode that
was found cannot be read, or nothing is hidden, except that a hidden mode may ask for what is
preferred anyway.  Without them every parameter is the one that was hidden, or else the one that was
there; and where one is hidden, none is there. -/
theorem ofConfig_withoutBlank_iff (c : ConnectionConfig) :
    (∀ short long, (short, long) ∈ names →
      lookup (withoutBlank c) short long = (hidden? c short long).or (lookup c short long) ∧
      ∀ text, hidden? c short long = some text → lookup c short long = none) ∧
    (ofConfig (withoutBlank c) = ofConfig c ↔
      (∃ e, ofConfig c = .error e) ∨
        (∀ text, hidden? c "sslmode" "ssl_mode" = some text → TlsMode.read text = .ok .prefer) ∧
        hidden? c "sslrootcert" "ssl_ca_cert" = none ∧
        hidden? c "sslcert" "ssl_client_cert" = none ∧
        hidden? c "sslkey" "ssl_client_key" = none) := by
  refine ⟨fun short long h => ⟨lookup_withoutBlank h, fun _ => lookup_eq_none_of_hidden?⟩, ?_⟩
  have hlookup : lookup (withoutBlank c) "sslmode" "ssl_mode" =
      (hidden? c "sslmode" "ssl_mode").or (lookup c "sslmode" "ssl_mode") :=
    lookup_withoutBlank (by decide)
  cases hhidden : hidden? c "sslmode" "ssl_mode" with
  | none =>
    have hmode : modeOf (withoutBlank c) = modeOf c := by
      rw [modeOf, modeOf, hlookup, hhidden, Option.none_or]
    cases hfound : modeOf c with
    | error e =>
      have hbefore := ofConfig_of_modeOf_error hfound
      have hafter := ofConfig_of_modeOf_error (hmode.trans hfound)
      simp [hbefore, hafter]
    | ok mode =>
      rw [ofConfig_withoutBlank_of_modeOf hfound (hmode.trans hfound)]
      simp [ofConfig_ne_error hfound]
  -- No mode was found before, so security was preferred.
  | some text =>
    have hfound : modeOf c = .ok .prefer := by rw [modeOf, lookup_eq_none_of_hidden? hhidden]
    have hmode : modeOf (withoutBlank c) = TlsMode.read text := by
      rw [modeOf, hlookup, hhidden, Option.some_or]
    have hbefore := ofConfig_ne_error hfound
    cases hread : TlsMode.read text with
    | error e =>
      have hafter := ofConfig_of_modeOf_error (hmode.trans hread)
      simp [hafter, hbefore, (hbefore e).symm, hread]
    | ok mode =>
      rw [ofConfig_withoutBlank_of_modeOf hfound (hmode.trans hread)]
      simp [hbefore, hread]

/-- A mode and an authority's certificate are asked for under the long names, and blank texts stand
under the short ones: the connection prefers security and checks nothing. -/
theorem blank_parameters_hide :
    let c := ((((ConnectionConfig.forServer "db" 5432 "app" "svc").withParam "sslmode" "").withParam
      "ssl_mode" "verify-full").withParam "sslrootcert" " ").withParam "ssl_ca_cert" "/ca.pem"
    ofConfig c = .ok ⟨.prefer, none, none, none⟩ ∧
      ofConfig (withoutBlank c) = .ok ⟨.verifyFull, some "/ca.pem", none, none⟩ := by
  decide +kernel

end BulkValues.Postgres.TlsSettings
