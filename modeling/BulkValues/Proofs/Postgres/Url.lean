/-
# URLs of servers

A URL names a user, perhaps a password, a host, a port and a database.  Signs divide it: the
authority goes up to a slash, a question mark or a number sign, a user and a password with a colon
between them stand in front of an at sign, a port stands behind a colon, and a host with colons in
it stands in brackets.  Where a part has a sign that would divide it, the sign is escaped.

However the parts of an address are written, the URL is read as that address if every part by itself
is read as it was meant and has no sign that divides it.
-/
import BulkValues.Postgres.Server
import BulkValues.Proofs.Number.Digits
import BulkValues.Proofs.Text.Percent

namespace BulkValues.Postgres

open BulkValues.Number BulkValues.Text

/-- What a URL says of a server. -/
structure Address where
  /-- The user, if one is named. -/
  user : Option String
  /-- The password, if there is one. -/
  password : Option String
  /-- The host. -/
  host : String
  /-- The port. -/
  port : Nat
  /-- The database. -/
  database : String
deriving DecidableEq

/-- The part of a server's description that a URL is about. -/
def Server.address (s : Server) : Address := ⟨s.user, s.password, s.host, s.port, s.database⟩

namespace Url

/-! ## Reading -/

/-- Whether a character is none of some signs. -/
def isFree (signs : List Char) (c : Char) : Bool := !signs.contains c

/-- What a URL begins with. -/
def scheme : List Char := "postgresql://".toList

/-- A user, and perhaps a password behind a colon. -/
def readLogin? (cs : List Char) : Option (String × Option String) :=
  (readEscaped? (cs.takeWhile (isFree [':']))).bind fun user =>
    match cs.dropWhile (isFree [':']) with
    | [] => some (user, none)
    | _ :: password => (readEscaped? password).map fun password => (user, some password)

/-- A port behind a colon; without one it is the usual port. -/
def readPort? : List Char → Option Nat
  | [] => some defaultPort
  | ':' :: digits => readDigits? digits
  | _ => none

/-- A host and a port, one by one. -/
def readEndpoint? (host port : List Char) : Option (String × Nat) :=
  (readEscaped? host).bind fun host => (readPort? port).map fun port => (host, port)

/-- A host and a port.  The host is in brackets, or it has none and no colon. -/
def readHost? (cs : List Char) : Option (String × Nat) :=
  match cs with
  | '[' :: rest =>
    match rest.dropWhile (isFree [']']) with
    | [] => none
    | _ :: port => readEndpoint? (rest.takeWhile (isFree [']'])) port
  | _ =>
    let host := cs.takeWhile (isFree [':'])
    if host.all (isFree ['[', ']']) then readEndpoint? host (cs.dropWhile (isFree [':'])) else none

/-- A host and a port, and perhaps a user and a password in front of the only at sign. -/
def readAuthority? (cs : List Char) : Option (Option (String × Option String) × String × Nat) :=
  match cs.dropWhile (isFree ['@']) with
  | [] => (readHost? cs).map fun found => (none, found)
  | _ :: rest =>
    if rest.all (isFree ['@']) then
      (readLogin? (cs.takeWhile (isFree ['@']))).bind fun login =>
        (readHost? rest).map fun found => (some login, found)
    else none

/-- What a URL says of a server: the authority, and the database behind a slash. -/
def read? (url : String) : Option Address :=
  if scheme <+: url.toList then
    let cs := url.toList.drop scheme.length
    (readAuthority? (cs.takeWhile (isFree ['/', '?', '#']))).bind fun (login, host, port) =>
      let path := (cs.dropWhile (isFree ['/', '?', '#'])).takeWhile (isFree ['?', '#'])
      (readEscaped? path.tail).map fun database =>
        ⟨login.map (·.1), login.bind (·.2), host, port, database⟩
  else none

/-! ## Writing -/

/-- The signs that divide a user. -/
def userSigns : List Char := [':', '@', '/', '?', '#']

/-- The signs that divide a password. -/
def passwordSigns : List Char := ['@', '/', '?', '#']

/-- The signs that divide a host, and the brackets around one. -/
def hostSigns : List Char := [':', '@', '/', '?', '#', '[', ']']

/-- The signs that divide a database. -/
def databaseSigns : List Char := ['?', '#']

/-- A user, and a password behind a colon if there is one. -/
def credentials (user : List Char) (password : Option (List Char)) : List Char :=
  user ++ password.elim [] (':' :: ·)

/-- A login in front of a host.  How a text is written depends on the signs that would divide it. -/
def writeLogin (part : List Char → String → List Char) (user password : Option String) :
    List Char :=
  match user with
  | none => []
  | some user => credentials (part userSigns user) (password.map (part passwordSigns)) ++ ['@']

/-- The authority of an address. -/
def writeAuthority (part : List Char → String → List Char) (a : Address) : List Char :=
  writeLogin part a.user a.password ++ (part hostSigns a.host ++ ':' :: Nat.toDigits 10 a.port)

/-- The URL of an address. -/
def write (part : List Char → String → List Char) (a : Address) : List Char :=
  scheme ++ (writeAuthority part a ++ '/' :: part databaseSigns a.database)

/-- A text as it is. -/
def asIs (_signs : List Char) (text : String) : List Char := text.toList

/-- A text with its signs escaped, and the sign that escapes begin with. -/
def escaped (signs : List Char) (text : String) : List Char := escape ('%' :: signs) text.toList

/-- The proper URL of an address: in every part its signs are escaped. -/
def properUrl (a : Address) : String := String.ofList (write escaped a)

/-- A text without some signs. -/
def Lacks (signs : List Char) (text : String) : Prop := ∀ c ∈ text.toList, c ∉ signs

lemma isFree_iff {signs : List Char} {c : Char} : isFree signs c = true ↔ c ∉ signs := by
  simp [isFree]

instance (signs : List Char) (text : String) : Decidable (Lacks signs text) :=
  decidable_of_iff (text.toList.all (isFree signs) = true) (by
    simp only [Lacks, List.all_eq_true, isFree_iff])

/-- An address whose parts can stand in a URL as they are. -/
structure IsPlain (a : Address) : Prop where
  user : ∀ user ∈ a.user, Lacks ('%' :: userSigns) user
  password : ∀ password ∈ a.password, a.user ≠ none ∧ Lacks ('%' :: passwordSigns) password
  host : Lacks ('%' :: hostSigns) a.host
  database : Lacks ('%' :: databaseSigns) a.database

instance (a : Address) : Decidable (IsPlain a) :=
  decidable_of_iff ((∀ user ∈ a.user, Lacks ('%' :: userSigns) user) ∧
    (∀ password ∈ a.password, a.user ≠ none ∧ Lacks ('%' :: passwordSigns) password) ∧
    Lacks ('%' :: hostSigns) a.host ∧ Lacks ('%' :: databaseSigns) a.database)
    ⟨fun ⟨huser, hpassword, hhost, hdatabase⟩ => ⟨huser, hpassword, hhost, hdatabase⟩,
      fun ⟨huser, hpassword, hhost, hdatabase⟩ => ⟨huser, hpassword, hhost, hdatabase⟩⟩

/-! ## What is written is read -/

variable {c : Char} {signs cs w rest raw digits : List Char} {text user host : String}
  {password : Option String} {port : ℕ} {a : Address} {part : List Char → String → List Char}

/-- A character that is none of some signs is none of those that are picked from them. -/
lemma isFree_of_all {picked : List Char} (hpicked : picked.all signs.contains = true)
    (h : isFree signs c = true) : isFree picked c = true := by
  rw [isFree_iff] at h ⊢
  exact fun hmem => h (List.contains_iff_mem.mp (List.all_eq_true.mp hpicked c hmem))

lemma isFree_append {more : List Char} :
    isFree (signs ++ more) c = true ↔ isFree signs c = true ∧ isFree more c = true := by
  simp only [isFree_iff, List.mem_append, not_or]

/-- Reading up to a sign. -/
lemma split_at_sign (hw : ∀ c ∈ w, isFree signs c = true) (hc : c ∈ signs) (rest : List Char) :
    (w ++ c :: rest).takeWhile (isFree signs) = w ∧
      (w ++ c :: rest).dropWhile (isFree signs) = c :: rest := by
  have hstops : StopsAt (isFree signs) (c :: rest) := stopsAt_cons (by simpa [isFree] using hc) rest
  exact ⟨takeWhile_append_of_stopsAt hw hstops, dropWhile_append_of_stopsAt hw hstops⟩

lemma readLogin?_credentials {user : List Char} (h : ∀ c ∈ user, isFree [':'] c = true)
    (password : Option (List Char)) :
    readLogin? (credentials user password) = (readEscaped? user).bind fun user =>
      password.elim (some (user, none)) fun password =>
        (readEscaped? password).map fun password => (user, some password) := by
  cases password with
  | none =>
    have hall : credentials user none = user := List.append_nil user
    have hdrop := dropWhile_append_of_stopsAt h (stopsAt_nil _)
    rw [List.append_nil] at hdrop
    rw [hall, readLogin?, List.takeWhile_eq_self_iff.mpr h, hdrop]
    rfl
  | some password =>
    obtain ⟨htake, hdrop⟩ := split_at_sign h (List.mem_singleton_self ':') password
    have hall : credentials user (some password) = user ++ ':' :: password := rfl
    rw [hall, readLogin?, htake, hdrop]
    rfl

lemma readHost?_append {host : List Char} (hcolon : ∀ c ∈ host, isFree [':'] c = true)
    (hbrackets : ∀ c ∈ host, isFree ['[', ']'] c = true) (digits : List Char) :
    readHost? (host ++ ':' :: digits) = readEndpoint? host (':' :: digits) := by
  obtain ⟨htake, hdrop⟩ := split_at_sign hcolon (List.mem_singleton_self ':') digits
  rw [readHost?.eq_def]
  split
  · rename_i rest hrest
    cases host with
    | nil => cases hrest
    | cons c host =>
      cases hrest
      exact absurd (hbrackets '[' List.mem_cons_self) (by decide)
  · dsimp only
    rw [htake, if_pos (List.all_eq_true.mpr hbrackets), hdrop]

lemma readAuthority?_of_free (h : ∀ c ∈ cs, isFree ['@'] c = true) :
    readAuthority? cs = (readHost? cs).map fun found => (none, found) := by
  have hdrop := dropWhile_append_of_stopsAt h (stopsAt_nil _)
  rw [List.append_nil] at hdrop
  rw [readAuthority?, hdrop]

lemma readAuthority?_append (hw : ∀ c ∈ w, isFree ['@'] c = true)
    (hrest : ∀ c ∈ rest, isFree ['@'] c = true) :
    readAuthority? (w ++ '@' :: rest) = (readLogin? w).bind fun login =>
      (readHost? rest).map fun found => (some login, found) := by
  obtain ⟨htake, hdrop⟩ := split_at_sign hw (List.mem_singleton_self '@') rest
  rw [readAuthority?, htake, hdrop]
  exact if_pos (List.all_eq_true.mpr hrest)

/-- A way of writing a text that is read as the text and has none of the signs that divide it. -/
structure Readable (signs raw : List Char) (text : String) : Prop where
  read : readEscaped? raw = some text
  free : ∀ c ∈ raw, c ∉ signs

lemma Readable.isFree (h : Readable signs raw text) {picked : List Char}
    (hpicked : picked.all signs.contains = true) : ∀ c ∈ raw, isFree picked c = true :=
  fun c hc => isFree_of_all hpicked (isFree_iff.mpr (h.free c hc))

/-- A text can be written as it is exactly if it has no sign that divides it or escapes. -/
lemma readable_asIs_iff : Readable signs (asIs signs text) text ↔ Lacks ('%' :: signs) text := by
  constructor
  · intro h c hc hmem
    rcases List.mem_cons.mp hmem with rfl | hmem
    · exact readEscaped?_toList_iff.mp h.read hc
    · exact h.free c hc hmem
  · intro h
    exact ⟨readEscaped?_toList_iff.mpr fun hmem => h '%' hmem List.mem_cons_self,
      fun c hc hmem => h c hc (List.mem_cons_of_mem _ hmem)⟩

/-- A text can always be written with its signs escaped. -/
lemma readable_escaped (hsigns : signs.all (fun c => c != '%' && (hexValue? c).isNone) = true)
    (text : String) : Readable signs (escaped signs text) text := by
  refine ⟨readEscaped?_escape List.mem_cons_self text, fun c hc hmem => ?_⟩
  obtain ⟨hne, hdigit⟩ := Bool.and_eq_true_iff.mp (List.all_eq_true.mp hsigns c hmem)
  exact not_mem_escape (List.mem_cons_of_mem _ hmem) (bne_iff_ne.mp hne)
    (Option.isNone_iff_eq_none.mp hdigit) text.toList hc

/-- The digits of a port have no signs. -/
lemma isFree_toDigits (hsigns : signs.any isAsciiDigit = false) (n : ℕ) :
    ∀ c ∈ Nat.toDigits 10 n, isFree signs c = true := by
  intro c hc
  rw [isFree_iff]
  intro hmem
  have hdigit := isAsciiDigit_of_mem_toDigits hc
  rw [eq_false_of_any hsigns c hmem] at hdigit
  cases hdigit

/-- A way of writing that every part of an address can be read in. -/
structure Legible (part : List Char → String → List Char) (a : Address) : Prop where
  user : ∀ user ∈ a.user, Readable userSigns (part userSigns user) user
  password : ∀ password ∈ a.password,
    a.user ≠ none ∧ Readable passwordSigns (part passwordSigns password) password
  host : Readable hostSigns (part hostSigns a.host) a.host
  database : Readable databaseSigns (part databaseSigns a.database) a.database

lemma legible_asIs_iff : Legible asIs a ↔ IsPlain a := by
  constructor
  · rintro ⟨huser, hpassword, hhost, hdatabase⟩
    exact ⟨fun user h => readable_asIs_iff.mp (huser user h),
      fun password h => ⟨(hpassword password h).1, readable_asIs_iff.mp (hpassword password h).2⟩,
      readable_asIs_iff.mp hhost, readable_asIs_iff.mp hdatabase⟩
  · rintro ⟨huser, hpassword, hhost, hdatabase⟩
    exact ⟨fun user h => readable_asIs_iff.mpr (huser user h),
      fun password h => ⟨(hpassword password h).1, readable_asIs_iff.mpr (hpassword password h).2⟩,
      readable_asIs_iff.mpr hhost, readable_asIs_iff.mpr hdatabase⟩

lemma legible_escaped (h : a.password ≠ none → a.user ≠ none) : Legible escaped a where
  user user _ := readable_escaped rfl user
  password password hmem :=
    ⟨h (by simp [Option.mem_def.mp hmem]), readable_escaped rfl password⟩
  host := readable_escaped rfl a.host
  database := readable_escaped rfl a.database

lemma readHost?_write (h : Legible part a) :
    readHost? (part hostSigns a.host ++ ':' :: Nat.toDigits 10 a.port) = some (a.host, a.port) := by
  rw [readHost?_append (h.host.isFree rfl) (h.host.isFree rfl), readEndpoint?,
    h.host.read, readPort?, readDigits?_toDigits]
  rfl

lemma readLogin?_write (h : Legible part a) (huser : a.user = some user) :
    readLogin? (credentials (part userSigns user) (a.password.map (part passwordSigns))) =
      some (user, a.password) := by
  have hname := h.user user huser
  rw [readLogin?_credentials (hname.isFree rfl), hname.read]
  cases hpassword : a.password with
  | none => rfl
  | some password =>
    rw [Option.map_some, Option.bind_some, Option.elim_some,
      (h.password password hpassword).2.read, Option.map_some]

/-- The host and the port have none of the signs around them. -/
lemma free_host (h : Legible part a) :
    ∀ c ∈ part hostSigns a.host ++ ':' :: Nat.toDigits 10 a.port,
      isFree (['@'] ++ ['/', '?', '#']) c = true :=
  List.forall_mem_append.mpr ⟨h.host.isFree rfl,
    List.forall_mem_cons.mpr ⟨rfl, isFree_toDigits rfl a.port⟩⟩

/-- The user and the password have none of the signs behind them. -/
lemma free_credentials (h : Legible part a) (huser : a.user = some user) :
    ∀ c ∈ credentials (part userSigns user) (a.password.map (part passwordSigns)),
      isFree (['@'] ++ ['/', '?', '#']) c = true := by
  refine List.forall_mem_append.mpr ⟨(h.user user huser).isFree rfl, ?_⟩
  cases hpassword : a.password with
  | none => exact nofun
  | some password =>
    exact List.forall_mem_cons.mpr ⟨rfl, (h.password password hpassword).2.isFree rfl⟩

/-- The authority of a URL in which every part can be read. -/
lemma readAuthority?_write (h : Legible part a) :
    readAuthority? (writeAuthority part a) =
      some (a.user.map fun user => (user, a.password), a.host, a.port) := by
  have hhost : ∀ c ∈ part hostSigns a.host ++ ':' :: Nat.toDigits 10 a.port,
      isFree ['@'] c = true := fun c hc => (isFree_append.mp (free_host h c hc)).1
  cases huser : a.user with
  | none =>
    rw [writeAuthority, huser, writeLogin, List.nil_append, readAuthority?_of_free hhost,
      readHost?_write h]
    rfl
  | some user =>
    have hlogin : ∀ c ∈ credentials (part userSigns user) (a.password.map (part passwordSigns)),
        isFree ['@'] c = true := fun c hc => (isFree_append.mp (free_credentials h huser c hc)).1
    rw [writeAuthority, huser, writeLogin, List.append_assoc, List.singleton_append,
      readAuthority?_append hlogin hhost, readLogin?_write h huser, readHost?_write h]
    rfl

lemma free_writeAuthority (h : Legible part a) :
    ∀ c ∈ writeAuthority part a, isFree ['/', '?', '#'] c = true := by
  refine List.forall_mem_append.mpr
    ⟨?_, fun c hc => (isFree_append.mp (free_host h c hc)).2⟩
  cases huser : a.user with
  | none => exact nofun
  | some user =>
    rw [writeLogin]
    exact List.forall_mem_append.mpr
      ⟨fun c hc => (isFree_append.mp (free_credentials h huser c hc)).2,
        List.forall_mem_singleton.mpr rfl⟩

/-- A URL in which every part can be read is read as its address. -/
lemma read?_write (h : Legible part a) : read? (String.ofList (write part a)) = some a := by
  obtain ⟨htake, hdrop⟩ := split_at_sign (free_writeAuthority h) (List.mem_cons_self ..)
    (part databaseSigns a.database)
  have hpath : ∀ c ∈ '/' :: part databaseSigns a.database, isFree ['?', '#'] c = true :=
    List.forall_mem_cons.mpr ⟨rfl, h.database.isFree rfl⟩
  rw [read?, String.toList_ofList, write, if_pos (List.prefix_append ..), List.drop_left]
  dsimp only
  rw [htake, hdrop, readAuthority?_write h, List.takeWhile_eq_self_iff.mpr hpath, List.tail_cons,
    Option.bind_some, h.database.read, Option.map_some]
  -- An address without a user has no password either.
  obtain ⟨user, password, host, port, database⟩ := a
  cases user with
  | some user => rfl
  | none =>
    cases password with
    | none => rfl
    | some password => exact absurd rfl (h.password password rfl).1

end Url

end BulkValues.Postgres
