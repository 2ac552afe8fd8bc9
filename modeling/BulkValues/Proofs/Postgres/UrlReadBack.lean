/-
# The URL of a configuration read back

The URL of a configuration has all parts as they are.  It is read as the server of the configuration
exactly if no part has a sign that divides it or begins an escape, and there is no password without
a user, which the URL leaves out.  All other URLs are read as another server or not at all, and two
configurations with different servers may have one URL.
-/
import BulkValues.Proofs.Except
import BulkValues.Proofs.Postgres.Url

namespace BulkValues.Postgres.Url

open BulkValues.Number BulkValues.Text

variable {c : Char} {signs cs w rest : List Char} {user host : String} {password : Option String}
  {port : ℕ} {a : Address}

/-! ## What is read as it was meant

Reading takes no more of a text than is there: the parts that are read have together no more bytes
than the text.  So if a part is read as it was meant, all of it was taken, and it has none of the
signs at which reading would have stopped. -/

lemma byteCount_le_of_readLogin? (h : readLogin? cs = some (user, password)) :
    byteCount (credentials user.toList (password.map String.toList)) ≤ byteCount cs := by
  obtain ⟨name, hname, hrest⟩ := Option.bind_eq_some_iff.mp h
  have hle := byteCount_le_of_readEscaped? hname
  have hsplit := congrArg byteCount (cs.takeWhile_append_dropWhile (p := isFree [':']))
  rw [byteCount_append] at hsplit
  split at hrest
  · cases hrest
    simp only [credentials, Option.map_none, Option.elim_none, byteCount_append, byteCount_nil]
    omega
  · rename_i c secret hdrop
    obtain ⟨word, hword, heq⟩ := Option.map_eq_some_iff.mp hrest
    cases heq
    have hle' := byteCount_le_of_readEscaped? hword
    have hpos := length_utf8EncodeChar_pos c
    have hcolon : (String.utf8EncodeChar ':').length = 1 := rfl
    rw [hdrop, byteCount_cons] at hsplit
    simp only [credentials, Option.map_some, Option.elim_some, byteCount_append, byteCount_cons]
    omega

lemma readEscaped?_of_readEndpoint? {name digits : List Char}
    (h : readEndpoint? name digits = some (host, port)) : readEscaped? name = some host := by
  obtain ⟨text, htext, hport⟩ := Option.bind_eq_some_iff.mp h
  obtain ⟨_, -, heq⟩ := Option.map_eq_some_iff.mp hport
  cases heq
  exact htext

lemma byteCount_le_of_readHost? (h : readHost? cs = some (host, port)) :
    byteCount host.toList ≤ byteCount cs := by
  rw [readHost?.eq_def] at h
  split at h
  · rename_i rest
    split at h
    · cases h
    · have hle := byteCount_le_of_readEscaped? (readEscaped?_of_readEndpoint? h)
      have htake := byteCount_takeWhile_le (isFree [']']) rest
      rw [byteCount_cons]
      omega
  · dsimp only at h
    split at h
    · exact (byteCount_le_of_readEscaped? (readEscaped?_of_readEndpoint? h)).trans
        (byteCount_takeWhile_le _ cs)
    · cases h

lemma byteCount_le_of_readAuthority?
    (h : readAuthority? cs = some (a.user.map fun user => (user, a.password), a.host, a.port)) :
    byteCount (writeLogin asIs a.user a.password ++ a.host.toList) ≤ byteCount cs := by
  rw [readAuthority?] at h
  split at h
  · obtain ⟨found, hfound, heq⟩ := Option.map_eq_some_iff.mp h
    obtain ⟨huser, rfl⟩ := Prod.mk.inj heq
    rw [Option.map_eq_none_iff.mp huser.symm]
    exact byteCount_le_of_readHost? hfound
  · rename_i c rest hdrop
    split at h
    · obtain ⟨login, hlogin, hrest⟩ := Option.bind_eq_some_iff.mp h
      obtain ⟨found, hfound, heq⟩ := Option.map_eq_some_iff.mp hrest
      obtain ⟨hlogin', rfl⟩ := Prod.mk.inj heq
      obtain ⟨user, huser, rfl⟩ := Option.map_eq_some_iff.mp hlogin'.symm
      have hle := byteCount_le_of_readLogin? hlogin
      have hle' := byteCount_le_of_readHost? hfound
      have hpos := length_utf8EncodeChar_pos c
      have hsign : byteCount ['@'] = 1 := rfl
      have hsplit := congrArg byteCount (cs.takeWhile_append_dropWhile (p := isFree ['@']))
      rw [hdrop, byteCount_append, byteCount_cons] at hsplit
      have hwrite : writeLogin asIs a.user a.password =
          credentials user.toList (a.password.map String.toList) ++ ['@'] := by
        rw [huser]
        rfl
      rw [hwrite, byteCount_append, byteCount_append, hsign]
      omega
    · cases h

/-! ### The parts of an authority -/

lemma of_readLogin? (h : readLogin? (credentials user.toList (password.map String.toList)) =
      some (user, password)) :
    readEscaped? user.toList = some user ∧ (∀ c ∈ user.toList, isFree [':'] c = true) ∧
      ∀ secret ∈ password, readEscaped? secret.toList = some secret := by
  obtain ⟨name, hname, hrest⟩ := Option.bind_eq_some_iff.mp h
  have hfree : ∀ c ∈ user.toList, isFree [':'] c = true := by
    have heq : name = user := by
      split at hrest
      · cases hrest
        rfl
      · obtain ⟨_, -, heq⟩ := Option.map_eq_some_iff.mp hrest
        cases heq
        rfl
    rw [heq] at hname
    exact forall_of_byteCount_le (byteCount_le_of_readEscaped? hname)
  rw [readLogin?_credentials hfree] at h
  obtain ⟨name, hname, hrest⟩ := Option.bind_eq_some_iff.mp h
  cases password with
  | none =>
    cases hrest
    exact ⟨hname, hfree, fun _ hmem => absurd hmem (Option.not_mem_none _)⟩
  | some secret =>
    obtain ⟨word, hword, heq⟩ := Option.map_eq_some_iff.mp hrest
    cases heq
    exact ⟨hname, hfree, fun _ hmem => Option.mem_some_iff.mp hmem ▸ hword⟩

/-- A host that begins with a bracket would be read without it. -/
lemma ne_of_readHost?_bracket {name : List Char}
    (h : readHost? ('[' :: (name ++ ':' :: Nat.toDigits 10 port)) = some (host, port)) :
    host.toList ≠ '[' :: name := by
  intro heq
  rw [readHost?] at h
  split at h
  · cases h
  · rename_i c digits hdrop
    have hle := byteCount_le_of_readEscaped? (readEscaped?_of_readEndpoint? h)
    have hname_le : byteCount name ≤
        byteCount ((name ++ ':' :: Nat.toDigits 10 port).takeWhile (isFree [']'])) := by
      rw [heq, byteCount_cons] at hle
      omega
    have hfree : ∀ c ∈ name, isFree [']'] c = true := forall_of_byteCount_le hname_le
    have hall : ∀ c ∈ name ++ ':' :: Nat.toDigits 10 port, isFree [']'] c = true :=
      List.forall_mem_append.mpr ⟨hfree, List.forall_mem_cons.mpr ⟨rfl, isFree_toDigits rfl port⟩⟩
    rw [List.dropWhile_eq_nil_iff.mpr hall] at hdrop
    cases hdrop

lemma of_readHost?
    (h : readHost? (host.toList ++ ':' :: Nat.toDigits 10 port) = some (host, port)) :
    readEscaped? host.toList = some host ∧ (∀ c ∈ host.toList, isFree [':'] c = true) ∧
      ∀ c ∈ host.toList, isFree ['[', ']'] c = true := by
  have hbracket : ∀ name, host.toList ≠ '[' :: name := by
    intro name heq
    rw [heq] at h
    exact ne_of_readHost?_bracket h heq
  rw [readHost?.eq_def] at h
  split at h
  · rename_i rest hrest
    cases hname : host.toList with
    | nil =>
      rw [hname] at hrest
      cases hrest
    | cons c name =>
      rw [hname] at hrest
      cases hrest
      exact absurd hname (hbracket name)
  · dsimp only at h
    split at h
    · rename_i hbrackets
      have hread := readEscaped?_of_readEndpoint? h
      have hfree : ∀ c ∈ host.toList, isFree [':'] c = true :=
        forall_of_byteCount_le (byteCount_le_of_readEscaped? hread)
      rw [(split_at_sign hfree (List.mem_singleton_self ':') _).1] at hread hbrackets
      exact ⟨hread, hfree, List.all_eq_true.mp hbrackets⟩
    · cases h

/-- A text has only one place for a sign that is neither before nor behind it. -/
lemma sign_unique {w' rest' : List Char} {d : Char} (heq : w ++ c :: rest = w' ++ d :: rest')
    (hc : isFree signs c = false) (hw : ∀ c ∈ w', isFree signs c = true)
    (hrest : ∀ c ∈ rest', isFree signs c = true) : w = w' ∧ rest = rest' := by
  induction w generalizing w' with
  | nil =>
    cases w' with
    | nil => exact ⟨rfl, (List.cons.inj heq).2⟩
    | cons e w' =>
      obtain ⟨rfl, -⟩ := List.cons.inj heq
      rw [hw c List.mem_cons_self] at hc
      cases hc
  | cons e w ih =>
    cases w' with
    | nil =>
      have hmem : c ∈ rest' := (List.cons.inj heq).2 ▸ List.mem_append_right w List.mem_cons_self
      rw [hrest c hmem] at hc
      cases hc
    | cons e' w' =>
      obtain ⟨rfl, htail⟩ := List.cons.inj heq
      obtain ⟨rfl, hbehind⟩ := ih htail fun c hc => hw c (List.mem_cons_of_mem e hc)
      exact ⟨rfl, hbehind⟩

/-- If an authority with an at sign is read, it has no other. -/
lemma only_sign_of_readAuthority? {found : Option (String × Option String) × String × ℕ}
    (h : readAuthority? (w ++ '@' :: rest) = some found) :
    (∀ c ∈ w, isFree ['@'] c = true) ∧ ∀ c ∈ rest, isFree ['@'] c = true := by
  rw [readAuthority?] at h
  split at h
  · rename_i hdrop
    have hat := List.dropWhile_eq_nil_iff.mp hdrop '@' (List.mem_append_right w List.mem_cons_self)
    cases hat
  · rename_i c behind hdrop
    split at h
    · rename_i hbehind
      have hsplit := (w ++ '@' :: rest).takeWhile_append_dropWhile (p := isFree ['@'])
      rw [hdrop] at hsplit
      obtain ⟨hw, hrest⟩ := sign_unique hsplit.symm rfl (fun _ => List.mem_takeWhile_imp)
        (List.all_eq_true.mp hbehind)
      rw [← hrest] at hbehind
      exact ⟨fun c hc => List.mem_takeWhile_imp (hw ▸ hc), List.all_eq_true.mp hbehind⟩
    · cases h

/-- An authority that is read without a login has no at sign. -/
lemma no_sign_of_readAuthority? {found : String × ℕ} (h : readAuthority? cs = some (none, found)) :
    ∀ c ∈ cs, isFree ['@'] c = true := by
  rw [readAuthority?] at h
  split at h
  · exact List.dropWhile_eq_nil_iff.mp ‹_›
  · split at h
    · obtain ⟨_, -, hrest⟩ := Option.bind_eq_some_iff.mp h
      obtain ⟨_, -, heq⟩ := Option.map_eq_some_iff.mp hrest
      cases heq
    · cases h

/-- If an authority is read as it was meant, so are the login and the host in it, and the at sign
between them is the only one. -/
lemma of_readAuthority? (h : readAuthority? (writeAuthority asIs a) =
      some (a.user.map fun user => (user, a.password), a.host, a.port)) :
    (∀ user ∈ a.user, readLogin? (credentials user.toList (a.password.map String.toList)) =
        some (user, a.password) ∧
      ∀ c ∈ credentials user.toList (a.password.map String.toList), isFree ['@'] c = true) ∧
    readHost? (a.host.toList ++ ':' :: Nat.toDigits 10 a.port) = some (a.host, a.port) ∧
      ∀ c ∈ a.host.toList ++ ':' :: Nat.toDigits 10 a.port, isFree ['@'] c = true := by
  cases huser : a.user with
  | none =>
    rw [writeAuthority, huser, writeLogin, List.nil_append] at h
    have hfree := no_sign_of_readAuthority? h
    rw [readAuthority?_of_free hfree] at h
    obtain ⟨found, hfound, heq⟩ := Option.map_eq_some_iff.mp h
    cases heq
    exact ⟨fun _ hmem => absurd hmem (Option.not_mem_none _), hfound, hfree⟩
  | some user =>
    have hauthority : writeAuthority asIs a =
        credentials user.toList (a.password.map String.toList) ++
          '@' :: (a.host.toList ++ ':' :: Nat.toDigits 10 a.port) := by
      rw [writeAuthority, huser, writeLogin, List.append_assoc]
      rfl
    rw [hauthority, huser] at h
    obtain ⟨hlogin, hhost⟩ := only_sign_of_readAuthority? h
    rw [readAuthority?_append hlogin hhost] at h
    obtain ⟨_, hread, hrest⟩ := Option.bind_eq_some_iff.mp h
    obtain ⟨_, hfound, heq⟩ := Option.map_eq_some_iff.mp hrest
    cases heq
    refine ⟨fun _ hmem => ?_, hfound, hhost⟩
    cases hmem
    exact ⟨hread, hlogin⟩

/-! ### The whole URL -/

lemma of_read? (h : read? (String.ofList (scheme ++ cs)) = some a) :
    readAuthority? (cs.takeWhile (isFree ['/', '?', '#'])) =
        some (a.user.map fun user => (user, a.password), a.host, a.port) ∧
      readEscaped? ((cs.dropWhile (isFree ['/', '?', '#'])).takeWhile (isFree ['?', '#'])).tail =
        some a.database ∧
      (a.password ≠ none → a.user ≠ none) := by
  rw [read?, String.toList_ofList, if_pos (List.prefix_append ..), List.drop_left] at h
  obtain ⟨⟨login, host, port⟩, hauthority, hrest⟩ := Option.bind_eq_some_iff.mp h
  obtain ⟨database, hdatabase, rfl⟩ := Option.map_eq_some_iff.mp hrest
  refine ⟨hauthority.trans ?_, hdatabase, ?_⟩
  · cases login <;> rfl
  · cases login <;> simp

/-- If an address is read from its URL, the slash behind the authority is the first sign that ends
it. -/
lemma free_of_readAuthority? (h : readAuthority? ((writeAuthority asIs a ++ '/' :: rest).takeWhile
        (isFree ['/', '?', '#'])) =
      some (a.user.map fun user => (user, a.password), a.host, a.port)) :
    ∀ c ∈ writeAuthority asIs a, isFree ['/', '?', '#'] c = true := by
  have hle := byteCount_le_of_readAuthority? h
  have hwhole : writeAuthority asIs a ++ '/' :: rest =
      writeLogin asIs a.user a.password ++ a.host.toList ++
        (':' :: Nat.toDigits 10 a.port ++ '/' :: rest) := by
    simp [writeAuthority, asIs]
  rw [hwhole] at hle
  obtain ⟨hlogin, hhost⟩ := List.forall_mem_append.mp (forall_of_byteCount_le hle)
  exact List.forall_mem_append.mpr ⟨hlogin, List.forall_mem_append.mpr ⟨hhost,
    List.forall_mem_cons.mpr ⟨rfl, isFree_toDigits rfl a.port⟩⟩⟩

/-- If the URL of an address is read as that address, every part of it can be read. -/
lemma legible_of_read? (h : read? (String.ofList (write asIs a)) = some a) : Legible asIs a := by
  obtain ⟨hauthority, hdatabase, hpassword⟩ := of_read? h
  have hfree := free_of_readAuthority? hauthority
  obtain ⟨htake, hdrop⟩ := split_at_sign hfree List.mem_cons_self (asIs databaseSigns a.database)
  rw [htake] at hauthority
  rw [hdrop, List.takeWhile_cons_of_pos rfl, List.tail_cons] at hdatabase
  obtain ⟨hlogin, hhost, hat⟩ := of_readAuthority? hauthority
  obtain ⟨hread, hcolon, hbrackets⟩ := of_readHost? hhost
  obtain ⟨hbefore, hbehind⟩ := List.forall_mem_append.mp hfree
  have hcredentials : ∀ user ∈ a.user, ∀ c ∈ credentials user.toList (a.password.map String.toList),
      isFree (['@'] ++ ['/', '?', '#']) c = true := by
    intro user huser c hc
    refine isFree_append.mpr ⟨(hlogin user huser).2 c hc, hbefore c ?_⟩
    rw [Option.mem_def.mp huser]
    exact List.mem_append_left _ hc
  refine ⟨fun user huser => ?_, fun password hmem => ?_, ⟨hread, fun c hc => ?_⟩, ?_⟩
  · obtain ⟨hread, hcolon, -⟩ := of_readLogin? (hlogin user huser).1
    exact ⟨hread, fun c hc => isFree_iff.mp (isFree_append.mpr
      ⟨hcolon c hc, hcredentials user huser c (List.mem_append_left _ hc)⟩)⟩
  · have hpassword := hpassword (by simp [Option.mem_def.mp hmem])
    obtain ⟨user, huser⟩ := Option.ne_none_iff_exists'.mp hpassword
    obtain ⟨-, -, hread⟩ := of_readLogin? (hlogin user huser).1
    refine ⟨hpassword, hread password hmem, fun c hc => ?_⟩
    refine isFree_iff.mp (hcredentials user huser c ?_)
    rw [Option.mem_def.mp hmem]
    exact List.mem_append_right _ (List.mem_cons_of_mem ':' hc)
  · have hend := isFree_append.mpr ⟨hbehind c (List.mem_append_left _ hc), hbrackets c hc⟩
    exact isFree_iff.mp (isFree_append.mpr ⟨hcolon c hc,
      isFree_append.mpr ⟨hat c (List.mem_append_left _ hc), hend⟩⟩)
  · obtain ⟨hall, hpercent⟩ := readEscaped?_takeWhile_iff.mp hdatabase
    exact ⟨readEscaped?_toList_iff.mpr hpercent, fun c hc => isFree_iff.mp (hall c hc)⟩

/-! ## Configurations -/

lemma read?_write_asIs_iff : read? (String.ofList (write asIs a)) = some a ↔ IsPlain a :=
  ⟨fun h => legible_asIs_iff.mp (legible_of_read? h), fun h => read?_write (legible_asIs_iff.mpr h)⟩

lemma of_ofConfig {c : ConnectionConfig} {s : Server} (h : Server.ofConfig c = .ok s) :
    portOf c = .ok s.port ∧
      s.address = ⟨userOf c, c.get? "password", hostOf c, s.port, databaseOf c⟩ := by
  rw [Server.ofConfig] at h
  obtain ⟨port, hport, hrest⟩ := bind_eq_ok.mp h
  obtain ⟨timeout, -, hserver⟩ := bind_eq_ok.mp hrest
  obtain rfl := Except.ok.inj hserver
  exact ⟨hport, rfl⟩

/-- The URL of a configuration is that of its server, with every part as it is. -/
lemma url_eq {c : ConnectionConfig} {s : Server} (h : Server.ofConfig c = .ok s) :
    url c = String.ofList (write asIs s.address) := by
  obtain ⟨hport, haddress⟩ := of_ofConfig h
  have hdigits : (toString s.port).toList = Nat.toDigits 10 s.port := toList_toString_nat s.port
  have hscheme : "postgresql://".toList = scheme := rfl
  have hsigns : "".toList = [] ∧ ":".toList = [':'] ∧ "@".toList = ['@'] ∧ "/".toList = ['/'] :=
    ⟨rfl, rfl, rfl, rfl⟩
  unfold url
  rw [hport, haddress, ← String.toList_inj, String.toList_ofList, write, writeAuthority]
  cases userOf c <;> cases c.get? "password" <;>
    simp only [writeLogin, credentials, asIs, String.toList_append, hscheme, hdigits, hsigns,
      List.append_assoc, List.nil_append, List.cons_append, Option.map_none, Option.elim_none,
      Option.map_some, Option.elim_some]

lemma read?_url_iff {c : ConnectionConfig} {s : Server} (h : Server.ofConfig c = .ok s) :
    read? (url c) = some s.address ↔ IsPlain s.address := by
  rw [url_eq h]
  exact read?_write_asIs_iff

/-- The URL of a configuration is read as its server exactly if the parts can stand in a URL as they
are: none has a sign that divides it or begins an escape, and there is a user if there is a
password.  So different servers with such parts have different URLs.  And every server whose
password has a user is read from a URL, the one with the signs escaped. -/
theorem read_back_iff {c : ConnectionConfig} {s : Server} (h : Server.ofConfig c = .ok s) :
    (read? (url c) = some s.address ↔ IsPlain s.address) ∧
    (∀ c' s', Server.ofConfig c' = .ok s' → IsPlain s.address → IsPlain s'.address →
      s.address ≠ s'.address → url c ≠ url c') ∧
    ((s.password ≠ none → s.user ≠ none) →
      read? (properUrl s.address) = some s.address) := by
  refine ⟨read?_url_iff h, fun c' s' h' hplain hplain' hne heq => hne ?_,
    fun hlogin => read?_write (legible_escaped hlogin)⟩
  have hread := (read?_url_iff h).mpr hplain
  rw [heq, (read?_url_iff h').mpr hplain'] at hread
  exact (Option.some_inj.mp hread).symm

/-- A colon in a password and the signs of a database that divide only what stands before it are
read as they are; a user with a colon is read from the proper URL. -/
theorem read_back_iff_harmless_signs :
    let c := (ConnectionConfig.forServer "db" 5432 "a/b@c:d" "svc").withParam "password" "s3:cret"
    let c' := ConnectionConfig.forServer "db" 5432 "app" "svc"
    let a : Address := ⟨some "svc", some "s3:cret", "db", 5432, "a/b@c:d"⟩
    let a' : Address := ⟨some "ops:admin", none, "db", 5432, "app"⟩
    url c = "postgresql://svc:s3:cret@db:5432/a/b@c:d" ∧ read? (url c) = some a ∧ url c ≠ url c' ∧
      properUrl a' = "postgresql://ops%3aadmin@db:5432/app" ∧ read? (properUrl a') = some a' := by
  intro c c' a a'
  let s : Server := ⟨"db", 5432, "a/b@c:d", some "svc", some "s3:cret", none, none⟩
  let s' : Server := ⟨"db", 5432, "app", some "svc", none, none, none⟩
  let t : Server := ⟨"db", 5432, "app", some "ops:admin", none, none, none⟩
  have hs : Server.ofConfig c = .ok s := by decide +kernel
  have hs' : Server.ofConfig c' = .ok s' := by decide +kernel
  have ht : Server.ofConfig (.forServer "db" 5432 "app" "ops:admin") = .ok t := by decide +kernel
  have hplain : IsPlain s.address := by decide +kernel
  exact ⟨by decide +kernel, (read_back_iff hs).1.mpr hplain,
    (read_back_iff hs).2.1 c' s' hs' hplain (by decide +kernel) (by decide +kernel),
    by decide +kernel, (read_back_iff ht).2.2 (by decide)⟩

/-- A user with a colon, and a user with a password, have one URL, which is read as the latter; and
a password without a user is not in the URL. -/
theorem one_url_two_servers :
    let c := ConnectionConfig.forServer "db" 5432 "app" "ops:admin"
    let c' := { ConnectionConfig.forServer "db" 5432 "app" "ops" with password := some "admin" }
    let bare : ConnectionConfig := { name := "bare", driver := "postgres" }
    let bare' := { bare with password := some "s3cret" }
    (Server.ofConfig c).map Server.address =
        .ok ⟨some "ops:admin", none, "db", 5432, "app"⟩ ∧
      (Server.ofConfig c').map Server.address =
        .ok ⟨some "ops", some "admin", "db", 5432, "app"⟩ ∧
      url c = "postgresql://ops:admin@db:5432/app" ∧ url c' = url c ∧
      read? (url c) = some ⟨some "ops", some "admin", "db", 5432, "app"⟩ ∧
      (Server.ofConfig bare').map Server.address =
        .ok ⟨none, some "s3cret", "localhost", 5432, "postgres"⟩ ∧
      url bare' = "postgresql://localhost:5432/postgres" ∧ url bare' = url bare := by
  decide +kernel

end BulkValues.Postgres.Url
