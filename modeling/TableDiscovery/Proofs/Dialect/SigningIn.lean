import TableDiscovery.Proofs.Dialect.Credentials
import TableDiscovery.Proofs.Text.Percent
import TableDiscovery.Proofs.Url.Place

/-!
# Credentials in a URL

Credentials may be given beside a URL or in it. Explicit ones hide what the URL holds, and those of
the URL are read without their escapes. So it makes no difference where they are given, if they are
written in the URL with escapes.

* `Url.Place.signedInfo`, `Url.Place.credentials_signedInfo`: credentials as a URL holds them;
* `Dialect.connectionString_congr`: what a connection string depends on;
* **`Dialect.connectionString_signedInfo`**: that of a URL with credentials.
-/

namespace TableDiscovery

open Text

namespace Url.Place

variable {p : Place} {u : Url} {user password : String}

/-- User and password with escapes, as they stand in front of a host. -/
def signedInfo (user password : String) : String := escape user ++ ":" ++ escape password

theorem userinfo_signedInfo (user password : String) : Userinfo (signedInfo user password) := by
  intro c hc
  simp only [signedInfo, String.toList_append, List.mem_append] at hc
  obtain (hc | hc) | hc := hc
  · exact ⟨lt_of_mem_escape hc, fun hmem => notMem_separator hmem hc⟩
  · obtain rfl := List.mem_singleton.mp hc
    decide
  · exact ⟨lt_of_mem_escape hc, fun hmem => notMem_separator hmem hc⟩
where
  notMem_separator {c : Char} {s : String} (h : c ∈ ['/', '?', '#', '[', ']']) :
      c ∉ (escape s).toList := by
    simp only [List.mem_cons, List.not_mem_nil, or_false] at h
    obtain rfl | rfl | rfl | rfl | rfl := h <;> exact notMem_escape (by decide) (by decide)

theorem kept_escape (s : String) : kept (escape s).toList = (escape s).toList := by
  refine List.filter_eq_self.mpr fun c hc => ?_
  have hne {d : Char} (h : d.isAlphanum = false) (hpercent : d ≠ '%') : c ≠ d := fun heq =>
    notMem_escape h hpercent (heq ▸ hc)
  simp [hne (d := '\t') (by decide) (by decide), hne (d := '\r') (by decide) (by decide),
    hne (d := '\n') (by decide) (by decide)]

theorem kept_signedInfo : kept (signedInfo user password).toList =
    (escape user).toList ++ ':' :: (escape password).toList := by
  have hcolon : kept ":".toList = [':'] := rfl
  rw [signedInfo, String.toList_append, String.toList_append, kept_append, kept_append, kept_escape,
    kept_escape, hcolon, List.append_assoc, List.singleton_append]

/-- The credentials of such a URL are the escaped ones. -/
theorem credentials_signedInfo (p : Place) (user password : String) :
    let u := p.read (kept (signedInfo user password).toList ++ '@' :: kept p.host.toList)
    u.user? = some (escape user) ∧ u.password? = some (escape password) := by
  intro u
  have hcredentials :
      u.credentials = some ((escape user).toList, some (escape password).toList) := by
    rw [← credentials_read p (notMem_escape (by decide) (by decide)), ← kept_signedInfo]
  rw [user?, password?, hcredentials]
  simp

end Url.Place

namespace Dialect

variable {d d' : Dialect} {u u' : Url} {user : String}

open Url.Place (signedInfo)

/-! ## What a connection string depends on -/

/-- Nothing of the URL is used but the host, the port, the path, the query and the credentials. -/
theorem connectionString_congr (hu : Url.parse d.url = .ok u) (hu' : Url.parse d'.url = .ok u')
    (hhost : u.host? = u'.host?) (hport : u.port? = u'.port?) (hpath : u.path = u'.path)
    (hquery : u.query = u'.query) (huser : credential d.user u.user? = credential d'.user u'.user?)
    (hpassword : credential d.password u.password? = credential d'.password u'.password?) :
    d.connectionString = d'.connectionString := by
  have hkeywords : d.keywords = d'.keywords := by
    rw [keywords, keywords, hu, hu']
    simp only [bind, Except.bind, hhost, hport, hpath, hquery, huser, hpassword]
  rw [connectionString, connectionString, hkeywords]

theorem exists_parse (h : ∃ s, d.connectionString = .ok s) : ∃ u, Url.parse d.url = .ok u := by
  obtain ⟨s, hs⟩ := h
  cases hurl : Url.parse d.url with
  | error cause =>
    rw [connectionString, keywords, hurl] at hs
    cases hs
  | ok u => exact ⟨u, rfl⟩

/-- Whether there is a connection string is up to the URL. -/
theorem exists_connectionString_of_url (h : ∃ s, d.connectionString = .ok s)
    (hurl : d'.url = d.url) : ∃ s, d'.connectionString = .ok s := by
  obtain ⟨s, hs⟩ := h
  cases hkeywords : d.keywords with
  | error cause =>
    rw [connectionString, hkeywords] at hs
    cases hs
  | ok ks =>
    obtain ⟨_, _, _, _, _, hall⟩ := exists_keywords hkeywords
    exact ⟨_, by rw [connectionString, hall d' hurl]; rfl⟩

/-! ## Credentials beside a URL and in it -/

theorem credential_some (ofUrl : Option String) : credential (some user) ofUrl = user := rfl

theorem credential_escape : credential none (some (escape user)) = user := unescape_escape user

/-- The dialect with another URL. -/
def reaching (d : Dialect) (url : String) : Dialect := { d with url := url }

/-- The dialect without explicit credentials. -/
def signedOut (d : Dialect) : Dialect := { d with user := none, password := none }

/-- **Credentials in a URL are as good as those beside it.** Explicit credentials make one
connection string whatever stands in front of the host, and the URL that holds them with escapes
makes the same one. For these are read back. -/
theorem connectionString_signedInfo (d : Dialect) (p : Url.Place) {info : String}
    (hinfo : Url.Userinfo info) (h : ∃ s, (d.reaching p.url).connectionString = .ok s)
    (user password : String) :
    (unescape (escape user) = user ∧ unescape (escape password) = password) ∧
    ∃ s, ((d.reaching p.url).signedIn user password).connectionString = .ok s ∧
      ((d.reaching (p.urlWith info)).signedIn user password).connectionString = .ok s ∧
      (d.reaching (p.urlWith (signedInfo user password))).signedOut.connectionString = .ok s := by
  refine ⟨⟨unescape_escape user, unescape_escape password⟩, ?_⟩
  obtain ⟨u, hu⟩ := exists_parse h
  obtain ⟨s, hs⟩ : ∃ s, ((d.reaching p.url).signedIn user password).connectionString = .ok s :=
    exists_connectionString_of_url h rfl
  obtain ⟨rfl, hinfo⟩ := Url.Place.parse_urlWith hinfo hu
  obtain ⟨-, hsigned⟩ := Url.Place.parse_urlWith (Url.Place.userinfo_signedInfo user password) hu
  obtain ⟨huser, hpassword⟩ := Url.Place.credentials_signedInfo p user password
  refine ⟨s, hs, ?_, ?_⟩ <;> rw [← hs]
  · exact connectionString_congr hinfo hu (p.host?_read _) (p.port?_read _) (p.path_read ..)
      (p.query_read ..) ((credential_some _).trans (credential_some _).symm)
      ((credential_some _).trans (credential_some _).symm)
  · refine connectionString_congr hsigned hu (p.host?_read _) (p.port?_read _) (p.path_read ..)
      (p.query_read ..) ?_ ?_
    · rw [huser]
      exact credential_escape.trans (credential_some _).symm
    · rw [hpassword]
      exact credential_escape.trans (credential_some _).symm

/-- The place of a shop, with a port and with parameters. -/
def shopPlace : Url.Place where
  scheme := "sqlserver"
  host := "DB.example:1433"
  rest := "/shop@home?Encrypt=yes"
  scheme_valid := ⟨'s', "qlserver".toList, rfl, by decide, by decide⟩
  host_free := by simp
  rest_start := by simp

/-- A user that is made of separators, without a password, where the URL has other credentials. -/
theorem connectionString_signedInfo_shop :
    let d : Dialect := .make .sqlServer "" { }
    let s := "DRIVER=\x7bODBC Driver 18 for SQL Server\x7d;SERVER=db.example,1433;" ++
      "DATABASE=shop@home;UID=@:/é;Encrypt=yes;"
    let signed := shopPlace.urlWith (signedInfo "@:/é" "")
    Url.Userinfo "reader:p@ss%" ∧ (∃ s, (d.reaching shopPlace.url).connectionString = .ok s) ∧
      ((d.reaching (shopPlace.urlWith "reader:p@ss%")).signedIn "@:/é" "").connectionString =
        .ok s ∧
      signed = "sqlserver://%40%3A%2F%C3%A9:@DB.example:1433/shop@home?Encrypt=yes" ∧
      (d.reaching signed).signedOut.connectionString = .ok s := by
  intro d s signed
  have hinfo : Url.Userinfo "reader:p@ss%" := by simp [Url.Userinfo]
  have hmade : ∃ s, (d.reaching shopPlace.url).connectionString = .ok s :=
    Act.exists_ok_of_isSome (by decide +kernel)
  have hplace : ((d.reaching shopPlace.url).signedIn "@:/é" "").connectionString = .ok s :=
    Act.eq_ok_of_toOption (by decide +kernel)
  obtain ⟨-, s', hs', hbeside, hin⟩ := connectionString_signedInfo d shopPlace hinfo hmade "@:/é" ""
  obtain rfl : s = s' := Except.ok.inj (hplace.symm.trans hs')
  exact ⟨hinfo, hmade, hbeside, by decide +kernel, hin⟩

end Dialect

end TableDiscovery
