import TableDiscovery.Proofs.Act
import TableDiscovery.Dialect.ConnectionString

/-!
# Credentials in connection strings

A connection string holds its values as they are, whatever characters they consist of. So the text
that stands between the user and the password may as well be a part of one of them, and different
credentials may have one connection string.

* `append_mark_eq_iff`: the ways to cut a text at a mark;
* `Dialect.toList_connectionString`: a connection string, keyword by keyword;
* `Dialect.signedIn`, `Dialect.Spills`: explicit credentials, and those that are taken for others;
* **`Dialect.connectionString_signedIn_eq_iff`**: there are no other ways to be taken for others.
-/

namespace TableDiscovery

/-! ## Marks in texts -/

section Mark

variable {α : Type} {c : α} {cs us vs ps qs : List α}

/-- A mark whose first element comes only once in it does not overlap with itself. -/
theorem mark_append_eq (hc : c ∉ cs) (h : c :: cs ++ ps = us ++ (c :: cs ++ qs)) :
    (us = [] ∧ ps = qs) ∨ ∃ ms, us = c :: cs ++ ms ∧ ps = ms ++ (c :: cs) ++ qs := by
  obtain ⟨ms, rfl, rfl⟩ | ⟨ms, hmark, hrest⟩ := List.append_eq_append_iff.mp h
  · exact .inr ⟨ms, rfl, (List.append_assoc ..).symm⟩
  cases us with
  | nil =>
    obtain rfl : ms = c :: cs := hmark.symm
    exact .inl ⟨rfl, (List.append_cancel_left hrest).symm⟩
  | cons u us =>
    obtain ⟨rfl, hcs⟩ := List.cons.inj hmark
    cases ms with
    | nil =>
      obtain rfl : cs = us := hcs.trans (List.append_nil us)
      exact .inr ⟨[], (List.append_nil _).symm, hrest.symm⟩
    | cons m ms =>
      obtain ⟨rfl, -⟩ := List.cons.inj hrest
      exact (hc (hcs ▸ by simp)).elim

/-- Two cuts of one text at a mark are the same, or each of them has the other's mark in one of its
parts. -/
theorem append_mark_eq_iff (hc : c ∉ cs) :
    us ++ (c :: cs) ++ ps = vs ++ (c :: cs) ++ qs ↔
      (us = vs ∧ ps = qs) ∨ (∃ ms, vs = us ++ (c :: cs) ++ ms ∧ ps = ms ++ (c :: cs) ++ qs) ∨
        ∃ ms, us = vs ++ (c :: cs) ++ ms ∧ qs = ms ++ (c :: cs) ++ ps := by
  constructor
  · intro h
    rw [List.append_assoc, List.append_assoc] at h
    obtain ⟨xs, rfl, hrest⟩ | ⟨xs, rfl, hrest⟩ := List.append_eq_append_iff.mp h
    · obtain ⟨rfl, rfl⟩ | ⟨ms, rfl, rfl⟩ := mark_append_eq hc hrest
      · exact .inl ⟨(List.append_nil us).symm, rfl⟩
      · exact .inr (.inl ⟨ms, (List.append_assoc ..).symm, rfl⟩)
    · obtain ⟨rfl, rfl⟩ | ⟨ms, rfl, rfl⟩ := mark_append_eq hc hrest
      · exact .inl ⟨List.append_nil vs, rfl⟩
      · exact .inr (.inr ⟨ms, (List.append_assoc ..).symm, rfl⟩)
  · rintro (⟨rfl, rfl⟩ | ⟨ms, rfl, rfl⟩ | ⟨ms, rfl, rfl⟩) <;> simp only [List.append_assoc]

end Mark

namespace Dialect

variable {d : Dialect} {ks : List (String × String)} {user password user' password' : String}

/-! ## Keywords in a connection string -/

/-- What is written for a keyword with its value. -/
def writtenKeyword (p : String × String) : List Char := p.1.toList ++ '=' :: p.2.toList ++ [';']

theorem intercalate_append (delimiter part : List Char) (parts : List (List Char)) :
    delimiter.intercalate (part :: parts) ++ delimiter =
      (part :: parts).flatMap (· ++ delimiter) := by
  induction parts generalizing part with
  | nil => simp
  | cons next parts ih =>
    rw [List.intercalate_cons_cons, List.append_assoc, ih]
    rfl

/-- A connection string is made of its keywords, one after the other. -/
theorem toList_connectionString {p : String × String} (h : d.keywords = .ok (p :: ks)) :
    ∃ s, d.connectionString = .ok s ∧ s.toList = (p :: ks).flatMap writtenKeyword := by
  refine ⟨_, by rw [connectionString, h]; rfl, ?_⟩
  rw [String.toList_append, String.toList_intercalate, List.map_map, List.map_cons]
  refine (intercalate_append [';'] _ _).trans ?_
  rw [← List.map_cons, List.flatMap_map]
  congr 1
  funext q
  simp [writtenKeyword]

/-! ## Explicit credentials -/

/-- The dialect with explicit credentials. -/
def signedIn (d : Dialect) (user password : String) : Dialect :=
  { d with user := some user, password := some password }

/-- What stands between the user and the password. -/
def passwordMark : String := ";PWD="

/-- The first credentials are taken for the second ones: the longer user holds the text between user
and password and what the password begins with. -/
def Spills (user password user' password' : String) : Prop :=
  ∃ middle, user' = user ++ passwordMark ++ middle ∧
    password = middle ++ passwordMark ++ password'

/-- The credentials are at one place among the keywords, and nothing else depends on them. -/
theorem exists_keywords (h : d.keywords = .ok ks) :
    ∃ (url : Url) (driver server database : String) (options : List (String × String)),
      ∀ d' : Dialect, d'.url = d.url → d'.keywords =
        .ok (("DRIVER", driver) :: ("SERVER", server) ::
          [("DATABASE", database), ("UID", credential d'.user url.user?),
            ("PWD", credential d'.password url.password?)].filter (fun p => p.2 ≠ "") ++
            options) := by
  rw [keywords] at h
  cases hurl : Url.parse d.url with
  | error cause =>
    rw [hurl] at h
    cases h
  | ok url =>
  cases hport : url.port? with
  | error cause =>
    rw [hurl] at h
    simp only [bind, Except.bind, hport] at h
    cases h
  | ok port =>
    exact ⟨url, _, _, _, _, fun d' hd' => by
      rw [keywords, hd', hurl]
      simp only [bind, Except.bind, hport]
      rfl⟩

/-- Explicit credentials that are not empty are two keywords. -/
theorem keywords_signedIn (h : d.keywords = .ok ks) :
    ∃ p before after, ∀ user password, user ≠ "" → password ≠ "" →
      (d.signedIn user password).keywords =
        .ok (p :: before ++ [("UID", user), ("PWD", password)] ++ after) := by
  obtain ⟨url, driver, server, database, options, hkeywords⟩ := exists_keywords h
  refine ⟨("DRIVER", driver),
    ("SERVER", server) :: [("DATABASE", database)].filter (fun p => p.2 ≠ ""), options,
    fun user password huser hpassword => ?_⟩
  rw [hkeywords (d.signedIn user password) rfl]
  simp only [signedIn, credential, Option.getD_some]
  by_cases hdatabase : database = "" <;> simp [hdatabase, huser, hpassword]

/-- The connection strings of a dialect differ between the mark before the user and the end of the
password only. -/
theorem exists_signedIn (h : ∃ s, d.connectionString = .ok s) :
    ∃ front back : List Char, ∀ user password, user ≠ "" → password ≠ "" →
      ∃ s, (d.signedIn user password).connectionString = .ok s ∧
        s.toList = front ++ (user.toList ++ passwordMark.toList ++ password.toList) ++ back := by
  obtain ⟨s, hs⟩ := h
  cases hkeywords : d.keywords with
  | error cause =>
    rw [connectionString, hkeywords] at hs
    cases hs
  | ok ks =>
    obtain ⟨p, before, after, hsigned⟩ := keywords_signedIn hkeywords
    refine ⟨(p :: before).flatMap writtenKeyword ++ "UID=".toList,
      ';' :: after.flatMap writtenKeyword, fun user password huser hpassword => ?_⟩
    obtain ⟨s, hs, hlist⟩ := toList_connectionString (hsigned user password huser hpassword)
    refine ⟨s, hs, hlist.trans ?_⟩
    simp [writtenKeyword, passwordMark]

/-- **Which credentials have one connection string.** Wherever a connection string can be made, it
tells explicit credentials apart, unless the text between user and password stands inside one of
them: then those who only know the connection string may read it either way. -/
theorem connectionString_signedIn_eq_iff (h : ∃ s, d.connectionString = .ok s) (huser : user ≠ "")
    (hpassword : password ≠ "") (huser' : user' ≠ "") (hpassword' : password' ≠ "") :
    ∃ s s', (d.signedIn user password).connectionString = .ok s ∧
      (d.signedIn user' password').connectionString = .ok s' ∧
      (s = s' ↔ (user = user' ∧ password = password') ∨ Spills user password user' password' ∨
        Spills user' password' user password) := by
  obtain ⟨front, back, hsigned⟩ := exists_signedIn h
  obtain ⟨s, hs, hlist⟩ := hsigned user password huser hpassword
  obtain ⟨s', hs', hlist'⟩ := hsigned user' password' huser' hpassword'
  refine ⟨s, s', hs, hs', ?_⟩
  have hspills (u p u' p' : String) : Spills u p u' p' ↔
      ∃ ms, u'.toList = u.toList ++ passwordMark.toList ++ ms ∧
        p.toList = ms ++ passwordMark.toList ++ p'.toList := by
    simp only [Spills, ← String.toList_inj, String.toList_append]
    exact ⟨fun ⟨m, hm⟩ => ⟨m.toList, hm⟩, fun ⟨ms, hms⟩ => ⟨.ofList ms, by simpa using hms⟩⟩
  have hmark : ';' ∉ "PWD=".toList := by decide
  rw [← String.toList_inj, hlist, hlist', List.append_left_inj, List.append_right_inj, hspills,
    hspills]
  simp only [← String.toList_inj]
  exact append_mark_eq_iff hmark

/-- The dialect of a shop. -/
def odbcShop : Dialect := .make .sqlServer "sqlserver://localhost/shop" { }

/-- A semicolon in a user is no harm by itself. -/
theorem connectionString_signedIn_eq_iff_semicolon :
    ∃ s s', (odbcShop.signedIn "reader;PWD" "secret").connectionString = .ok s ∧
      (odbcShop.signedIn "reader" "PWD=secret").connectionString = .ok s' ∧ s ≠ s' := by
  have hmade : ∃ s, odbcShop.connectionString = .ok s := by
    have hsome : odbcShop.connectionString.toOption.isSome = true := by decide +kernel
    obtain ⟨s, hs⟩ := Option.isSome_iff_exists.mp hsome
    exact ⟨s, Act.eq_ok_of_toOption hs⟩
  obtain ⟨s, s', hs, hs', hiff⟩ := connectionString_signedIn_eq_iff hmade
    (show "reader;PWD" ≠ "" by decide) (show "secret" ≠ "" by decide)
    (show "reader" ≠ "" by decide) (show "PWD=secret" ≠ "" by decide)
  refine ⟨s, s', hs, hs', fun heq => ?_⟩
  obtain ⟨huser, -⟩ | ⟨m, huser, -⟩ | ⟨m, huser, -⟩ := hiff.mp heq
  · exact absurd huser (by decide)
  · have hlength := congrArg String.length huser
    rw [String.length_append, String.length_append] at hlength
    change 6 = 10 + 5 + m.length at hlength
    omega
  · have hlength := congrArg String.length huser
    rw [String.length_append, String.length_append] at hlength
    change 10 = 6 + 5 + m.length at hlength
    omega

/-- **Credentials spill over.** A user that holds the name of the other keyword, and a password that
does, have one connection string. -/
theorem credentials_spill :
    let s := "DRIVER=\x7bODBC Driver 18 for SQL Server\x7d;SERVER=localhost;DATABASE=shop;" ++
      "UID=reader;PWD=open;PWD=secret;"
    (odbcShop.signedIn "reader;PWD=open" "secret").connectionString = .ok s ∧
      (odbcShop.signedIn "reader" "open;PWD=secret").connectionString = .ok s :=
  ⟨Act.eq_ok_of_toOption (by decide +kernel), Act.eq_ok_of_toOption (by decide +kernel)⟩

end Dialect

end TableDiscovery
