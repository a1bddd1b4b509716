import Mathlib.Data.List.TakeWhile
import TableDiscovery.Proofs.Act
import TableDiscovery.Proofs.Text.Cut
import TableDiscovery.Url.Basic

/-!
# URLs with and without credentials

A place is a URL without credentials. They may be put in front of its host with an `@`. Then the URL
is read as before but for its credentials: the last `@` of the authority ends them, so that host and
port do not depend on what they hold.

* `Url.Place`, `Url.Place.url`, `Url.Place.urlWith`: places, and their URLs with credentials;
* `Url.Place.read`, `Url.Place.parse_eq`: what is read of them;
* `Url.Userinfo`: texts that may be put in front of a host;
* **`Url.Place.parse_urlWith`**: credentials make no URL unreadable;
* **`Url.Place.host?_read`**, `Url.Place.port?_read`, `Url.Place.credentials_read`: host, port and
  credentials of what has been read.
-/

namespace TableDiscovery.Url

open Act Text

/-- A URL without credentials: a scheme, a host that may have a port, and what follows them. -/
structure Place where
  scheme : String
  host : String
  rest : String
  scheme_valid : ∃ c cs, scheme.toList = c :: cs ∧ c.isAlpha = true ∧ cs.all isSchemeChar = true
  host_free : ∀ c ∈ host.toList, c ∉ ['/', '?', '#', '@']
  rest_start : ∀ c ∈ rest.toList.head?, c ∈ ['/', '?', '#']

/-- Characters that may stand in front of a host. -/
def Userinfo (info : String) : Prop :=
  ∀ c ∈ info.toList, c.toNat < 0x80 ∧ c ∉ ['/', '?', '#', '[', ']']

/-- The characters of a URL that are not ignored. -/
def kept (cs : List Char) : List Char := cs.filter fun c => !(c = '\t' || c = '\r' || c = '\n')

theorem mem_of_mem_kept {c : Char} {cs : List Char} (h : c ∈ kept cs) : c ∈ cs :=
  (List.mem_filter.mp h).1

theorem kept_append (cs ds : List Char) : kept (cs ++ ds) = kept cs ++ kept ds :=
  List.filter_append ..

namespace Place

variable {p : Place} {c : Char} {cs tail info host : List Char} {s : String} {u : Url}

/-- The URL of a place. -/
def url (p : Place) : String := p.scheme ++ "://" ++ p.host ++ p.rest

/-- The URL of a place with something in front of its host. -/
def urlWith (p : Place) (info : String) : String :=
  p.scheme ++ "://" ++ info ++ "@" ++ p.host ++ p.rest

/-- What is read of a URL of a place, with an authority. -/
def read (p : Place) (authority : List Char) : Url :=
  let (path, query) := before '?' (before '#' (kept p.rest.toList)).1
  let scheme := String.ofList (p.scheme.toList.map Char.toLower)
  { scheme
    authority := String.ofList authority
    path := String.ofList (dropParameters scheme path)
    query := String.ofList query }

/-! ## Reading a URL of a place -/

theorem lt_of_isAlpha (h : c.isAlpha = true) : 0x20 < c.toNat := by
  have hblank : ∀ n ≤ 0x20, (Char.ofNat n).isAlpha = false := by decide
  refine Nat.lt_of_not_le fun hle => ?_
  have hc := hblank c.toNat hle
  rw [Char.ofNat_toNat, h] at hc
  cases hc

theorem isSchemeChar_of_mem (p : Place) (h : c ∈ p.scheme.toList) : isSchemeChar c = true := by
  obtain ⟨d, ds, hscheme, hd, hds⟩ := p.scheme_valid
  rw [hscheme] at h
  obtain rfl | h := List.mem_cons.mp h
  · simp [isSchemeChar, Char.isAlphanum, hd]
  · exact List.all_eq_true.mp hds c h

theorem kept_scheme (p : Place) : kept p.scheme.toList = p.scheme.toList := by
  refine List.filter_eq_self.mpr fun c hc => ?_
  have hscheme := p.isSchemeChar_of_mem hc
  simp only [Bool.not_eq_true', Bool.or_eq_false_iff, decide_eq_false_iff_not]
  refine ⟨⟨?_, ?_⟩, ?_⟩ <;> rintro rfl <;> cases hscheme

theorem cutScheme_scheme (p : Place) (cs : List Char) :
    cutScheme (p.scheme.toList ++ ':' :: cs) =
      (String.ofList (p.scheme.toList.map Char.toLower), cs) := by
  have hcolon : ':' ∉ p.scheme.toList := fun h => by cases p.isSchemeChar_of_mem h
  obtain ⟨d, ds, hscheme, hd, hds⟩ := p.scheme_valid
  rw [cutScheme, cut?_append hcolon, hscheme]
  simp [hd, hds]

theorem cutAuthority_append (hcs : ∀ c ∈ cs, c ∉ ['/', '?', '#'])
    (htail : ∀ c ∈ tail.head?, c ∈ ['/', '?', '#']) :
    cutAuthority ('/' :: '/' :: (cs ++ tail)) = (cs, tail) := by
  have hstop : ∀ c ∈ cs, (!(c = '/' || c = '?' || c = '#') : Bool) = true := by
    intro c hc
    have hne := hcs c hc
    simp only [List.mem_cons, List.not_mem_nil, or_false, not_or] at hne
    simp [hne]
  have htake : tail.takeWhile (fun c => (!(c = '/' || c = '?' || c = '#') : Bool)) = [] ∧
      tail.dropWhile (fun c => (!(c = '/' || c = '?' || c = '#') : Bool)) = tail := by
    cases tail with
    | nil => exact ⟨rfl, rfl⟩
    | cons c tail =>
      have hc : (!(c = '/' || c = '?' || c = '#') : Bool) = false := by
        have hmem := htail c rfl
        simp only [List.mem_cons, List.not_mem_nil, or_false] at hmem
        obtain rfl | rfl | rfl := hmem <;> rfl
      exact ⟨List.takeWhile_cons_of_neg (by simp [hc]), List.dropWhile_cons_of_neg (by simp [hc])⟩
  simp only [cutAuthority, List.takeWhile_append_of_pos hstop, List.dropWhile_append_of_pos hstop,
    htake, List.append_nil]

theorem head?_kept (h : ∀ c ∈ cs.head?, c ∈ ['/', '?', '#']) :
    ∀ c ∈ (kept cs).head?, c ∈ ['/', '?', '#'] := by
  cases cs with
  | nil => exact h
  | cons d cs =>
    have hd := h d rfl
    have hkept : kept (d :: cs) = d :: kept cs := by
      simp only [List.mem_cons, List.not_mem_nil, or_false] at hd
      obtain rfl | rfl | rfl := hd <;> rfl
    rw [hkept]
    exact fun c hc => by rwa [← Option.some.inj hc]

/-- A URL of a place is read as one, whatever its authority. -/
theorem parse_eq (hs : ∀ c ∈ s.toList, c ∉ ['/', '?', '#']) :
    parse (p.scheme ++ "://" ++ s ++ p.rest) = (do
      checkBrackets (kept s.toList)
      checkSeparators (kept s.toList)
      return p.read (kept s.toList)) := by
  have hdrop : (p.scheme ++ "://" ++ s ++ p.rest).toList.dropWhile (fun c => c.toNat ≤ 0x20) =
      p.scheme.toList ++ ':' :: '/' :: '/' :: (s.toList ++ p.rest.toList) := by
    obtain ⟨d, ds, hscheme, hd, -⟩ := p.scheme_valid
    simp only [String.toList_append, hscheme, List.cons_append, List.append_assoc]
    rw [List.dropWhile_cons_of_neg (by simpa using lt_of_isAlpha hd)]
    rfl
  have hkept : kept (p.scheme.toList ++ ':' :: '/' :: '/' :: (s.toList ++ p.rest.toList)) =
      p.scheme.toList ++ ':' :: '/' :: '/' :: (kept s.toList ++ kept p.rest.toList) := by
    have hmarks (cs : List Char) : kept (':' :: '/' :: '/' :: cs) = ':' :: '/' :: '/' :: kept cs :=
      rfl
    rw [kept_append, kept_scheme, hmarks, kept_append]
  have hauthority : ∀ c ∈ kept s.toList, c ∉ ['/', '?', '#'] := fun c hc =>
    hs c (mem_of_mem_kept hc)
  rw [parse, hdrop, ← kept, hkept, cutScheme_scheme]
  dsimp only
  rw [cutAuthority_append hauthority (head?_kept p.rest_start)]
  rfl

/-! ## Credentials in front of the host -/

theorem host_notMem (p : Place) : '@' ∉ kept p.host.toList := fun h =>
  p.host_free _ (mem_of_mem_kept h) (by simp)

theorem afterLast_host (p : Place) :
    afterLast '@' (kept p.host.toList) = (none, kept p.host.toList) := by
  rw [afterLast, cutLast?_of_notMem p.host_notMem]

theorem afterLast_info (p : Place) (info : List Char) :
    afterLast '@' (info ++ '@' :: kept p.host.toList) = (some info, kept p.host.toList) := by
  rw [afterLast, cutLast?_append p.host_notMem]

/-- Brackets are looked for behind the last `@`. -/
theorem checkBrackets_info (hinfo : ∀ c ∈ info, c ∉ ['[', ']']) :
    checkBrackets (info ++ '@' :: kept p.host.toList) = checkBrackets (kept p.host.toList) := by
  have hcontains {c : Char} (hc : c ∈ ['[', ']']) :
      (info ++ '@' :: kept p.host.toList).contains c = (kept p.host.toList).contains c := by
    have hinfo : c ∉ info := fun h => hinfo c h hc
    have hat : c ≠ '@' := by
      rintro rfl
      revert hc
      decide
    rw [Bool.eq_iff_iff, List.contains_iff_mem, List.contains_iff_mem, List.mem_append,
      List.mem_cons, or_iff_right hinfo, or_iff_right hat]
  rw [checkBrackets, checkBrackets, hcontains (by simp), hcontains (by simp), afterLast_info,
    afterLast_host]

theorem checkSeparators_eq_ok_iff :
    checkSeparators cs = .ok () ↔ ∀ c ∈ cs, c.toNat ∉ hiddenSeparators := by
  rw [checkSeparators]
  split
  · rename_i hany
    refine iff_of_false nofun fun h => ?_
    obtain ⟨c, hc, hmem⟩ := List.any_eq_true.mp hany
    exact h c hc (List.contains_iff_mem.mp hmem)
  · rename_i hany
    refine iff_of_true rfl fun c hc hmem => hany ?_
    exact List.any_eq_true.mpr ⟨c, hc, List.contains_iff_mem.mpr hmem⟩

theorem checkSeparators_info (hinfo : ∀ c ∈ info, c.toNat < 0x80)
    (h : checkSeparators (kept p.host.toList) = .ok ()) :
    checkSeparators (info ++ '@' :: kept p.host.toList) = .ok () := by
  have hplain : ∀ n < 0x80, n ∉ hiddenSeparators := by decide
  rw [checkSeparators_eq_ok_iff] at h ⊢
  intro c hc
  obtain hc | hc := List.mem_append.mp hc
  · exact hplain _ (hinfo c hc)
  · obtain rfl | hc := List.mem_cons.mp hc
    · decide
    · exact h c hc

/-! ## What is read -/

theorem parse_url : parse p.url = (do
    checkBrackets (kept p.host.toList)
    checkSeparators (kept p.host.toList)
    return p.read (kept p.host.toList)) := by
  refine parse_eq fun c hc hmem => p.host_free c hc ?_
  exact List.mem_append_left ['@'] hmem

theorem parse_urlWith_eq {info : String} (hinfo : Userinfo info) :
    parse (p.urlWith info) = (do
      checkBrackets (kept info.toList ++ '@' :: kept p.host.toList)
      checkSeparators (kept info.toList ++ '@' :: kept p.host.toList)
      return p.read (kept info.toList ++ '@' :: kept p.host.toList)) := by
  have hauthority : kept (info ++ "@" ++ p.host).toList =
      kept info.toList ++ '@' :: kept p.host.toList := by
    simp [kept]
  have hurl : p.urlWith info = p.scheme ++ "://" ++ (info ++ "@" ++ p.host) ++ p.rest := by
    simp only [urlWith, String.append_assoc]
  have hfree : ∀ c ∈ (info ++ "@" ++ p.host).toList, c ∉ ['/', '?', '#'] := by
    intro c hc hmem
    simp only [String.toList_append, List.mem_append] at hc
    obtain (hc | hc) | hc := hc
    · exact (hinfo c hc).2 (List.mem_append_left ['[', ']'] hmem)
    · obtain rfl := List.mem_singleton.mp hc
      revert hmem
      decide
    · exact p.host_free c hc (List.mem_append_left ['@'] hmem)
  rw [hurl, parse_eq hfree, hauthority]

/-- **Credentials make no URL unreadable.** The host is read as it is without them. -/
theorem parse_urlWith {info : String} (hinfo : Userinfo info) (h : parse p.url = .ok u) :
    u = p.read (kept p.host.toList) ∧
      parse (p.urlWith info) = .ok (p.read (kept info.toList ++ '@' :: kept p.host.toList)) := by
  rw [parse_url] at h
  obtain ⟨⟨⟩, hbrackets, h⟩ := ok_of_bind h
  obtain ⟨⟨⟩, hseparators, h⟩ := ok_of_bind h
  refine ⟨(Except.ok.inj h).symm, ?_⟩
  have hplain : ∀ c ∈ kept info.toList, c ∉ ['[', ']'] := fun c hc hmem =>
    (hinfo c (mem_of_mem_kept hc)).2 (List.mem_append_right ['/', '?', '#'] hmem)
  have hascii : ∀ c ∈ kept info.toList, c.toNat < 0x80 := fun c hc =>
    (hinfo c (mem_of_mem_kept hc)).1
  rw [parse_urlWith_eq hinfo, checkBrackets_info hplain, hbrackets,
    checkSeparators_info hascii hseparators]
  rfl

theorem authority_read (p : Place) (cs : List Char) : (p.read cs).authority.toList = cs :=
  String.toList_ofList

theorem path_read (p : Place) (cs ds : List Char) : (p.read cs).path = (p.read ds).path := rfl

theorem query_read (p : Place) (cs ds : List Char) : (p.read cs).query = (p.read ds).query := rfl

theorem hostAndPort_read (p : Place) (info : List Char) :
    (p.read (info ++ '@' :: kept p.host.toList)).hostAndPort =
      (p.read (kept p.host.toList)).hostAndPort := by
  rw [hostAndPort, hostAndPort, authority_read, authority_read, afterLast_info, afterLast_host]

/-- **The host does not depend on credentials.** -/
theorem host?_read (p : Place) (info : List Char) :
    (p.read (info ++ '@' :: kept p.host.toList)).host? = (p.read (kept p.host.toList)).host? := by
  rw [host?, host?, hostAndPort_read]

theorem port?_read (p : Place) (info : List Char) :
    (p.read (info ++ '@' :: kept p.host.toList)).port? = (p.read (kept p.host.toList)).port? := by
  rw [port?, port?, hostAndPort_read]

/-- The first colon ends the user. -/
theorem credentials_read (p : Place) {user : List Char} (h : ':' ∉ user) (password : List Char) :
    (p.read (user ++ ':' :: password ++ '@' :: kept p.host.toList)).credentials =
      some (user, some password) := by
  rw [credentials, authority_read, afterLast_info, Option.map_some, cut?_append h]

end Place

end TableDiscovery.Url
