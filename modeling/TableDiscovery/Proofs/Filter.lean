import Mathlib.Data.List.Basic
import TableDiscovery.Filter
import TableDiscovery.Proofs.Dialect.NameList
import TableDiscovery.Proofs.Text.Blank
import TableDiscovery.Proofs.Text.Cut

/-!
# Whitelists and blacklists

A list names a table if one of its entries, without the blanks at its ends, is the quoted, the plain
or the bare name of the table. A whitelist keeps the tables that it names, a blacklist all others.
So what a list keeps depends on no more than the set of its entries.

* `Filter.SomeEntry`, `Filter.Names`: lists that hold something, and the tables that they name;
* `Filter.ofSettings_whitelist`, `Filter.ofSettings_blacklist`: the filters of such lists;
* `Filter.whitelisted`, `Filter.blacklisted`: what lists keep of a listing;
* **`Filter.lists_complement`**: whitelists and blacklists of the same names.
-/

namespace TableDiscovery

open Text

/-! ## Names are not empty -/

theorem Table.plain_ne (t : Table) : t.plain ≠ "" := by
  obtain ⟨c, cs, hc⟩ := List.exists_cons_of_ne_nil (mt String.toList_eq_nil_iff.mp t.name_ne)
  intro hplain
  have hmem : c ∈ ".".toList.intercalate (t.parts.map String.toList) :=
    mem_intercalate (List.mem_map_of_mem (List.mem_append_right _ List.mem_cons_self))
      (hc ▸ List.mem_cons_self)
  rw [← String.toList_intercalate, ← plain, hplain] at hmem
  cases hmem

theorem Dialect.render_ne (d : Dialect) (t : Table) : d.render t ≠ "" := by
  intro hrender
  have hhead : (d.render t).toList.head? = some d.system.opening := by
    rw [toList_render]
    exact Quotes.head?_joined t.parts_ne_nil
  rw [hrender] at hhead
  cases hhead

namespace Filter

variable {names names' both more : List String} {d : Dialect} {t : Table} {ts : List Table}
variable {o : Settings} {f : Filter} {entry : String}

/-! ## Entries -/

/-- Not all entries of a list are blank. -/
def SomeEntry (names : List String) : Prop := ∃ name ∈ names, strip name ≠ ""

/-- But for blanks at its ends, an entry is the quoted, the plain or the bare name of a table. -/
def Spells (entry : String) (d : Dialect) (t : Table) : Prop :=
  strip entry = d.render t ∨ strip entry = t.plain ∨ strip entry = t.name

instance : Decidable (Spells entry d t) := inferInstanceAs (Decidable (_ ∨ _ ∨ _))

/-- One of the entries spells the name of a table. -/
def Names (names : List String) (d : Dialect) (t : Table) : Prop := ∃ name ∈ names, Spells name d t

instance : Decidable (Names names d t) :=
  inferInstanceAs (Decidable (∃ name ∈ names, Spells name d t))

theorem mem_entries_iff :
    entry ∈ entries names ↔ entry ≠ "" ∧ ∃ name ∈ names, strip name = entry := by
  rw [entries, List.mem_filter, List.mem_map, decide_eq_true_eq, and_comm]

theorem entries_ne_nil_iff : entries names ≠ [] ↔ SomeEntry names := by
  rw [entries, Ne, List.filter_eq_nil_iff, SomeEntry]
  simp

/-- The entries that are looked up are compared without their blanks, and blank ones are no name. -/
theorem holds_iff (h : f.names = entries names) : f.holds d t = true ↔ Names names d t := by
  have hmem {x : String} (hx : x ≠ "") :
      x ∈ entries names ↔ ∃ name ∈ names, strip name = x := by
    rw [mem_entries_iff, and_iff_right hx]
  rw [holds, h, Bool.or_eq_true, Bool.or_eq_true, List.contains_iff_mem, List.contains_iff_mem,
    List.contains_iff_mem, hmem t.plain_ne, hmem (d.render_ne t), hmem t.name_ne]
  constructor
  · rintro ((⟨n, hn, hspell⟩ | ⟨n, hn, hspell⟩) | ⟨n, hn, hspell⟩)
    · exact ⟨n, hn, .inr (.inl hspell)⟩
    · exact ⟨n, hn, .inl hspell⟩
    · exact ⟨n, hn, .inr (.inr hspell)⟩
  · rintro ⟨n, hn, hspell | hspell | hspell⟩
    · exact .inl (.inr ⟨n, hn, hspell⟩)
    · exact .inl (.inl ⟨n, hn, hspell⟩)
    · exact .inr ⟨n, hn, hspell⟩

/-! ## The filters of a whitelist and of a blacklist -/

theorem ofSettings_whitelist (h : SomeEntry o.whitelist) (hblacklist : ¬ SomeEntry o.blacklist)
    (hquery : strip o.query = "") : ofSettings o =
      .ok ⟨.allow, entries o.whitelist, false, o.whitelistSetting, o.blacklistSetting⟩ := by
  rw [← entries_ne_nil_iff] at h hblacklist
  simp [ofSettings, h, hblacklist, hquery]

theorem ofSettings_blacklist (h : SomeEntry o.blacklist) (hwhitelist : ¬ SomeEntry o.whitelist)
    (hquery : strip o.query = "") : ofSettings o =
      .ok ⟨.deny, entries o.blacklist, false, o.whitelistSetting, o.blacklistSetting⟩ := by
  rw [← entries_ne_nil_iff] at h hwhitelist
  simp [ofSettings, h, hwhitelist, hquery]

/-- What a whitelist keeps of a listing. -/
def whitelisted (names : List String) (d : Dialect) (ts : List Table) : Except Fault (List Table) :=
  (ofSettings { whitelist := names }).map fun f => f.apply d ts

/-- What a blacklist keeps of a listing. -/
def blacklisted (names : List String) (d : Dialect) (ts : List Table) : Except Fault (List Table) :=
  (ofSettings { blacklist := names }).map fun f => f.apply d ts

theorem whitelisted_eq (h : SomeEntry names) :
    whitelisted names d ts = .ok (ts.filter (Names names d ·)) := by
  have hfilter := ofSettings_whitelist (o := { whitelist := names }) h (by simp [SomeEntry])
    strip_empty
  rw [whitelisted, hfilter]
  refine congrArg Except.ok (List.filter_congr fun t _ => ?_)
  rw [passes, Bool.eq_iff_iff, decide_eq_true_eq]
  exact holds_iff rfl

theorem blacklisted_eq (h : SomeEntry names) :
    blacklisted names d ts = .ok (ts.filter (¬ Names names d ·)) := by
  have hfilter := ofSettings_blacklist (o := { blacklist := names }) h (by simp [SomeEntry])
    strip_empty
  rw [blacklisted, hfilter]
  refine congrArg Except.ok (List.filter_congr fun t _ => ?_)
  rw [passes, Bool.eq_iff_iff, decide_eq_true_eq, Bool.not_eq_true', ← Bool.not_eq_true]
  exact not_congr (holds_iff rfl)

/-! ## More names, and the same names -/

theorem SomeEntry.mono (h : SomeEntry names) (hmore : names ⊆ more) : SomeEntry more := by
  obtain ⟨name, hname, hne⟩ := h
  exact ⟨name, hmore hname, hne⟩

theorem Names.mono (h : Names names d t) (hmore : names ⊆ more) : Names more d t := by
  obtain ⟨name, hname, hspell⟩ := h
  exact ⟨name, hmore hname, hspell⟩

theorem names_union_iff (h : ∀ name, name ∈ both ↔ name ∈ names ∨ name ∈ names') :
    Names both d t ↔ Names names d t ∨ Names names' d t := by
  simp only [Names, h, or_and_right, exists_or]

/-- Two lists hold the same entries, but for blanks, repetitions and their order. -/
def SameEntries (names names' : List String) : Prop :=
  ∀ entry ≠ "", (∃ name ∈ names, strip name = entry) ↔ ∃ name ∈ names', strip name = entry

theorem SameEntries.symm (h : SameEntries names names') : SameEntries names' names :=
  fun entry hne => (h entry hne).symm

theorem SameEntries.someEntry (h : SameEntries names names') (hnames : SomeEntry names) :
    SomeEntry names' := by
  obtain ⟨name, hname, hne⟩ := hnames
  obtain ⟨name', hname', heq⟩ := (h _ hne).mp ⟨name, hname, rfl⟩
  exact ⟨name', hname', heq ▸ hne⟩

theorem SameEntries.names_of_names (h : SameEntries names names') (hnames : Names names d t) :
    Names names' d t := by
  obtain ⟨name, hname, hspell⟩ := hnames
  have hne : strip name ≠ "" := by
    obtain heq | heq | heq := hspell
    · exact heq ▸ d.render_ne t
    · exact heq ▸ t.plain_ne
    · exact heq ▸ t.name_ne
  obtain ⟨name', hname', heq⟩ := (h _ hne).mp ⟨name, hname, rfl⟩
  exact ⟨name', hname', by rwa [Spells, heq]⟩

theorem SameEntries.names_iff (h : SameEntries names names') :
    Names names d t ↔ Names names' d t := ⟨h.names_of_names, h.symm.names_of_names⟩

/-- **A whitelist and a blacklist of the same names split every listing.** The whitelist keeps the
tables that are named, the blacklist all others, each in the order of the listing. The names of two
lists together keep what one of them keeps, so with more names a whitelist keeps no less and a
blacklist no more. Blank entries, repeated ones and their order make no difference. -/
theorem lists_complement (d : Dialect) (h : SomeEntry names) (ts : List Table) :
    whitelisted names d ts = .ok (ts.filter (Names names d ·)) ∧
    blacklisted names d ts = .ok (ts.filter (¬ Names names d ·)) ∧
    (∀ names' both, SomeEntry names' → (∀ name, name ∈ both ↔ name ∈ names ∨ name ∈ names') →
      whitelisted names' d ts = .ok (ts.filter (Names names' d ·)) ∧
      whitelisted both d ts = .ok (ts.filter fun t => Names names d t ∨ Names names' d t)) ∧
    (∀ more, names ⊆ more → ∃ kept kept', whitelisted more d ts = .ok kept ∧
      blacklisted more d ts = .ok kept' ∧ (ts.filter (Names names d ·)).Sublist kept ∧
      kept'.Sublist (ts.filter (¬ Names names d ·))) ∧
    ∀ names', SameEntries names names' → whitelisted names' d ts = whitelisted names d ts ∧
      blacklisted names' d ts = blacklisted names d ts := by
  refine ⟨whitelisted_eq h, blacklisted_eq h, fun names' both h' hboth => ?_, fun more hmore => ?_,
    fun names' hsame => ?_⟩
  · have hsome : SomeEntry both := h.mono fun name hname => (hboth name).mpr (.inl hname)
    refine ⟨whitelisted_eq h', ?_⟩
    rw [whitelisted_eq hsome]
    simp only [names_union_iff hboth]
  · refine ⟨_, _, whitelisted_eq (h.mono hmore), blacklisted_eq (h.mono hmore), ?_, ?_⟩
    · refine List.monotone_filter_right ts fun t ht => ?_
      exact decide_eq_true ((of_decide_eq_true ht).mono hmore)
    · refine List.monotone_filter_right ts fun t ht => ?_
      exact decide_eq_true fun hnames => of_decide_eq_true ht (hnames.mono hmore)
  · rw [whitelisted_eq h, blacklisted_eq h, whitelisted_eq (hsame.someEntry h),
      blacklisted_eq (hsame.someEntry h)]
    simp only [hsame.names_iff, and_self]

/-- Two tables of one name, one of which is listed twice. -/
def invoiceTables : List Table :=
  [⟨none, some "sales", "invoices", by decide⟩, ⟨none, some "stock", "invoices", by decide⟩,
    ⟨none, some "sales", "returns", by decide⟩, ⟨none, some "sales", "invoices", by decide⟩]

/-- A plain name with blanks around it, in a list with a blank entry. -/
theorem lists_complement_invoices :
    let d : Dialect := ⟨.sqlServer, "", none, none, [], none⟩
    let names := [" ", "\tsales.invoices "]
    SomeEntry names ∧
      whitelisted names d invoiceTables = .ok [⟨none, some "sales", "invoices", by decide⟩,
        ⟨none, some "sales", "invoices", by decide⟩] ∧
      blacklisted names d invoiceTables = .ok [⟨none, some "stock", "invoices", by decide⟩,
        ⟨none, some "sales", "returns", by decide⟩] := by
  intro d names
  have hsome : SomeEntry names := ⟨"\tsales.invoices ", by decide, by decide +kernel⟩
  obtain ⟨hwhitelist, hblacklist, -⟩ := lists_complement d hsome invoiceTables
  refine ⟨hsome, hwhitelist.trans (congrArg _ ?_), hblacklist.trans (congrArg _ ?_)⟩
  · decide +kernel
  · decide +kernel

end Filter

end TableDiscovery
