import TableDiscovery.Proofs.Filter
import TableDiscovery.Proofs.Settings

/-!
# Lists of names as whitelists

The text of a list of tables may be set as the whitelist. Its names are then what stands between its
commas. These are the tables that were written just if no comma is inside of one of their names:
quotes do not protect it, so that a table whose name holds a comma cannot be whitelisted.

* `Text.pieces_intercalate`: lists without the separator in a part;
* `Dialect.enclosed_renderList`: a list of tables stands between quotes;
* `Table.CommaFree`, `Dialect.comma_mem_render_iff`: names that are written without a comma;
* **`Settings.whitelist_of_renderList`**: the filter of such a whitelist; a run where it keeps
  another table is `Settings.comma_splits_name`.
-/

namespace TableDiscovery

open Act Text

/-! ## Lists -/

theorem Text.pieces_intercalate {c : Char} {parts : List (List Char)} (hparts : parts ≠ [])
    (h : ∀ part ∈ parts, c ∉ part) : pieces c ([c].intercalate parts) = parts := by
  induction parts with
  | nil => exact absurd rfl hparts
  | cons first parts ih =>
    obtain ⟨hfirst, hrest⟩ := List.forall_mem_cons.mp h
    cases parts with
    | nil => rw [List.intercalate_singleton, pieces_of_notMem hfirst]
    | cons next parts =>
      rw [List.intercalate_cons_cons, List.append_assoc, List.singleton_append, pieces_append,
        pieces_of_notMem hfirst, ih nofun hrest, List.singleton_append]

/-- A text between two marks. -/
def Text.Enclosed (opening closing : Char) (cs : List Char) : Prop :=
  ∃ inner, cs = opening :: (inner ++ [closing])

section Enclosed

variable {opening closing : Char} {cs : List Char} {parts : List (List Char)}

theorem Text.enclosed_intercalate (separator : List Char) (hparts : parts ≠ [])
    (h : ∀ part ∈ parts, Enclosed opening closing part) :
    Enclosed opening closing (separator.intercalate parts) := by
  induction parts with
  | nil => exact absurd rfl hparts
  | cons first parts ih =>
    obtain ⟨⟨inner, rfl⟩, hrest⟩ := List.forall_mem_cons.mp h
    cases parts with
    | nil =>
      rw [List.intercalate_singleton]
      exact ⟨inner, rfl⟩
    | cons next parts =>
      obtain ⟨tail, htail⟩ := ih nofun hrest
      rw [List.intercalate_cons_cons, htail]
      exact ⟨inner ++ [closing] ++ separator ++ opening :: tail, by simp⟩

theorem Text.Enclosed.strip_eq {s : String} (h : Enclosed opening closing s.toList)
    (hopening : isBlank opening = false) (hclosing : isBlank closing = false) : strip s = s := by
  obtain ⟨inner, hs⟩ := h
  refine strip_eq_self (fun c hc => ?_) (fun c hc => ?_)
  · obtain rfl : opening = c := by simpa [hs] using hc
    exact hopening
  · obtain rfl : closing = c := by
      rw [hs, ← List.cons_append, List.getLast?_append] at hc
      simpa using hc
    exact hclosing

end Enclosed

namespace Dialect

variable {d : Dialect} {t : Table} {ts : List Table}

theorem System.isBlank_opening (s : System) : isBlank s.opening = false := by
  cases s <;> decide

theorem System.isBlank_closing (s : System) : isBlank s.closing = false := by
  cases s <;> decide

theorem enclosed_render (d : Dialect) (t : Table) :
    Enclosed d.system.opening d.system.closing (d.render t).toList := by
  rw [toList_render]
  refine enclosed_intercalate ['.'] (by simpa using t.parts_ne_nil) fun part hpart => ?_
  obtain ⟨name, -, rfl⟩ := List.mem_map.mp hpart
  exact ⟨_, rfl⟩

theorem enclosed_renderList (d : Dialect) (hts : ts ≠ []) (delimiter : String) :
    Enclosed d.system.opening d.system.closing (d.renderList ts delimiter).toList := by
  rw [renderList, String.toList_intercalate, List.map_map]
  refine enclosed_intercalate _ (by simpa using hts) fun part hpart => ?_
  obtain ⟨t, -, rfl⟩ := List.mem_map.mp hpart
  exact enclosed_render d t

theorem strip_render (d : Dialect) (t : Table) : strip (d.render t) = d.render t :=
  (enclosed_render d t).strip_eq d.system.isBlank_opening d.system.isBlank_closing

theorem strip_renderList (d : Dialect) (hts : ts ≠ []) (delimiter : String) :
    strip (d.renderList ts delimiter) = d.renderList ts delimiter :=
  (enclosed_renderList d hts delimiter).strip_eq d.system.isBlank_opening d.system.isBlank_closing

/-! ## Commas in names -/

theorem mem_doubled_iff {mark c : Char} {cs : List Char} : c ∈ Quotes.doubled mark cs ↔ c ∈ cs := by
  rw [Quotes.doubled, List.mem_flatMap]
  constructor
  · rintro ⟨x, hx, hc⟩
    obtain rfl : c = x := by
      split at hc <;> simpa using hc
    exact hx
  · intro hc
    exact ⟨c, hc, by split <;> simp⟩

/-- A comma is written only if it is a part of a name. -/
theorem comma_mem_render_iff :
    ',' ∈ (d.render t).toList ↔ ∃ part ∈ t.parts, ',' ∈ part.toList := by
  have hwritten (name : String) :
      ',' ∈ Quotes.written d.system.opening d.system.closing name ↔ ',' ∈ name.toList := by
    rw [Quotes.written, List.mem_cons, List.mem_append, List.mem_singleton, mem_doubled_iff]
    cases d.system <;> simp [System.opening, System.closing]
  rw [toList_render, Quotes.joined, mem_intercalate_iff (by decide)]
  simp only [List.mem_map, exists_exists_and_eq_and, hwritten]

end Dialect

/-- No name of the table holds a comma. -/
def Table.CommaFree (t : Table) : Prop := ∀ part ∈ t.parts, ',' ∉ part.toList

theorem Table.commaFree_iff {t : Table} (d : Dialect) :
    t.CommaFree ↔ ',' ∉ (d.render t).toList := by
  rw [Dialect.comma_mem_render_iff, CommaFree]
  simp only [not_exists, not_and]

namespace Dialect

variable {d : Dialect} {ts : List Table}

/-- A list of names without commas is cut into these names. -/
theorem split_renderList (hts : ts ≠ []) (h : ∀ t ∈ ts, t.CommaFree) :
    split ',' (d.renderList ts) = ts.map d.render := by
  have hparts : ∀ part ∈ (ts.map d.render).map String.toList, ',' ∉ part := by
    intro part hpart
    obtain ⟨name, hname, rfl⟩ := List.mem_map.mp hpart
    obtain ⟨t, ht, rfl⟩ := List.mem_map.mp hname
    exact (Table.commaFree_iff d).mp (h t ht)
  rw [split, renderList, String.toList_intercalate]
  refine (congrArg _ (pieces_intercalate (by simpa using hts) hparts)).trans ?_
  rw [List.map_map]
  exact (List.map_congr_left fun name _ => String.ofList_toList).trans (List.map_id _)

end Dialect

/-! ## The items of a list setting -/

namespace Filter

variable {names : List String} {entry s : String}

theorem entries_entries (names : List String) : entries (entries names) = entries names := by
  have hstrip : (entries names).map strip = entries names := by
    refine (List.map_congr_left fun entry hentry => ?_).trans (List.map_id _)
    obtain ⟨-, name, -, rfl⟩ := mem_entries_iff.mp hentry
    exact strip_strip name
  rw [entries, hstrip]
  refine List.filter_eq_self.mpr fun entry hentry => ?_
  exact decide_eq_true (mem_entries_iff.mp hentry).1

theorem splitList_eq (s : String) : Props.splitList s = entries (split ',' s) := by
  rw [Props.splitList]
  split
  · rename_i hs
    subst hs
    decide
  · rfl

/-- What was cut out at commas holds none. -/
theorem comma_notMem_strip (h : entry ∈ split ',' s) : ',' ∉ (strip entry).toList := by
  obtain ⟨cs, hcs, rfl⟩ := List.mem_map.mp h
  intro hcomma
  rw [mem_strip (by decide), String.toList_ofList] at hcomma
  exact (mem_pieces_iff.mp ⟨cs, hcs, hcomma⟩).2 rfl

/-- A list between commas does not name a table whose own name holds a comma. -/
theorem not_names_of_comma {d : Dialect} {t : Table} (h : ',' ∈ t.name.toList) :
    ¬ Names (split ',' s) d t := by
  have hpart : t.name ∈ t.parts := List.mem_append_right _ List.mem_cons_self
  rintro ⟨entry, hentry, hspell⟩
  refine comma_notMem_strip hentry ?_
  obtain hspell | hspell | hspell := hspell <;> rw [hspell]
  · exact Dialect.comma_mem_render_iff.mpr ⟨t.name, hpart, h⟩
  · rw [Table.plain, String.toList_intercalate]
    exact mem_intercalate (List.mem_map_of_mem hpart) h
  · exact h

/-- The entries of a list of names are the names just if there is no comma in them. -/
theorem entries_renderList_iff {d : Dialect} {ts : List Table} (hts : ts ≠ []) :
    (∀ name, name ∈ entries (split ',' (d.renderList ts)) ↔ ∃ t ∈ ts, name = d.render t) ↔
      ∀ t ∈ ts, t.CommaFree := by
  constructor
  · intro h t ht
    obtain ⟨-, part, hpart, hrender⟩ := mem_entries_iff.mp ((h _).mpr ⟨t, ht, rfl⟩)
    exact (Table.commaFree_iff d).mpr (hrender ▸ comma_notMem_strip hpart)
  · intro h name
    rw [mem_entries_iff, Dialect.split_renderList hts h]
    constructor
    · rintro ⟨-, rendered, hrendered, rfl⟩
      obtain ⟨t, ht, rfl⟩ := List.mem_map.mp hrendered
      exact ⟨t, ht, d.strip_render t⟩
    · rintro ⟨t, ht, rfl⟩
      exact ⟨d.render_ne t, d.render t, List.mem_map_of_mem ht, d.strip_render t⟩

end Filter

namespace Settings

variable {p : Props} {s : Settings} {d : Dialect} {ts : List Table}

/-! ## Lists of names as whitelists -/

/-- The filter of settings with nothing but a whitelist. -/
theorem filter_whitelist (h : Read p s) (hwhitelist : p.SetsList "table.whitelist")
    (hblacklist : ¬ p.SetsList "table.blacklist") (hquery : ¬ p.SetsQuery) :
    s.filter = .ok { mode := .allow, names := s.whitelist } := by
  have hentries : Filter.entries s.whitelist = s.whitelist := by
    rw [h.whitelist, Props.list, Filter.splitList_eq, Filter.entries_entries]
  have hsome : Filter.SomeEntry s.whitelist := by
    rw [← Filter.entries_ne_nil_iff, h.whitelist]
    exact (Props.entries_list_ne_nil_iff rfl).mpr hwhitelist
  have hnone : ¬ Filter.SomeEntry s.blacklist := by
    rw [← Filter.entries_ne_nil_iff, h.blacklist]
    exact mt (Props.entries_list_ne_nil_iff rfl).mp hblacklist
  have hblank : strip s.query = "" := by
    rw [h.query]
    exact not_not.mp (mt Props.strip_query_ne_iff.mp hquery)
  exact (Filter.ofSettings_whitelist (o := ⟨s.whitelist, s.blacklist, s.query, _, _, _⟩) hsome hnone
    hblank).trans (by rw [hentries])

theorem setsList_renderList {key : String} (hts : ts ≠ []) (h : p.given key = d.renderList ts) :
    p.SetsList key := by
  obtain ⟨inner, hinner⟩ := d.enclosed_renderList hts ","
  rw [Props.SetsList, h, exists_piece_iff]
  refine ⟨d.system.opening, by simp [hinner], ?_, d.system.isBlank_opening⟩
  cases d.system <;> decide

/-- **The text of a list of tables as a whitelist.** It is accepted, and the filter keeps the tables
that are named by what stands between the commas of the text. These names are the written names of
the tables just if no comma is inside of them, and then each of the tables is kept wherever it is
listed. Otherwise the tables with a comma in their bare names are kept from no listing. -/
theorem whitelist_of_renderList (hread : ofProps p = .ok s) (hts : ts ≠ [])
    (hwhitelist : p.given "table.whitelist" = d.renderList ts)
    (hblacklist : ¬ p.SetsList "table.blacklist") (hquery : ¬ p.SetsQuery) :
    ∃ f, s.filter = .ok f ∧ f.mode = .allow ∧ f.queryMode = false ∧
      (∀ listing, f.apply d listing =
        listing.filter (Filter.Names (split ',' (d.renderList ts)) d ·)) ∧
      ((∀ name, name ∈ f.names ↔ ∃ t ∈ ts, name = d.render t) ↔ ∀ t ∈ ts, t.CommaFree) ∧
      ((∀ t ∈ ts, t.CommaFree) → ∀ t ∈ ts, ∀ listing, t ∈ listing → t ∈ f.apply d listing) ∧
      ∀ t listing, ',' ∈ t.name.toList → t ∉ f.apply d listing := by
  have hs := read_of_ofProps hread
  have hnames : s.whitelist = Filter.entries (split ',' (d.renderList ts)) := by
    rw [hs.whitelist, Props.list, Props.text_eq rfl, hwhitelist, d.strip_renderList hts,
      Filter.splitList_eq]
  let f : Filter := ⟨.allow, s.whitelist, false, "table.whitelist", "table.blacklist"⟩
  have hkept (listing : List Table) :
      f.apply d listing = listing.filter (Filter.Names (split ',' (d.renderList ts)) d ·) := by
    refine List.filter_congr fun t _ => ?_
    rw [Filter.passes, Bool.eq_iff_iff, Filter.holds_iff hnames, decide_eq_true_eq]
  refine ⟨_, filter_whitelist hs (setsList_renderList hts hwhitelist) hblacklist hquery, rfl, rfl,
    hkept, ?_, fun hfree t ht listing hmem => ?_, fun t listing hcomma hmem => ?_⟩
  · dsimp only
    rw [hnames]
    exact Filter.entries_renderList_iff hts
  · rw [hkept, List.mem_filter]
    refine ⟨hmem, decide_eq_true ⟨d.render t, ?_, .inl (d.strip_render t)⟩⟩
    rw [Dialect.split_renderList hts hfree]
    exact List.mem_map_of_mem ht
  · rw [hkept] at hmem
    exact Filter.not_names_of_comma hcomma (of_decide_eq_true (List.mem_filter.mp hmem).2)

/-- Settings of a shop that copies the tables of a list. -/
def listedProps (d : Dialect) (ts : List Table) : Props :=
  [("connection.url", some "sqlserver://localhost/shop"),
    ("table.whitelist", some (d.renderList ts))]

/-- A name with the closing mark, a point and blanks at its ends is whitelisted by the list. -/
theorem whitelist_of_renderList_odd :
    let d : Dialect := ⟨.sqlServer, "", none, none, [], none⟩
    let t : Table := ⟨none, some "sales", " a].[b ", by decide⟩
    ∃ s f, ofProps (listedProps d [t]) = .ok s ∧ s.filter = .ok f ∧
      (∀ name, name ∈ f.names ↔ name = "[sales].[ a]].[b ]") ∧ t ∈ f.apply d [t] := by
  intro d t
  obtain ⟨s, hs⟩ : ∃ s, ofProps (listedProps d [t]) = .ok s :=
    exists_ok_of_isSome (by decide +kernel)
  have hfree : ∀ u ∈ [t], u.CommaFree := by
    intro u hu
    obtain rfl := List.mem_singleton.mp hu
    exact (Table.commaFree_iff d).mpr (by decide +kernel)
  have hblacklist : ¬ (listedProps d [t]).SetsList "table.blacklist" := by
    rintro ⟨item, hitem, hne⟩
    obtain rfl := List.mem_singleton.mp hitem
    exact hne rfl
  obtain ⟨f, hf, -, -, -, hnames, hkept, -⟩ := whitelist_of_renderList hs (List.cons_ne_nil t [])
    (show (listedProps d [t]).given "table.whitelist" = d.renderList [t] by decide +kernel)
    hblacklist (fun hquery => hquery rfl)
  refine ⟨s, f, hs, hf, fun name => ?_, hkept hfree t (.head _) [t] (.head _)⟩
  have hrender : d.render t = "[sales].[ a]].[b ]" := by decide +kernel
  rw [hnames.mpr hfree, ← hrender]
  simp

/-- **A comma in a name is taken for the end of it.** The filter of a whitelist of one table drops
this table and lets another one pass, whose name stands between two commas. -/
theorem comma_splits_name :
    let d : Dialect := ⟨.postgres, "", none, none, [], none⟩
    let t : Table := ⟨none, none, "a,orders,b", by decide⟩
    let orders : Table := ⟨none, some "public", "orders", by decide⟩
    let f : Filter := { mode := .allow, names := ["\"a", "orders", "b\""] }
    (ofProps (listedProps d [t]) >>= filter) = .ok f ∧ d.renderList [t] = "\"a,orders,b\"" ∧
      f.apply d [t, orders] = [orders] := by
  intro d t orders f
  exact ⟨eq_ok_of_toOption (by decide +kernel), by decide +kernel, by decide +kernel⟩

end Settings

end TableDiscovery
