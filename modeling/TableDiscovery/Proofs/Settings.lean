import Mathlib.Tactic.SplitIfs
import Mathlib.Tactic.Tauto
import TableDiscovery.Proofs.Act
import TableDiscovery.Proofs.Text.Integer
import TableDiscovery.Settings

/-!
# Reading settings

Settings are accepted if the URL is not blank and the integers are numbers that are large enough.
They give a table filter unless two of whitelist, blacklist and query are set. All other faults of
settings are configuration faults, too.

* `Props.given`, `Props.SetsList`, `Props.SetsQuery`: what is set, said of the texts as they are;
* `Props.HoldsInteger`, `Props.Invalid`, `Props.Conflicting`: settings that are refused;
* `Settings.Read`, **`read_of_ofProps`**: what accepted settings hold;
* `tableTypes_of_ofProps`: the table types that they ask for;
* `fault_of_ofProps`, `kind_of_ofProps`, **`ofProps_eq_error_iff`**: refused settings;
* **`filter_eq_error_iff`**, `kind_of_filter`: conflicting settings;
* **`queryMode_filter`**: settings and their filter agree on whether there is a query.
-/

namespace TableDiscovery

open Act Text

namespace Props

variable {p : Props} {key : String} {least n : Int}

/-! ## What is set -/

/-- The text that is given for a key, empty if there is none. -/
def given (p : Props) (key : String) : String := (Assoc.get? p key).join.getD ""

/-- A list is set: one of its items, between commas, is not blank. -/
def SetsList (p : Props) (key : String) : Prop :=
  ∃ item ∈ split ',' (p.given key), strip item ≠ ""

/-- A query is set: it is not blank. -/
def SetsQuery (p : Props) : Prop := strip (p.given "query") ≠ ""

theorem text_eq (h : Assoc.get? defaults key = none) : p.text key = strip (p.given key) := by
  have hgiven : (p.value? key).getD "" = p.given key := by
    rw [value?, given]
    cases (Assoc.get? p key).join with
    | none => rfl
    | some s =>
      by_cases hs : s = ""
      · subst hs
        rfl
      · simp [Option.filter, hs]
  rw [text, h]
  exact congrArg strip hgiven

theorem splitList_ne_nil_iff {s : String} :
    splitList s ≠ [] ↔ ∃ item ∈ split ',' s, strip item ≠ "" := by
  have hitems : ((split ',' s).map strip).filter (· ≠ "") ≠ [] ↔
      ∃ item ∈ split ',' s, strip item ≠ "" := by
    rw [Ne, List.filter_eq_nil_iff]
    simp
  rw [splitList]
  split
  · rename_i hs
    subst hs
    exact iff_of_false (fun h => h rfl) (by decide)
  · exact hitems

/-- Each item of a list holds something. -/
theorem strip_ne_of_mem_splitList {s item : String} (h : item ∈ splitList s) :
    strip item ≠ "" := by
  rw [splitList] at h
  split at h
  · cases h
  · obtain ⟨hmem, hne⟩ := List.mem_filter.mp h
    obtain ⟨part, -, rfl⟩ := List.mem_map.mp hmem
    rw [strip_strip]
    simpa using hne

theorem list_ne_nil_iff (h : Assoc.get? defaults key = none) :
    p.list key ≠ [] ↔ p.SetsList key := by
  rw [list, text_eq h, splitList_ne_nil_iff, exists_piece_strip_iff, SetsList]

/-- **Trimming the items again makes no list blank.** -/
theorem entries_list_ne_nil_iff (h : Assoc.get? defaults key = none) :
    Filter.entries (p.list key) ≠ [] ↔ p.SetsList key := by
  rw [← list_ne_nil_iff h, Filter.entries, Ne, List.filter_eq_nil_iff]
  constructor
  · intro hentries hnil
    rw [hnil] at hentries
    exact hentries (by simp)
  · intro hlist hentries
    obtain ⟨item, hitem⟩ := List.exists_mem_of_ne_nil _ hlist
    have hblank := hentries (strip item) (List.mem_map_of_mem hitem)
    exact strip_ne_of_mem_splitList hitem (by simpa using hblank)

theorem strip_query_ne_iff : strip (p.text "query") ≠ "" ↔ p.SetsQuery := by
  rw [text_eq rfl, strip_strip, SetsQuery]

/-! ## Settings that are refused -/

/-- The settings that are integers, with the least value of each. -/
def integerSettings : List (String × Int) :=
  [("connection.attempts", 1), ("connection.backoff.ms", 0), ("table.poll.interval.ms", 1),
    ("tasks.max", 1)]

/-- The value of a key, or its default, is an integer that is large enough. -/
def HoldsInteger (p : Props) (key : String) (least : Int) : Prop :=
  ∃ n, parseInt? (p.text key) = some n ∧ least ≤ n

/-- Settings that are invalid by themselves: an integer is none or too small, or the URL is
blank. -/
def Invalid (p : Props) : Prop :=
  (∃ x ∈ integerSettings, ¬ p.HoldsInteger x.1 x.2) ∨ strip (p.given "connection.url") = ""

/-- Two of whitelist, blacklist and query are set. -/
def Conflicting (p : Props) : Prop :=
  (p.SetsList "table.whitelist" ∧ p.SetsList "table.blacklist") ∨
    (p.SetsList "table.whitelist" ∧ p.SetsQuery) ∨ (p.SetsList "table.blacklist" ∧ p.SetsQuery)

theorem integer_eq_ok_iff :
    p.integer key least = .ok n ↔ parseInt? (p.text key) = some n ∧ least ≤ n := by
  rw [integer]
  cases parseInt? (p.text key) with
  | none => simp
  | some k =>
    by_cases hk : k < least
    · simp only [hk, if_true]
      constructor
      · nofun
      · rintro ⟨heq, hle⟩
        have := Option.some.inj heq
        omega
    · simp only [hk, if_false, Except.ok.injEq, Option.some.injEq]
      constructor
      · rintro rfl
        exact ⟨rfl, by omega⟩
      · exact fun h => h.1

theorem holdsInteger_of_integer (h : p.integer key least = .ok n) : p.HoldsInteger key least :=
  ⟨n, integer_eq_ok_iff.mp h⟩

theorem not_holdsInteger_of_integer {f : Fault} (h : p.integer key least = .error f) :
    ¬ p.HoldsInteger key least := by
  rintro ⟨n, hn⟩
  cases h.symm.trans (integer_eq_ok_iff.mpr hn)

theorem kind_of_integer {f : Fault} (h : p.integer key least = .error f) :
    f.kind = .configuration := by
  rw [integer] at h
  split at h
  · cases h
    rfl
  · split at h
    · cases h
      rfl
    · cases h

end Props

namespace Settings

variable {p : Props} {s : Settings} {f : Fault} {t : Filter}

/-! ## Accepted settings -/

/-- What settings hold that have been read. -/
structure Read (p : Props) (s : Settings) : Prop where
  props : s.props = p
  url : s.url = p.text "connection.url"
  url_ne : s.url ≠ ""
  attempts : p.integer "connection.attempts" 1 = .ok s.attempts
  backoff : p.integer "connection.backoff.ms" 0 = .ok s.backoff
  pollInterval : p.integer "table.poll.interval.ms" 1 = .ok s.pollInterval
  tasksMax : p.integer "tasks.max" 1 = .ok s.tasksMax
  whitelist : s.whitelist = p.list "table.whitelist"
  blacklist : s.blacklist = p.list "table.blacklist"
  query : s.query = p.text "query"

/-- **What is read of accepted settings.** -/
theorem read_of_ofProps (h : ofProps p = .ok s) : Read p s := by
  rw [ofProps] at h
  dsimp only at h
  split at h
  · cases h
  · rename_i hurl
    obtain ⟨attempts, hattempts, h⟩ := ok_of_bind h
    obtain ⟨backoff, hbackoff, h⟩ := ok_of_bind h
    obtain ⟨interval, hinterval, h⟩ := ok_of_bind h
    obtain ⟨tasks, htasks, h⟩ := ok_of_bind h
    cases h
    exact ⟨rfl, rfl, hurl, hattempts, hbackoff, hinterval, htasks, by dsimp only, by dsimp only,
      rfl⟩

/-- The table types of accepted settings are those that are given, or ordinary tables. -/
theorem tableTypes_of_ofProps (h : ofProps p = .ok s) :
    s.tableTypes =
      if (p.list "table.types").isEmpty then ["TABLE"] else p.list "table.types" := by
  rw [ofProps] at h
  dsimp only at h
  split at h
  · cases h
  · obtain ⟨attempts, -, h⟩ := ok_of_bind h
    obtain ⟨backoff, -, h⟩ := ok_of_bind h
    obtain ⟨interval, -, h⟩ := ok_of_bind h
    obtain ⟨tasks, -, h⟩ := ok_of_bind h
    rw [← Except.ok.inj h]

/-- Settings that are refused have no URL, or an integer of theirs is refused. -/
theorem fault_of_ofProps (h : ofProps p = .error f) :
    (strip (p.given "connection.url") = "" ∧ f = .missingSetting "connection.url") ∨
      ∃ x ∈ Props.integerSettings, p.integer x.1 x.2 = .error f := by
  rw [ofProps] at h
  dsimp only at h
  split at h
  · rename_i hurl
    cases h
    exact .inl ⟨by rwa [Props.text_eq rfl] at hurl, rfl⟩
  · refine .inr ?_
    obtain h | ⟨attempts, -, h⟩ := error_of_bind h
    · exact ⟨_, .head _, h⟩
    obtain h | ⟨backoff, -, h⟩ := error_of_bind h
    · exact ⟨_, .tail _ (.head _), h⟩
    obtain h | ⟨interval, -, h⟩ := error_of_bind h
    · exact ⟨_, .tail _ (.tail _ (.head _)), h⟩
    obtain h | ⟨tasks, -, h⟩ := error_of_bind h
    · exact ⟨_, .tail _ (.tail _ (.tail _ (.head _))), h⟩
    · cases h

theorem kind_of_ofProps (h : ofProps p = .error f) : f.kind = .configuration := by
  obtain ⟨-, rfl⟩ | ⟨x, -, hx⟩ := fault_of_ofProps h
  · rfl
  · exact Props.kind_of_integer hx

namespace Read

theorem one_le_attempts (h : Read p s) : 1 ≤ s.attempts :=
  (Props.integer_eq_ok_iff.mp h.attempts).2

theorem one_le_pollInterval (h : Read p s) : 1 ≤ s.pollInterval :=
  (Props.integer_eq_ok_iff.mp h.pollInterval).2

theorem one_le_tasksMax (h : Read p s) : 1 ≤ s.tasksMax :=
  (Props.integer_eq_ok_iff.mp h.tasksMax).2

theorem pollInterval_lt (h : Read p s) : s.pollInterval.natAbs < Nat.pow 10 Text.maxDigits :=
  Text.parseInt_lt (Props.integer_eq_ok_iff.mp h.pollInterval).1

theorem attempts_lt (h : Read p s) : s.attempts.natAbs < Nat.pow 10 Text.maxDigits :=
  Text.parseInt_lt (Props.integer_eq_ok_iff.mp h.attempts).1

theorem tasksMax_lt (h : Read p s) : s.tasksMax.natAbs < Nat.pow 10 Text.maxDigits :=
  Text.parseInt_lt (Props.integer_eq_ok_iff.mp h.tasksMax).1

theorem queryMode_iff (h : Read p s) : s.queryMode = true ↔ p.SetsQuery := by
  rw [queryMode, decide_eq_true_eq, h.query, Props.text_eq rfl, Props.SetsQuery]

end Read

/-- **Settings are refused just if they are invalid by themselves.** -/
theorem ofProps_eq_error_iff : (∃ f, ofProps p = .error f) ↔ p.Invalid := by
  constructor
  · rintro ⟨f, h⟩
    obtain ⟨hurl, -⟩ | ⟨x, hx, hinteger⟩ := fault_of_ofProps h
    · exact .inr hurl
    · exact .inl ⟨x, hx, Props.not_holdsInteger_of_integer hinteger⟩
  · intro hinvalid
    cases hread : ofProps p with
    | error f => exact ⟨f, rfl⟩
    | ok s =>
      have hs := read_of_ofProps hread
      rcases hinvalid with ⟨x, hx, hnone⟩ | hurl
      · refine absurd ?_ hnone
        simp only [Props.integerSettings, List.mem_cons, List.not_mem_nil, or_false] at hx
        rcases hx with rfl | rfl | rfl | rfl
        · exact Props.holdsInteger_of_integer hs.attempts
        · exact Props.holdsInteger_of_integer hs.backoff
        · exact Props.holdsInteger_of_integer hs.pollInterval
        · exact Props.holdsInteger_of_integer hs.tasksMax
      · refine absurd ?_ hs.url_ne
        rw [hs.url, Props.text_eq rfl, hurl]

/-! ## Filters -/

theorem kind_of_filter (h : s.filter = .error f) : f.kind = .configuration := by
  rw [filter, Filter.ofSettings] at h
  dsimp only at h
  split_ifs at h <;> cases h <;> rfl

/-- A filter cannot be made just if two of its three settings hold something. -/
theorem ofSettings_eq_error_iff (o : Filter.Settings) :
    (∃ f, Filter.ofSettings o = .error f) ↔
      (Filter.entries o.whitelist ≠ [] ∧ Filter.entries o.blacklist ≠ []) ∨
        (Filter.entries o.whitelist ≠ [] ∧ strip o.query ≠ "") ∨
          (Filter.entries o.blacklist ≠ [] ∧ strip o.query ≠ "") := by
  rw [Filter.ofSettings]
  dsimp only
  by_cases hallowed : Filter.entries o.whitelist ≠ []
  · by_cases hdenied : Filter.entries o.blacklist ≠ []
    · simp [hallowed, hdenied]
    · by_cases hquery : strip o.query ≠ "" <;> simp [hallowed, hdenied, hquery]
  · by_cases hdenied : Filter.entries o.blacklist ≠ []
    · by_cases hquery : strip o.query ≠ "" <;> simp [hallowed, hdenied, hquery]
    · by_cases hquery : strip o.query ≠ "" <;> simp [hallowed, hdenied, hquery]

/-- **There is a filter unless two of whitelist, blacklist and query are set.** -/
theorem filter_eq_error_iff (h : Read p s) : (∃ f, s.filter = .error f) ↔ p.Conflicting := by
  have hallowed : Filter.entries s.whitelist ≠ [] ↔ p.SetsList "table.whitelist" := by
    rw [h.whitelist]
    exact Props.entries_list_ne_nil_iff rfl
  have hdenied : Filter.entries s.blacklist ≠ [] ↔ p.SetsList "table.blacklist" := by
    rw [h.blacklist]
    exact Props.entries_list_ne_nil_iff rfl
  have hquery : strip s.query ≠ "" ↔ p.SetsQuery := by
    rw [h.query]
    exact Props.strip_query_ne_iff
  rw [filter, ofSettings_eq_error_iff, Props.Conflicting, hallowed, hdenied, hquery]

/-- No dialect is found for a name that is unknown, or for a URL that has an unknown scheme or
cannot be read. -/
theorem fault_of_dialect (h : s.dialect = .error f) :
    f.kind = .configuration ∨ ∃ cause, Url.parse s.url = .error cause ∧ f = .url cause := by
  have hfind : Dialect.System.find s.url s.dialectName = .error f := by
    rw [dialect, Dialect.find] at h
    cases hs : Dialect.System.find s.url s.dialectName with
    | error g =>
      rw [hs] at h
      exact congrArg _ (Except.error.inj h)
    | ok d =>
      rw [hs] at h
      cases h
  rw [Dialect.System.find] at hfind
  split at hfind
  · split at hfind
    · cases hfind
    · cases hfind
      exact .inl rfl
  · split at hfind
    · rename_i cause hparse
      cases hfind
      exact .inr ⟨cause, hparse, rfl⟩
    · split at hfind
      · cases hfind
      · cases hfind
        exact .inl rfl

theorem kind_of_dialect (h : s.dialect = .error f) : f.kind = .configuration ∨ f.kind = .value := by
  obtain hkind | ⟨cause, -, rfl⟩ := fault_of_dialect h
  · exact .inl hkind
  · exact .inr rfl

/-- **Settings and their filter agree on whether there is a query.** -/
theorem queryMode_filter (h : Read p s) (ht : s.filter = .ok t) : t.queryMode = s.queryMode := by
  have hquery : strip s.query ≠ "" ↔ s.query ≠ "" := by
    rw [h.query, Props.text_eq rfl, strip_strip]
  rw [filter, Filter.ofSettings] at ht
  dsimp only at ht
  rw [queryMode]
  split_ifs at ht with _ hset <;> cases ht
  · exact (decide_eq_true (hquery.mp hset)).symm
  all_goals exact (decide_eq_false fun hne => hset (hquery.mpr hne)).symm

/-- With a query the filter lets no table pass. -/
theorem apply_of_queryMode (h : Read p s) (ht : s.filter = .ok t) (hq : s.queryMode = true)
    (d : Dialect) (ts : List Table) : t.apply d ts = [] := by
  have hmode := (queryMode_filter h ht).trans hq
  rw [filter, Filter.ofSettings] at ht
  dsimp only at ht
  split_ifs at ht <;> cases ht
  · simp [Filter.apply, Filter.passes, Filter.holds]
  all_goals cases hmode

end Settings

end TableDiscovery
