import TableDiscovery.Dialect.Basic

/-!
# Reading lists of names

The names of tables in a list can be read back from the text of the list, whatever characters they
hold: a closing mark inside a name is written twice, and what follows a name begins neither with a
closing mark nor, between two tables, with a point.

* `Quotes.doubled`, `Quotes.written`, `Quotes.joined`: what is written for a name and for a table;
* `Quotes.readName`, `Quotes.readParts`, `Quotes.readTables`: readers for it;
* `readName_doubled`, `readParts_joined`, `readTables_joined`: they read what is written;
* `Dialect.Separates`: the delimiters that can be told from names;
* **`renderList_readable`**: the parts of the tables are read back from their list.
-/

namespace TableDiscovery

namespace Quotes

/-! ## Writing and reading names -/

/-- A name with its closing marks written twice. -/
def doubled (mark : Char) (cs : List Char) : List Char :=
  cs.flatMap fun c => if c = mark then [c, c] else [c]

theorem replaceFrom_eq_doubled (mark : Char) (cs : List Char) :
    Text.replaceFrom [mark] [mark, mark] 0 cs = doubled mark cs := by
  induction cs with
  | nil => rfl
  | cons c cs ih =>
    rw [doubled, List.flatMap_cons, ← doubled]
    by_cases hc : c = mark
    · simp [Text.replaceFrom, hc, ih]
    · simp [Text.replaceFrom, hc, Ne.symm hc, ih]

/-- The name before the first single mark, where two marks stand for one, and what follows. -/
def readName (mark : Char) : List Char → Option (List Char × List Char)
  | [] => none
  | [c] => if c = mark then some ([], []) else none
  | c :: d :: rest =>
    if c = mark then
      if d = mark then (readName mark rest).map fun p => (mark :: p.1, p.2)
      else some ([], d :: rest)
    else (readName mark (d :: rest)).map fun p => (c :: p.1, p.2)

section Name

variable {mark c : Char} {cs name rest : List Char}

theorem readName_cons (h : c ≠ mark) :
    readName mark (c :: cs) = (readName mark cs).map fun p => (c :: p.1, p.2) := by
  cases cs with
  | nil => simp [readName, h]
  | cons d cs => simp [readName, h]

theorem readName_mark (h : rest.head? ≠ some mark) :
    readName mark (mark :: rest) = some ([], rest) := by
  cases rest with
  | nil => simp [readName]
  | cons d rest =>
    have hd : d ≠ mark := by simpa using h
    simp [readName, hd]

/-- What is written for a name is read as this name, unless another mark follows. -/
theorem readName_doubled (h : rest.head? ≠ some mark) :
    readName mark (doubled mark name ++ mark :: rest) = some (name, rest) := by
  induction name with
  | nil => exact readName_mark h
  | cons c name ih =>
    rw [doubled, List.flatMap_cons, ← doubled, List.append_assoc]
    by_cases hc : c = mark
    · subst hc
      simp [readName, ih]
    · rw [if_neg hc, List.singleton_append, readName_cons hc, ih]
      rfl

theorem length_of_readName (h : readName mark cs = some (name, rest)) :
    rest.length < cs.length := by
  fun_induction readName mark cs generalizing name with
  | case1 => cases h
  | case2 => cases h; simp
  | case3 => cases h
  | case4 cs ih =>
    obtain ⟨p, hp, hpair⟩ := Option.map_eq_some_iff.mp h
    obtain ⟨-, rfl⟩ := Prod.mk.inj hpair
    have := ih hp
    simp only [List.length_cons]
    omega
  | case5 d cs => cases h; simp
  | case6 c d cs hc ih =>
    obtain ⟨p, hp, hpair⟩ := Option.map_eq_some_iff.mp h
    obtain ⟨-, rfl⟩ := Prod.mk.inj hpair
    have := ih hp
    simp only [List.length_cons] at this ⊢
    omega

end Name

/-! ## Writing and reading tables -/

section Tables

variable (opening closing : Char)

/-- A name between its marks. -/
def written (name : String) : List Char := opening :: (doubled closing name.toList ++ [closing])

/-- Names between their marks, with points between them. -/
def joined (names : List String) : List Char :=
  ['.'].intercalate (names.map (written opening closing))

/-- The names of a table, and what follows them. -/
def readParts (cs : List Char) : Option (List String × List Char) :=
  match cs with
  | [] => none
  | c :: cs =>
    if c = opening then
      match _h : readName closing cs with
      | none => none
      | some (name, rest) =>
        if rest.head? = some '.' then
          (readParts rest.tail).map fun p => (String.ofList name :: p.1, p.2)
        else some ([String.ofList name], rest)
    else none
termination_by cs.length
decreasing_by
  have := length_of_readName _h
  simp only [List.length_tail, List.length_cons]
  omega

theorem length_of_readParts {cs rest : List Char} {names : List String}
    (h : readParts opening closing cs = some (names, rest)) : rest.length < cs.length := by
  fun_induction readParts opening closing cs generalizing names with
  | case1 => cases h
  | case2 => cases h
  | case3 cs name rest' hname _ ih =>
    obtain ⟨p, hp, hpair⟩ := Option.map_eq_some_iff.mp h
    obtain ⟨-, rfl⟩ := Prod.mk.inj hpair
    have := ih hp
    have := length_of_readName hname
    simp only [List.length_tail, List.length_cons] at *
    omega
  | case4 cs name rest' hname _ =>
    cases h
    have := length_of_readName hname
    simp only [List.length_cons]
    omega
  | case5 => cases h

/-- The names of tables with a delimiter between the tables. -/
def readTables (delimiter cs : List Char) : Option (List (List String)) :=
  match _h : readParts opening closing cs with
  | none => none
  | some (names, rest) =>
    if rest = [] then some [names]
    else if delimiter.isPrefixOf rest then
      (readTables delimiter (rest.drop delimiter.length)).map (names :: ·)
    else none
termination_by cs.length
decreasing_by
  have := length_of_readParts opening closing _h
  simp only [List.length_drop]
  omega

variable {opening closing}

/-- A list with a delimiter begins as its first part does. -/
theorem head?_intercalate {c : Char} {part : List Char} (h : part.head? = some c)
    (delimiter : List Char) (parts : List (List Char)) :
    (delimiter.intercalate (part :: parts)).head? = some c := by
  cases parts with
  | nil => rwa [List.intercalate_singleton]
  | cons next parts =>
    rw [List.intercalate_cons_cons, List.append_assoc, List.head?_append, h, Option.some_or]

/-- What is written for names begins with a mark. -/
theorem head?_joined {names : List String} (h : names ≠ []) :
    (joined opening closing names).head? = some opening := by
  obtain ⟨name, names, rfl⟩ := List.exists_cons_of_ne_nil h
  rw [joined, List.map_cons]
  exact head?_intercalate (show (written opening closing name).head? = some opening from rfl) _ _

theorem readTables_nil {delimiter : List Char} :
    readTables opening closing delimiter [] = none := by
  rw [readTables]
  split
  · rfl
  · rename_i h
    rw [readParts] at h
    cases h

theorem readTables_of_readParts {delimiter cs rest : List Char} {names : List String}
    (h : readParts opening closing cs = some (names, rest)) :
    readTables opening closing delimiter cs =
      if rest = [] then some [names]
      else if delimiter.isPrefixOf rest then
        (readTables opening closing delimiter (rest.drop delimiter.length)).map (names :: ·)
      else none := by
  rw [readTables]
  split
  · rename_i hnone
    cases h.symm.trans hnone
  · rename_i hsome
    cases h.symm.trans hsome
    rfl

theorem readParts_written {name : String} {rest : List Char} (h : rest.head? ≠ some closing) :
    readParts opening closing (written opening closing name ++ rest) =
      if rest.head? = some '.' then
        (readParts opening closing rest.tail).map fun p => (name :: p.1, p.2)
      else some ([name], rest) := by
  have hname : readName closing (doubled closing name.toList ++ [closing] ++ rest) =
      some (name.toList, rest) := by
    rw [List.append_assoc]
    exact readName_doubled h
  rw [written, List.cons_append, readParts, if_pos rfl]
  split
  · rename_i hnone
    cases hname.symm.trans hnone
  · rename_i hsome
    cases hname.symm.trans hsome
    rw [String.ofList_toList]

/-- What is written for a table is read as its names, unless another mark or a point follows. -/
theorem readParts_joined (hclosing : closing ≠ '.') {names : List String} (hnames : names ≠ [])
    {rest : List Char} (h : rest.head? ≠ some closing) (hpoint : rest.head? ≠ some '.') :
    readParts opening closing (joined opening closing names ++ rest) = some (names, rest) := by
  induction names with
  | nil => exact absurd rfl hnames
  | cons name names ih =>
    cases names with
    | nil =>
      rw [joined, List.map_singleton, List.intercalate_singleton, readParts_written h,
        if_neg hpoint]
    | cons next names =>
      have hrest := ih nofun
      rw [joined, List.map_cons, List.map_cons, List.intercalate_cons_cons, ← List.map_cons,
        ← joined, List.append_assoc, List.append_assoc,
        readParts_written (by simpa using hclosing.symm)]
      simp [hrest]

/-- What is written for tables is read as their names, if the delimiter begins neither with a mark
nor with a point. -/
theorem readTables_joined (hclosing : closing ≠ '.') {c : Char} {cs : List Char}
    (hc : c ≠ closing) (hpoint : c ≠ '.') {tables : List (List String)} (htables : tables ≠ [])
    (hnames : ∀ names ∈ tables, names ≠ []) :
    readTables opening closing (c :: cs)
      ((c :: cs).intercalate (tables.map (joined opening closing))) = some tables := by
  induction tables with
  | nil => exact absurd rfl htables
  | cons names tables ih =>
    have hfirst := hnames names List.mem_cons_self
    cases tables with
    | nil =>
      have hread : readParts opening closing (joined opening closing names ++ []) =
          some (names, []) := readParts_joined hclosing hfirst nofun nofun
      rw [List.append_nil] at hread
      rw [List.map_singleton, List.intercalate_singleton, readTables_of_readParts hread, if_pos rfl]
    | cons next tables =>
      have hrest := ih nofun fun names h => hnames names (List.mem_cons_of_mem _ h)
      rw [List.map_cons, List.map_cons, List.intercalate_cons_cons, ← List.map_cons,
        List.append_assoc]
      generalize (c :: cs).intercalate _ = text at hrest
      have hread : readParts opening closing (joined opening closing names ++ (c :: cs ++ text)) =
          some (names, c :: cs ++ text) :=
        readParts_joined hclosing hfirst (by simpa using hc) (by simpa using hpoint)
      rw [readTables_of_readParts hread]
      simp [hrest]

end Tables

end Quotes

/-! ## Lists of tables -/

theorem Table.parts_ne_nil (t : Table) : t.parts ≠ [] := by
  simp [parts]

namespace Dialect

/-- The mark before a name. -/
def System.opening : System → Char
  | .sqlServer => '['
  | _ => '"'

/-- The mark after a name. -/
def System.closing : System → Char
  | .sqlServer => ']'
  | _ => '"'

theorem System.quotes_eq (s : System) :
    s.quotes = ⟨String.singleton s.opening, String.singleton s.closing⟩ := by
  cases s <;> rfl

theorem System.closing_ne (s : System) : s.closing ≠ '.' := by
  cases s <;> decide

theorem toList_around (s : System) (part : String) :
    (s.quotes.around part).toList = Quotes.written s.opening s.closing part := by
  rw [s.quotes_eq, Quotes.around, Text.replaceAll, if_neg (by simp), Quotes.written]
  simp [Quotes.replaceFrom_eq_doubled]

theorem toList_render (d : Dialect) (t : Table) :
    (d.render t).toList = Quotes.joined d.system.opening d.system.closing t.parts := by
  rw [render, Table.qualified, String.toList_intercalate, List.map_map, Quotes.joined]
  congr 2
  funext part
  exact toList_around d.system part

theorem toList_renderList (d : Dialect) (ts : List Table) (delimiter : String) :
    (d.renderList ts delimiter).toList = delimiter.toList.intercalate
      ((ts.map Table.parts).map (Quotes.joined d.system.opening d.system.closing)) := by
  rw [renderList, String.toList_intercalate, List.map_map, List.map_map]
  congr 2
  funext t
  exact toList_render d t

/-- A list of names begins with the mark before a name. -/
theorem head?_renderList (d : Dialect) {ts : List Table} (h : ts ≠ []) (delimiter : String) :
    (d.renderList ts delimiter).toList.head? = some d.system.opening := by
  obtain ⟨t, ts, rfl⟩ := List.exists_cons_of_ne_nil h
  rw [toList_renderList, List.map_cons, List.map_cons]
  exact Quotes.head?_intercalate (Quotes.head?_joined t.parts_ne_nil) _ _

/-- **Only for no tables there is nothing to write.** -/
theorem renderList_eq_empty_iff {d : Dialect} {ts : List Table} {delimiter : String} :
    d.renderList ts delimiter = "" ↔ ts = [] := by
  cases ts with
  | nil => exact iff_of_true rfl rfl
  | cons t ts =>
    refine iff_of_false (fun hempty => ?_) nofun
    have hhead := head?_renderList d (List.cons_ne_nil t ts) delimiter
    rw [hempty] at hhead
    cases hhead

/-- The parts of the tables of a list; no table is the empty text. -/
def readList (d : Dialect) (delimiter text : String) : Option (List (List String)) :=
  if text = "" then some []
  else Quotes.readTables d.system.opening d.system.closing delimiter.toList text.toList

/-- The delimiter begins with a character that can neither follow a name in a table nor belong to
the name. -/
def Separates (d : Dialect) (delimiter : String) : Prop :=
  ∃ c cs, delimiter.toList = c :: cs ∧ c ≠ '.' ∧ String.singleton c ≠ d.system.quotes.closing

theorem separates_comma (d : Dialect) : d.Separates "," := by
  refine ⟨',', [], rfl, by decide, ?_⟩
  cases d.system <;> decide

theorem separates_comma_space (d : Dialect) : d.Separates ", " := by
  refine ⟨',', [' '], rfl, by decide, ?_⟩
  cases d.system <;> decide

/-- **What is written for tables is read as their parts.** -/
theorem readList_renderList {d : Dialect} {delimiter : String} (h : d.Separates delimiter)
    (ts : List Table) :
    d.readList delimiter (d.renderList ts delimiter) = some (ts.map Table.parts) := by
  obtain ⟨c, cs, hdelimiter, hpoint, hmark⟩ := h
  have hclosing : c ≠ d.system.closing := by
    rintro rfl
    exact hmark (by rw [System.quotes_eq])
  cases ts with
  | nil => rfl
  | cons t ts =>
    have hread : Quotes.readTables d.system.opening d.system.closing delimiter.toList
        (d.renderList (t :: ts) delimiter).toList = some ((t :: ts).map Table.parts) := by
      rw [toList_renderList, hdelimiter]
      refine Quotes.readTables_joined d.system.closing_ne hclosing hpoint nofun ?_
      intro names hnames
      obtain ⟨t, -, rfl⟩ := List.mem_map.mp hnames
      exact t.parts_ne_nil
    rw [readList, if_neg, hread]
    intro hempty
    rw [hempty] at hread
    cases hread.symm.trans Quotes.readTables_nil

/-- **Lists of names can be read.** If the delimiter begins neither with a point nor with a closing
mark, as a comma does, the parts of the tables are read back from the text of their list. So lists
with the same text have the same tables, one by one, but for parts that are absent or empty. -/
theorem renderList_readable (d : Dialect) :
    (d.Separates "," ∧ d.Separates ", ") ∧ ∀ delimiter, d.Separates delimiter →
      (∀ ts, d.readList delimiter (d.renderList ts delimiter) = some (ts.map Table.parts)) ∧
        ∀ ts us, d.renderList ts delimiter = d.renderList us delimiter ↔
          ts.map Table.parts = us.map Table.parts := by
  refine ⟨⟨separates_comma d, separates_comma_space d⟩, fun delimiter h => ?_⟩
  refine ⟨readList_renderList h, fun ts us => ⟨fun heq => ?_, fun heq => ?_⟩⟩
  · have hts := readList_renderList h ts
    rw [heq, readList_renderList h us] at hts
    exact (Option.some.inj hts).symm
  · rw [← String.toList_inj, toList_renderList, toList_renderList, heq]

/-- Tables with marks, points, commas and the delimiter in their names. -/
def oddTables : List Table :=
  [⟨some "a\"", some "", "\", \"", by decide⟩, ⟨none, some ".\"\".", "]][", by decide⟩]

/-- The odd tables in a list of each kind of marks. -/
theorem renderList_readable_odd :
    let p : Dialect := ⟨.postgres, "", none, none, [], none⟩
    let s : Dialect := ⟨.sqlServer, "", none, none, [], none⟩
    p.Separates ", " ∧ s.Separates "\"." ∧
      p.renderList oddTables ", " = "\"a\"\"\".\"\"\", \"\"\", \".\"\"\"\".\".\"]][\"" ∧
      p.readList ", " (p.renderList oddTables ", ") =
        some [["a\"", "\", \""], [".\"\".", "]]["]] ∧
      s.readList "\"." (s.renderList oddTables "\".") =
        some [["a\"", "\", \""], [".\"\".", "]]["]] := by
  intro p s
  have hp : p.Separates ", " := (renderList_readable p).1.2
  have hs : s.Separates "\"." := ⟨'"', ['.'], rfl, by decide, by decide⟩
  exact ⟨hp, hs, by decide +kernel, ((renderList_readable p).2 ", " hp).1 oddTables,
    ((renderList_readable s).2 "\"." hs).1 oddTables⟩

end Dialect

end TableDiscovery
