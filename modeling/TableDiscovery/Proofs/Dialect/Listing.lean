import Mathlib.Data.List.Forall2
import TableDiscovery.Proofs.Settings
import TableDiscovery.Proofs.Text.Fill

/-!
# The listing query and its parameters

The text of the listing query holds nothing of what is listed. It has a placeholder for each
parameter, and filling the placeholders with the parameters in their order puts each value where it
is compared.

* `Dialect.System.listingOf`: the query with what is compared written in place;
* `Options.heldTypes`, `Options.heldPattern`: the table types and the pattern that say something;
* `Dialect.Names`: the name that the query has for a table type;
* `fills_listing`: what the placeholders of the query stand for;
* `heldTypes_ne_nil`: accepted settings ask for a table type;
* `Dialect.Aligned`, **`listing_aligned`**: text and parameters of the listing query.
-/

namespace TableDiscovery

namespace Dialect

open Text

/-! ## Placeholders -/

/-- A text in which no placeholder begins. -/
def isFixed (text : String) : Bool := text.toList.all fun c => c ≠ '%' && c ≠ '?'

theorem isFixed_append (front back : String) :
    isFixed (front ++ back) = (isFixed front && isFixed back) := by
  rw [isFixed, String.toList_append, List.all_append, isFixed, isFixed]

theorem fills_fixed (s : System) {text : String} (h : isFixed text = true) :
    Fills s.placeholder text [] text := by
  have hne (c : Char) (hc : c ∈ text.toList) : c ≠ '%' ∧ c ≠ '?' := by
    simpa using List.all_eq_true.mp h c hc
  cases s with
  | sqlServer => exact Fills.plain '?' [] (by decide) fun hc => (hne _ hc).2 rfl
  | postgres | generic => exact Fills.plain '%' ['s'] (by decide) fun hc => (hne _ hc).1 rfl

theorem fills_append_fixed {s : System} {text fixed filled : String} {values : List String}
    (h : Fills s.placeholder text values filled) (hfixed : isFixed fixed = true) :
    Fills s.placeholder (text ++ fixed) values (filled ++ fixed) := by
  have := h.append (fills_fixed s hfixed)
  rwa [List.append_nil] at this

theorem fills_placeholder (s : System) (value : String) :
    Fills s.placeholder s.placeholder [value] value := by
  cases s with
  | sqlServer => exact Fills.single '?' [] (by decide)
  | postgres | generic => exact Fills.single '%' ['s'] (by decide)

theorem fills_placeholders (s : System) (values : List String) :
    Fills s.placeholder (s.placeholders values.length) values (", ".intercalate values) := by
  induction values with
  | nil => exact fills_fixed s rfl
  | cons value values ih =>
    cases values with
    | nil => exact fills_placeholder s value
    | cons next values =>
      rw [System.placeholders, List.length_cons, List.length_cons, List.replicate_succ,
        List.replicate_succ, String.intercalate_cons_cons, String.intercalate_cons_cons]
      exact (fills_append_fixed (fills_placeholder s value) rfl).append ih

theorem fills_pattern (s : System) (pattern : Option String) :
    Fills s.placeholder (if pattern.isSome then " AND table_schema LIKE " ++ s.placeholder else "")
      pattern.toList (pattern.elim "" fun p => " AND table_schema LIKE " ++ p) := by
  cases pattern with
  | none => exact fills_fixed s rfl
  | some p => exact (fills_fixed s (by decide +kernel)).append (fills_placeholder s p)

theorem isFixed_extraConditions (s : System) : isFixed s.extraConditions = true := by
  cases s with
  | postgres =>
    unfold System.extraConditions
    simp only [isFixed_append, Bool.and_eq_true]
    exact ⟨⟨by decide +kernel, by decide +kernel⟩, by decide +kernel⟩
  | sqlServer | generic => rfl

/-! ## The text -/

/-- The listing query with what is compared written where it stands: the table types, the schemas
that are left out and the schema pattern. -/
def System.listingOf (s : System) (types schemas : List String) (pattern : Option String) :
    String :=
  "SELECT table_catalog, table_schema, table_name FROM information_schema.tables t " ++
    "WHERE table_type IN (" ++ ", ".intercalate types ++ ") " ++
    "AND table_schema NOT IN (" ++ ", ".intercalate schemas ++ ")" ++
    (pattern.elim "" fun p => " AND table_schema LIKE " ++ p) ++
    s.extraConditions ++ " ORDER BY table_catalog, table_schema, table_name"

theorem fills_listing (s : System) (types schemas : List String) (pattern : Option String)
    (hschemas : schemas.length = s.ownSchemas.length) :
    Fills s.placeholder (s.listingText types.length pattern.isSome)
      (types ++ schemas ++ pattern.toList) (s.listingOf types schemas pattern) := by
  have hown := fills_placeholders s schemas
  rw [hschemas] at hown
  unfold System.listingText System.listingOf
  refine fills_append_fixed ?_ (by decide +kernel)
  refine fills_append_fixed ?_ (isFixed_extraConditions s)
  refine Fills.append ?_ (fills_pattern s pattern)
  refine fills_append_fixed ?_ (by decide +kernel)
  refine Fills.append ?_ hown
  refine fills_append_fixed (fills_append_fixed ?_ (by decide +kernel)) (by decide +kernel)
  refine (fills_append_fixed (fills_fixed s ?_) ?_).append (fills_placeholders s types)
  all_goals decide +kernel

/-! ## What is asked for -/

/-- The table types that are not blank. -/
def Options.heldTypes (o : Options) : List String :=
  o.tableTypes.filter fun t => t.toList.any fun c => !isBlank c

/-- The name that the query has for a table type: the type without the blanks around it and in upper
case, letter by letter where it is in ASCII, but `BASE TABLE` for `TABLE`. -/
def Names (type name : String) : Prop :=
  ∃ front core back, type.toList = front ++ core ++ back ∧
    (∀ c ∈ front ++ back, isBlank c = true) ∧
    (∀ c, core.head? = some c ∨ core.getLast? = some c → isBlank c = false) ∧
    name = (if upper (.ofList core) = "TABLE" then "BASE TABLE" else upper (.ofList core)) ∧
    ((∀ c ∈ core, c.toNat < 128) → upper (.ofList core) = .ofList (core.map Char.toUpper))

theorem mapCase_upper {c : Char} (h : c.toNat < 128) :
    mapCase upperRuns upperSpecial c = [c.toUpper] := by
  have hall : ∀ n : Fin 128,
      mapCase upperRuns upperSpecial (Char.ofNat n) = [(Char.ofNat n).toUpper] := by
    decide +kernel
  simpa using hall ⟨c.toNat, h⟩

/-- ASCII has its upper case in ASCII. -/
theorem upper_of_ascii {cs : List Char} (h : ∀ c ∈ cs, c.toNat < 128) :
    upper (.ofList cs) = .ofList (cs.map Char.toUpper) := by
  rw [upper, String.toList_ofList, List.map_eq_flatMap]
  refine congrArg String.ofList (List.flatMap_congr fun c hc => ?_)
  exact mapCase_upper (h c hc)

theorem names_typeName (type : String) : Names type (typeName (upper (strip type))) := by
  obtain ⟨front, back, happend, hblank⟩ := trimWhile_append isBlank type.toList
  refine ⟨front, trim type.toList, back, happend, hblank, fun c hc => ?_, rfl, upper_of_ascii⟩
  exact hc.elim head?_trimWhile getLast?_trimWhile

/-- The schema pattern unless it is empty. -/
def Options.heldPattern (o : Options) : Option String := o.schemaPattern.filter (· ≠ "")

theorem tableTypes_make (s : System) (url : String) (o : Options) :
    (make s url o).tableTypes = o.heldTypes.map fun t => upper (strip t) := by
  rw [make, normalTypes, Options.heldTypes, List.filter_map, List.map_map]
  refine congrArg _ (List.filter_congr fun t _ => ?_)
  rw [Function.comp_apply, Bool.eq_iff_iff, decide_eq_true_eq, strip_ne_empty_iff, List.any_eq_true]
  simp

theorem activePattern_make (s : System) (url : String) (o : Options) :
    (make s url o).activePattern? = o.heldPattern := rfl

theorem system_make (s : System) (url : String) (o : Options) : (make s url o).system = s := rfl

theorem heldTypes_ne_nil_iff {o : Options} :
    o.heldTypes ≠ [] ↔ ∃ t ∈ o.tableTypes, strip t ≠ "" := by
  rw [Options.heldTypes, Ne, List.filter_eq_nil_iff]
  simp [strip_ne_empty_iff]

/-- **Accepted settings ask for a table type.** -/
theorem heldTypes_ne_nil {p : Props} {t : Settings} (h : Settings.ofProps p = .ok t) :
    t.dialectOptions.heldTypes ≠ [] := by
  rw [heldTypes_ne_nil_iff, Settings.dialectOptions, Settings.tableTypes_of_ofProps h]
  split
  · exact ⟨"TABLE", List.mem_singleton_self _, by decide⟩
  · rename_i hempty
    obtain ⟨type, htype⟩ := List.exists_mem_of_ne_nil _ (mt List.isEmpty_iff.mpr hempty)
    exact ⟨type, htype, Props.strip_ne_of_mem_splitList htype⟩

/-! ## Text and parameters -/

/-- The parameters are what is asked for, with these names for the table types, and the text has a
placeholder for each of them, in the order of the places where they are compared. -/
structure Aligned (o : Options) (d : Dialect) (names : List String) : Prop where
  named : List.Forall₂ Names o.heldTypes names
  parameters : d.listingParameters = names ++ d.system.ownSchemas ++ o.heldPattern.toList
  count : occurrences d.system.placeholder d.listingText = d.listingParameters.length
  filled : ∀ literal : String → String,
    fill d.system.placeholder (d.listingParameters.map literal) d.listingText =
      some (d.system.listingOf (names.map literal) (d.system.ownSchemas.map literal)
        (o.heldPattern.map literal))

theorem listingParameters_make (s : System) (url : String) (o : Options) :
    (make s url o).listingParameters =
      o.heldTypes.map (fun t => typeName (upper (strip t))) ++ s.ownSchemas ++
        o.heldPattern.toList := by
  rw [listingParameters, tableTypes_make, List.map_map, activePattern_make, system_make,
    Function.comp_def]

theorem listingText_make (s : System) (url : String) (o : Options) :
    (make s url o).listingText = s.listingText o.heldTypes.length o.heldPattern.isSome := by
  rw [listingText, tableTypes_make, List.length_map, activePattern_make, system_make]

theorem aligned_make (s : System) (url : String) (o : Options) :
    Aligned o (make s url o) (o.heldTypes.map fun t => typeName (upper (strip t))) := by
  have hfilled (literal : String → String) :
      fill s.placeholder ((make s url o).listingParameters.map literal)
          (make s url o).listingText =
        some (s.listingOf ((o.heldTypes.map fun t => typeName (upper (strip t))).map literal)
          (s.ownSchemas.map literal) (o.heldPattern.map literal)) := by
    have h := (fills_listing s ((o.heldTypes.map fun t => typeName (upper (strip t))).map literal)
      (s.ownSchemas.map literal) (o.heldPattern.map literal) (List.length_map _)).eq_some
    rw [List.length_map, List.length_map, Option.isSome_map, Option.toList_map] at h
    rw [listingParameters_make, listingText_make, List.map_append, List.map_append]
    exact h
  have hnamed : List.Forall₂ Names o.heldTypes
      (o.heldTypes.map fun t => typeName (upper (strip t))) := by
    rw [List.forall₂_map_right_iff]
    exact List.forall₂_same.mpr fun t _ => names_typeName t
  refine ⟨hnamed, listingParameters_make s url o, ?_, hfilled⟩
  have := occurrences_of_fill (hfilled id)
  rwa [List.map_id] at this

/-- **The listing query is aligned with its parameters.** Its text holds nothing of the table types
and the pattern: it is the same for as many types that are not blank, with a pattern or without. It
has a placeholder for each parameter, and these are the names of the types, the system's own schemas
and the pattern, each where it is compared. Accepted settings ask for a type at least. -/
theorem listing_aligned :
    (∀ s url o, ∃ names, Aligned o (make s url o) names) ∧
    (∀ s url url' o o', o.heldTypes.length = o'.heldTypes.length →
      (o.heldPattern.isSome = true ↔ o'.heldPattern.isSome = true) →
      (make s url o).listingText = (make s url' o').listingText) ∧
    ∀ p t d, Settings.ofProps p = .ok t → t.dialect = .ok d → d.tableTypes ≠ [] := by
  refine ⟨fun s url o => ⟨_, aligned_make s url o⟩, fun s url url' o o' htypes hpattern => ?_,
    fun p t d hread hd => ?_⟩
  · rw [listingText_make, listingText_make, htypes, Bool.eq_iff_iff.mpr hpattern]
  · obtain ⟨s, -, rfl⟩ := Act.ok_of_map hd
    rw [tableTypes_make]
    simpa using heldTypes_ne_nil hread

/-- Table types and a pattern that hold marks and placeholders. -/
def oddOptions : Options where
  tableTypes := [" table", "\t", "view') --"]
  schemaPattern := some "?%s"

/-- Two table types and a pattern. -/
def plainOptions : Options where
  tableTypes := ["TABLE", "VIEW"]
  schemaPattern := some "shop"

/-- Settings whose list of table types is blank. -/
def blankTypes : Props :=
  [("connection.url", some "sqlserver://db/shop"), ("dialect.name", some "mssql"),
    ("table.types", some " , ,")]

/-- Odd types and plain ones, and a blank list of types. -/
theorem listing_aligned_odd :
    (oddOptions.heldTypes = [" table", "view') --"] ∧
      plainOptions.heldTypes = ["TABLE", "VIEW"]) ∧
      (make .sqlServer "" oddOptions).listingParameters =
        ["BASE TABLE", "VIEW') --", "INFORMATION_SCHEMA", "sys", "?%s"] ∧
      (make .sqlServer "" oddOptions).listingText =
        (make .sqlServer "" plainOptions).listingText ∧
      ∃ t d, Settings.ofProps blankTypes = .ok t ∧ t.dialect = .ok d ∧ d.tableTypes ≠ [] := by
  obtain ⟨-, hsame, hread⟩ := listing_aligned
  have hodd : oddOptions.heldTypes = [" table", "view') --"] := by decide +kernel
  have hplain : plainOptions.heldTypes = ["TABLE", "VIEW"] := by decide +kernel
  have hdialect : ((Settings.ofProps blankTypes).bind Settings.dialect).toOption.isSome = true := by
    decide +kernel
  obtain ⟨d, hd⟩ := Act.exists_ok_of_isSome hdialect
  obtain ⟨t, ht, hd⟩ := Act.ok_of_bind hd
  refine ⟨⟨hodd, hplain⟩, by decide +kernel, hsame _ _ _ _ _ ?_ (by decide), t, d, ht, hd,
    hread _ _ _ ht hd⟩
  rw [hodd, hplain]
  rfl

end Dialect

end TableDiscovery
