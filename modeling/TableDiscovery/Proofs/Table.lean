import Mathlib.Data.List.Sort
import Mathlib.Data.Prod.Lex
import Mathlib.Data.String.Basic
import TableDiscovery.Table

/-!
# The order of tables

Tables are ordered by their keys, in which an absent catalog or schema is an empty text. The keys
are ordered linearly and sorting keeps the order of tables with equal keys. So sorting forgets the
order of a list except for different tables with equal keys, and there are such tables: an absent
catalog is not before an empty one.

* `Table.Tied`: tables that the order does not tell apart;
* `Table.Canonical`: tables without empty catalog or schema, which are tied to themselves only;
* `Table.before_iff`: the order is the lexicographic one of the keys;
* `Table.filter_sorted`: sorting keeps the order of tied tables;
* **`Table.sorted_eq_of_perm_iff`**: the lists whose order does not matter;
* **`Table.order_up_to_ties`**: the order as a whole; `Table.absent_tied_empty` are two tied tables.
-/

namespace TableDiscovery.Table

variable {a b c t : Table} {ts us : List Table}

/-! ## Ties -/

/-- The order does not tell two tables apart: they have one name, and catalogs and schemas that are
equal if an absent one is taken for an empty one. -/
def Tied (a b : Table) : Prop :=
  a.catalog.getD "" = b.catalog.getD "" ∧ a.schema.getD "" = b.schema.getD "" ∧ a.name = b.name

/-- Catalog and schema are absent or hold something. -/
def Canonical (t : Table) : Prop := t.catalog ≠ some "" ∧ t.schema ≠ some ""

theorem tied_iff : Tied a b ↔ a.sortKey = b.sortKey := by
  simp only [Tied, sortKey, Prod.mk.injEq]

theorem Tied.refl (t : Table) : Tied t t := tied_iff.mpr rfl

theorem getD_injective {x y : Option String} (hx : x ≠ some "") (hy : y ≠ some "")
    (h : x.getD "" = y.getD "") : x = y := by
  cases x with
  | none =>
    cases y with
    | none => rfl
    | some y => exact absurd (congrArg some h.symm) hy
  | some x =>
    cases y with
    | none => exact absurd (congrArg some h) hx
    | some y => exact congrArg some h

/-- Only an empty catalog or schema makes ties. -/
theorem tied_iff_eq (ha : a.Canonical) (hb : b.Canonical) : Tied a b ↔ a = b := by
  constructor
  · rintro ⟨hcatalog, hschema, hname⟩
    obtain ⟨catalog, schema, name, hne⟩ := a
    obtain ⟨catalog', schema', name', hne'⟩ := b
    obtain rfl : catalog = catalog' := getD_injective ha.1 hb.1 hcatalog
    obtain rfl : schema = schema' := getD_injective ha.2 hb.2 hschema
    obtain rfl : name = name' := hname
    rfl
  · rintro rfl
    exact .refl a

/-! ## The order -/

/-- The key of a table in the lexicographic order. -/
def rank (t : Table) : String ×ₗ String ×ₗ String :=
  toLex (t.sortKey.1, toLex t.sortKey.2)

theorem rank_eq_iff : a.rank = b.rank ↔ Tied a b := by
  rw [tied_iff, rank, rank, EmbeddingLike.apply_eq_iff_eq, Prod.mk.injEq,
    EmbeddingLike.apply_eq_iff_eq, ← Prod.ext_iff]

theorem before_iff : a.before b = true ↔ a.rank < b.rank := by
  simp only [before, rank, Prod.Lex.toLex_lt_toLex, Bool.or_eq_true, Bool.and_eq_true,
    decide_eq_true_eq, beq_iff_eq]

theorem not_before_iff : (!b.before a) = true ↔ a.rank ≤ b.rank := by
  rw [Bool.not_eq_true', Bool.eq_false_iff, Ne, before_iff, not_lt]

theorem before_trans (hab : a.before b = true) (hbc : b.before c = true) : a.before c = true :=
  before_iff.mpr ((before_iff.mp hab).trans (before_iff.mp hbc))

/-- Of two tables one comes first, unless they are tied. -/
theorem before_trichotomy (a b : Table) :
    (a.before b = true ∧ b.before a = false ∧ ¬ Tied a b) ∨
      (a.before b = false ∧ b.before a = true ∧ ¬ Tied a b) ∨
        (a.before b = false ∧ b.before a = false ∧ Tied a b) := by
  simp only [← Bool.not_eq_true, before_iff, ← rank_eq_iff]
  obtain h | h | h := lt_trichotomy a.rank b.rank
  · exact .inl ⟨h, h.not_gt, h.ne⟩
  · exact .inr (.inr ⟨h.not_lt, h.not_gt, h⟩)
  · exact .inr (.inl ⟨h.not_gt, h, h.ne'⟩)

theorem empty_lt {s : String} (h : s ≠ "") : "" < s := by
  rw [String.lt_iff_toList_lt]
  cases hs : s.toList with
  | nil => exact absurd (String.toList_eq_nil_iff.mp hs) h
  | cons c cs => exact List.nil_lt_cons c cs

/-- An absent catalog comes before all that are not empty. -/
theorem before_of_catalog (ha : a.catalog = none) (hb : b.catalog.getD "" ≠ "") :
    a.before b = true := by
  rw [before_iff, rank, rank, Prod.Lex.toLex_lt_toLex]
  refine .inl ?_
  rw [sortKey, sortKey, ha]
  exact empty_lt hb

/-- Within a catalog an absent schema comes before all that are not empty. -/
theorem before_of_schema (h : a.catalog.getD "" = b.catalog.getD "") (ha : a.schema = none)
    (hb : b.schema.getD "" ≠ "") : a.before b = true := by
  rw [before_iff, rank, rank, Prod.Lex.toLex_lt_toLex]
  refine .inr ⟨h, ?_⟩
  rw [Prod.Lex.toLex_lt_toLex]
  refine .inl ?_
  rw [sortKey, sortKey, ha]
  exact empty_lt hb

/-! ## Sorting -/

theorem not_before_trans (a b c : Table) (hab : (!b.before a) = true) (hbc : (!c.before b) = true) :
    (!c.before a) = true :=
  not_before_iff.mpr ((not_before_iff.mp hab).trans (not_before_iff.mp hbc))

theorem not_before_total (a b : Table) : ((!b.before a) || !a.before b) = true := by
  rw [Bool.or_eq_true, not_before_iff, not_before_iff]
  exact le_total a.rank b.rank

theorem sorted_perm (ts : List Table) : (sorted ts).Perm ts := List.mergeSort_perm ts _

theorem pairwise_sorted (ts : List Table) : (sorted ts).Pairwise fun a b => a.rank ≤ b.rank :=
  (List.pairwise_mergeSort not_before_trans not_before_total ts).imp not_before_iff.mp

/-- **Tied tables keep their order.** -/
theorem filter_sorted (key : String × String × String) (ts : List Table) :
    (sorted ts).filter (·.sortKey = key) = ts.filter (·.sortKey = key) := by
  have hpairwise : (ts.filter (·.sortKey = key)).Pairwise fun a b => (!b.before a) = true := by
    rw [List.pairwise_filter]
    refine List.pairwise_of_forall fun a b ha hb => not_before_iff.mpr (le_of_eq ?_)
    exact rank_eq_iff.mpr (tied_iff.mpr ((of_decide_eq_true ha).trans (of_decide_eq_true hb).symm))
  have hsublist := (List.sublist_mergeSort not_before_trans not_before_total hpairwise
    List.filter_sublist).filter (·.sortKey = key)
  simp only [List.filter_filter, Bool.and_self] at hsublist
  exact (hsublist.eq_of_length ((sorted_perm ts).filter _).length_eq.symm).symm

/-- **The order of a list does not matter just if tied tables in it are equal.** -/
theorem sorted_eq_of_perm_iff : (∀ us, us.Perm ts → sorted us = sorted ts) ↔
    ∀ a ∈ ts, ∀ b ∈ ts, Tied a b → a = b := by
  constructor
  · intro h a ha b hb htied
    -- The list may begin with either of the two, and what is sorted keeps the first of them first.
    have hfirst {t : Table} (ht : t ∈ ts) (hkey : t.sortKey = a.sortKey) :
        ((sorted ts).filter (·.sortKey = a.sortKey)).head? = some t := by
      rw [← h _ (List.perm_cons_erase ht).symm, filter_sorted, List.filter_cons_of_pos (by simpa),
        List.head?_cons]
    exact Option.some.inj ((hfirst ha rfl).symm.trans (hfirst hb (tied_iff.mp htied).symm))
  · intro h us hperm
    have hsame : (sorted us).Perm (sorted ts) :=
      (sorted_perm us).trans (hperm.trans (sorted_perm ts).symm)
    refine hsame.eq_of_pairwise (fun a b ha hb hab hba => ?_) (pairwise_sorted us)
      (pairwise_sorted ts)
    exact h a (hperm.mem_iff.mp ((sorted_perm us).mem_iff.mp ha)) b
      ((sorted_perm ts).mem_iff.mp hb) (rank_eq_iff.mp (le_antisymm hab hba))

/-! ## The order as a whole -/

/-- **The order up to ties.** Of two tables one comes first unless they are tied, and the order is
transitive. An absent catalog comes before all that are not empty, and so does an absent schema
within a catalog. Ties need an empty catalog or schema. Sorting gives all arrangements of a list one
order just if no two different tables of it are tied. -/
theorem order_up_to_ties (a b c : Table) (ts : List Table) :
    ((a.before b = true ∧ b.before a = false ∧ ¬ Tied a b) ∨
      (a.before b = false ∧ b.before a = true ∧ ¬ Tied a b) ∨
        (a.before b = false ∧ b.before a = false ∧ Tied a b)) ∧
    (a.Canonical → b.Canonical → (Tied a b ↔ a = b)) ∧
    (a.before b = true → b.before c = true → a.before c = true) ∧
    (a.catalog = none → b.catalog.getD "" ≠ "" → a.before b = true) ∧
    (a.catalog.getD "" = b.catalog.getD "" → a.schema = none → b.schema.getD "" ≠ "" →
      a.before b = true) ∧
    ((∀ us, us.Perm ts → sorted us = sorted ts) ↔ ∀ t ∈ ts, ∀ u ∈ ts, Tied t u → t = u) :=
  ⟨before_trichotomy a b, tied_iff_eq, before_trans, before_of_catalog, before_of_schema,
    sorted_eq_of_perm_iff⟩

/-- A table without catalog, and one with an empty catalog. -/
def uncataloged (catalog : Option String) : Table := ⟨catalog, some "public", "orders", by decide⟩

/-- Tables of a shop, one of them with an empty catalog. -/
theorem order_up_to_ties_shop :
    let orders := uncataloged none
    let users : Table := ⟨some "shop", none, "users", by decide⟩
    let lines : Table := ⟨some "shop", some "", "lines", by decide⟩
    orders.before users = true ∧ lines.before users = true ∧ orders.before lines = true ∧
      sorted [users, lines, orders] = sorted [orders, users, lines] := by
  intro orders users lines
  obtain ⟨-, -, htrans, hcatalog, -, hsorted⟩ :=
    order_up_to_ties orders lines users [orders, users, lines]
  have hfirst : orders.before lines = true := hcatalog rfl (by decide)
  have hnext : lines.before users = true := by decide +kernel
  refine ⟨htrans hfirst hnext, hnext, hfirst, hsorted.mpr ?_ _ (by decide)⟩
  simp [orders, users, lines, uncataloged, Tied]

/-- **An absent catalog is not before an empty one.** The two tables differ, neither comes before
the other, and their order in a sorted list is the one that they had. -/
theorem absent_tied_empty :
    uncataloged none ≠ uncataloged (some "") ∧
      (uncataloged none).before (uncataloged (some "")) = false ∧
      (uncataloged (some "")).before (uncataloged none) = false ∧
      sorted [uncataloged none, uncataloged (some "")] ≠
        sorted [uncataloged (some ""), uncataloged none] := by
  have hne : uncataloged none ≠ uncataloged (some "") := by decide
  refine ⟨hne, by decide +kernel, by decide +kernel, fun hsorted => hne ?_⟩
  have hkey := congrArg (List.filter (·.sortKey = (uncataloged none).sortKey)) hsorted
  rw [filter_sorted, filter_sorted] at hkey
  exact (List.cons.inj hkey).1

end TableDiscovery.Table
