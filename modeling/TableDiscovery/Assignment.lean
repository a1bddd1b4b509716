import TableDiscovery.Dialect.Basic

/-!
# Assignment of tables to tasks

Tables are cut into consecutive groups in listing order. With `n` elements and `k` groups every
group gets `n / k` elements and the first `n % k` groups get one more.

* `Assignment.groupSize`, `Assignment.takeGroups`, `Assignment.group`;
* `Assignment.assign`: at most as many groups as there are tables, one empty group for a query;
* `Assignment.lines`: the groups for readers.
-/

namespace TableDiscovery.Assignment

/-- The size of the `i`-th of `k` groups of `n` elements. -/
def groupSize (n k i : Nat) : Nat := n / k + if i < n % k then 1 else 0

/-- Consecutive groups of given sizes. -/
def takeGroups {α : Type} : List Nat → List α → List (List α)
  | [], _ => []
  | size :: sizes, xs => xs.take size :: takeGroups sizes (xs.drop size)

/-- The elements in a positive number of consecutive groups of nearly equal size. -/
def group {α : Type} (elements : List α) (count : Int) : Except Fault (List (List α)) :=
  if count ≤ 0 then .error (.groupCountNotPositive count)
  else
    let k := count.toNat
    .ok (takeGroups ((List.range k).map (groupSize elements.length k)) elements)

/-- The groups of at most `maxTasks` tasks; a task that runs a query gets no tables. -/
def assign (tables : List Table) (maxTasks : Int) (queryMode : Bool) :
    Except Fault (List (List Table)) :=
  if maxTasks < 1 then .error (.tooFewTasks maxTasks)
  else if queryMode then .ok [[]]
  else if tables.isEmpty then .ok []
  else group tables (min maxTasks tables.length)

/-- What is shown in place of tables for a task that runs a query. -/
def queryMark : String := "<query>"

/-- The tables of a task for readers. -/
def taskText (tables : String) : String := if tables = "" then queryMark else tables

/-- The groups for readers, one line for each task. -/
def lines (groups : List (List Table)) (d : Dialect) : List String :=
  if groups.isEmpty then ["no tables to assign"]
  else groups.zipIdx.map fun p =>
    "task-" ++ toString p.2 ++ ": " ++ taskText (d.renderList p.1 ", ")

end TableDiscovery.Assignment
