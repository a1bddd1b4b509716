import TableDiscovery.Assoc
import TableDiscovery.Text.Percent
import TableDiscovery.Text.Replace

/-!
# Query fields

The part of a URL after `?` holds fields between `&`. A field without `=` or with an empty value is
no field. A plus sign is a blank, and escapes are percent escapes.

* `Url.field?`: one field;
* `Url.fields`: all of them, by their first appearance and with their last value.
-/

namespace TableDiscovery.Url

/-- A name or value with its escapes replaced. -/
def unescapeField (cs : List Char) : String :=
  Text.unescape (String.ofList (cs.map fun c => if c = '+' then ' ' else c))

/-- The name and value of a field. -/
def field? (cs : List Char) : Option (String × String) :=
  match Text.cut? '=' cs with
  | some (name, value) =>
    if value.isEmpty then none else some (unescapeField name, unescapeField value)
  | none => none

/-- The fields of a query. -/
def fields (query : String) : Assoc String String :=
  Assoc.ofList ((Text.pieces '&' query.toList).filterMap field?)

end TableDiscovery.Url
