/-!
# Values to be written

What the program writes in a data notation: nulls, naturals, texts, lists, and records whose
fields keep their order.  A value does not know the notation; each notation has its own writer.
-/

namespace StorageSurvey.Document

/-- A value to be written. -/
inductive Datum where
  | null
  | natural (value : Nat)
  | text (value : String)
  | list (items : List Datum)
  | record (fields : List (String × Datum))

namespace Datum

def texts (values : List String) : Datum :=
  .list (values.map .text)

/-- The field of an optional value, which is left out when there is none. -/
def optionalField {α : Type} (name : String) (value : Option α) (write : α → Datum) :
    List (String × Datum) :=
  match value with
  | some a => [(name, write a)]
  | none => []

end Datum

end StorageSurvey.Document
