import StorageSurvey.Document.Datum
import StorageSurvey.Document.Reader

/-!
# Trees of written values

A notation has scalars for nulls, naturals, texts and keys.  Once these are chosen, every value has
one tree, and a writer is right if its texts are read as these trees.  So what follows from the tree
of a value, such as what the readers of records make of it, need not be proved for each notation.

A dialect *understands* the scalars if it takes each of them for what was written.
-/

namespace StorageSurvey.Document

/-- Whether a value is a list or a record, as the root of a document is. -/
def Datum.isCollection : Datum → Bool
  | .list _ | .record _ => true
  | _ => false

/-- The scalars that a notation has for values. -/
structure ScalarForms (σ : Type) where
  null : σ
  natural : Nat → σ
  text : String → σ
  key : String → σ

namespace ScalarForms

variable {σ : Type} (forms : ScalarForms σ)

mutual

/-- The tree of a value. -/
def tree : Datum → Tree σ
  | .null => .scalar forms.null
  | .natural value => .scalar (forms.natural value)
  | .text value => .scalar (forms.text value)
  | .list items => .list (trees items) true
  | .record fields => .table (entries fields) true

/-- The trees of several values. -/
def trees : List Datum → List (Tree σ)
  | [] => []
  | item :: items => tree item :: trees items

/-- The entries of a record. -/
def entries : List (String × Datum) → List (Tree σ × Tree σ)
  | [] => []
  | (name, value) :: fields => (.scalar (forms.key name), tree value) :: entries fields

end

end ScalarForms

/-- The naturals that a word of 64 bits can hold, which are all that the program writes. -/
def wordLimit : Nat := UInt64.size

/-- Whether a dialect takes the scalars that are written for what they stand for. -/
structure Dialect.Understands {σ : Type} {m : Type → Type} [Monad m] (d : Dialect σ m)
    (forms : ScalarForms σ) : Prop where
  text?_text : ∀ value, d.text? (forms.text value) = some value
  text?_key : ∀ name, d.text? (forms.key name) = some name
  integer?_natural : ∀ value, value < wordLimit →
    d.integer? (forms.natural value) = some (value : Int)
  isAbsent_text : ∀ path value, d.isAbsent path (forms.text value) = .ok false
  variant_text : ∀ path value,
    d.variant path (.scalar (forms.text value)) = pure ⟨value, path, pure ()⟩
  found_null : ∀ path, d.found path forms.null = .ok .null
  found_natural : ∀ path value, value < wordLimit →
    d.found path (forms.natural value) = .ok (.integer value)
  found_text : ∀ path value, d.found path (forms.text value) = .ok (.text value)
  found_key : ∀ path name, d.found path (forms.key name) = .ok (.text name)

end StorageSurvey.Document
