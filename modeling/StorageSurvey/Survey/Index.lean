/-!
# Indexes

An index finds values by texts.  `Index.ofList` keeps for each text the last record that carries it
in a field, and passes over records whose field is empty; `Index.groupByKey` and
`Index.groupByKeys` keep for each text all values under it, in their order.
-/

namespace StorageSurvey.Survey

/-- Values under texts; an entry hides the later entries under the same text. -/
structure Index (α : Type) where
  entries : List (String × α)

namespace Index

variable {α : Type}

def empty : Index α :=
  ⟨[]⟩

def find? (index : Index α) (key : String) : Option α :=
  index.entries.lookup key

/-- The index with `value` under `key`. -/
def set (index : Index α) (key : String) (value : α) : Index α :=
  ⟨(key, value) :: index.entries⟩

@[simp] theorem find?_empty (key : String) : (empty : Index α).find? key = none := rfl

@[simp] theorem find?_set (index : Index α) (key other : String) (value : α) :
    (index.set key value).find? other = if other = key then some value else index.find? other := by
  unfold find? set
  rw [List.lookup_cons]
  by_cases h : other = key
  · simp [h]
  · rw [beq_false_of_ne h, if_neg h]

/-- The records under a field that is not empty; of several records the last one is found. -/
def ofList (field : α → String) (records : List α) : Index α :=
  records.foldl
    (fun index record => if field record = "" then index else index.set (field record) record) empty

/-! ## Groups -/

/-- The values under `key`, in the order in which they were added. -/
def group (index : Index (List α)) (key : String) : List α :=
  (index.find? key).getD []

/-- The index with `value` after the others under `key`. -/
def add (index : Index (List α)) (key : String) (value : α) : Index (List α) :=
  index.set key (index.group key ++ [value])

/-- The index with `value` after the others under `key`, unless it is the last of them. -/
def addUnlessLast [DecidableEq α] (index : Index (List α)) (key : String) (value : α) :
    Index (List α) :=
  if (index.group key).getLast? = some value then index else index.add key value

@[simp] theorem group_empty (key : String) : (empty : Index (List α)).group key = [] := rfl

@[simp] theorem group_add (index : Index (List α)) (key other : String) (value : α) :
    (index.add key value).group other =
      if other = key then index.group key ++ [value] else index.group other := by
  by_cases h : other = key <;> simp [group, add, h]

/-- The values, each under its key. -/
def groupByKey (key : α → String) (values : List α) : Index (List α) :=
  values.foldl (fun index value => index.add (key value) value) empty

/-- The values under each of their keys.  A value that has a key more than once is under it once:
all its keys come one after the other, so that it is still the last value there. -/
def groupByKeys [DecidableEq α] (keys : α → List String) (values : List α) : Index (List α) :=
  values.foldl
    (fun index value => (keys value).foldl (fun index key => index.addUnlessLast key value) index)
    empty

end Index

end StorageSurvey.Survey
