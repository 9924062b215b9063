import StorageSurvey.Proofs.Yaml.Tokens
import StorageSurvey.Yaml.Dialect

/-!
# The trees of written YAML

The machine builds the tree of a value from its tokens.  A list that is not indented below its key
has no token for its end: the next key, or the end of the record around it, closes it first.
-/

namespace StorageSurvey.Yaml

open StorageSurvey.Document

/-- The scalars of YAML for values. -/
def forms : ScalarForms Scalar where
  null := ⟨"null", .plain, none⟩
  natural value := ⟨String.ofList (Nat.toDigits 10 value), .plain, none⟩
  text value := ⟨value, styleOf value, none⟩
  key name := ⟨name, styleOf name, none⟩

namespace Machine

/-! ## Lists and tables under way -/

/-- The machine in a list within what it was in. -/
def inList (machine : Machine) (kind : ListKind) (items : List Tree) (phase : Phase) : Machine :=
  { machine with frames := ⟨.list kind items, none, none⟩ :: machine.frames, phase }

/-- The machine in a block table within what it was in. -/
def inTable (machine : Machine) (entries : List (Tree × Tree)) (slot : Slot) (phase : Phase) :
    Machine :=
  { machine with frames := ⟨.table .block entries slot, none, none⟩ :: machine.frames, phase }

@[simp] theorem deliver_inList (machine : Machine) (kind : ListKind) (items : List Tree)
    (phase : Phase) (node : Tree) :
    (machine.inList kind items phase).deliver node =
      machine.inList kind (node :: items) .separator := rfl

@[simp] theorem deliver_inTable_key (machine : Machine) (entries : List (Tree × Tree))
    (phase : Phase) (node : Tree) :
    (machine.inTable entries .key phase).deliver node =
      machine.inTable entries (.value node) .colon := rfl

@[simp] theorem deliver_inTable_value (machine : Machine) (entries : List (Tree × Tree))
    (key : Tree) (phase : Phase) (node : Tree) :
    (machine.inTable entries (.value key) phase).deliver node =
      machine.inTable ((key, node) :: entries) .key .separator := rfl

/-- Whether nothing but nodes was read before the next node, in a block or at the root. -/
structure IsReady (machine : Machine) : Prop where
  properties : machine.properties = .none
  ending : machine.ending = none
  blocks : machine.allowsBlocks = true

theorem IsReady.inList {machine : Machine} (h : machine.IsReady) {kind : ListKind}
    (hkind : kind ≠ .flow) (items : List Tree) (phase : Phase) :
    (machine.inList kind items phase).IsReady := by
  refine ⟨h.properties, h.ending, ?_⟩
  cases kind with
  | block => rfl
  | bare => rfl
  | flow => exact absurd rfl hkind

theorem IsReady.inTable {machine : Machine} (h : machine.IsReady) (entries : List (Tree × Tree))
    (slot : Slot) (phase : Phase) : (machine.inTable entries slot phase).IsReady :=
  ⟨h.properties, h.ending, rfl⟩

/-- A machine that is ready, with what it has read before the next node spelled out. -/
theorem IsReady.eq {machine : Machine} (h : machine.IsReady) :
    { machine with properties := .none, ending := none } = machine := by
  rw [← h.properties, ← h.ending]

/-! ## One token -/

section Feed

variable {machine : Machine} (h : machine.IsReady)

include h

/-- Where a machine has not stopped, its phase decides. -/
theorem feed_inList_item {kind : ListKind} (hkind : kind ≠ .flow) (items : List Tree) :
    (machine.inList kind items .separator).feed .item = machine.inList kind items .node := by
  rw [← h.eq]
  cases kind with
  | block => rfl
  | bare => rfl
  | flow => exact absurd rfl hkind

theorem feed_inList_end (items : List Tree) :
    (machine.inList .block items .separator).feed .blockEnd =
      machine.deliver (.list items.reverse true) := by
  rw [← h.eq]
  rfl

theorem feed_inTable_key (entries : List (Tree × Tree)) :
    (machine.inTable entries .key .separator).feed .key = machine.inTable entries .key .node := by
  rw [← h.eq]
  rfl

theorem feed_inTable_colon (entries : List (Tree × Tree)) (key : Tree) :
    (machine.inTable entries (.value key) .colon).feed .value =
      machine.inTable entries (.value key) .node := by
  rw [← h.eq]
  rfl

theorem feed_inTable_end (entries : List (Tree × Tree)) :
    (machine.inTable entries .key .separator).feed .blockEnd =
      machine.deliver (.table entries.reverse true) := by
  rw [← h.eq]
  rfl

end Feed

/-! ## The start of a node -/

/-- The tokens that begin a node in a block. -/
def beginsBlockNode : Token → Bool
  | .scalar _ _ | .flowListStart | .flowTableStart | .blockListStart | .blockTableStart => true
  | _ => false

theorem tellsOmission_of_beginsBlockNode {token : Token} (h : beginsBlockNode token = true)
    (machine : Machine) : machine.tellsOmission token = false := by
  unfold tellsOmission
  split <;> first | rfl | cases h

theorem node_of_beginsBlockNode {machine : Machine} (h : machine.IsReady) {token : Token}
    (htoken : beginsBlockNode token = true) :
    machine.node token = machine.beginNode none token := by
  rw [← h.eq]
  cases token with
  | scalar style text => rfl
  | flowListStart => rfl
  | flowTableStart => rfl
  | blockListStart => simp [node, resolveTag?, Properties.none, Properties.isEmpty]
  | blockTableStart => simp [node, resolveTag?, Properties.none, Properties.isEmpty]
  | _ => cases htoken

/-- Whether a machine takes a token as the first of a node. -/
def Awaits (machine : Machine) : Prop :=
  ∀ token, beginsBlockNode token = true → machine.feed token = machine.beginNode none token

theorem awaits_of_phase {machine : Machine} (h : machine.IsReady) (hphase : machine.phase = .node) :
    machine.Awaits := by
  intro token htoken
  have hfeed : machine.feed token = machine.nodeOrOmission token := by
    unfold feed
    rw [h.ending, hphase]
    rfl
  rw [hfeed, nodeOrOmission, tellsOmission_of_beginsBlockNode htoken, Bool.and_false,
    if_neg (by decide), node_of_beginsBlockNode h htoken]

/-- At the start of a text a node may begin at once. -/
theorem awaits_start : start.Awaits := by
  intro token htoken
  cases token with
  | scalar style text => rfl
  | flowListStart => rfl
  | flowTableStart => rfl
  | blockListStart => rfl
  | blockTableStart => rfl
  | _ => cases htoken

/-- Whether two machines do the same with what may follow a field. -/
def SameAfterField (machine other : Machine) : Prop :=
  machine.feed .key = other.feed .key ∧ machine.feed .blockEnd = other.feed .blockEnd

/-- A list that is not indented below its key is closed by what follows the field. -/
theorem sameAfterField_close {machine : Machine} (h : machine.IsReady)
    (entries : List (Tree × Tree)) (key : Tree) (items : List Tree) :
    SameAfterField
      (((machine.inTable entries (.value key) .node).inList .bare items .separator))
      (machine.inTable ((key, .list items.reverse true) :: entries) .key .separator) := by
  rw [← h.eq]
  exact ⟨rfl, rfl⟩

theorem feed_inTable_item {machine : Machine} (h : machine.IsReady)
    (entries : List (Tree × Tree)) (key : Tree) :
    (machine.inTable entries (.value key) .node).feed .item =
      (machine.inTable entries (.value key) .node).inList .bare [] .node := by
  rw [← h.eq]
  rfl

/-! ## Values -/

/-- Feeds tokens one after the other. -/
def feedAll (machine : Machine) (tokens : List Token) : Machine :=
  tokens.foldl feed machine

theorem feedAll_append (machine : Machine) (tokens more : List Token) :
    machine.feedAll (tokens ++ more) = (machine.feedAll tokens).feedAll more :=
  List.foldl_append

/-- Whether a value is delivered as its tree once its tokens are taken.  After a key, a list may
still wait for what closes it. -/
structure Delivers (value : Datum) : Prop where
  whole : ∀ {machine : Machine}, machine.IsReady → machine.Awaits →
    machine.feedAll (valueTokens false value) = machine.deliver (forms.tree value)
  bare : ∀ {machine : Machine}, machine.IsReady → ∀ entries key,
    ((machine.inTable entries (.value key) .node).feedAll (valueTokens true value)).SameAfterField
      (machine.inTable ((key, forms.tree value) :: entries) .key .separator)

/-- Whether items are added to a list once their tokens are taken. -/
def ItemsDeliver (items : List Datum) : Prop :=
  ∀ {machine : Machine}, machine.IsReady → ∀ {kind : ListKind}, kind ≠ .flow → ∀ done,
    (machine.inList kind done .separator).feedAll (itemTokens items) =
      machine.inList kind ((forms.trees items).reverse ++ done) .separator

/-- Whether fields are added to a table once their tokens are taken. -/
def FieldsDeliver (fields : List (String × Datum)) : Prop :=
  ∀ {machine : Machine}, machine.IsReady → ∀ {other : Machine} done,
    other.SameAfterField (machine.inTable done .key .separator) →
    (other.feedAll (fieldTokens fields)).SameAfterField
      (machine.inTable ((forms.entries fields).reverse ++ done) .key .separator)

theorem feed_scalar {machine : Machine} (h : machine.IsReady) (hawaits : machine.Awaits)
    (style : Style) (text : String) :
    machine.feed (.scalar style text) = machine.deliver (.scalar ⟨text, style, none⟩) := by
  rw [hawaits _ rfl, ← h.eq]
  rfl

/-- Only lists are written differently when they are bare. -/
theorem Delivers.of_whole {value : Datum}
    (htokens : valueTokens true value = valueTokens false value)
    (h : ∀ {machine : Machine}, machine.IsReady → machine.Awaits →
      machine.feedAll (valueTokens false value) = machine.deliver (forms.tree value)) :
    Delivers value := by
  refine ⟨h, ?_⟩
  intro machine hready entries key
  have hnode := hready.inTable entries (.value key) .node
  rw [htokens, h hnode (awaits_of_phase hnode rfl)]
  exact ⟨rfl, rfl⟩

theorem delivers_scalar {value : Datum} (scalar : Scalar) (htag : scalar.tag = none)
    (htokens : ∀ bare, valueTokens bare value = [.scalar scalar.style scalar.text])
    (htree : forms.tree value = .scalar scalar) : Delivers value := by
  refine .of_whole (by rw [htokens, htokens]) fun h hawaits => ?_
  obtain ⟨text, style, tag⟩ := scalar
  cases htag
  rw [htokens, htree]
  exact feed_scalar h hawaits style text

theorem delivers_emptyList : Delivers (.list []) := by
  refine .of_whole (by rw [valueTokens, valueTokens]; rfl) fun {machine} h hawaits => ?_
  rw [valueTokens, if_pos (by decide), feedAll, List.foldl_cons, hawaits _ rfl, ← h.eq]
  rfl

theorem delivers_emptyRecord : Delivers (.record []) := by
  refine .of_whole (by rw [valueTokens, valueTokens]) fun {machine} h hawaits => ?_
  rw [valueTokens, if_pos (by decide), feedAll, List.foldl_cons, hawaits _ rfl, ← h.eq]
  rfl

/-! ## Lists -/

theorem itemsDeliver_cons {item : Datum} (hitem : Delivers item) {items : List Datum}
    (hitems : ItemsDeliver items) : ItemsDeliver (item :: items) := by
  intro machine h kind hkind done
  have hready := h.inList hkind done .node
  rw [itemTokens, List.cons_append, feedAll, List.foldl_cons, feed_inList_item h hkind]
  rw [← feedAll, feedAll_append, hitem.whole hready (awaits_of_phase hready rfl),
    deliver_inList, hitems h hkind]
  simp [ScalarForms.trees]

theorem delivers_list {item : Datum} (hitem : Delivers item) {items : List Datum}
    (hitems : ItemsDeliver items) : Delivers (.list (item :: items)) := by
  constructor
  · intro machine h hawaits
    have hopen : machine.feed .blockListStart = machine.inList .block [] .separator := by
      rw [hawaits _ rfl, ← h.eq]
      exact if_pos h.blocks
    have htokens : valueTokens false (.list (item :: items)) =
        .blockListStart :: itemTokens (item :: items) ++ [.blockEnd] := by
      simp [valueTokens]
    rw [htokens, List.cons_append, feedAll, List.foldl_cons, hopen, ← feedAll, feedAll_append,
      itemsDeliver_cons hitem hitems h (by decide), List.append_nil]
    refine (feed_inList_end h _).trans ?_
    rw [List.reverse_reverse, ScalarForms.tree]
  · intro machine h entries key
    have hnode := h.inTable entries (.value key) .node
    have hlist : ((machine.inTable entries (.value key) .node).inList .bare [] .node).IsReady :=
      hnode.inList (by decide) [] .node
    have htokens : valueTokens true (.list (item :: items)) =
        .item :: valueTokens false item ++ itemTokens items := by
      simp [valueTokens, itemTokens]
    -- nothing closes the list here: what follows the field does
    have hclose := sameAfterField_close h entries key
      ((forms.trees items).reverse ++ [forms.tree item])
    rw [htokens, List.cons_append, feedAll, List.foldl_cons, feed_inTable_item h, ← feedAll,
      feedAll_append, hitem.whole hlist (awaits_of_phase hlist rfl), deliver_inList,
      hitems hnode (by decide)]
    simpa [ScalarForms.tree, ScalarForms.trees] using hclose

/-! ## Records -/

theorem fieldsDeliver_cons (name : String) {value : Datum} (hvalue : Delivers value)
    {fields : List (String × Datum)} (hfields : FieldsDeliver fields) :
    FieldsDeliver ((name, value) :: fields) := by
  intro machine h other done hother
  have hready : ∀ slot, (machine.inTable done slot .node).IsReady := fun slot =>
    h.inTable done slot .node
  have hkey : (machine.inTable done .key .node).feed (.scalar (styleOf name) name) =
      machine.inTable done (.value (.scalar (forms.key name))) .colon :=
    feed_scalar (hready _) (awaits_of_phase (hready _) rfl) _ _
  -- only behind a simple key may a list be bare
  have hafter : ((machine.inTable done (.value (.scalar (forms.key name))) .node).feedAll
      (valueTokens (isSimpleKey name) value)).SameAfterField
      (machine.inTable ((.scalar (forms.key name), forms.tree value) :: done) .key .separator) := by
    cases isSimpleKey name with
    | true => exact hvalue.bare h done _
    | false =>
        rw [hvalue.whole (hready _) (awaits_of_phase (hready _) rfl)]
        exact ⟨rfl, rfl⟩
  rw [fieldTokens, List.cons_append, List.cons_append, List.cons_append, feedAll,
    List.foldl_cons, List.foldl_cons, List.foldl_cons, hother.1, feed_inTable_key h, hkey,
    feed_inTable_colon h, ← feedAll, feedAll_append]
  have hrest := hfields h _ hafter
  simpa [ScalarForms.entries] using hrest

theorem delivers_record (name : String) (value : Datum) {fields : List (String × Datum)}
    (hfields : FieldsDeliver ((name, value) :: fields)) :
    Delivers (.record ((name, value) :: fields)) := by
  refine .of_whole (by rw [valueTokens, valueTokens]) fun {machine} h hawaits => ?_
  have hopen : machine.feed .blockTableStart = machine.inTable [] .key .separator := by
    rw [hawaits _ rfl, ← h.eq]
    exact if_pos h.blocks
  have htokens : valueTokens false (.record ((name, value) :: fields)) =
      .blockTableStart :: fieldTokens ((name, value) :: fields) ++ [.blockEnd] := by
    simp [valueTokens]
  have hall := hfields h [] ⟨rfl, rfl⟩
  rw [htokens, List.cons_append, feedAll, List.foldl_cons, hopen, ← feedAll, feedAll_append]
  refine hall.2.trans ((feed_inTable_end h _).trans ?_)
  rw [List.append_nil, List.reverse_reverse, ScalarForms.tree]

/-! ## All values -/

mutual

theorem delivers : ∀ value : Datum, Delivers value
  | .null =>
      delivers_scalar forms.null rfl (fun bare => by rw [valueTokens]; rfl)
        (by rw [ScalarForms.tree])
  | .natural value =>
      delivers_scalar (forms.natural value) rfl (fun bare => by rw [valueTokens]; rfl)
        (by rw [ScalarForms.tree])
  | .text value =>
      delivers_scalar (forms.text value) rfl (fun bare => by rw [valueTokens]; rfl)
        (by rw [ScalarForms.tree])
  | .list [] => delivers_emptyList
  | .list (item :: items) => delivers_list (delivers item) (itemsDeliver items)
  | .record [] => delivers_emptyRecord
  | .record ((name, value) :: fields) =>
      delivers_record name value (fieldsDeliver_cons name (delivers value) (fieldsDeliver fields))

theorem itemsDeliver : ∀ items : List Datum, ItemsDeliver items
  | [] => fun _ _ _ _ => rfl
  | item :: items => itemsDeliver_cons (delivers item) (itemsDeliver items)

theorem fieldsDeliver : ∀ fields : List (String × Datum), FieldsDeliver fields
  | [] => fun _ _ _ hother => hother
  | (name, value) :: fields => fieldsDeliver_cons name (delivers value) (fieldsDeliver fields)

end

end Machine

/-! ## Documents -/

/-- A list or record is read back as its tree. -/
theorem ofText_document {value : Datum} (h : value.isCollection = true) :
    Document.ofText (String.ofList (document value)) = ⟨forms.tree value, [], .complete⟩ := by
  have hfeed : (tokens (document value)).foldl Machine.feed .start =
      { Machine.start with
        root := some (forms.tree value), phase := .epilogue, ending := some .complete } := by
    have hready : Machine.start.IsReady := ⟨rfl, rfl, rfl⟩
    rw [tokens_document h, ← Machine.feedAll, Machine.feedAll_append,
      (Machine.delivers value).whole hready Machine.awaits_start]
    rfl
  rw [Document.ofText, String.toList_ofList, hfeed]
  rfl

end StorageSurvey.Yaml
