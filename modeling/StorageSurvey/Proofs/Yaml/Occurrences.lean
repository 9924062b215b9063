import StorageSurvey.Proofs.Document.Decoding
import StorageSurvey.Proofs.Yaml.Lines
import StorageSurvey.Yaml.Dialect

/-!
# Texts do not come from nowhere

A text that is found in a document stands in a token of its own: the machine copies no scalar, and
it makes up no scalar but the empty one.  So a document holds a text at most as often as the tokens
do.  And it is complete only if the end of the text is among them.

The step lemma is `takes_feed`; each function that takes a token has one of its own.
-/

namespace StorageSurvey

open StorageSurvey.Document

/-! ## Counting a text -/

namespace Document.Value

variable (text : String)

mutual

/-- How often a text is found in a value. -/
def occurs : Value → Nat
  | .scalar (.text content) => if content = text then 1 else 0
  | .scalar _ => 0
  | .list items => itemsOccur items
  | .table entries => entriesOccur entries

def itemsOccur : List Value → Nat
  | [] => 0
  | item :: items => occurs item + itemsOccur items

def entriesOccur : List (Value × Value) → Nat
  | [] => 0
  | (key, content) :: entries => occurs key + occurs content + entriesOccur entries

end

end Document.Value

namespace Yaml

variable (text : String)

/-- Whether a token is a scalar with this text. -/
def Token.isScalar : Token → Bool
  | .scalar _ content => content == text
  | _ => false

namespace Tree

mutual

/-- How often a text is a scalar of a tree. -/
def occurs : Tree → Nat
  | .scalar scalar => if scalar.text = text then 1 else 0
  | .list items _ => itemsOccur items
  | .table entries _ => entriesOccur entries
  | .tagged _ content => occurs content
  | .alias _ | .broken => 0

def itemsOccur : List Tree → Nat
  | [] => 0
  | item :: items => occurs item + itemsOccur items

def entriesOccur : List (Tree × Tree) → Nat
  | [] => 0
  | (key, content) :: entries => occurs key + occurs content + entriesOccur entries

end

theorem itemsOccur_append (items more : List Tree) :
    itemsOccur text (items ++ more) = itemsOccur text items + itemsOccur text more := by
  induction items with
  | nil => simp [itemsOccur]
  | cons item items ih =>
      rw [List.cons_append, itemsOccur, itemsOccur, ih]
      omega

theorem entriesOccur_append (entries more : List (Tree × Tree)) :
    entriesOccur text (entries ++ more) = entriesOccur text entries + entriesOccur text more := by
  induction entries with
  | nil => simp [entriesOccur]
  | cons entry entries ih =>
      obtain ⟨key, content⟩ := entry
      rw [List.cons_append, entriesOccur, entriesOccur, ih]
      omega

theorem itemsOccur_reverse (items : List Tree) :
    itemsOccur text items.reverse = itemsOccur text items := by
  induction items with
  | nil => rfl
  | cons item items ih =>
      rw [List.reverse_cons, itemsOccur_append, ih]
      simp only [itemsOccur]
      omega

theorem entriesOccur_reverse (entries : List (Tree × Tree)) :
    entriesOccur text entries.reverse = entriesOccur text entries := by
  induction entries with
  | nil => rfl
  | cons entry entries ih =>
      obtain ⟨key, content⟩ := entry
      rw [List.reverse_cons, entriesOccur_append, ih]
      simp only [entriesOccur]
      omega

end Tree

def Slot.occurs : Slot → Nat
  | .key | .loneKey => 0
  | .value node => Tree.occurs text node

def Container.occurs : Container → Nat
  | .list _ items => Tree.itemsOccur text items
  | .table _ entries slot => Tree.entriesOccur text entries + slot.occurs text

def framesOccur : List Frame → Nat
  | [] => 0
  | frame :: frames => frame.container.occurs text + framesOccur frames

/-- How often a text is a scalar of what a machine has read. -/
def Machine.occurs (machine : Machine) : Nat :=
  framesOccur text machine.frames + (machine.root.map (Tree.occurs text)).getD 0

variable {text}

/-- The key whose value never came is given up with its frame. -/
theorem occurs_toTree_le (frame : Frame) (closed : Bool) :
    Tree.occurs text (frame.toTree closed) ≤ frame.container.occurs text := by
  obtain ⟨container, anchored, tag⟩ := frame
  cases container with
  | list kind items =>
      cases tag <;> simp [Frame.toTree, Tree.occurs, Container.occurs, Tree.itemsOccur_reverse]
  | table kind entries slot =>
      cases tag <;> simp [Frame.toTree, Tree.occurs, Container.occurs, Tree.entriesOccur_reverse]

/-! ## What a machine may do -/

/-- What is read on the way from one machine to another: the text at most `gain` times, and the end
of the document only if the machine had it or is told so. -/
structure Within (text : String) (gain : Nat) (isTold : Prop) (machine next : Machine) : Prop where
  occurs_le : next.occurs text ≤ machine.occurs text + gain
  ending : next.ending = some .complete → machine.ending = some .complete ∨ isTold

namespace Within

variable {machine next after : Machine} {gain more : Nat} {isTold : Prop}

theorem refl : Within text 0 False machine machine :=
  ⟨Nat.le_refl _, Or.inl⟩

theorem trans (h : Within text gain False machine next) (h' : Within text more isTold next after) :
    Within text (gain + more) isTold machine after := by
  refine ⟨?_, fun hending => ?_⟩
  · have := h.occurs_le
    have := h'.occurs_le
    omega
  · rcases h'.ending hending with hnext | htold
    · exact Or.inl ((h.ending hnext).resolve_right id)
    · exact Or.inr htold

/-- Only the frames, the root and the ending matter. -/
theorem of_eq (h : Within text gain isTold machine next) (hframes : after.frames = next.frames)
    (hroot : after.root = next.root) (hending : after.ending = next.ending) :
    Within text gain isTold machine after := by
  refine ⟨?_, fun hafter => h.ending (hending ▸ hafter)⟩
  rw [Machine.occurs, hframes, hroot]
  exact h.occurs_le

end Within

namespace Machine

variable (machine : Machine)

theorem within_stop {ending : Ending} (hending : ending ≠ .complete) :
    Within text 0 False machine (machine.stop ending) := by
  refine ⟨Nat.le_refl _, fun h => ?_⟩
  exact absurd (Option.some.inj h) hending

variable (htext : text ≠ "")

include htext

theorem occurs_omitted : Tree.occurs text (.scalar .omitted) = 0 := by
  rw [Tree.occurs]
  exact if_neg htext.symm

theorem within_deliver (node : Tree) :
    Within text (Tree.occurs text node) False machine (machine.deliver node) := by
  have homitted := occurs_omitted htext
  obtain ⟨frames, phase, properties, handles, hasVersion, names, nodes, root, ending⟩ := machine
  unfold deliver
  split <;> rename_i hframes <;> cases hframes <;> refine ⟨?_, Or.inl⟩ <;>
    simp [occurs, framesOccur, Container.occurs, Slot.occurs, Tree.itemsOccur,
      Tree.entriesOccur, homitted] <;> omega

theorem within_leaveOut : Within text 0 False machine machine.leaveOut := by
  have hdeliver := machine.within_deliver htext (.scalar .omitted)
  rwa [occurs_omitted htext] at hdeliver

theorem within_close : Within text 0 False machine machine.close := by
  unfold close
  split
  · rename_i frame frames hframes
    have hdeliver := within_deliver
      { machine with frames, nodes := record machine.nodes frame.anchored (frame.toTree true) }
      htext (frame.toTree true)
    refine ⟨?_, hdeliver.ending⟩
    have hle := hdeliver.occurs_le
    have hnode : Tree.occurs text (frame.toTree true) ≤ frame.container.occurs text :=
      occurs_toTree_le frame true
    simp only [occurs, hframes, framesOccur] at hle ⊢
    omega
  · exact machine.within_stop (by decide)

omit htext in
theorem within_takeProperties : Within text 0 False machine machine.takeProperties.1 := by
  unfold takeProperties
  split <;> exact Within.refl.of_eq rfl rfl rfl

theorem within_scalar (tag : Option String) (style : Style) (content : String) :
    Within text (if content = text then 1 else 0) False machine
      (machine.scalar tag style content) := by
  -- the anchor and the tag of the node are taken first, which hold no text
  have hnode : Within text 0 False machine { machine.takeProperties.1 with
      nodes := record machine.takeProperties.1.nodes machine.takeProperties.2
        (.scalar ⟨content, style, if tag = some "!" then none else tag⟩) } :=
    machine.within_takeProperties.of_eq rfl rfl rfl
  have hdeliver := hnode.trans (within_deliver _ htext
    (.scalar ⟨content, style, if tag = some "!" then none else tag⟩))
  rw [Nat.zero_add, Tree.occurs] at hdeliver
  exact hdeliver

omit htext in
theorem within_openContainer (tag : Option String) {container : Container}
    (hcontainer : container.occurs text = 0) (phase : Phase) :
    Within text 0 False machine (machine.openContainer tag container phase) := by
  have hproperties : Within text 0 False machine machine.takeProperties.1 :=
    machine.within_takeProperties
  obtain ⟨hle, hending⟩ := hproperties
  refine ⟨?_, hending⟩
  simpa [openContainer, occurs, framesOccur, hcontainer] using hle

end Machine

/-! ## Taking a token -/

/-- What a machine reads with one token. -/
abbrev Takes (text : String) (token : Token) (machine next : Machine) : Prop :=
  Within text (if token.isScalar text then 1 else 0) (token = .streamEnd) machine next

theorem Within.takes {machine next : Machine} (h : Within text 0 False machine next)
    (token : Token) : Takes text token machine next :=
  ⟨Nat.le_trans h.occurs_le (Nat.le_add_right _ _),
    fun hending => Or.inl ((h.ending hending).resolve_right id)⟩

theorem Within.andTakes {machine next after : Machine} {token : Token}
    (h : Within text 0 False machine next) (h' : Takes text token next after) :
    Takes text token machine after := by
  have htakes := h.trans h'
  rwa [Nat.zero_add] at htakes

namespace Machine

variable (machine : Machine) (token : Token)

theorem takes_stop {ending : Ending} (hending : ending ≠ .complete) :
    Takes text token machine (machine.stop ending) :=
  (machine.within_stop hending).takes token

variable {machine token} in
theorem takes_of_eq {next : Machine} (hframes : next.frames = machine.frames)
    (hroot : next.root = machine.root) (hending : next.ending = machine.ending) :
    Takes text token machine next :=
  (Within.refl.of_eq hframes hroot hending).takes token

variable (htext : text ≠ "")

include htext

theorem takes_blockKey : Takes text token machine (machine.blockKey token) := by
  unfold blockKey
  split
  · exact takes_of_eq rfl rfl rfl
  · exact (machine.within_close htext).takes _
  · exact machine.takes_stop _ (by decide)

theorem takes_flowItem : Takes text token machine (machine.flowItem token) := by
  unfold flowItem
  split
  · exact takes_of_eq rfl rfl rfl
  · exact (machine.within_close htext).takes _
  · exact machine.takes_stop _ (by decide)

theorem takes_separator : Takes text token machine (machine.separator token) := by
  have hclose := machine.within_close htext
  unfold separator
  split
  · split
    · exact takes_of_eq rfl rfl rfl
    · exact hclose.takes _
    · exact machine.takes_stop _ (by decide)
  · split
    · exact takes_of_eq rfl rfl rfl
    · -- a bare list ends with the block around it, which takes the token
      dsimp only
      split
      · exact hclose.andTakes (takes_of_eq rfl rfl rfl)
      · exact (hclose.trans (within_leaveOut _ htext)).andTakes (takes_blockKey _ _ htext)
      · exact hclose.andTakes (takes_blockKey _ _ htext)
  · exact machine.takes_flowItem token htext
  · exact machine.takes_blockKey token htext
  · split
    · exact takes_of_eq rfl rfl rfl
    · exact hclose.takes _
    · exact machine.takes_stop _ (by decide)
  · exact hclose.andTakes (takes_flowItem _ _ htext)
  · exact machine.takes_stop _ (by decide)

theorem takes_colon : Takes text token machine (machine.colon token) := by
  unfold colon
  split
  · exact takes_of_eq rfl rfl rfl
  · exact (machine.within_leaveOut htext).andTakes (takes_separator _ _ htext)

omit htext in
theorem takes_epilogue : Takes text token machine (machine.epilogue token) := by
  unfold epilogue
  split
  · exact ⟨Nat.le_refl _, fun _ => Or.inr rfl⟩
  · exact takes_of_eq rfl rfl rfl
  · exact machine.takes_stop _ (by decide)

theorem takes_afterNode : Takes text token machine (machine.afterNode token) := by
  unfold afterNode
  split
  · exact machine.takes_colon token htext
  · exact machine.takes_epilogue token
  · exact machine.takes_separator token htext

theorem takes_beginNode (tag : Option String) :
    Takes text token machine (machine.beginNode tag token) := by
  have hopen : ∀ {container : Container} {phase : Phase}, container.occurs text = 0 →
      Takes text token machine (machine.openContainer tag container phase) :=
    fun hcontainer => (machine.within_openContainer tag hcontainer _).takes token
  unfold beginNode
  split
  · rename_i style content
    have hscalar := machine.within_scalar htext tag style content
    refine ⟨?_, fun h => Or.inl ((hscalar.ending h).resolve_right id)⟩
    simpa [Token.isScalar] using hscalar.occurs_le
  · exact hopen rfl
  · exact hopen rfl
  · split
    · exact hopen rfl
    · exact machine.takes_stop _ (by decide)
  · split
    · exact hopen rfl
    · exact machine.takes_stop _ (by decide)
  · split
    · exact hopen rfl
    · exact machine.takes_stop _ (by decide)
  · exact machine.takes_stop _ (by decide)

theorem takes_node : Takes text token machine (machine.node token) := by
  unfold node
  split
  · exact takes_of_eq rfl rfl rfl
  · exact takes_of_eq rfl rfl rfl
  · split
    · exact Within.takes (machine.within_deliver htext (.alias _)) _
    · exact machine.takes_stop _ (by decide)
  · split
    · exact machine.takes_stop _ (by decide)
    · split
      · exact machine.takes_beginNode _ htext _
      -- properties with nothing after them belong to an empty scalar
      · have hscalar := machine.within_scalar htext ‹Option String› .plain ""
        rw [if_neg htext.symm] at hscalar
        exact hscalar.andTakes (takes_afterNode _ _ htext)

theorem takes_nodeOrOmission : Takes text token machine (machine.nodeOrOmission token) := by
  have homission := machine.within_leaveOut htext
  unfold nodeOrOmission
  split
  · split
    · exact homission.takes token
    · exact homission.andTakes (takes_afterNode _ _ htext)
  · exact machine.takes_node token htext

theorem takes_slot : Takes text token machine (machine.slot token) := by
  unfold slot
  split
  · exact (machine.within_close htext).takes _
  · refine Within.takes ?_ _
    refine ⟨?_, Or.inl⟩
    simp [occurs, framesOccur, Container.occurs, Slot.occurs, Tree.entriesOccur]
  · exact (machine.within_close htext).takes _
  · exact takes_of_eq rfl rfl rfl
  · rename_i hframes _ _
    refine Within.andTakes ?_ (takes_node _ _ htext)
    refine ⟨?_, Or.inl⟩
    simp [occurs, hframes, framesOccur, Container.occurs, Slot.occurs]
  · refine Within.andTakes ?_ (takes_node _ _ htext)
    exact Within.refl.of_eq rfl rfl rfl

omit htext in
theorem takes_directive : Takes text token machine (machine.directive token) := by
  unfold directive
  split
  · split
    · exact machine.takes_stop _ (by decide)
    · exact takes_of_eq rfl rfl rfl
  · split
    · exact machine.takes_stop _ (by decide)
    · exact takes_of_eq rfl rfl rfl
  · exact machine.takes_stop _ (by decide)

theorem takes_prologue : Takes text token machine (machine.prologue token) := by
  unfold prologue
  split
  · exact machine.takes_directive _
  · exact machine.takes_directive _
  · exact takes_of_eq rfl rfl rfl
  · refine ⟨?_, fun _ => Or.inr rfl⟩
    simp only [stop, occurs, Option.map_some, Option.getD_some, occurs_omitted htext]
    omega
  · refine Within.andTakes ?_ (takes_node _ _ htext)
    exact Within.refl.of_eq rfl rfl rfl

/-- With a token the machine reads no text but that of the token, and the end of the document only
with the end of the text. -/
theorem takes_feed : Takes text token machine (machine.feed token) := by
  unfold feed
  split
  · exact Within.refl.takes token
  split
  · exact machine.takes_prologue token htext
  · split
    · exact takes_of_eq rfl rfl rfl
    · exact machine.takes_directive _
  · exact machine.takes_nodeOrOmission token htext
  · exact machine.takes_slot token htext
  · exact machine.takes_separator token htext
  · exact machine.takes_colon token htext
  · exact machine.takes_epilogue token
  · split
    · exact ⟨Nat.le_refl _, fun _ => Or.inr rfl⟩
    · exact Within.refl.takes _
    · exact machine.takes_stop _ (by decide)

/-- What all tokens together may give. -/
theorem within_foldl_feed (tokens : List Token) :
    Within text (tokens.countP (Token.isScalar text)) (.streamEnd ∈ tokens) machine
      (tokens.foldl feed machine) := by
  induction tokens generalizing machine with
  | nil => exact ⟨Nat.le_refl _, Or.inl⟩
  | cons token tokens ih =>
      -- the first token gives its share, and the others theirs
      have hfirst := machine.takes_feed token htext
      have hothers := ih (machine.feed token)
      refine ⟨?_, fun hending => ?_⟩
      · have := hfirst.occurs_le
        have := hothers.occurs_le
        rw [List.foldl_cons, List.countP_cons]
        omega
      · rcases hothers.ending hending with hnext | hmem
        · rcases hfirst.ending hnext with hmachine | rfl
          · exact Or.inl hmachine
          · exact Or.inr List.mem_cons_self
        · exact Or.inr (List.mem_cons_of_mem _ hmem)

omit htext in
/-- What is under way when a document breaks off holds no more than its frames. -/
theorem occurs_abandonFrames_le (pending : Option Tree)
    (nodes : List (Nat × Tree)) (frames : List Frame) :
    Tree.occurs text (abandonFrames pending nodes frames).1 ≤
      (pending.map (Tree.occurs text)).getD 0 + framesOccur text frames := by
  induction frames generalizing pending nodes with
  | nil => cases pending <;> simp [abandonFrames, framesOccur, Tree.occurs]
  | cons frame frames ih =>
      obtain ⟨container, anchored, tag⟩ := frame
      rw [abandonFrames]
      refine Nat.le_trans (ih _ _) ?_
      rw [Option.map_some, Option.getD_some, framesOccur]
      refine Nat.le_trans (Nat.add_le_add_right (occurs_toTree_le _ false) _) ?_
      cases container with
      | list kind items =>
          cases pending <;> simp [Container.occurs, Tree.itemsOccur]
          omega
      | table kind entries slot =>
          cases slot <;> cases pending <;>
            simp [Container.occurs, Slot.occurs, Tree.entriesOccur, Tree.occurs] <;> omega

end Machine

/-! ## Documents -/

/-- A document holds a text at most as often as its tokens do. -/
theorem occurs_ofText_le {text : String} (htext : text ≠ "") (written : String) :
    Tree.occurs text (Document.ofText written).root ≤
      (tokens written.toList).countP (Token.isScalar text) := by
  have hread := (Machine.within_foldl_feed Machine.start htext (tokens written.toList)).occurs_le
  have hstart : Machine.start.occurs text = 0 := rfl
  rw [hstart, Nat.zero_add, Machine.occurs] at hread
  rw [Document.ofText]
  dsimp only
  -- without a root, the document is what is left of the frames
  cases hroot : ((tokens written.toList).foldl Machine.feed .start).root with
  | some root =>
      rw [hroot, Option.map_some, Option.getD_some] at hread
      dsimp only
      omega
  | none =>
      rw [hroot, Option.map_none, Option.getD_none] at hread
      refine Nat.le_trans (Machine.occurs_abandonFrames_le _ _ _) ?_
      rw [Option.map_none, Option.getD_none]
      omega

/-- A document is complete only if its text has ended without a fault. -/
theorem mem_tokens_of_complete {written : String}
    (h : (Document.ofText written).ending = .complete) : .streamEnd ∈ tokens written.toList := by
  have hne : "-" ≠ "" := by decide
  have hread := (Machine.within_foldl_feed Machine.start hne (tokens written.toList)).ending
  -- the machine has not stopped, or the document ends as the machine did
  have hending : (Document.ofText written).ending =
      ((tokens written.toList).foldl Machine.feed .start).ending.getD
        (if ((tokens written.toList).foldl Machine.feed .start).phase = .over
          then .severalDocuments else .grammar) := by
    rw [Document.ofText]
    dsimp only
    split <;> rfl
  rw [hending] at h
  cases hmachine : ((tokens written.toList).foldl Machine.feed .start).ending with
  | some ending =>
      rw [hmachine, Option.getD_some] at h
      rw [hmachine, h] at hread
      exact (hread rfl).resolve_left (by simp [Machine.start])
  | none =>
      rw [hmachine, Option.getD_none] at h
      split at h <;> cases h

/-! ## Values -/

/-- A scalar that is taken for a text is taken for its own. -/
theorem eq_of_found_text {path : Path} {scalar : Scalar} {content : String}
    (h : scalar.found path = .ok (.text content)) : scalar.text = content := by
  have hplain : ∀ {content : String}, Scalar.foundPlain scalar.text = .text content →
      scalar.text = content := by
    intro content h
    unfold Scalar.foundPlain at h
    split at h
    · cases h
    · cases h
    · split at h <;> cases h
    · cases h
    · exact Found.text.inj h
  -- a tag decides what a scalar may be, and only then is its text looked at
  unfold Scalar.found at h
  dsimp only at h
  split at h
  · have h := Except.ok.inj h
    split at h
    · exact hplain h
    · exact Found.text.inj h
  · split at h
    · split at h <;> cases h
    split at h
    · split at h
      · exact hplain (Except.ok.inj h)
      · cases h
    split at h
    · split at h <;> cases h
    split at h
    · split at h <;> cases h
    split at h
    · exact hplain (Except.ok.inj h)
    · exact Found.text.inj (Except.ok.inj h)

section Values

variable {text : String} (document : Document)

mutual

/-- The value of a tree holds a text at most as often as the tree. -/
theorem occurs_value?_le {tree : Tree} {value : Value}
    (h : document.dialect.value? tree = some value) :
    value.occurs text ≤ Tree.occurs text tree := by
  match tree with
  | .scalar scalar =>
      obtain ⟨found, hfound, rfl⟩ := Option.map_eq_some_iff.mp h
      cases hread : scalar.found [] with
      | error fault =>
          rw [show document.dialect.found [] scalar = scalar.found [] from rfl, hread] at hfound
          cases hfound
      | ok read =>
          rw [show document.dialect.found [] scalar = scalar.found [] from rfl, hread] at hfound
          cases hfound
          cases found with
          | text content =>
              have hcontent := eq_of_found_text hread
              exact Nat.le_of_eq (by rw [Value.occurs, Tree.occurs, hcontent])
          | null | boolean _ | integer _ | wideInteger _ | float _ | list | table =>
              exact Nat.zero_le _
  | .list items true =>
      obtain ⟨values, hvalues, rfl⟩ := Option.map_eq_some_iff.mp h
      exact itemsOccur_values?_le hvalues
  | .table entries true =>
      obtain ⟨values, hvalues, rfl⟩ := Option.map_eq_some_iff.mp h
      exact entriesOccur_entryValues?_le hvalues
  | .list _ false | .table _ false | .tagged _ _ | .alias _ | .broken => cases h

theorem itemsOccur_values?_le {items : List Tree} {values : List Value}
    (h : document.dialect.values? items = some values) :
    Value.itemsOccur text values ≤ Tree.itemsOccur text items := by
  match items with
  | [] =>
      cases h
      exact Nat.le_refl _
  | item :: items =>
      obtain ⟨value, hvalue, h⟩ := Option.bind_eq_some_iff.mp h
      obtain ⟨others, hothers, heq⟩ := Option.bind_eq_some_iff.mp h
      cases heq
      exact Nat.add_le_add (occurs_value?_le hvalue) (itemsOccur_values?_le hothers)

theorem entriesOccur_entryValues?_le {entries : List (Tree × Tree)}
    {values : List (Value × Value)} (h : document.dialect.entryValues? entries = some values) :
    Value.entriesOccur text values ≤ Tree.entriesOccur text entries := by
  match entries with
  | [] =>
      cases h
      exact Nat.le_refl _
  | (key, content) :: entries =>
      obtain ⟨keyValue, hkey, h⟩ := Option.bind_eq_some_iff.mp h
      obtain ⟨value, hvalue, h⟩ := Option.bind_eq_some_iff.mp h
      obtain ⟨others, hothers, heq⟩ := Option.bind_eq_some_iff.mp h
      cases heq
      exact Nat.add_le_add (Nat.add_le_add (occurs_value?_le hkey) (occurs_value?_le hvalue))
        (entriesOccur_entryValues?_le hothers)

end

end Values

/-! ## Written values -/

section Written

variable {text : String}

theorem countP_isScalar_singleton (style : Style) (content : String) :
    [Token.scalar style content].countP (Token.isScalar text) =
      if content = text then 1 else 0 := by
  rw [List.countP_singleton]
  simp [Token.isScalar]

/-- Whether a text is not what is written for a null or a natural. -/
def IsOwnText (text : String) : Prop :=
  text ≠ "null" ∧ ∀ n, text ≠ String.ofList (Nat.toDigits 10 n)

mutual

/-- A text that is not written for anything else stands as often among the tokens of a value as in
the value. -/
theorem countP_valueTokens (htext : IsOwnText text) (bare : Bool) (datum : Datum) :
    (valueTokens bare datum).countP (Token.isScalar text) = datum.value.occurs text := by
  match datum with
  | .null =>
      rw [valueTokens, countP_isScalar_singleton, if_neg htext.1.symm]
      rfl
  | .natural n =>
      rw [valueTokens, countP_isScalar_singleton, if_neg (htext.2 n).symm]
      rfl
  | .text content =>
      rw [valueTokens, countP_isScalar_singleton]
      rfl
  | .list [] =>
      rw [valueTokens]
      rfl
  | .list (item :: items) =>
      have hitems := countP_itemTokens htext (item :: items)
      rw [Datum.value, Value.occurs]
      cases bare with
      | true => simpa [valueTokens] using hitems
      | false => simpa [valueTokens, Token.isScalar] using hitems
  | .record [] =>
      rw [valueTokens]
      rfl
  | .record (field :: fields) =>
      have hfields := countP_fieldTokens htext (field :: fields)
      rw [Datum.value, Value.occurs]
      simpa [valueTokens, Token.isScalar] using hfields

theorem countP_itemTokens (htext : IsOwnText text) (items : List Datum) :
    (itemTokens items).countP (Token.isScalar text) =
      Value.itemsOccur text (Datum.values items) := by
  match items with
  | [] => rfl
  | item :: items =>
      rw [itemTokens, List.cons_append, List.countP_cons_of_neg (by simp [Token.isScalar]),
        List.countP_append, countP_valueTokens htext false item, countP_itemTokens htext items]
      rfl

theorem countP_fieldTokens (htext : IsOwnText text) (fields : List (String × Datum)) :
    (fieldTokens fields).countP (Token.isScalar text) =
      Value.entriesOccur text (Datum.fieldValues fields) := by
  match fields with
  | [] => rfl
  | (name, content) :: fields =>
      rw [fieldTokens, List.cons_append, List.cons_append, List.cons_append,
        List.countP_cons_of_neg (by simp [Token.isScalar]), List.countP_cons,
        List.countP_cons_of_neg (by simp [Token.isScalar]), List.countP_append,
        countP_valueTokens htext _ content, countP_fieldTokens htext fields, Datum.fieldValues,
        Value.entriesOccur, Value.occurs]
      simp only [Token.isScalar, beq_iff_eq]
      omega

end

end Written

end Yaml

end StorageSurvey
