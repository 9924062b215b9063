import StorageSurvey.Proofs.Report.Alignment
import StorageSurvey.Report.Listing

/-!
# Narrow and wide tables of nodes

The header of a table of nodes and the cells of a node are put together on their own, each part
only if it is asked for.  Whatever is asked for, the two are in step: they are equally long, and a
cell has the field that its header names (`inStep_nodeColumns`).  So the table is laid out in
columns, and it is enough to say once which columns the wide table has and which of them the narrow
one keeps.

The narrow table keeps all columns but four, each as wide as in the wide table, so that its lines
are those of the wide table without these columns.  The only texts of a node that could break a line
are those that are given with it: sizes, counts and states are written without line breaks.
-/

namespace StorageSurvey

open StorageSurvey.Text

/-! ## Texts without line breaks -/

namespace Inventory

theorem ByteSize.unit_ne_lineFeed (size : Nat) : (ByteSize.unit size).2 ≠ '\n' := by
  unfold ByteSize.unit
  dsimp only
  cases hlast : (unitStarts.takeWhile fun start => decide (start.1 ≤ size)).getLast? with
  | none => decide
  | some start =>
      have hstart : start ∈ unitStarts :=
        List.takeWhile_subset _ (List.mem_of_getLast? hlast)
      have hall : ∀ start ∈ unitStarts, start.2 ≠ '\n' := by decide
      exact hall start hstart

theorem not_mem_fixedText (places num den : Nat) : '\n' ∉ Number.fixedText places num den := by
  intro hmem
  rw [Number.fixedText, List.mem_append, List.mem_cons] at hmem
  rcases hmem with hwhole | hpoint | hplaces
  · exact absurd (Number.isDigit_of_mem_toDigits hwhole) (by decide)
  · exact absurd hpoint (by decide)
  · exact absurd (Number.isDigit_of_mem_paddedDigits hplaces) (by decide)

theorem ByteSize.unbroken_text (size : UInt64) : Unbroken (ByteSize.text size) := by
  unfold ByteSize.text
  split
  · exact (unbroken_digits _).append (by decide)
  · have hunit := ByteSize.unit_ne_lineFeed size.toNat
    rw [Unbroken, String.toList_ofList, List.mem_append, not_or]
    refine ⟨not_mem_fixedText _ _ _, ?_⟩
    simpa using hunit.symm

theorem NodeStatus.unbroken_text (status : NodeStatus) : Unbroken status.text := by
  cases status <;> decide

end Inventory

namespace Report

open StorageSurvey.Inventory

theorem unbroken_labelsText {labels : Labels}
    (h : ∀ entry ∈ labels.entries, Unbroken entry.1 ∧ Unbroken entry.2) :
    Unbroken (labelsText labels) := by
  unfold labelsText joinOrNone
  split
  · decide
  · refine Unbroken.intercalate (by decide) fun text htext => ?_
    obtain ⟨entry, hentry, rfl⟩ := List.mem_map.mp htext
    obtain ⟨hkey, hvalue⟩ := h entry hentry
    exact (hkey.append (by decide)).append hvalue

/-! ## The columns -/

/-- The columns of the wide table. -/
def wideColumns (showLabels : Bool) : List (Column Node) := [
  ⟨"Id", Node.id⟩,
  ⟨"Hostname", Node.hostname⟩,
  ⟨"IP", Node.managementIp⟩,
  ⟨"Data IP", Node.dataIp⟩,
  ⟨"Version", fun node => node.version.getD "-"⟩,
  ⟨"SchedulerNodeName", Node.schedulerName⟩,
  ⟨"Used", fun node => ByteSize.text node.capacity.used⟩,
  ⟨"Capacity", fun node => ByteSize.text node.capacity.total⟩,
  ⟨"# Pools", fun node => toString node.pools.length⟩,
  ⟨"Status", fun node => node.status.text⟩] ++
  if showLabels then [⟨"Labels", fun node => labelsText node.labels⟩] else []

/-- Whether a column is in the narrow table too. -/
def staysNarrow (header : String) : Bool :=
  !(["Id", "IP", "Data IP", "# Pools"].contains header)

def nodeColumns (wide showLabels : Bool) : List (Column Node) :=
  if wide then wideColumns showLabels
  else (wideColumns showLabels).filter fun column => staysNarrow column.header

/-- The header and the cells of every node are in step, whatever is asked for. -/
theorem inStep_nodeColumns (wide showLabels : Bool) :
    InStep (nodeColumns wide showLabels) (nodeHeader wide showLabels)
      (nodeRow wide showLabels) := by
  constructor
  · cases wide <;> cases showLabels <;> rfl
  · intro node
    cases wide <;> cases showLabels <;> rfl

/-- What stands under the headers in step with a list of columns. -/
theorem InStep.zip_eq {α : Type} {columns : List (Column α)} {header : List String}
    {row : α → List String} (h : InStep columns header row) (item : α) :
    header.length = (row item).length ∧
      header.zip (row item) = columns.map fun column => (column.header, column.cell item) := by
  rw [h.header_eq, h.row_eq, List.length_map, List.length_map, List.zip_map']
  exact ⟨rfl, rfl⟩

theorem nodeColumns_ne_nil (wide showLabels : Bool) : nodeColumns wide showLabels ≠ [] := by
  cases wide <;> exact List.cons_ne_nil _ _

/-! ## What is shown of a node -/

/-- The texts given with a node that a table shows. -/
def shownTexts (wide showLabels : Bool) (node : Node) : List String :=
  (if wide then [node.id, node.managementIp, node.dataIp] else []) ++
    [node.hostname, node.schedulerName] ++ node.version.toList ++
    if showLabels then node.labels.entries.flatMap fun entry => [entry.1, entry.2] else []

theorem unbroken_cell {wide showLabels : Bool} {node : Node}
    (h : ∀ text ∈ shownTexts wide showLabels node, Unbroken text) :
    ∀ column ∈ nodeColumns wide showLabels, Unbroken (column.cell node) := by
  simp only [shownTexts, List.forall_mem_append, List.forall_mem_cons, Option.mem_toList] at h
  obtain ⟨⟨⟨hwide, hhostname, hscheduler, -⟩, hversion⟩, hlabels⟩ := h
  have hshownVersion : Unbroken (node.version.getD "-") := by
    cases hnode : node.version with
    | none => decide
    | some version => exact hversion version hnode
  have hshownLabels : showLabels = true → Unbroken (labelsText node.labels) := by
    rintro rfl
    refine unbroken_labelsText fun entry hentry => ?_
    have htexts := fun text htext => hlabels text (List.mem_flatMap.mpr ⟨entry, hentry, htext⟩)
    exact ⟨htexts entry.1 (by simp), htexts entry.2 (by simp)⟩
  have hused := ByteSize.unbroken_text node.capacity.used
  have htotal := ByteSize.unbroken_text node.capacity.total
  have hpools : Unbroken (toString node.pools.length) := by
    rw [Nat.toString_eq_ofList_toDigits]
    exact unbroken_digits _
  have hstatus := node.status.unbroken_text
  cases wide <;> cases showLabels <;> simp_all [nodeColumns, wideColumns, staysNarrow]

theorem unbroken_header (wide showLabels : Bool) :
    ∀ column ∈ nodeColumns wide showLabels, Unbroken column.header := by
  cases wide <;> cases showLabels <;> decide

/-! ## The two tables -/

/-- Whether a text is a table with this layout and every row of it is one line. -/
structure LaidOutInLines {α : Type} (layout : Layout α) (items : List α) (text : String) : Prop
    extends LaidOut layout items text where
  lines_eq_map : lines text.toList = (rowsOf items).map (layout.line · 0)

theorem laidOutInLines_nodesText {nodes : List Node} (hnodes : nodes ≠ []) {wide showLabels : Bool}
    (h : ∀ node ∈ nodes, ∀ text ∈ shownTexts wide showLabels node, Unbroken text) :
    LaidOutInLines (.ofItems (nodeColumns wide showLabels) nodes) nodes
      (nodesText nodes wide showLabels) := by
  have hlaid : LaidOut (.ofItems (nodeColumns wide showLabels) nodes) nodes
      (nodesText nodes wide showLabels) := by
    rw [nodesText, listing, if_neg (by simpa using hnodes)]
    exact laidOut_tableOf (inStep_nodeColumns wide showLabels) (nodeColumns_ne_nil _ _) nodes
  have hshows : ∀ row ∈ rowsOf nodes, ∀ column ∈ nodeColumns wide showLabels,
      Unbroken (column.shows row) := by
    intro row hrow column hcolumn
    rcases List.mem_cons.mp hrow with rfl | hmem
    · exact unbroken_header wide showLabels column hcolumn
    · obtain ⟨node, hnode, rfl⟩ := List.mem_map.mp hmem
      exact unbroken_cell (h node hnode) column hcolumn
  have hlines : ∀ row ∈ rowsOf nodes, (Layout.ofItems (nodeColumns wide showLabels) nodes).lines
      row = [(Layout.ofItems (nodeColumns wide showLabels) nodes).line row 0] :=
    fun row hrow => Layout.lines_of_unbroken (nodeColumns_ne_nil _ _) (hshows row hrow)
  refine ⟨hlaid, ?_⟩
  rw [hlaid.lines_eq, List.flatMap_def, List.map_congr_left hlines, ← List.flatMap_def,
    ← List.map_eq_flatMap]

theorem shownTexts_narrow_subset (showLabels : Bool) (node : Node) :
    shownTexts false showLabels node ⊆ shownTexts true showLabels node := by
  have hsublist : [node.hostname, node.schedulerName].Sublist
      ([node.id, node.managementIp, node.dataIp] ++ [node.hostname, node.schedulerName]) :=
    List.sublist_append_right _ _
  exact ((hsublist.append_right _).append_right _).subset

/-- The layout of the narrow table is that of the wide one without the columns that do not stay. -/
theorem filter_ofItems_nodeColumns (showLabels : Bool) (nodes : List Node) :
    ((Layout.ofItems (nodeColumns true showLabels) nodes).filter fun entry =>
      staysNarrow entry.1.header) = Layout.ofItems (nodeColumns false showLabels) nodes := by
  rw [Layout.ofItems, List.filter_map]
  rfl

/-- The header of a table of nodes and the cells of a node are equally long, and under each header
stands the field that it names, in the wide table and in the narrow one.  Where no text that is
shown has a line break, the table has one line for its header and one for each node, in columns that
begin at the same place in every line; and the narrow table has the columns of the wide one but for
the identifier, the two addresses and the number of pools, in the same widths. -/
theorem nodesText_projected {nodes : List Node} (hnodes : nodes ≠ []) (showLabels : Bool) :
    (∀ wide node,
      (nodeHeader wide showLabels).length = (nodeRow wide showLabels node).length) ∧
    (∀ node, (nodeHeader true showLabels).zip (nodeRow true showLabels node) =
      [("Id", node.id), ("Hostname", node.hostname), ("IP", node.managementIp),
        ("Data IP", node.dataIp), ("Version", node.version.getD "-"),
        ("SchedulerNodeName", node.schedulerName), ("Used", ByteSize.text node.capacity.used),
        ("Capacity", ByteSize.text node.capacity.total),
        ("# Pools", toString node.pools.length), ("Status", node.status.text)] ++
        if showLabels then [("Labels", labelsText node.labels)] else []) ∧
    (∀ node, (nodeHeader false showLabels).zip (nodeRow false showLabels node) =
      [("Hostname", node.hostname), ("Version", node.version.getD "-"),
        ("SchedulerNodeName", node.schedulerName), ("Used", ByteSize.text node.capacity.used),
        ("Capacity", ByteSize.text node.capacity.total), ("Status", node.status.text)] ++
        if showLabels then [("Labels", labelsText node.labels)] else []) ∧
    (∀ wide, InStep (nodeColumns wide showLabels) (nodeHeader wide showLabels)
      (nodeRow wide showLabels)) ∧
    (∀ wide, (∀ node ∈ nodes, ∀ text ∈ shownTexts wide showLabels node, Unbroken text) →
      LaidOutInLines (.ofItems (nodeColumns wide showLabels) nodes) nodes
        (nodesText nodes wide showLabels)) ∧
    ((∀ node ∈ nodes, ∀ text ∈ shownTexts true showLabels node, Unbroken text) →
      LaidOutInLines ((Layout.ofItems (nodeColumns true showLabels) nodes).filter fun entry =>
        staysNarrow entry.1.header) nodes (nodesText nodes false showLabels)) := by
  have hzip := fun wide => (inStep_nodeColumns wide showLabels).zip_eq
  refine ⟨fun wide node => (hzip wide node).1, fun node => ?_, fun node => ?_,
    fun wide => inStep_nodeColumns wide showLabels, fun wide h => laidOutInLines_nodesText hnodes h,
    fun h => ?_⟩
  · rw [(hzip true node).2]
    cases showLabels <;> rfl
  · rw [(hzip false node).2]
    cases showLabels <;> rfl
  · rw [filter_ofItems_nodeColumns]
    exact laidOutInLines_nodesText hnodes fun node hnode text htext =>
      h node hnode text (shownTexts_narrow_subset showLabels node htext)

/-- Two nodes, one with a name whose characters are two columns wide. -/
def mixedNodes : List Node :=
  [{ Node.blank with id := "a", hostname := "データ", pools := [⟨0, 1500, 3000⟩] },
    { Node.blank with
      id := "node-b", hostname := "h", version := some "2", labels := .ofList [("rack", "é")] }]

theorem mixedNodes_projected :
    (∀ node ∈ mixedNodes, ∀ text ∈ shownTexts true true node, Unbroken text) ∧
      LaidOutInLines (.ofItems (nodeColumns true true) mixedNodes) mixedNodes
        (nodesText mixedNodes true true) ∧
      LaidOutInLines ((Layout.ofItems (nodeColumns true true) mixedNodes).filter fun entry =>
        staysNarrow entry.1.header) mixedNodes (nodesText mixedNodes false true) ∧
      lines (nodesText mixedNodes false true).toList =
        [" Hostname  Version  SchedulerNodeName  Used     Capacity  Status   Labels ".toList,
          " データ    -                           1.5 kiB  2.9 kiB   Unknown  <none> ".toList,
          " h         2                           0 B      0 B       Unknown  rack=é ".toList] := by
  have hnodes : mixedNodes ≠ [] := List.cons_ne_nil _ _
  have htexts : ∀ node ∈ mixedNodes, ∀ text ∈ shownTexts true true node, Unbroken text := by
    decide
  obtain ⟨-, -, -, -, hlaid, hnarrow⟩ := nodesText_projected hnodes true
  exact ⟨htexts, hlaid true htexts, hnarrow htexts,
    (hnarrow htexts).lines_eq_map.trans (by decide +kernel)⟩

end Report

end StorageSurvey
