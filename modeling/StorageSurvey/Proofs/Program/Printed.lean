import StorageSurvey.Program.Run
import StorageSurvey.Proofs.Commands.Answers
import StorageSurvey.Proofs.Report.Decoding
import StorageSurvey.Proofs.Yaml.LastText
import StorageSurvey.Proofs.Yaml.LostTexts

/-!
# What is left of an answer when it is printed

An answer is printed without the white space at its end.  In JSON nothing that matters is lost,
since every value ends with a sign.  In YAML the white space may belong to the text that the answer
ends with: a node's version, say.  What is printed then holds the same value exactly if that text
keeps its end.

Where it does not, the run over the printed text is the run over the answer up to the last text, and
goes on over what is left of the lines of that text.  Its tokens hold the text once less than the
answer does, and no document holds a text more often than its tokens.
-/

namespace StorageSurvey

open StorageSurvey.Document StorageSurvey.Report StorageSurvey.Survey StorageSurvey.Text

theorem toList_printed (text : String) :
    (Program.printed text).toList = trimEnd text.toList ++ ['\n'] := by
  simp [Program.printed]

/-! ## JSON -/

namespace Json

theorem endsSolid_pretty (indent : Nat) (value : Datum) : EndsSolid (pretty indent value) := by
  cases value with
  | null => exact endsSolid_concat rfl ['n', 'u', 'l']
  | natural n =>
      intro c hc
      exact isBlank_of_isDigit (Number.isDigit_of_mem_toDigits (List.mem_of_getLast? hc))
  | text content => exact endsSolid_concat rfl _
  | list items =>
      cases items with
      | nil => exact endsSolid_concat rfl ['[']
      | cons item items =>
          rw [pretty]
          exact endsSolid_concat rfl _
  | record fields =>
      cases fields with
      | nil => exact endsSolid_concat rfl ['\x7b']
      | cons field fields =>
          obtain ⟨name, content⟩ := field
          rw [pretty]
          exact endsSolid_concat rfl _

/-- A printed value has the tree of the value. -/
theorem ofText_printed (datum : Datum) (text : Bool → String) :
    Document.ofText (Program.printed (render .json datum text)) = ⟨forms.tree datum, true⟩ := by
  have hprinted : Program.printed (render .json datum text) =
      String.ofList (pretty 0 datum ++ ['\n']) := by
    apply String.toList_inj.mp
    rw [toList_printed, render, String.toList_ofList, String.toList_ofList,
      trimEnd_eq_of_endsSolid (endsSolid_pretty 0 datum)]
  have hblank : Blank ['\n'] := blank_newline 0
  rw [hprinted, ofText_pretty_append datum hblank]

/-- A printed value is read back. -/
theorem decode_printed {datum : Datum} (h : datum.WellFormed) (text : Bool → String) :
    decode (Program.printed (render .json datum text)) = some datum.value := by
  have hvalue := dialect_understands.value?_tree h
  simp only [decode, ofText_printed, hvalue, if_true]

end Json

/-! ## YAML -/

namespace Yaml

open StorageSurvey.Yaml.Layout

variable {datum : Datum}

/-- Only the lines of the last text can change. -/
theorem trimEnd_document {content : String} {before : List Char} {column : Nat}
    (hwritten : document datum = before ++ ' ' :: textLine (column + 2) content)
    (hsolid : EndsSolid before) :
    trimEnd (document datum) ++ ['\n'] = before ++ trimmedLine column content := by
  rw [hwritten, trimEnd_append_of_endsSolid hsolid, List.append_assoc, trimmedLine]

/-- A document stays as it is if it ends with no text, or with one that keeps its end. -/
theorem trimEnd_document_of_keepsEnd (hcollection : datum.isCollection = true)
    (h : ∀ content, datum.value.lastText? = some content → keepsEnd content = true) :
    trimEnd (document datum) ++ ['\n'] = document datum := by
  cases hlast : datum.value.lastText? with
  | none =>
      obtain ⟨before, c, hwritten, hc⟩ := endsLineSolid_lines (.block 0) datum hlast
      have hline : document datum = before ++ [c] ++ ['\n'] := by
        rw [document, hwritten]
        simp
      rw [hline, trimEnd_line (endsSolid_concat hc before)]
  | some content =>
      obtain ⟨before, column, hwritten, hsolid, -⟩ := documentLeads hcollection hlast
      rw [trimEnd_document hwritten hsolid, trimmedLine_of_keepsEnd (h content hlast), ← hwritten]

/-- A gap stands before what is left of the last text. -/
theorem atGap_trimmedLine (column : Nat) (content : String) :
    atGap (trimmedLine column content) = true := by
  obtain ⟨blanks, hline, -⟩ := exists_trimEnd_append (' ' :: textLine (column + 2) content)
  rw [trimmedLine]
  cases hkept : trimEnd (' ' :: textLine (column + 2) content) with
  | nil => rfl
  | cons c rest =>
      rw [hkept, List.cons_append] at hline
      rw [← (List.cons.inj hline).1]
      rfl

/-- The text that loses its end has white space, as neither a null nor a number has. -/
theorem isOwnText_of_keepsEnd_eq_false {content : String} (h : keepsEnd content = false) :
    content ≠ "" ∧ IsOwnText content := by
  have hblank : ∃ c ∈ content.toList, Text.isBlank c = true := by
    cases hstyle : styleOf content with
    | plain =>
        obtain ⟨blanks, htext, hblanks⟩ := exists_trimEnd_append content.toList
        cases blanks with
        | nil =>
            rw [List.append_nil] at htext
            simp [keepsEnd, hstyle, ← htext] at h
        | cons c blanks =>
            refine ⟨c, ?_, hblanks c List.mem_cons_self⟩
            rw [htext]
            exact List.mem_append_right _ List.mem_cons_self
    | literal => exact ⟨'\n', (of_styleOf_eq_literal hstyle).2.2, rfl⟩
    | singleQuoted | doubleQuoted => simp [keepsEnd, hstyle] at h
    | folded => exact absurd hstyle (styleOf_ne_folded content)
  obtain ⟨c, hmem, hc⟩ := hblank
  refine ⟨?_, ?_, fun n => ?_⟩
  · rintro rfl
    cases hmem
  · rintro rfl
    have hletters : "null".toList.any Text.isBlank = false := rfl
    exact List.any_eq_false.mp hletters c hmem hc
  · rintro rfl
    rw [String.toList_ofList] at hmem
    rw [isBlank_of_isDigit (Number.isDigit_of_mem_toDigits hmem)] at hc
    cases hc

/-- A run over a trimmed document that ends gives its last text once less. -/
theorem countP_of_run?_document {content : String} (hkept : keepsEnd content = false)
    (hleads : DocumentLeads datum content) {steps : Nat} {all : List Token}
    (h : run? (steps + 1) (.start (trimEnd (document datum) ++ ['\n'])) = some all) :
    all.countP (Token.isScalar content) + 1 =
      (valueTokens false datum).countP (Token.isScalar content) := by
  obtain ⟨before, column, hwritten, hsolid, hruns⟩ := hleads
  obtain ⟨tokens, outer, keyAllowed, mark, closing, hread, hcolumn, passed, hreaches, -⟩ :=
    hruns _ (atGap_trimmedLine column content)
  rw [trimEnd_document hwritten hsolid] at h
  -- the run over the lines before the text takes `passed` steps, whatever follows them
  have hlast := run?_of_le h (Nat.le_add_right (steps + 1) passed)
  rw [hreaches] at hlast
  rw [countP_of_run?_trimmedLine hkept hcolumn hlast, ← List.countP_reverse (l := valueTokens _ _),
    hread, List.countP_append, List.countP_replicate]
  simp [Token.isScalar]

theorem tokens_trimmed (datum : Datum) :
    tokens (trimEnd (document datum) ++ ['\n']) =
      (Layout.start (trimEnd (document datum) ++ ['\n'])).tokensFrom
        ((trimEnd (document datum) ++ ['\n']).length + 1) := by
  have hprint : AllPrintable (trimEnd (document datum) ++ ['\n']) := by
    obtain ⟨blanks, hdocument, -⟩ := exists_trimEnd_append (document datum)
    have hall : AllPrintable (document datum) := allPrintable_lines (.block 0) datum
    rw [hdocument, allPrintable_append] at hall
    exact allPrintable_append.mpr ⟨hall.1, by simp [isPrintable]⟩
  rw [tokens, prepare?_of_isPrintable hprint]

/-- A document that is trimmed does not hold its value if the last text does not keep its end. -/
theorem decode_trimmed_ne (hcollection : datum.isCollection = true) {content : String}
    (hlast : datum.value.lastText? = some content) (hkept : keepsEnd content = false) :
    decode (String.ofList (trimEnd (document datum) ++ ['\n'])) ≠ some datum.value := by
  intro hdecode
  obtain ⟨hne, hown⟩ := isOwnText_of_keepsEnd_eq_false hkept
  rw [decode] at hdecode
  split at hdecode
  case isFalse => cases hdecode
  case isTrue hcomplete =>
    have hend := mem_tokens_of_complete hcomplete
    have hvalue : datum.value.occurs content ≤ Tree.occurs content _ :=
      occurs_value?_le _ hdecode
    have hroot := occurs_ofText_le hne (String.ofList (trimEnd (document datum) ++ ['\n']))
    rw [String.toList_ofList, tokens_trimmed] at hend hroot
    cases hrun : run? ((trimEnd (document datum) ++ ['\n']).length + 1)
        (.start (trimEnd (document datum) ++ ['\n'])) with
    | none =>
        -- a run that goes wrong does not come to the end of the text
        have hnone := countP_tokensFrom rfl hrun
        rw [List.countP_eq_zero] at hnone
        exact hnone _ hend rfl
    | some all =>
        -- the tokens hold the text once less than the value, and the tree no more often than they
        have hless := countP_of_run?_document hkept (documentLeads hcollection hlast) hrun
        rw [countP_valueTokens hown] at hless
        rw [tokensFrom_of_run? hrun] at hroot
        omega

/-- A printed document holds its value exactly if its last text keeps its end. -/
theorem decode_printed_iff (hcollection : datum.isCollection = true) (h : datum.WellFormed)
    (text : Bool → String) :
    decode (Program.printed (render .yaml datum text)) = some datum.value ↔
      ∀ content, datum.value.lastText? = some content → keepsEnd content = true := by
  have hprinted : Program.printed (render .yaml datum text) =
      String.ofList (trimEnd (document datum) ++ ['\n']) := by
    apply String.toList_inj.mp
    rw [toList_printed, render, String.toList_ofList, String.toList_ofList]
  rw [hprinted]
  constructor
  · intro hdecode content hlast
    cases hkept : keepsEnd content with
    | true => rfl
    | false => exact absurd hdecode (decode_trimmed_ne hcollection hlast hkept)
  · intro hkeeps
    rw [trimEnd_document_of_keepsEnd hcollection hkeeps]
    exact Report.decode_render_yaml hcollection h text

end Yaml

/-! ## Answers of commands -/

namespace Commands

/-- Whatever a command answers in JSON, what is printed of it holds the same value.  In YAML it does
exactly if the text that the value ends with, if there is one, keeps its end. -/
theorem printed_value_iff {command : Command} (hmem : command ∈ Registry.builtin.commands)
    (view : View) (identifiers : List String) (showLabels : Bool) :
    (∀ output, command.action view ⟨.json, identifiers, showLabels⟩ = .ok output →
      ∃ value, Json.decode output.text = some value ∧
        Json.decode (Program.printed output.text) = some value) ∧
    (∀ output, command.action view ⟨.yaml, identifiers, showLabels⟩ = .ok output →
      ∃ value, Yaml.decode output.text = some value ∧
        (Yaml.decode (Program.printed output.text) = some value ↔
          ∀ content, value.lastText? = some content → Yaml.keepsEnd content = true)) := by
  obtain ⟨answer, hrenders⟩ := exists_renders hmem
  rw [hrenders view .json, hrenders view .yaml]
  cases answer view identifiers showLabels with
  | error failure =>
      constructor <;> intro output h <;> cases h
  | ok answer =>
      constructor
      · rintro output ⟨⟩
        exact ⟨answer.datum.value, decode_render_json answer.wellFormed answer.text,
          Json.decode_printed answer.wellFormed answer.text⟩
      · rintro output ⟨⟩
        exact ⟨answer.datum.value,
          decode_render_yaml answer.isCollection answer.wellFormed answer.text,
          Yaml.decode_printed_iff answer.isCollection answer.wellFormed answer.text⟩

/-- The version of this node ends with a no-break space. -/
def spacedNode : Inventory.Node where
  id := "n1"
  hostname := "h1"
  managementIp := ""
  dataIp := ""
  schedulerName := ""
  pools := []
  status := .ok
  labels := .empty
  version := some "1\u00a0"

/-- What is printed of a list with this node does not hold its version. -/
theorem spacedNode_lost :
    ∃ output,
      getNodes (View.ofSnapshot ⟨none, [spacedNode], [], [], []⟩) ⟨.yaml, [], false⟩ = .ok output ∧
      Yaml.decode (Program.printed output.text) ≠ Yaml.decode output.text := by
  have hrenders :=
    renders_getNodes (View.ofSnapshot ⟨none, [spacedNode], [], [], []⟩) .yaml [] false
  refine ⟨_, hrenders, fun hsame => ?_⟩
  have hcommand : (⟨"get", "nodes", ["node"], .identifiersAndLabels, getNodes⟩ : Command) ∈
      Registry.builtin.commands := List.mem_cons_self
  obtain ⟨value, hvalue, hiff⟩ :=
    (printed_value_iff hcommand (View.ofSnapshot ⟨none, [spacedNode], [], [], []⟩) [] false).2 _
      hrenders
  have hread : value = (nodesDatum [spacedNode]).value := by
    have hwritten := decode_render_yaml rfl (nodesDatum_wellFormed [spacedNode]) fun _ => ""
    exact Option.some.inj (hvalue.symm.trans hwritten)
  have hlast : value.lastText? = some "1\u00a0" := by
    rw [hread]
    rfl
  have hkept : Yaml.keepsEnd "1\u00a0" = true := hiff.mp (hsame.trans hvalue) _ hlast
  revert hkept
  decide

end Commands

end StorageSurvey
