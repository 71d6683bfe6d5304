import LanguageClient.Debug.Adapter
import LanguageClient.Debug.Configuration
import LanguageClient.Message
import LanguageClient.Navigation
import LanguageClient.Proofs.TolerantForms
import LanguageClient.Proofs.Utf8
import LanguageClient.Settings.Basic

/-!
# The forms of the payloads

Each form follows the layout that stands beside it here and restores every value, where the URLs of
the value are those that their texts spell.
-/

namespace LanguageClient

/-- A URL is the one that its text spells. -/
def Url.Settled (url : Url) : Prop := Url.read url.render = .ok url

namespace Form

/-- A path is restored if a text spells it. -/
theorem lawfulAt_path (text : String) : path.LawfulAt (Path.ofString text) :=
  congrArg (fun shown => Except.ok (Path.ofString shown)) (Utf8.display_ofString text)

end Form

namespace Fields

/-- A field for a text has nothing to leave out. -/
theorem follows_text (name : String) : (required name .text).Follows [.fixed name .plain] :=
  follows_required name (.plain _)

/-- A field for a text is read back as it was. -/
theorem lawfulAt_text (name value : String) : (required name .text).LawfulAt value :=
  lawfulAt_required (Form.lawful_text value)

/-- A field for a text that may be missing is read alike for null and for nothing. -/
theorem follows_optionalText (name : String) :
    (optional name .text).Follows [.optional name .plain] :=
  follows_optional name Form.solid_text (.plain _)

/-- A field for a text that may be missing is read back as it was. -/
theorem lawfulAt_optionalText (name : String) (value : Option String) :
    (optional name .text).LawfulAt value :=
  lawfulAt_optional Form.solid_text fun chosen _ => Form.lawful_text chosen

end Fields

/-! ### Nodes of trees -/

namespace Command

/-- The layout of a command. -/
def layout : Layout :=
  .record [.fixed "title" .plain, .fixed "command" .plain, .optional "arguments" .plain]

/-- A command is read alike however its absences are written. -/
theorem follows : form.Follows layout :=
  Form.follows_record _ (by decide) <| .as <|
    (Fields.follows_text _).both <| (Fields.follows_text _).both <|
    Fields.follows_optionalInObject _ (Form.solid_list _) (.plain _)

/-- A command is read back as it was. -/
theorem lawful : form.Lawful := by
  intro command
  have arguments : (Fields.optionalInObject "arguments" (.list .json)).LawfulAt command.arguments :=
    Fields.lawfulAt_optionalInObject (Form.solid_list _) fun items _ =>
      Form.lawful_list Form.lawful_json items
  apply Form.lawfulAt_record (by decide)
  exact .as ((Fields.lawfulAt_text _ _).both <| (Fields.lawfulAt_text _ _).both arguments) rfl

end Command

namespace CollapseState

/-- The values that stand for a leaf. -/
def blanks : List Json := [.null, .str "leaf", .obj [("leaf", .null)]]

/-- A state is read back as it was, a leaf from nothing. -/
theorem lawful_formOrLeaf : formOrLeaf.Lawful := by
  intro state
  cases state <;> rfl

/-- What stands for the absence of a state is read as a leaf. -/
theorem decode_blank : ∀ blank ∈ blanks, formOrLeaf.decode blank = .ok leaf := by
  intro blank member
  simp only [blanks, List.mem_cons, List.not_mem_nil, or_false] at member
  rcases member with rfl | rfl | rfl <;> rfl

/-- The state of an inner node is not written as an absence. -/
theorem encode_not_blank (state : CollapseState) (inner : state.isLeaf = false) :
    formOrLeaf.encode state ∉ blanks := by
  cases state with
  | leaf => cases inner
  | collapsed => decide
  | expanded => decide

end CollapseState

namespace TreeNode

/-- The layout of a node; a leaf is written without its state. -/
def layout : Layout :=
  .record [.fixed "viewId" .plain, .optional "nodeUri" .plain, .fixed "label" .plain,
    .optional "command" Command.layout, .optional "icon" .plain, .optional "tooltip" .plain,
    ⟨"collapseState", CollapseState.blanks, .plain⟩]

/-- A node is read alike however its absences are written. -/
theorem follows : form.Follows layout :=
  Form.follows_record _ (by decide) <| .as <|
    (Fields.follows_text _).both <| (Fields.follows_optionalText _).both <|
    (Fields.follows_text _).both <|
    (Fields.follows_optional _ (Form.solid_record _ _) Command.follows).both <|
    (Fields.follows_optionalText _).both <| (Fields.follows_optionalText _).both <|
    Fields.follows_usual _ (.plain _) CollapseState.decode_blank CollapseState.encode_not_blank

/-- A node is read back as it was. -/
theorem lawful : form.Lawful := by
  intro node
  have command : (Fields.optional "command" Command.form).LawfulAt node.command :=
    Fields.lawfulAt_optional (Form.solid_record _ _) fun chosen _ => Command.lawful chosen
  have collapse : (Fields.usual "collapseState" CollapseState.formOrLeaf .leaf
      CollapseState.isLeaf).LawfulAt node.collapse :=
    Fields.lawfulAt_usual of_decide_eq_true fun _ => CollapseState.lawful_formOrLeaf _
  apply Form.lawfulAt_record (by decide)
  exact .as ((Fields.lawfulAt_text _ _).both <| (Fields.lawfulAt_optionalText _ _).both <|
    (Fields.lawfulAt_text _ _).both <| command.both <| (Fields.lawfulAt_optionalText _ _).both <|
    (Fields.lawfulAt_optionalText _ _).both collapse) rfl

/-- The layout of a message that holds nodes. -/
def listLayout : Layout := .record [.fixed "nodes" (.list layout)]

/-- A list of nodes is read alike however its absences are written. -/
theorem follows_list (name : String) :
    (Form.record name (.defaulted "nodes" (.list form) [])).Follows listLayout :=
  Form.follows_record _ (by decide) (Fields.follows_defaulted _ follows.list)

/-- A list of nodes is read back as it was. -/
theorem lawful_list (name : String) :
    (Form.record name (.defaulted "nodes" (.list form) [])).Lawful :=
  fun nodes => Form.lawfulAt_record (by decide) <|
    Fields.lawfulAt_defaulted (Form.lawful_list lawful nodes)

end TreeNode

/-! ### Questions and notices about trees -/

namespace Tree

/-- The layout of a question for children. -/
def ChildrenQuery.layout : Layout := .record [.fixed "viewId" .plain, .optional "nodeUri" .plain]

/-- A question for children is read alike however its absences are written. -/
theorem ChildrenQuery.follows : form.Follows layout :=
  Form.follows_record _ (by decide) <| .as <|
    (Fields.follows_text _).both <| Fields.follows_optionalText _

/-- A question for children is read back as it was. -/
theorem ChildrenQuery.lawful : form.Lawful := fun _ =>
  Form.lawfulAt_record (by decide) <|
    .as ((Fields.lawfulAt_text _ _).both <| Fields.lawfulAt_optionalText _ _) rfl

/-- The layout of a question for a parent. -/
def parentQueryLayout : Layout := .record [.fixed "viewId" .plain, .fixed "nodeUri" .plain]

/-- A question for a parent has nothing to leave out. -/
theorem follows_parentQuery : parentQueryForm.Follows parentQueryLayout :=
  Form.follows_record _ (by decide) <| .as <|
    (Fields.follows_text _).both <| Fields.follows_text _

/-- A question for a parent is read back as it was. -/
theorem lawful_parentQuery : parentQueryForm.Lawful := fun _ =>
  Form.lawfulAt_record (by decide) <|
    .as ((Fields.lawfulAt_text _ _).both <| Fields.lawfulAt_text _ _) rfl

/-- The layout of a parent. -/
def parentLayout : Layout := .record [.optional "uri" .plain]

/-- A parent is read alike however its absence is written. -/
theorem follows_parent : parentForm.Follows parentLayout :=
  Form.follows_record _ (by decide) (Fields.follows_optionalText _)

/-- A parent is read back as it was. -/
theorem lawful_parent : parentForm.Lawful := fun _ =>
  Form.lawfulAt_record (by decide) (Fields.lawfulAt_optionalText _ _)

/-- The layout of a chain. -/
def Chain.layout : Layout := .record [.fixed "viewId" .plain, .fixed "uriChain" .plain]

/-- A chain has nothing to leave out. -/
theorem Chain.follows : form.Follows layout :=
  Form.follows_record _ (by decide) <| .as <|
    (Fields.follows_text _).both <| Fields.follows_required _ (.plain _)

/-- A chain is read back as it was. -/
theorem Chain.lawful : form.Lawful := fun _ =>
  Form.lawfulAt_record (by decide) <| .as ((Fields.lawfulAt_text _ _).both <|
    Fields.lawfulAt_required (Form.lawful_list Form.lawful_text _)) rfl

/-- The layout of a change of visibility. -/
def Visibility.layout : Layout := .record [.fixed "viewId" .plain, .fixed "visible" .plain]

/-- A change of visibility has nothing to leave out. -/
theorem Visibility.follows : form.Follows layout :=
  Form.follows_record _ (by decide) <| .as <|
    (Fields.follows_text _).both <| Fields.follows_required _ (.plain _)

/-- A change of visibility is read back as it was. -/
theorem Visibility.lawful : form.Lawful := fun _ =>
  Form.lawfulAt_record (by decide) <| .as ((Fields.lawfulAt_text _ _).both <|
    Fields.lawfulAt_required (Form.lawful_truth _)) rfl

/-- The layout of a folding. -/
def Folding.layout : Layout :=
  .record [.fixed "viewId" .plain, .fixed "nodeUri" .plain, .fixed "collapsed" .plain]

/-- A folding has nothing to leave out. -/
theorem Folding.follows : form.Follows layout :=
  Form.follows_record _ (by decide) <| .as <|
    (Fields.follows_text _).both <| (Fields.follows_text _).both <|
    Fields.follows_required _ (.plain _)

/-- A folding is read back as it was. -/
theorem Folding.lawful : form.Lawful := fun _ =>
  Form.lawfulAt_record (by decide) <| .as ((Fields.lawfulAt_text _ _).both <|
    (Fields.lawfulAt_text _ _).both <| Fields.lawfulAt_required (Form.lawful_truth _)) rfl

end Tree

/-! ### Documents and their listings -/

/-- The layout of a position. -/
def Position.layout : Layout := .record [.fixed "line" .plain, .fixed "character" .plain]

/-- A position has nothing to leave out. -/
theorem Position.follows : form.Follows layout :=
  Form.follows_record _ (by decide) <| .as <|
    (Fields.follows_required _ (.plain _)).both <| Fields.follows_required _ (.plain _)

/-- A position is read back as it was. -/
theorem Position.lawful : form.Lawful := fun _ =>
  Form.lawfulAt_record (by decide) <|
    .as ((Fields.lawfulAt_required (Form.lawful_word32 _)).both <|
      Fields.lawfulAt_required (Form.lawful_word32 _)) rfl

/-- The layout of a range. -/
def TextRange.layout : Layout :=
  .record [.fixed "start" Position.layout, .fixed "end" Position.layout]

/-- A range has nothing to leave out. -/
theorem TextRange.follows : form.Follows layout :=
  Form.follows_record _ (by decide) <| .as <|
    (Fields.follows_required _ Position.follows).both <|
    Fields.follows_required _ Position.follows

/-- A range is read back as it was. -/
theorem TextRange.lawful : form.Lawful := fun _ =>
  Form.lawfulAt_record (by decide) <|
    .as ((Fields.lawfulAt_required (Position.lawful _)).both <|
      Fields.lawfulAt_required (Position.lawful _)) rfl

/-- The layout of a place in a document. -/
def DocumentPosition.layout : Layout :=
  .record [.fixed "textDocument" (.record [.fixed "uri" .plain]),
    .fixed "position" Position.layout]

/-- A place in a document has nothing to leave out. -/
theorem DocumentPosition.follows : form.Follows layout :=
  Form.follows_record _ (by decide) <| .as <|
    (Fields.follows_required _ <|
      Form.follows_record _ (by decide) <| Fields.follows_required _ (.plain _)).both <|
    Fields.follows_required _ Position.follows

/-- A place in a document is read back as it was if its address is settled. -/
theorem DocumentPosition.lawfulAt {place : DocumentPosition} (settled : place.document.Settled) :
    form.LawfulAt place := by
  have document : documentForm.LawfulAt place.document :=
    Form.lawfulAt_record (by decide) (Fields.lawfulAt_required (Form.lawfulAt_url settled))
  exact Form.lawfulAt_record (by decide) <|
    .as ((Fields.lawfulAt_required document).both <|
      Fields.lawfulAt_required (Position.lawful _)) rfl

namespace Preview

/-- The layout of a question for a listing. -/
def queryLayout : Layout := .record [.fixed "documentUri" .plain]

/-- A question for a preview has nothing to leave out. -/
theorem follows_query : queryForm.Follows queryLayout :=
  Form.follows_record _ (by decide) (Fields.follows_required _ (.plain _))

/-- A question for a preview is read back as it was if its address is settled. -/
theorem lawfulAt_query {document : Url} (settled : document.Settled) :
    queryForm.LawfulAt document :=
  Form.lawfulAt_record (by decide) (Fields.lawfulAt_required (Form.lawfulAt_url settled))

/-- The layout of a listing. -/
def Listing.layout : Layout := .record [.optional "irs" .plain]

/-- A listing is read alike however its absence is written. -/
theorem Listing.follows : form.Follows layout :=
  Form.follows_record _ (by decide) <| .as <|
    Fields.follows_optional _ (Form.solid_list _) (.plain _)

/-- A listing is read back as it was. -/
theorem Listing.lawful : form.Lawful := fun _ =>
  Form.lawfulAt_record (by decide) <| .as
    (Fields.lawfulAt_optional (Form.solid_list _) fun lines _ =>
      Form.lawful_list (Form.lawful_list Form.lawful_text) lines) rfl

end Preview

namespace Navigation

/-- The layout of a target. -/
def Target.layout : Layout :=
  .record [.fixed "uri" .plain, .fixed "range" TextRange.layout, .fixed "otherWindow" .plain]

/-- No value of a target stands for an absence. -/
theorem Target.follows : form.Follows layout :=
  Form.follows_record _ (by decide) <| .as <|
    (Fields.follows_required _ (.plain _)).both <|
    (Fields.follows_required _ TextRange.follows).both <|
    Fields.follows_defaulted _ (.plain _)

/-- A target is read back as it was if its address is settled. -/
theorem Target.lawfulAt {target : Target} (settled : target.uri.Settled) : form.LawfulAt target :=
  Form.lawfulAt_record (by decide) <|
    .as ((Fields.lawfulAt_required (Form.lawfulAt_url settled)).both <|
      (Fields.lawfulAt_required (TextRange.lawful _)).both <|
      Fields.lawfulAt_defaulted (Form.lawful_truth _)) rfl

end Navigation

/-! ### Debug sessions -/

namespace Debug

/-- A run type is read back as it was. -/
theorem RunType.lawful : form.Lawful := by
  intro runType
  cases runType <;> rfl

/-- The layout of a discovery. -/
def Discovery.layout : Layout := .record [.fixed "path" .plain, .fixed "runType" .plain]

/-- No value of a discovery stands for an absence. -/
theorem Discovery.follows : form.Follows layout :=
  Form.follows_record _ (by decide) <| .as <|
    (Fields.follows_text _).both <| Fields.follows_required _ (.plain _)

/-- A discovery is read back as it was. -/
theorem Discovery.lawful : form.Lawful := fun _ =>
  Form.lawfulAt_record (by decide) <| .as ((Fields.lawfulAt_text _ _).both <|
    Fields.lawfulAt_required (RunType.lawful _)) rfl

/-- The layout of a session. -/
def Session.layout : Layout := .record [.fixed "name" .plain, .fixed "uri" .plain]

/-- A session has nothing to leave out. -/
theorem Session.follows : form.Follows layout :=
  Form.follows_record _ (by decide) <| .as <|
    (Fields.follows_text _).both <| Fields.follows_text _

/-- A session is read back as it was. -/
theorem Session.lawful : form.Lawful := fun _ =>
  Form.lawfulAt_record (by decide) <|
    .as ((Fields.lawfulAt_text _ _).both <| Fields.lawfulAt_text _ _) rfl

end Debug

end LanguageClient
