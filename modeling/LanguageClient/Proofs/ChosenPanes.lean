import LanguageClient.Navigation
import LanguageClient.Proofs.AdapterAddresses
import Mathlib.Logic.Relation

/-!
# The pane that a go-to opens in

A pane is usable if it shows a document and has a column. `Opens` is the rule for the pane of a
go-to: the active one, or the column of the last usable pane, or one beside the active pane if no
pane is usable. `column_eq_iff_opens` shows that the column is found by this rule, and
`column_of_rearranged` that panes which are not usable never count, wherever they come in or go
out. Which panes show output is decided by the scheme that their address spells
(`isOutput_iff_spelled`).
-/

namespace LanguageClient

/-! ## Schemes -/

namespace Url

variable {scheme : String} {text : List Char} {url : Url}

/-- The scheme that was read before the rest is the scheme of the URL. -/
theorem scheme_of_readRest [Idna] (read : readRest scheme text = .ok url) :
    url.scheme = scheme := by
  unfold readRest at read
  dsimp only at read
  split at read
  · obtain ⟨⟨host, path, rest⟩, -, same⟩ := ok_of_bind read
    cases same
    rfl
  · obtain ⟨⟨authority, rest⟩, -, same⟩ := ok_of_bind read
    cases same
    rfl
  · obtain ⟨⟨authority, rest⟩, -, same⟩ := ok_of_bind read
    cases same
    rfl
  · cases read
    rfl
  · cases read
    rfl

/-- The scheme of a URL is the name before the first colon of its text, in lower case. -/
theorem scheme_eq_iff_spelled [Idna] {uri : String} (read : Url.read uri = .ok url) :
    url.scheme = scheme ↔ ∃ name rest, significant uri.toList = name ++ ':' :: rest ∧
      IsScheme name ∧ String.ofList (name.map Char.toLower) = scheme := by
  obtain ⟨⟨found, behind⟩, schemes, read⟩ := ok_of_bind read
  rw [scheme_of_readRest read]
  constructor
  · rintro rfl
    obtain ⟨name, whole, isScheme, lower⟩ := readScheme_eq_ok_iff.mp schemes
    exact ⟨name, behind, whole, isScheme, lower.symm⟩
  · rintro ⟨name, rest, whole, isScheme, rfl⟩
    have again := readScheme_eq_ok_iff.mpr ⟨name, whole, isScheme, rfl⟩
    exact (Prod.mk.inj (Except.ok.inj (schemes.symm.trans again))).1

end Url

/-! ## Usable panes -/

namespace VisibleEditor

/-- A pane shows a document, in a column. -/
def Offers (editor : VisibleEditor) (column : ViewColumn) : Prop :=
  editor.isOutput = false ∧ editor.column = some column

/-- A pane shows a document and has a column. -/
def IsUsable (editor : VisibleEditor) : Prop := ∃ column, editor.Offers column

/-- The columns that usable panes offer, in the order of the panes. -/
def offered (visible : List VisibleEditor) : List ViewColumn :=
  (visible.filter fun editor => !editor.isOutput).filterMap VisibleEditor.column

variable {visible before after : List VisibleEditor} {editor : VisibleEditor} {column : ViewColumn}

/-- The panes of two lists offer what those of the first and those of the second do. -/
@[simp] theorem offered_append :
    offered (before ++ after) = offered before ++ offered after := by
  simp [offered]

/-- A usable pane offers its column. -/
theorem offered_cons_of_offers (offers : editor.Offers column) :
    offered (editor :: after) = column :: offered after := by
  simp [offered, offers.1, offers.2]

/-- A pane that is not usable offers nothing. -/
theorem offered_cons_of_not_usable (useless : ¬ editor.IsUsable) :
    offered (editor :: after) = offered after := by
  cases shows : editor.isOutput with
  | true => simp [offered, shows]
  | false =>
    cases shown : editor.column with
    | none => simp [offered, shows, shown]
    | some column => exact absurd ⟨column, shows, shown⟩ useless

/-- Nothing is offered if no pane is usable. -/
theorem offered_of_none_usable (useless : ∀ editor ∈ visible, ¬ editor.IsUsable) :
    offered visible = [] := by
  induction visible with
  | nil => rfl
  | cons editor rest ih =>
    rw [offered_cons_of_not_usable (useless editor List.mem_cons_self)]
    exact ih fun other member => useless other (List.mem_cons_of_mem _ member)

/-- Whether a pane shows output is told by the scheme that its address spells. -/
theorem isOutput_iff_spelled [Idna] {uri : String} {url : Url} (read : Url.read uri = .ok url)
    (shown : Option ViewColumn) :
    (VisibleEditor.mk url shown).isOutput = true ↔
      ∃ name rest, Url.significant uri.toList = name ++ ':' :: rest ∧ Url.IsScheme name ∧
        String.ofList (name.map Char.toLower) = "output" := by
  rw [← Url.scheme_eq_iff_spelled read, isOutput, decide_eq_true_iff]

end VisibleEditor

/-! ## The choice of a pane -/

namespace Navigation

open VisibleEditor (offered offered_append offered_cons_of_offers offered_cons_of_not_usable
  offered_of_none_usable isOutput_iff_spelled)

variable {target : Target} {visible : List VisibleEditor} {column : ViewColumn}

/-- The rule for the pane that a target opens in. -/
inductive Opens (target : Target) (visible : List VisibleEditor) : ViewColumn → Prop
  /-- A target that is not for another pane opens in the active one. -/
  | inActive (same : target.otherWindow = false) : Opens target visible .active
  /-- A target for another pane opens in the column of the last usable one. -/
  | inColumnOf {before after : List VisibleEditor} {editor : VisibleEditor} {column : ViewColumn}
      (other : target.otherWindow = true) (place : visible = before ++ editor :: after)
      (offers : editor.Offers column) (last : ∀ later ∈ after, ¬ later.IsUsable) :
      Opens target visible column
  /-- Without a usable pane it opens beside the active one. -/
  | besideActive (other : target.otherWindow = true)
      (useless : ∀ editor ∈ visible, ¬ editor.IsUsable) : Opens target visible .beside

/-- A target in another window goes to the column that is offered last, or beside if none is
offered. -/
theorem column_of_otherWindow (other : target.otherWindow = true) :
    Navigation.column target visible = (offered visible).getLast?.getD .beside := by
  simp [Navigation.column, other, offered]

/-- The rule names the column that is found. -/
theorem Opens.column_eq (opens : Opens target visible column) :
    Navigation.column target visible = column := by
  cases opens with
  | inActive same => simp [Navigation.column, same]
  | inColumnOf other place offers last =>
    rw [column_of_otherWindow other, place, offered_append, offered_cons_of_offers offers,
      offered_of_none_usable last, List.getLast?_concat, Option.getD_some]
  | besideActive other useless =>
    rw [column_of_otherWindow other, offered_of_none_usable useless]
    rfl

/-- The rule names a column in every case. -/
theorem exists_opens (target : Target) (visible : List VisibleEditor) :
    ∃ column, Opens target visible column := by
  cases same : target.otherWindow with
  | false => exact ⟨_, .inActive same⟩
  | true =>
    by_cases usable : ∃ editor ∈ visible, editor.IsUsable
    · obtain ⟨before, editor, after, place, ⟨column, offers⟩, last⟩ := exists_last_split usable
      exact ⟨column, .inColumnOf same place offers last⟩
    · exact ⟨_, .besideActive same fun editor member held => usable ⟨editor, member, held⟩⟩

/-- The column is found by the rule. -/
theorem column_eq_iff_opens :
    Navigation.column target visible = column ↔ Opens target visible column := by
  constructor
  · rintro rfl
    obtain ⟨column, opens⟩ := exists_opens target visible
    rwa [opens.column_eq]
  · exact Opens.column_eq

/-- The column beside the active pane is taken for want of a usable pane, or because the last usable
one has named it. -/
theorem column_eq_beside_iff :
    Navigation.column target visible = .beside ↔ target.otherWindow = true ∧
      ((∀ editor ∈ visible, ¬ editor.IsUsable) ∨
        ∃ before editor after, visible = before ++ editor :: after ∧ editor.Offers .beside ∧
          ∀ later ∈ after, ¬ later.IsUsable) := by
  rw [column_eq_iff_opens]
  constructor
  · intro opens
    cases opens with
    | inColumnOf other place offers last => exact ⟨other, .inr ⟨_, _, _, place, offers, last⟩⟩
    | besideActive other useless => exact ⟨other, .inl useless⟩
  · rintro ⟨other, useless | ⟨_, _, _, place, offers, last⟩⟩
    · exact .besideActive other useless
    · exact .inColumnOf other place offers last

/-- A pane that is not usable comes in somewhere. -/
inductive Inserted : List VisibleEditor → List VisibleEditor → Prop
  /-- The pane may stand anywhere. -/
  | insert (before : List VisibleEditor) (editor : VisibleEditor) (after : List VisibleEditor)
      (useless : ¬ editor.IsUsable) : Inserted (before ++ after) (before ++ editor :: after)

/-- Panes that are not usable come in and go out. -/
def Rearranged : List VisibleEditor → List VisibleEditor → Prop := Relation.EqvGen Inserted

/-- A pane that is not usable does not change the column when it comes in. -/
theorem column_of_inserted {longer : List VisibleEditor} (inserted : Inserted visible longer) :
    Navigation.column target longer = Navigation.column target visible := by
  cases inserted with
  | insert before editor after useless =>
    cases other : target.otherWindow with
    | false => simp [Navigation.column, other]
    | true =>
      rw [column_of_otherWindow other, column_of_otherWindow other, offered_append,
        offered_append, offered_cons_of_not_usable useless]

/-- Panes that are not usable never change the column. -/
theorem column_of_rearranged {later : List VisibleEditor} (rearranged : Rearranged visible later) :
    Navigation.column target later = Navigation.column target visible := by
  induction rearranged with
  | rel shorter longer inserted => exact column_of_inserted inserted
  | refl visible => rfl
  | symm visible later _ ih => exact ih.symm
  | trans first second third _ _ early late => exact late.trans early

/-- The answer to a go-to is the column, if the editor opened the document. -/
theorem goTo_eq_ok_iff {editor : Editor} :
    (goTo editor target).2 = .ok column ↔
      editor.opening = .ok () ∧ column = Navigation.column target editor.visible := by
  cases opened : editor.opening with
  | error cause => simp [goTo, opened, Except.map]
  | ok done => simp [goTo, opened, Except.map, eq_comm]

/-- The answer is a failure if the editor did not open the document, with its cause. -/
theorem goTo_eq_error_iff {editor : Editor} {cause : EditorError} :
    (goTo editor target).2 = .error cause ↔ editor.opening = .error cause := by
  cases opened : editor.opening with
  | error cause => simp [goTo, opened, Except.map]
  | ok done => simp [goTo, opened, Except.map]

/-- A target opens in the active pane, or if it is for another pane, in the column of the last
usable one, or else beside the active pane: there in no other case, unless the last usable pane has
itself named this column. Panes that are not usable never change the choice. A go-to makes one call,
which opens the part of the document in the column, and answers with the column if the editor did
so. What shows output is told by the scheme that an address spells, whatever the case of its
letters. -/
theorem goTo_opens_last_usable (target : Target) :
    (∀ visible column, Navigation.column target visible = column ↔ Opens target visible column) ∧
      (∀ visible, Navigation.column target visible = .beside ↔ target.otherWindow = true ∧
        ((∀ editor ∈ visible, ¬ editor.IsUsable) ∨
          ∃ before editor after, visible = before ++ editor :: after ∧ editor.Offers .beside ∧
            ∀ later ∈ after, ¬ later.IsUsable)) ∧
      (∀ visible later, Rearranged visible later →
        Navigation.column target later = Navigation.column target visible) ∧
      (∀ editor : Editor,
        (goTo editor target).1 = [.showDocument target.uri target.range
          (Navigation.column target editor.visible)] ∧
        (∀ column, (goTo editor target).2 = .ok column ↔
          editor.opening = .ok () ∧ column = Navigation.column target editor.visible) ∧
        ∀ cause, (goTo editor target).2 = .error cause ↔ editor.opening = .error cause) ∧
      ∀ [Idna] (uri : String) (url : Url), Url.read uri = .ok url → ∀ shown,
        ((VisibleEditor.mk url shown).isOutput = true ↔
          ∃ name rest, Url.significant uri.toList = name ++ ':' :: rest ∧ Url.IsScheme name ∧
            String.ofList (name.map Char.toLower) = "output") :=
  ⟨fun _ _ => column_eq_iff_opens, fun _ => column_eq_beside_iff,
    fun _ _ => column_of_rearranged,
    fun _ => ⟨rfl, fun _ => goTo_eq_ok_iff, fun _ => goTo_eq_error_iff⟩,
    fun _ _ read _ => isOutput_iff_spelled read _⟩

/-- A document that is to be shown in another pane. -/
def awayTarget : Target :=
  ⟨⟨"file", some ⟨"", none, .name "", none⟩, "/a.rc", none, none⟩, ⟨⟨1, 0⟩, ⟨1, 3⟩⟩, true⟩

/-- A pane that shows output. -/
def outputPane : VisibleEditor := ⟨⟨"output", none, "rclang", none, none⟩, some (.number 3)⟩

/-- A pane that shows a document, one that shows output, and a document without a column. -/
def mixedPanes : List VisibleEditor :=
  [⟨awayTarget.uri, some (.number 1)⟩, outputPane, ⟨awayTarget.uri, none⟩]

/-- Neither the output nor the document without a column is taken for the last pane. -/
theorem goTo_opens_last_usable_mixed :
    Url.read "OUTPUT:rclang" = .ok outputPane.uri ∧ outputPane.isOutput = true ∧
      Rearranged (mixedPanes.take 1) mixedPanes ∧
      Navigation.column awayTarget mixedPanes = .number 1 ∧
      Navigation.column awayTarget (mixedPanes.drop 1) = .beside := by
  obtain ⟨-, beside, rearranged, -, output⟩ := goTo_opens_last_usable awayTarget
  have read : Url.read "OUTPUT:rclang" = .ok outputPane.uri := by rfl
  have isOutput : outputPane.isOutput = true :=
    (output _ _ read _).mpr ⟨['O', 'U', 'T', 'P', 'U', 'T'], ['r', 'c', 'l', 'a', 'n', 'g'],
      by decide +kernel, ⟨⟨'O', rfl, rfl⟩, List.all_eq_true.mp rfl⟩, by decide +kernel⟩
  have noOutput : ¬ outputPane.IsUsable := fun ⟨_, shows, _⟩ => by simp [isOutput] at shows
  have noColumn : ¬ (VisibleEditor.mk awayTarget.uri none).IsUsable :=
    fun ⟨_, _, shown⟩ => Option.some_ne_none _ shown.symm
  have grown : Rearranged (mixedPanes.take 1) mixedPanes :=
    .trans _ _ _ (.rel _ _ (.insert (mixedPanes.take 1) _ [] noOutput))
      (.rel _ _ (.insert (mixedPanes.take 2) _ [] noColumn))
  have useless : ∀ editor ∈ mixedPanes.drop 1, ¬ editor.IsUsable :=
    List.forall_mem_cons.mpr ⟨noOutput, List.forall_mem_singleton.mpr noColumn⟩
  exact ⟨read, isOutput, grown, (rearranged _ _ grown).trans (by decide),
    (beside _).mpr ⟨rfl, .inl useless⟩⟩

/-- A pane whose own column is beside another one. -/
def besidePane : VisibleEditor := ⟨awayTarget.uri, some .beside⟩

/-- A target may open beside the active pane although a usable pane exists: that pane offers just
this column. -/
theorem column_beside_although_usable :
    besidePane.IsUsable ∧ Navigation.column awayTarget [besidePane] = .beside :=
  ⟨⟨.beside, by decide, rfl⟩, by decide⟩

end Navigation

end LanguageClient
