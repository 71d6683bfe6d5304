import LanguageClient.CommandLine.Run
import LanguageClient.Proofs.Catalog
import LanguageClient.Proofs.JsonNumbers
import LanguageClient.Proofs.ServerPushes
import Mathlib.Data.List.TakeWhile

/-!
# Positions that are shown and entered

A position counts lines and characters from zero; on a terminal they count from one. Where a
position is entered both numbers are lowered by one, and where it is shown both are raised by one,
in words of 32 bits. `shown_exact_iff` says that a server can ask for every position, that the
program is aborted at the first one with a greatest word, which has no word after it, and that in
all other places what is shown and what is entered are inverse to each other.
-/

namespace LanguageClient

/-- The targets of the calls that are accepted among what the server tells, in order. -/
def ServerEvent.targetsIn (events : List ServerEvent) : List Navigation.Target :=
  events.filterMap fun
    | .clientCommand call => call.target?
    | .treeChange _ => none

/-- An event has one target or none. -/
theorem ServerEvent.targetsIn_singleton (event : ServerEvent) :
    targetsIn [event] = [] ∨ ∃ target, targetsIn [event] = [target] := by
  cases event with
  | clientCommand call =>
    cases accepted : call.target? with
    | none => exact .inl (by simp [targetsIn, accepted])
    | some target => exact .inr ⟨target, by simp [targetsIn, accepted]⟩
  | treeChange nodes => exact .inl rfl

/-! ## Lines -/

namespace Terminal

/-- The line that tells of a document that was opened at a line and a column. -/
def placeLine (uri : Url) (line column : Nat) (pane : ViewColumn) : String :=
  "open " ++ uri.render ++ ":" ++ toString line ++ ":" ++ toString column ++
    " (" ++ pane.text ++ ")"

/-- The number after a word. -/
def raised (word : UInt32) : Nat := word.toNat + 1

/-- The line for a target: its line and its character are told by the numbers after them. -/
def targetLine (target : Navigation.Target) : String :=
  placeLine target.uri (raised target.range.first.line) (raised target.range.first.character)
    (Navigation.column target [])

/-- Whether the numbers after the line and the character of a target are words. -/
def Showable (target : Navigation.Target) : Prop :=
  raised target.range.first.line < UInt32.size ∧ raised target.range.first.character < UInt32.size

instance (target : Navigation.Target) : Decidable (Showable target) :=
  inferInstanceAs (Decidable (_ ∧ _))

/-- There is a word after each word but the greatest, and it is the next number. -/
theorem after?_eq (word : UInt32) : after? word =
    if raised word < UInt32.size then some (word + 1) else none := by
  unfold after? raised
  have greatest : word = 0xffffffff ↔ ¬ word.toNat + 1 < UInt32.size := by
    rw [← UInt32.toNat_inj]
    have bound := word.toNat_lt_size
    have size : UInt32.size = 4294967296 := rfl
    have last : (0xffffffff : UInt32).toNat = 4294967295 := rfl
    omega
  by_cases fits : word.toNat + 1 < UInt32.size
  · rw [if_pos fits, if_neg fun same => greatest.mp same fits]
  · rw [if_neg fits, if_pos (greatest.mpr fits)]

/-- The word after a word is spelled as the next number. -/
theorem toString_add_one {word : UInt32} (fits : raised word < UInt32.size) :
    toString (word + 1) = toString (raised word) := by
  have words : toString (word + 1) = toString (word + 1).toNat := rfl
  rw [words, UInt32.toNat_add]
  exact congrArg toString (Nat.mod_eq_of_lt fits)

/-- Opening a document tells the numbers after those of its position, if they are words. -/
theorem openingLine?_eq (uri : Url) (range : TextRange) (pane : ViewColumn) :
    openingLine? uri range pane =
      if raised range.first.line < UInt32.size ∧ raised range.first.character < UInt32.size then
        some (placeLine uri (raised range.first.line) (raised range.first.character) pane)
      else none := by
  unfold openingLine?
  rw [after?_eq, after?_eq]
  by_cases line : raised range.first.line < UInt32.size
  case neg => simp [line]
  by_cases character : raised range.first.character < UInt32.size
  case neg => simp [line, character]
  have spelledLine := toString_add_one line
  have spelledCharacter := toString_add_one character
  simp [line, character, spelledLine, spelledCharacter, placeLine]

variable {uri : Url} {pane : ViewColumn} {line column otherLine otherColumn : Nat}

/-- The digits of a number before something else are told apart from what follows. -/
theorem toDigits_append_inj {first second : Nat} {c : Char} (other : c.isDigit = false)
    {rest otherRest : List Char}
    (same : Nat.toDigits 10 first ++ c :: rest = Nat.toDigits 10 second ++ c :: otherRest) :
    first = second ∧ rest = otherRest := by
  have cut (number : Nat) (behind : List Char) :
      (Nat.toDigits 10 number ++ c :: behind).span Char.isDigit =
        (Nat.toDigits 10 number, c :: behind) :=
    Json.span_of_ends
      (fun _ member => Nat.isDigit_of_mem_toDigits (by decide) (by decide) member)
      (fun found head => by cases head; exact other)
  have parts := (cut first rest).symm.trans ((congrArg _ same).trans (cut second otherRest))
  obtain ⟨digits, behind⟩ := Prod.mk.inj parts
  have values := congrArg (fun digits => Nat.ofDigitChars 10 digits 0) digits
  rw [Nat.ofDigitChars_ten_toDigits, Nat.ofDigitChars_ten_toDigits] at values
  exact ⟨values, (List.cons.inj behind).2⟩

/-- A line tells its line and column. -/
theorem placeLine_inj : placeLine uri line column pane = placeLine uri otherLine otherColumn pane ↔
    line = otherLine ∧ column = otherColumn := by
  constructor
  · intro same
    have chars := congrArg String.toList same
    simp only [placeLine, String.toList_append, List.append_assoc, Nat.toString_eq_repr,
      Nat.toList_repr] at chars
    obtain ⟨lines, rest⟩ := toDigits_append_inj (by decide)
      (List.append_cancel_left (List.append_cancel_left (List.append_cancel_left chars)))
    exact ⟨lines, (toDigits_append_inj (by decide) rest).1⟩
  · rintro ⟨rfl, rfl⟩
    rfl

/-! ## What the server has shown -/

/-- The terminal with more lines. -/
def printAll (terminal : Terminal) (lines : List String) : Terminal :=
  { terminal with printed := terminal.printed ++ lines }

/-- The terminal with a line for each target up to the first that cannot be shown; that one aborts
the program. -/
def showAll (terminal : Terminal) (targets : List Navigation.Target) : Terminal :=
  { terminal with
    printed := terminal.printed ++ (targets.takeWhile fun target => Showable target).map targetLine
    aborted := !targets.all fun target => Showable target }

variable {terminal : Terminal} {targets : List Navigation.Target} {target : Navigation.Target}

/-- Nothing is shown for no target. -/
theorem showAll_nil (runs : terminal.aborted = false) : terminal.showAll [] = terminal := by
  obtain ⟨output, disk, printed, reported, aborted⟩ := terminal
  obtain rfl : aborted = false := runs
  simp [showAll]

/-- A target that can be shown has its line before those of the others. -/
theorem showAll_cons (fits : Showable target) :
    terminal.showAll (target :: targets) =
      (terminal.print (targetLine target)).showAll targets := by
  simp [showAll, print, fits]

/-- Behind a target that cannot be shown nothing is shown. -/
theorem showAll_cons_of_not (unfit : ¬ Showable target) :
    terminal.showAll (target :: targets) = { terminal with aborted := true } := by
  simp [showAll, unfit]

/-- The program is aborted if and only if a target cannot be shown. -/
theorem aborted_showAll : (terminal.showAll targets).aborted = true ↔
    ¬ ∀ target ∈ targets, Showable target := by
  simp [showAll]

/-- All lines are shown, and the program is not aborted, if and only if every target can be
shown. -/
theorem showAll_eq_printAll_iff (runs : terminal.aborted = false) :
    terminal.showAll targets = terminal.printAll (targets.map targetLine) ↔
      ∀ target ∈ targets, Showable target := by
  constructor
  · intro same target member
    have goesOn := congrArg Terminal.aborted same
    simp only [showAll, printAll, runs, Bool.not_eq_false', List.all_eq_true,
      decide_eq_true_eq] at goesOn
    exact goesOn target member
  · intro fits
    have whole : targets.takeWhile (fun target => Showable target) = targets := by
      rw [List.takeWhile_eq_self_iff]
      exact fun target member => decide_eq_true (fits target member)
    have all : targets.all (fun target => Showable target) = true :=
      List.all_eq_true.mpr fun target member => decide_eq_true (fits target member)
    simp only [showAll, printAll, whole, all, runs, Bool.not_true]

/-- Nothing is done in a program that was aborted. -/
theorem performAll_of_aborted (aborted : terminal.aborted = true) (calls : List EditorCall) :
    terminal.performAll calls = terminal := by
  induction calls with
  | nil => rfl
  | cons call rest ih =>
    rw [performAll, List.foldl_cons, perform, if_pos aborted]
    exact ih

/-- A target is shown by its line, or aborts the program. -/
theorem showDocument_target (terminal : Terminal) (target : Navigation.Target) :
    terminal.showDocument target.uri target.range (Navigation.column target []) =
      if Showable target then terminal.print (targetLine target)
      else { terminal with aborted := true } := by
  have opens := openingLine?_eq target.uri target.range (Navigation.column target [])
  unfold showDocument
  by_cases fits : Showable target
  · rw [opens.trans (if_pos fits), if_pos fits]
    rfl
  · rw [opens.trans (if_neg fits), if_neg fits]

/-- What is done for an event shows its target, if it is an accepted call. -/
theorem performAll_effects (runs : terminal.aborted = false) (live : List String)
    (event : ServerEvent) : terminal.performAll (event.effects live []) =
      terminal.showAll (ServerEvent.targetsIn [event]) := by
  cases event with
  | clientCommand call =>
    cases accepted : call.target? with
    | none =>
      simp [ServerEvent.effects, ServerEvent.targetsIn, accepted, performAll, showAll_nil runs]
    | some target =>
      have shown : terminal.performAll
          [.showDocument target.uri target.range (Navigation.column target [])] =
            terminal.showAll [target] := by
        simp only [performAll, List.foldl_cons, List.foldl_nil, perform, runs, act,
          showDocument_target, Bool.false_eq_true, if_false]
        by_cases fits : Showable target
        · rw [if_pos fits, showAll_cons fits, showAll_nil (by rw [← runs]; rfl)]
        · rw [if_neg fits, showAll_cons_of_not fits]
      simpa [ServerEvent.effects, ServerEvent.targetsIn, accepted] using shown
  | treeChange nodes =>
    have refreshed (node : TreeNode) :
        terminal.perform (.refresh node.view node.uri) = terminal := by
      rw [perform, runs, if_neg Bool.false_ne_true]
      rfl
    simp only [ServerEvent.effects, ServerEvent.targetsIn, performAll, List.foldl_map,
      List.filterMap_cons, List.filterMap_nil, showAll_nil runs]
    exact List.foldl_fixed' refreshed _

/-- What the server tells shows the targets of its calls, in order, whatever else is told. -/
theorem performAll_handleEvents (runs : terminal.aborted = false) (client : Client)
    (events : List ServerEvent) :
    terminal.performAll (Client.handleEvents Terminal.editor client events).2 =
      terminal.showAll (ServerEvent.targetsIn events) := by
  rw [Client.calls_handleEvents client.views.liveAre_ids, show editor.visible = [] from rfl]
  generalize client.views.ids = live
  induction events generalizing terminal with
  | nil => exact (showAll_nil runs).symm
  | cons event rest ih =>
    have parts : ServerEvent.targetsIn (event :: rest) =
        ServerEvent.targetsIn [event] ++ ServerEvent.targetsIn rest :=
      List.filterMap_append (l := [event])
    have first := performAll_effects runs live event
    have both : terminal.performAll ((event :: rest).flatMap fun event => event.effects live []) =
        (terminal.performAll (event.effects live [])).performAll
          (rest.flatMap fun event => event.effects live []) := List.foldl_append
    rw [both, first, parts]
    rcases ServerEvent.targetsIn_singleton event with none | ⟨target, one⟩
    · rw [none, showAll_nil runs, List.nil_append]
      exact ih runs
    · rw [one, List.singleton_append]
      by_cases fits : Showable target
      · have goesOn : (terminal.print (targetLine target)).aborted = false := runs
        rw [showAll_cons fits, showAll_cons fits, showAll_nil goesOn]
        exact ih goesOn
      · rw [showAll_cons_of_not fits, showAll_cons_of_not fits]
        exact performAll_of_aborted rfl _

/-- A go-to is accepted if its argument can be read. -/
theorem targetsIn_withArgument {target : Navigation.Target} {argument : Json}
    (read : Navigation.Target.form.decode argument = .ok target) :
    ServerEvent.targetsIn [.clientCommand (.withArgument Navigation.goToCommand argument)] =
      [target] := by
  have accepted :
      (CommandCall.withArgument Navigation.goToCommand argument).target? = some target := by
    simp [CommandCall.target?, CommandCall.withArgument, read, Except.toOption]
  simp [ServerEvent.targetsIn, accepted]

end Terminal

/-! ## Positions that are entered -/

namespace Position

open Terminal (raised)

/-- A word that is not zero is lowered to the word before it. -/
theorem sub_one_eq_iff {word lower : UInt32} (positive : word ≠ 0) :
    word - 1 = lower ↔ raised lower = word.toNat := by
  have above : 0 < word.toNat := Nat.pos_of_ne_zero fun zero =>
    positive (UInt32.toNat_inj.mp zero)
  have lowered : (word - 1).toNat = word.toNat - 1 :=
    UInt32.toNat_sub_of_le word 1 (UInt32.le_iff_toNat_le.mpr above)
  rw [← UInt32.toNat_inj, lowered]
  unfold raised
  omega

/-- A position is entered by the numbers after its line and its character. -/
theorem ofLineColumn?_eq_some_iff {line column : UInt32} {position : Position} :
    ofLineColumn? line column = some position ↔
      raised position.line = line.toNat ∧ raised position.character = column.toNat := by
  have zero (word : UInt32) : raised word ≠ 0 := Nat.succ_ne_zero _
  unfold ofLineColumn?
  split
  · rename_i refused
    rcases refused with rfl | rfl <;> simp [zero]
  · rename_i accepted
    obtain ⟨line?, column?⟩ := not_or.mp accepted
    rw [← sub_one_eq_iff line?, ← sub_one_eq_iff column?]
    cases position
    simp

/-- A line and a column are accepted if and only if neither is zero. -/
theorem isSome_ofLineColumn?_iff {line column : UInt32} :
    (ofLineColumn? line column).isSome = true ↔ 1 ≤ line ∧ 1 ≤ column := by
  unfold ofLineColumn?
  have positive (word : UInt32) : 1 ≤ word ↔ word ≠ 0 := by
    rw [UInt32.le_iff_toNat_le, ne_eq, ← UInt32.toNat_inj]
    exact Nat.pos_iff_ne_zero
  simp [positive, not_or]

end Position

namespace Terminal

/-- A terminal of a running program on which the client shows what the server tells prints a line
for each go-to that is accepted, in order, and a server can send any target whose document has a
settled URL. The lines hold the numbers after the line and the character of each position. They end
before the first position for which these are no words; there the program is aborted, and a run
that follows the server fails. Two numbers are accepted as a line and a column if and only if
neither is zero. They are accepted for a position if and only if it is shown by them, and if and
only if they are the numbers after its line and its character. -/
theorem shown_exact_iff (terminal : Terminal) (client : Client) (runs : terminal.aborted = false) :
    (∀ events,
      let shown := terminal.performAll (Client.handleEvents Terminal.editor client events).2
      let targets := ServerEvent.targetsIn events
      shown = terminal.showAll targets ∧
        (shown = terminal.printAll (targets.map targetLine) ↔
          ∀ target ∈ targets, Showable target) ∧
        ∀ {σ : Type} (transport : Server.Transport σ) (session : Server.Session σ),
          (transport.events session.state).2 = events →
          (CommandLine.follow transport ⟨session, client, terminal⟩).2 =
            if ∀ target ∈ targets, Showable target then .ok () else .error .aborted) ∧
      (∀ target : Navigation.Target, target.uri.Settled →
        ServerEvent.targetsIn [.clientCommand
          (.withArgument Navigation.goToCommand (Navigation.Target.form.encode target))] =
            [target]) ∧
      (∀ line column, (Position.ofLineColumn? line column).isSome = true ↔
        1 ≤ line ∧ 1 ≤ column) ∧
      (∀ line column position uri last pane,
        Position.ofLineColumn? line column = some position ↔
          openingLine? uri ⟨position, last⟩ pane =
            some (placeLine uri line.toNat column.toNat pane)) ∧
      ∀ line column position, Position.ofLineColumn? line column = some position ↔
        raised position.line = line.toNat ∧ raised position.character = column.toNat := by
  refine ⟨?_, fun _ settled => targetsIn_withArgument (Navigation.Target.lawfulAt settled),
    fun _ _ => Position.isSome_ofLineColumn?_iff, ?_,
    fun _ _ _ => Position.ofLineColumn?_eq_some_iff⟩
  · intro events
    have shows := performAll_handleEvents runs client events
    refine ⟨shows, ?_, ?_⟩
    · simp only [shows]
      exact showAll_eq_printAll_iff runs
    · intro σ transport session told
      have followed : (CommandLine.follow transport ⟨session, client, terminal⟩).2 =
          if (terminal.performAll
              (Client.handleEvents Terminal.editor client events).2).aborted then
            .error .aborted
          else .ok () := by
        rw [← told]
        rfl
      rw [followed, shows]
      by_cases fits : ∀ target ∈ ServerEvent.targetsIn events, Showable target
      · rw [if_pos fits, if_neg fun aborted => aborted_showAll.mp aborted fits]
      · rw [if_neg fits, if_pos (aborted_showAll.mpr fits)]
  · intro line column position uri last pane
    rw [Position.ofLineColumn?_eq_some_iff, openingLine?_eq]
    constructor
    · rintro ⟨ofLine, ofColumn⟩
      have lineFits : raised position.line < UInt32.size := ofLine ▸ line.toNat_lt_size
      have columnFits : raised position.character < UInt32.size := ofColumn ▸ column.toNat_lt_size
      rw [if_pos ⟨lineFits, columnFits⟩, ofLine, ofColumn]
    · split
      · exact fun same => placeLine_inj.mp (Option.some.inj same)
      · nofun

/-- A document in which the last line that a word can count is sought. -/
def lastLine : Navigation.Target :=
  ⟨⟨"file", some ⟨"", none, .name "", none⟩, "/a.rc", none, none⟩,
    ⟨⟨0xffffffff, 0⟩, ⟨0xffffffff, 0⟩⟩, false⟩

/-- The server has it shown. -/
def seeksLastLine : ServerEvent := .clientCommand
  (.withArgument Navigation.goToCommand (Navigation.Target.form.encode lastLine))

/-- The server can ask for the last line, but it is not shown. The greatest number that can be
entered is shown again. -/
theorem shown_exact_iff_lastLine :
    lastLine.uri.Settled ∧ ServerEvent.targetsIn [seeksLastLine] = [lastLine] ∧
      (blank (.bare []) none).performAll (Client.handleEvents Terminal.editor
        (Client.activate .standard).1 [seeksLastLine]).2 ≠
          (blank (.bare []) none).printAll [targetLine lastLine] ∧
      Position.ofLineColumn? 0xffffffff 1 = some ⟨0xfffffffe, 0⟩ ∧
      openingLine? lastLine.uri ⟨⟨0xfffffffe, 0⟩, ⟨0, 0⟩⟩ .active =
        some (placeLine lastLine.uri 4294967295 1 .active) := by
  obtain ⟨shows, sought, -, entered, -⟩ :=
    shown_exact_iff (blank (.bare []) none) (Client.activate .standard).1 rfl
  have settled : lastLine.uri.Settled := rfl
  have targets : ServerEvent.targetsIn [seeksLastLine] = [lastLine] := sought lastLine settled
  have placed : Position.ofLineColumn? 0xffffffff 1 = some ⟨0xfffffffe, 0⟩ := by decide
  have exactly := (shows [seeksLastLine]).2.1
  rw [targets] at exactly
  have again := (entered 0xffffffff 1 ⟨0xfffffffe, 0⟩ lastLine.uri ⟨0, 0⟩ .active).mp placed
  refine ⟨settled, targets, fun same => ?_, placed, again⟩
  have fits := (exactly.mp same lastLine List.mem_cons_self).1
  exact absurd fits (by decide)

/-- The last line that a word can count has a number after it, but the program is aborted before it
is printed. -/
theorem lastLine_aborts :
    let shown := (blank (.bare []) none).performAll (Client.handleEvents Terminal.editor
      (Client.activate .standard).1 [seeksLastLine]).2
    shown.printed = [] ∧ shown.aborted = true ∧
      targetLine lastLine = "open file:///a.rc:4294967296:1 (Active)" := by
  decide +kernel

end Terminal

end LanguageClient
