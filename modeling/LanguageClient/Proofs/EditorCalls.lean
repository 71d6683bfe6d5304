import LanguageClient.Proofs.Views

/-!
# What the editor is called for

An operation that begins has documents opened, widgets refreshed and failures told; an answer has
nodes revealed, pages rendered, sessions started and failures told. `callsAtOnce` and `callsThen`
say so for all operations and answers, with the views that they name being live.
-/

namespace LanguageClient

/-- A plan is for the view of its chain. -/
theorem Tree.RevealPlan.view_of_ofChain? {chain : Tree.Chain} {plan : Tree.RevealPlan}
    (made : Tree.RevealPlan.ofChain? chain = some plan) : plan.view = chain.view := by
  unfold Tree.RevealPlan.ofChain? at made
  split at made
  · cases made
  · cases made
    rfl

namespace Tree.Views

variable (views : Views)

/-- A message about trees has the widgets of live views refreshed. -/
theorem mem_change {nodes : List TreeNode} {call : EditorCall}
    (member : call ∈ (views.change nodes).2) :
    ∃ node ∈ nodes, views.isLive node.view = true ∧ call = .refresh node.view node.uri := by
  induction nodes generalizing views with
  | nil => simp at member
  | cons node rest ih =>
    rw [change_cons, List.mem_append] at member
    rcases member with first | later
    · refine ⟨node, List.mem_cons_self, ?_⟩
      unfold takeNode at first
      split at first
      · rename_i live
        refine ⟨live, ?_⟩
        split at first
        · rename_i uri carried
          rw [carried]
          exact List.mem_singleton.mp first
        · rename_i bare
          rw [bare]
          exact List.mem_singleton.mp first
      · simp at first
    · obtain ⟨other, inside, live, same⟩ := ih (views.takeNode node).1 later
      rw [isLive_takeNode] at live
      exact ⟨other, List.mem_cons_of_mem _ inside, live, same⟩

/-- An answer about a place in a document has nodes of a live view unfolded and selected. -/
theorem mem_receiveReveal {reply : Except LspError (Option Chain)} {call : EditorCall}
    (member : call ∈ (views.receiveReveal reply).1) :
    ∃ view uri, views.isLive view = true ∧ (call = .expand view uri ∨ call = .select view uri) := by
  unfold receiveReveal at member
  split at member
  · simp at member
  · simp at member
  · rename_i chain
    split at member
    · rename_i live
      split at member
      · rename_i plan made
        rw [← RevealPlan.view_of_ofChain? made] at live
        obtain ⟨step, -, rfl⟩ := List.mem_map.mp member
        cases step with
        | expand uri => exact ⟨plan.view, uri, live, .inl rfl⟩
        | select uri => exact ⟨plan.view, uri, live, .inr rfl⟩
      · simp at member
    · simp at member

end Tree.Views

namespace Debug

variable {editor : Editor} {noDebug : Bool} {reply : Except LspError Json} {call : EditorCall}

/-- The start of a session asks the editor for a session only. -/
theorem mem_receiveStart (member : call ∈ (receiveStart editor noDebug reply).1) :
    ∃ configuration, call = .startDebugging configuration := by
  unfold receiveStart at member
  split at member
  · simp at member
  · simp at member
  · split at member
    · simp at member
    · exact ⟨_, List.mem_singleton.mp member⟩

/-- The start of a session asks the editor for a session, or to tell that there is none. -/
theorem mem_receiveStartOrTell (member : call ∈ (receiveStartOrTell editor noDebug reply).1) :
    (∃ configuration, call = .startDebugging configuration) ∨
      call = .showError (notStarted noDebug) := by
  have starts (early : call ∈ (receiveStart editor noDebug reply).1) := mem_receiveStart early
  unfold receiveStartOrTell at member
  split at member
  · rename_i calls started
    rw [started] at starts
    exact .inl (starts member)
  · rename_i calls result _ started
    rw [started] at starts
    rcases List.mem_append.mp member with early | told
    · exact .inl (starts early)
    · exact .inr (List.mem_singleton.mp told)

end Debug

namespace Client

variable (client : Client)

/-- What the editor is called for when an operation begins. -/
inductive CallsAtOnce : EditorCall → Prop
  /-- The widget of a live view is refreshed. -/
  | refresh (view : String) (node : Option String) (live : client.views.isLive view = true) :
    CallsAtOnce (.refresh view node)
  /-- A document is opened. -/
  | showDocument (uri : Url) (range : TextRange) (column : ViewColumn) :
    CallsAtOnce (.showDocument uri range column)
  /-- A failure is told. -/
  | showError (message : String) : CallsAtOnce (.showError message)

/-- What the editor is called for when an answer arrives. -/
inductive CallsThen : EditorCall → Prop
  /-- A node of a live view is unfolded. -/
  | expand (view uri : String) (live : client.views.isLive view = true) :
    CallsThen (.expand view uri)
  /-- A node of a live view is selected. -/
  | select (view uri : String) (live : client.views.isLive view = true) :
    CallsThen (.select view uri)
  /-- A page is rendered. -/
  | render (panel : WebPanel) (html : String) : CallsThen (.render panel html)
  /-- A session is started. -/
  | startDebugging (configuration : Debug.Configuration) :
    CallsThen (.startDebugging configuration)
  /-- A failure is told. -/
  | showError (message : String) : CallsThen (.showError message)

/-- What the server tells of its own accord has documents opened and widgets refreshed. -/
theorem callsAtOnce_handleEvents (editor : Editor) (events : List ServerEvent) {call : EditorCall}
    (member : call ∈ (handleEvents editor client events).2) : client.CallsAtOnce call := by
  induction events generalizing client with
  | nil => simp [handleEvents] at member
  | cons event rest ih =>
    simp only [handleEvents, List.mem_append] at member
    cases event with
    | clientCommand command =>
      simp only [handleEvent] at member
      split at member
      · rename_i request read
        rcases member with first | later
        · cases request with
          | goTo target =>
            obtain rfl := List.mem_singleton.mp first
            exact .showDocument _ _ _
          | unrecognized command arguments => simp [Navigation.perform] at first
        · exact ih client later
      · rcases member with first | later
        · simp at first
        · exact ih client later
    | treeChange nodes =>
      rcases member with first | later
      · obtain ⟨node, -, live, rfl⟩ := client.views.mem_change first
        exact .refresh _ _ live
      · have next := ih _ later
        cases next with
        | refresh view node live =>
          rw [handleEvent] at live
          exact .refresh view node ((Tree.Views.isLive_change client.views nodes view) ▸ live)
        | showDocument uri range column => exact .showDocument uri range column
        | showError message => exact .showError message

/-- What the editor is called for when any operation begins. -/
theorem callsAtOnce (world : Surroundings) (operation : Operation) {call : EditorCall}
    (member : call ∈ (client.issue world operation).calls) : client.CallsAtOnce call := by
  cases operation with
  | serverEvents events => exact callsAtOnce_handleEvents client world.editor events member
  | children view parent | parent view node | widget event | resolve configuration
  | describe configuration =>
    simp only [issue] at member
    split at member <;> simp [done, waits] at member
  | command command =>
    cases command with
    | startPreview path =>
      simp only [issue, startPreview] at member
      split at member
      · obtain rfl := List.mem_singleton.mp member
        exact .showError _
      · simp [waits] at member
    | _ => simp [issue, done, waits] at member
  | showPreview id visible =>
    simp only [issue, showPreview] at member
    repeat' split at member
    all_goals simp [done, waits] at member
  | _ => simp [issue, done, waits] at member

/-- What the editor is called for when any answer arrives. -/
theorem callsThen (world : Surroundings) (pending : Pending) (reply : Except LspError Json)
    {call : EditorCall} (member : call ∈ (client.arrive world pending reply).calls) :
    client.CallsThen call := by
  cases pending with
  | children view | parent | describe => cases member
  | reveal =>
    obtain ⟨view, uri, live, rfl | rfl⟩ := client.views.mem_receiveReveal member
    · exact .expand view uri live
    · exact .select view uri live
  | firstPage id =>
    simp only [arrive, receiveFirstPage] at member
    split at member
    · obtain rfl := List.mem_singleton.mp member
      exact .showError _
    · cases member
    · obtain rfl := List.mem_singleton.mp member
      exact .render _ _
  | page id =>
    simp only [arrive, receivePage] at member
    split at member
    · cases member
    · cases member
    · obtain rfl := List.mem_singleton.mp member
      exact .render _ _
  | start noDebug | resolve configuration =>
    obtain ⟨configuration, rfl⟩ := Debug.mem_receiveStart member
    exact .startDebugging configuration
  | startOrTell noDebug | sessionCommand noDebug =>
    rcases Debug.mem_receiveStartOrTell member with ⟨configuration, rfl⟩ | rfl
    · exact .startDebugging configuration
    · exact .showError _

end Client

end LanguageClient
