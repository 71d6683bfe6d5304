import LanguageClient.Proofs.SoundPayloads

/-!
# The catalog of payloads

All payloads that client and server exchange, and the settings. `catalog_round_trip` says of each
that what is written is read back, that what was read is written so that it is read back too, that
nothing is written for what is absent, and that what stands for an absence reads as if it were left
out.
-/

namespace LanguageClient

/-- The payloads. -/
inductive Payload
  /-- A node of a tree. -/
  | node
  /-- The command of a node. -/
  | command
  /-- A question for the children of a node. -/
  | childrenQuery
  /-- The children of a node. -/
  | children
  /-- A question for the parent of a node. -/
  | parentQuery
  /-- The parent of a node. -/
  | parent
  /-- A place in a document, whose node is asked for. -/
  | position
  /-- A node to reveal. -/
  | chain
  /-- A node to reveal, if there is one. -/
  | reveal
  /-- Nodes that changed. -/
  | change
  /-- A change of visibility. -/
  | visibility
  /-- A folding. -/
  | folding
  /-- A question for the listing of a document. -/
  | listingQuery
  /-- A listing. -/
  | listing
  /-- The target of a go-to. -/
  | target
  /-- What is found in a file. -/
  | discovery
  /-- A debug adapter that was started. -/
  | session
  /-- A debug configuration. -/
  | configuration
  /-- The server's settings. -/
  | serverSettings
  /-- The settings. -/
  | settings

namespace Payload

/-- The values that a payload carries. -/
def Value : Payload → Type
  | node => TreeNode
  | command => Command
  | childrenQuery => Tree.ChildrenQuery
  | children | change => List TreeNode
  | parentQuery => Tree.NodeName
  | parent => Option String
  | position => DocumentPosition
  | chain => Tree.Chain
  | reveal => Option Tree.Chain
  | visibility => Tree.Visibility
  | folding => Tree.Folding
  | listingQuery => Url
  | listing => Preview.Listing
  | target => Navigation.Target
  | discovery => Debug.Discovery
  | session => Debug.Session
  | configuration => Debug.Configuration
  | serverSettings => ServerSettings
  | settings => Settings

/-- The form of a payload. -/
def form : (payload : Payload) → Form payload.Value
  | node => TreeNode.form
  | command => Command.form
  | childrenQuery => Tree.ChildrenQuery.form
  | children => Tree.childrenForm
  | parentQuery => Tree.parentQueryForm
  | parent => Tree.parentForm
  | position => DocumentPosition.form
  | chain => Tree.Chain.form
  | reveal => Tree.Chain.form.nullable
  | change => Tree.changeForm
  | visibility => Tree.Visibility.form
  | folding => Tree.Folding.form
  | listingQuery => Preview.queryForm
  | listing => Preview.Listing.form
  | target => Navigation.Target.form
  | discovery => Debug.Discovery.form
  | session => Debug.Session.form
  | configuration => Debug.Configuration.form
  | serverSettings => ServerSettings.form
  | settings => Settings.form

/-- The layout of a payload. -/
def layout : Payload → Layout
  | node => TreeNode.layout
  | command => Command.layout
  | childrenQuery => Tree.ChildrenQuery.layout
  | children | change => TreeNode.listLayout
  | parentQuery => Tree.parentQueryLayout
  | parent => Tree.parentLayout
  | position => DocumentPosition.layout
  | chain | reveal => Tree.Chain.layout
  | visibility => Tree.Visibility.layout
  | folding => Tree.Folding.layout
  | listingQuery => Preview.queryLayout
  | listing => Preview.Listing.layout
  | target => Navigation.Target.layout
  | discovery => Debug.Discovery.layout
  | session => Debug.Session.layout
  | configuration => Debug.Configuration.layout
  | serverSettings => ServerSettings.layout
  | settings => Settings.layout

/-- The URLs in a value. -/
def urls : (payload : Payload) → payload.Value → List Url
  | position, (place : DocumentPosition) => [place.document]
  | listingQuery, (document : Url) => [document]
  | target, (goal : Navigation.Target) => [goal.uri]
  | _, _ => []

/-- A value meets the conditions of its payload: only keys without a meaning are kept as they are,
and text spells the directory of settings. -/
def Sound : (payload : Payload) → payload.Value → Prop
  | configuration, (held : Debug.Configuration) => held.Sound
  | settings, (held : Settings) => held.extensionRoot.Spelled
  | _, _ => True

variable {payload : Payload}

/-- Every sound value is read back from what is written for it. -/
theorem lawfulAt {value : payload.Value} (sound : payload.Sound value)
    (settled : ∀ url ∈ payload.urls value, url.Settled) : payload.form.LawfulAt value := by
  cases payload with
  | node => exact TreeNode.lawful value
  | command => exact Command.lawful value
  | childrenQuery => exact Tree.ChildrenQuery.lawful value
  | children => exact TreeNode.lawful_list _ value
  | parentQuery => exact Tree.lawful_parentQuery value
  | parent => exact Tree.lawful_parent value
  | position => exact DocumentPosition.lawfulAt (settled _ List.mem_cons_self)
  | chain => exact Tree.Chain.lawful value
  | reveal => exact Form.lawfulAt_nullable (Form.solid_record _ _) fun chain _ =>
      Tree.Chain.lawful chain
  | change => exact TreeNode.lawful_list _ value
  | visibility => exact Tree.Visibility.lawful value
  | folding => exact Tree.Folding.lawful value
  | listingQuery => exact Preview.lawfulAt_query (settled _ List.mem_cons_self)
  | listing => exact Preview.Listing.lawful value
  | target => exact Navigation.Target.lawfulAt (settled _ List.mem_cons_self)
  | discovery => exact Debug.Discovery.lawful value
  | session => exact Debug.Session.lawful value
  | configuration => exact Debug.Configuration.lawfulAt sound
  | serverSettings => exact ServerSettings.lawful value
  | settings => exact Settings.lawfulAt sound

/-- Whatever is read from a payload is sound. -/
theorem sound_of_decode {json : Json} {value : payload.Value}
    (ordered : ∀ entries, json = .obj entries → Json.Ordered entries)
    (decoded : payload.form.decode json = .ok value) : payload.Sound value := by
  cases payload with
  | configuration =>
    cases json with
    | obj entries => exact Debug.Configuration.sound_of_decode (ordered entries rfl) decoded
    | _ => cases decoded
  | settings => exact Settings.yields_spelled json value decoded
  | _ => trivial

/-- Every form but that of a configuration, which shares its object with other keys, follows its
layout for all values. -/
theorem follows (own : payload ≠ configuration) : payload.form.Follows payload.layout := by
  cases payload with
  | node => exact TreeNode.follows
  | command => exact Command.follows
  | childrenQuery => exact Tree.ChildrenQuery.follows
  | children | change => exact TreeNode.follows_list _
  | parentQuery => exact Tree.follows_parentQuery
  | parent => exact Tree.follows_parent
  | position => exact DocumentPosition.follows
  | chain => exact Tree.Chain.follows
  | reveal => exact Tree.Chain.follows.nullable
  | visibility => exact Tree.Visibility.follows
  | folding => exact Tree.Folding.follows
  | listingQuery => exact Preview.follows_query
  | listing => exact Preview.Listing.follows
  | target => exact Navigation.Target.follows
  | discovery => exact Debug.Discovery.follows
  | session => exact Debug.Session.follows
  | configuration => exact absurd rfl own
  | serverSettings => exact ServerSettings.follows
  | settings => exact Settings.follows

/-- A payload is read alike before and after something is left out. -/
theorem tolerant (json other : Json) (omits : payload.layout.Omits json other) :
    payload.form.decode other = payload.form.decode json := by
  by_cases shared : payload = configuration
  · subst shared
    exact Debug.Configuration.tolerant json other omits
  · exact (follows shared).tolerant json other omits

/-- Nothing is written for what is absent. -/
theorem terse {value : payload.Value} (sound : payload.Sound value) :
    ¬ payload.layout.HoldsBlank (payload.form.encode value) := by
  by_cases shared : payload = configuration
  · subst shared
    exact Debug.Configuration.terse sound
  · exact (follows shared).terse value

/-- For every payload: a value is read back from what is written for it; if it was read from any
JSON value, it is read back as well; what is written for it then holds nothing that stands for an
absence; and what stands for an absence in a JSON value, wherever it lies, is read as if it were
left out. The URLs in a value are taken to be those that their texts spell. -/
theorem catalog_round_trip (payload : Payload) :
    (∀ value, payload.Sound value → (∀ url ∈ payload.urls value, url.Settled) →
      payload.form.decode (payload.form.encode value) = .ok value) ∧
    (∀ json value, (∀ entries, json = .obj entries → Json.Ordered entries) →
      payload.form.decode json = .ok value →
        ((∀ url ∈ payload.urls value, url.Settled) →
          payload.form.decode (payload.form.encode value) = .ok value) ∧
        ¬ payload.layout.HoldsBlank (payload.form.encode value)) ∧
    ∀ json other, payload.layout.Omits json other →
      payload.form.decode other = payload.form.decode json := by
  refine ⟨fun value sound settled => lawfulAt sound settled, ?_, tolerant⟩
  intro json value ordered decoded
  have sound := sound_of_decode ordered decoded
  exact ⟨fun settled => lawfulAt sound settled, terse sound⟩

/-- The target of a go-to. -/
def demoTarget : Navigation.Target :=
  ⟨⟨"file", some ⟨"", none, .name "", none⟩, "/demo/a.rc", none, none⟩, ⟨⟨1, 0⟩, ⟨1, 4⟩⟩, false⟩

/-- The target as a list of its fields, the last one left out. -/
def demoTargetAsList : Json :=
  .arr [.str "file:///demo/a.rc", .arr [.arr [.int 1, .int 0], .arr [.int 1, .int 4]]]

/-- A target is read from a list and written as an object, from which it is read again. -/
theorem catalog_round_trip_target :
    demoTarget.uri.Settled ∧ target.form.decode demoTargetAsList = .ok demoTarget ∧
      target.form.decode (target.form.encode demoTarget) = .ok demoTarget := by
  have settled : demoTarget.uri.Settled := rfl
  have decoded : target.form.decode demoTargetAsList = .ok demoTarget := rfl
  refine ⟨settled, decoded, ?_⟩
  obtain ⟨again, -⟩ := (catalog_round_trip target).2.1 demoTargetAsList demoTarget nofun decoded
  exact again (List.forall_mem_singleton.mpr settled)

end Payload

end LanguageClient
