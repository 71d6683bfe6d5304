import LanguageClient.Proofs.CommandOutcomes
import LanguageClient.Proofs.FaithfulForms

/-!
# Questions for the adapter of a configuration

A configuration that names something to debug is handed to the server as the object that it was
read from, and the server's reply decides where its adapter listens; for any other configuration the
server is sent nothing. `configuration_is_handed_on` says so for every configuration that an object
holds, and every run of the client in which its adapter is asked for.
-/

namespace LanguageClient

namespace Debug

/-! ## What a configuration names -/

/-- The keys under which a configuration names what to debug. -/
def targetKeys : List String := ["mainClass", "testClass", "hostName"]

/-- Under each of the keys there is nothing, or null. -/
def NamesNothing (entries : List (String × Json)) : Prop :=
  ∀ key ∈ targetKeys, ∀ value, Json.entry? key entries = some value → value = .null

/-- A configuration has no target if and only if the object that it was read from names none. -/
theorem target?_eq_none_iff {entries : List (String × Json)} {configuration : Configuration}
    (decoded : Configuration.form.decode (.obj entries) = .ok configuration) :
    configuration.target? = none ↔ NamesNothing entries := by
  obtain ⟨known, checked, last⟩ := ok_of_bind decoded
  obtain ⟨-, -, read⟩ := ok_of_bind checked
  obtain ⟨parts, taken, rfl⟩ := ok_of_map read
  cases last
  -- the fields with a target are the last three of eight
  obtain ⟨-, taken⟩ := Fields.read_both taken
  obtain ⟨-, taken⟩ := Fields.read_both taken
  obtain ⟨-, taken⟩ := Fields.read_both taken
  obtain ⟨-, taken⟩ := Fields.read_both taken
  obtain ⟨-, taken⟩ := Fields.read_both taken
  obtain ⟨main, taken⟩ := Fields.read_both taken
  obtain ⟨test, host⟩ := Fields.read_both taken
  have mainGiven := (Fields.read_optional main).1
  have testGiven := (Fields.read_optional test).1
  have hostGiven := (Fields.read_optional host).1
  obtain ⟨kind, name, request, noDebug, port, mainClass, testClass, hostName⟩ := parts
  have nothing : NamesNothing entries ↔
      mainClass.isNone = true ∧ testClass.isNone = true ∧ hostName.isNone = true := by
    rw [← mainGiven, ← testGiven, ← hostGiven]
    simp [NamesNothing, targetKeys, Json.given?_eq_none_iff]
  rw [nothing]
  cases mainClass <;> cases testClass <;> cases hostName <;> simp [Configuration.target?]

/-! ## Where an adapter listens -/

/-- An address leads to the endpoint whose host and port it spells. -/
theorem ofUri_eq_ok_iff [Idna] (address : String) (endpoint : Endpoint) :
    Endpoint.ofUri address = .ok endpoint ↔ ∃ url, Url.read address = .ok url ∧
      url.host? = some endpoint.host ∧ url.port? = some endpoint.port.toNat := by
  unfold Endpoint.ofUri
  cases read : Url.read address with
  | error reason => simp [throw, throwThe, MonadExceptOf.throw]
  | ok url =>
    cases host : url.host? with
    | none => simp [host, throw, throwThe, MonadExceptOf.throw]
    | some name =>
      cases port : url.port? with
      | none => simp [host, port, throw, throwThe, MonadExceptOf.throw]
      | some number =>
        have small : number < 65536 := Url.port_lt_of_read read port
        have back : (UInt16.ofNat number).toNat = number := UInt16.toNat_ofNat_of_lt small
        simp only [host, port]
        constructor
        · intro same
          cases same
          exact ⟨url, rfl, host, port.trans (congrArg some back.symm)⟩
        · rintro ⟨found, same, hostFound, portFound⟩
          cases same
          obtain rfl : name = endpoint.host := Option.some.inj (host.symm.trans hostFound)
          obtain rfl : number = endpoint.port.toNat := Option.some.inj (port.symm.trans portFound)
          simp only [UInt16.ofNat_toNat]
          rfl

/-- What comes of a reply to the question for an adapter: there is none for null, there is one where
the address of a session says, and everything else is an error. -/
structure Answers (reply : Except LspError Json) (result : Except DebugError (Option Endpoint)) :
    Prop where
  /-- There is no adapter if and only if the reply is null. -/
  none : result = .ok none ↔ reply = .ok .null
  /-- There is an adapter if and only if the reply is a session whose address has a host and a
  port; these tell where it listens. -/
  listens : ∀ endpoint, result = .ok (some endpoint) ↔ ∃ value session url, reply = .ok value ∧
    Session.form.decode value = .ok session ∧ Url.read session.uri = .ok url ∧
    url.host? = some endpoint.host ∧ url.port? = some endpoint.port.toNat

/-- A reply that came is taken for null or for a session. -/
theorem receiveEndpoint_ok {value : Json} (solid : value ≠ .null) :
    receiveEndpoint (.ok value) = match Session.form.decode value with
      | .ok session => (Endpoint.ofUri session.uri).map some
      | .error cause => .error (.lsp (.parseError (startCommand ++ ": " ++ cause.message))) := by
  have taken : sessionOfReply value = match Session.form.decode value with
      | .ok session => .ok (some session)
      | .error cause => .error (.parseError (startCommand ++ ": " ++ cause.message)) := by
    cases value with
    | null => exact absurd rfl solid
    | _ => rfl
  have received : receiveSession (.ok value) = (sessionOfReply value).mapError .lsp := rfl
  rw [receiveEndpoint, received, taken]
  cases Session.form.decode value <;> rfl

/-- Every reply is taken as `Answers` says. -/
theorem answers_receiveEndpoint (reply : Except LspError Json) :
    Answers reply (receiveEndpoint reply) := by
  cases reply with
  | error cause =>
    constructor <;> simp [receiveEndpoint, receiveSession, Except.bind, Except.mapError]
  | ok value =>
    by_cases blank : value = .null
    · subst blank
      have nothing : receiveEndpoint (.ok .null) = .ok none := rfl
      have refused (session : Session) : Session.form.decode .null ≠ .ok session := nofun
      constructor <;> simp [nothing, refused]
    · rw [receiveEndpoint_ok blank]
      cases decoded : Session.form.decode value with
      | error cause => constructor <;> simp [blank, decoded]
      | ok session =>
        cases address : Endpoint.ofUri session.uri with
        | error cause =>
          have none (endpoint : Endpoint) := (ofUri_eq_ok_iff session.uri endpoint).not.mp
            (by simp [address])
          constructor
          · simp [blank, address, Except.map]
          · simpa [decoded, address, Except.map] using none
        | ok found =>
          constructor
          · simp [blank, address, Except.map]
          · intro endpoint
            simp [decoded, address, Except.map, ← ofUri_eq_ok_iff]

end Debug

/-! ## What is sent -/

/-- Everything that the server is sent in some steps: each message by its method and payload. -/
def sentIn (steps : List ClientHappening) : List (String × Json) :=
  steps.flatMap fun happening =>
    (happening.request.map fun request => (request.method, request.params)).toList ++
      happening.notices.map fun notice => (notice.method, notice.params)

namespace Debug

/-- The message that has an adapter started for a payload. -/
def startMessage (payload : Json) : String × Json :=
  ("workspace/executeCommand",
    .obj [("arguments", .arr [payload]), ("command", .str "debug-adapter-start")])

/-- The question that starts an adapter is a call with the payload as its only argument. -/
theorem message_startCall (payload : Json) :
    ((Request.execute (startCall payload)).method, (Request.execute (startCall payload)).params) =
      startMessage payload := by
  have written : (Request.execute (startCall payload)).params =
      Json.object [("command", .str startCommand), ("arguments", .arr [payload])] := rfl
  have first : "arguments" < "command" := by decide
  rw [written]
  simp [Json.object, Json.arrange, Json.place, first, startMessage, Request.method,
    Request.executeMethod, startCommand]

/-- The question for the adapter of a configuration carries the written configuration. -/
theorem startMessage_eq (configuration : Configuration) :
    ((describeRequest configuration).method, (describeRequest configuration).params) =
      startMessage (Configuration.form.encode configuration) :=
  message_startCall _

/-- How far the question for an adapter has come that an object describes, and what was sent for
it. -/
inductive Described (entries : List (String × Json)) (waiting : Bool)
    (steps : List ClientHappening) : Prop
  /-- The object names nothing to debug: nothing is sent, and there is no adapter. -/
  | unnamed (nothing : NamesNothing entries) (ended : waiting = false) (sent : sentIn steps = [])
      (answers : answersIn steps = [.endpoint (.ok none)])
  /-- The object was handed to the server, whose reply is awaited. -/
  | waits (named : ¬ NamesNothing entries) (isOpen : waiting = true)
      (sent : sentIn steps = [startMessage (.obj (Configuration.keptOf entries))])
      (answers : answersIn steps = [])
  /-- The object was handed to the server, and the reply has decided. -/
  | answered (named : ¬ NamesNothing entries) (ended : waiting = false)
      (sent : sentIn steps = [startMessage (.obj (Configuration.keptOf entries))])
      (asking ending : ClientHappening) (both : steps = [asking, ending]) (operation : Operation)
      (number : Nat) (reply : Except LspError Json)
      (cause : ending.cause = .answered operation number reply)
      (result : Except DebugError (Option Endpoint)) (decides : Answers reply result)
      (answers : answersIn steps = [.endpoint result])

end Debug

namespace Client

variable {world : Surroundings} {client : Client} {configuration : Debug.Configuration}

/-- For a configuration without a target nothing is asked. -/
theorem issue_describe_unnamed (unnamed : configuration.target? = none) :
    machine.issue world (.describe configuration) client =
      client.done [] (.endpoint (.ok none)) := by
  simp only [machine, issue, unnamed]

/-- For a configuration with a target the server is asked. -/
theorem issue_describe_named (named : configuration.target? ≠ none) :
    machine.issue world (.describe configuration) client =
      client.waits (Debug.describeRequest configuration) .describe := by
  obtain ⟨target, found⟩ := Option.ne_none_iff_exists'.mp named
  simp only [machine, issue, found]

/-- The steps of a question for an adapter send what the object of the configuration tells. -/
theorem described_stepsOf (settings : Settings) (events : List (Event Operation))
    {entries : List (String × Json)} (ordered : Json.Ordered entries)
    (decoded : Debug.Configuration.form.decode (.obj entries) = .ok configuration) {number : Nat}
    (issued : (run settings events).Issued number (.describe configuration)) :
    Debug.Described entries ((run settings events).waiting.contains number)
      ((run settings events).stepsOf number) := by
  have written := Debug.Configuration.encode_of_decode ordered decoded
  have nothing := Debug.target?_eq_none_iff decoded
  cases (traced_run settings events).course number _ issued with
  | atOnce world client answer outcome closed steps =>
    by_cases unnamed : configuration.target? = none
    · rw [steps, issue_describe_unnamed unnamed]
      exact .unnamed (nothing.mp unnamed) (by simp [Table.contains, closed]) rfl rfl
    · rw [issue_describe_named unnamed] at outcome
      cases outcome
  | waits world client request pending outcome isOpen steps =>
    by_cases unnamed : configuration.target? = none
    · rw [issue_describe_unnamed unnamed] at outcome
      cases outcome
    · rw [steps, issue_describe_named unnamed]
      refine .waits (nothing.not.mp unnamed) (by simp [Table.contains, isOpen]) ?_ rfl
      rw [← written, ← Debug.startMessage_eq]
      rfl
  | answered world worldThen client clientThen request pending reply outcome fit closed steps =>
    by_cases unnamed : configuration.target? = none
    · rw [issue_describe_unnamed unnamed] at outcome
      cases outcome
    · rw [issue_describe_named unnamed] at outcome
      obtain ⟨rfl, rfl⟩ := Next.waits.inj outcome
      rw [steps, issue_describe_named unnamed]
      refine .answered (nothing.not.mp unnamed) (by simp [Table.contains, closed]) ?_ _ _ rfl _
        number reply rfl (Debug.receiveEndpoint reply) (Debug.answers_receiveEndpoint reply) rfl
      rw [← written, ← Debug.startMessage_eq]
      rfl

/-- For every object that holds a configuration: the configuration is written as the object was,
but for keys with a meaning that are null. And in every run in which its adapter is asked for,
nothing is sent if the object names nothing to debug; else the written configuration is sent once,
as the only argument of the command that starts an adapter, and the reply decides. -/
theorem configuration_is_handed_on (entries : List (String × Json)) (ordered : Json.Ordered entries)
    (configuration : Debug.Configuration)
    (decoded : Debug.Configuration.form.decode (.obj entries) = .ok configuration) :
    Debug.Configuration.form.encode configuration = .obj (Debug.Configuration.keptOf entries) ∧
      ∀ settings events number,
        (run settings events).Issued number (.describe configuration) →
          Debug.Described entries ((run settings events).waiting.contains number)
            ((run settings events).stepsOf number) :=
  ⟨Debug.Configuration.encode_of_decode ordered decoded,
    fun settings events _ issued => described_stepsOf settings events ordered decoded issued⟩

/-- An object with nulls, one of them under a key with a meaning. -/
def withNulls : List (String × Json) :=
  [("env", .obj [("HOME", .null)]), ("hostName", .null), ("mainClass", .str "Main"),
    ("stop", .null)]

/-- The configuration that it holds. -/
def launchMain : Debug.Configuration :=
  { Debug.Configuration.empty with
    mainClass := some "Main"
    others := [("env", .obj [("HOME", .null)]), ("stop", .null)] }

/-- Its adapter is asked for, and the server tells of a session. -/
def launchedMain : List (Event Operation) := [
  .issue .quiet (.describe launchMain),
  .arrive .quiet 0 (.ok (Debug.Session.form.encode ⟨"Main", "tcp://localhost:7000"⟩))]

/-- Only the null that stands for no machine is dropped. -/
theorem configuration_is_handed_on_nulls :
    Debug.Configuration.form.encode launchMain =
        .obj [("env", .obj [("HOME", .null)]), ("mainClass", .str "Main"), ("stop", .null)] ∧
      Debug.Described withNulls false ((run .standard launchedMain).stepsOf 0) ∧
      answersIn ((run .standard launchedMain).stepsOf 0) =
        [.endpoint (.ok (some ⟨"localhost", 7000⟩))] := by
  have ordered : Json.Ordered withNulls := by
    unfold Json.Ordered withNulls
    decide
  have decoded : Debug.Configuration.form.decode (.obj withNulls) = .ok launchMain := by rfl
  obtain ⟨written, described⟩ :=
    configuration_is_handed_on withNulls ordered launchMain decoded
  have issued : (run .standard launchedMain).Issued 0 (.describe launchMain) := rfl
  have closed : (run .standard launchedMain).waiting.contains 0 = false := rfl
  have now := described .standard launchedMain 0 issued
  rw [closed] at now
  exact ⟨written, now, rfl⟩

end Client

end LanguageClient
