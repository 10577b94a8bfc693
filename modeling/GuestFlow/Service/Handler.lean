import GuestFlow.Service.Answer
import GuestFlow.Service.Validation
import GuestFlow.Settings.Basic

/-!
# The service

The service lets hosts register workflow definitions and drive sessions.  `Service.handle`
takes one request and gives the response and the service afterwards; what the sessions'
renderers are ready to do is done between two requests.

A request is refused in a fixed order: a body that is no JSON first, then what the
request is about may be missing, and then its fields may be wrong.  A completion that a
session does not take is a conflict, which says why, and leaves the session as it was.
-/

set_option autoImplicit false

namespace GuestFlow

/-- The service; one that was not started has neither settings nor stores. -/
structure Service where
  settings : Settings
  isStarted : Bool
  definitions : DefinitionStore
  sessions : SessionStore
  definitionIds : IdSupply
  sessionIds : SessionSupply

namespace Service

/-- The version that the service says it has. -/
def version : String := "1.0.0"

/-! ## Starting -/

def unstarted (settings : Settings) : Service :=
  ⟨settings, false, Shelf.empty, Shelf.empty, ⟨0⟩, ⟨0⟩⟩

/-- Starts the service with the definitions in the directory of the settings. -/
def start (settings : Settings) (tree : Tree) : Except Fault Service :=
  let started := { unstarted settings with isStarted := true }
  match settings.definitionsDirectory with
  | none => .ok started
  | some directory =>
    let loading := DefinitionStore.loadDirectory tree started.definitions started.definitionIds
      directory
    match loading.fault with
    | some fault => .error fault
    | none => .ok { started with definitions := loading.store, definitionIds := loading.supply }

/-! ## Refusals -/

/-- Why a request is not answered as it was meant. -/
inductive Refusal where
  /-- Nothing is known under the path. -/
  | noSuchPath
  /-- The path is known without the strokes at its end. -/
  | strayEnd
  | noSuchMethod
  | unavailable (what : String)
  | notFound (error message : String)
  | conflict (error message : String)
  | invalid (complaints : List Complaint)
  | unreadableBody
  /-- The request failed on the way. -/
  | failed (cause : Fault)

abbrev Handled := Except Refusal Value

def detailed (content : Value) : Value := .record (Record.ofFields [("detail", content)])

def explained (error message : String) : Value :=
  detailed (.record (Record.ofFields [("error", .text error), ("message", .text message)]))

def placeValue : Place → Value
  | .name name => .text name
  | .index index => .int index

def complaintValue (complaint : Complaint) : Value :=
  .record (Record.ofFields [
    ("type", .text complaint.kind), ("loc", .list (complaint.place.map placeValue))])

/-- The answer to a definition that is of no use. -/
def invalidDefinition (fault : Fault) : Value :=
  .record (Record.ofFields [
    ("error", .text "invalid_definition"), ("message", .text fault.message),
    ("errors", .list (fault.problems.map .text))])

/-- The answer when something broke down. -/
def breakdown (requestId : String) : Value :=
  .record (Record.ofFields [
    ("error", .text "internal_server_error"), ("message", .text "An unexpected error occurred"),
    ("request_id", .text requestId)])

/-- The response to a refused request; a breakdown does not carry the id of the request. -/
def Refusal.response (requestId : String) : Refusal → Response
  | .noSuchPath => ⟨404, detailed (.text "Not Found"), some requestId⟩
  | .strayEnd => ⟨307, .null, some requestId⟩
  | .noSuchMethod => ⟨405, detailed (.text "Method Not Allowed"), some requestId⟩
  | .unavailable what =>
    ⟨503, explained "service_unavailable" (what ++ " not initialized"), some requestId⟩
  | .notFound error message => ⟨404, explained error message, some requestId⟩
  | .conflict error message => ⟨409, explained error message, some requestId⟩
  | .invalid complaints =>
    ⟨422, detailed (.list (complaints.map complaintValue)), some requestId⟩
  | .unreadableBody =>
    ⟨400, detailed (.text "There was an error parsing the body"), some requestId⟩
  | .failed cause =>
    if cause.isDefinitionFault then ⟨422, invalidDefinition cause, some requestId⟩
    else ⟨500, breakdown requestId, none⟩

/-! ## What requests need -/

def checked {α : Type} : Checked α → Except Refusal α
  | .ok result => .ok result
  | .error complaints => .error (.invalid complaints)

def unfailing {α : Type} : Except Fault α → Except Refusal α
  | .ok result => .ok result
  | .error fault => .error (.failed fault)

/-- The body of a request, before anything else is looked at. -/
def bodyOf (request : Request) : Except Refusal (Option Value) :=
  match readBody request.body with
  | .ok body => .ok body
  | .error (.notJson index) =>
    .error (.invalid [⟨"json_invalid", [.name "body", .index index]⟩])
  | .error .unreadable => .error .unreadableBody

/-- Only a service that was started has what requests need. -/
def require (service : Service) (what : String) : Except Refusal Unit :=
  if service.isStarted then .ok () else .error (.unavailable what)

def requireDefinitions (service : Service) : Except Refusal Unit :=
  service.require "Definition repository"

def requireSession (service : Service) (id : String) : Except Refusal Session := do
  service.require "Session repository"
  match service.sessions.get? id with
  | some session => .ok session
  | none => .error (.notFound "session_not_found" ("Session " ++ id ++ " not found"))

def findDefinition (service : Service) (id : String) : Except Refusal Definition :=
  match service.definitions.get? id with
  | some definition => .ok definition
  | none => .error (.notFound "definition_not_found" ("Definition " ++ id ++ " not found"))

/-! ## Definitions -/

def listDefinitions (service : Service) (request : Request) : Handled := do
  service.requireDefinitions
  let (offset, limit) ← checked
    ((queryNumber request "offset" 0 0 none).both (queryNumber request "limit" 20 1 (some 100)))
  let items ← unfailing ((page service.definitions.items offset limit).mapM summary)
  .ok (.record (Record.ofFields [
    ("total", count service.definitions.size), ("offset", .int offset), ("limit", .int limit),
    ("items", .list items)]))

def getDefinition (service : Service) (id : String) : Handled := do
  service.requireDefinitions
  let definition ← service.findDefinition id
  unfailing (detail definition)

/-- Reads a document and makes sure that it makes a graph.  A fresh id is used up even if it does
not. -/
def readUsable (service : Service) (document : Record) : Service × Except Fault Definition :=
  match Document.definition service.definitionIds (.record document) with
  | .error fault => (service, .error fault)
  | .ok (definition, definitionIds) =>
    ({ service with definitionIds },
      (Graph.ofDefinition definition).map fun _ => definition)

/-- The document in the body of a request. -/
def documentOf (request : Request) (available : Except Refusal Unit) : Except Refusal Record := do
  let body ← bodyOf request
  available
  checked (requiredRecord "dict_type" body)

def registerDefinition (service : Service) (request : Request) : Service × Handled :=
  match documentOf request service.requireDefinitions with
  | .error refusal => (service, .error refusal)
  | .ok document =>
    match service.readUsable document with
    | (service, .error fault) => (service, .error (.failed fault))
    | (service, .ok definition) =>
      ({ service with definitions := service.definitions.save definition },
        unfailing (detail definition))

def validationAnswer (problems : List String) (id : Option String) : Value :=
  .record (Record.ofFields [
    ("valid", .bool id.isSome), ("errors", .list (problems.map .text)),
    ("definition_id", optionalText id)])

/-- Says whether a document could be registered, and registers nothing. -/
def validateDefinition (service : Service) (request : Request) : Service × Handled :=
  match documentOf request (.ok ()) with
  | .error refusal => (service, .error refusal)
  | .ok document =>
    match service.readUsable document with
    | (service, .ok definition) => (service, .ok (validationAnswer [] (some definition.id)))
    | (service, .error fault) =>
      (service,
        if fault.isDefinitionFault then .ok (validationAnswer fault.problems none)
        else .error (.failed fault))

/-! ## Sessions -/

/-- A new session that has not been started. -/
def newSession (service : Service) (form : SessionForm) (definition : Definition) :
    Except Fault (Service × Session) := do
  let graph ← Graph.ofDefinition definition
  let (id, sessionIds) := service.sessionIds.fresh
  let runner := Runner.create graph Registry.usual service.settings.strictOutputs form.eventId
    service.settings.maxAutoAdvance (some Agenda.empty)
  .ok ({ service with sessionIds }, {
    id, definitionId := definition.id, eventId := form.eventId, metadata := form.metadata, runner })

/-- Keeps a session and answers with its state. -/
def saveAndAnswer (service : Service) (session : Session) : Service × Handled :=
  ({ service with sessions := service.sessions.save session }, unfailing (sessionAnswer session))

/-- What a new session is made from. -/
def sessionPlan (service : Service) (request : Request) :
    Except Refusal (SessionForm × Definition) := do
  let body ← bodyOf request
  service.requireDefinitions
  let form ← checked (do
    let record ← requiredRecord "model_attributes_type" body
    SessionForm.ofRecord record)
  let definition ← service.findDefinition form.definitionId
  .ok (form, definition)

def createSession (service : Service) (request : Request) : Service × Handled :=
  match service.sessionPlan request with
  | .error refusal => (service, .error refusal)
  | .ok (form, definition) =>
    match service.newSession form definition with
    | .error fault => (service, .error (.failed fault))
    | .ok (service, session) =>
      if form.autoStart then
        match session.runner.start with
        | (runner, .ok _) => service.saveAndAnswer { session with runner }
        | (_, .error fault) => (service, .error (.failed fault))
      else service.saveAndAnswer session

def getSession (service : Service) (id : String) : Handled := do
  let session ← service.requireSession id
  unfailing (sessionAnswer session)

def listEvents (service : Service) (id : String) : Handled := do
  let session ← service.requireSession id
  unfailing (eventsAnswer session)

/-- Puts a session's runner in the place of what it was. -/
def withRunner (service : Service) (session : Session) (runner : Runner) : Service :=
  { service with sessions := service.sessions.save { session with runner } }

/-- How a session that takes no input is named. -/
def stateOf (session : Session) : String :=
  "Session " ++ session.id ++ " is " ++ session.runner.status.name

/-- Carries out an operation on a session.  Whatever comes of it, the session's runner is the one
that the operation leaves. -/
def operate (service : Service) (id : String)
    (operation : Session → Runner × Except Refusal Unit) : Service × Handled :=
  match service.requireSession id with
  | .error refusal => (service, .error refusal)
  | .ok session =>
    match operation session with
    | (runner, .ok ()) => service.saveAndAnswer { session with runner }
    | (runner, .error refusal) => (service.withRunner session runner, .error refusal)

def startSession (service : Service) (id : String) : Service × Handled :=
  service.operate id fun session =>
    match session.runner.start with
    | (runner, .ok true) => (runner, .ok ())
    | (runner, .ok false) =>
      (runner, .error (.conflict "invalid_state"
        (stateOf { session with runner } ++ ", reset it before starting again")))
    | (runner, .error fault) => (runner, .error (.failed fault))

def goBack (service : Service) (id : String) : Service × Handled :=
  service.operate id fun session =>
    match session.runner.goBack with
    | (runner, .ok (some _)) => (runner, .ok ())
    | (runner, .ok none) =>
      (runner, .error (.conflict "cannot_go_back"
        ("Session " ++ id ++ " has nothing to go back to")))
    | (runner, .error fault) => (runner, .error (.failed fault))

def resetSession (service : Service) (id : String) : Service × Handled :=
  service.operate id fun session => (session.runner.reset, .ok ())

/-- Gives a completion to a runner, through its renderer or directly. -/
def complete (runner : Runner) (form : CompletionForm) :
    Runner × Except Fault Runner.Submission :=
  if form.usesRenderer then runner.submit form.output (some form.data)
  else
    let (runner, reply) := runner.complete form.output (some form.data) none
    (runner, reply.map .verdict)

/-- What a session says to a completion that it was not refused before. -/
def completionRefusal (session : Session) (runner : Runner) : Runner.Submission → Refusal
  | .verdict .undeclared =>
    .conflict "invalid_output"
      ((runner.machine.lastRejection.map fun rejection => rejection.fault.message).getD "")
  | _ => .conflict "invalid_state" (stateOf { session with runner })

/-- Completes the current step of a session, unless the completion was meant for another stay. -/
def completeFor (form : CompletionForm) (session : Session) : Runner × Except Refusal Unit :=
  let current : Int := session.runner.machine.activation
  if form.activation.any fun activation => activation != current then
    (session.runner, .error (.conflict "stale_activation"
      ("Activation " ++ toString (form.activation.getD 0) ++ " has ended (current " ++
        toString current ++ ")")))
  else match complete session.runner form with
    | (runner, .ok submission) =>
      if submission.isAccepted then (runner, .ok ())
      else (runner, .error (completionRefusal session runner submission))
    | (runner, .error (.undeclared node output declared)) =>
      (runner, .error (.conflict "invalid_output" (Fault.undeclared node output declared).message))
    | (runner, .error fault) => (runner, .error (.failed fault))

/-- The form in the body of a request about a session that is there. -/
def completionPlan (service : Service) (request : Request) (id : String) :
    Except Refusal CompletionForm := do
  let body ← bodyOf request
  let _ ← service.requireSession id
  checked (do
    let record ← requiredRecord "model_attributes_type" body
    CompletionForm.ofRecord record)

def completeStep (service : Service) (request : Request) (id : String) : Service × Handled :=
  match service.completionPlan request id with
  | .error refusal => (service, .error refusal)
  | .ok form => service.operate id (completeFor form)

/-- Takes a session away; its runner is reset, so that nothing of it goes on. -/
def deleteSession (service : Service) (id : String) : Service × Handled :=
  match service.requireSession id with
  | .error refusal => (service, .error refusal)
  | .ok session =>
    let (sessions, _) := service.sessions.delete session.id
    ({ service with sessions },
      .ok (.record (Record.ofFields [
        ("success", .bool true), ("message", .text ("Session " ++ session.id ++ " deleted")),
        ("data", .null)])))

/-! ## About the service -/

def rootAnswer : Value :=
  .record (Record.ofFields [
    ("name", .text "Guest Workflow Runtime API"), ("version", .text version),
    ("status", .text "running"), ("docs", .text "/docs"),
    ("health", .text "/api/v1/monitoring/health")])

def health (service : Service) : Handled := do
  service.requireDefinitions
  .ok (.record (Record.ofFields [
    ("status", .text "healthy"), ("version", .text version), ("timestamp", timeMark),
    ("checks", .record (Record.ofFields [
      ("definitions_repository", .bool true), ("sessions_repository", .bool true)])),
    ("definitions", count service.definitions.size), ("sessions", count service.sessions.size)]))

/-! ## Paths and methods -/

/-- What can be done with a session by a path of its own. -/
inductive SessionAction where
  | start
  | complete
  | back
  | reset
  | events
  deriving DecidableEq, Repr

def SessionAction.ofName? (name : String) : Option SessionAction :=
  [("start", .start), ("complete", .complete), ("back", .back), ("reset", .reset),
    ("events", SessionAction.events)].lookup name

/-- What a path leads to. -/
inductive Resource where
  | root
  | health
  | definitions
  | definition (id : String)
  | sessions
  | session (id : String)
  | action (id : String) (action : SessionAction)
  deriving DecidableEq, Repr

def Resource.ofSegments? : List String → Option Resource
  | ["", ""] => some .root
  | ["", "api", "v1", "monitoring", "health"] => some .health
  | ["", "api", "v1", "definitions"] => some .definitions
  | ["", "api", "v1", "definitions", id] => if id = "" then none else some (.definition id)
  | ["", "api", "v1", "sessions"] => some .sessions
  | ["", "api", "v1", "sessions", id] => if id = "" then none else some (.session id)
  | ["", "api", "v1", "sessions", id, name] =>
    if id = "" then none else (SessionAction.ofName? name).map (.action id)
  | _ => none

/-- Whether a path that leads nowhere would lead somewhere without the strokes at its end. -/
def hasStrayEnd (segments : List String) : Bool :=
  (Resource.ofSegments? (segments.reverse.dropWhile (· = "")).reverse).isSome

/-- Carries out what a request asks of a resource, if it can be asked. -/
def respond (service : Service) (request : Request) (resource : Resource) : Service × Handled :=
  match resource, request.method with
  | .root, "GET" => (service, .ok rootAnswer)
  | .health, "GET" => (service, service.health)
  | .definitions, "GET" => (service, service.listDefinitions request)
  | .definitions, "POST" => service.registerDefinition request
  | .definition id, "GET" => (service, service.getDefinition id)
  | .definition "validate", "POST" => service.validateDefinition request
  | .sessions, "POST" => service.createSession request
  | .session id, "GET" => (service, service.getSession id)
  | .session id, "DELETE" => service.deleteSession id
  | .action id .start, "POST" => service.startSession id
  | .action id .complete, "POST" => service.completeStep request id
  | .action id .back, "POST" => service.goBack id
  | .action id .reset, "POST" => service.resetSession id
  | .action id .events, "GET" => (service, service.listEvents id)
  | _, _ => (service, .error .noSuchMethod)

/-- Whether a resource is made by a request that went well. -/
def isCreation (request : Request) (resource : Resource) : Bool :=
  request.method = "POST" && (resource = .definitions || resource = .sessions)

/-- Takes a request; `fresh` is the id it gets unless it brings one along. -/
def handle (service : Service) (request : Request) (fresh : String) : Service × Response :=
  let requestId := request.idOr fresh
  match Resource.ofSegments? request.segments with
  | none =>
    let refusal := if hasStrayEnd request.segments then Refusal.strayEnd else .noSuchPath
    (service, refusal.response requestId)
  | some resource =>
    match service.respond request resource with
    | (service, .ok body) =>
      (service, ⟨if isCreation request resource then 201 else 200, body, some requestId⟩)
    | (service, .error refusal) => (service, refusal.response requestId)

/-- Lets the renderers of all sessions do what they are ready to do. -/
def settle (service : Service) : Service :=
  { service with sessions := ⟨service.sessions.entries.map fun (id, session) =>
      (id, { session with runner := session.runner.drain })⟩ }

/-- Takes requests one after another. -/
def handleAll (service : Service) (fresh : String) : List Request → List Response
  | [] => []
  | request :: rest =>
    let (service, response) := service.handle request fresh
    response :: service.settle.handleAll fresh rest

end Service

end GuestFlow
