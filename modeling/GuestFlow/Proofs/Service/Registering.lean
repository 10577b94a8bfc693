import GuestFlow.Proofs.Service.Answering
import GuestFlow.Proofs.Service.Filing

/-!
# Trying out a registration

A document can be tried out before it is registered.  Both requests read it in the same way
and make sure that it makes a graph, so the one tells what the other will do with it
(`validation_predicts_storing`): what is called valid is stored, under its id, and what is
called invalid is refused for the same reasons.

The prediction is about what is stored, and not quite about the response.  A definition is
stored before the response is written, and one whose free parts are nested too deep cannot be
answered: it is called valid and stored, but the registration breaks down
(`Booth.deep_workflow_breaks_down`).

The texts of documents are of whole characters here.  Half of a surrogate pair, which an escape may
spell alone, is read as a replacement character (`Json.loneHalf`); a response that holds a lone half
could not be encoded either, and of this nothing is said.
-/

set_option autoImplicit false

namespace GuestFlow

namespace Service

/-- The request asks whether its document could be registered. -/
structure Request.IsValidation (request : Request) : Prop where
  posted : request.method = "POST"
  led : Resource.ofSegments? request.segments = some (.definition "validate")

/-- The request registers its document. -/
structure Request.IsRegistration (request : Request) : Prop where
  posted : request.method = "POST"
  led : Resource.ofSegments? request.segments = some .definitions

/-- The body of a request is a record. -/
def Request.Holds (request : Request) (document : Record) : Prop :=
  readBody request.body = .ok (some (.record document))

/-- What a response says in a field of its body. -/
def Response.field? (response : Response) (name : String) : Option Value :=
  Schema.fieldOf? name response.body

section Requests

variable {service : Service} {request : Request} {document : Record}

theorem Request.Holds.documentOf_eq (holds : request.Holds document) :
    documentOf request (.ok ()) = .ok document := by
  unfold documentOf bodyOf
  rw [holds]
  rfl

theorem Request.Holds.isJson (holds : request.Holds document) :
    (Value.record document).IsJson := by
  unfold Request.Holds readBody at holds
  split at holds
  · cases holds
  · dsimp only at holds
    split at holds
    · rename_i read
      cases holds
      exact Json.isJson_of_read read
    · cases holds
    · cases holds

theorem requireDefinitions_of_isStarted (started : service.isStarted = true) :
    service.requireDefinitions = .ok () := by
  unfold requireDefinitions require
  rw [if_pos started]

/-- What a document comes to. -/
def verdict (service : Service) (document : Record) : Except Fault Definition :=
  (service.readUsable document).2

/-- The response to the trial of a document that came to this. -/
def trialAnswer : Except Fault Definition → Handled
  | .ok definition => .ok (validationAnswer [] (some definition.id))
  | .error fault =>
    if fault.isDefinitionFault then .ok (validationAnswer fault.problems none)
    else .error (.failed fault)

theorem validateDefinition_eq (holds : request.Holds document) :
    service.validateDefinition request =
      ((service.readUsable document).1, trialAnswer (service.verdict document)) := by
  unfold validateDefinition verdict trialAnswer
  rw [holds.documentOf_eq]
  dsimp only
  split
  · rename_i read
    rw [read]
  · rename_i read
    rw [read]

theorem registerDefinition_eq (holds : request.Holds document)
    (started : service.isStarted = true) :
    service.registerDefinition request =
      match service.readUsable document with
      | (after, .error fault) => (after, .error (.failed fault))
      | (after, .ok definition) =>
        ({ after with definitions := after.definitions.save definition },
          unfailing (detail definition)) := by
  have available := requireDefinitions_of_isStarted started
  cases read : service.readUsable document with
  | mk after came =>
      cases came with
      | error fault => simp only [registerDefinition, available, holds.documentOf_eq, read]
      | ok definition => simp only [registerDefinition, available, holds.documentOf_eq, read]

theorem registerDefinition_of_verdict_ok (holds : request.Holds document)
    (started : service.isStarted = true) {definition : Definition}
    (usable : service.verdict document = .ok definition) :
    (service.registerDefinition request).1.definitions = service.definitions.save definition ∧
      (service.registerDefinition request).2 = unfailing (detail definition) := by
  rw [registerDefinition_eq holds started]
  split
  · rename_i read
    rw [verdict, read] at usable
    cases usable
  · rename_i read
    rw [verdict, read] at usable
    cases usable
    obtain ⟨supply, rfl⟩ := readUsable_eq read
    exact ⟨rfl, rfl⟩

theorem registerDefinition_of_verdict_error (holds : request.Holds document)
    (started : service.isStarted = true) {fault : Fault}
    (useless : service.verdict document = .error fault) :
    (service.registerDefinition request).1.definitions = service.definitions ∧
      (service.registerDefinition request).2 = .error (.failed fault) := by
  rw [registerDefinition_eq holds started]
  split
  · rename_i read
    rw [verdict, read] at useless
    cases useless
    obtain ⟨supply, rfl⟩ := readUsable_eq read
    exact ⟨rfl, rfl⟩
  · rename_i read
    rw [verdict, read] at useless
    cases useless

theorem handle_validation (validation : request.IsValidation) (holds : request.Holds document)
    (fresh : String) :
    service.handle request fresh = ((service.readUsable document).1,
      reply request (.definition "validate") (request.idOr fresh)
        (trialAnswer (service.verdict document))) := by
  have responded : service.respond request (.definition "validate") =
      service.validateDefinition request := by
    simp [respond, validation.posted]
  rw [handle_of_resource validation.led, responded, validateDefinition_eq holds]

theorem handle_registration (registration : request.IsRegistration) (fresh : String) :
    service.handle request fresh = ((service.registerDefinition request).1,
      reply request .definitions (request.idOr fresh) (service.registerDefinition request).2) := by
  have responded : service.respond request .definitions = service.registerDefinition request := by
    simp [respond, registration.posted]
  rw [handle_of_resource registration.led, responded]

/-- What a document comes to is a definition that was read from it and makes a graph. -/
theorem verdict_eq_ok {definition : Definition}
    (usable : service.verdict document = .ok definition) :
    (∃ later, Document.definition service.definitionIds (.record document) =
      .ok (definition, later)) ∧ ∃ graph, Graph.ofDefinition definition = .ok graph := by
  unfold verdict readUsable at usable
  split at usable
  · cases usable
  · rename_i read
    obtain ⟨graph, ruled, same⟩ := map_eq_ok_iff.mp usable
    cases same
    exact ⟨⟨_, read⟩, graph, ruled⟩

theorem readUsable_keeps (service : Service) (document : Record) :
    (service.readUsable document).1.definitions = service.definitions ∧
      (service.readUsable document).1.sessions = service.sessions := by
  unfold readUsable
  split
  · exact ⟨rfl, rfl⟩
  · exact ⟨rfl, rfl⟩

/-- A definition that came as JSON is answered as one that was made if it is shallow; otherwise the
registration breaks down. -/
theorem detail_status {definition : Definition}
    (hinges : HingesOn definition.IsShallow (detail definition))
    (registration : request.IsRegistration) (requestId : String) :
    (definition.IsShallow →
      (reply request .definitions requestId (unfailing (detail definition))).status = 201) ∧
    (¬definition.IsShallow →
      (reply request .definitions requestId (unfailing (detail definition))).status = 500) := by
  constructor
  · intro shallow
    obtain ⟨body, written⟩ := hinges.works shallow
    rw [written]
    simp [reply, unfailing, isCreation, registration.posted]
  · intro deep
    rw [hinges.fails deep]
    rfl

end Requests

/-- What a response says about the validity of a document. -/
def Response.SaysValid (response : Response) (flag : Bool) : Prop :=
  response.field? "valid" = some (.bool flag)

instance (response : Response) (flag : Bool) : Decidable (response.SaysValid flag) :=
  inferInstanceAs (Decidable (_ = _))

/-- What a response gives as the problems of a document. -/
def Response.Gives (response : Response) (problems : List String) : Prop :=
  response.field? "errors" = some (.list (problems.map .text))

/-- A trial of a document tells what its registration in the same service does. -/
structure Predicts (service : Service) (document : Record)
    (tried registered : Service × Response) : Prop where
  unchanged : tried.1.definitions = service.definitions ∧ tried.1.sessions = service.sessions
  /-- A registration is answered as one if the document is valid and nothing in it too deep. -/
  created_iff : registered.2.status = 201 ↔ tried.2.SaysValid true ∧
    ∀ definition, service.verdict document = .ok definition → definition.IsShallow
  refused_iff : registered.2.status = 422 ↔ tried.2.SaysValid false
  problems : tried.2.SaysValid false → ∃ problems : List String,
    tried.2.Gives problems ∧ registered.2.Gives problems
  /-- Nothing is stored if the document is not valid, whatever the reason. -/
  unstored : ¬tried.2.SaysValid true → registered.1.definitions = service.definitions
  stored : tried.2.SaysValid true → ∃ definition, service.verdict document = .ok definition ∧
    registered.1.definitions.get? definition.id = some definition ∧
    (∀ id ≠ definition.id, registered.1.definitions.get? id = service.definitions.get? id) ∧
    registered.1.definitions.erase definition.id = service.definitions.erase definition.id
  /-- What is stored is answered, or the registration breaks down over it. -/
  answered : tried.2.SaysValid true → registered.2.status = 201 ∨ registered.2.status = 500
  /-- Other failures are the same for both. -/
  failed : ¬tried.2.SaysValid true → ¬tried.2.SaysValid false →
    tried.2.status = 500 ∧ registered.2.status = 500

section Predictions

variable {service : Service} {document : Record} {tried registered : Service × Response}

theorem saysValid_iff {response : Response} {problems : List String} {id : Option String}
    (body : response.body = validationAnswer problems id) {flag : Bool} :
    response.SaysValid flag ↔ id.isSome = flag := by
  unfold Response.SaysValid Response.field?
  rw [body]
  exact ⟨fun said => by cases said; rfl, fun same => by cases same; rfl⟩

theorem predicts_of_ok {definition : Definition}
    (usable : service.verdict document = .ok definition)
    (unchanged : tried.1.definitions = service.definitions ∧ tried.1.sessions = service.sessions)
    (answer : tried.2.body = validationAnswer [] (some definition.id))
    (saved : registered.1.definitions = service.definitions.save definition)
    (shallow : definition.IsShallow → registered.2.status = 201)
    (deep : ¬definition.IsShallow → registered.2.status = 500) :
    service.Predicts document tried registered := by
  have valid : tried.2.SaysValid true := (saysValid_iff answer).mpr rfl
  have notInvalid : ¬tried.2.SaysValid false := fun invalid =>
    Bool.noConfusion ((saysValid_iff answer).mp invalid)
  have answered : registered.2.status = 201 ∨ registered.2.status = 500 :=
    (Classical.em definition.IsShallow).imp shallow deep
  have created : registered.2.status = 201 ↔ definition.IsShallow := by
    refine ⟨fun made => ?_, shallow⟩
    by_contra isDeep
    rw [deep isDeep] at made
    cases made
  have same {other : Definition} (came : service.verdict document = .ok other) :
      other = definition := Except.ok.inj (came.symm.trans usable)
  exact {
    unchanged
    created_iff := by
      rw [created]
      exact ⟨fun isShallow => ⟨valid, fun other came => same came ▸ isShallow⟩,
        fun ⟨_, each⟩ => each definition usable⟩
    refused_iff := by
      refine iff_of_false (fun refused => ?_) notInvalid
      rcases answered with made | broken
      · rw [made] at refused
        cases refused
      · rw [broken] at refused
        cases refused
    problems := fun invalid => absurd invalid notInvalid
    unstored := fun notValid => absurd valid notValid
    stored := by
      refine fun _ => ⟨definition, usable, ?_⟩
      rw [saved]
      exact ⟨Shelf.get?_put_self _ _ _, fun id differs => Shelf.get?_put_of_ne differs _ _,
        Shelf.erase_put _ _ _⟩
    answered := fun _ => answered
    failed := fun notValid => absurd valid notValid }

/-- A fault of the definition is told by both answers. -/
theorem predicts_of_definitionFault {fault : Fault}
    (unchanged : tried.1.definitions = service.definitions ∧ tried.1.sessions = service.sessions)
    (body : tried.2.body = validationAnswer fault.problems none)
    (kept : registered.1.definitions = service.definitions) {id : Option String}
    (refused : registered.2 = ⟨422, invalidDefinition fault, id⟩) :
    service.Predicts document tried registered := by
  have invalid : tried.2.SaysValid false := (saysValid_iff body).mpr rfl
  have notValid : ¬tried.2.SaysValid true := fun valid =>
    Bool.noConfusion ((saysValid_iff body).mp valid)
  exact {
    unchanged
    created_iff := iff_of_false (by simp [refused]) fun ⟨valid, _⟩ => notValid valid
    refused_iff := iff_of_true (by rw [refused]) invalid
    problems := by
      refine fun _ => ⟨fault.problems, ?_, ?_⟩
      · unfold Response.Gives Response.field?
        rw [body]
        rfl
      · rw [refused]
        rfl
    unstored := fun _ => kept
    stored := fun valid => absurd valid notValid
    answered := fun valid => absurd valid notValid
    failed := fun _ notInvalid => absurd invalid notInvalid }

/-- Where both requests break down, neither answer says whether the document is valid. -/
theorem predicts_of_breakdown
    (unchanged : tried.1.definitions = service.definitions ∧ tried.1.sessions = service.sessions)
    {requestId other : String} (broken : tried.2 = ⟨500, breakdown requestId, none⟩)
    (kept : registered.1.definitions = service.definitions)
    (failed : registered.2 = ⟨500, breakdown other, none⟩) :
    service.Predicts document tried registered := by
  have silent (flag : Bool) : ¬tried.2.SaysValid flag := by
    unfold Response.SaysValid Response.field?
    rw [broken]
    exact nofun
  exact {
    unchanged
    created_iff := iff_of_false (by simp [failed]) fun ⟨valid, _⟩ => silent true valid
    refused_iff := iff_of_false (by simp [failed]) (silent false)
    problems := fun invalid => absurd invalid (silent false)
    unstored := fun _ => kept
    stored := fun valid => absurd valid (silent true)
    answered := fun valid => absurd valid (silent true)
    failed := fun _ _ => ⟨by rw [broken], by rw [failed]⟩ }

theorem predicts_of_error {fault : Fault}
    (unchanged : tried.1.definitions = service.definitions ∧ tried.1.sessions = service.sessions)
    {requestId other : String} {resource : Resource} {trial : Request}
    (answer : tried.2 = reply trial resource requestId (trialAnswer (.error fault)))
    (kept : registered.1.definitions = service.definitions)
    (refusal : registered.2 = (Refusal.failed fault).response other) :
    service.Predicts document tried registered := by
  by_cases own : fault.isDefinitionFault = true
  · have body : tried.2.body = validationAnswer fault.problems none := by
      rw [answer, trialAnswer, if_pos own]
      rfl
    exact predicts_of_definitionFault unchanged body kept (refusal.trans (if_pos own))
  · have broken : tried.2 = ⟨500, breakdown requestId, none⟩ := by
      rw [answer, trialAnswer, if_neg own, reply, Refusal.response, if_neg own]
    exact predicts_of_breakdown unchanged broken kept (refusal.trans (if_neg own))

end Predictions

theorem readBody_of_readCharacters {first : Char} {rest : List Char} (ordinary : first ≠ '\ufeff')
    {value : Value} (read : Json.readCharacters (first :: rest) = .ok value) :
    readBody (String.ofList (first :: rest)) = .ok (some value) := by
  have same : bodyText (String.ofList (first :: rest)) = String.ofList (first :: rest) := by
    unfold bodyText
    split
    · rename_i marked
      rw [String.toList_ofList, List.cons.injEq] at marked
      exact absurd marked.1 ordinary
    · rfl
  have read : Json.read (String.ofList (first :: rest)) = .ok value := by
    unfold Json.read
    rw [String.toList_ofList]
    split
    · rename_i marked
      exact absurd (List.cons.inj marked).1 ordinary
    · exact read
  unfold readBody
  rw [if_neg (by simp), same]
  dsimp only
  rw [read]

end Service

/-- **A trial predicts what a registration stores.**  It calls a document valid exactly when the
registration stores the definition that is read from it, and nothing else; it calls it invalid
exactly when the registration is refused, and for the same reasons.  Only that a definition is
nested too deep to be answered it does not foretell.  Texts are of whole characters, without lone
halves of surrogate pairs. -/
theorem validation_predicts_storing {service : Service} (started : service.isStarted = true)
    {trial registering : Service.Request} (validation : trial.IsValidation)
    (registration : registering.IsRegistration) {document : Record}
    (holds : trial.Holds document) (holdsToo : registering.Holds document) (fresh other : String) :
    service.Predicts document (service.handle trial fresh) (service.handle registering other) := by
  have unchanged := service.readUsable_keeps document
  rw [Service.handle_validation validation holds, Service.handle_registration registration]
  cases came : service.verdict document with
  | ok definition =>
      obtain ⟨⟨later, read⟩, graph, ruled⟩ := Service.verdict_eq_ok came
      have hinges := Service.detail_hinges (Document.isJson_of_definition holds.isJson read) ruled
      obtain ⟨shallow, deep⟩ :=
        Service.detail_status hinges registration (registering.idOr other)
      obtain ⟨saved, answered⟩ :=
        Service.registerDefinition_of_verdict_ok holdsToo started came
      rw [answered]
      exact Service.predicts_of_ok came unchanged rfl saved shallow deep
  | error fault =>
      obtain ⟨kept, refused⟩ :=
        Service.registerDefinition_of_verdict_error holdsToo started came
      rw [refused]
      exact Service.predicts_of_error unchanged rfl kept rfl

namespace Booth

/-- Lists inside one another. -/
def nested : Nat → Value
  | 0 => .list []
  | deeper + 1 => .list [nested deeper]

/-- A workflow of one step that has lists in its configuration. -/
def framed (deeper : Nat) : Record :=
  Record.ofFields [("id", .text "booth"), ("name", .text "Photo booth"),
    ("steps", .record (Record.ofFields [("nodes", .list [
      .record (Record.ofFields [("id", .text "touch"), ("type", .text Kind.touchToStart),
        ("config", .record (Record.ofFields [("frames", nested deeper)]))])])]))]

/-- The text of the workflow after its first brace. -/
def framedText (deeper : Nat) : List Char :=
  "\"id\":\"booth\",\"name\":\"Photo booth\",\"steps\":\x7b\"nodes\":[\x7b\"id\":\"touch\",".toList ++
    "\"type\":\"TOUCH_TO_START\",\"config\":\x7b\"frames\":".toList ++
    List.replicate (deeper + 1) '[' ++ List.replicate (deeper + 1) ']' ++
    "\x7d\x7d]\x7d\x7d".toList

/-- A request with the workflow. -/
def framing (target : String) (deeper : Nat) : Service.Request :=
  posting target (String.ofList ('\x7b' :: framedText deeper))

/-- Trying out the workflow. -/
def trying : Nat → Service.Request := framing "/api/v1/definitions/validate"

/-- Registering the workflow. -/
def sending : Nat → Service.Request := framing "/api/v1/definitions"

/-- A path is read without a look at the body. -/
theorem posting_segments (target body : String) :
    (posting target body).segments = (posting target "").segments := rfl

theorem trying_isValidation (deeper : Nat) : (trying deeper).IsValidation where
  posted := rfl
  led := by
    rw [trying, framing, posting_segments]
    decide +kernel

theorem sending_isRegistration (deeper : Nat) : (sending deeper).IsRegistration where
  posted := rfl
  led := by
    rw [sending, framing, posting_segments]
    decide +kernel

theorem isStarted_started : started.isStarted = true := rfl

/-- What is read from the text of the workflow. -/
def framedDefinition (deeper : Nat) : Definition where
  id := "booth"
  name := "Photo booth"
  description := none
  nodes := [⟨"touch", Kind.touchToStart, "", Record.ofFields [("frames", nested deeper)], [], false,
    []⟩]
  version := "1.0.0"
  flowType := none
  metadata := []

section Framed

variable {deeper : Nat}
  (read : Json.readCharacters ('\x7b' :: framedText deeper) = .ok (.record (framed deeper)))
include read

theorem trying_holds : (trying deeper).Holds (framed deeper) :=
  Service.readBody_of_readCharacters (by decide) read

theorem sending_holds : (sending deeper).Holds (framed deeper) :=
  Service.readBody_of_readCharacters (by decide) read

variable (usable : started.verdict (framed deeper) = .ok (framedDefinition deeper))
include usable

/-- However deep the lists are, the workflow is found valid. -/
theorem trying_saysValid : (started.handle (trying deeper) "1").2.SaysValid true := by
  rw [Service.handle_validation (trying_isValidation deeper) (trying_holds read), usable]
  rfl

theorem handle_sending :
    (started.handle (sending deeper) "2").1.definitions.ids = ["booth"] ∧
      (started.handle (sending deeper) "2").2 =
        Service.reply (sending deeper) .definitions ((sending deeper).idOr "2")
          (Service.unfailing (Service.detail (framedDefinition deeper))) := by
  obtain ⟨saved, answered⟩ :=
    Service.registerDefinition_of_verdict_ok (sending_holds read) isStarted_started usable
  rw [Service.handle_registration (sending_isRegistration deeper), answered]
  refine ⟨?_, rfl⟩
  dsimp only
  rw [saved]
  rfl

end Framed

/-- With one list inside another, the workflow is found valid and then registered. -/
theorem shallow_workflow_is_registered :
    let tried := started.handle (trying 1) "1"
    let registered := started.handle (sending 1) "2"
    tried.2.SaysValid true ∧ registered.2.status = 201 ∧
      registered.1.definitions.ids = ["booth"] ∧
      started.Predicts (framed 1) tried registered := by
  have read : Json.readCharacters ('\x7b' :: framedText 1) = .ok (.record (framed 1)) := by
    decide +kernel
  have usable : started.verdict (framed 1) = .ok (framedDefinition 1) := by decide +kernel
  have predicts := validation_predicts_storing isStarted_started (trying_isValidation 1)
    (sending_isRegistration 1) (trying_holds read) (sending_holds read) "1" "2"
  obtain ⟨stored, answered⟩ := handle_sending read usable
  refine ⟨trying_saysValid read usable, ?_, stored, predicts⟩
  rw [answered]
  decide +kernel

/-- With 300 lists inside one another, the workflow is found valid and stored, but its registration
breaks down. -/
theorem deep_workflow_breaks_down :
    let tried := started.handle (trying 299) "1"
    let registered := started.handle (sending 299) "2"
    tried.2.SaysValid true ∧ registered.2.status = 500 ∧
      started.definitions.ids = [] ∧ registered.1.definitions.ids = ["booth"] := by
  have read : Json.readCharacters ('\x7b' :: framedText 299) = .ok (.record (framed 299)) := by
    decide +kernel
  have usable : started.verdict (framed 299) = .ok (framedDefinition 299) := by decide +kernel
  obtain ⟨stored, answered⟩ := handle_sending read usable
  refine ⟨trying_saysValid read usable, ?_, rfl, stored⟩
  rw [answered]
  decide +kernel

end Booth

end GuestFlow
