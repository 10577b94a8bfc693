import GuestFlow.Proofs.Runner.Laid
import GuestFlow.Proofs.Runner.Stalling
import GuestFlow.Proofs.Service.Hosting
import GuestFlow.Proofs.Value.Failure

/-!
# How completions are answered

A completion that a session does not take is a conflict.  There are three reasons for one: it
was meant for another stay, the session is not running, or the step does not declare the
output (`Service.objection?`).  The reason is a matter of where the session stands and of what
is asked of it.  Whether the session is strict, whether its renderer is asked, and what it
rejected before does not matter.  The first two decide by which way a rejection is reported; and
since only an undeclared output leaves a new rejection, it is the verdict that tells of one, and
no earlier rejection is looked at.

A completion without objection is applied once, and what it is answered with depends on how
the session settles afterwards (`completions_are_classified`).

The texts in requests and answers are of whole characters.  Half of a surrogate pair, which an
escape may spell alone, is read as a replacement character (`Json.loneHalf`); how an answer with a
lone half would fail to be encoded is not described.
-/

set_option autoImplicit false

namespace GuestFlow

/-! ## At the machine -/

namespace Machine

/-- A machine does not stall because a node does not declare an output. -/
theorem Stalls.isRejection_eq {machine : Machine} {fault : Fault} (stalls : machine.Stalls fault) :
    fault.isRejection = false := by
  cases stalls with
  | @undecidable node _ _ fails =>
      exact (Condition.evaluate_neverRejects node machine.run.data).map fault fails
  | textless _ _ _ _ fails => exact Json.write_neverRejects .sortedLine _ fault fails

/-- What is added to the history by completing conditions was completed automatically. -/
theorem AutoAdvances.history_eq {machine after : Machine} {count : Nat}
    (advances : machine.AutoAdvances count after) :
    ∃ conditions : List HistoryEntry, (∀ entry ∈ conditions, entry.isAutomatic = true) ∧
      after.run.history = conditions ++ machine.run.history := by
  induction advances with
  | rest => exact ⟨[], by simp, rfl⟩
  | @advance machine middle after node decision count decides onward ih =>
      obtain ⟨conditions, automatic, behind⟩ := ih
      refine ⟨conditions ++
        [⟨node.id, decision.name, Touched.of machine.run.data (decisionData node decision), true⟩],
        ?_, ?_⟩
      · exact List.forall_mem_append.mpr ⟨automatic, by simp⟩
      · rw [behind, decides.history_eq]
        simp

end Machine

/-! ## At the runner -/

namespace Runner

/-- The node was left once by a person, through the output; all else that was completed since were
conditions. -/
def LeavesOnce (runner : Runner) (node : Node) (output : String) (after : Runner) : Prop :=
  ∃ (conditions : List HistoryEntry) (touched : Touched),
    (∀ entry ∈ conditions, entry.isAutomatic = true) ∧
    after.machine.run.history =
      conditions ++ ⟨node.id, output, touched, false⟩ :: runner.machine.run.history

/-- What becomes of a completion that is meant for the current stay, and how it is replied to. -/
inductive Receives (runner : Runner) (output : String) (additions : Record) :
    Runner → Except Fault Verdict → Prop where
  | ignored {after : Runner} (away : runner.machine.run.status ≠ .running)
      (same : after.machine = runner.machine) :
      Receives runner output additions after (.ok .ignored)
  | rejected {after : Runner} {node : Node} {reply : Except Fault Verdict}
      (stands : runner.machine.StandsAt node) (refused : node.allows output = false)
      (noted : after.machine =
        { runner.machine with lastRejection := some ⟨node.id, output, node.outputIds⟩ })
      (told : reply = .ok .undeclared ∨
        reply = .error (.undeclared node.id output node.outputIds)) :
      Receives runner output additions after reply
  | settled {after : Runner} {node : Node} (stands : runner.machine.StandsAt node)
      (allowed : node.allows output = true) (once : runner.LeavesOnce node output after)
      (settles : runner.SettlesAfter
        [.complete output additions (some (runner.machine.activation : Int)) false] after) :
      Receives runner output additions after (.ok .accepted)
  | stalled {after : Runner} {node : Node} {fault : Fault} (stands : runner.machine.StandsAt node)
      (allowed : node.allows output = true) (once : runner.LeavesOnce node output after)
      (noRejection : fault.isRejection = false)
      (stalls : runner.StallsAfter
        [.complete output additions (some (runner.machine.activation : Int)) false] after fault) :
      Receives runner output additions after (.error fault)

variable {graph : Graph} {runner : Runner}

/-- A steady runner stands at a node while it runs. -/
theorem IsSteady.standsAt (steady : runner.IsSteady graph)
    (running : runner.machine.run.status = .running) : ∃ node, runner.machine.StandsAt node := by
  cases steady.course with
  | idle idle => simp [idle] at running
  | outside completed => simp [completed] at running
  | @inside node _ here found => exact ⟨node, running, here, steady.graph_eq ▸ found⟩

/-- A completion that is taken adds one entry to the history, and conditions are completed upon
it. -/
theorem leavesOnce_of_advances {node : Node} {output : String} {additions : Record} {count : Nat}
    {after : Runner} (sound : runner.machine.graph.IsSound) (stands : runner.machine.StandsAt node)
    (allowed : node.allows output = true)
    (advances : (runner.machine.play
      [.complete output additions (some (runner.machine.activation : Int)) false]).AutoAdvances
        count after.machine) : runner.LeavesOnce node output after := by
  have timely : runner.machine.isStale (some (runner.machine.activation : Int)) = false := by
    simp [Machine.isStale]
  obtain ⟨passed, _, _⟩ := stands.leave sound ⟨output, additions, false⟩
  dsimp only at passed
  obtain ⟨conditions, automatic, behind⟩ := advances.history_eq
  have own : (runner.machine.play
      [.complete output additions (some (runner.machine.activation : Int)) false]).run =
        runner.machine.run.pass runner.machine.graph node ⟨output, additions, false⟩ := by
    rw [← passed, ← stands.complete_eq_leave timely allowed]
    rfl
  rw [own, Run.history_pass] at behind
  exact ⟨conditions, _, automatic, behind⟩

/-- Looking a renderer up has no part in what becomes of a completion. -/
theorem Receives.of_resolve {kind output : String} {additions : Record} {after : Runner}
    {reply : Except Fault Verdict}
    (receives : (runner.resolve kind).1.Receives output additions after reply) :
    runner.Receives output additions after reply := by
  cases receives with
  | ignored away same => exact .ignored away same
  | rejected stands refused noted told => exact .rejected stands refused noted told
  | settled stands allowed once settles => exact .settled stands allowed once settles
  | stalled stands allowed once noRejection stalls =>
      exact .stalled stands allowed once noRejection stalls

/-- **A completion for the current stay is ignored, rejected or taken.** -/
theorem IsSteady.completeFor_receives (steady : runner.IsSteady graph) (sound : graph.IsSound)
    (output : String) (data : Option Record) :
    runner.Receives output (data.getD [])
      (runner.completeFor runner.machine.activation output data).1
      (runner.completeFor runner.machine.activation output data).2 := by
  let call : Call := .complete output (data.getD []) (some (runner.machine.activation : Int)) false
  have timely : runner.machine.isStale (some (runner.machine.activation : Int)) = false := by
    simp [Machine.isStale]
  have replied : (runner.engine.complete output (data.getD [])
      (some (runner.machine.activation : Int)) false).reply =
        (runner.machine.complete output (data.getD [])
          (some (runner.machine.activation : Int)) false).reply :=
    Engine.complete_reply steady.rest ..
  have moved : (runner.absorb (runner.engine.perform call)).machine =
      (runner.machine.complete output (data.getD [])
        (some (runner.machine.activation : Int)) false).machine :=
    Engine.perform_machine steady.rest call
  rcases came : runner.completeFor runner.machine.activation output data with ⟨after, reply⟩
  have undertakes := undertakes_of_completeFor came
  by_cases running : runner.machine.run.status = .running
  · obtain ⟨node, stands⟩ := steady.standsAt running
    cases allowed : node.allows output with
    | false =>
        have rejects := stands.complete_eq_reject timely allowed (data.getD []) false
        rw [rejects] at replied
        rw [rejects, Machine.reject_machine] at moved
        rcases Machine.reject_reply runner.machine node output with plain | strict
        · obtain ⟨rfl, rfl⟩ := undertakes.of_without (replied.trans plain) (by simp)
          exact .rejected stands allowed moved (.inl rfl)
        · obtain ⟨rfl, rfl⟩ := undertakes.of_without (replied.trans strict) (by simp)
          exact .rejected stands allowed moved (.inr rfl)
    | true =>
        have soundHere : runner.machine.graph.IsSound := steady.graph_eq ▸ sound
        obtain ⟨_, _, accepted⟩ := stands.leave soundHere ⟨output, data.getD [], false⟩
        dsimp only at accepted
        rw [← stands.complete_eq_leave timely allowed] at accepted
        have took := replied.trans accepted
        have settled := undertakes.of_took took
        cases reply with
        | ok verdict =>
            obtain ⟨rfl, _⟩ := settleAfter_eq_ok settled
            obtain ⟨count, within, advances, rests⟩ := steady.completeFor_settles sound came
            exact .settled stands allowed (leavesOnce_of_advances soundHere stands allowed advances)
              ⟨count, within, advances, rests⟩
        | error fault =>
            have step := steady.step call (congrArg (Except.map Reply.verdict) took)
            obtain ⟨onward, count, within, advances, stalls⟩ :=
              steady.stallsAfter sound step.of_accepted.2 settled
            exact .stalled stands allowed
              (leavesOnce_of_advances soundHere stands allowed advances) stalls.isRejection_eq
              ⟨onward, count, within, advances, stalls⟩
  · obtain ⟨told, same⟩ := Machine.complete_of_not_running running output (data.getD [])
      (some (runner.machine.activation : Int)) false
    obtain ⟨rfl, rfl⟩ := undertakes.of_without (replied.trans told) (by simp)
    exact .ignored running (moved.trans same)

end Runner

/-! ## At the service -/

open Service (CompletionForm Refusal)

/-- What a completion adds to the data when it leaves a node: what was given, or what the renderer
of the node makes of it. -/
def Service.CompletionForm.additions (form : CompletionForm) (node : Node) : Record :=
  if form.usesRenderer then
    (((Registry.usual.resolve node.kind).2.2.1.input node form.output (some form.data)).bind
      Prod.snd).getD []
  else form.data

/-- The call of its engine that a session makes for a completion at a node. -/
def Session.callFor (session : Session) (form : CompletionForm) (node : Node) : Call :=
  .complete form.output (form.additions node) (some (session.runner.machine.activation : Int)) false

/-- Why a session refuses a completion, if it does: because of where it stands, and of the output
and the stay that the completion is meant for. -/
def Service.objection? (id : String) (graph : Graph) (run : Run) (activation : Nat)
    (output : String) (meant : Option Int) : Option Refusal :=
  if meant.any fun token => token != (activation : Int) then
    some (.conflict "stale_activation"
      ("Activation " ++ toString (meant.getD 0) ++ " has ended (current " ++
        toString (activation : Int) ++ ")"))
  else if run.status ≠ .running then
    some (.conflict "invalid_state" ("Session " ++ id ++ " is " ++ run.status.name))
  else
    match run.current.bind graph.node? with
    | some node =>
      if node.allows output then none
      else some (.conflict "invalid_output"
        (Fault.undeclared node.id output node.outputIds).message)
    | none => none

/-- The objection that a session has to a completion. -/
def Session.objection? (session : Session) (form : CompletionForm) : Option Refusal :=
  let machine := session.runner.machine
  Service.objection? session.id machine.graph machine.run machine.activation form.output
    form.activation

namespace Service

/-- The renderers that a service uses. -/
def renderers : List Renderer :=
  [⟨.generic, none⟩, ⟨.trigger, none⟩, ⟨.condition, none⟩, ⟨.delay, none⟩]

theorem mem_renderers (kind : String) : (Registry.usual.resolve kind).2.2.1 ∈ renderers := by
  have each : ∀ entry ∈ Registry.usual.renderers, entry.2 ∈ renderers := by decide
  rw [Registry.renderer_resolve]
  cases found : Registry.usual.renderers.lookup kind with
  | none => exact List.mem_cons_self ..
  | some renderer =>
      obtain ⟨before, after, split, _⟩ := List.lookup_eq_some_iff.mp found
      exact each (kind, renderer) (by simp [split])

/-- These renderers take every input and pass the output on. -/
theorem input_usual (kind : String) (node : Node) (output : String) (data : Record) :
    ∃ additions, (Registry.usual.resolve kind).2.2.1.input node output (some data) =
      some (output, some additions) := by
  have usual := mem_renderers kind
  generalize (Registry.usual.resolve kind).2.2.1 = renderer at usual ⊢
  simp only [renderers, List.mem_cons, List.not_mem_nil, or_false] at usual
  rcases usual with rfl | rfl | rfl | rfl
  · exact ⟨_, rfl⟩
  · exact ⟨_, rfl⟩
  · exact ⟨_, rfl⟩
  · exact ⟨_, rfl⟩

/-- While the runner of a session does not run, a completion comes to nothing. -/
theorem complete_of_not_running {runner : Runner} (hosted : runner.IsHosted)
    (away : runner.machine.run.status ≠ .running) (form : CompletionForm) :
    (complete runner form).1.machine = runner.machine ∧
      ((complete runner form).2 = .ok .noStep ∨
        (complete runner form).2 = .ok (.verdict .ignored)) := by
  unfold complete
  split
  · have nothing : runner.props? = none := by
      unfold Runner.props?
      split
      · rename_i running
        exact absurd running away
      · rfl
    unfold Runner.submit
    rw [nothing]
    exact ⟨rfl, .inl rfl⟩
  · obtain ⟨sound, steady⟩ := hosted.isSteady
    have receives := steady.completeFor_receives sound form.output (some form.data)
    unfold Runner.complete
    rw [Option.getD_none]
    generalize runner.completeFor runner.machine.activation form.output (some form.data) = done
      at receives ⊢
    obtain ⟨after, reply⟩ := done
    cases receives with
    | ignored _ same => exact ⟨same, .inr rfl⟩
    | rejected stands | settled stands | stalled stands => exact absurd stands.running away

/-- While the runner of a session stands at a node, a completion goes the same way with the renderer
and without it. -/
theorem complete_of_standsAt {runner : Runner} (hosted : runner.IsHosted) {node : Node}
    (stands : runner.machine.StandsAt node) (form : CompletionForm) :
    ∃ reply, (complete runner form).2 = reply.map .verdict ∧
      runner.Receives form.output (form.additions node) (complete runner form).1 reply := by
  obtain ⟨sound, steady⟩ := hosted.isSteady
  unfold complete CompletionForm.additions
  split
  · rename_i rendered
    have given : runner.props? =
        some ⟨node, runner.machine.run.data, runner.eventId, runner.machine.activation⟩ := by
      simp [Runner.props?, stands.currentNode_eq, Runner.status, stands.running]
    have found : (runner.resolve node.kind).2 = (Registry.usual.resolve node.kind).2.2.1 :=
      Registry.renderer_resolve_congr hosted.registry_eq node.kind
    obtain ⟨additions, input⟩ := input_usual node.kind node form.output form.data
    have receives := (steady.resolve node.kind).completeFor_receives sound form.output
      (some additions)
    unfold Runner.submit
    rw [given]
    dsimp only
    rw [found, input]
    exact ⟨_, rfl, receives.of_resolve⟩
  · exact ⟨_, rfl, steady.completeFor_receives sound form.output (some form.data)⟩

/-- What becomes of a completion that is asked of a session, and the result. -/
inductive Completes (form : CompletionForm) (session : Session) :
    Runner → Except Refusal Unit → Prop where
  | refused {after : Runner} {refusal : Refusal}
      (objects : session.objection? form = some refusal)
      (still : ∃ rejection, after.machine =
        { session.runner.machine with lastRejection := rejection }) :
      Completes form session after (.error refusal)
  | settled {after : Runner} {node : Node} (agrees : session.objection? form = none)
      (stands : session.runner.machine.StandsAt node)
      (once : session.runner.LeavesOnce node form.output after)
      (settles : session.runner.SettlesAfter [session.callFor form node] after) :
      Completes form session after (.ok ())
  | stalled {after : Runner} {node : Node} {fault : Fault}
      (agrees : session.objection? form = none)
      (stands : session.runner.machine.StandsAt node)
      (once : session.runner.LeavesOnce node form.output after)
      (stalls : session.runner.StallsAfter [session.callFor form node] after fault) :
      Completes form session after (.error (.failed fault))

/-- **A session refuses a completion for the reason that objects to it, and takes it otherwise.** -/
theorem completeFor_completes (form : CompletionForm) {session : Session}
    (hosted : session.runner.IsHosted) :
    Completes form session (completeFor form session).1 (completeFor form session).2 := by
  unfold completeFor
  dsimp only
  split
  · rename_i late
    refine .refused ?_ ⟨session.runner.machine.lastRejection, rfl⟩
    exact if_pos late
  · rename_i timely
    have further : session.objection? form = _ := if_neg timely
    by_cases running : session.runner.machine.run.status = .running
    · obtain ⟨node, stands⟩ := hosted.isSteady.2.standsAt running
      have here : session.runner.machine.run.current.bind session.runner.machine.graph.node? =
          some node := stands.currentNode_eq
      rw [if_neg (not_not_intro running), here] at further
      dsimp only at further
      obtain ⟨reply, replied, receives⟩ := complete_of_standsAt hosted stands form
      generalize complete session.runner form = done at replied receives ⊢
      obtain ⟨after, told⟩ := done
      dsimp only at replied receives
      subst replied
      cases receives with
      | ignored away => exact absurd running away
      | rejected stood refused noted told =>
          obtain rfl := stands.unique stood
          rw [if_neg (by simp [refused])] at further
          rcases told with rfl | rfl
          · refine .refused (further.trans ?_) ⟨_, noted⟩
            dsimp only [completionRefusal]
            rw [noted]
            rfl
          · exact .refused further ⟨_, noted⟩
      | settled stood allowed once settles =>
          obtain rfl := stands.unique stood
          rw [if_pos allowed] at further
          exact .settled further stands once settles
      | @stalled _ fault stood allowed once noRejection stalls =>
          obtain rfl := stands.unique stood
          rw [if_pos allowed] at further
          cases fault with
          | undeclared => cases noRejection
          | _ => exact .stalled further stands once stalls
    · rw [if_pos running] at further
      obtain ⟨same, told⟩ := complete_of_not_running hosted running form
      generalize complete session.runner form = done at same told ⊢
      obtain ⟨after, reply⟩ := done
      have status_eq : after.status = session.runner.machine.run.status :=
        congrArg (fun machine => machine.run.status) same
      rcases told with rfl | rfl
      · refine .refused (further.trans ?_) ⟨_, same⟩
        simp [completionRefusal, stateOf, status_eq]
      · refine .refused (further.trans ?_) ⟨_, same⟩
        simp [completionRefusal, stateOf, status_eq]

/-! ## Responses -/

section Responses

variable {service : Service} {request : Request} {id requestId : String} {session : Session}
  {form : CompletionForm}

/-- All objections are answered as conflicts. -/
theorem status_of_objection {refusal : Refusal} (objects : session.objection? form = some refusal) :
    (refusal.response requestId).status = 409 := by
  unfold Session.objection? objection? at objects
  dsimp only at objects
  split at objects
  · cases objects
    rfl
  · split at objects
    · cases objects
      rfl
    · split at objects
      · split at objects
        · cases objects
        · cases objects
          rfl
      · cases objects

/-- A failure is not answered as a conflict. -/
theorem status_of_failed (fault : Fault) :
    ((Refusal.failed fault).response requestId).status ≠ 409 := by
  unfold Refusal.response
  dsimp only
  split
  · simp
  · simp

/-- What was done to a session is answered with its state, if that can be answered. -/
theorem reply_unfailing (request : Request) (id requestId : String) (answer : Except Fault Value) :
    let response := reply request (.action id .complete) requestId (unfailing answer)
    response.status ≠ 409 ∧
      (∀ body, answer = .ok body → response = ⟨200, body, some requestId⟩) ∧
      ∀ fault, answer = .error fault → response = (Refusal.failed fault).response requestId := by
  cases answer with
  | ok body =>
      have answered : reply request (.action id .complete) requestId (unfailing (.ok body)) =
          ⟨200, body, some requestId⟩ := by simp [reply, unfailing, isCreation]
      dsimp only
      rw [answered]
      refine ⟨by simp, ?_, nofun⟩
      rintro _ ⟨⟩
      rfl
  | error fault =>
      refine ⟨status_of_failed fault, nofun, ?_⟩
      rintro _ ⟨⟩
      rfl

theorem respond_complete (posted : request.method = "POST") (id : String) :
    service.respond request (.action id .complete) = service.completeStep request id := by
  simp [respond, posted]

/-- A form is planned only about a session that is there. -/
theorem session_of_completionPlan (planned : service.completionPlan request id = .ok form) :
    ∃ session, service.requireSession id = .ok session := by
  obtain ⟨_, _, rest⟩ := bind_eq_ok_iff.mp planned
  obtain ⟨session, found, _⟩ := bind_eq_ok_iff.mp rest
  exact ⟨session, found⟩

/-- The session that is kept after an operation has the runner that the operation left, and what is
answered depends on its result. -/
theorem operate_eq (filed : service.IsFiled) (found : service.requireSession id = .ok session)
    (operation : Session → Runner × Except Refusal Unit) :
    (service.operate id operation).1.sessions.get? id =
        some { session with runner := (operation session).1 } ∧
      (service.operate id operation).2 = (operation session).2.bind fun _ =>
        unfailing (sessionAnswer { session with runner := (operation session).1 }) := by
  obtain rfl := filed.named id session (requireSession_eq_ok_iff.mp found).2
  unfold operate
  rw [found]
  dsimp only
  cases operation session with
  | mk runner result =>
      cases result with
      | ok => exact ⟨Shelf.get?_put_self _ _ _, rfl⟩
      | error refusal => exact ⟨Shelf.get?_put_self _ _ _, rfl⟩

end Responses

end Service

/-- **Completions are answered by where the session stands, and what is refused moves nothing.**
Whatever happened to a service, a valid request to complete a step is refused exactly if the session
has an objection: because of another stay, of its status, or of the output, in this order.  Then the
answer is a conflict and only the note of the latest rejection may change.  Otherwise the
node is left once, and the answer is the state of the session, unless settling or
answering fails.  Texts are of whole characters, without lone halves of surrogate pairs. -/
theorem completions_are_classified {settings : Settings} {tree : Tree} {service : Service}
    (started : Service.start settings tree = .ok service) (happenings : List Happening)
    {request : Service.Request} (fresh : String) {id : String} {form : CompletionForm}
    (led : Service.Resource.ofSegments? request.segments = some (.action id .complete))
    (posted : request.method = "POST")
    (planned : (service.play happenings).completionPlan request id = .ok form) :
    let standing := service.play happenings
    let met := standing.meet (.request request fresh)
    ∃ session runner response, standing.sessions.get? id = some session ∧
      met.1.sessions.get? id = some { session with runner } ∧ met.2 = some response ∧
      (response.status = 409 ↔ (session.objection? form).isSome = true) ∧
      (∀ refusal, session.objection? form = some refusal →
        response = refusal.response (request.idOr fresh) ∧
        ∃ rejection, runner.machine = { session.runner.machine with lastRejection := rejection }) ∧
      (session.objection? form = none →
        ∃ node, session.runner.machine.StandsAt node ∧
          session.runner.LeavesOnce node form.output runner ∧
          (session.runner.SettlesAfter [session.callFor form node] runner ∧
              (∀ body, Service.sessionAnswer { session with runner } = .ok body →
                response = ⟨200, body, some (request.idOr fresh)⟩) ∧
              (∀ fault, Service.sessionAnswer { session with runner } = .error fault →
                response = (Refusal.failed fault).response (request.idOr fresh)) ∨
            ∃ fault, session.runner.StallsAfter [session.callFor form node] runner fault ∧
              response = (Refusal.failed fault).response (request.idOr fresh))) := by
  have filed := (Service.isFiled_start started).play happenings
  have host := (Service.isHost_start started).play happenings
  generalize service.play happenings = standing at filed host planned ⊢
  obtain ⟨session, found⟩ := Service.session_of_completionPlan planned
  have stored := (Service.requireSession_eq_ok_iff.mp found).2
  have completes := Service.completeFor_completes form (host id session stored)
  obtain ⟨kept, answered⟩ := Service.operate_eq filed found (Service.completeFor form)
  dsimp only
  rw [Service.meet_of_resource led, Service.respond_complete posted, Service.completeStep, planned]
  dsimp only
  rw [answered]
  refine ⟨session, _, _, stored, kept, rfl, ?_⟩
  generalize Service.completeFor form session = done at completes ⊢
  obtain ⟨runner, result⟩ := done
  dsimp only at completes ⊢
  cases completes with
  | refused objects still =>
      rw [objects]
      refine ⟨iff_of_true (Service.status_of_objection objects) rfl, ?_, nofun⟩
      rintro _ ⟨⟩
      exact ⟨rfl, still⟩
  | settled agrees stands once settles =>
      obtain ⟨noConflict, told⟩ := Service.reply_unfailing request id (request.idOr fresh)
        (Service.sessionAnswer { session with runner })
      rw [agrees]
      exact ⟨iff_of_false noConflict nofun, nofun,
        fun _ => ⟨_, stands, once, .inl ⟨settles, told⟩⟩⟩
  | stalled agrees stands once stalls =>
      rw [agrees]
      exact ⟨iff_of_false (Service.status_of_failed _) nofun, nofun,
        fun _ => ⟨_, stands, once, .inr ⟨_, stalls, rfl⟩⟩⟩

namespace Booth

/-- A completion of the first guest's step that was meant for a later stay. -/
def early : Service.Request :=
  posting "/api/v1/sessions/session-1/complete" "\x7b\"activation\":7\x7d"

/-- The completion is a conflict, and the first guest stays there. -/
theorem early_completion_is_refused :
    let standing := started.play opened
    let met := standing.meet (.request early "9")
    met.2.map Service.Response.status = some 409 ∧
      ∃ session runner, standing.sessions.get? "session-1" = some session ∧
        met.1.sessions.get? "session-1" = some { session with runner } ∧
        runner.machine.run = session.runner.machine.run ∧
        runner.machine.events = session.runner.machine.events ∧
        runner.machine.activation = session.runner.machine.activation := by
  have begins : Service.start Settings.usual Tree.empty = .ok started := rfl
  have led : Service.Resource.ofSegments? early.segments =
      some (.action "session-1" .complete) := by decide +kernel
  obtain ⟨valid, conflict⟩ :
      ((started.play opened).completionPlan early "session-1").toOption.isSome = true ∧
      ((started.play opened).meet (.request early "9")).2.map Service.Response.status =
        some 409 := by decide +kernel
  obtain ⟨form, planned⟩ :
      ∃ form, (started.play opened).completionPlan early "session-1" = .ok form := by
    cases planned : (started.play opened).completionPlan early "session-1" with
    | error refusal =>
        rw [planned] at valid
        cases valid
    | ok form => exact ⟨form, rfl⟩
  obtain ⟨session, runner, response, there, kept, answered, reason, refuses, _⟩ :=
    completions_are_classified begins opened "9" led rfl planned
  refine ⟨conflict, session, runner, there, kept, ?_⟩
  rw [answered, Option.map_some, Option.some.injEq] at conflict
  obtain ⟨refusal, objects⟩ := Option.isSome_iff_exists.mp (reason.mp conflict)
  obtain ⟨_, rejection, still⟩ := refuses refusal objects
  rw [still]
  exact ⟨rfl, rfl, rfl⟩

end Booth

end GuestFlow
