import GuestFlow.Proofs.Runner.Translation

/-!
# Strict and lenient runners

A runner is strict or lenient as its machine is.  Two runners that differ in nothing else
are carried through the same calls of a host, without an agenda.  They stay alike
(`Runner.Alike`): a rejection is reported differently, but leaves both of them where they
were, and neither settles after it.  Where a condition is completed, a strict machine may
reject that too; the runner then rests as a lenient one does, so no host is told of it
(`Translation.Relates.advance`).

`strictness_only_tells` states the comparison for every run of a host.
-/

set_option autoImplicit false

namespace GuestFlow

/-- A call that may complete the current step on behalf of the host. -/
def HostCall.Completes : HostCall → Prop
  | .complete .. | .completeKept .. | .submit .. | .direct (.complete ..) => True
  | _ => False

/-! ## Leniency as a translation -/

section Replies

variable {α : Type} {mild : α} {strict lenient : Except Fault α}

theorem Softens.retells (softens : Softens mild strict lenient) :
    Retells true mild strict lenient := by
  cases softens with
  | same neverRejects => exact .same fun _ => neverRejects
  | rejected node output declared => exact .softened rfl node output declared

theorem Retells.softens_of_soft (retells : Retells true mild strict lenient) :
    Softens mild strict lenient := by
  cases retells with
  | same told => exact .same (told rfl)
  | softened _ node output declared => exact .rejected node output declared

end Replies

/-- A strict machine looks like a lenient one, but for its rejections. -/
def leniency : Translation where
  machine := Machine.relaxed
  event := id
  tokens := 0
  softens := true
  registries first second := second = first
  run_eq _ := rfl
  graph_eq _ := rfl
  activation_eq _ := rfl
  kind_eq _ := rfl
  machine_perform first call := by
    rw [call.later_zero]
    exact (first.perform_relaxed call).1.machine_eq
  announcement_perform first call := by
    rw [call.later_zero, Option.map_id]
    exact (first.perform_relaxed call).1.announcement_eq
  reply_perform first call := by
    rw [call.later_zero]
    exact (first.perform_relaxed call).2.retells
  resolve _ := by
    rintro rfl
    exact ⟨rfl, rfl⟩
  register _ _ := by
    rintro rfl
    rfl

namespace Runner

/-! ## Runners that differ in strictness -/

/-- Two runners without an agenda whose machines differ in strictness and in nothing else. -/
structure Alike (strict lenient : Runner) : Prop where
  rest : strict.engine.active = none
  restLenient : lenient.engine.active = none
  machine_eq : lenient.machine = strict.machine.relaxed
  registry_eq : lenient.registry = strict.registry
  eventId_eq : lenient.eventId = strict.eventId
  cap_eq : lenient.cap = strict.cap
  guards_eq : lenient.guards = strict.guards
  isFinished_eq : lenient.isFinished = strict.isFinished
  noAgenda : strict.agenda = none
  noAgendaLenient : lenient.agenda = none

theorem alike_create (graph : Graph) (registry : Registry) (eventId : String) (cap : Int) :
    (create graph registry true eventId cap none).Alike
      (create graph registry false eventId cap none) where
  rest := rfl
  restLenient := rfl
  machine_eq := rfl
  registry_eq := rfl
  eventId_eq := rfl
  cap_eq := rfl
  guards_eq := rfl
  isFinished_eq := rfl
  noAgenda := rfl
  noAgendaLenient := rfl

variable {strict lenient : Runner}

/-- No token is larger, so the guards look as they are. -/
theorem guards_later_zero (guards : List Guard) : guards.map (Guard.later 0) = guards :=
  List.map_id guards

theorem alike_of_relates (relates : leniency.Relates strict lenient) : strict.Alike lenient where
  rest := relates.rest
  restLenient := relates.restSecond
  machine_eq := relates.machine_eq
  registry_eq := relates.registries
  eventId_eq := relates.eventId_eq
  cap_eq := relates.cap_eq
  guards_eq := relates.guards_eq.trans (guards_later_zero _)
  isFinished_eq := relates.isFinished_eq
  noAgenda := relates.noAgenda
  noAgendaLenient := relates.noAgendaSecond

namespace Alike

variable (alike : strict.Alike lenient)
include alike

theorem relates : leniency.Relates strict lenient where
  rest := alike.rest
  restSecond := alike.restLenient
  machine_eq := alike.machine_eq
  registries := alike.registry_eq
  eventId_eq := alike.eventId_eq
  cap_eq := alike.cap_eq
  guards_eq := alike.guards_eq.trans (guards_later_zero _).symm
  isFinished_eq := alike.isFinished_eq
  noAgenda := alike.noAgenda
  noAgendaSecond := alike.noAgendaLenient

/-- **A run of a host leaves two runners alike.** -/
theorem play (calls : List HostCall) : (strict.play calls).Alike (lenient.play calls) := by
  have played := alike.relates.play calls
  rw [show calls.map (HostCall.later leniency.tokens) = calls from
    (List.map_congr_left fun call _ => call.later_zero).trans (List.map_id calls)] at played
  exact alike_of_relates played

/-- **The lenient runner answers as the strict one**, or it tells that nothing was accepted where
the strict one raises a rejection. -/
theorem answer (call : HostCall) :
    Softens (.flag false) (strict.answer call) (lenient.answer call) := by
  have retells := alike.relates.answer call
  rw [show call.later leniency.tokens = call from call.later_zero] at retells
  exact retells.softens_of_soft

/-! ## Rejections -/

/-- A call of the engine that is rejected leaves the note of the rejection and nothing else. -/
theorem noted_of_rejected {call : Call} {node output : String} {declared : List String}
    (rejected : (strict.engine.perform call).reply =
      .error (.undeclared node output declared)) :
    (∃ given additions activation isAutomatic,
        call = .complete given additions activation isAutomatic) ∧
      (strict.engine.perform call).engine.machine =
        { strict.machine with lastRejection := some ⟨node, output, declared⟩ } := by
  rw [Engine.perform_reply alike.rest] at rejected
  rw [Engine.perform_machine alike.rest]
  exact strict.machine.noted_of_rejected rejected

theorem completeFor_rejected {activation : Int} {given node output : String}
    {data : Option Record} {declared : List String}
    (rejected : (strict.completeFor activation given data).2 =
      .error (.undeclared node output declared)) :
    (strict.completeFor activation given data).1.machine =
      { strict.machine with lastRejection := some ⟨node, output, declared⟩ } := by
  have called := alike.relates.called (.complete given (data.getD []) (some activation) false)
  rcases came : strict.completeFor activation given data with ⟨after, reply⟩
  rw [came] at rejected
  cases rejected
  cases undertakes_of_completeFor came with
  | ended told =>
      have raised : (strict.engine.perform
          (.complete given (data.getD []) (some activation) false)).reply =
            .error (.undeclared node output declared) := congrArg (Except.map Reply.verdict) told
      exact (alike.noted_of_rejected raised).2
  | settled _ settles =>
      -- Settling raises no rejection.
      cases (called.settleAfter Verdict.accepted).related.neverRejects _ (congrArg Prod.snd settles)

theorem submit_rejected {given node output : String} {data : Option Record}
    {declared : List String}
    (rejected : (strict.submit given data).2 = .error (.undeclared node output declared)) :
    (strict.submit given data).1.machine =
      { strict.machine with lastRejection := some ⟨node, output, declared⟩ } := by
  rcases came : strict.submit given data with ⟨after, answer⟩
  rw [came] at rejected
  cases rejected
  cases submits_of_eq came with
  | @handedOn props _ _ _ _ _ _ _ completed answered =>
      have resolved := alike_of_relates (alike.relates.resolve props.node.kind).1
      have kept := resolved.completeFor_rejected
        ((congrArg Prod.snd completed).trans (map_eq_error_iff.mp answered.symm))
      rwa [completed] at kept

/-- **A rejection is raised only by a completion of the host itself**, and all it leaves is its
note. -/
theorem answer_rejected (call : HostCall) {node output : String} {declared : List String}
    (rejected : strict.answer call = .error (.undeclared node output declared)) :
    call.Completes ∧ (strict.perform call).machine =
      { strict.machine with lastRejection := some ⟨node, output, declared⟩ } := by
  cases call with
  | start => cases alike.relates.start.related.neverRejects.map _ rejected
  | complete given data activation =>
      exact ⟨trivial, alike.completeFor_rejected (map_eq_error_iff.mp rejected)⟩
  | completeKept activation given data =>
      exact ⟨trivial, alike.completeFor_rejected (map_eq_error_iff.mp rejected)⟩
  | submit given data => exact ⟨trivial, alike.submit_rejected (map_eq_error_iff.mp rejected)⟩
  | goBack => cases alike.relates.goBack.related.neverRejects.map _ rejected
  | settle => cases alike.relates.settle.related.neverRejects.map _ rejected
  | direct call =>
      obtain ⟨⟨given, additions, activation, isAutomatic, rfl⟩, noted⟩ :=
        alike.noted_of_rejected (map_eq_error_iff.mp rejected)
      exact ⟨trivial, noted⟩
  | reset | subscribe | unsubscribe | register | serve | elapse => cases rejected

end Alike

end Runner

/-- **Strictness only changes how a rejection is told.**  After any calls of a host, without an
agenda, a strict and a lenient runner have the same run, events, activation and latest rejection;
and they answer every further call alike, except that the lenient one tells that nothing was
accepted where the strict one raises a rejection.  A rejection is raised only by a completion of
the host itself, and only its note is left: settling raises none. -/
theorem strictness_only_tells (graph : Graph) (registry : Registry) (eventId : String) (cap : Int)
    (calls : List HostCall) :
    let strict := (Runner.create graph registry true eventId cap none).play calls
    let lenient := (Runner.create graph registry false eventId cap none).play calls
    lenient.machine = strict.machine.relaxed ∧ lenient.guards = strict.guards ∧
      lenient.isFinished = strict.isFinished ∧
      (∀ call, Softens (.flag false) (strict.answer call) (lenient.answer call)) ∧
      ∀ call node output declared,
        strict.answer call = .error (.undeclared node output declared) →
          call.Completes ∧ (strict.perform call).machine =
            { strict.machine with lastRejection := some ⟨node, output, declared⟩ } := by
  have alike := (Runner.alike_create graph registry eventId cap).play calls
  refine ⟨alike.machine_eq, alike.guards_eq, alike.isFinished_eq, ?_, ?_⟩
  · intro call
    exact alike.answer call
  · intro call node output declared rejected
    exact alike.answer_rejected call rejected

namespace Booth

/-- Leaving the first step sideways is a fault of the strict booth and no success of the other. -/
example :
    let sideways := HostCall.complete "sideways" none none
    ((Runner.create graph Registry.usual true "opening" 3 none).play [.start]).answer sideways =
        .error (.undeclared "touch" "sideways" ["default"]) ∧
      (runner.play [.start]).answer sideways = .ok (.flag false) := by
  decide +kernel

end Booth

end GuestFlow
