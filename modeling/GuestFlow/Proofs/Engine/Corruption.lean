import GuestFlow.Proofs.Engine.Refusal

/-!
# Runs on a damaged graph

The graph of a live engine can be damaged: an output is given another target, or none, or a
node is lost.  A run that needs what is not there fails, and the damage goes no further: the
status of a run always decides which of its other fields are set (`Run.Shape`).

`runs_agree_on_damaged_graphs` states this of everything that calls and damage in any order
can make of a new engine.  Its reason is a step lemma, `Machine.Step.shape`, in which a call
that meets the damage is one case among others.
-/

set_option autoImplicit false

namespace GuestFlow

/-! ## Shapes -/

/-- The four shapes of a run, one for each status. -/
inductive Run.Shape : Run → Prop where
  | idle : Shape .fresh
  | running (current : String) (data : Record) (history : List HistoryEntry) :
      Shape ⟨.running, some current, data, history, none, true, false⟩
  | completed (data : Record) (entry : HistoryEntry) (earlier : List HistoryEntry) :
      Shape ⟨.completed, none, data, entry :: earlier, none, true, true⟩
  | failed (current : String) (data : Record) (history : List HistoryEntry) (message : String) :
      Shape ⟨.error, some current, data, history, some message, true, true⟩

namespace Run.Shape

variable {run : Run}

theorem record (shape : run.Shape) (running : run.status = .running) (node output : String)
    (additions : Record) (isAutomatic : Bool) :
    (run.record node output additions isAutomatic).Shape := by
  cases shape with
  | running => exact .running ..
  | _ => cases running

theorem moveTo (shape : run.Shape) (running : run.status = .running) (node : String) :
    (run.moveTo node).Shape := by
  cases shape with
  | running => exact .running ..
  | _ => cases running

theorem complete (shape : run.Shape) (running : run.status = .running) {entry : HistoryEntry}
    {earlier : List HistoryEntry} (behind : run.history = entry :: earlier) :
    run.complete.Shape := by
  cases shape with
  | running =>
      cases behind
      exact .completed ..
  | _ => cases running

theorem fail (shape : run.Shape) (running : run.status = .running) (message : String) :
    (run.fail message).Shape := by
  cases shape with
  | running => exact .failed ..
  | _ => cases running

theorem undo (shape : run.Shape) (able : run.canGoBack = true) (entry : HistoryEntry)
    (earlier : List HistoryEntry) : (run.undo entry earlier).Shape := by
  cases shape with
  | running | completed => exact .running ..
  | idle => cases able
  | failed => simp [canGoBack] at able

end Run.Shape

namespace Machine

/-- **Every call keeps the shape of a run**, whatever its graph has become. -/
theorem Step.shape {machine after : Machine} {call : Call} {reply : Except Fault Reply}
    (step : machine.Step call after reply) (shape : machine.run.Shape) : after.run.Shape := by
  cases step with
  | started => exact .running ..
  | lost running => exact shape.fail running _
  | broken stands => exact (shape.record stands.running ..).fail stands.running _
  | finished stands => exact (shape.record stands.running ..).complete stands.running rfl
  | moved stands => exact (shape.record stands.running ..).moveTo stands.running _
  | undone _ able | undoneInSilence _ able => exact shape.undo able ..
  | cleared => exact .idle
  | alreadyStarted | ignored | stale | undeclared | nothingBehind | stuck | evaluated =>
      exact shape

/-- Nothing is kept among the events of a run that has not begun. -/
def IdlesInSilence (machine : Machine) : Prop := machine.run.status = .idle → machine.events = []

theorem Step.idlesInSilence {machine after : Machine} {call : Call} {reply : Except Fault Reply}
    (step : machine.Step call after reply) (silent : machine.IdlesInSilence) :
    after.IdlesInSilence := by
  intro idle
  cases step with
  | started | lost | broken | finished | undone | undoneInSilence => cases idle
  | moved stands => cases stands.running.symm.trans idle
  | cleared => rfl
  | alreadyStarted | ignored | stale | undeclared | nothingBehind | stuck | evaluated =>
      exact silent idle

/-- The status of a run and its other fields agree. -/
structure FieldsAgree (machine : Machine) : Prop where
  error : machine.run.error ≠ none ↔ machine.run.status = .error
  finished : machine.run.hasFinished = true ↔
    machine.run.status = .completed ∨ machine.run.status = .error
  nowhere : machine.run.current = none ↔
    machine.run.status = .idle ∨ machine.run.status = .completed
  unstarted : machine.run.hasStarted = false ↔ machine.run.status = .idle
  idle : machine.run.status = .idle →
    machine.run.data = [] ∧ machine.run.history = [] ∧ machine.events = []
  completed : machine.run.status = .completed → machine.run.history ≠ []

theorem fieldsAgree_of_shape {machine : Machine} (shape : machine.run.Shape)
    (silent : machine.IdlesInSilence) : machine.FieldsAgree := by
  obtain ⟨_, _, run, events⟩ := machine
  dsimp only at shape
  cases shape with
  | idle =>
      have nothing : events = [] := silent rfl
      constructor <;> simp [Run.fresh, nothing]
  | running | completed | failed => constructor <;> simp

/-! ## Calls -/

/-- Where every step touched texts, the latest step is undone exactly where it can be. -/
theorem canGoBack_iff {machine : Machine} (texts : machine.run.TouchesTexts) :
    machine.run.canGoBack = true ↔ ∃ entry, machine.goBack.reply = .ok (some entry) := by
  constructor
  · intro able
    cases behind : machine.run.history with
    | nil => simp [Run.canGoBack, behind] at able
    | cons entry earlier =>
        obtain ⟨restored, ordered⟩ := sortWith_texts (texts entry (behind ▸ List.mem_cons_self ..))
        exact ⟨entry, (goBack_of_ordered behind able ordered).1⟩
  · rintro ⟨entry, answered⟩
    have step := machine.step_goBack
    rw [answered] at step
    generalize machine.goBack.machine = after at step
    cases step with
    | undone _ able => exact able

/-- A run that has failed is over until it is discarded: no call moves it. -/
theorem Step.of_failed {machine after : Machine} {call : Call} {reply : Except Fault Reply}
    (step : machine.Step call after reply) (failed : machine.run.status = .error)
    (noReset : call ≠ .reset) : after = machine ∧ (call ≠ .evaluate → Refuses reply) := by
  cases step with
  | started idle => cases failed.symm.trans idle
  | stale running | lost running => cases failed.symm.trans running
  | undeclared stands | broken stands | finished stands | moved stands =>
      cases failed.symm.trans stands.running
  | undone _ able | undoneInSilence _ able => simp [Run.canGoBack, failed] at able
  | cleared => exact absurd rfl noReset
  | alreadyStarted | ignored | nothingBehind | stuck => exact ⟨rfl, fun _ => rfl⟩
  | evaluated => exact ⟨rfl, fun operates => absurd rfl operates⟩

/-- Where every step touched texts, an operation raises a fault only where a strict machine rejects
a completion. -/
theorem Step.rejects_of_error {machine after : Machine} {call : Call} {fault : Fault}
    (step : machine.Step call after (.error fault)) (operates : call ≠ .evaluate)
    (texts : machine.run.TouchesTexts) :
    machine.strict = true ∧ ∃ rejection,
      machine.Rejects call rejection ∧ fault = rejection.fault := by
  cases call with
  | start => exact (Step.start_ne_fault step).elim
  | complete =>
      obtain ⟨strict, rejection, rejects, worded, _⟩ := step.rejects_of_fault
      exact ⟨strict, rejection, rejects, worded⟩
  | goBack =>
      obtain ⟨entry, earlier, fails⟩ := step.undoFails_of_fault
      exact (not_undoFails texts fails).elim
  | reset => cases step
  | evaluate => exact absurd rfl operates

end Machine

/-! ## Calls and damage -/

/-- What can happen to a live engine. -/
inductive Incident where
  | call (call : Call)
  /-- An output is given another target, or none. -/
  | redirected (node output : String) (target : Option String)
  /-- The graph loses a node, which may be its entry. -/
  | lost (node : String)

/-- The data that a call adds, if it adds any, comes under text keys. -/
def Incident.IsTextual : Incident → Prop
  | .call made => made.IsTextual
  | .redirected .. | .lost _ => True

namespace Engine

/-- What an incident makes of an engine. -/
def meet (engine : Engine) : Incident → Engine
  | .call call => (engine.perform call).engine
  | .redirected node output target =>
    engine.corrupt fun machine => machine.setTarget node output target
  | .lost node => engine.corrupt fun machine => machine.dropNode node

/-- What incidents, one after another, make of an engine. -/
def endure (engine : Engine) (incidents : List Incident) : Engine := incidents.foldl meet engine

@[simp] theorem endure_nil (engine : Engine) : engine.endure [] = engine := rfl

@[simp] theorem endure_cons (engine : Engine) (incident : Incident) (incidents : List Incident) :
    engine.endure (incident :: incidents) = (engine.meet incident).endure incidents := rfl

/-- The engine with another graph. -/
def withGraph (engine : Engine) (graph : Graph) : Engine :=
  engine.corrupt fun machine => { machine with graph }

/-- An incident is a call, or it changes the graph and nothing else. -/
theorem meet_cases (engine : Engine) (incident : Incident) :
    (∃ call, incident = .call call ∧ engine.meet incident = (engine.perform call).engine) ∨
      ∃ graph, engine.meet incident = engine.withGraph graph := by
  cases incident with
  | call call => exact .inl ⟨call, rfl, rfl⟩
  | redirected node output target =>
      exact .inr ⟨engine.machine.graph.setTarget node output target, rfl⟩
  | lost node => exact .inr ⟨engine.machine.graph.dropNode node, rfl⟩

/-- What every step under a textual call keeps, and every change of the graph, every run of calls
and damage keeps. -/
theorem endure_keeps {Holds : Machine → Prop}
    (step : ∀ {machine after : Machine} {call : Call} {reply : Except Fault Reply},
      call.IsTextual → machine.Step call after reply → Holds machine → Holds after)
    (damage : ∀ {machine : Machine} (graph : Graph), Holds machine → Holds { machine with graph })
    (incidents : List Incident) (textual : ∀ incident ∈ incidents, incident.IsTextual)
    {engine : Engine} (rest : engine.active = none) (initially : Holds engine.machine) :
    Holds (engine.endure incidents).machine ∧ (engine.endure incidents).active = none := by
  induction incidents generalizing engine with
  | nil => exact ⟨initially, rest⟩
  | cons incident incidents ih =>
      have later := @ih fun other member => textual other (List.mem_cons_of_mem _ member)
      rw [endure_cons]
      rcases engine.meet_cases incident with ⟨call, rfl, met⟩ | ⟨graph, met⟩
      · rw [met]
        refine later (perform_active rest call) ?_
        rw [perform_machine rest]
        exact step (textual _ (List.mem_cons_self ..)) (engine.machine.step_perform call) initially
      · rw [met]
        exact later rest (damage graph initially)

/-- A call but a reset leaves an engine alone whose run has failed. -/
theorem perform_of_failed {engine : Engine} (rest : engine.active = none)
    (failed : engine.machine.run.status = .error) {call : Call} (noReset : call ≠ .reset) :
    (engine.perform call).engine = engine ∧
      (call ≠ .evaluate → Refuses (engine.perform call).reply) := by
  obtain ⟨same, refuses⟩ := (engine.machine.step_perform call).of_failed failed noReset
  rw [perform_reply rest]
  refine ⟨?_, refuses⟩
  by_cases looks : call = .evaluate
  · subst looks
    exact congrArg (fun machine => { engine with machine }) same
  · rw [perform_of_refuses rest (refuses looks), same]

/-- **A run that has failed stays as it is until it is discarded**, whatever happens to its
graph. -/
theorem endure_of_failed {engine : Engine} (rest : engine.active = none)
    (failed : engine.machine.run.status = .error) (incidents : List Incident)
    (noReset : .call .reset ∉ incidents) :
    ∃ graph, engine.endure incidents = engine.withGraph graph := by
  induction incidents generalizing engine with
  | nil => exact ⟨engine.machine.graph, rfl⟩
  | cons incident incidents ih =>
      have later : Incident.call .reset ∉ incidents := fun member =>
        noReset (List.mem_cons_of_mem _ member)
      rw [endure_cons]
      rcases engine.meet_cases incident with ⟨call, rfl, met⟩ | ⟨graph, met⟩
      · have other : call ≠ .reset := by
          rintro rfl
          exact noReset (List.mem_cons_self ..)
        rw [met, (perform_of_failed rest failed other).1]
        exact ih rest failed later
      · rw [met]
        exact @ih (engine.withGraph graph) rest failed later

end Engine

/-- **The status and the other fields of a run agree, even on a damaged graph.**  Let calls and
damage of the graph happen to a new engine in any order.  Then the fields agree; a step can be
undone exactly where going back returns one; a run that has failed refuses every operation but a
reset, and stays as it is until there is one; and an operation raises a fault only where a strict
engine rejects a completion through an undeclared output. -/
theorem runs_agree_on_damaged_graphs (graph : Graph) (strict : Bool) {engine : Engine}
    (new : engine.machine = .create graph strict) (rest : engine.active = none)
    (incidents : List Incident) (textual : ∀ incident ∈ incidents, incident.IsTextual) :
    let reached := engine.endure incidents
    reached.machine.FieldsAgree ∧
      (reached.machine.run.canGoBack = true ↔
        ∃ entry, reached.goBack.reply = .ok (some entry)) ∧
      (reached.machine.run.status = .error →
        (∀ call, call ≠ .reset → (reached.perform call).engine = reached ∧
          (call ≠ .evaluate → Refuses (reached.perform call).reply)) ∧
        ∀ more, .call .reset ∉ more → ∃ graph, reached.endure more = reached.withGraph graph) ∧
      ∀ call fault, call ≠ .evaluate → (reached.perform call).reply = .error fault →
        strict = true ∧ ∃ rejection,
          reached.machine.Rejects call rejection ∧ fault = rejection.fault := by
  dsimp only
  have kept := @Engine.endure_keeps (fun machine => machine.run.Shape ∧
      machine.IdlesInSilence ∧ machine.run.TouchesTexts ∧ machine.strict = strict)
    (fun names step ⟨shape, silent, texts, same⟩ => ⟨step.shape shape, step.idlesInSilence silent,
      step.touchesTexts names texts, step.strict_eq.trans same⟩)
    (fun _ holds => holds) incidents textual engine rest
    (by
      rw [new]
      exact ⟨.idle, fun _ => rfl, (fun _ member => nomatch member), rfl⟩)
  obtain ⟨⟨shape, silent, texts, same⟩, still⟩ := kept
  refine ⟨Machine.fieldsAgree_of_shape shape silent, ?_, ?_, ?_⟩
  · rw [Engine.goBack_reply still]
    exact Machine.canGoBack_iff texts
  · intro failed
    exact ⟨fun call noReset => Engine.perform_of_failed still failed noReset,
      fun more noReset => Engine.endure_of_failed still failed more noReset⟩
  · intro call fault operates raised
    rw [Engine.perform_reply still] at raised
    have step := (engine.endure incidents).machine.step_perform call
    rw [raised] at step
    rw [← same]
    exact step.rejects_of_error operates texts

namespace Booth

/-- Somebody leads the condition astray and makes the booth lose its print, while a guest goes on
and back. -/
def vandalized : List Incident := [
  .call .start,
  .redirected "again" "then" (some "nowhere"),
  .call (.complete "default" [(.text "note", .text "hi")] none false),
  .call .goBack,
  .lost "print",
  .call (.complete "default" [(.text "note", .null)] none false),
  .call (.complete "sideways" [] none false),
  .call (.complete "else" [] none true)]

theorem vandalized_textual : ∀ incident ∈ vandalized, incident.IsTextual := by
  have nothing : Record.IsTextual [] := ⟨(fun _ member => nomatch member), List.nodup_nil⟩
  simp [vandalized, Incident.IsTextual, Call.IsTextual, Record.isTextual_singleton, nothing]

/-- The run fails at the condition, which it has already left according to its history, and nothing
moves it any more. -/
theorem vandalized_agrees :
    let reached := (Engine.create (.create graph false)).endure vandalized
    reached.machine.run.status = .error ∧ reached.machine.run.current = some "again" ∧
      reached.machine.run.history.length = 2 ∧ reached.machine.FieldsAgree ∧
      (reached.perform .goBack).engine = reached ∧
      ∃ graph, reached.endure [.lost "touch", .call .start] = reached.withGraph graph := by
  obtain ⟨agrees, _, failed, _⟩ := @runs_agree_on_damaged_graphs graph false
    (.create (.create graph false)) rfl rfl vandalized vandalized_textual
  obtain ⟨stays, onward⟩ := failed rfl
  exact ⟨rfl, rfl, rfl, agrees, (stays .goBack (by simp)).1, onward _ (by simp)⟩

end Booth

end GuestFlow
