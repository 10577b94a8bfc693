import GuestFlow.Proofs.Runner.Equipment
import GuestFlow.Proofs.Runner.Translation

/-!
# Runners that were reset

What a run leaves behind is spread over a runner: its machine holds data, a history, events
and the latest rejection, the runner itself the conditions it tried, whether the workflow is
over, and a rendering.  A reset clears all of this and keeps only two counts, of activations
and of events.

So a runner that was reset is a new one that has counted further
(`Runner.relates_reset`): the two counts are a translation (`postponement`), and
`resets_renew_runners` states what follows for whatever a host does next.
-/

set_option autoImplicit false

namespace GuestFlow

theorem Retells.eq_of_hard {α : Type} {mild : α} {first second : Except Fault α}
    (retells : Retells false mild first second) : second = first := by
  cases retells with
  | same => rfl
  | softened soft => cases soft

/-- A machine that has counted further is the same machine, later. -/
def postponement (tokens numbers : Nat) : Translation where
  machine := Machine.later tokens numbers
  event := Event.later numbers
  tokens := tokens
  softens := false
  registries first second := second.unnoted = first.unnoted
  run_eq _ := rfl
  graph_eq _ := rfl
  activation_eq _ := rfl
  kind_eq _ := rfl
  machine_perform first call := (first.perform_later tokens numbers call).machine_eq
  announcement_perform first call := (first.perform_later tokens numbers call).announcement_eq
  reply_perform first call := by
    rw [(first.perform_later tokens numbers call).reply_eq]
    exact .same nofun
  resolve kind same := ⟨by simpa using same, Registry.renderer_resolve_congr same kind⟩
  register kind renderer same := by
    rw [Registry.unnoted_register, Registry.unnoted_register, same]

namespace Machine

theorem play_fixed (machine : Machine) (calls : List Call) :
    (machine.play calls).graph = machine.graph ∧ (machine.play calls).strict = machine.strict :=
  @play_keeps (fun other => other.graph = machine.graph ∧ other.strict = machine.strict)
    (fun _ => True)
    (fun _ step kept => ⟨step.graph_eq.trans kept.1, step.strict_eq.trans kept.2⟩)
    calls (fun _ _ => trivial) machine ⟨rfl, rfl⟩

/-- A machine that was reset is a new one that has counted further. -/
theorem reset_eq_later (machine : Machine) :
    machine.reset.machine =
      (create machine.graph machine.strict).later (machine.activation + 1) machine.sequence := by
  simp [reset, enter, create, later]

end Machine

namespace Runner

/-- After a reset the workflow is not over, as far as events told. -/
theorem isFinished_reset {spent : Runner} (rest : spent.engine.active = none) :
    spent.reset.isFinished = false := by
  have still : spent.cancelRendering.engine.active = none := by
    unfold cancelRendering
    split
    · exact rest
    · exact rest
  unfold reset absorb
  dsimp only
  rw [show spent.cancelRendering.engine.reset.announcement = _ from
    Engine.guarded_announcement still .reset Machine.reset]
  rfl

/-- **A runner that was reset is a new one that has counted further**, once it has left its
agenda. -/
theorem relates_reset {spent : Runner} (orderly : spent.IsOrderly) {registry : Registry}
    {eventId : String} {cap : Int}
    (equipped : spent.equipment = ⟨eventId, cap, registry.unnoted⟩) :
    (postponement (spent.machine.activation + 1) spent.machine.sequence).Relates
      (create spent.machine.graph registry spent.machine.strict eventId cap none)
      { spent.reset with agenda := none } := by
  obtain ⟨still, cleared⟩ := spent.drives_reset.play orderly
  have kept : spent.reset.equipment = ⟨eventId, cap, registry.unnoted⟩ :=
    spent.equipment_reset.trans equipped
  exact {
    rest := rfl
    restSecond := still.rest
    machine_eq := cleared.trans spent.machine.reset_eq_later
    registries := congrArg Equipment.registry kept
    eventId_eq := congrArg Equipment.eventId kept
    cap_eq := congrArg Equipment.cap kept
    guards_eq := rfl
    isFinished_eq := isFinished_reset orderly.rest
    noAgenda := rfl
    noAgendaSecond := rfl }

/-- What a host does with a runner changes neither its graph nor its strictness, and sets nothing
but renderers. -/
theorem play_create (graph : Graph) (registry : Registry) (strict : Bool) (eventId : String)
    (cap : Int) (agenda : Option Agenda) (calls : List HostCall) :
    let spent := (create graph registry strict eventId cap agenda).play calls
    spent.IsOrderly ∧ spent.machine.graph = graph ∧ spent.machine.strict = strict ∧
      spent.equipment = ⟨eventId, cap, (registry.registered calls).unnoted⟩ := by
  obtain ⟨orderly, played⟩ := (drives_play _ calls).play
    (isOrderly_create graph registry strict eventId cap agenda)
  dsimp only
  rw [played, equipment_play, Registry.unnoted_registered]
  exact ⟨orderly, (Machine.play_fixed _ _).1, (Machine.play_fixed _ _).2, rfl⟩

end Runner

/-- **A reset gives back a new runner.**  Whatever a host has done with a runner, once it resets it
and goes on without an agenda, everything is as with a new runner of the same workflow and
equipment: the machine, the conditions that were tried, whether the workflow is over, the props of
the current step, the events that are announced and the answers to every call.  Only the tokens are
all larger by one number, and the numbers of events by another; a token that a call names has to be
larger likewise. -/
theorem resets_renew_runners (graph : Graph) (registry : Registry) (strict : Bool)
    (eventId : String) (cap : Int) (agenda : Option Agenda) (before after : List HostCall) :
    let spent := (Runner.create graph registry strict eventId cap agenda).play before
    let tokens := spent.machine.activation + 1
    let numbers := spent.machine.sequence
    let renewed : Runner := { spent.reset with agenda := none }
    let later := after.map (HostCall.later tokens)
    let new := Runner.create graph (registry.registered before) strict eventId cap none
    (renewed.play later).machine = (new.play after).machine.later tokens numbers ∧
      (renewed.play later).guards = (new.play after).guards.map (Guard.later tokens) ∧
      (renewed.play later).isFinished = (new.play after).isFinished ∧
      (renewed.play later).props? = (new.play after).props?.map (Props.later tokens) ∧
      renewed.announced later = (new.announced after).map (Event.later numbers) ∧
      ∀ call, (renewed.play later).answer (call.later tokens) = (new.play after).answer call := by
  obtain ⟨orderly, sameGraph, sameStrict, equipped⟩ :=
    Runner.play_create graph registry strict eventId cap agenda before
  have begun := Runner.relates_reset orderly equipped
  rw [sameGraph, sameStrict] at begun
  have played := begun.play after
  refine ⟨played.machine_eq, played.guards_eq, played.isFinished_eq, played.props?_eq,
    begun.announced after, ?_⟩
  intro call
  exact (played.answer call).eq_of_hard

namespace Booth

/-- The booth after a guest, started for the next one: nothing is left but the counts. -/
example :
    let spent := runner.play [.start, .complete "default" (some [(.text "more", .bool false)]) none,
      .complete "anything" none none]
    let renewed := spent.reset.play [.start]
    spent.machine.run.status = .completed ∧ spent.machine.activation = 4 ∧
      spent.guards.length = 1 ∧ renewed.machine = (runner.play [.start]).machine.later 5 4 := by
  decide +kernel

end Booth

end GuestFlow
