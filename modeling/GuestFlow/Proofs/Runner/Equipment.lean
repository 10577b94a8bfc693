import GuestFlow.Proofs.Runner.Driving

/-!
# The equipment of a runner

A runner is equipped with the event it belongs to, a cap on automatic completions and a
registry of renderers.  Nothing that a host does with it changes this, but for the
renderers that the host sets itself (`Runner.equipment_play`).  The registry also notes
which unknown kinds it met; that changes, but no step is shown any differently for it, and
so it is left out here (`Registry.unnoted`).
-/

set_option autoImplicit false

namespace GuestFlow

/-! ## Registries -/

namespace Registry

/-- The registry before it has met any unknown kind. -/
def unnoted (registry : Registry) : Registry := { registry with noted := [] }

/-- The registry with the renderers that a host sets in a run. -/
def registered (registry : Registry) : List HostCall → Registry
  | [] => registry
  | .register kind renderer :: calls => (registry.register kind renderer).1.registered calls
  | _ :: calls => registry.registered calls

@[simp] theorem unnoted_resolve (registry : Registry) (kind : String) :
    (registry.resolve kind).1.unnoted = registry.unnoted := by
  unfold resolve
  split
  · rfl
  · split
    · rfl
    · rfl

@[simp] theorem unnoted_register (registry : Registry) (kind : String) (renderer : Renderer) :
    (registry.register kind renderer).1.unnoted = (registry.unnoted.register kind renderer).1 :=
  rfl

theorem renderer_resolve (registry : Registry) (kind : String) :
    (registry.resolve kind).2.2.1 = (registry.renderers.lookup kind).getD registry.fallback := by
  unfold resolve
  cases registry.renderers.lookup kind with
  | some renderer => rfl
  | none =>
      dsimp only
      split
      · rfl
      · rfl

/-- What was noted has no part in finding a renderer. -/
theorem renderer_resolve_congr {first second : Registry} (same : second.unnoted = first.unnoted)
    (kind : String) : (second.resolve kind).2.2.1 = (first.resolve kind).2.2.1 := by
  have found := congrArg
    (fun registry : Registry => (registry.renderers.lookup kind).getD registry.fallback) same
  rw [renderer_resolve, renderer_resolve]
  exact found

@[simp] theorem unnoted_registered (registry : Registry) (calls : List HostCall) :
    (registry.registered calls).unnoted = registry.unnoted.registered calls := by
  induction calls generalizing registry with
  | nil => rfl
  | cons call calls ih =>
      cases call with
      | register kind renderer => exact ih _
      | _ => exact ih registry

end Registry

/-! ## Views of a runner -/

namespace Runner

/-- A view of a runner in which neither its engine, nor the conditions it tried, nor its journal has
a part. -/
structure IsAside {α : Type} (view : Runner → α) : Prop where
  log (runner : Runner) (journal : Journal) : view (runner.log journal) = view runner
  absorb {β : Type} (runner : Runner) (report : Report β) :
    view (runner.absorb report) = view runner
  guards (runner : Runner) (guards : List Guard) : view { runner with guards } = view runner

namespace IsAside

variable {α : Type} {view : Runner → α} (aside : IsAside view)
include aside

theorem looks {runner after : Runner} {reply : Except Fault (Option Prospect)}
    (looks : runner.Looks after reply) : view after = view runner := by
  cases looks with
  | away | undecidable => rfl
  | unresolved => exact aside.log runner _
  | textless | tried | found => exact (aside.guards _ _).trans (aside.log runner _)

theorem advance (runner : Runner) (prospect : Prospect) :
    view (runner.advance prospect).1 = view runner := by
  have noted : view (runner.noting prospect) = view runner :=
    (aside.log _ _).trans (aside.guards runner _)
  rw [advance_eq]
  dsimp only
  split
  · exact (aside.absorb _ _).trans noted
  · exact (aside.log _ _).trans ((aside.absorb _ _).trans noted)
  · exact (aside.absorb _ _).trans noted

/-- Completing conditions one after another keeps the view. -/
theorem settles {remaining done : Nat} {runner after : Runner} {calls : List Call}
    {reply : Except Fault Unit} (settles : Settles remaining done runner calls after reply) :
    view after = view runner := by
  have advanced {runner middle after : Runner} {prospect : Prospect} {worked : Except Fault Bool}
      (found : runner.prospect = (middle, .ok (some prospect)))
      (went : middle.advance prospect = (after, worked)) : view after = view runner := by
    have same := aside.advance middle prospect
    rw [went] at same
    exact same.trans (aside.looks (looks_of_eq found))
  induction settles with
  | failed found | nothing found => exact aside.looks (looks_of_eq found)
  | capped found => exact (aside.log _ _).trans (aside.looks (looks_of_eq found))
  | refused found went | raised found went => exact advanced found went
  | advanced found went _ ih => exact ih.trans (advanced found went)

/-- Undoing steps one after another keeps the view. -/
theorem unwinds {fuel : Nat} {runner after : Runner} {calls : List Call}
    {reply : Except Fault (Option HistoryEntry)} (unwinds : Unwinds fuel runner calls after reply) :
    view after = view runner := by
  induction unwinds with
  | ended | stopped => exact aside.absorb _ _
  | onward _ _ _ _ ih => exact ih.trans (aside.absorb _ _)

end IsAside

end Runner

/-! ## Runners -/

structure Equipment where
  eventId : String
  cap : Int
  registry : Registry

namespace Equipment

/-- The equipment with the renderers that a host sets in a run. -/
def registered (equipment : Equipment) (calls : List HostCall) : Equipment :=
  { equipment with registry := equipment.registry.registered calls }

theorem registered_cons (equipment : Equipment) (call : HostCall) (calls : List HostCall) :
    equipment.registered (call :: calls) = (equipment.registered [call]).registered calls := by
  cases call with
  | _ => rfl

end Equipment

namespace Runner

def equipment (runner : Runner) : Equipment :=
  ⟨runner.eventId, runner.cap, runner.registry.unnoted⟩

section Operations

variable (runner : Runner)

@[simp] theorem equipment_log (journal : Journal) :
    (runner.log journal).equipment = runner.equipment := rfl

@[simp] theorem equipment_absorb {α : Type} (report : Report α) :
    (runner.absorb report).equipment = runner.equipment := rfl

@[simp] theorem equipment_onAgenda (change : Agenda → Agenda) :
    (runner.onAgenda change).equipment = runner.equipment := rfl

@[simp] theorem equipment_resolve (kind : String) :
    (runner.resolve kind).1.equipment = runner.equipment := by
  simp [equipment, resolve, log]

@[simp] theorem equipment_cancelRendering :
    runner.cancelRendering.equipment = runner.equipment := by
  unfold cancelRendering
  split
  · rfl
  · rfl

@[simp] theorem equipment_render : runner.render.equipment = runner.equipment := by
  have cancelled := runner.equipment_cancelRendering
  unfold render
  dsimp only
  split
  · rename_i props _ _ _
    exact (equipment_resolve _ props.node.kind).trans cancelled
  · exact cancelled

theorem isAside_equipment : IsAside equipment :=
  ⟨fun _ _ => rfl, fun _ _ => rfl, fun _ _ => rfl⟩

@[simp] theorem equipment_settle : runner.settle.1.equipment = runner.equipment := by
  rcases runner.settle_cases with ⟨last, settles, told⟩ | ⟨last, fault, settles, told⟩
  · rw [told, equipment_render, isAside_equipment.settles settles]
  · rw [told, isAside_equipment.settles settles]

variable {runner}

theorem equipment_of_settleAfter {α : Type} {value : α} {after : Runner} {reply : Except Fault α}
    (settled : runner.settleAfter value = (after, reply)) : after.equipment = runner.equipment := by
  rw [settleAfter_eq] at settled
  cases settled
  exact runner.equipment_settle

theorem Undertakes.equipment_eq {α : Type} {call : Call} {report : Report α} {effect : α}
    {calls : List Call} {after : Runner} {reply : Except Fault α}
    (undertakes : runner.Undertakes call report effect calls after reply) :
    after.equipment = runner.equipment := by
  cases undertakes with
  | ended => rfl
  | settled _ settles =>
      exact (equipment_of_settleAfter settles).trans (runner.equipment_absorb report)

theorem Submits.equipment_eq {output : String} {data : Option Record} {calls : List Call}
    {after : Runner} {answer : Except Fault Submission}
    (submits : runner.Submits output data calls after answer) :
    after.equipment = runner.equipment := by
  cases submits with
  | noStep => rfl
  | refused => exact runner.equipment_resolve _
  | handedOn _ _ completed =>
      exact (undertakes_of_completeFor completed).equipment_eq.trans (runner.equipment_resolve _)

theorem GoesBack.equipment_eq {calls : List Call} {after : Runner}
    {reply : Except Fault (Option HistoryEntry)} (goesBack : runner.GoesBack calls after reply) :
    after.equipment = runner.equipment := by
  cases goesBack with
  | ended unwinds => exact isAside_equipment.unwinds unwinds
  | settled unwinds settles =>
      exact (equipment_of_settleAfter settles).trans (isAside_equipment.unwinds unwinds)

variable (runner)

theorem equipment_reset : runner.reset.equipment = runner.equipment :=
  runner.equipment_cancelRendering

@[simp] theorem equipment_act (task : Task) (actions : List Action) :
    (act task actions runner).1.equipment = runner.equipment := by
  induction actions generalizing runner with
  | nil => rfl
  | cons action rest ih =>
      cases action with
      | say remark => exact ih _
      | sleep => rfl
      | fail => rfl
      | complete output data isReported =>
          have completed :=
            (runner.undertakes_completeFor task.activation output data).equipment_eq
          unfold act
          split
          · rename_i found
            rwa [found] at completed
          · rename_i found
            rw [found] at completed
            refine (ih _).trans (Eq.trans ?_ completed)
            split
            · rfl
            · rfl

theorem equipment_turn (task : Task) : (runner.turn task).equipment = runner.equipment := by
  unfold turn
  split
  · rfl
  · dsimp only
    split <;> simp

theorem equipment_serve : (runner.serve.getD runner).equipment = runner.equipment := by
  unfold serve
  split
  · rfl
  · split
    · rfl
    · dsimp only
      split
      · rfl
      · split
        · rfl
        · exact equipment_turn _ _

theorem equipment_elapse (deadline : Option Binary64) :
    (runner.elapse deadline).equipment = runner.equipment := by
  unfold elapse
  split
  · rfl
  · split
    · rfl
    · rfl

/-- A call of a host keeps the equipment, but for a renderer that the host sets. -/
theorem equipment_perform (call : HostCall) :
    (runner.perform call).equipment = runner.equipment.registered [call] := by
  cases call with
  | start => exact runner.undertakes_start.equipment_eq
  | complete output data activation =>
      exact (runner.undertakes_completeFor _ output data).equipment_eq
  | completeKept activation output data =>
      exact (runner.undertakes_completeFor activation output data).equipment_eq
  | submit output data => exact (runner.submits output data).equipment_eq
  | goBack => exact runner.goesBack.equipment_eq
  | reset => exact runner.equipment_reset
  | settle => exact runner.equipment_settle
  | serve => exact runner.equipment_serve
  | elapse deadline => exact runner.equipment_elapse deadline
  | direct | subscribe | unsubscribe | register => rfl

/-- **A run of a host keeps the equipment**, but for the renderers that the host sets. -/
theorem equipment_play (calls : List HostCall) :
    (runner.play calls).equipment = runner.equipment.registered calls := by
  induction calls generalizing runner with
  | nil => rfl
  | cons call calls ih =>
      rw [play_cons, ih, equipment_perform, ← Equipment.registered_cons]

end Operations

end Runner

end GuestFlow
