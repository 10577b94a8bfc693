import GuestFlow.Proofs.Runner.Equipment
import GuestFlow.Proofs.Runner.Settling
import GuestFlow.Proofs.Service.Isolation

/-!
# How a service hosts runners

A service is a host like any other.  The runner of each of its sessions was made for a
definition that makes a graph, and what has been done with it since were calls of a host, none
of which sets a renderer (`Runner.IsHosted`).  That is so whatever happens to the service
(`Service.IsHost.play`), and so everything that is known of runners that a host drives is
known of the sessions of a service.
-/

set_option autoImplicit false

namespace GuestFlow

namespace Runner

/-- The runner was made for an accepted definition with the usual renderers, and was driven by a
host that sets no others. -/
inductive IsHosted : Runner → Prop where
  | made {definition : Definition} {graph : Graph}
      (accepted : Graph.ofDefinition definition = .ok graph) (strict : Bool) (eventId : String)
      (cap : Int) : IsHosted (create graph Registry.usual strict eventId cap (some Agenda.empty))
  | called {runner : Runner} (hosted : IsHosted runner) (call : HostCall)
      (setsNone : ∀ kind renderer, call ≠ .register kind renderer) : IsHosted (runner.perform call)

namespace IsHosted

variable {runner : Runner} (hosted : runner.IsHosted)
include hosted

/-- A hosted runner is steady, on a sound graph. -/
theorem isSteady : runner.machine.graph.IsSound ∧ runner.IsSteady runner.machine.graph := by
  induction hosted with
  | made accepted strict eventId cap =>
      exact ⟨Graph.isSound_of_ofDefinition accepted, isSteady_create ..⟩
  | @called runner _ call _ ih =>
      obtain ⟨sound, steady⟩ := ih
      obtain ⟨still, _⟩ := steady.play sound [call]
      have same : (runner.perform call).machine.graph = runner.machine.graph := still.graph_eq
      rw [same]
      exact ⟨sound, still⟩

theorem registry_eq : runner.registry.unnoted = Registry.usual := by
  induction hosted with
  | made => rfl
  | @called runner _ call setsNone ih =>
      have equipped := congrArg Equipment.registry (runner.equipment_perform call)
      cases call with
      | register kind renderer => exact absurd rfl (setsNone kind renderer)
      | _ => exact equipped.trans ih

theorem serve : (runner.serve.getD runner).IsHosted := hosted.called .serve nofun

theorem drainWithin (fuel : Nat) : (Runner.drainWithin fuel runner).IsHosted := by
  induction fuel generalizing runner with
  | zero => exact hosted
  | succ fuel ih =>
      unfold Runner.drainWithin
      cases served : runner.serve with
      | none => exact hosted
      | some after =>
          have next := hosted.serve
          rw [served] at next
          exact ih next

end IsHosted

end Runner

namespace Service

/-- The runners of all sessions are hosted. -/
def IsHost (service : Service) : Prop :=
  ∀ id session, service.sessions.get? id = some session → session.runner.IsHosted

variable {service : Service} (host : service.IsHost)
include host

/-- A service that keeps a session with a hosted runner stays a host. -/
theorem IsHost.save (session : Session) (hosted : session.runner.IsHosted) {after : Service}
    (saved : after.sessions = service.sessions.save session) : after.IsHost := by
  intro id other found
  rw [saved] at found
  by_cases here : id = session.id
  · subst here
    rw [SessionStore.save, Shelf.get?_put_self] at found
    cases found
    exact hosted
  · exact host id other ((Shelf.get?_put_of_ne here _ _).symm.trans found)

theorem IsHost.operate {id : String} {operation : Session → Runner × Except Refusal Unit}
    (calls : ∀ session, session.runner.IsHosted → (operation session).1.IsHosted) :
    (service.operate id operation).1.IsHost := by
  unfold Service.operate
  cases found : service.requireSession id with
  | error refusal => exact host
  | ok session =>
      have hosted := calls session (host id session (requireSession_eq_ok_iff.mp found).2)
      dsimp only
      split
      · rename_i operated
        rw [operated] at hosted
        exact host.save _ hosted rfl
      · rename_i operated
        rw [operated] at hosted
        exact host.save _ hosted rfl

omit host in
/-- Completing a step of a session is a call of its runner, or nothing. -/
theorem isHosted_completeFor (form : CompletionForm) {session : Session}
    (hosted : session.runner.IsHosted) : (completeFor form session).1.IsHosted := by
  have called : (complete session.runner form).1.IsHosted := by
    unfold complete
    split
    · exact hosted.called (.submit form.output (some form.data)) nofun
    · exact hosted.called (.complete form.output (some form.data) none) nofun
  unfold completeFor
  dsimp only
  split
  · exact hosted
  · split
    · rename_i completed
      rw [completed] at called
      split
      · exact called
      · exact called
    · rename_i completed
      rw [completed] at called
      exact called
    · rename_i completed
      rw [completed] at called
      exact called

theorem IsHost.createSession (request : Request) : (service.createSession request).1.IsHost := by
  unfold Service.createSession
  split
  · exact host
  · rename_i form definition _
    cases made : service.newSession form definition with
    | error fault => exact host
    | ok result =>
        obtain ⟨after, session⟩ := result
        have same := (newSession_eq_ok made).1
        have hosted : session.runner.IsHosted := by
          obtain ⟨graph, accepted, rest⟩ := bind_eq_ok_iff.mp made
          cases rest
          exact .made accepted ..
        subst same
        dsimp only
        split
        · have started : session.runner.start.1.IsHosted := hosted.called .start nofun
          split
          · rename_i went
            rw [went] at started
            exact host.save _ started rfl
          · exact host
        · exact host.save _ hosted rfl

theorem IsHost.deleteSession (id : String) : (service.deleteSession id).1.IsHost := by
  unfold Service.deleteSession
  split
  · exact host
  · rename_i session _
    dsimp only
    unfold SessionStore.delete
    split
    · exact host
    · intro other found kept
      by_cases here : other = session.id
      · rw [here, Shelf.get?_erase_self] at kept
        cases kept
      · exact host other found ((Shelf.get?_erase_of_ne here _).symm.trans kept)

/-- What is asked of a resource is done by calls of a host. -/
theorem IsHost.respond (request : Request) (resource : Resource) :
    (service.respond request resource).1.IsHost := by
  have apart {resource : Resource} {after : Service} (touches : service.Touches resource after)
      (noSession : resource.session? = none) (noCreation : resource ≠ .sessions) :
      after.IsHost := by
    cases touches with
    | nothing _ sessions_eq => exact fun id session found => host id session (sessions_eq ▸ found)
    | made _ _ isCreation => exact absurd isCreation noCreation
    | changed _ _ _ _ about | deleted _ _ _ about =>
        rw [noSession] at about
        cases about
  have noCreation : Resource.definitions ≠ .sessions := nofun
  unfold Service.respond
  split
  case h_4 => exact apart (service.registerDefinition_touches request .definitions) rfl noCreation
  case h_6 => exact apart (service.validateDefinition_touches request .definitions) rfl noCreation
  case h_7 => exact host.createSession request
  case h_9 => exact host.deleteSession _
  case h_10 =>
      refine host.operate fun session hosted => ?_
      have started : session.runner.start.1.IsHosted := hosted.called .start nofun
      split <;> rename_i went <;> rwa [went] at started
  case h_11 =>
      unfold Service.completeStep
      split
      · exact host
      · exact host.operate fun session hosted => isHosted_completeFor _ hosted
  case h_12 =>
      refine host.operate fun session hosted => ?_
      have went : session.runner.goBack.1.IsHosted := hosted.called .goBack nofun
      split <;> rename_i back <;> rwa [back] at went
  case h_13 => exact host.operate fun session hosted => hosted.called .reset nofun
  all_goals exact host

theorem IsHost.onRunner {id : String} {change : Runner → Runner}
    (calls : ∀ runner : Runner, runner.IsHosted → (change runner).IsHosted) :
    (service.onRunner id change).IsHost := by
  unfold Service.onRunner
  split
  · exact host
  · rename_i session found
    exact host.save { session with runner := change session.runner }
      (calls _ (host id session found)) rfl

/-- Whatever happens, a host stays a host. -/
theorem IsHost.meet (happening : Happening) : (service.meet happening).1.IsHost := by
  cases happening with
  | request request fresh =>
      cases led : Resource.ofSegments? request.segments with
      | none =>
          rw [show (service.meet (.request request fresh)).1 = service from
            handle_of_nowhere led fresh]
          exact host
      | some resource =>
          rw [meet_of_resource led]
          exact host.respond request resource
  | settling =>
      intro id session found
      rw [show (service.meet .settling).1 = service.settle from rfl, get?_settle] at found
      obtain ⟨stored, old, rfl⟩ := Option.map_eq_some_iff.mp found
      exact (host id stored old).drainWithin Runner.patience
  | turn id => exact host.onRunner fun runner hosted => hosted.serve
  | elapse id deadline =>
      exact host.onRunner fun runner hosted => hosted.called (.elapse deadline) nofun

/-- **Whatever happens to a service, the runners of its sessions are hosted.** -/
theorem IsHost.play (happenings : List Happening) : (service.play happenings).IsHost := by
  induction happenings generalizing service with
  | nil => exact host
  | cons happening rest ih => exact ih (host.meet happening)

omit host in
theorem isHost_start {settings : Settings} {tree : Tree}
    (started : Service.start settings tree = .ok service) : service.IsHost := by
  intro id session found
  rw [sessions_start started] at found
  cases found

end Service

end GuestFlow
