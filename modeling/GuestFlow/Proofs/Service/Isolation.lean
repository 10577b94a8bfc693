import GuestFlow.Proofs.Fallible
import GuestFlow.Proofs.Runner.Host
import GuestFlow.Proofs.Service.Filing

/-!
# Sessions by themselves

Requests to a service come in any order, and between them the renderings of its sessions
have their turns and time passes (`Happening`).  For a session nothing counts but what
concerns it: its own requests, and what its own renderings and its own clock do
(`sessions_are_isolated`).  After it was made from the definition that was registered at that
moment, it answers and goes on as it would if the service held nothing else.

The argument is the usual one for systems that keep their parts apart: what happens elsewhere
does not change what the session sees of the service (`get?_meet_of_elsewhere`), and what concerns
the session depends only on what it sees (`Agree.meet`).  It sees whether the service was
started, and itself.
-/

set_option autoImplicit false

namespace GuestFlow

/-- What can happen to a service. -/
inductive Happening where
  /-- A request comes, and gets an id unless it brings one along. -/
  | request (request : Service.Request) (fresh : String)
  /-- The renderers of all sessions do what they are ready to do. -/
  | settling
  /-- The first errand on the agenda of a session is served. -/
  | turn (id : String)
  /-- Time passes for a session until its next task is woken, or until a deadline. -/
  | elapse (id : String) (deadline : Option Binary64)

namespace Service

/-- Changes the runner of a session, if there is such a session. -/
def onRunner (service : Service) (id : String) (change : Runner → Runner) : Service :=
  match service.sessions.get? id with
  | none => service
  | some session => service.withRunner session (change session.runner)

/-- Lets something happen; a request is answered. -/
def meet (service : Service) : Happening → Service × Option Response
  | .request request fresh =>
    let (service, response) := service.handle request fresh
    (service, some response)
  | .settling => (service.settle, none)
  | .turn id => (service.onRunner id fun runner => runner.perform .serve, none)
  | .elapse id deadline => (service.onRunner id fun runner => runner.elapse deadline, none)

def play (service : Service) (happenings : List Happening) : Service :=
  happenings.foldl (fun service happening => (service.meet happening).1) service

/-- The responses to the requests among what happens. -/
def responses (service : Service) : List Happening → List Response
  | [] => []
  | happening :: rest =>
    (service.meet happening).2.toList ++ (service.meet happening).1.responses rest

/-- Taking requests one after another lets the sessions settle after each. -/
theorem handleAll_eq_responses (service : Service) (fresh : String) (requests : List Request) :
    service.handleAll fresh requests =
      service.responses (requests.flatMap fun request => [.request request fresh, .settling]) := by
  induction requests generalizing service with
  | nil => rfl
  | cons request rest ih =>
      simp only [handleAll, responses, meet, ih, List.flatMap_cons, List.cons_append,
        List.nil_append, Option.toList]

/-- The request is made of a resource that belongs to the session. -/
def Request.isAbout (request : Request) (id : String) : Bool :=
  (Resource.ofSegments? request.segments).any fun resource => resource.session? == some id

/-- What happens to a session; all else happens elsewhere. -/
def concerns (id : String) : Happening → Bool
  | .request request _ => request.isAbout id
  | .settling => true
  | .turn other => other == id
  | .elapse other _ => other == id

/-- What a session goes through: of everything that concerns it, the response and the session
afterwards. -/
def account (service : Service) (id : String) :
    List Happening → List (Option Response × Option Session)
  | [] => []
  | happening :: rest =>
    let (after, response) := service.meet happening
    if concerns id happening then (response, after.sessions.get? id) :: after.account id rest
    else after.account id rest

/-- The service holds the one definition and no sessions. -/
def withOnly (service : Service) (id : String) (definition : Definition) : Service :=
  { service with definitions := Shelf.empty.put id definition, sessions := Shelf.empty }

/-! ## What happens elsewhere -/

section Elsewhere

variable {service : Service} {id : String}

theorem meet_of_resource {request : Request} {resource : Resource}
    (led : Resource.ofSegments? request.segments = some resource) (fresh : String) :
    service.meet (.request request fresh) = ((service.respond request resource).1,
      some (reply request resource (request.idOr fresh) (service.respond request resource).2)) := by
  have met : service.meet (.request request fresh) =
      ((service.handle request fresh).1, some (service.handle request fresh).2) := rfl
  rw [met, handle_of_resource led]

theorem handle_of_nowhere {request : Request}
    (led : Resource.ofSegments? request.segments = none) (fresh : String) :
    (service.handle request fresh).1 = service := by
  unfold handle
  rw [led]

theorem onRunner_touches (service : Service) (id : String) (change : Runner → Runner) :
    service.Touches (.session id) (service.onRunner id change) := by
  unfold onRunner
  split
  · exact .refl service _
  · rename_i session found
    exact .changed id session _ rfl rfl found rfl rfl

/-- **Whatever happens to the service is done to some resource**, unless all sessions settle. -/
theorem meet_touches (service : Service) (id : String) {happening : Happening}
    (apart : happening ≠ .settling) :
    ∃ resource, service.Touches resource (service.meet happening).1 ∧
      (concerns id happening = false → resource.session? ≠ some id) := by
  cases happening with
  | settling => exact absurd rfl apart
  | turn other =>
      refine ⟨_, service.onRunner_touches other fun runner => runner.perform .serve, ?_⟩
      simp [concerns, Resource.session?]
  | elapse other deadline =>
      refine ⟨_, service.onRunner_touches other fun runner => runner.elapse deadline, ?_⟩
      simp [concerns, Resource.session?]
  | request request fresh =>
      cases led : Resource.ofSegments? request.segments with
      | none =>
          have unmoved : (service.meet (.request request fresh)).1 = service :=
            handle_of_nowhere led fresh
          rw [unmoved]
          exact ⟨.root, .refl service .root, fun _ => by simp [Resource.session?]⟩
      | some resource =>
          rw [meet_of_resource led]
          refine ⟨resource, service.respond_touches request resource, ?_⟩
          simp [concerns, Request.isAbout, led]

theorem get?_settle (service : Service) (id : String) :
    service.settle.sessions.get? id = (service.sessions.get? id).map fun session =>
      { session with runner := session.runner.drain } :=
  Shelf.get?_mapped (fun session : Session => { session with runner := session.runner.drain })
    service.sessions id

theorem IsFiled.settle (filed : service.IsFiled) : service.settle.IsFiled := by
  constructor
  · intro id session found
    rw [get?_settle] at found
    obtain ⟨stored, old, rfl⟩ := Option.map_eq_some_iff.mp found
    exact filed.named id stored old
  · intro id session found
    rw [get?_settle] at found
    obtain ⟨stored, old, rfl⟩ := Option.map_eq_some_iff.mp found
    exact filed.given id stored old

theorem IsFiled.meet (filed : service.IsFiled) (happening : Happening) :
    (service.meet happening).1.IsFiled ∧
      (service.meet happening).1.isStarted = service.isStarted := by
  by_cases all : happening = .settling
  · subst all
    exact ⟨filed.settle, rfl⟩
  · obtain ⟨resource, touches, _⟩ := service.meet_touches "" all
    exact ⟨touches.isFiled filed, touches.isStarted_eq⟩

theorem HasGiven.meet (given : service.HasGiven id) (happening : Happening) :
    (service.meet happening).1.HasGiven id := by
  by_cases all : happening = .settling
  · subst all
    exact given
  · obtain ⟨resource, touches, _⟩ := service.meet_touches "" all
    exact touches.hasGiven given

/-- **What happens elsewhere leaves a session as it is.** -/
theorem get?_meet_of_elsewhere (filed : service.IsFiled) (given : service.HasGiven id)
    {happening : Happening} (elsewhere : concerns id happening = false) :
    (service.meet happening).1.sessions.get? id = service.sessions.get? id := by
  have apart : happening ≠ .settling := by
    rintro rfl
    cases elsewhere
  obtain ⟨resource, touches, away⟩ := service.meet_touches id apart
  exact touches.get?_eq filed given (away elsewhere)

end Elsewhere

/-! ## What a session sees -/

/-- Two services look the same to a session. -/
structure Agree (id : String) (left right : Service) : Prop where
  isStarted_eq : left.isStarted = right.isStarted
  session_eq : left.sessions.get? id = right.sessions.get? id

section Agree

variable {id : String} {left right : Service} (agree : Agree id left right)
include agree

theorem Agree.requireSession_eq : left.requireSession id = right.requireSession id := by
  unfold requireSession require
  rw [agree.isStarted_eq, agree.session_eq]

/-- Once the session is changed in the same way on both sides, the services look the same again. -/
theorem Agree.save (session : Session) (named : session.id = id) {leftAfter rightAfter : Service}
    (leftStarted : leftAfter.isStarted = left.isStarted)
    (rightStarted : rightAfter.isStarted = right.isStarted)
    (leftSaved : leftAfter.sessions = left.sessions.save session)
    (rightSaved : rightAfter.sessions = right.sessions.save session) :
    Agree id leftAfter rightAfter := by
  subst named
  refine ⟨?_, ?_⟩
  · rw [leftStarted, rightStarted, agree.isStarted_eq]
  · rw [leftSaved, rightSaved, SessionStore.save, SessionStore.save, Shelf.get?_put_self,
      Shelf.get?_put_self]

variable (filed : left.IsFiled)
include filed

theorem Agree.operate (operation : Session → Runner × Except Refusal Unit) :
    (left.operate id operation).2 = (right.operate id operation).2 ∧
      Agree id (left.operate id operation).1 (right.operate id operation).1 := by
  unfold Service.operate
  rw [← agree.requireSession_eq]
  cases found : left.requireSession id with
  | error refusal => exact ⟨rfl, agree⟩
  | ok session =>
      have named := filed.named id session (requireSession_eq_ok_iff.mp found).2
      dsimp only
      split
      · rename_i runner _
        exact ⟨rfl, agree.save { session with runner } named rfl rfl rfl rfl⟩
      · rename_i runner refusal _
        exact ⟨rfl, agree.save { session with runner } named rfl rfl rfl rfl⟩

theorem Agree.completeStep (request : Request) :
    (left.completeStep request id).2 = (right.completeStep request id).2 ∧
      Agree id (left.completeStep request id).1 (right.completeStep request id).1 := by
  have planned : left.completionPlan request id = right.completionPlan request id := by
    unfold completionPlan
    rw [agree.requireSession_eq]
  unfold Service.completeStep
  rw [planned]
  split
  · exact ⟨rfl, agree⟩
  · exact agree.operate filed _

theorem Agree.deleteSession :
    (left.deleteSession id).2 = (right.deleteSession id).2 ∧
      Agree id (left.deleteSession id).1 (right.deleteSession id).1 := by
  unfold Service.deleteSession
  rw [← agree.requireSession_eq]
  cases found : left.requireSession id with
  | error refusal => exact ⟨rfl, agree⟩
  | ok session =>
      have stored := (requireSession_eq_ok_iff.mp found).2
      obtain rfl := filed.named id session stored
      refine ⟨rfl, agree.isStarted_eq, ?_⟩
      have storedRight := agree.session_eq.symm.trans stored
      simp [SessionStore.delete, stored, storedRight, Shelf.get?_erase_self]

/-- What is asked of a session is answered, and done to it, according to what it sees. -/
theorem Agree.respond (request : Request) {resource : Resource}
    (about : resource.session? = some id) :
    (left.respond request resource).2 = (right.respond request resource).2 ∧
      Agree id (left.respond request resource).1 (right.respond request resource).1 := by
  have requires := agree.requireSession_eq
  unfold Service.respond
  split
  case h_8 =>
      cases about
      exact ⟨by simp only [getSession, requires], agree⟩
  case h_9 =>
      cases about
      exact agree.deleteSession filed
  case h_10 | h_12 | h_13 =>
      cases about
      exact agree.operate filed _
  case h_11 =>
      cases about
      exact agree.completeStep filed request
  case h_14 =>
      cases about
      exact ⟨by simp only [listEvents, requires], agree⟩
  case h_15 => exact ⟨rfl, agree⟩
  all_goals cases about

theorem Agree.onRunner (change : Runner → Runner) :
    Agree id (left.onRunner id change) (right.onRunner id change) := by
  unfold Service.onRunner
  rw [← agree.session_eq]
  cases found : left.sessions.get? id with
  | none => exact agree
  | some session =>
      exact agree.save { session with runner := change session.runner }
        (filed.named id session found) rfl rfl rfl rfl

omit filed in
theorem Agree.settle : Agree id left.settle right.settle := by
  refine ⟨agree.isStarted_eq, ?_⟩
  rw [get?_settle, get?_settle, agree.session_eq]

/-- **What concerns a session comes out the same wherever the session sees the same.** -/
theorem Agree.meet {happening : Happening} (concerned : concerns id happening = true) :
    (left.meet happening).2 = (right.meet happening).2 ∧
      Agree id (left.meet happening).1 (right.meet happening).1 := by
  cases happening with
  | settling => exact ⟨rfl, agree.settle⟩
  | turn other =>
      obtain rfl := beq_iff_eq.mp concerned
      exact ⟨rfl, agree.onRunner filed fun runner => runner.perform .serve⟩
  | elapse other deadline =>
      obtain rfl := beq_iff_eq.mp concerned
      exact ⟨rfl, agree.onRunner filed fun runner => runner.elapse deadline⟩
  | request request fresh =>
      obtain ⟨resource, led, about⟩ := (Option.any_eq_true _ _).mp concerned
      obtain ⟨replies, agreeAfter⟩ := agree.respond filed request (beq_iff_eq.mp about)
      rw [meet_of_resource led, meet_of_resource led, replies]
      exact ⟨rfl, agreeAfter⟩

end Agree

/-! ## Whole runs -/

section Runs

variable {id : String} {service left right : Service}

theorem IsFiled.play (filed : service.IsFiled) (happenings : List Happening) :
    (service.play happenings).IsFiled := by
  induction happenings generalizing service with
  | nil => exact filed
  | cons happening rest ih => exact ih (filed.meet happening).1

theorem HasGiven.play (given : service.HasGiven id) (happenings : List Happening) :
    (service.play happenings).HasGiven id := by
  induction happenings generalizing service with
  | nil => exact given
  | cons happening rest ih => exact ih (given.meet happening)

/-- **A session goes through the same in any company.**  On the right only what concerns it
happens. -/
theorem Agree.account (agree : Agree id left right) (filedLeft : left.IsFiled)
    (filedRight : right.IsFiled) (given : left.HasGiven id) (happenings : List Happening) :
    left.account id happenings = right.account id (happenings.filter (concerns id)) ∧
      Agree id (left.play happenings) (right.play (happenings.filter (concerns id))) := by
  induction happenings generalizing left right with
  | nil => exact ⟨rfl, agree⟩
  | cons happening rest ih =>
      obtain ⟨filedAfter, started⟩ := filedLeft.meet happening
      have givenAfter := given.meet happening
      cases concerned : concerns id happening with
      | false =>
          have still : Agree id (left.meet happening).1 right :=
            ⟨started.trans agree.isStarted_eq,
              (get?_meet_of_elsewhere filedLeft given concerned).trans agree.session_eq⟩
          rw [List.filter_cons_of_neg (by simp [concerned])]
          obtain ⟨accounts, ends⟩ := ih still filedAfter filedRight givenAfter
          exact ⟨by simpa [Service.account, concerned] using accounts, ends⟩
      | true =>
          obtain ⟨replies, agreeAfter⟩ := agree.meet filedLeft concerned
          rw [List.filter_cons_of_pos concerned]
          obtain ⟨accounts, ends⟩ :=
            ih agreeAfter filedAfter (filedRight.meet happening).1 givenAfter
          refine ⟨?_, ends⟩
          simp [Service.account, concerned, replies, accounts, agreeAfter.session_eq]

end Runs

/-! ## How a session begins -/

section Beginning

variable {service : Service} {request : Request} {id : String} {session : Session}

theorem respond_sessions (posted : request.method = "POST") :
    service.respond request .sessions = service.createSession request := by
  simp [respond, posted]

theorem respond_sessions_of_ne (other : request.method ≠ "POST") :
    (service.respond request .sessions).1 = service := by
  unfold respond
  split
  case h_7 posted => exact absurd posted other
  case h_15 => rfl
  all_goals rename_i same _; cases same

/-- A session that was not there is there because it was made. -/
theorem isCreation_of_new {fresh : String} (filed : service.IsFiled)
    (new : service.sessions.get? id = none)
    (found : (service.meet (.request request fresh)).1.sessions.get? id = some session) :
    Resource.ofSegments? request.segments = some .sessions ∧ request.method = "POST" := by
  cases led : Resource.ofSegments? request.segments with
  | none =>
      rw [show (service.meet (.request request fresh)).1 = service from
        handle_of_nowhere led fresh, new] at found
      cases found
  | some resource =>
      rw [meet_of_resource led] at found
      cases service.respond_touches request resource with
      | nothing _ sessions_eq =>
          rw [sessions_eq, new] at found
          cases found
      | made _ _ isCreation =>
          subst isCreation
          refine ⟨rfl, ?_⟩
          by_contra other
          rw [respond_sessions_of_ne other, new] at found
          cases found
      | changed other stored runner _ _ old sessions_eq =>
          have apart : id ≠ stored.id := by
            rintro rfl
            rw [filed.named other stored old, old] at new
            cases new
          rw [sessions_eq, SessionStore.save, Shelf.get?_put_of_ne apart, new] at found
          cases found
      | deleted other stored _ _ old sessions_eq =>
          have apart : id ≠ stored.id := by
            rintro rfl
            rw [filed.named other stored old, old] at new
            cases new
          rw [sessions_eq, Shelf.get?_erase_of_ne apart, new] at found
          cases found

theorem findDefinition_eq_ok {definition : Definition}
    (known : service.findDefinition id = .ok definition) :
    service.definitions.get? id = some definition := by
  unfold findDefinition at known
  split at known
  · rename_i found
    cases known
    exact found
  · cases known

/-- A plan needs of the definitions only the one that it names. -/
theorem sessionPlan_withOnly {form : SessionForm} {definition : Definition}
    (planned : service.sessionPlan request = .ok (form, definition)) :
    service.definitions.get? form.definitionId = some definition ∧
      (service.withOnly form.definitionId definition).sessionPlan request =
        .ok (form, definition) := by
  obtain ⟨body, bodied, rest⟩ := bind_eq_ok_iff.mp planned
  obtain ⟨_, started, rest⟩ := bind_eq_ok_iff.mp rest
  obtain ⟨given, formed, rest⟩ := bind_eq_ok_iff.mp rest
  obtain ⟨stored, known, rest⟩ := bind_eq_ok_iff.mp rest
  cases rest
  refine ⟨findDefinition_eq_ok known, ?_⟩
  have knownAlone : (service.withOnly form.definitionId definition).findDefinition
      form.definitionId = .ok definition := by
    simp [findDefinition, withOnly]
  refine bind_eq_ok_iff.mpr ⟨body, bodied, bind_eq_ok_iff.mpr ⟨(), started, ?_⟩⟩
  exact bind_eq_ok_iff.mpr ⟨form, formed, bind_eq_ok_iff.mpr ⟨definition, knownAlone, rfl⟩⟩

theorem newSession_withOnly {form : SessionForm} {definition : Definition} {after : Service}
    {made : Session} (begun : service.newSession form definition = .ok (after, made))
    (key : String) :
    (service.withOnly key definition).newSession form definition =
      .ok (after.withOnly key definition, made) := by
  obtain ⟨graph, ruled, rest⟩ := bind_eq_ok_iff.mp begun
  cases rest
  exact bind_eq_ok_iff.mpr ⟨graph, ruled, rfl⟩

theorem eq_of_saved {made : Session} (new : service.sessions.get? id = none)
    (found : (service.sessions.save made).get? id = some session) :
    made.id = id ∧ session = made := by
  by_cases here : id = made.id
  · subst here
    rw [SessionStore.save, Shelf.get?_put_self] at found
    cases found
    exact ⟨rfl, rfl⟩
  · rw [SessionStore.save, Shelf.get?_put_of_ne here, new] at found
    cases found

/-- **A session is made in the same way from its definition alone.** -/
theorem createSession_withOnly (new : service.sessions.get? id = none)
    (found : (service.createSession request).1.sessions.get? id = some session) :
    ∃ key definition, service.definitions.get? key = some definition ∧
      ((service.withOnly key definition).createSession request).2 =
        (service.createSession request).2 ∧
      ((service.withOnly key definition).createSession request).1.sessions.get? id =
        some session := by
  cases planned : service.sessionPlan request with
  | error refusal =>
      rw [createSession, planned] at found
      exact absurd (new.symm.trans found) nofun
  | ok plan =>
      obtain ⟨form, definition⟩ := plan
      obtain ⟨known, plannedAlone⟩ := sessionPlan_withOnly planned
      refine ⟨form.definitionId, definition, known, ?_⟩
      unfold createSession at found ⊢
      rw [planned] at found ⊢
      rw [plannedAlone]
      dsimp only at found ⊢
      cases begun : service.newSession form definition with
      | error fault =>
          rw [begun] at found
          exact absurd (new.symm.trans found) nofun
      | ok result =>
          obtain ⟨after, made⟩ := result
          obtain ⟨rfl, _⟩ := newSession_eq_ok begun
          rw [begun] at found
          rw [newSession_withOnly begun]
          dsimp only at found ⊢
          split at found
          · rename_i starts
            rw [if_pos starts, if_pos starts]
            split at found
            · obtain ⟨rfl, rfl⟩ := eq_of_saved new found
              exact ⟨rfl, Shelf.get?_put_self _ _ _⟩
            · exact absurd (new.symm.trans found) nofun
          · rename_i waits
            rw [if_neg waits, if_neg waits]
            obtain ⟨rfl, rfl⟩ := eq_of_saved new found
            exact ⟨rfl, Shelf.get?_put_self _ _ _⟩

theorem sessions_start {settings : Settings} {tree : Tree}
    (started : Service.start settings tree = .ok service) : service.sessions = Shelf.empty := by
  unfold start at started
  dsimp only at started
  split at started
  · cases started
    rfl
  · split at started
    · cases started
    · cases started
      rfl

theorem isFiled_start {settings : Settings} {tree : Tree}
    (started : Service.start settings tree = .ok service) : service.IsFiled :=
  isFiled_of_empty (sessions_start started)

/-- **A session that is made is made in the same way from its definition alone**, and the two
services look the same to it. -/
theorem agree_of_made (filed : service.IsFiled) {fresh : String}
    (new : service.sessions.get? id = none)
    (found : (service.meet (.request request fresh)).1.sessions.get? id = some session) :
    ∃ key definition, service.definitions.get? key = some definition ∧
      let alone := (service.withOnly key definition).meet (.request request fresh)
      alone.2 = (service.meet (.request request fresh)).2 ∧
        alone.1.sessions.get? id = some session ∧
        Agree id (service.meet (.request request fresh)).1 alone.1 := by
  obtain ⟨led, posted⟩ := isCreation_of_new filed new found
  have answers (service : Service) : service.meet (.request request fresh) =
      ((service.createSession request).1, some (reply request .sessions (request.idOr fresh)
        (service.createSession request).2)) := by
    rw [meet_of_resource led, respond_sessions posted]
  rw [answers] at found
  obtain ⟨key, definition, known, replies, foundAlone⟩ := createSession_withOnly new found
  refine ⟨key, definition, known, ?_⟩
  rw [answers, answers, replies]
  refine ⟨rfl, foundAlone, ?_, found.trans foundAlone.symm⟩
  exact (service.createSession_touches request).isStarted_eq.trans
    ((service.withOnly key definition).createSession_touches request).isStarted_eq.symm

end Beginning

end Service

/-- **Sessions are isolated.**  Let a request make a session in a service to which anything has
happened since it was started.  Of all definitions the request needs the one that is registered at
that moment, and whatever happens afterwards, the session goes through what it would go through if
the service held only that definition and nothing happened but what concerns the session: with the
same responses to its requests, and in the same state after each of them.  Everything else, such as
the registration of a definition in the place of its own or the deletion of another session, leaves
the session as it is. -/
theorem sessions_are_isolated {settings : Settings} {tree : Tree} {service : Service}
    (started : Service.start settings tree = .ok service) (before : List Happening)
    (request : Service.Request) (fresh id : String) (session : Session)
    (new : (service.play before).sessions.get? id = none)
    (found : ((service.play before).meet (.request request fresh)).1.sessions.get? id =
      some session) :
    let standing := service.play before
    let made := standing.meet (.request request fresh)
    ∃ key definition, standing.definitions.get? key = some definition ∧
      let alone := (standing.withOnly key definition).meet (.request request fresh)
      alone.2 = made.2 ∧ alone.1.sessions.get? id = some session ∧
        ∀ happenings,
          made.1.account id happenings =
              alone.1.account id (happenings.filter (Service.concerns id)) ∧
            (made.1.play happenings).sessions.get? id =
              (alone.1.play (happenings.filter (Service.concerns id))).sessions.get? id ∧
            ∀ happening, Service.concerns id happening = false →
              ((made.1.play happenings).meet happening).1.sessions.get? id =
                (made.1.play happenings).sessions.get? id := by
  have filed := (Service.isFiled_start started).play before
  generalize service.play before = standing at filed new found
  obtain ⟨key, definition, known, replies, foundAlone, agree⟩ :=
    Service.agree_of_made filed new found
  have filedMade := (filed.meet (.request request fresh)).1
  have given := filedMade.given id session found
  refine ⟨key, definition, known, replies, foundAlone, ?_⟩
  intro happenings
  have filedAlone : ((standing.withOnly key definition).meet
      (.request request fresh)).1.IsFiled :=
    ((Service.isFiled_of_empty rfl).meet (.request request fresh)).1
  obtain ⟨accounts, ends⟩ := agree.account filedMade filedAlone given happenings
  refine ⟨accounts, ends.session_eq, ?_⟩
  intro happening elsewhere
  exact Service.get?_meet_of_elsewhere (filedMade.play happenings) (given.play happenings) elsewhere

namespace Booth

/-- Another workflow under the same id. -/
def replacing : Service.Request :=
  posting "/api/v1/definitions"
    "\x7b\"id\":\"b\",\"steps\":\x7b\"nodes\":[\x7b\"id\":\"f\",\"type\":\"TOUCH_TO_START\"\x7d]\x7d\x7d"

def beginning : Service.Request :=
  posting "/api/v1/sessions" "\x7b\"definition_id\":\"b\",\"auto_start\":true\x7d"

/-- A first guest has come. -/
def opened : List Happening := [.request registering "1", .request beginning "2"]

/-- While the second guest is there the workflow is replaced, and the session of the first guest is
driven and deleted. -/
def crowd : List Happening := [
  .request replacing "4",
  .request (posting "/api/v1/sessions/session-1/complete" "\x7b\x7d") "5",
  .turn "session-1",
  .request (posting "/api/v1/sessions/session-2/complete" "\x7b\x7d") "6",
  .settling,
  .request ⟨"DELETE", "/api/v1/sessions/session-1", [], ""⟩ "7",
  .request (posting "/api/v1/sessions/session-2/back" "") "8"]

/-- The second guest goes on in the first workflow, as if there were nobody else. -/
theorem second_session_is_isolated :
    let made := (started.play opened).meet (.request beginning "3")
    let after := made.1.account "session-2" crowd
    after.map (fun entry => (entry.1.map Service.Response.status,
          entry.2.bind fun session => session.runner.machine.run.current)) =
        [(some 200, none), (none, none), (some 200, some "t")] ∧
      (made.1.play crowd).sessions.ids = ["session-2"] ∧
      ∃ key definition, let alone :=
          ((started.play opened).withOnly key definition).meet (.request beginning "3")
        after = alone.1.account "session-2" (crowd.filter (Service.concerns "session-2")) := by
  have begins : Service.start Settings.usual Tree.empty = .ok started := rfl
  obtain ⟨new, found, statuses, ids⟩ :
      ((started.play opened).sessions.get? "session-2").isNone = true ∧
      (((started.play opened).meet (.request beginning "3")).1.sessions.get?
        "session-2").isSome = true ∧
      (((started.play opened).meet (.request beginning "3")).1.account "session-2" crowd).map
          (fun entry => (entry.1.map Service.Response.status,
            entry.2.bind fun session => session.runner.machine.run.current)) =
        [(some 200, none), (none, none), (some 200, some "t")] ∧
      (((started.play opened).meet (.request beginning "3")).1.play crowd).sessions.ids =
        ["session-2"] := by decide +kernel
  obtain ⟨session, found⟩ := Option.isSome_iff_exists.mp found
  obtain ⟨key, definition, _, _, _, isolated⟩ :=
    sessions_are_isolated begins opened beginning "3" "session-2" session
      (Option.isNone_iff_eq_none.mp new) found
  exact ⟨statuses, ids, key, definition, (isolated crowd).1⟩

end Booth

end GuestFlow
