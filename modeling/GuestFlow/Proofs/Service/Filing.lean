import Mathlib.Data.List.Basic
import GuestFlow.Proofs.Store.Shelf
import GuestFlow.Service.Handler

/-!
# How sessions are filed

Every session of a service is kept under its own id, and its id was given out to it alone
(`Service.IsFiled`).  A request can do only so much to the sessions that are kept
(`Service.Touches`): it makes a new one, under the next id, or it changes or takes away the
one that its path names.  So what stands under the other ids stays as it was
(`Service.Touches.get?_eq`).
-/

set_option autoImplicit false

namespace GuestFlow.Service

/-- The id of the session that is made as the one of this number. -/
def sessionName (number : Nat) : String := "session-" ++ toString number

theorem sessionName_injective {first second : Nat} (same : sessionName first = sessionName second) :
    first = second := by
  unfold sessionName at same
  rw [String.append_right_inj, Nat.toString_eq_ofList_toDigits, Nat.toString_eq_ofList_toDigits,
    String.ofList_inj] at same
  have numbers := congrArg (fun digits => Nat.ofDigitChars 10 digits 0) same
  simpa only [Nat.ofDigitChars_ten_toDigits] using numbers

/-- The session that a resource belongs to. -/
def Resource.session? : Resource → Option String
  | .session id => some id
  | .action id _ => some id
  | _ => none

/-- The id was given to a session, which may have been deleted since. -/
def HasGiven (service : Service) (id : String) : Prop :=
  ∃ number ≤ service.sessionIds.used, id = sessionName number

/-- Sessions are kept under their own ids, and only under ids that were given out. -/
structure IsFiled (service : Service) : Prop where
  named : ∀ id session, service.sessions.get? id = some session → session.id = id
  given : ∀ id session, service.sessions.get? id = some session → service.HasGiven id

theorem isFiled_of_empty {service : Service} (empty : service.sessions = Shelf.empty) :
    service.IsFiled := by
  constructor
  · intro id session found
    rw [empty] at found
    cases found
  · intro id session found
    rw [empty] at found
    cases found

/-- What can become of the sessions of a service when something is asked of a resource. -/
inductive Touches (service : Service) (resource : Resource) (after : Service) : Prop where
  | nothing (isStarted_eq : after.isStarted = service.isStarted)
      (sessions_eq : after.sessions = service.sessions)
      (used_le : service.sessionIds.used ≤ after.sessionIds.used)
  | made (session : Session) (isStarted_eq : after.isStarted = service.isStarted)
      (isCreation : resource = .sessions)
      (id_eq : session.id = sessionName (service.sessionIds.used + 1))
      (sessions_eq : after.sessions = service.sessions.save session)
      (used_eq : after.sessionIds.used = service.sessionIds.used + 1)
  | changed (id : String) (session : Session) (runner : Runner)
      (isStarted_eq : after.isStarted = service.isStarted)
      (about : resource.session? = some id) (found : service.sessions.get? id = some session)
      (sessions_eq : after.sessions = service.sessions.save { session with runner })
      (used_eq : after.sessionIds.used = service.sessionIds.used)
  | deleted (id : String) (session : Session)
      (isStarted_eq : after.isStarted = service.isStarted)
      (about : resource.session? = some id) (found : service.sessions.get? id = some session)
      (sessions_eq : after.sessions = service.sessions.erase session.id)
      (used_eq : after.sessionIds.used = service.sessionIds.used)

namespace Touches

variable {service after : Service} {resource : Resource}

theorem refl (service : Service) (resource : Resource) : service.Touches resource service :=
  .nothing rfl rfl (Nat.le_refl _)

theorem isStarted_eq (touches : service.Touches resource after) :
    after.isStarted = service.isStarted := by
  cases touches with
  | nothing same | made _ same | changed _ _ _ same | deleted _ _ same => exact same

theorem used_le (touches : service.Touches resource after) :
    service.sessionIds.used ≤ after.sessionIds.used := by
  cases touches with
  | nothing _ _ used_le => exact used_le
  | made _ _ _ _ _ used_eq => exact used_eq ▸ Nat.le_succ _
  | changed _ _ _ _ _ _ _ used_eq => exact Nat.le_of_eq used_eq.symm
  | deleted _ _ _ _ _ _ used_eq => exact Nat.le_of_eq used_eq.symm

theorem hasGiven (touches : service.Touches resource after) {id : String}
    (given : service.HasGiven id) : after.HasGiven id := by
  obtain ⟨number, within, rfl⟩ := given
  exact ⟨number, Nat.le_trans within touches.used_le, rfl⟩

/-- **What is asked of another resource leaves a session as it is.** -/
theorem get?_eq (touches : service.Touches resource after) (filed : service.IsFiled) {id : String}
    (given : service.HasGiven id) (elsewhere : resource.session? ≠ some id) :
    after.sessions.get? id = service.sessions.get? id := by
  cases touches with
  | nothing _ sessions_eq => rw [sessions_eq]
  | made session _ _ id_eq sessions_eq =>
      obtain ⟨number, within, rfl⟩ := given
      rw [sessions_eq]
      refine Shelf.get?_put_of_ne ?_ _ _
      rw [id_eq]
      intro same
      have later := sessionName_injective same
      omega
  | changed other session runner _ about found sessions_eq =>
      rw [sessions_eq]
      refine Shelf.get?_put_of_ne ?_ _ _
      rintro rfl
      exact elsewhere (about.trans (congrArg some (filed.named _ _ found).symm))
  | deleted other session _ about found sessions_eq =>
      rw [sessions_eq]
      refine Shelf.get?_erase_of_ne ?_ _
      rintro rfl
      exact elsewhere (about.trans (congrArg some (filed.named _ _ found).symm))

/-- Sessions stay filed. -/
theorem isFiled (touches : service.Touches resource after) (filed : service.IsFiled) :
    after.IsFiled := by
  suffices ∀ id session, after.sessions.get? id = some session →
      session.id = id ∧ after.HasGiven id from
    ⟨fun id session found => (this id session found).1,
      fun id session found => (this id session found).2⟩
  intro id session found
  have keeps (other : String) : service.HasGiven other → after.HasGiven other := touches.hasGiven
  have carried (old : service.sessions.get? id = some session) :
      session.id = id ∧ after.HasGiven id :=
    ⟨filed.named id session old, keeps id (filed.given id session old)⟩
  cases touches with
  | nothing _ sessions_eq => exact carried (sessions_eq ▸ found)
  | made new _ _ id_eq sessions_eq used_eq =>
      rw [sessions_eq] at found
      by_cases here : id = new.id
      · subst here
        rw [SessionStore.save, Shelf.get?_put_self] at found
        cases found
        exact ⟨rfl, _, Nat.le_of_eq used_eq.symm, id_eq⟩
      · exact carried ((Shelf.get?_put_of_ne here _ _).symm.trans found)
  | changed other stored runner _ _ old sessions_eq =>
      rw [sessions_eq] at found
      by_cases here : id = stored.id
      · subst here
        rw [SessionStore.save, Shelf.get?_put_self] at found
        cases found
        have own := filed.named other stored old
        exact ⟨rfl, keeps stored.id (own ▸ filed.given other stored old)⟩
      · exact carried ((Shelf.get?_put_of_ne here _ _).symm.trans found)
  | deleted other stored _ _ _ sessions_eq =>
      rw [sessions_eq] at found
      by_cases here : id = stored.id
      · rw [here, Shelf.get?_erase_self] at found
        cases found
      · exact carried ((Shelf.get?_erase_of_ne here _).symm.trans found)

end Touches

/-! ## Requests -/

section Requests

variable {service : Service}

theorem requireSession_eq_ok_iff {id : String} {session : Session} :
    service.requireSession id = .ok session ↔
      service.isStarted = true ∧ service.sessions.get? id = some session := by
  unfold requireSession require
  cases service.isStarted with
  | false => simp [bind, Except.bind]
  | true =>
      cases service.sessions.get? id with
      | none => simp [bind, Except.bind]
      | some stored => simp [bind, Except.bind]

/-- A new session gets the next id. -/
theorem newSession_eq_ok {form : SessionForm} {definition : Definition} {after : Service}
    {session : Session} (made : service.newSession form definition = .ok (after, session)) :
    after = { service with sessionIds := ⟨service.sessionIds.used + 1⟩ } ∧
      session.id = sessionName (service.sessionIds.used + 1) := by
  unfold newSession at made
  cases ruled : Graph.ofDefinition definition with
  | error fault =>
      rw [ruled] at made
      cases made
  | ok graph =>
      rw [ruled] at made
      cases made
      exact ⟨rfl, rfl⟩

/-- The response to what was handled. -/
def reply (request : Request) (resource : Resource) (requestId : String) : Handled → Response
  | .ok body => ⟨if isCreation request resource then 201 else 200, body, some requestId⟩
  | .error refusal => refusal.response requestId

theorem handle_of_resource {request : Request} {resource : Resource}
    (led : Resource.ofSegments? request.segments = some resource) (fresh : String) :
    service.handle request fresh = ((service.respond request resource).1,
      reply request resource (request.idOr fresh) (service.respond request resource).2) := by
  unfold handle reply
  rw [led]
  dsimp only
  split
  · rename_i responded
    rw [responded]
  · rename_i responded
    rw [responded]

variable (service)

theorem createSession_touches (request : Request) :
    service.Touches .sessions (service.createSession request).1 := by
  unfold createSession
  split
  · exact .refl service .sessions
  · rename_i form definition _
    split
    · exact .refl service .sessions
    · rename_i after session made
      obtain ⟨rfl, named⟩ := newSession_eq_ok made
      split
      · split
        · rename_i runner _ _
          exact .made { session with runner } rfl rfl named rfl rfl
        · exact .nothing rfl rfl (Nat.le_succ _)
      · exact .made session rfl rfl named rfl rfl

/-- An operation of a session that is there changes its runner, whatever comes of it. -/
theorem operate_touches {id : String} {resource : Resource} (about : resource.session? = some id)
    (operation : Session → Runner × Except Refusal Unit) :
    service.Touches resource (service.operate id operation).1 := by
  unfold operate
  split
  · exact .refl service resource
  · rename_i session found
    have stored := (requireSession_eq_ok_iff.mp found).2
    split
    · exact .changed id session _ rfl about stored rfl rfl
    · exact .changed id session _ rfl about stored rfl rfl

theorem completeStep_touches (request : Request) {id : String} {resource : Resource}
    (about : resource.session? = some id) :
    service.Touches resource (service.completeStep request id).1 := by
  unfold completeStep
  split
  · exact .refl service resource
  · exact service.operate_touches about _

theorem deleteSession_touches {id : String} {resource : Resource}
    (about : resource.session? = some id) :
    service.Touches resource (service.deleteSession id).1 := by
  unfold deleteSession
  split
  · exact .refl service resource
  · rename_i session found
    have stored := (requireSession_eq_ok_iff.mp found).2
    dsimp only
    unfold SessionStore.delete
    split
    · exact .refl service resource
    · exact .deleted id session rfl about stored rfl rfl

variable {service} in
/-- Reading a document uses up ids at most. -/
theorem readUsable_eq {document : Record} {after : Service} {reply : Except Fault Definition}
    (read : service.readUsable document = (after, reply)) :
    ∃ supply, after = { service with definitionIds := supply } := by
  unfold readUsable at read
  split at read
  · cases read
    exact ⟨service.definitionIds, rfl⟩
  · cases read
    exact ⟨_, rfl⟩

theorem registerDefinition_touches (request : Request) (resource : Resource) :
    service.Touches resource (service.registerDefinition request).1 := by
  unfold registerDefinition
  split
  · exact .refl service resource
  · split
    · rename_i read
      obtain ⟨supply, rfl⟩ := readUsable_eq read
      exact .nothing rfl rfl (Nat.le_refl _)
    · rename_i read
      obtain ⟨supply, rfl⟩ := readUsable_eq read
      exact .nothing rfl rfl (Nat.le_refl _)

theorem validateDefinition_touches (request : Request) (resource : Resource) :
    service.Touches resource (service.validateDefinition request).1 := by
  unfold validateDefinition
  split
  · exact .refl service resource
  · split
    · rename_i read
      obtain ⟨supply, rfl⟩ := readUsable_eq read
      exact .nothing rfl rfl (Nat.le_refl _)
    · rename_i read
      obtain ⟨supply, rfl⟩ := readUsable_eq read
      exact .nothing rfl rfl (Nat.le_refl _)

/-- **Whatever is asked of a resource, sessions are touched in one of the listed ways.** -/
theorem respond_touches (request : Request) (resource : Resource) :
    service.Touches resource (service.respond request resource).1 := by
  unfold respond
  split
  case h_4 => exact service.registerDefinition_touches request _
  case h_6 => exact service.validateDefinition_touches request _
  case h_7 => exact service.createSession_touches request
  case h_9 => exact service.deleteSession_touches rfl
  case h_10 => exact service.operate_touches rfl _
  case h_11 => exact service.completeStep_touches request rfl
  case h_12 => exact service.operate_touches rfl _
  case h_13 => exact service.operate_touches rfl _
  all_goals exact .refl service _

end Requests

end GuestFlow.Service

namespace GuestFlow.Booth

/-- A service that was started without any definitions. -/
def started : Service := { Service.unstarted Settings.usual with isStarted := true }

def posting (target body : String) : Service.Request := ⟨"POST", target, [], body⟩

def registering : Service.Request :=
  posting "/api/v1/definitions"
    "\x7b\"id\":\"b\",\"steps\":\x7b\"nodes\":[\x7b\"id\":\"t\",\"type\":\"TOUCH_TO_START\"\x7d]\x7d\x7d"

end GuestFlow.Booth
