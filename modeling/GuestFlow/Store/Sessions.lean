import GuestFlow.Runner.Waiting
import GuestFlow.Store.Shelf

/-!
# Sessions

A session is one guest's run of a workflow, kept under an id for as long as the guest is
there.  When a session is deleted its runner is reset, so that nothing of it goes on.
-/

set_option autoImplicit false

namespace GuestFlow

structure Session where
  id : String
  definitionId : String
  eventId : String
  metadata : Record
  runner : Runner

abbrev SessionStore := Shelf Session

namespace SessionStore

def save (store : SessionStore) (session : Session) : SessionStore := store.put session.id session

/-- The sessions that run a definition. -/
def ofDefinition (store : SessionStore) (definitionId : String) : List Session :=
  store.items.filter fun session => session.definitionId == definitionId

/-- Takes a session away and resets its runner; nothing if there is no such session. -/
def delete (store : SessionStore) (id : String) : SessionStore × Option Session :=
  match store.get? id with
  | none => (store, none)
  | some session => (store.erase id, some { session with runner := session.runner.reset })

end SessionStore

/-- A supply of fresh ids for sessions; `used` counts those that were given out. -/
structure SessionSupply where
  used : Nat
  deriving DecidableEq, Repr

def SessionSupply.fresh (supply : SessionSupply) : String × SessionSupply :=
  ("session-" ++ toString (supply.used + 1), ⟨supply.used + 1⟩)

end GuestFlow
