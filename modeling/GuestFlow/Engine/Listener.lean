import GuestFlow.Engine.Machine

/-!
# Listeners

Listeners are told every event of a machine.  A listener is a program: it may note
something down, subscribe or cancel listeners, call the machine and fail.  While an
operation is in progress the machine refuses every call that would change it, so
whatever listeners do, the run goes on as if they were not there.

A listener that fails leaves a line in the journal, in the words of its failure.  There
are failures that have no words: asking for them is a fault (`Worded.words`).  Such a
fault breaks the delivery off and is what the caller hears in place of the reply.  The
failures of the library itself are faults, and these always have words, so an `Engine`
without further mention is one whose listeners fail with faults.

An `Engine` is a machine with its listeners.  `Engine.guarded` carries out one operation
and delivers what it announces to the listeners subscribed when the delivery begins.
-/

set_option autoImplicit false

namespace GuestFlow

/-- A call of the machine. -/
inductive Call where
  | start
  | complete (output : String) (additions : Record) (activation : Option Int) (isAutomatic : Bool)
  | goBack
  | reset
  | evaluate
  deriving DecidableEq

/-- The operation that a call would be; evaluating changes nothing and is none. -/
def Call.operation? : Call → Option Operation
  | .start => some .start
  | .complete .. => some .completeStep
  | .goBack => some .goBack
  | .reset => some .reset
  | .evaluate => none

/-- The reply to a call. -/
inductive Reply where
  | flag (answer : Bool)
  | verdict (answer : Verdict)
  | entry (answer : Option HistoryEntry)
  | decision (answer : Decision)
  | nothing
  deriving DecidableEq

/-- Failures of a kind, and what one of them says of itself.  Whoever is asked for its words may fail
in turn. -/
class Worded (Failure : Type) where
  words : Failure → Except Fault String

instance : Worded Fault := ⟨fun fault => .ok fault.message⟩

/-- Any failure whatever, by all that is heard of it. -/
structure Outburst where
  words : Except Fault String

instance : Worded Outburst := ⟨Outburst.words⟩

/-- What a listener does when it is told an event; in the end it may fail.  Whoever subscribes a
listener does so under a name, by which the subscription is cancelled. -/
inductive Program (Failure : Type := Fault) where
  | done
  | fail (failure : Failure)
  | note (content : Value) (rest : Program Failure)
  | subscribe (name : String) (identity : Nat) (hears : Machine → Event → Program Failure)
      (rest : Program Failure)
  | unsubscribe (name : String) (rest : Program Failure)
  | call (call : Call) (rest : Except Fault Reply → Program Failure)

/-- A listener.  Two listeners of one identity are equal to each other. -/
structure Listener (Failure : Type := Fault) where
  identity : Nat
  hears : Machine → Event → Program Failure

structure Engine (Failure : Type := Fault) where
  machine : Machine
  /-- The operation in progress. -/
  active : Option Operation
  /-- Those who listen, in the order of their subscriptions; one who subscribed twice is told
  twice. -/
  subscriptions : List (Listener Failure)
  /-- Under every name the identity of the listener who subscribed under it last. -/
  tickets : List (String × Nat)

/-- The answer of an engine: its reply, what it announced, what listeners noted and the journal. -/
structure Report (α : Type) (Failure : Type := Fault) where
  engine : Engine Failure
  reply : Except Fault α
  announcement : Option Event
  notes : List Value
  journal : Journal

namespace Machine

/-- Carries out a call, without any listener. -/
def perform (machine : Machine) : Call → Outcome Reply
  | .start =>
    let outcome := machine.start
    { outcome with reply := outcome.reply.map .flag }
  | .complete output additions activation isAutomatic =>
    let outcome := machine.complete output additions activation isAutomatic
    { outcome with reply := outcome.reply.map .verdict }
  | .goBack =>
    let outcome := machine.goBack
    { outcome with reply := outcome.reply.map .entry }
  | .reset =>
    let outcome := machine.reset
    { outcome with reply := outcome.reply.map fun _ => .nothing }
  | .evaluate =>
    match machine.evaluate none with
    | .ok (decision, journal) => machine.unchanged (.decision decision) journal
    | .error fault => ⟨machine, .error fault, none, []⟩

end Machine

namespace Engine

/-- An engine at rest to which nobody listens. -/
def create (machine : Machine) (Failure : Type := Fault) : Engine Failure := ⟨machine, none, [], []⟩

variable {Failure : Type}

/-! ## Subscriptions -/

/-- Subscribes a listener; the name now belongs to this subscription. -/
def subscribe (engine : Engine Failure) (name : String) (listener : Listener Failure) :
    Engine Failure :=
  { engine with
    subscriptions := engine.subscriptions ++ [listener]
    tickets := (name, listener.identity) :: engine.tickets }

/-- Cancels the first subscription of a listener equal to the one who subscribed under a name. -/
def unsubscribe (engine : Engine Failure) (name : String) : Engine Failure :=
  match engine.tickets.lookup name with
  | none => engine
  | some identity =>
    { engine with
      subscriptions := engine.subscriptions.eraseP fun listener => listener.identity == identity }

/-! ## Delivery -/

/-- What a delivery has done so far. -/
structure Delivery (Failure : Type := Fault) where
  engine : Engine Failure
  notes : List Value
  journal : Journal

/-- A call made by a listener.  Whatever would change the machine is refused while an operation is
in progress. -/
def Delivery.call (delivery : Delivery Failure) (call : Call) :
    Delivery Failure × Except Fault Reply :=
  match call.operation?, delivery.engine.active with
  | some operation, some active => (delivery, .error (.reentrant operation active))
  | _, _ =>
    let outcome := delivery.engine.machine.perform call
    ({ delivery with
      engine := { delivery.engine with machine := outcome.machine }
      journal := delivery.journal ++ outcome.journal }, outcome.reply)

/-- Runs the program of a listener; a failure is what it failed with. -/
def Delivery.run (delivery : Delivery Failure) : Program Failure → Delivery Failure × Option Failure
  | .done => (delivery, none)
  | .fail failure => (delivery, some failure)
  | .note content rest => run { delivery with notes := delivery.notes ++ [content] } rest
  | .subscribe name identity hears rest =>
    run { delivery with engine := delivery.engine.subscribe name ⟨identity, hears⟩ } rest
  | .unsubscribe name rest => run { delivery with engine := delivery.engine.unsubscribe name } rest
  | .call call rest =>
    let (delivery, reply) := delivery.call call
    run delivery (rest reply)

/-- The journal line about a listener who failed with these words. -/
def failureRemark (event : Event) (words : String) : Remark :=
  .error ("Engine listener failed on " ++ event.kind.name ++ ": " ++ words)

section Worded

variable [Worded Failure]

/-- Tells one listener an event.  A failure is put into the journal in its own words; if it has
none, the fault of asking for them comes out. -/
def Delivery.tell (event : Event) (delivery : Delivery Failure) (listener : Listener Failure) :
    Delivery Failure × Option Fault :=
  match delivery.run (listener.hears delivery.engine.machine event) with
  | (delivery, none) => (delivery, none)
  | (delivery, some failure) =>
    match Worded.words failure with
    | .ok words =>
      ({ delivery with journal := delivery.journal ++ [failureRemark event words] }, none)
    | .error fault => (delivery, some fault)

/-- Tells listeners an event, one after another, until a fault comes out. -/
def Delivery.tellAll (event : Event) (delivery : Delivery Failure) :
    List (Listener Failure) → Delivery Failure × Option Fault
  | [] => (delivery, none)
  | listener :: others =>
    match delivery.tell event listener with
    | (delivery, none) => tellAll event delivery others
    | (delivery, some fault) => (delivery, some fault)

/-- Tells an event to everyone subscribed at this moment, in the order of subscription. -/
def Delivery.deliver (delivery : Delivery Failure) (event : Event) :
    Delivery Failure × Option Fault :=
  delivery.tellAll event delivery.engine.subscriptions

/-! ## Operations -/

/-- The reply after a delivery; a fault that came out of it takes its place. -/
def replyAfter {α : Type} (outcry : Option Fault) (reply : Except Fault α) : Except Fault α :=
  match outcry with
  | none => reply
  | some fault => .error fault

/-- Carries out one operation, unless another one is in progress. -/
def guarded {α : Type} (engine : Engine Failure) (operation : Operation)
    (transition : Machine → Outcome α) : Report α Failure :=
  match engine.active with
  | some active => ⟨engine, .error (.reentrant operation active), none, [], []⟩
  | none =>
    let outcome := transition engine.machine
    let begun : Delivery Failure :=
      ⟨{ engine with machine := outcome.machine, active := some operation }, [], outcome.journal⟩
    let (delivery, outcry) := match outcome.announcement with
      | none => (begun, none)
      | some event => begun.deliver event
    ⟨{ delivery.engine with active := none }, replyAfter outcry outcome.reply,
      outcome.announcement, delivery.notes, delivery.journal⟩

def start (engine : Engine Failure) : Report Bool Failure := engine.guarded .start Machine.start

def complete (engine : Engine Failure) (output : String) (additions : Record)
    (activation : Option Int) (isAutomatic : Bool) : Report Verdict Failure :=
  engine.guarded .completeStep fun machine =>
    machine.complete output additions activation isAutomatic

def goBack (engine : Engine Failure) : Report (Option HistoryEntry) Failure :=
  engine.guarded .goBack Machine.goBack

def reset (engine : Engine Failure) : Report Unit Failure := engine.guarded .reset Machine.reset

end Worded

/-- Changes the machine from outside. -/
def corrupt (engine : Engine Failure) (change : Machine → Machine) : Engine Failure :=
  { engine with machine := change engine.machine }

end Engine

end GuestFlow
