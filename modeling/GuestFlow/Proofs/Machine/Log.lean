import GuestFlow.Proofs.Machine.Undo

/-!
# The log tells the run

Whoever has only the events of a machine can tell where its run stands.  `Account.tell`
reads them from the left: an account has a position, the data, and a stack of the steps
that still stand, each with the data before it.  An event that does not fit, such as one
about going back from an empty stack, leaves no account at all.

`logs_tell_their_runs` states that on an accepted definition every log can be read in
this way and gives the run, and how the events are numbered.

The invariant is `Saves`: the data kept on the stack of the account is what undoing the
history of the run, entry by entry, gives back.
-/

set_option autoImplicit false

namespace GuestFlow

/-! ## Accounts -/

/-- A step that a log tells of, with the data before it. -/
structure Saved where
  node : String
  output : String
  data : Record

/-- What a log has told so far. -/
structure Account where
  status : Status
  position : Option String
  data : Record
  /-- The steps that still stand, the latest first. -/
  stack : List Saved

namespace Account

/-- Nothing has been told. -/
def blank : Account := ⟨.idle, none, [], []⟩

/-- The step that an event tells of, out of the present account. -/
def save (account : Account) (event : Event) : Option Saved := do
  let node ← event.node
  let output ← event.output
  some ⟨node, output, account.data⟩

/-- The account after one more event, if the event fits. -/
def follow (account : Account) (event : Event) : Option Account :=
  match event.kind with
  | .started => do
    let node ← event.node
    some ⟨.running, some node, [], []⟩
  | .stepCompleted => do
    let saved ← account.save event
    let next ← event.next
    some ⟨.running, some next, account.data.update event.data, saved :: account.stack⟩
  | .completed => do
    let saved ← account.save event
    some ⟨.completed, none, event.data, saved :: account.stack⟩
  | .navigatedBack =>
    match account.stack with
    | [] => none
    | saved :: earlier =>
      if event.node = some saved.node then
        some ⟨.running, some saved.node, saved.data, earlier⟩
      else none
  | .error | .reset => none

/-- Reads a whole log. -/
def tell (events : List Event) : Option Account := events.foldlM follow blank

/-- One more event is read after all others. -/
theorem tell_append (events : List Event) (event : Event) :
    tell (events ++ [event]) = (tell events).bind fun account => account.follow event := by
  simp only [tell, List.foldlM_append]
  refine Option.bind_congr fun account _ => ?_
  cases followed : account.follow event <;> simp [followed]

end Account

/-! ## The stack of an account and the history of a run -/

/-- The keys that a step touched are texts. -/
def HistoryEntry.TouchesTexts (entry : HistoryEntry) : Prop :=
  ∀ key ∈ entry.touched.keys, ∃ name : String, key = .text name

/-- `Saves stack data history`: undoing the history from the data on, entry by entry, gives back the
data that was saved. -/
inductive Saves : List Saved → Record → List HistoryEntry → Prop where
  | nothing (data : Record) : Saves [] data []
  | step {stack : List Saved} {data : Record} {entry : HistoryEntry} {earlier : List HistoryEntry}
      (texts : entry.TouchesTexts) (below : Saves stack (entry.touched.restore data) earlier) :
      Saves (⟨entry.node, entry.output, entry.touched.restore data⟩ :: stack) data
        (entry :: earlier)

namespace Saves

variable {stack : List Saved} {data : Record} {history : List HistoryEntry}

/-- The steps saved are those of the history. -/
theorem steps_eq (saves : Saves stack data history) :
    stack.map (fun saved => (saved.node, saved.output)) =
      history.map fun entry => (entry.node, entry.output) := by
  induction saves with
  | nothing => rfl
  | step _ _ ih => rw [List.map_cons, List.map_cons, ih]

/-- A step forward saves the data before it. -/
theorem record (saves : Saves stack data history) {additions : Record}
    (textual : additions.IsTextual) (node output : String) (isAutomatic : Bool) :
    Saves (⟨node, output, data⟩ :: stack) (data.update additions)
      (⟨node, output, Touched.of data additions, isAutomatic⟩ :: history) := by
  have restored := Touched.restore_update textual.isMapping data
  have texts : HistoryEntry.TouchesTexts
      ⟨node, output, Touched.of data additions, isAutomatic⟩ := by
    intro key member
    rw [Touched.keys_of] at member
    exact textual.keysAreTexts key member
  have step := @Saves.step stack (data.update additions)
    ⟨node, output, Touched.of data additions, isAutomatic⟩ history texts
  rw [restored] at step
  exact step saves

/-- The stack above a history with a latest entry has a latest step, out of the node of the entry;
below it is what was saved before. -/
theorem undo {entry : HistoryEntry} {earlier : List HistoryEntry}
    (saves : Saves stack data (entry :: earlier)) :
    ∃ below, stack = ⟨entry.node, entry.output, entry.touched.restore data⟩ :: below ∧
      Saves below (entry.touched.restore data) earlier ∧ entry.TouchesTexts := by
  cases saves with
  | step texts below => exact ⟨_, rfl, below, texts⟩

end Saves

/-! ## The invariant -/

/-- A log that begins with the only event about a start. -/
def BeginsOnce (events : List Event) : Prop :=
  ∃ first rest, events = first :: rest ∧ first.kind = .started ∧
    ∀ event ∈ rest, event.kind ≠ .started

theorem BeginsOnce.append {events : List Event} (begins : BeginsOnce events) {event : Event}
    (later : event.kind ≠ .started) : BeginsOnce (events ++ [event]) := by
  obtain ⟨first, rest, rfl, starts, others⟩ := begins
  refine ⟨first, rest ++ [event], rfl, starts, ?_⟩
  intro other member
  rcases List.mem_append.mp member with member | member
  · exact others other member
  · rw [List.mem_singleton.mp member]
    exact later

/-- Events under consecutive numbers, up to a latest one. -/
structure NumberedTo (sequence : Nat) (events : List Event) : Prop where
  consecutive : events.IsChain fun earlier later => later.sequence = earlier.sequence + 1
  latest : ∀ last, events.getLast? = some last → last.sequence = sequence

theorem NumberedTo.nil (sequence : Nat) : NumberedTo sequence [] := ⟨.nil, by simp⟩

/-- The next number goes on. -/
theorem NumberedTo.append {sequence : Nat} {events : List Event}
    (numbered : NumberedTo sequence events) {event : Event} (next : event.sequence = sequence + 1) :
    NumberedTo (sequence + 1) (events ++ [event]) := by
  refine ⟨List.isChain_append.mpr ⟨numbered.consecutive, .singleton _, ?_⟩, ?_⟩
  · intro last isLast first isFirst
    rw [List.head?_singleton, Option.mem_some_iff] at isFirst
    rw [← isFirst, next, numbered.latest last isLast]
  · intro last isLast
    rw [List.getLast?_append, List.getLast?_singleton, Option.some_or, Option.some.injEq] at isLast
    rw [← isLast, next]

/-- What a log tells of a run. -/
structure Account.Fits (account : Account) (run : Run) : Prop where
  status_eq : account.status = run.status
  position_eq : account.position = run.current
  data_eq : account.data = run.data
  saves : Saves account.stack run.data run.history

/-- The log of a machine tells its run. -/
structure Machine.IsTold (machine : Machine) : Prop where
  numbered : NumberedTo machine.sequence machine.events
  begins : machine.run.status ≠ .idle → BeginsOnce machine.events
  silent : machine.run.status = .idle → machine.events = []
  told : ∃ account, Account.tell machine.events = some account ∧ account.Fits machine.run

namespace Machine

theorem isTold_create (graph : Graph) (strict : Bool) : (create graph strict).IsTold :=
  ⟨.nil 0, fun begun => absurd rfl begun, fun _ => rfl, .blank, rfl, rfl, rfl, rfl, .nothing []⟩

/-- An event that comes next and leads the account of the log so far to the new run keeps a machine
told. -/
theorem IsTold.enter_keep {machine : Machine} (told : machine.IsTold)
    (begun : machine.run.status ≠ .idle) {run : Run} {event : Nat → Event}
    (next : (event (machine.sequence + 1)).sequence = machine.sequence + 1)
    (later : (event (machine.sequence + 1)).kind ≠ .started) (going : run.status ≠ .idle)
    (follows : ∀ {account : Account}, account.Fits machine.run →
      ∃ after, account.follow (event (machine.sequence + 1)) = some after ∧ after.Fits run) :
    ((machine.enter run).keep event).IsTold := by
  obtain ⟨account, read, fits⟩ := told.told
  obtain ⟨after, followed, fitsAfter⟩ := follows fits
  have reread := Account.tell_append machine.events (event (machine.sequence + 1))
  rw [read, Option.bind_some, followed] at reread
  exact ⟨told.numbered.append next, fun _ => (told.begins begun).append later,
    fun idle => absurd idle going, after, reread, fitsAfter⟩

/-- **Every call keeps a machine told**, on a sound graph and with data under text keys. -/
theorem Step.isTold {machine after : Machine} {call : Call} {reply : Except Fault Reply}
    (sound : machine.graph.IsSound) (course : OnCourse machine.graph machine.run)
    (step : machine.Step call after reply) (textual : call.IsTextual) (told : machine.IsTold) :
    after.IsTold := by
  cases step with
  | started =>
      have going : Status.running ≠ .idle := by decide
      refine ⟨(NumberedTo.nil machine.sequence).append rfl, fun _ => ⟨_, [], rfl, rfl, by simp⟩,
        fun idle => absurd idle going, ⟨.running, some machine.graph.entryId, [], []⟩, rfl, ?_⟩
      exact ⟨rfl, rfl, rfl, .nothing []⟩
  | lost running here _ missing => exact absurd missing (course.found running here)
  | broken stands _ _ dangles => exact absurd dangles (sound.next_ne_error stands.found)
  | finished stands =>
      refine told.enter_keep (by simp [stands.running]) rfl (by simp) (by simp [Run.complete]) ?_
      intro account fits
      refine ⟨_, rfl, rfl, rfl, rfl, ?_⟩
      rw [fits.data_eq]
      exact fits.saves.record textual _ _ _
  | @moved output additions _ isAutomatic node next stands =>
      have going : ((machine.run.record node.id output additions isAutomatic).moveTo
          next.id).status ≠ .idle := by
        simp [Run.record, Run.moveTo, stands.running]
      refine told.enter_keep (by simp [stands.running]) rfl (by simp) going ?_
      intro account fits
      refine ⟨_, rfl, stands.running.symm, rfl, ?_, ?_⟩
      · rw [fits.data_eq]
        rfl
      · rw [fits.data_eq]
        exact fits.saves.record textual _ _ _
  | @undone entry earlier _ behind able =>
      have begun : machine.run.status ≠ .idle := by
        intro idle
        simp [Run.canGoBack, idle] at able
      refine told.enter_keep begun rfl (by simp) (by simp [Run.undo]) ?_
      intro account fits
      have saves := fits.saves
      rw [behind] at saves
      obtain ⟨below, stacked, before, _⟩ := saves.undo
      refine ⟨⟨.running, some entry.node, entry.touched.restore machine.run.data, below⟩, ?_, rfl,
        rfl, rfl, before⟩
      simp [Account.follow, stacked]
  | undoneInSilence behind able unordered =>
      obtain ⟨account, _, fits⟩ := told.told
      have saves := fits.saves
      rw [behind] at saves
      obtain ⟨_, _, _, texts⟩ := saves.undo
      obtain ⟨restored, ordered⟩ := sortWith_texts texts
      rw [ordered] at unordered
      cases unordered
  | cleared =>
      exact ⟨.nil _, fun begun => absurd rfl begun, fun _ => rfl, .blank, rfl, rfl, rfl, rfl,
        .nothing []⟩
  | undeclared => exact ⟨told.numbered, told.begins, told.silent, told.told⟩
  | alreadyStarted | ignored | stale | nothingBehind | stuck | evaluated => exact told

/-- On a sound graph every run of calls with data under text keys keeps the machine told. -/
theorem isTold_play {machine : Machine} (sound : machine.graph.IsSound)
    (course : OnCourse machine.graph machine.run) (told : machine.IsTold) (calls : List Call)
    (textual : ∀ call ∈ calls, call.IsTextual) : (machine.play calls).IsTold := by
  have kept := @play_keeps (fun other => other.graph = machine.graph ∧
    OnCourse machine.graph other.run ∧ other.IsTold) Call.IsTextual ?_ calls textual machine
    ⟨rfl, course, told⟩
  · exact kept.2.2
  · rintro other after call reply permitted step ⟨same, course, told⟩
    have still := step.graph_eq.trans same
    rw [← same] at sound course
    exact ⟨still, still ▸ step.onCourse sound course, step.isTold sound course permitted told⟩

end Machine

/-! ## What a log says -/

/-- What it means that the log of a machine tells where its run stands. -/
structure Machine.LogTellsRun (machine : Machine) : Prop where
  consecutive : machine.events.IsChain fun earlier later => later.sequence = earlier.sequence + 1
  latest : ∀ last, machine.events.getLast? = some last → last.sequence = machine.sequence
  empty_iff : machine.events = [] ↔ machine.run.status = .idle
  beginsOnce : machine.events ≠ [] → BeginsOnce machine.events
  account : ∃ account, Account.tell machine.events = some account ∧
    account.status = machine.run.status ∧ account.position = machine.run.current ∧
    account.data = machine.run.data ∧
    account.stack.map (fun saved => (saved.node, saved.output)) =
      machine.run.history.map fun entry => (entry.node, entry.output)

theorem Machine.IsTold.logTellsRun {machine : Machine} (told : machine.IsTold) :
    machine.LogTellsRun := by
  obtain ⟨account, read, fits⟩ := told.told
  have begun : machine.events ≠ [] → BeginsOnce machine.events :=
    fun events => told.begins fun idle => events (told.silent idle)
  refine ⟨told.numbered.consecutive, told.numbered.latest, ⟨?_, told.silent⟩, begun, account, read,
    fits.status_eq, fits.position_eq, fits.data_eq, fits.saves.steps_eq⟩
  intro empty
  by_contra going
  obtain ⟨first, rest, events, _, _⟩ := told.begins going
  rw [empty] at events
  cases events

/-- **The log determines the run.**  On an accepted definition, with any listeners and after any
calls with data under text keys, the events are numbered one after another up to the latest number,
there are none exactly before the start, which is the first of them and told once, and whoever reads
them from the left, without ever going back from nothing, arrives at the status, the position, the
data and the steps of the run. -/
theorem logs_tell_their_runs {definition : Definition} {graph : Graph}
    (accepted : Graph.ofDefinition definition = .ok graph) {engine : Engine} {strict : Bool}
    (new : engine.machine = .create graph strict) (rest : engine.active = none)
    (calls : List Call) (textual : ∀ call ∈ calls, call.IsTextual) :
    (engine.play calls).machine.LogTellsRun := by
  have sound := Graph.isSound_of_ofDefinition accepted
  rw [(Engine.play_machine rest calls).1, new]
  exact (Machine.isTold_play sound .fresh (Machine.isTold_create graph strict) calls
    textual).logTellsRun

namespace Booth

/-- The log of the visit, which went through its end and was taken back twice. -/
theorem visit_told :
    let machine := ((Engine.create (.create graph true)).play visit).machine
    machine.events.map Event.kind = [.started, .stepCompleted, .stepCompleted, .navigatedBack,
      .stepCompleted, .completed, .navigatedBack] ∧ machine.LogTellsRun :=
  ⟨rfl, @logs_tell_their_runs definition graph accepted (.create (.create graph true)) true rfl rfl
    visit visit_textual⟩

end Booth

end GuestFlow
