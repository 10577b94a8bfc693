import GuestFlow.Proofs.Machine.Step

/-!
# Activation tokens

An activation is a token for one stay at a node.  It is used at most once and never comes
back (`Machine.keepsTokens`): of all completions that carry a token at most one is
accepted, only while nothing has happened since the token was current, and the others
change nothing.

The reason is that every call either enters the next activation or leaves everything but
the note of the latest rejection as it was (`Machine.Step.advances_or_rests`).  So
activations only go up along a run, through a reset as well, and a token that was left
behind stays behind.
-/

set_option autoImplicit false

namespace GuestFlow

/-! ## Exchanges -/

/-- A call that was made, the reply, and the machine before and after it. -/
structure Exchange where
  before : Machine
  call : Call
  reply : Except Fault Reply
  after : Machine

namespace Exchange

/-- The exchange changed the run or the events. -/
def TakesEffect (exchange : Exchange) : Prop :=
  exchange.after.run ≠ exchange.before.run ∨ exchange.after.events ≠ exchange.before.events

/-- A completion that carries the token. -/
def Carries (exchange : Exchange) (token : Int) : Prop :=
  ∃ output additions isAutomatic,
    exchange.call = .complete output additions (some token) isAutomatic

/-- A completion that carries the token and was accepted. -/
def Accepts (exchange : Exchange) (token : Int) : Prop :=
  exchange.Carries token ∧ exchange.reply = .ok (.verdict .accepted)

/-- The call was rejected or ignored: a start that was too late, a completion that was not
accepted, or going back where nothing can be undone. -/
def IsRefused (exchange : Exchange) : Prop :=
  match exchange.call with
  | .start => exchange.reply = .ok (.flag false)
  | .complete .. => exchange.reply ≠ .ok (.verdict .accepted)
  | .goBack => exchange.reply = .ok (.entry none)
  | _ => False

/-- The exchange left the run, the events and the activation as they were. -/
structure IsIdle (exchange : Exchange) : Prop where
  run_eq : exchange.after.run = exchange.before.run
  events_eq : exchange.after.events = exchange.before.events
  activation_eq : exchange.after.activation = exchange.before.activation

/-- How a completion is refused: it is told so, or answered with a fault where the machine is
strict, the token current and the output not declared. -/
def TellsRefusal (exchange : Exchange) (token : Int) : Prop :=
  (∃ verdict : Verdict, exchange.reply = .ok (.verdict verdict) ∧ verdict.isAccepted = false ∧
      (exchange.before.strict = true → verdict ≠ .undeclared)) ∨
    (exchange.before.strict = true ∧ token = exchange.before.activation ∧
      ∃ node output additions isAutomatic, exchange.before.StandsAt node ∧
        exchange.call = .complete output additions (some token) isAutomatic ∧
        node.allows output = false ∧
        exchange.reply = .error (.undeclared node.id output node.outputIds))

end Exchange

/-- The exchanges of a run of calls. -/
def Machine.exchanges (machine : Machine) : List Call → List Exchange
  | [] => []
  | call :: calls =>
    let outcome := machine.perform call
    ⟨machine, call, outcome.reply, outcome.machine⟩ :: outcome.machine.exchanges calls

/-- What the exchanges of a run, in their order, make of tokens. -/
structure KeepsTokens (exchanges : List Exchange) : Prop where
  /-- Whatever changes the run or the events enters a later activation. -/
  advances : ∀ exchange ∈ exchanges, exchange.TakesEffect →
    exchange.before.activation < exchange.after.activation
  /-- What is rejected or ignored changes nothing. -/
  ignores : ∀ exchange ∈ exchanges, exchange.IsRefused → exchange.IsIdle
  /-- Of all completions that carry one token at most one is accepted. -/
  once : exchanges.Pairwise fun earlier later =>
    ∀ token, earlier.Accepts token → ¬later.Accepts token
  /-- A token is accepted only while it is current. -/
  current : ∀ exchange ∈ exchanges, ∀ token, exchange.Accepts token →
    token = exchange.before.activation
  /-- A token is accepted only if nothing has taken effect since it was issued. -/
  fresh : exchanges.Pairwise fun earlier later =>
    ∀ token : Int, token ≤ earlier.before.activation → later.Accepts token →
      ¬earlier.TakesEffect
  /-- Every other completion that carries a token is refused and changes nothing. -/
  refuses : ∀ exchange ∈ exchanges, ∀ token, exchange.Carries token → ¬exchange.Accepts token →
    exchange.TellsRefusal token ∧ exchange.IsIdle
  /-- A token that was issued before a reset is not accepted after it. -/
  noRevival : exchanges.Pairwise fun earlier later =>
    earlier.call = .reset → ∀ token : Int, token ≤ earlier.before.activation →
      ¬later.Accepts token

namespace Machine

/-! ## One call -/

/-- **A call enters the next activation, or it changes nothing but the note of the latest
rejection.** -/
theorem Step.advances_or_rests {machine after : Machine} {call : Call}
    {reply : Except Fault Reply} (step : machine.Step call after reply) :
    after.activation = machine.activation + 1 ∨
      ∃ rejection, after = { machine with lastRejection := rejection } := by
  cases step with
  | started | lost | broken | finished | moved | undone | undoneInSilence | cleared =>
      exact .inl rfl
  | alreadyStarted | ignored | stale | nothingBehind | stuck | evaluated =>
      exact .inr ⟨machine.lastRejection, rfl⟩
  | undeclared => exact .inr ⟨_, rfl⟩

/-- An accepted completion was timely and enters the next activation. -/
theorem Step.of_accepted {machine after : Machine} {output : String} {additions : Record}
    {activation : Option Int} {isAutomatic : Bool}
    (step : machine.Step (.complete output additions activation isAutomatic) after
      (.ok (.verdict .accepted))) :
    machine.isStale activation = false ∧ after.activation = machine.activation + 1 := by
  generalize reached : (Except.ok (.verdict .accepted) : Except Fault Reply) = reply at step
  cases step with
  | ignored => cases reached
  | stale => cases reached
  | undeclared =>
      split at reached
      · cases reached
      · cases reached
  | lost _ _ timely => exact ⟨timely, rfl⟩
  | broken _ timely => exact ⟨timely, rfl⟩
  | finished _ timely => exact ⟨timely, rfl⟩
  | moved _ timely => exact ⟨timely, rfl⟩

/-- A start that was accepted enters the next activation. -/
theorem Step.of_started {machine after : Machine}
    (step : machine.Step .start after (.ok (.flag true))) :
    after.activation = machine.activation + 1 := by
  cases step
  rfl

/-- Going back enters the next activation, if a step was undone. -/
theorem Step.of_undone {machine after : Machine} {entry : HistoryEntry}
    (step : machine.Step .goBack after (.ok (.entry (some entry)))) :
    after.activation = machine.activation + 1 := by
  cases step
  rfl

/-- A token that is not stale is the current activation. -/
theorem token_eq_of_isStale {machine : Machine} {token : Int}
    (timely : machine.isStale (some token) = false) : token = machine.activation := by
  simpa [isStale] using timely

/-- A completion that is not accepted is told so or is answered with a fault, and changes nothing
but the note of the latest rejection. -/
theorem Step.of_refused {machine after : Machine} {output : String} {additions : Record}
    {activation : Option Int} {isAutomatic : Bool} {reply : Except Fault Reply}
    (step : machine.Step (.complete output additions activation isAutomatic) after reply)
    (refused : reply ≠ .ok (.verdict .accepted)) :
    (∃ rejection, after = { machine with lastRejection := rejection }) ∧
      ((∃ verdict : Verdict, reply = .ok (.verdict verdict) ∧ verdict.isAccepted = false ∧
          (machine.strict = true → verdict ≠ .undeclared)) ∨
        (machine.strict = true ∧ machine.isStale activation = false ∧
          ∃ node, machine.StandsAt node ∧ node.allows output = false ∧
            reply = .error (.undeclared node.id output node.outputIds))) := by
  cases step with
  | ignored => exact ⟨⟨machine.lastRejection, rfl⟩, .inl ⟨.ignored, rfl, rfl, by simp⟩⟩
  | stale => exact ⟨⟨machine.lastRejection, rfl⟩, .inl ⟨.stale, rfl, rfl, by simp⟩⟩
  | @undeclared _ _ _ _ node stands timely unknown =>
      refine ⟨⟨_, rfl⟩, ?_⟩
      cases strict : machine.strict with
      | false => exact .inl ⟨.undeclared, rfl, rfl, by simp⟩
      | true => exact .inr ⟨rfl, timely, node, stands, unknown, rfl⟩
  | lost | broken | finished | moved => exact absurd rfl refused

end Machine

/-! ## One exchange -/

/-- The exchange is one that a machine can have. -/
def Exchange.IsStep (exchange : Exchange) : Prop :=
  exchange.before.Step exchange.call exchange.after exchange.reply

namespace Exchange.IsStep

variable {exchange : Exchange}

theorem advances_or_idle (step : exchange.IsStep) :
    exchange.after.activation = exchange.before.activation + 1 ∨ exchange.IsIdle := by
  rcases Machine.Step.advances_or_rests step with advanced | ⟨rejection, rested⟩
  · exact .inl advanced
  · exact .inr ⟨by rw [rested], by rw [rested], by rw [rested]⟩

/-- Activations never go down. -/
theorem activation_le (step : exchange.IsStep) :
    exchange.before.activation ≤ exchange.after.activation := by
  rcases step.advances_or_idle with advanced | idle
  · omega
  · exact Nat.le_of_eq idle.activation_eq.symm

theorem advances (step : exchange.IsStep) (effect : exchange.TakesEffect) :
    exchange.before.activation < exchange.after.activation := by
  rcases step.advances_or_idle with advanced | idle
  · omega
  · rcases effect with changed | changed
    · exact absurd idle.run_eq changed
    · exact absurd idle.events_eq changed

/-- An accepted token was the activation, and another one follows it. -/
theorem of_accepts (step : exchange.IsStep) {token : Int} (accepts : exchange.Accepts token) :
    token = exchange.before.activation ∧
      exchange.after.activation = exchange.before.activation + 1 := by
  obtain ⟨⟨output, additions, isAutomatic, called⟩, agreed⟩ := accepts
  unfold IsStep at step
  rw [called, agreed] at step
  obtain ⟨timely, advanced⟩ := step.of_accepted
  exact ⟨Machine.token_eq_of_isStale timely, advanced⟩

theorem of_not_accepts (step : exchange.IsStep) {token : Int} (carries : exchange.Carries token)
    (refused : ¬exchange.Accepts token) : exchange.TellsRefusal token ∧ exchange.IsIdle := by
  have notAgreed : exchange.reply ≠ .ok (.verdict .accepted) := fun agreed =>
    refused ⟨carries, agreed⟩
  obtain ⟨output, additions, isAutomatic, called⟩ := carries
  unfold IsStep at step
  rw [called] at step
  obtain ⟨⟨rejection, rested⟩, told⟩ := step.of_refused notAgreed
  refine ⟨?_, ⟨by rw [rested], by rw [rested], by rw [rested]⟩⟩
  rcases told with told | ⟨strict, timely, node, stands, unknown, faulted⟩
  · exact .inl told
  · exact .inr ⟨strict, Machine.token_eq_of_isStale timely, node, output, additions, isAutomatic,
      stands, called, unknown, faulted⟩

/-- What is rejected or ignored changes nothing. -/
theorem ignores (step : exchange.IsStep) (refused : exchange.IsRefused) : exchange.IsIdle := by
  obtain ⟨before, call, reply, after⟩ := exchange
  change before.Step call after reply at step
  cases step with
  | started | undone => cases refused
  | lost | broken | finished | moved => exact absurd rfl refused
  | undoneInSilence => cases refused
  | cleared | evaluated => exact refused.elim
  | alreadyStarted | ignored | stale | undeclared | nothingBehind | stuck => exact ⟨rfl, rfl, rfl⟩

/-- A reset enters the next activation. -/
theorem of_reset (step : exchange.IsStep) (cleared : exchange.call = .reset) :
    exchange.before.activation < exchange.after.activation := by
  obtain ⟨before, call, reply, after⟩ := exchange
  change before.Step call after reply at step
  cases step with
  | cleared => exact Nat.lt_succ_self _
  | _ => cases cleared

end Exchange.IsStep

namespace Machine

/-! ## Runs of calls -/

theorem isStep_of_mem_exchanges {machine : Machine} {calls : List Call} {exchange : Exchange}
    (member : exchange ∈ machine.exchanges calls) : exchange.IsStep := by
  induction calls generalizing machine with
  | nil => cases member
  | cons call calls ih =>
      rcases List.mem_cons.mp member with rfl | later
      · exact machine.step_perform call
      · exact ih later

/-- Activations never go down along a run. -/
theorem activation_le_play (machine : Machine) (calls : List Call) :
    machine.activation ≤ (machine.play calls).activation := by
  refine @play_keeps (fun other => machine.activation ≤ other.activation) (fun _ => True) ?_ calls
    (fun _ _ => trivial) machine (Nat.le_refl _)
  intro other after call reply _ step reached
  have onward : Exchange.IsStep ⟨other, call, reply, after⟩ := step
  exact Nat.le_trans reached onward.activation_le

/-- No exchange of a run begins before the activation the run begins with. -/
theorem activation_le_of_mem_exchanges {machine : Machine} {calls : List Call}
    {exchange : Exchange} (member : exchange ∈ machine.exchanges calls) :
    machine.activation ≤ exchange.before.activation := by
  induction calls generalizing machine with
  | nil => cases member
  | cons call calls ih =>
      rcases List.mem_cons.mp member with rfl | later
      · exact Nat.le_refl _
      · have step : Exchange.IsStep ⟨machine, call, _, _⟩ := machine.step_perform call
        exact Nat.le_trans step.activation_le (ih later)

/-- Later exchanges of a run begin at no earlier activation than earlier ones end at. -/
theorem pairwise_exchanges (machine : Machine) (calls : List Call) :
    (machine.exchanges calls).Pairwise fun earlier later =>
      earlier.after.activation ≤ later.before.activation := by
  induction calls generalizing machine with
  | nil => exact .nil
  | cons call calls ih =>
      exact .cons (fun exchange member => activation_le_of_mem_exchanges member) (ih _)

/-- **Every run of calls keeps its tokens.** -/
theorem keepsTokens (machine : Machine) (calls : List Call) :
    KeepsTokens (machine.exchanges calls) := by
  have ordered : (machine.exchanges calls).Pairwise fun earlier later =>
      earlier.IsStep ∧ later.IsStep ∧ earlier.after.activation ≤ later.before.activation :=
    (pairwise_exchanges machine calls).imp_of_mem fun first second between =>
      ⟨isStep_of_mem_exchanges first, isStep_of_mem_exchanges second, between⟩
  constructor
  case advances =>
      intro exchange member
      exact (isStep_of_mem_exchanges member).advances
  case ignores =>
      intro exchange member
      exact (isStep_of_mem_exchanges member).ignores
  case current =>
      intro exchange member token accepts
      exact ((isStep_of_mem_exchanges member).of_accepts accepts).1
  case refuses =>
      intro exchange member token carries refused
      exact (isStep_of_mem_exchanges member).of_not_accepts carries refused
  case once =>
      refine ordered.imp ?_
      rintro earlier later ⟨first, second, between⟩ token used again
      have before := first.of_accepts used
      have after := second.of_accepts again
      omega
  case fresh =>
      refine ordered.imp ?_
      rintro earlier later ⟨first, second, between⟩ token issued used effect
      have onward := first.advances effect
      have current := (second.of_accepts used).1
      omega
  case noRevival =>
      refine ordered.imp ?_
      rintro earlier later ⟨first, second, between⟩ cleared token issued used
      have onward := first.of_reset cleared
      have current := (second.of_accepts used).1
      omega

end Machine

end GuestFlow
