import Mathlib.Data.List.Forall2
import GuestFlow.Fault

/-!
# Computations that can fail

A computation in steps returns a result exactly when each of its steps does
(`bind_eq_ok_iff`, `mapM_eq_ok_iff`).  Where it fails, it fails as the first of its steps
that does (`bind_eq_error_iff`, `mapM_eq_error_iff`), and so with a fault that is possible
for one of them (`FailsOnlyWith.bind`).  What its steps promise of results and of failures, the
computation promises as well (`Ensures.bind`).
-/

set_option autoImplicit false

namespace GuestFlow

variable {α β : Type}

theorem bind_eq_ok_iff {ε : Type} {first : Except ε α} {next : α → Except ε β} {result : β} :
    (first >>= next) = .ok result ↔ ∃ value, first = .ok value ∧ next value = .ok result := by
  cases first with
  | error fault => simp [bind, Except.bind]
  | ok value => simp [bind, Except.bind]

theorem bind_eq_error_iff {first : Except Fault α} {next : α → Except Fault β} {fault : Fault} :
    (first >>= next) = .error fault ↔
      first = .error fault ∨ ∃ value, first = .ok value ∧ next value = .error fault := by
  cases first with
  | error fault => simp [bind, Except.bind]
  | ok value => simp [bind, Except.bind]

theorem map_eq_ok_iff {change : α → β} {computed : Except Fault α} {result : β} :
    computed.map change = .ok result ↔ ∃ value, computed = .ok value ∧ change value = result := by
  cases computed with
  | error fault => simp [Except.map]
  | ok value => simp [Except.map]

theorem exists_map_iff {change : α → β} {computed : Except Fault α} :
    (∃ result, computed.map change = .ok result) ↔ ∃ value, computed = .ok value := by
  cases computed with
  | error fault => simp [Except.map]
  | ok value => simp [Except.map]

theorem map_eq_error_iff {change : α → β} {computed : Except Fault α} {fault : Fault} :
    computed.map change = .error fault ↔ computed = .error fault := by
  cases computed with
  | error fault => simp [Except.map]
  | ok value => simp [Except.map]

theorem toOption_eq_some_iff {computed : Except Fault α} {result : α} :
    computed.toOption = some result ↔ computed = .ok result := by
  cases computed with
  | error fault => simp [Except.toOption]
  | ok value => simp [Except.toOption]

theorem exists_of_map_isOk {change : α → β} {computed : Except Fault α}
    (worked : (computed.map change).isOk = true) : ∃ value, computed = .ok value := by
  cases computed with
  | error fault => cases worked
  | ok value => exact ⟨value, rfl⟩

/-- A computation over a list succeeds when it succeeds at every item, in the order of the list. -/
theorem mapM_eq_ok_iff {step : α → Except Fault β} {items : List α} {results : List β} :
    items.mapM step = .ok results ↔
      List.Forall₂ (fun item result => step item = .ok result) items results := by
  induction items generalizing results with
  | nil =>
      constructor
      · intro computed
        cases computed
        exact .nil
      · intro related
        cases related
        rfl
  | cons item rest ih =>
      rw [List.mapM_cons, bind_eq_ok_iff]
      constructor
      · rintro ⟨value, first, others⟩
        obtain ⟨values, computed, joined⟩ := bind_eq_ok_iff.mp others
        cases joined
        exact .cons first (ih.mp computed)
      · intro related
        cases related with
        | cons first others => exact ⟨_, first, bind_eq_ok_iff.mpr ⟨_, ih.mpr others, rfl⟩⟩

theorem exists_mapM_iff {step : α → Except Fault β} {items : List α} :
    (∃ results, items.mapM step = .ok results) ↔
      ∀ item ∈ items, ∃ result, step item = .ok result := by
  simp only [mapM_eq_ok_iff]
  induction items with
  | nil => exact iff_of_true ⟨[], .nil⟩ fun _ member => nomatch member
  | cons item rest ih =>
      rw [List.forall_mem_cons, ← ih]
      constructor
      · rintro ⟨_, related⟩
        cases related with
        | cons first others => exact ⟨⟨_, first⟩, _, others⟩
      · rintro ⟨⟨result, first⟩, results, others⟩
        exact ⟨result :: results, .cons first others⟩

/-- A computation over a list fails as the first item at which it fails. -/
theorem mapM_eq_error_iff {step : α → Except Fault β} {items : List α} {fault : Fault} :
    items.mapM step = .error fault ↔
      ∃ before item after, items = before ++ item :: after ∧
        (∀ earlier ∈ before, ∃ result, step earlier = .ok result) ∧ step item = .error fault := by
  induction items with
  | nil => simp [pure, Except.pure]
  | cons first rest ih =>
      rw [List.mapM_cons, bind_eq_error_iff]
      constructor
      · rintro (failed | ⟨value, worked, others⟩)
        · exact ⟨[], first, rest, rfl, by simp, failed⟩
        · rcases bind_eq_error_iff.mp others with failed | ⟨values, _, joined⟩
          · obtain ⟨before, item, after, rfl, fine, fails⟩ := ih.mp failed
            refine ⟨first :: before, item, after, rfl, ?_, fails⟩
            exact List.forall_mem_cons.mpr ⟨⟨value, worked⟩, fine⟩
          · cases joined
      · rintro ⟨before, item, after, split, fine, fails⟩
        cases before with
        | nil =>
            cases split
            exact .inl fails
        | cons _ before =>
            cases split
            obtain ⟨⟨value, worked⟩, fine⟩ := List.forall_mem_cons.mp fine
            refine .inr ⟨value, worked, bind_eq_error_iff.mpr (.inl (ih.mpr ?_))⟩
            exact ⟨before, item, after, rfl, fine, fails⟩

/-- Where a computation over a list fails, it fails at some item. -/
theorem exists_of_mapM_error {step : α → Except Fault β} {items : List α} {fault : Fault}
    (failed : items.mapM step = .error fault) : ∃ item ∈ items, step item = .error fault := by
  obtain ⟨before, item, after, rfl, _, fails⟩ := mapM_eq_error_iff.mp failed
  exact ⟨item, by simp, fails⟩

/-- A computation that fails at some item of a list fails over the list. -/
theorem mapM_error_of_mem {step : α → Except Fault β} {items : List α} {item : α}
    (member : item ∈ items) {fault : Fault} (fails : step item = .error fault) :
    ∃ first, items.mapM step = .error first := by
  induction items with
  | nil => cases member
  | cons head rest ih =>
      rw [List.mapM_cons]
      cases computed : step head with
      | error first => exact ⟨first, rfl⟩
      | ok value =>
          rcases List.mem_cons.mp member with rfl | later
          · rw [fails] at computed
            cases computed
          · obtain ⟨first, failed⟩ := ih later
            exact ⟨first, bind_eq_error_iff.mpr (.inr ⟨value, rfl,
              bind_eq_error_iff.mpr (.inl failed)⟩)⟩

/-- Every result of a computation over a list is that of an item. -/
theorem exists_of_mem_mapM {step : α → Except Fault β} {items : List α} {results : List β}
    (computed : items.mapM step = .ok results) {result : β} (member : result ∈ results) :
    ∃ item ∈ items, step item = .ok result := by
  have related := mapM_eq_ok_iff.mp computed
  clear computed
  induction related with
  | nil => cases member
  | cons first _ ih =>
      rcases List.mem_cons.mp member with rfl | later
      · exact ⟨_, List.mem_cons_self .., first⟩
      · obtain ⟨item, inside, same⟩ := ih later
        exact ⟨item, List.mem_cons_of_mem _ inside, same⟩

/-- If nothing was found at any item, every item was looked at and nothing was found there. -/
theorem eq_nil_of_mapM_flatten {step : α → Except Fault (List β)} {items : List α}
    {results : List (List β)} (computed : items.mapM step = .ok results)
    (nothing : results.flatten = []) {item : α} (member : item ∈ items) : step item = .ok [] := by
  have related := mapM_eq_ok_iff.mp computed
  clear computed
  induction related with
  | nil => cases member
  | cons first _ ih =>
      simp only [List.flatten_cons, List.append_eq_nil_iff] at nothing
      rcases List.mem_cons.mp member with rfl | later
      · rw [first, nothing.1]
      · exact ih nothing.2 later

/-! ## Possible faults -/

/-- If the computation fails, it is with a possible fault. -/
def FailsOnlyWith (possible : Fault → Prop) (computed : Except Fault α) : Prop :=
  ∀ fault, computed = .error fault → possible fault

namespace FailsOnlyWith

variable {possible : Fault → Prop} {computed : Except Fault α}

theorem of_ok (result : α) : FailsOnlyWith possible (.ok result : Except Fault α) := by
  intro fault failed
  cases failed

theorem of_error {fault : Fault} (isPossible : possible fault) :
    FailsOnlyWith possible (.error fault : Except Fault α) := by
  intro other failed
  cases failed
  exact isPossible

theorem mono {other : Fault → Prop} (fails : FailsOnlyWith possible computed)
    (weaker : ∀ fault, possible fault → other fault) : FailsOnlyWith other computed :=
  fun fault failed => weaker fault (fails fault failed)

theorem bind {next : α → Except Fault β} (first : FailsOnlyWith possible computed)
    (second : ∀ value, FailsOnlyWith possible (next value)) :
    FailsOnlyWith possible (computed >>= next) := by
  cases computed with
  | error fault => exact of_error (first fault rfl)
  | ok value => exact second value

theorem map {change : α → β} (first : FailsOnlyWith possible computed) :
    FailsOnlyWith possible (computed.map change) := by
  cases computed with
  | error fault => exact of_error (first fault rfl)
  | ok value => exact of_ok (change value)

theorem mapM {step : α → Except Fault β} {items : List α}
    (steps : ∀ item ∈ items, FailsOnlyWith possible (step item)) :
    FailsOnlyWith possible (items.mapM step) := by
  induction items with
  | nil => exact of_ok []
  | cons item rest ih =>
      rw [List.mapM_cons]
      refine (steps item (List.mem_cons_self ..)).bind fun value => ?_
      exact (ih fun other member => steps other (List.mem_cons_of_mem _ member)).bind
        fun values => of_ok (value :: values)

theorem foldlM {step : β → α → Except Fault β} (items : List α)
    (steps : ∀ state item, FailsOnlyWith possible (step state item)) (state : β) :
    FailsOnlyWith possible (items.foldlM step state) := by
  induction items generalizing state with
  | nil => exact of_ok state
  | cons item rest ih =>
      rw [List.foldlM_cons]
      exact (steps state item).bind ih

end FailsOnlyWith

/-! ## Results and failures -/

/-- The computation has a result of one kind, or a failure of one kind. -/
inductive Ensures {ε α : Type} (mild : ε → Prop) (holds : α → Prop) : Except ε α → Prop where
  | ok {result : α} (held : holds result) : Ensures mild holds (.ok result)
  | error {failure : ε} (may : mild failure) : Ensures mild holds (.error failure)

namespace Ensures

variable {ε α β : Type} {mild : ε → Prop} {holds : α → Prop} {wanted : β → Prop}
  {computed : Except ε α}

theorem of_ok {result : α} (ensures : Ensures mild holds (.ok result)) : holds result := by
  cases ensures with
  | ok held => exact held

theorem of_error {failure : ε} (ensures : Ensures mild holds (.error failure)) : mild failure := by
  cases ensures with
  | error may => exact may

theorem ite {condition : Prop} [Decidable condition] {other : Except ε α}
    (first : Ensures mild holds computed) (second : Ensures mild holds other) :
    Ensures mild holds (if condition then computed else other) := by
  split
  · exact first
  · exact second

theorem bind {next : α → Except ε β} (first : Ensures mild holds computed)
    (second : ∀ result, holds result → Ensures mild wanted (next result)) :
    Ensures mild wanted (computed >>= next) := by
  cases first with
  | ok held => exact second _ held
  | error may => exact .error may

theorem mapM {step : β → Except ε α} {items : List β}
    (steps : ∀ item ∈ items, Ensures mild holds (step item)) :
    Ensures mild (fun results => ∀ result ∈ results, holds result) (items.mapM step) := by
  induction items with
  | nil => exact .ok fun _ member => nomatch member
  | cons item rest ih =>
      rw [List.mapM_cons]
      refine (steps item (List.mem_cons_self ..)).bind fun result first => ?_
      refine (ih fun other member => steps other (List.mem_cons_of_mem _ member)).bind ?_
      exact fun results others => .ok (List.forall_mem_cons.mpr ⟨first, others⟩)

end Ensures

end GuestFlow
