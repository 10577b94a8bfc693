import GuestFlow.Proofs.Fallible
import GuestFlow.Value.Order

/-!
# Sorting succeeds where comparing does

A sort by a comparison that can fail only compares items of the list it sorts.  If any
two of them have an order, it therefore returns a list (`sortWith_ok`); texts always
have one (`sortWith_texts`).  If it fails, it fails as the comparison does
(`sortWith_fails`), and if it returns a list, the items are those that were given
(`sortWith_perm`).
-/

set_option autoImplicit false

namespace GuestFlow

section Sorting

variable {α : Type} {below : α → α → Except Fault Bool} {Comparable : α → Prop}
  (decided : ∀ left right, Comparable left → Comparable right →
    ∃ answer, below left right = .ok answer)
include decided

/-- A run at the front and what remains behind it make up the list. -/
theorem extendRun_ok (falling : Bool) (items : List α)
    (comparable : ∀ item ∈ items, Comparable item) (last : α) (lastComparable : Comparable last) :
    ∃ run remaining, extendRun below falling last items = .ok (run, remaining) ∧
      run ++ remaining = items := by
  induction items generalizing last with
  | nil => exact ⟨[], [], rfl, rfl⟩
  | cons item rest ih =>
      have itemComparable := comparable item (List.mem_cons_self ..)
      obtain ⟨drops, answered⟩ := decided item last itemComparable lastComparable
      by_cases continues : drops = falling
      · obtain ⟨run, remaining, extended, whole⟩ :=
          ih (fun other member => comparable other (List.mem_cons_of_mem _ member)) item
            itemComparable
        refine ⟨item :: run, remaining, ?_, by rw [List.cons_append, whole]⟩
        simp [extendRun, answered, continues, extended, bind, Except.bind]
      · exact ⟨[], item :: rest, by simp [extendRun, answered, continues, bind, Except.bind], rfl⟩

/-- Halving a range finds a place. -/
theorem insertionPlace_ok {sorted : List α} (comparable : ∀ item ∈ sorted, Comparable item)
    {item : α} (itemComparable : Comparable item) (fuel low high : Nat) :
    ∃ place, insertionPlace below sorted item fuel low high = .ok place := by
  induction fuel generalizing low high with
  | zero => exact ⟨low, rfl⟩
  | succ fuel ih =>
      unfold insertionPlace
      split
      · dsimp only
        split
        · exact ⟨low, rfl⟩
        · rename_i other found
          have otherComparable := comparable other (List.mem_of_getElem? found)
          obtain ⟨answer, answered⟩ := decided item other itemComparable otherComparable
          rw [answered]
          cases answer with
          | false => exact ih _ _
          | true => exact ih _ _
      · exact ⟨low, rfl⟩

/-- An item is put into a list of comparable items. -/
theorem insertSorted_ok {sorted : List α} (comparable : ∀ item ∈ sorted, Comparable item)
    {item : α} (itemComparable : Comparable item) :
    ∃ longer, insertSorted below sorted item = .ok longer ∧
      ∀ member ∈ longer, Comparable member := by
  obtain ⟨place, found⟩ :=
    insertionPlace_ok decided comparable itemComparable sorted.length 0 sorted.length
  refine ⟨sorted.take place ++ item :: sorted.drop place, ?_, ?_⟩
  · simp [insertSorted, found, bind, Except.bind]
  · intro member inside
    rcases List.mem_append.mp inside with front | back
    · exact comparable member (List.mem_of_mem_take front)
    · rcases List.mem_cons.mp back with rfl | back
      · exact itemComparable
      · exact comparable member (List.mem_of_mem_drop back)

theorem foldlM_insertSorted_ok (items : List α)
    (itemsComparable : ∀ item ∈ items, Comparable item) (sorted : List α)
    (comparable : ∀ item ∈ sorted, Comparable item) :
    ∃ longer, items.foldlM (insertSorted below) sorted = .ok longer := by
  induction items generalizing sorted with
  | nil => exact ⟨sorted, rfl⟩
  | cons item rest ih =>
      obtain ⟨longer, inserted, longerComparable⟩ :=
        insertSorted_ok decided comparable (itemsComparable item (List.mem_cons_self ..))
      rw [List.foldlM_cons, inserted]
      exact ih (fun other member => itemsComparable other (List.mem_cons_of_mem _ member)) longer
        longerComparable

/-- **A list whose items have an order is sorted without a fault.** -/
theorem sortWith_ok (items : List α) (comparable : ∀ item ∈ items, Comparable item) :
    ∃ sorted, sortWith below items = .ok sorted := by
  match items, comparable with
  | [], _ => exact ⟨[], rfl⟩
  | [item], _ => exact ⟨[item], rfl⟩
  | first :: second :: rest, comparable =>
      have firstComparable := comparable first (by simp)
      have secondComparable := comparable second (by simp)
      have restComparable : ∀ item ∈ rest, Comparable item := fun item member =>
        comparable item (by simp [member])
      obtain ⟨falling, answered⟩ := decided second first secondComparable firstComparable
      obtain ⟨run, remaining, extended, whole⟩ :=
        extendRun_ok decided falling rest restComparable second secondComparable
      have runComparable : ∀ item ∈ run, Comparable item := fun item member =>
        restComparable item (whole ▸ List.mem_append_left _ member)
      have remainingComparable : ∀ item ∈ remaining, Comparable item := fun item member =>
        restComparable item (whole ▸ List.mem_append_right _ member)
      have frontComparable : ∀ item ∈ (if falling then (first :: second :: run).reverse
          else first :: second :: run), Comparable item := by
        intro item member
        have inside : item ∈ first :: second :: run := by
          cases falling with
          | false => exact member
          | true => exact List.mem_reverse.mp member
        rcases List.mem_cons.mp inside with rfl | inside
        · exact firstComparable
        · rcases List.mem_cons.mp inside with rfl | inside
          · exact secondComparable
          · exact runComparable item inside
      obtain ⟨sorted, folded⟩ := foldlM_insertSorted_ok decided remaining remainingComparable _
        frontComparable
      refine ⟨sorted, ?_⟩
      simp only [sortWith, answered, extended, bind, Except.bind]
      exact folded

end Sorting

section Failing

variable {α : Type} {below : α → α → Except Fault Bool} {possible : Fault → Prop}
  (failing : ∀ left right, FailsOnlyWith possible (below left right))
include failing

theorem extendRun_fails (falling : Bool) (items : List α) (last : α) :
    FailsOnlyWith possible (extendRun below falling last items) := by
  induction items generalizing last with
  | nil => exact .of_ok _
  | cons item rest ih =>
      unfold extendRun
      refine (failing item last).bind fun drops => ?_
      split
      · exact (ih item).bind fun extended => .of_ok _
      · exact .of_ok _

theorem insertionPlace_fails (sorted : List α) (item : α) (fuel low high : Nat) :
    FailsOnlyWith possible (insertionPlace below sorted item fuel low high) := by
  induction fuel generalizing low high with
  | zero => exact .of_ok low
  | succ fuel ih =>
      unfold insertionPlace
      split
      · dsimp only
        split
        · exact .of_ok low
        · rename_i other _
          refine (failing item other).bind fun answer => ?_
          split
          · exact ih _ _
          · exact ih _ _
      · exact .of_ok low

/-- **A sort fails only with faults of the comparison.** -/
theorem sortWith_fails (items : List α) : FailsOnlyWith possible (sortWith below items) := by
  match items with
  | [] => exact .of_ok []
  | [item] => exact .of_ok [item]
  | first :: second :: rest =>
      refine (failing second first).bind fun falling => ?_
      refine (extendRun_fails failing falling rest second).bind fun extended => ?_
      refine FailsOnlyWith.foldlM _ (fun sorted item => ?_) _
      exact (insertionPlace_fails failing sorted item _ _ _).bind fun place => .of_ok _

end Failing

section Sorted

variable {α : Type} {below : α → α → Except Fault Bool}

theorem append_of_extendRun {falling : Bool} {items : List α} {last : α} {run remaining : List α}
    (extended : extendRun below falling last items = .ok (run, remaining)) :
    run ++ remaining = items := by
  induction items generalizing last run with
  | nil =>
      cases extended
      rfl
  | cons item rest ih =>
      unfold extendRun at extended
      obtain ⟨drops, _, extended⟩ := bind_eq_ok_iff.mp extended
      split at extended
      · obtain ⟨⟨longer, left⟩, further, joined⟩ := bind_eq_ok_iff.mp extended
        cases joined
        exact congrArg (List.cons item) (ih further)
      · cases extended
        rfl

theorem insertSorted_perm {sorted longer : List α} {item : α}
    (inserted : insertSorted below sorted item = .ok longer) : longer.Perm (item :: sorted) := by
  obtain ⟨place, _, joined⟩ := bind_eq_ok_iff.mp inserted
  cases joined
  have moved : (sorted.take place ++ item :: sorted.drop place).Perm
      (item :: (sorted.take place ++ sorted.drop place)) := List.perm_middle
  rwa [List.take_append_drop] at moved

theorem foldlM_insertSorted_perm {items sorted longer : List α}
    (folded : items.foldlM (insertSorted below) sorted = .ok longer) :
    longer.Perm (items ++ sorted) := by
  induction items generalizing sorted with
  | nil =>
      cases folded
      exact .refl _
  | cons item rest ih =>
      rw [List.foldlM_cons] at folded
      obtain ⟨middle, inserted, folded⟩ := bind_eq_ok_iff.mp folded
      have first := (insertSorted_perm inserted).append_left rest
      exact (ih folded).trans (first.trans List.perm_middle)

/-- **A sorted list has the items that were given.** -/
theorem sortWith_perm {items sorted : List α} (succeeds : sortWith below items = .ok sorted) :
    sorted.Perm items := by
  match items with
  | [] =>
      cases succeeds
      exact .refl _
  | [item] =>
      cases succeeds
      exact .refl _
  | first :: second :: rest =>
      obtain ⟨falling, _, succeeds⟩ := bind_eq_ok_iff.mp succeeds
      obtain ⟨⟨run, remaining⟩, extended, folded⟩ := bind_eq_ok_iff.mp succeeds
      have whole := append_of_extendRun extended
      have front : (if falling then (first :: second :: run).reverse
          else first :: second :: run).Perm (first :: second :: run) := by
        cases falling with
        | false => exact .refl _
        | true => exact List.reverse_perm _
      have joined := (foldlM_insertSorted_perm folded).trans (front.append_left remaining)
      rw [← whole]
      exact joined.trans List.perm_append_comm

end Sorted

/-- Texts can be sorted. -/
theorem sortWith_texts {keys : List Value}
    (texts : ∀ key ∈ keys, ∃ name : String, key = .text name) :
    ∃ sorted, sortWith Value.isBelow keys = .ok sorted := by
  refine @sortWith_ok _ _ (fun key => ∃ name : String, key = .text name) ?_ keys texts
  rintro left right ⟨name, rfl⟩ ⟨other, rfl⟩
  exact ⟨decide (name < other), by rw [Value.isBelow]⟩

end GuestFlow
