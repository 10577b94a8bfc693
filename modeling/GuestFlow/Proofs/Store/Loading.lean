import Mathlib.Data.String.Basic
import GuestFlow.Proofs.Store.Shelf
import GuestFlow.Proofs.Workflow.Checking
import GuestFlow.Store.Definitions

/-!
# Loading a directory

The files of a directory are read in the order of their names, and a file that holds no
usable definition is passed over, so that one broken file does not keep the others from
loading.  `loading_stops_over_broken_files` says how far this goes.

A file is passed over when reading it ends with a fault about definitions.  It can also end
with a fault of another kind: its bytes are no text, its text has a part that no value can be
built from, or the reader or the check breaks down over what it holds
(`DefinitionStore.Breaks`).  Such a file ends the loading, and what comes after it is not
even read: one byte is enough (`Booth.spoiled_album_ends_loading`).

Whether a file is usable does not depend on the ids that are fresh at the time, though the id
of its definition may (`Document.definition_of_ok`).
-/

set_option autoImplicit false

namespace GuestFlow

/-! ## Fresh ids -/

namespace Document

variable {document : Record} {value : Value} {supply after : IdSupply} {definition : Definition}
  {fault : Fault}

theorem readChecked_of_ok (read : readChecked supply document = .ok (definition, after))
    (other : IdSupply) :
    ∃ id later, readChecked other document = .ok ({ definition with id }, later) := by
  obtain ⟨nodes, bound, rest⟩ := bind_eq_ok_iff.mp read
  obtain ⟨given, found, built⟩ := bind_eq_ok_iff.mp rest
  cases given with
  | some id =>
      cases built
      exact ⟨id, other, bind_eq_ok_iff.mpr ⟨nodes, bound, bind_eq_ok_iff.mpr ⟨_, found, rfl⟩⟩⟩
  | none =>
      cases built
      exact ⟨_, _, bind_eq_ok_iff.mpr ⟨nodes, bound, bind_eq_ok_iff.mpr ⟨_, found, rfl⟩⟩⟩

theorem readChecked_of_error (failed : readChecked supply document = .error fault)
    (other : IdSupply) : readChecked other document = .error fault := by
  rcases bind_eq_error_iff.mp failed with unbound | ⟨nodes, bound, failed⟩
  · exact bind_eq_error_iff.mpr (.inl unbound)
  · rcases bind_eq_error_iff.mp failed with unnamed | ⟨given, _, built⟩
    · exact bind_eq_error_iff.mpr (.inr ⟨nodes, bound, bind_eq_error_iff.mpr (.inl unnamed)⟩)
    · cases given <;> cases built

/-- With other fresh ids, a value describes the same definition, perhaps under another id. -/
theorem definition_of_ok (described : Document.definition supply value = .ok (definition, after))
    (other : IdSupply) :
    ∃ id later, Document.definition other value = .ok ({ definition with id }, later) := by
  unfold Document.definition at described ⊢
  split at described
  · obtain ⟨found, looked, described⟩ := bind_eq_ok_iff.mp described
    split at described
    · rename_i nothing
      obtain ⟨id, later, again⟩ := readChecked_of_ok described other
      exact ⟨id, later, bind_eq_ok_iff.mpr ⟨found, looked, (if_pos nothing).trans again⟩⟩
    · cases described
  · cases described

/-- With other fresh ids, a value that describes nothing fails in the same way. -/
theorem definition_of_error (failed : Document.definition supply value = .error fault)
    (other : IdSupply) : Document.definition other value = .error fault := by
  unfold Document.definition at failed ⊢
  split at failed
  · rcases bind_eq_error_iff.mp failed with unchecked | ⟨found, looked, failed⟩
    · exact bind_eq_error_iff.mpr (.inl unchecked)
    · refine bind_eq_error_iff.mpr (.inr ⟨found, looked, ?_⟩)
      split at failed
      · rename_i nothing
        exact (if_pos nothing).trans (readChecked_of_error failed other)
      · rename_i some
        exact (if_neg some).trans failed
  · exact failed

/-- The value in a file whose suffix says what it holds. -/
theorem fileValue_of_form {tree : Tree} {path : Path} {form : Form}
    (suffix : Form.ofSuffix? (plainSuffix path) = some form) :
    fileValue tree path = fileText tree path >>= form.read := by
  unfold fileValue
  dsimp only
  rw [suffix]

/-- Reading a file is reading the value that it holds. -/
theorem readPath_eq_bind (tree : Tree) (supply : IdSupply) (path : Path) :
    (readPath tree supply path).2 = fileValue tree path >>= Document.definition supply := by
  unfold readPath readResult read
  cases fileValue tree path with
  | error fault => rfl
  | ok value =>
      dsimp only
      cases computed : Document.definition supply value with
      | error fault => exact computed.symm
      | ok result => exact computed.symm

end Document

/-- The id of a definition plays no part in what is wrong with it. -/
theorem problemsOf_id (definition : Definition) (dropped : List String) (id : String) :
    problemsOf { definition with id } dropped = problemsOf definition dropped := rfl

/-- The id of a definition plays no part in whether it makes a graph. -/
theorem Graph.exists_ofDefinition_id {definition : Definition} {graph : Graph}
    (built : ofDefinition definition = .ok graph) (id : String) :
    ∃ other, ofDefinition { definition with id } = .ok other := by
  have clean := (ofDefinition_eq_ok built).1
  rw [← problemsOf_id definition [] id] at clean
  exact (ofDefinition_of_problems clean).resolve_right fun ⟨broken, _⟩ => broken rfl

/-- A definition that gives no graph and is not faulted for it cannot be checked. -/
theorem Graph.ofDefinition_eq_error_iff {definition : Definition} {fault : Fault}
    (other : fault.isDefinitionFault = false) :
    ofDefinition definition = .error fault ↔ problemsOf definition [] = .error fault := by
  refine ⟨fun failed => ?_, fun failed => bind_eq_error_iff.mpr (.inl failed)⟩
  cases checked : problemsOf definition [] with
  | error first =>
      have same : ofDefinition definition = .error first := bind_eq_error_iff.mpr (.inl checked)
      rw [failed] at same
      cases same
      rfl
  | ok found =>
      rcases ofDefinition_of_problems checked with ⟨graph, built⟩ | ⟨_, summary, told⟩
      · rw [failed] at built
        cases built
      · rw [failed] at told
        cases told
        cases other

namespace DefinitionStore

/-! ## What a file comes to -/

/-- The file is read as a definition, and that makes a graph. -/
def Holds (tree : Tree) (path : Path) (definition : Definition) : Prop :=
  ∃ supply after graph, (Document.readPath tree supply path).2 = .ok (definition, after) ∧
    Graph.ofDefinition definition = .ok graph

/-- The file holds a definition. -/
def Accepts (tree : Tree) (path : Path) : Prop := ∃ definition, Holds tree path definition

/-- Reading the file ends with a fault that is not about definitions. -/
inductive Breaks (tree : Tree) (path : Path) : Fault → Prop where
  | nullInPath (null : path.hasNull = true) : Breaks tree path .nullInPath
  | notUtf8 {bytes : List UInt8} {complaint : Utf8.Complaint} (plain : path.hasNull = false)
      (content : tree.content path = .ok bytes)
      (garbled : Utf8.decode bytes = .error complaint) :
      Breaks tree path (.notUtf8 complaint.message)
  | unbuildable {form : Document.Form} {text : String} {fault : Fault}
      (suffix : Document.Form.ofSuffix? (Document.plainSuffix path) = some form)
      (content : Document.fileText tree path = .ok text) (fails : form.read text = .error fault)
      (other : fault.isDefinitionFault = false) : Breaks tree path fault
  | undescribed {value : Value} {fault : Fault}
      (content : Document.fileValue tree path = .ok value)
      (fails : ∀ supply, Document.definition supply value = .error fault)
      (cause : value.IsTooLong fault ∨ Document.NodeFails value fault) : Breaks tree path fault
  | unchecked {value : Value} {supply after : IdSupply} {definition : Definition} {node : Node}
      {fault : Fault} (content : Document.fileValue tree path = .ok value)
      (described : Document.definition supply value = .ok (definition, after))
      (fails : problemsOf definition [] = .error fault) (member : node ∈ definition.nodes)
      (cause : node.CheckFails fault) : Breaks tree path fault

section File

variable {tree : Tree} {path : Path} {fault : Fault}

theorem readUsable_result (tree : Tree) (supply : IdSupply) (path : Path) :
    (readUsable tree supply path).1.2 = (Document.readPath tree supply path).2 >>= fun result =>
      (Graph.ofDefinition result.1).map fun _ => result := by
  unfold readUsable
  obtain ⟨journal, result⟩ := Document.readPath tree supply path
  cases result with
  | error fault => rfl
  | ok result =>
      obtain ⟨definition, after⟩ := result
      dsimp only
      cases built : Graph.ofDefinition definition with
      | error fault => simp [bind, Except.bind, built, Except.map]
      | ok graph => simp [bind, Except.bind, built, Except.map]

/-- A file is usable when it holds a value, the value describes a definition, and that makes a
graph. -/
theorem readUsable_eq_ok_iff {supply : IdSupply} {result : Definition × IdSupply} :
    (readUsable tree supply path).1.2 = .ok result ↔
      ∃ value graph, Document.fileValue tree path = .ok value ∧
        Document.definition supply value = .ok result ∧
        Graph.ofDefinition result.1 = .ok graph := by
  rw [readUsable_result, Document.readPath_eq_bind]
  constructor
  · intro worked
    obtain ⟨_, read, checked⟩ := bind_eq_ok_iff.mp worked
    obtain ⟨value, content, described⟩ := bind_eq_ok_iff.mp read
    obtain ⟨graph, built, rfl⟩ := map_eq_ok_iff.mp checked
    exact ⟨value, graph, content, described, built⟩
  · rintro ⟨value, graph, content, described, built⟩
    exact bind_eq_ok_iff.mpr ⟨result, bind_eq_ok_iff.mpr ⟨value, content, described⟩,
      map_eq_ok_iff.mpr ⟨graph, built, rfl⟩⟩

/-- A file fails at the first of the three stages that fails. -/
theorem readUsable_eq_error_iff {supply : IdSupply} :
    (readUsable tree supply path).1.2 = .error fault ↔
      Document.fileValue tree path = .error fault ∨
      ∃ value, Document.fileValue tree path = .ok value ∧
        (Document.definition supply value = .error fault ∨
          ∃ result, Document.definition supply value = .ok result ∧
            Graph.ofDefinition result.1 = .error fault) := by
  rw [readUsable_result, Document.readPath_eq_bind, bind_eq_error_iff, bind_eq_error_iff]
  simp only [bind_eq_ok_iff, map_eq_error_iff]
  constructor
  · rintro ((unread | ⟨value, content, undescribed⟩) |
      ⟨result, ⟨value, content, described⟩, failed⟩)
    · exact .inl unread
    · exact .inr ⟨value, content, .inl undescribed⟩
    · exact .inr ⟨value, content, .inr ⟨result, described, failed⟩⟩
  · rintro (unread | ⟨value, content, undescribed | ⟨result, described, failed⟩⟩)
    · exact .inl (.inl unread)
    · exact .inl (.inr ⟨value, content, undescribed⟩)
    · exact .inr ⟨result, ⟨value, content, described⟩, failed⟩

theorem holds_iff {definition : Definition} :
    Holds tree path definition ↔
      ∃ supply after, (readUsable tree supply path).1.2 = .ok (definition, after) := by
  unfold Holds
  refine exists_congr fun supply => exists_congr fun after => ?_
  rw [Document.readPath_eq_bind, readUsable_eq_ok_iff]
  simp only [bind_eq_ok_iff]
  constructor
  · rintro ⟨graph, ⟨value, content, described⟩, built⟩
    exact ⟨value, graph, content, described, built⟩
  · rintro ⟨value, graph, content, described, built⟩
    exact ⟨graph, ⟨value, content, described⟩, built⟩

/-- Whether a file holds a definition does not depend on the ids that are fresh. -/
theorem accepts_iff (supply : IdSupply) :
    Accepts tree path ↔ ∃ result, (readUsable tree supply path).1.2 = .ok result := by
  constructor
  · rintro ⟨definition, holds⟩
    obtain ⟨_, _, worked⟩ := holds_iff.mp holds
    obtain ⟨value, graph, content, described, built⟩ := readUsable_eq_ok_iff.mp worked
    obtain ⟨id, later, again⟩ := Document.definition_of_ok described supply
    obtain ⟨other, builtAgain⟩ := Graph.exists_ofDefinition_id built id
    exact ⟨_, readUsable_eq_ok_iff.mpr ⟨value, other, content, again, builtAgain⟩⟩
  · rintro ⟨⟨definition, after⟩, worked⟩
    exact ⟨definition, holds_iff.mpr ⟨supply, after, worked⟩⟩

theorem exists_form_of_isCandidate (candidate : isCandidate path = true) :
    ∃ form, Document.Form.ofSuffix? (Document.plainSuffix path) = some form := by
  unfold isCandidate at candidate
  unfold Document.plainSuffix
  generalize Letter.small path.suffix = suffix at candidate
  simp only [List.contains_iff_mem, List.mem_cons, List.not_mem_nil, or_false] at candidate
  rcases candidate with rfl | rfl | rfl
  · exact ⟨.yaml, rfl⟩
  · exact ⟨.yaml, rfl⟩
  · exact ⟨.json, rfl⟩

/-- The content of a file breaks the reader before any document is there. -/
theorem breaks_of_fileValue (candidate : isCandidate path = true)
    (failed : Document.fileValue tree path = .error fault)
    (other : fault.isDefinitionFault = false) : Breaks tree path fault := by
  obtain ⟨form, suffix⟩ := exists_form_of_isCandidate candidate
  rw [Document.fileValue_of_form suffix] at failed
  rcases bind_eq_error_iff.mp failed with unread | ⟨text, content, fails⟩
  · unfold Document.fileText at unread
    split at unread
    · rename_i null
      cases unread
      exact .nullInPath null
    · rename_i plain
      split at unread
      · cases unread
        cases other
      · rename_i bytes content
        split at unread
        · cases unread
        · rename_i complaint garbled
          cases unread
          exact .notUtf8 (Bool.eq_false_iff.mpr plain) content garbled
  · exact .unbuildable suffix content fails other

/-- Whether a file breaks the reader does not depend on the ids that are fresh either. -/
theorem breaks_iff (candidate : isCandidate path = true) (supply : IdSupply) :
    Breaks tree path fault ↔
      (readUsable tree supply path).1.2 = .error fault ∧ fault.isDefinitionFault = false := by
  rw [readUsable_eq_error_iff]
  constructor
  · intro breaks
    obtain ⟨form, suffix⟩ := exists_form_of_isCandidate candidate
    cases breaks with
    | nullInPath null =>
        refine ⟨.inl ?_, rfl⟩
        rw [Document.fileValue_of_form suffix, Document.fileText, if_pos null]
        rfl
    | notUtf8 plain content garbled =>
        refine ⟨.inl ?_, rfl⟩
        rw [Document.fileValue_of_form suffix, Document.fileText, plain, content]
        dsimp only
        rw [garbled]
        rfl
    | unbuildable suffix content fails other =>
        refine ⟨.inl ?_, other⟩
        rw [Document.fileValue_of_form suffix]
        exact bind_eq_error_iff.mpr (.inr ⟨_, content, fails⟩)
    | undescribed content fails cause =>
        refine ⟨.inr ⟨_, content, .inl (fails supply)⟩, ?_⟩
        rcases cause with long | fails
        · rw [long.fault_eq]
          rfl
        · exact fails.isDefinitionFault
    | unchecked content described fails member cause =>
        obtain ⟨id, later, again⟩ := Document.definition_of_ok described supply
        refine ⟨.inr ⟨_, content, .inr ⟨_, again, ?_⟩⟩, cause.lookUpFails.isDefinitionFault⟩
        exact bind_eq_error_iff.mpr (.inl fails)
  · rintro ⟨unread | ⟨value, content, undescribed | ⟨⟨_, _⟩, described, failed⟩⟩, other⟩
    · exact breaks_of_fileValue candidate unread other
    · refine .undescribed content (Document.definition_of_error undescribed) ?_
      have cause := Document.definition_fails supply value fault undescribed
      exact cause.resolve_left (by simp [other])
    · have fails := (Graph.ofDefinition_eq_error_iff other).mp failed
      obtain ⟨node, member, breaks⟩ := exists_of_mapM_error (problemsOf_eq_error_iff.mp fails)
      exact .unchecked content described fails member (nodeProblems_eq_error_iff.mp breaks)

/-- A file that breaks the reader holds no definition. -/
theorem Accepts.not_breaks (candidate : isCandidate path = true) (accepts : Accepts tree path) :
    ¬Breaks tree path fault := by
  intro breaks
  obtain ⟨_, worked⟩ := (accepts_iff ⟨0⟩).mp accepts
  have failed := ((breaks_iff candidate ⟨0⟩).mp breaks).1
  rw [worked] at failed
  cases failed

end File

/-! ## File after file -/

/-- How loading ends: all files have been read, or the first one that is left breaks the reader. -/
inductive Stops (tree : Tree) : List Path → Option Fault → Prop where
  | finished : Stops tree [] none
  | broken {path : Path} {later : List Path} {fault : Fault} (breaks : Breaks tree path fault) :
      Stops tree (path :: later) (some fault)

section Run

variable {tree : Tree} {path : Path} {loading : Loading}

/-- A fault that ended the loading is not overcome. -/
theorem foldl_loadPath_of_fault {fault : Fault} (ended : loading.fault = some fault)
    (paths : List Path) : paths.foldl (loadPath tree) loading = loading := by
  induction paths with
  | nil => rfl
  | cons path rest ih =>
      have kept : loadPath tree loading path = loading := by
        unfold loadPath
        rw [ended]
      rw [List.foldl_cons, kept, ih]

theorem loadPath_of_ok {definition : Definition} {after : IdSupply} (going : loading.fault = none)
    (worked : (readUsable tree loading.supply path).1.2 = .ok (definition, after)) :
    (loadPath tree loading path).store = loading.store.save definition ∧
      (loadPath tree loading path).ids = loading.ids ++ [definition.id] ∧
      (loadPath tree loading path).fault = none := by
  unfold loadPath
  rw [going]
  dsimp only
  rw [worked]
  exact ⟨rfl, rfl, rfl⟩

theorem loadPath_of_error {fault : Fault} (going : loading.fault = none)
    (failed : (readUsable tree loading.supply path).1.2 = .error fault) :
    (loadPath tree loading path).store = loading.store ∧
      (loadPath tree loading path).ids = loading.ids ∧
      (loadPath tree loading path).fault =
        if fault.isDefinitionFault = true then none else some fault := by
  unfold loadPath
  rw [going]
  dsimp only
  rw [failed]
  dsimp only
  split
  · exact ⟨rfl, rfl, rfl⟩
  · exact ⟨rfl, rfl, rfl⟩

/-- **What loading one file does.** -/
theorem loadPath_cases (candidate : isCandidate path = true) (going : loading.fault = none) :
    (∃ definition, Holds tree path definition ∧
        (loadPath tree loading path).store = loading.store.save definition ∧
        (loadPath tree loading path).ids = loading.ids ++ [definition.id] ∧
        (loadPath tree loading path).fault = none) ∨
      ¬Accepts tree path ∧ (loadPath tree loading path).store = loading.store ∧
        (loadPath tree loading path).ids = loading.ids ∧
        ((∀ fault, ¬Breaks tree path fault) ∧ (loadPath tree loading path).fault = none ∨
          ∃ fault, Breaks tree path fault ∧ (loadPath tree loading path).fault = some fault) := by
  cases reading : (readUsable tree loading.supply path).1.2 with
  | ok result =>
      obtain ⟨definition, after⟩ := result
      exact .inl ⟨definition, holds_iff.mpr ⟨_, after, reading⟩, loadPath_of_ok going reading⟩
  | error fault =>
      obtain ⟨store, ids, ended⟩ := loadPath_of_error going reading
      have breaks {other : Fault} := (@breaks_iff tree path other candidate loading.supply)
      rw [reading] at breaks
      refine .inr ⟨fun accepts => ?_, store, ids, ?_⟩
      · obtain ⟨_, worked⟩ := (accepts_iff loading.supply).mp accepts
        rw [reading] at worked
        cases worked
      · cases kind : fault.isDefinitionFault with
        | true =>
            refine .inl ⟨fun other broken => ?_, by rw [ended, if_pos kind]⟩
            obtain ⟨same, foreign⟩ := breaks.mp broken
            cases same
            rw [kind] at foreign
            cases foreign
        | false => exact .inr ⟨fault, breaks.mpr ⟨rfl, kind⟩, by rw [ended, kind]; rfl⟩

open Classical in
/-- **Loading goes on over the files that do not break the reader, and keeps what those hold that
hold anything.** -/
theorem foldl_loadPath {paths : List Path} (candidates : ∀ path ∈ paths, isCandidate path = true)
    (going : loading.fault = none) :
    ∃ before left definitions, paths = before ++ left ∧
      (∀ path ∈ before, ∀ fault, ¬Breaks tree path fault) ∧
      List.Forall₂ (Holds tree) (before.filter fun path => Accepts tree path) definitions ∧
      (paths.foldl (loadPath tree) loading).ids = loading.ids ++ definitions.map Definition.id ∧
      (paths.foldl (loadPath tree) loading).store = definitions.foldl save loading.store ∧
      Stops tree left (paths.foldl (loadPath tree) loading).fault := by
  induction paths generalizing loading with
  | nil => exact ⟨[], [], [], rfl, by simp, .nil, by simp, rfl, going ▸ .finished⟩
  | cons path rest ih =>
      rw [List.forall_mem_cons] at candidates
      rw [List.foldl_cons]
      rcases @loadPath_cases tree path loading candidates.1 going with
        ⟨definition, holds, store, ids, next⟩ |
        ⟨refused, store, ids, ⟨unbroken, next⟩ | ⟨fault, breaks, ended⟩⟩
      · have accepts : Accepts tree path := ⟨definition, holds⟩
        obtain ⟨before, left, definitions, rfl, fine, hold, allIds, all, stops⟩ :=
          ih candidates.2 next
        refine ⟨path :: before, left, definition :: definitions, rfl,
          List.forall_mem_cons.mpr ⟨fun _ => accepts.not_breaks candidates.1, fine⟩, ?_, ?_, ?_,
          stops⟩
        · rw [List.filter_cons, if_pos (decide_eq_true accepts)]
          exact .cons holds hold
        · rw [allIds, ids, List.append_assoc]
          rfl
        · rw [all, store]
          rfl
      · obtain ⟨before, left, definitions, rfl, fine, hold, allIds, all, stops⟩ :=
          ih candidates.2 next
        refine ⟨path :: before, left, definitions, rfl,
          List.forall_mem_cons.mpr ⟨unbroken, fine⟩, ?_, ?_, ?_, stops⟩
        · rwa [List.filter_cons, if_neg (by simpa using refused)]
        · rw [allIds, ids]
        · rw [all, store]
      · rw [foldl_loadPath_of_fault ended, ended]
        exact ⟨[], path :: rest, [], rfl, by simp, .nil, by simp [ids], store, .broken breaks⟩

end Run

/-- The definition under an id is the last one that was saved with it, or the one from before. -/
theorem get?_foldl_save (definitions : List Definition) (store : DefinitionStore) (id : String) :
    (definitions.foldl save store).get? id =
      (definitions.reverse.find? fun definition => definition.id == id).or (store.get? id) := by
  induction definitions generalizing store with
  | nil => rfl
  | cons definition rest ih =>
      rw [List.foldl_cons, ih, List.reverse_cons, List.find?_append, Option.or_assoc]
      refine congrArg _ ?_
      by_cases same : definition.id = id
      · subst same
        simp [save]
      · rw [List.find?_cons_of_neg (by simpa using same)]
        exact Shelf.get?_put_of_ne (Ne.symm same) store definition

end DefinitionStore

/-! ## The files of a directory -/

/-- Without later repetitions, the items of a list are all different. -/
theorem nodup_eraseDups {α : Type} [DecidableEq α] : (items : List α) → items.eraseDups.Nodup
  | [] => by rw [List.eraseDups_nil]; exact .nil
  | item :: rest => by
    rw [List.eraseDups_cons, List.nodup_cons]
    exact ⟨by simp, nodup_eraseDups (rest.filter fun other => !other == item)⟩
termination_by items => items.length
decreasing_by exact Nat.lt_succ_of_le (List.length_filter_le _ _)

namespace Tree

/-- Something of that name lies in the directory. -/
def HasChild (tree : Tree) (directory : Path) (name : String) : Prop :=
  ∃ here kind inside entry, tree.find directory = .ok (here, kind) ∧
    (here ++ name :: inside, entry) ∈ tree.entries

theorem mem_names_iff {tree : Tree} {directory : Path} {name : String} :
    name ∈ tree.names directory ↔ tree.HasChild directory name := by
  unfold names HasChild
  cases found : tree.find directory with
  | error obstacle => simp
  | ok place =>
      obtain ⟨here, kind⟩ := place
      dsimp only
      rw [(List.mergeSort_perm _ _).mem_iff, List.mem_eraseDups, List.mem_filterMap]
      constructor
      · rintro ⟨⟨trail, entry⟩, member, next⟩
        obtain ⟨within, next⟩ := Option.ite_none_right_eq_some.mp next
        obtain ⟨rest, rfl⟩ := List.isPrefixOf_iff_prefix.mp within
        cases rest with
        | nil => simp at next
        | cons first inside =>
            obtain rfl : first = name := by simpa using next
            exact ⟨here, kind, inside, entry, rfl, member⟩
      · rintro ⟨_, _, inside, entry, same, member⟩
        cases same
        refine ⟨_, member, ?_⟩
        simp

/-- The names in a directory are listed in their order, each once. -/
theorem names_pairwise (tree : Tree) (directory : Path) :
    (tree.names directory).Pairwise (· < ·) := by
  unfold names
  cases tree.find directory with
  | error obstacle => exact .nil
  | ok place =>
      obtain ⟨here, kind⟩ := place
      dsimp only
      generalize tree.entries.filterMap _ = inside
      have sorted := @List.pairwise_mergeSort _ (fun left right : String => decide (left ≤ right))
        (fun _ _ _ => by simpa using String.le_trans) (by simpa using String.le_total)
        inside.eraseDups
      have distinct : (inside.eraseDups.mergeSort fun left right => decide (left ≤ right)).Nodup :=
        (List.mergeSort_perm _ _).nodup_iff.mpr (nodup_eraseDups inside)
      refine (sorted.and distinct).imp fun ⟨below, differ⟩ => ?_
      exact lt_of_le_of_ne (of_decide_eq_true below) differ

end Tree

namespace DefinitionStore

/-- The paths are those in a directory with a suffix of definitions, in the order of their names. -/
structure AreCandidates (tree : Tree) (directory : Path) (paths : List Path) : Prop where
  mem_iff : ∀ path, path ∈ paths ↔ Letter.small path.suffix ∈ [".yaml", ".yml", ".json"] ∧
    ∃ name, tree.HasChild directory name ∧ path = directory.child name
  sorted : (paths.map Path.name).Pairwise (· < ·)

theorem areCandidates (tree : Tree) (directory : Path) :
    AreCandidates tree directory
      (((tree.names directory).map directory.child).filter isCandidate) := by
  constructor
  · intro path
    unfold isCandidate
    rw [List.mem_filter, List.contains_iff_mem, List.mem_map, and_comm]
    refine and_congr_right' (exists_congr fun name => ?_)
    rw [Tree.mem_names_iff, eq_comm]
  · have names : ((tree.names directory).map directory.child).map Path.name =
        tree.names directory := by
      rw [List.map_map]
      exact List.map_id'' (fun name => by simp [Path.name, Path.child]) _
    have sorted := tree.names_pairwise directory
    rw [← names] at sorted
    exact sorted.sublist (List.filter_sublist.map _)

end DefinitionStore

namespace Booth

/-- A document of one node, as the bytes of a file. -/
def touchFile (id : String) : List UInt8 :=
  ("\x7b\"id\": \"" ++ id ++ "\", \"steps\": \x7b\"nodes\": [\x7b\"id\": \"touch\", " ++
    "\"type\": \"TOUCH_TO_START\"\x7d]\x7d\x7d").toList.map
      fun character => UInt8.ofNat character.toNat

/-- The definition in that file. -/
def touchDefinition (id : String) : Definition where
  id
  name := ""
  description := none
  nodes := [⟨"touch", Kind.touchToStart, "", [], [], false, []⟩]
  version := "1.0.0"
  flowType := none
  metadata := []

/-- A directory with two such files, and between them one of a single byte, which is no text. -/
def spoiledShelf : Tree :=
  Tree.ofEntries [("defs/able.json", .file (touchFile "able")), ("defs/album.yaml", .file [0xff]),
    ("defs/booth.json", .file (touchFile "booth"))]

def shelfPath : Path := Path.ofText "defs"

theorem listing_spoiledShelf :
    spoiledShelf.isDirectory shelfPath = true ∧
      spoiledShelf.names shelfPath = ["able.json", "album.yaml", "booth.json"] := by
  obtain ⟨found, named, inside, inOrder⟩ :
      spoiledShelf.find shelfPath = .ok (["defs"], .directory) ∧ shelfPath.hasNull = false ∧
        (spoiledShelf.entries.filterMap fun inside =>
          if ["defs"].isPrefixOf inside.1 then inside.1[1]? else none).eraseDups =
            ["able.json", "album.yaml", "booth.json"] ∧
        ["able.json", "album.yaml", "booth.json"].Pairwise
          (fun left right => decide (left ≤ right) = true) := by decide +kernel
  unfold Tree.isDirectory Tree.names
  rw [found, named]
  exact ⟨rfl, (congrArg (List.mergeSort · _) inside).trans (List.mergeSort_of_pairwise inOrder)⟩

theorem loadDirectory_spoiledShelf :
    (DefinitionStore.readUsable spoiledShelf ⟨0⟩ (shelfPath.child "booth.json")).1.2 =
        .ok (touchDefinition "booth", ⟨0⟩) ∧
      (DefinitionStore.loadDirectory spoiledShelf .empty ⟨0⟩ shelfPath).fault =
        some (.notUtf8
          "'utf-8' codec can't decode byte 0xff in position 0: invalid start byte") ∧
      (DefinitionStore.loadDirectory spoiledShelf .empty ⟨0⟩ shelfPath).ids = ["able"] ∧
      (DefinitionStore.loadDirectory spoiledShelf .empty ⟨0⟩ shelfPath).store.get? "booth" =
        none := by
  unfold DefinitionStore.loadDirectory
  rw [if_pos listing_spoiledShelf.1, listing_spoiledShelf.2]
  decide +kernel

end Booth

end GuestFlow
