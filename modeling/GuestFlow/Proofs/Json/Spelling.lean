import GuestFlow.Proofs.Script.Syntax

/-!
# Values as JSON spells them

Characters spell a value if the JSON reader takes them for it wherever they stand
(`Json.Spells`).  A value is followed by a gap or by a mark that ends it (`Script.Ends`), and the
reader calls itself at most twice for every character.

Arrays and objects are spelled part by part: behind an item or a member stands the closing
bracket, or a comma and what comes next (`Json.ItemsBehind`, `Json.MembersBehind`), with gaps
wherever they may be.
-/

set_option autoImplicit false

namespace GuestFlow

namespace Script

/-! ## Where values end -/

/-- The characters that may follow a value. -/
def isDelimiter (character : Char) : Bool :=
  [' ', '\n', '\r', ',', ']', '\x7d'].contains character

/-- A value may end in front of these characters. -/
def Ends (rest : List Char) : Prop := ∀ next ∈ rest.head?, isDelimiter next = true

theorem Ends.gap {rest : List Char} (ends : Ends rest) (gap : Gap) :
    Ends (gap.characters ++ rest) := by
  cases gap with
  | nil => exact ends
  | cons blank gap =>
      intro next member
      cases member
      cases blank <;> decide

theorem Ends.of_isDelimiter {mark : Char} (delimiter : isDelimiter mark = true)
    (rest : List Char) : Ends (mark :: rest) := by
  intro next member
  cases member
  exact delimiter

theorem Ends.not_isDigit {rest : List Char} (ends : Ends rest) :
    ∀ next ∈ rest.head?, next.isDigit = false := by
  intro next member
  have delimiters : ∀ mark ∈ [' ', '\n', '\r', ',', ']', '\x7d'], mark.isDigit = false :=
    List.forall_iff_forall_mem.mp (by decide)
  exact delimiters next (List.contains_iff_mem.mp (ends next member))

/-! ## Gaps -/

theorem isSpace_of_mem_gap {gap : Gap} :
    ∀ character ∈ gap.characters, Json.isSpace character = true := by
  intro character member
  obtain ⟨blank, _, rfl⟩ := List.mem_map.mp member
  cases blank <;> rfl

theorem skipSpace_gap (gap : Gap) (rest : List Char) :
    Json.skipSpace (gap.characters ++ rest) = Json.skipSpace rest :=
  List.dropWhile_append_of_pos isSpace_of_mem_gap

theorem skipSpace_cons {first : Char} (solid : Json.isSpace first = false) (rest : List Char) :
    Json.skipSpace (first :: rest) = first :: rest :=
  List.dropWhile_cons_of_neg (by simp [solid])

/-- A gap is skipped up to a mark behind it. -/
theorem skipSpace_mark (gap : Gap) {mark : Char} (solid : Json.isSpace mark = false)
    (rest : List Char) : Json.skipSpace (gap.characters ++ mark :: rest) = mark :: rest := by
  rw [skipSpace_gap, skipSpace_cons solid]

end Script

namespace Json

open Script (Gap Ends skipSpace_gap skipSpace_cons skipSpace_mark)

/-- Characters that the reader takes for a value, wherever they stand. -/
structure Spells (characters : List Char) (value : Value) : Prop where
  begins : ∃ first later, characters = first :: later ∧ isSpace first = false ∧ first ≠ ']'
  reads (fuel : Nat) (rest : List Char) : 2 * characters.length ≤ fuel → Ends rest →
    readValue fuel (characters ++ rest) = .ok (value, rest)

/-- What the reader takes for a value without calling itself spells the value. -/
theorem Spells.of_scalar {characters : List Char} {value : Value}
    (begins : ∃ first later, characters = first :: later ∧ isSpace first = false ∧ first ≠ ']')
    (reads : ∀ (fuel : Nat) (rest : List Char), Ends rest →
      readValue (fuel + 1) (characters ++ rest) = .ok (value, rest)) :
    Spells characters value where
  begins := begins
  reads fuel rest enough ends := by
    obtain ⟨first, later, rfl, -⟩ := begins
    rw [List.length_cons] at enough
    obtain ⟨fuel, rfl⟩ : ∃ less, fuel = less + 1 := Nat.exists_eq_add_one.mpr (by omega)
    exact reads fuel rest ends

/-- What begins with a bracket needs fuel only for what stands behind it. -/
theorem Spells.of_bracket {first : Char} {later : List Char} {value : Value}
    (solid : isSpace first = false) (differs : first ≠ ']')
    (reads : ∀ (fuel : Nat) (rest : List Char), 2 * later.length < fuel → Ends rest →
      readValue (fuel + 1) (first :: (later ++ rest)) = .ok (value, rest)) :
    Spells (first :: later) value where
  begins := ⟨first, later, rfl, solid, differs⟩
  reads fuel rest enough ends := by
    rw [List.length_cons] at enough
    obtain ⟨fuel, rfl⟩ : ∃ less, fuel = less + 1 := Nat.exists_eq_add_one.mpr (by omega)
    exact reads fuel rest (by omega) ends

/-- A gap is skipped up to the value behind it. -/
theorem Spells.skipSpace_eq {characters : List Char} {value : Value}
    (spells : Spells characters value) (gap : Gap) (rest : List Char) :
    skipSpace (gap.characters ++ (characters ++ rest)) = characters ++ rest := by
  obtain ⟨first, later, rfl, solid, -⟩ := spells.begins
  exact skipSpace_mark gap solid _

/-! ## Steps of the reader -/

section Steps

variable (fuel : Nat) (rest content : List Char)

theorem readValue_quote : readValue (fuel + 1) ('"' :: rest) =
    (readString ('"' :: rest) none rest).bind fun (content, left) =>
      .ok (.text (String.ofList content), left) := rfl

theorem readValue_bracket : readValue (fuel + 1) ('[' :: rest) =
    match skipSpace rest with
    | ']' :: left => .ok (.list [], left)
    | items => (readItems fuel items).bind fun (values, left) => .ok (.list values, left) :=
  rfl

theorem readValue_brace : readValue (fuel + 1) ('\x7b' :: rest) =
    match skipSpace rest with
    | '\x7d' :: left => .ok (.record [], left)
    | members => (readMembers fuel members).bind fun (entries, left) =>
      .ok (.record (Record.ofEntries entries), left) := rfl

theorem readItems_succ : readItems (fuel + 1) content =
    (readValue fuel content).bind fun (value, afterValue) =>
      match skipSpace afterValue with
      | ']' :: left => .ok ([value], left)
      | ',' :: rest => (readItems fuel (skipSpace rest)).bind fun (values, left) =>
        .ok (value :: values, left)
      | other => complain .comma other := rfl

theorem readMembers_succ : readMembers (fuel + 1) ('"' :: rest) =
    (readString ('"' :: rest) none rest).bind fun (name, afterName) =>
      match skipSpace afterName with
      | ':' :: afterColon =>
        (readValue fuel (skipSpace afterColon)).bind fun (value, afterValue) =>
          match skipSpace afterValue with
          | '\x7d' :: left => .ok ([(.text (String.ofList name), value)], left)
          | ',' :: later => (readMembers fuel (skipSpace later)).bind fun (entries, left) =>
            .ok ((.text (String.ofList name), value) :: entries, left)
          | other => complain .comma other
      | other => complain .colon other := rfl

end Steps

/-! ## Strings -/

/-- A name in quotes, as the reader takes it. -/
def Quotes (characters name : List Char) : Prop :=
  ∃ inner, characters = '"' :: inner ∧
    ∀ start rest, readString start none (inner ++ rest) = .ok (name, rest)

theorem Quotes.spells {characters name : List Char} (quotes : Quotes characters name) :
    Spells characters (.text (String.ofList name)) := by
  obtain ⟨inner, rfl, read⟩ := quotes
  refine .of_scalar ⟨_, _, rfl, by decide⟩ fun fuel rest _ => ?_
  rw [List.cons_append, readValue_quote, read]
  rfl

/-! ## Arrays -/

/-- What stands behind an item of an array, up to its closing bracket, with the items there. -/
inductive ItemsBehind : List Char → List Value → Prop where
  | close (after : Gap) : ItemsBehind (after.characters ++ [']']) []
  | next (after before : Gap) {characters behind : List Char} {value : Value}
      {values : List Value} (spells : Spells characters value)
      (later : ItemsBehind behind values) :
      ItemsBehind (after.characters ++ ',' :: (before.characters ++ (characters ++ behind)))
        (value :: values)

section Arrays

variable {characters behind : List Char} {value : Value} {values : List Value}

theorem ItemsBehind.ends (later : ItemsBehind behind values) (rest : List Char) :
    Ends (behind ++ rest) := by
  cases later with
  | close after =>
      rw [List.append_assoc]
      exact (Ends.of_isDelimiter (by decide) rest).gap after
  | next after =>
      rw [List.append_assoc]
      exact (Ends.of_isDelimiter (by decide) _).gap after

/-- The items of an array are read one after another. -/
theorem ItemsBehind.readItems_eq (later : ItemsBehind behind values)
    (spells : Spells characters value) (fuel : Nat) (rest : List Char)
    (enough : 2 * (characters.length + behind.length) ≤ fuel) :
    readItems fuel (characters ++ (behind ++ rest)) = .ok (value :: values, rest) := by
  have ends := later.ends rest
  induction later generalizing characters value fuel with
  | close after =>
      rw [List.length_append, List.length_singleton] at enough
      obtain ⟨fuel, rfl⟩ : ∃ less, fuel = less + 1 := Nat.exists_eq_add_one.mpr (by omega)
      rw [readItems_succ, spells.reads fuel _ (by omega) ends]
      dsimp only [Except.bind]
      rw [List.append_assoc, List.singleton_append, skipSpace_mark after (by decide)]
      rfl
  | next after before next later ih =>
      simp only [List.length_append, List.length_cons] at enough
      obtain ⟨fuel, rfl⟩ : ∃ less, fuel = less + 1 := Nat.exists_eq_add_one.mpr (by omega)
      have read := ih next fuel (by omega) (later.ends rest)
      rw [readItems_succ, spells.reads fuel _ (by omega) ends]
      dsimp only [Except.bind]
      simp only [List.append_assoc, List.cons_append]
      rw [skipSpace_mark after (by decide)]
      simp only [next.skipSpace_eq, read]

theorem Spells.emptyArray (gap : Gap) : Spells ('[' :: (gap.characters ++ [']'])) (.list []) := by
  refine .of_bracket (by decide) (by decide) fun fuel rest _ _ => ?_
  rw [readValue_bracket, List.append_assoc, List.singleton_append,
    skipSpace_mark gap (by decide)]
  rfl

theorem Spells.array (before : Gap) (first : Spells characters value)
    (later : ItemsBehind behind values) :
    Spells ('[' :: (before.characters ++ (characters ++ behind))) (.list (value :: values)) := by
  refine .of_bracket (by decide) (by decide) fun fuel rest enough _ => ?_
  simp only [List.length_append] at enough
  have read := later.readItems_eq first fuel rest (by omega)
  rw [readValue_bracket, List.append_assoc, List.append_assoc, first.skipSpace_eq]
  obtain ⟨mark, content, rfl, -, differs⟩ := first.begins
  split
  · rename_i closed
    exact absurd (List.cons.inj closed).1 differs
  · rw [read]
    rfl

end Arrays

/-! ## Objects -/

/-- A member of an object: a name, a colon and a value, with gaps around the colon. -/
inductive IsMember : List Char → Value × Value → Prop where
  | intro (before after : Gap) {name meant characters : List Char} {value : Value}
      (quotes : Quotes name meant) (spells : Spells characters value) :
      IsMember (name ++ (before.characters ++ ':' :: (after.characters ++ characters)))
        (.text (String.ofList meant), value)

/-- What stands behind a member of an object, up to its closing brace, with the members there. -/
inductive MembersBehind : List Char → List (Value × Value) → Prop where
  | close (after : Gap) : MembersBehind (after.characters ++ ['\x7d']) []
  | next (after before : Gap) {characters behind : List Char} {entry : Value × Value}
      {entries : List (Value × Value)} (member : IsMember characters entry)
      (later : MembersBehind behind entries) :
      MembersBehind (after.characters ++ ',' :: (before.characters ++ (characters ++ behind)))
        (entry :: entries)

section Objects

variable {characters behind : List Char} {entry : Value × Value} {entries : List (Value × Value)}

theorem MembersBehind.ends (later : MembersBehind behind entries) (rest : List Char) :
    Ends (behind ++ rest) := by
  cases later with
  | close after =>
      rw [List.append_assoc]
      exact (Ends.of_isDelimiter (by decide) rest).gap after
  | next after =>
      rw [List.append_assoc]
      exact (Ends.of_isDelimiter (by decide) _).gap after

theorem IsMember.exists_quote (member : IsMember characters entry) :
    ∃ later, characters = '"' :: later := by
  cases member with
  | intro before after quotes spells =>
      obtain ⟨inner, rfl, -⟩ := quotes
      exact ⟨_, rfl⟩

theorem IsMember.skipSpace_eq (member : IsMember characters entry) (gap : Gap)
    (rest : List Char) :
    skipSpace (gap.characters ++ (characters ++ rest)) = characters ++ rest := by
  obtain ⟨later, rfl⟩ := member.exists_quote
  exact skipSpace_mark gap (by decide) _

/-- A member is read, and then what stands behind it. -/
theorem IsMember.readMembers_eq (member : IsMember characters entry) {fuel : Nat}
    {rest : List Char} (enough : 2 * characters.length ≤ fuel) (ends : Ends rest) :
    readMembers (fuel + 1) (characters ++ rest) =
      match skipSpace rest with
      | '\x7d' :: left => .ok ([entry], left)
      | ',' :: later => (readMembers fuel (skipSpace later)).bind fun (entries, left) =>
        .ok (entry :: entries, left)
      | other => complain .comma other := by
  cases member with
  | intro before after quotes spells =>
      obtain ⟨inner, rfl, read⟩ := quotes
      simp only [List.length_append, List.length_cons] at enough
      simp only [List.cons_append, List.append_assoc]
      rw [readMembers_succ, read]
      dsimp only [Except.bind]
      rw [skipSpace_mark before (by decide)]
      simp only [spells.skipSpace_eq, spells.reads fuel _ (by omega) ends]

/-- The members of an object are read one after another. -/
theorem MembersBehind.readMembers_eq (later : MembersBehind behind entries)
    (member : IsMember characters entry) (fuel : Nat) (rest : List Char)
    (enough : 2 * (characters.length + behind.length) ≤ fuel) :
    readMembers fuel (characters ++ (behind ++ rest)) = .ok (entry :: entries, rest) := by
  have ends := later.ends rest
  induction later generalizing characters entry fuel with
  | close after =>
      rw [List.length_append, List.length_singleton] at enough
      obtain ⟨fuel, rfl⟩ : ∃ less, fuel = less + 1 := Nat.exists_eq_add_one.mpr (by omega)
      rw [member.readMembers_eq (by omega) ends, List.append_assoc, List.singleton_append,
        skipSpace_mark after (by decide)]
      rfl
  | next after before next later ih =>
      simp only [List.length_append, List.length_cons] at enough
      obtain ⟨fuel, rfl⟩ : ∃ less, fuel = less + 1 := Nat.exists_eq_add_one.mpr (by omega)
      have read := ih next fuel (by omega) (later.ends rest)
      rw [member.readMembers_eq (by omega) ends]
      simp only [List.append_assoc, List.cons_append]
      rw [skipSpace_mark after (by decide)]
      simp only [next.skipSpace_eq, read]
      rfl

theorem Spells.emptyObject (gap : Gap) :
    Spells ('\x7b' :: (gap.characters ++ ['\x7d'])) (.record []) := by
  refine .of_bracket (by decide) (by decide) fun fuel rest _ _ => ?_
  rw [readValue_brace, List.append_assoc, List.singleton_append, skipSpace_mark gap (by decide)]
  rfl

theorem Spells.object (before : Gap) (first : IsMember characters entry)
    (later : MembersBehind behind entries) :
    Spells ('\x7b' :: (before.characters ++ (characters ++ behind)))
      (.record (Record.ofEntries (entry :: entries))) := by
  refine .of_bracket (by decide) (by decide) fun fuel rest enough _ => ?_
  simp only [List.length_append] at enough
  have read := later.readMembers_eq first fuel rest (by omega)
  rw [readValue_brace, List.append_assoc, List.append_assoc, first.skipSpace_eq]
  obtain ⟨content, rfl⟩ := first.exists_quote
  rw [List.cons_append] at read ⊢
  split
  · rename_i closed
    exact absurd (List.cons.inj closed).1 (by decide)
  · rw [read]
    rfl

end Objects

/-! ## Whole texts -/

/-- Characters that spell a value are read as it. -/
theorem Spells.readCharacters_eq {characters : List Char} {value : Value}
    (spells : Spells characters value) (before after : Gap) :
    readCharacters (before.characters ++ (characters ++ after.characters)) = .ok value := by
  have ends : Ends after.characters := by
    have ends := @Ends.gap [] (fun _ member => by cases member) after
    rwa [List.append_nil] at ends
  have closed : skipSpace after.characters = [] := by
    have skipped := skipSpace_gap after []
    rwa [List.append_nil] at skipped
  unfold readCharacters
  rw [spells.skipSpace_eq, spells.reads _ _ (by simp only [List.length_append]; omega) ends]
  dsimp only [bind, Except.bind]
  rw [closed]

theorem readValue_mark (fuel : Nat) (rest : List Char) :
    readValue (fuel + 1) ('\ufeff' :: rest) = complain .value ('\ufeff' :: rest) := rfl

/-- No value begins with a mark of the byte order. -/
theorem Spells.ne_mark {first : Char} {later : List Char} {value : Value}
    (spells : Spells (first :: later) value) : first ≠ '\ufeff' := by
  rintro rfl
  have read := spells.reads _ [] (Nat.le_succ _) (fun _ member => nomatch member)
  cases (readValue_mark _ _).symm.trans read

/-- **A text that spells a value is read as it**, whatever gaps are around it. -/
theorem Spells.read_eq {characters : List Char} {value : Value}
    (spells : Spells characters value) (before after : Gap) :
    read (String.ofList (before.characters ++ (characters ++ after.characters))) = .ok value := by
  unfold read
  rw [String.toList_ofList]
  split
  · rename_i marked
    cases before with
    | nil =>
        obtain ⟨first, later, rfl, -⟩ := spells.begins
        cases marked
        exact absurd rfl spells.ne_mark
    | cons blank gap => cases blank <;> cases marked
  · exact spells.readCharacters_eq before after

end Json

end GuestFlow
