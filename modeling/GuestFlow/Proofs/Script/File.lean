import GuestFlow.Document.Source
import GuestFlow.Proofs.Script.Node

/-!
# Scripts in texts and in files

A document is read as YAML when it is given as a text, and as JSON when it is given as a file
with that suffix.  For a page this makes no difference (`texts_read_like_files`): the same
definition comes out, or the same fault.  On the way from a file every end of a line becomes a
line feed, which can only change a page in its gaps (`Script.Page.exists_plain`).

What JSON has beyond scripts is another matter.  A number with an exponent and no point is a
number in the file and a word in the text (`Booth.exponent_parts_text_from_file`).
-/

set_option autoImplicit false

namespace GuestFlow

open Utf8 (plainLines)

namespace Script

/-! ## Ends of lines -/

theorem plainLines_cons {first : Char} (noReturn : first ≠ '\r') (rest : List Char) :
    plainLines (first :: rest) = first :: plainLines rest := by
  rw [plainLines]
  · exact fun _ same _ => noReturn same
  · exact fun same => noReturn same

theorem plainLines_append {text : List Char} (noReturn : '\r' ∉ text) (rest : List Char) :
    plainLines (text ++ rest) = text ++ plainLines rest := by
  induction text with
  | nil => rfl
  | cons first later ih =>
      rw [List.mem_cons, not_or] at noReturn
      rw [List.cons_append, plainLines_cons (Ne.symm noReturn.1), ih noReturn.2]
      rfl

theorem noReturn_of_line {text : List Char}
    (line : ∀ character ∈ text, Yaml.isBreak character = false) : '\r' ∉ text := by
  intro member
  cases line _ member

/-- A gap whose lines end in line feeds. -/
def plainGap : Gap → Gap
  | [] => []
  | .carriageReturn :: .lineFeed :: gap => .lineFeed :: plainGap gap
  | .carriageReturn :: gap => .lineFeed :: plainGap gap
  | blank :: gap => blank :: plainGap gap

/-- No line feed stands here, so that the end of a line in front is whole. -/
def Begins (rest : List Char) : Prop := ∀ next ∈ rest.head?, next ≠ '\n'

theorem plainLines_gap (gap : Gap) {rest : List Char} (begins : Begins rest) :
    plainLines (gap.characters ++ rest) = (plainGap gap).characters ++ plainLines rest := by
  induction gap using plainGap.induct with
  | case1 => rfl
  | case2 gap ih => exact congrArg ('\n' :: ·) ih
  | case3 gap single ih =>
      have noFeed (later : List Char) : Gap.characters gap ++ rest = '\n' :: later → False := by
        intro same
        cases gap with
        | nil =>
            rw [Gap.characters, List.map_nil, List.nil_append] at same
            exact begins '\n' (by rw [same]; rfl) rfl
        | cons blank gap =>
            cases blank with
            | lineFeed => exact single gap rfl
            | space => cases same
            | carriageReturn => cases same
      have ended : plainLines ('\r' :: (Gap.characters gap ++ rest)) =
          '\n' :: plainLines (Gap.characters gap ++ rest) := by
        rw [plainLines]
        exact noFeed
      rw [plainGap]
      · exact ended.trans (congrArg ('\n' :: ·) ih)
      · exact single
  | case4 blank gap paired single ih =>
      have differs : blank.character ≠ '\r' := by
        cases blank with
        | carriageReturn => exact absurd rfl single
        | space | lineFeed => decide
      rw [plainGap]
      · exact (plainLines_cons differs _).trans (congrArg (blank.character :: ·) ih)
      · exact paired
      · exact single

theorem Begins.cons {first : Char} (noFeed : first ≠ '\n') (rest : List Char) :
    Begins (first :: rest) := by
  intro next member
  cases member
  exact noFeed

theorem begins_script (script : Script) (rest : List Char) :
    Begins (script.characters ++ rest) := by
  obtain ⟨first, later, written, beginning⟩ := script.exists_beginning
  rw [written]
  refine .cons ?_ _
  rintro rfl
  cases beginning

theorem begins_items (others : List (Item Script)) {rest : List Char} (begins : Begins rest) :
    Begins (itemCharacters others ++ rest) := by
  cases others with
  | nil => exact begins
  | cons item others => exact .cons (by decide) _

theorem begins_members (others : List (Member Script)) {rest : List Char}
    (begins : Begins rest) : Begins (memberCharacters others ++ rest) := by
  cases others with
  | nil => exact begins
  | cons member others => exact .cons (by decide) _

theorem line_quoted (glyphs : List Glyph) :
    ∀ character ∈ Glyph.quoted glyphs, Yaml.isBreak character = false := by
  rw [Glyph.quoted, List.forall_mem_cons, List.forall_mem_append]
  exact ⟨rfl, fun character member => (isAllowed_of_mem_text character member).2,
    List.forall_mem_singleton.mpr rfl⟩

theorem line_name (name : Name) :
    ∀ character ∈ name.characters, Yaml.isBreak character = false := by
  rw [Name.characters, List.forall_mem_append]
  refine ⟨line_quoted name.glyphs, fun character member => ?_⟩
  rw [List.eq_of_mem_replicate member]
  rfl

/-- The second script is written like the first with line feeds at the ends of lines. -/
def IsPlain (script plain : Script) : Prop :=
  ∀ rest, plainLines (script.characters ++ rest) = plain.characters ++ plainLines rest

/-- Where no line ends nothing changes. -/
theorem isPlain_of_line {script : Script}
    (line : ∀ character ∈ script.characters, Yaml.isBreak character = false) :
    IsPlain script script :=
  plainLines_append (noReturn_of_line line)

section Parts

variable {content plain : Script} {rest : List Char}

theorem plainLines_item (lines : IsPlain content plain) (before after : Gap)
    (begins : Begins rest) :
    plainLines (before.characters ++ (content.characters ++ (after.characters ++ rest))) =
      (plainGap before).characters ++ (plain.characters ++
        ((plainGap after).characters ++ plainLines rest)) := by
  rw [plainLines_gap before (begins_script _ _), lines, plainLines_gap after begins]

theorem plainLines_member (lines : IsPlain content plain) (before : Gap) (name : Name)
    (between after : Gap) (begins : Begins rest) :
    plainLines (before.characters ++ (name.characters ++ ':' :: (between.characters ++
      (content.characters ++ (after.characters ++ rest))))) =
        (plainGap before).characters ++ (name.characters ++ ':' :: ((plainGap between).characters ++
          (plain.characters ++ ((plainGap after).characters ++ plainLines rest)))) := by
  have beginsName (later : List Char) : Begins (name.characters ++ later) := .cons (by decide) _
  rw [plainLines_gap before (beginsName _), plainLines_append (noReturn_of_line (line_name name)),
    plainLines_cons (by decide), plainLines_item lines between after begins]

end Parts

theorem exists_plain_items {others : List (Item Script)}
    (each : ∀ item ∈ others, ∃ plain, IsPlain item.content plain ∧
      plain.value = item.content.value) :
    ∃ plain : List (Item Script), itemValues plain = itemValues others ∧
      ∀ rest, Begins rest → plainLines (itemCharacters others ++ rest) =
        itemCharacters plain ++ plainLines rest := by
  induction others with
  | nil => exact ⟨[], rfl, fun _ _ => rfl⟩
  | cons item others ih =>
      obtain ⟨before, content, after⟩ := item
      rw [List.forall_mem_cons] at each
      obtain ⟨⟨plain, lines, same⟩, ofOthers⟩ := each
      obtain ⟨plains, sames, linesLater⟩ := ih ofOthers
      refine ⟨⟨plainGap before, plain, plainGap after⟩ :: plains, ?_, fun rest begins => ?_⟩
      · rw [itemValues, itemValues, same, sames]
      · simp only [itemCharacters, List.cons_append, List.append_assoc]
        rw [plainLines_cons (by decide),
          plainLines_item lines before after (begins_items others begins), linesLater rest begins]

theorem exists_plain_members {others : List (Member Script)}
    (each : ∀ member ∈ others, ∃ plain, IsPlain member.content plain ∧
      plain.value = member.content.value) :
    ∃ plain : List (Member Script), memberValues plain = memberValues others ∧
      ∀ rest, Begins rest → plainLines (memberCharacters others ++ rest) =
        memberCharacters plain ++ plainLines rest := by
  induction others with
  | nil => exact ⟨[], rfl, fun _ _ => rfl⟩
  | cons member others ih =>
      obtain ⟨before, name, between, content, after⟩ := member
      rw [List.forall_mem_cons] at each
      obtain ⟨⟨plain, lines, same⟩, ofOthers⟩ := each
      obtain ⟨plains, sames, linesLater⟩ := ih ofOthers
      refine ⟨⟨plainGap before, name, plainGap between, plain, plainGap after⟩ :: plains, ?_,
        fun rest begins => ?_⟩
      · rw [memberValues, memberValues, same, sames]
      · simp only [memberCharacters, List.cons_append, List.append_assoc]
        rw [plainLines_cons (by decide),
          plainLines_member lines before name between after (begins_members others begins),
          linesLater rest begins]

/-- A script whose lines end in line feeds says the same. -/
theorem exists_plain (script : Script) :
    ∃ plain, IsPlain script plain ∧ plain.value = script.value := by
  induction script using induct with
  | word said =>
      refine ⟨_, isPlain_of_line ?_, rfl⟩
      cases said <;> exact List.forall_iff_forall_mem.mp (by decide)
  | number figure =>
      refine ⟨_, isPlain_of_line fun character member => ?_, rfl⟩
      refine @forall_isDigitOr (fun character => Yaml.isBreak character = false) _
        (fun digit isDigit => ?_) (by decide) character (figure.areMarks character member)
      have bounds := bounds_of_isDigit isDigit
      exact (isAllowed_of_bounds (by omega)).2
  | string glyphs => exact ⟨_, isPlain_of_line (line_quoted glyphs), rfl⟩
  | emptyArray gap =>
      refine ⟨.emptyArray (plainGap gap), fun rest => ?_, rfl⟩
      simp only [characters, List.cons_append, List.append_assoc, List.nil_append]
      rw [plainLines_cons (by decide), plainLines_gap gap (.cons (by decide) _),
        plainLines_cons (by decide)]
  | array first others ofFirst each =>
      obtain ⟨before, content, after⟩ := first
      obtain ⟨plain, lines, same⟩ := ofFirst
      obtain ⟨plains, sames, linesLater⟩ := exists_plain_items each
      refine ⟨.array ⟨plainGap before, plain, plainGap after⟩ plains, fun rest => ?_, ?_⟩
      · have begins : Begins (']' :: rest) := .cons (by decide) rest
        simp only [characters, List.cons_append, List.append_assoc, List.nil_append]
        rw [plainLines_cons (by decide),
          plainLines_item lines before after (begins_items others begins), linesLater _ begins,
          plainLines_cons (by decide)]
      · rw [value, value, same, sames]
  | emptyObject gap =>
      refine ⟨.emptyObject (plainGap gap), fun rest => ?_, rfl⟩
      simp only [characters, List.cons_append, List.append_assoc, List.nil_append]
      rw [plainLines_cons (by decide), plainLines_gap gap (.cons (by decide) _),
        plainLines_cons (by decide)]
  | object first others ofFirst each =>
      obtain ⟨before, name, between, content, after⟩ := first
      obtain ⟨plain, lines, same⟩ := ofFirst
      obtain ⟨plains, sames, linesLater⟩ := exists_plain_members each
      refine ⟨.object ⟨plainGap before, name, plainGap between, plain, plainGap after⟩ plains,
        fun rest => ?_, ?_⟩
      · have begins : Begins ('\x7d' :: rest) := .cons (by decide) rest
        simp only [characters, List.cons_append, List.append_assoc, List.nil_append]
        rw [plainLines_cons (by decide),
          plainLines_member lines before name between after (begins_members others begins),
          linesLater _ begins, plainLines_cons (by decide)]
      · rw [value, value, same, sames]

/-- A page whose lines end in line feeds is a page, and says the same. -/
theorem Page.exists_plain (page : Page) : ∃ plain : Page,
    plain.characters = plainLines page.characters ∧ plain.root.value = page.root.value := by
  obtain ⟨root, lines, same⟩ := page.root.exists_plain
  have begins : Begins [] := fun _ member => by cases member
  have whole := plainLines_item lines page.before page.after begins
  refine ⟨⟨plainGap page.before, root, plainGap page.after⟩, ?_, same⟩
  rw [List.append_nil, plainLines, List.append_nil] at whole
  exact whole.symm

end Script

/-! ## Documents -/

namespace Document

variable (page : Script.Page) (supply : IdSupply)

/-- Given as a text, a page is read as YAML. -/
theorem readText_page :
    (readText supply page.text).2 = definition supply page.root.value := by
  unfold readText readYaml
  rw [page.readYaml]
  rfl

/-- What a reading of a file gives, apart from the journal. -/
theorem readPath_result (tree : Tree) (path : Path) :
    (readPath tree supply path).2 = (readResult supply (fileValue tree path)).2 := by
  unfold readPath
  generalize readResult supply (fileValue tree path) = read
  obtain ⟨journal, result⟩ := read
  cases result <;> rfl

section Held

variable {tree : Tree} {path : Path} {bytes : List UInt8} {characters : List Char}
  (suffix : plainSuffix path = "json") (named : path.hasNull = false)
  (held : tree.content path = .ok bytes) (spells : Utf8.decode bytes = .ok characters)

include suffix named held spells

/-- A file with the suffix for it is read as JSON. -/
theorem fileValue_json :
    fileValue tree path = readJson (String.ofList (plainLines characters)) := by
  have text : fileText tree path = .ok (String.ofList (plainLines characters)) := by
    unfold fileText
    rw [named, if_neg Bool.false_ne_true, held]
    dsimp only
    rw [spells]
  have form : Form.ofSuffix? "json" = some .json := by decide
  unfold fileValue
  rw [suffix]
  dsimp only
  rw [form]
  dsimp only [bind, Except.bind]
  rw [text]
  rfl

end Held

/-- Held by a file with the suffix for it, a page is read as JSON. -/
theorem readPath_page {tree : Tree} {path : Path} {bytes : List UInt8}
    (suffix : plainSuffix path = "json") (named : path.hasNull = false)
    (held : tree.content path = .ok bytes) (spells : Utf8.decode bytes = .ok page.characters) :
    (readPath tree supply path).2 = definition supply page.root.value := by
  obtain ⟨plain, lines, same⟩ := page.exists_plain
  have read : readJson (String.ofList plain.characters) = .ok plain.root.value := by
    unfold readJson
    rw [show Json.read (String.ofList plain.characters) = _ from plain.readJson]
  rw [readPath_result, fileValue_json suffix named held spells, ← lines, read, same]
  rfl

end Document

/-- **A document that JSON and YAML write in the same way is the same definition, or the same
fault, whether it is given as a text or held by a file.** -/
theorem texts_read_like_files (page : Script.Page) (supply : IdSupply) {tree : Tree}
    {path : Path} {bytes : List UInt8} (suffix : Document.plainSuffix path = "json")
    (named : path.hasNull = false) (held : tree.content path = .ok bytes)
    (spells : Utf8.decode bytes = .ok page.characters) :
    (Document.readText supply page.text).2 = (Document.readPath tree supply path).2 :=
  (Document.readText_page page supply).trans
    (Document.readPath_page page supply suffix named held spells).symm

namespace Booth

open Script

/-- Characters that stand for themselves. -/
def letters (text : List Char) : List Glyph :=
  text.filterMap fun character =>
    if plain : isPlain character = true then some (.plain character plain) else none

/-- A small page: a workflow without steps. -/
def leaflet : Page where
  before := []
  root := .object
    ⟨[.carriageReturn, .lineFeed], ⟨letters ['n', 'a', 'm', 'e'], 0, by decide⟩, [.space],
      .string (letters ['B', 'o', 'o', 't', 'h']), []⟩
    [⟨[.carriageReturn, .lineFeed], ⟨letters ['s', 't', 'e', 'p', 's'], 1, by decide⟩, [],
      .object ⟨[], ⟨letters ['n', 'o', 'd', 'e', 's'], 0, by decide⟩, [], .emptyArray [], []⟩ [],
      [.carriageReturn, .lineFeed]⟩]
  after := []

/-- The bytes of plain characters. -/
def bytesOf (text : List Char) : List UInt8 :=
  text.map fun character => UInt8.ofNat character.toNat

def drawer (text : List Char) : Tree := .ofEntries [("booth.json", .file (bytesOf text))]

def leafletFile : Path := .ofText "booth.json"

theorem leaflet_reads_like_its_file :
    Document.plainSuffix leafletFile = "json" ∧ leafletFile.hasNull = false ∧
      (drawer leaflet.characters).content leafletFile = .ok (bytesOf leaflet.characters) ∧
      Utf8.decode (bytesOf leaflet.characters) = .ok leaflet.characters ∧
      (Document.readText ⟨0⟩ leaflet.text).2.isOk = true ∧
      (Document.readText ⟨0⟩ leaflet.text).2 =
        (Document.readPath (drawer leaflet.characters) ⟨0⟩ leafletFile).2 := by
  have suffix : Document.plainSuffix leafletFile = "json" := by decide +kernel
  have named : leafletFile.hasNull = false := by decide +kernel
  have held : (drawer leaflet.characters).content leafletFile =
      .ok (bytesOf leaflet.characters) := by decide +kernel
  have spells : Utf8.decode (bytesOf leaflet.characters) = .ok leaflet.characters := by
    decide +kernel
  have read : (Document.definition ⟨0⟩ leaflet.root.value).isOk = true := by decide +kernel
  exact ⟨suffix, named, held, spells, by rw [Document.readText_page]; exact read,
    texts_read_like_files leaflet ⟨0⟩ suffix named held spells⟩

/-- The step of this workflow waits for a number that has an exponent and no point. -/
def powerful : List Char :=
  ("\x7b\"id\":\"booth\",\"name\":\"Photo booth\",\"steps\":\x7b\"nodes\":[\x7b\"id\":\"touch\"," ++
    "\"type\":\"TOUCH_TO_START\",\"config\":\x7b\"seconds\":1e5\x7d\x7d]\x7d\x7d").toList

/-- **A number with an exponent and no point is a number in a file and a word in a text.**  Both
are accepted, with different definitions. -/
theorem exponent_parts_text_from_file :
    let given := (Document.readText ⟨0⟩ (String.ofList powerful)).2
    let held := (Document.readPath (drawer powerful) ⟨0⟩ leafletFile).2
    given.isOk = true ∧ held.isOk = true ∧
      given.map (·.1.toDocument) ≠ held.map (·.1.toDocument) := by
  decide +kernel

end Booth

end GuestFlow
