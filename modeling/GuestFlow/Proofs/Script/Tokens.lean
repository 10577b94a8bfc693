import GuestFlow.Proofs.Script.Scalar
import GuestFlow.Yaml.Layout

/-!
# The tokens of a script

A script has tokens (`Script.tokens`), and `Page.tokens_eq` says that a page is cut into the
tokens of its root.  Inside brackets indentation does not count, so of a layout only a few things
matter (`Stands`): what is left of the text, which tokens were read, and how many brackets are
open.  Every token leads from one such place to the next (`Reaches`).

The names of members are read before it is known that they are names.  At the colon the token for
a key is put in front of the name, and that works because the name is still the candidate: it
began on this line, not too far away (`Awaits`).
-/

set_option autoImplicit false

namespace GuestFlow

open Yaml (Token Layout Candidate Cursor Row)

namespace Script

mutual

/-- The tokens of a script. -/
def tokens : Script → List Token
  | word said => [.scalar said.text true]
  | number figure => [.scalar (String.ofList figure.characters) true]
  | string glyphs => [.scalar (Glyph.content glyphs) false]
  | emptyArray _ => [.flowSequenceStart, .flowSequenceEnd]
  | array ⟨_, content, _⟩ others =>
    .flowSequenceStart :: (content.tokens ++ (itemTokens others ++ [.flowSequenceEnd]))
  | emptyObject _ => [.flowMappingStart, .flowMappingEnd]
  | object ⟨_, name, _, content, _⟩ others =>
    .flowMappingStart :: .key :: .scalar (Glyph.content name.glyphs) false :: .value ::
      (content.tokens ++ (memberTokens others ++ [.flowMappingEnd]))

def itemTokens : List (Item Script) → List Token
  | [] => []
  | ⟨_, content, _⟩ :: rest => .flowEntry :: (content.tokens ++ itemTokens rest)

def memberTokens : List (Member Script) → List Token
  | [] => []
  | ⟨_, name, _, content, _⟩ :: rest =>
    .flowEntry :: .key :: .scalar (Glyph.content name.glyphs) false :: .value ::
      (content.tokens ++ memberTokens rest)

end

/-! ## Places in a script -/

/-- A candidate that may be dropped. -/
def IsOptional (candidate : Option Candidate) : Prop :=
  ∀ key ∈ candidate, key.isRequired = false

/-- What is known of a layout inside a script: the characters that are left, the tokens that were
read, and the number of open brackets. -/
structure Stands (layout : Layout) (left : List Char) (read : List Token) (depth : Nat) :
    Prop where
  standing : layout.cursor.left = left
  tokens : layout.tokens.reversed = read.reverse
  size : layout.tokens.size = read.length
  brackets : layout.enclosing.length = depth
  optional : IsOptional layout.candidate
  enclosing : ∀ candidate ∈ layout.enclosing, IsOptional candidate
  noIndent : layout.indent = -1
  noOuter : layout.outer = []

/-- The candidate began as the token of a number, so many characters ago on the same line. -/
def Awaits (layout : Layout) (place distance : Nat) : Prop :=
  ∃ cursor, layout.candidate = some ⟨place, false, cursor⟩ ∧
    layout.cursor.line = cursor.line ∧ layout.cursor.index = cursor.index + distance

theorem IsOptional.none : IsOptional none := by
  intro key member
  cases member

theorem dropped_eq {candidate : Option Candidate} (optional : IsOptional candidate) :
    Layout.dropped candidate = .ok none := by
  cases candidate with
  | none => rfl
  | some key => simp only [Layout.dropped, optional key rfl, Bool.false_eq_true, if_false]

/-- A candidate that may be dropped is kept or dropped. -/
theorem refreshed_eq (cursor : Cursor) {candidate : Option Candidate}
    (optional : IsOptional candidate) :
    ∃ kept, Layout.refreshed cursor candidate = .ok kept ∧ IsOptional kept ∧
      ∀ key, candidate = some key → key.isAlive cursor = true → kept = candidate := by
  cases candidate with
  | none => exact ⟨none, rfl, .none, fun _ same => by cases same⟩
  | some key =>
      unfold Layout.refreshed
      dsimp only
      by_cases alive : key.isAlive cursor = true
      · rw [if_pos alive]
        exact ⟨some key, rfl, optional, fun _ _ _ => rfl⟩
      · rw [if_neg alive, dropped_eq optional]
        refine ⟨none, rfl, .none, fun other same isAlive => ?_⟩
        cases same
        exact absurd isAlive alive

theorem mapM_refreshed_eq (cursor : Cursor) {candidates : List (Option Candidate)}
    (optional : ∀ candidate ∈ candidates, IsOptional candidate) :
    ∃ kept, candidates.mapM (Layout.refreshed cursor) = .ok kept ∧
      kept.length = candidates.length ∧ ∀ candidate ∈ kept, IsOptional candidate := by
  induction candidates with
  | nil => exact ⟨[], rfl, rfl, fun _ member => nomatch member⟩
  | cons candidate candidates ih =>
      obtain ⟨ofFirst, ofLater⟩ := List.forall_mem_cons.mp optional
      obtain ⟨first, refreshed, optionalFirst, -⟩ := refreshed_eq cursor ofFirst
      obtain ⟨later, mapped, same, optionalLater⟩ := ih ofLater
      refine ⟨first :: later, ?_, congrArg Nat.succ same,
        List.forall_mem_cons.mpr ⟨optionalFirst, optionalLater⟩⟩
      rw [List.mapM_cons, refreshed, mapped]
      rfl

/-! ## Between tokens -/

section Between

variable {layout : Layout} {gap : Gap} {rest : List Char} {read : List Token} {depth : Nat}

/-- A gap is skipped; a key may still begin behind it. -/
theorem skipGaps_eq {fuel : Nat} (enough : gap.length < fuel)
    (standing : layout.cursor.left = gap.characters ++ rest) (starts : Starts rest) :
    ∃ cursor allowed, layout.skipGaps fuel = { layout with cursor := cursor, allowsKey := allowed } ∧
      cursor.left = rest ∧ (layout.allowsKey = true → allowed = true) ∧
      (∀ count, gap = List.replicate count Blank.space → cursor = layout.cursor.skip count) := by
  induction fuel generalizing layout gap with
  | zero => cases enough
  | succ fuel ih =>
      obtain ⟨count, later, rfl, ends, taken, left⟩ := take_spaces standing starts
      have spaces : layout.cursor.skipSpaces = layout.cursor.skip count := by
        rw [Cursor.skipSpaces, Cursor.skipWhile, taken]
      have noComment : (layout.cursor.skip count).skipComment = layout.cursor.skip count := by
        exact if_neg (@here_of_gap _ _ _ (· ≠ '#') (by decide)
          (fun _ front => (noGap_of_isFront front).2.1) left starts)
      unfold Layout.skipGaps
      dsimp only
      rw [spaces, noComment]
      cases later with
      | nil =>
          have noBreak : Yaml.isBreak (layout.cursor.skip count).here = false := by
            cases rest with
            | nil => rw [Cursor.here, left]; decide
            | cons next rest =>
                rw [Cursor.here_eq left]
                exact starts.noBreak next rfl
          rw [noBreak, if_neg Bool.false_ne_true]
          refine ⟨_, layout.allowsKey, rfl, left, id, fun other same => ?_⟩
          have same := congrArg List.length same
          rw [List.append_nil, List.length_replicate, List.length_replicate] at same
          rw [same]
      | cons blank later =>
          have ended : Yaml.isBreak (layout.cursor.skip count).here = true := by
            rw [Cursor.here_eq left]
            exact ends blank rfl
          obtain ⟨shorter, fewer, left'⟩ := takeBreak_gap left starts ended
          simp only [List.length_append, List.length_replicate] at enough
          rw [if_pos ended]
          obtain ⟨cursor, allowed, skipped, standing', allows, -⟩ :=
            @ih { layout with
              cursor := (layout.cursor.skip count).takeBreak.2
              allowsKey := layout.allowsKey || !layout.inBrackets } shorter (by omega) left'
          refine ⟨cursor, allowed, skipped, standing', fun allowed => allows (by simp [allowed]),
            fun other same => ?_⟩
          have member : blank ∈ List.replicate other Blank.space := by
            rw [← same]
            exact List.mem_append_right _ (List.mem_cons_self ..)
          cases List.eq_of_mem_replicate member
          cases ends _ rfl

theorem refresh_eq (stands : Stands layout rest read depth) :
    ∃ refreshed, layout.refresh = .ok refreshed ∧ Stands refreshed rest read depth ∧
      refreshed.cursor = layout.cursor ∧ refreshed.allowsKey = layout.allowsKey ∧
      ∀ key, layout.candidate = some key → key.isAlive layout.cursor = true →
        refreshed.candidate = some key := by
  obtain ⟨enclosing, mapped, same, optional⟩ :=
    mapM_refreshed_eq layout.cursor stands.enclosing
  obtain ⟨candidate, kept, optionalCandidate, alive⟩ :=
    refreshed_eq layout.cursor stands.optional
  refine ⟨{ layout with candidate := candidate, enclosing := enclosing }, ?_, ?_, rfl, rfl, ?_⟩
  · unfold Layout.refresh
    rw [mapped, kept]
    rfl
  · exact { stands with
      brackets := same.trans stands.brackets
      optional := optionalCandidate
      enclosing := optional }
  · exact fun key there isAlive => (alive key there isAlive).trans there

/-- There is no block to end. -/
theorem unwind_eq (stands : Stands layout rest read depth) (column : Int) :
    layout.unwind column = layout := by
  unfold Layout.unwind
  split
  · rfl
  · have noIndent := stands.noIndent
    have noOuter := stands.noOuter
    obtain ⟨cursor, tokens, indent, outer, allowsKey, candidate, enclosing⟩ := layout
    cases noOuter
    rfl

theorem skipByteOrderMark_eq (noMark : layout.cursor.here ≠ '\ufeff') :
    layout.skipByteOrderMark = layout := by
  unfold Layout.skipByteOrderMark
  rw [if_neg (by simp [noMark])]

/-- A layout behind the gap in front of the next token. -/
theorem settle (stands : Stands layout (gap.characters ++ rest) read depth)
    (starts : Starts rest) {lines : Nat} (enough : layout.cursor.left.length ≤ lines) :
    ∃ settled, Stands settled rest read depth ∧
      (layout.allowsKey = true → settled.allowsKey = true) ∧
      (∀ place distance count, Awaits layout place distance →
        gap = List.replicate count Blank.space → distance + count ≤ Yaml.keyLimit →
        Awaits settled place (distance + count)) ∧
      layout.advance lines =
        if rest.isEmpty then settled.finish.map fun last => (last, true)
        else settled.readToken.map fun next => (next, false) := by
  have noMark : layout.cursor.here ≠ '\ufeff' :=
    @here_of_gap _ _ _ (· ≠ '\ufeff') (by decide) (fun _ front => (noGap_of_isFront front).2.2)
      stands.standing starts
  have few : gap.length < lines + 1 := by
    rw [stands.standing, List.length_append, Gap.characters, List.length_map] at enough
    omega
  obtain ⟨cursor, allowed, skipped, standing, allows, along⟩ :=
    skipGaps_eq few stands.standing starts
  have stands' : Stands { layout with cursor := cursor, allowsKey := allowed } rest read depth :=
    { stands with standing := standing }
  obtain ⟨settled, refreshed, settles, sameCursor, sameAllowed, alive⟩ := refresh_eq stands'
  refine ⟨settled, settles, fun allowing => sameAllowed.trans (allows allowing), ?_, ?_⟩
  · intro place distance count awaits spaces near
    obtain ⟨start, there, line, index⟩ := awaits
    have written : layout.cursor.left = List.replicate count ' ' ++ rest := by
      rw [stands.standing, spaces, Gap.characters, List.map_replicate]
      rfl
    have moved := Cursor.skip_along (List.replicate count ' ') written fun character member => by
      rw [List.eq_of_mem_replicate member]
      rfl
    rw [List.length_replicate, ← along count spaces, line, index] at moved
    have isAlive : Candidate.isAlive ⟨place, false, start⟩ cursor = true := by
      simp only [Candidate.isAlive, moved, decide_true, Bool.true_and, decide_eq_true_eq]
      omega
    refine ⟨start, alive _ there isAlive, ?_, ?_⟩
    · rw [sameCursor]
      exact moved.2
    · rw [sameCursor, ← Nat.add_assoc]
      exact moved.1
  · unfold Layout.advance
    rw [skipByteOrderMark_eq noMark]
    dsimp only
    rw [skipped, refreshed]
    dsimp only [bind, Except.bind]
    rw [unwind_eq settles, settles.standing]
    split
    · cases settled.finish <;> rfl
    · cases settled.readToken <;> rfl

end Between

/-! ## Tokens -/

section Token

variable {layout : Layout} {rest : List Char} {read : List Token} {depth : Nat}

/-- A token was added, up to where it ends. -/
theorem Stands.addUpTo {left : List Char} (stands : Stands layout left read depth) (token : Token)
    {after : Cursor} (standing : after.left = rest) :
    Stands (layout.addUpTo token after) rest (read ++ [token]) depth := by
  refine { stands with standing := standing, tokens := ?_, size := ?_ }
  · rw [List.reverse_append]
    exact congrArg (token :: ·) stands.tokens
  · rw [List.length_append]
    exact congrArg (· + 1) stands.size

theorem Stands.allowKey {left : List Char} (stands : Stands layout left read depth)
    (allowed : Bool) : Stands (layout.allowKey allowed) left read depth :=
  { stands with }

theorem Stands.inBrackets {left : List Char} (stands : Stands layout left read depth) :
    layout.inBrackets = decide (0 < depth) := by
  have brackets := stands.brackets
  unfold Layout.inBrackets
  cases opened : layout.enclosing with
  | nil =>
      rw [opened] at brackets
      cases brackets
      rfl
  | cons candidate enclosing =>
      rw [opened] at brackets
      cases brackets
      rfl

theorem dropCandidate_eq (stands : Stands layout rest read depth) :
    layout.dropCandidate = .ok { layout with candidate := none } := by
  unfold Layout.dropCandidate
  rw [dropped_eq stands.optional]
  rfl

theorem Stands.dropped {left : List Char} (stands : Stands layout left read depth) :
    Stands { layout with candidate := none } left read depth :=
  { stands with optional := .none }

/-- What begins here is remembered if a key may begin, and it need not be a key. -/
theorem offerCandidate_eq (stands : Stands layout rest read depth) :
    ∃ offered, layout.offerCandidate = .ok offered ∧ Stands offered rest read depth ∧
      offered.cursor = layout.cursor ∧
      (layout.allowsKey = true →
        offered.candidate = some ⟨read.length, false, layout.cursor⟩) := by
  unfold Layout.offerCandidate
  split
  · have noBlock : (layout.indent == layout.column) = false := by
      rw [stands.noIndent, beq_eq_false_iff_ne, Layout.column]
      omega
    rw [dropCandidate_eq stands]
    dsimp only [bind, Except.bind]
    refine ⟨_, rfl, { stands with optional := ?_ }, rfl, fun _ => ?_⟩
    · intro key member
      cases member
      exact Bool.and_eq_false_iff.mpr (.inr noBlock)
    · have noBlock : (!Layout.inBrackets { layout with candidate := none } &&
          layout.indent == Layout.column { layout with candidate := none }) = false :=
        Bool.and_eq_false_iff.mpr (.inr noBlock)
      rw [noBlock, stands.size]
  · rename_i forbidden
    exact ⟨layout, rfl, stands, rfl, fun allowed => absurd allowed forbidden⟩

theorem openBrackets_eq {mark : Char} (stands : Stands layout (mark :: rest) read depth)
    (token : Token) : ∃ inside, layout.openBrackets token = .ok inside ∧
      Stands inside rest (read ++ [token]) (depth + 1) ∧ inside.allowsKey = true := by
  obtain ⟨offered, offering, stands', sameCursor, -⟩ := offerCandidate_eq stands
  have standing : offered.cursor.step.left = rest := by
    rw [Cursor.step_left, stands'.standing]
    rfl
  have opened : Stands { offered with
      enclosing := offered.candidate :: offered.enclosing, candidate := none, allowsKey := true }
      (mark :: rest) read (depth + 1) :=
    { stands' with
      brackets := congrArg (· + 1) stands'.brackets
      optional := .none
      enclosing := List.forall_mem_cons.mpr ⟨stands'.optional, stands'.enclosing⟩ }
  unfold Layout.openBrackets
  rw [offering]
  exact ⟨_, rfl, opened.addUpTo token standing, rfl⟩

theorem closeBrackets_eq {mark : Char} (stands : Stands layout (mark :: rest) read (depth + 1))
    (token : Token) : ∃ outside, layout.closeBrackets token = .ok outside ∧
      Stands outside rest (read ++ [token]) depth := by
  have standing : layout.cursor.step.left = rest := by
    rw [Cursor.step_left, stands.standing]
    rfl
  obtain ⟨candidate, enclosing, open'⟩ : ∃ candidate enclosing,
      layout.enclosing = candidate :: enclosing :=
    List.exists_cons_of_length_eq_add_one stands.brackets
  have brackets := stands.brackets
  have optional := stands.enclosing
  rw [open'] at brackets optional
  rw [List.forall_mem_cons] at optional
  have closed : Stands { layout with
      candidate := candidate, enclosing := enclosing, allowsKey := false }
      (mark :: rest) read depth :=
    { stands with
      brackets := Nat.succ.inj brackets
      optional := optional.1
      enclosing := optional.2 }
  unfold Layout.closeBrackets
  rw [dropCandidate_eq stands]
  dsimp only [bind, Except.bind]
  rw [open']
  exact ⟨_, rfl, closed.addUpTo token standing⟩

theorem addComma_eq {mark : Char} (stands : Stands layout (mark :: rest) read depth) :
    ∃ after, layout.addComma = .ok after ∧ Stands after rest (read ++ [.flowEntry]) depth ∧
      after.allowsKey = true := by
  have standing : layout.cursor.step.left = rest := by
    rw [Cursor.step_left, stands.standing]
    rfl
  unfold Layout.addComma
  rw [dropCandidate_eq stands]
  exact ⟨_, rfl, (stands.dropped.allowKey true).addUpTo .flowEntry standing, rfl⟩

/-- A string may turn out to be a name. -/
theorem addQuoted_eq {glyphs : List Glyph}
    (stands : Stands layout (Glyph.quoted glyphs ++ rest) read depth) :
    ∃ after, layout.addContent Yaml.Flow.readQuoted = .ok after ∧
      Stands after rest (read ++ [.scalar (Glyph.content glyphs) false]) depth ∧
      (layout.allowsKey = true → Awaits after read.length (Glyph.quoted glyphs).length) := by
  obtain ⟨offered, offering, stands', sameCursor, awaits⟩ := offerCandidate_eq stands
  have quoted := readQuoted_glyphs glyphs stands'.standing
  have standing : (offered.cursor.skip (Glyph.quoted glyphs).length).left = rest := by
    rw [Cursor.skip_left, stands'.standing, List.drop_left]
  have goesOn : ∀ character ∈ Glyph.quoted glyphs, Yaml.isBreak character = false := by
    intro character member
    simp only [Glyph.quoted, List.mem_cons, List.mem_append, List.not_mem_nil, or_false] at member
    rcases member with rfl | inside | rfl
    · decide
    · exact (isAllowed_of_mem_text character inside).2
    · decide
  obtain ⟨index, line⟩ := Cursor.skip_along (Glyph.quoted glyphs) stands'.standing goesOn
  unfold Layout.addContent
  rw [offering]
  dsimp only [bind, Except.bind]
  rw [quoted]
  refine ⟨_, rfl, (stands'.allowKey false).addUpTo _ standing, fun allowed => ?_⟩
  refine ⟨layout.cursor, awaits allowed, ?_, ?_⟩
  · rw [← sameCursor]
    exact line
  · rw [← sameCursor]
    exact index

theorem addPlain_eq {found : List Char} {gap : Gap}
    (stands : Stands layout (found ++ (gap.characters ++ rest)) read depth)
    (nonempty : found ≠ []) (letters : ∀ character ∈ found, isLetter character = true)
    (stops : Stops (0 < depth) rest) :
    ∃ after, layout.addPlain = .ok after ∧
      Stands after rest (read ++ [.scalar (String.ofList found) true]) depth := by
  obtain ⟨offered, offering, stands', sameCursor, -⟩ := offerCandidate_eq stands
  obtain ⟨after, lineEnded, plain, standing⟩ :=
    readPlain_eq nonempty letters stops stands'.standing (offered.indent + 1)
  unfold Layout.addPlain
  rw [offering]
  dsimp only [bind, Except.bind]
  rw [stands'.inBrackets, plain]
  exact ⟨_, rfl, (stands'.allowKey lineEnded).addUpTo _ standing⟩

/-- A colon behind a name puts the token for a key in front of the name. -/
theorem addValueMark_eq {mark : Char} {name : Token} {distance : Nat}
    (stands : Stands layout (mark :: rest) (read ++ [name]) (depth + 1))
    (awaits : Awaits layout read.length distance) :
    ∃ after, layout.addValueMark = .ok after ∧
      Stands after rest (read ++ [.key, name, .value]) (depth + 1) := by
  obtain ⟨start, there, -⟩ := awaits
  have standing : layout.cursor.step.left = rest := by
    rw [Cursor.step_left, stands.standing]
    rfl
  have marked : Stands (Layout.insertAt { layout with candidate := none, allowsKey := false }
      read.length .key) (mark :: rest) (read ++ [.key, name]) (depth + 1) := by
    have last : layout.tokens.size - read.length = 1 := by
      rw [stands.size, List.length_append]
      exact Nat.add_sub_cancel_left ..
    have tokens := stands.tokens
    rw [List.reverse_append] at tokens
    refine { stands with optional := .none, tokens := ?_, size := ?_ }
    · simp only [Layout.insertAt, Row.insertAt, last, tokens]
      simp
    · simp only [Layout.insertAt, Row.insertAt, stands.size, List.length_append, List.length_cons,
        List.length_nil]
  have added := marked.addUpTo .value standing
  rw [List.append_assoc] at added
  unfold Layout.addValueMark
  rw [there]
  dsimp only
  rw [if_pos (marked.inBrackets.trans (decide_eq_true (Nat.succ_pos depth)))]
  exact ⟨_, rfl, added⟩

end Token

/-! ## Steps -/

/-- Reading on from a layout leads to one with a property. -/
def Reaches (layout : Layout) (Holds : Layout → Prop) : Prop :=
  ∀ fuel, layout.cursor.left.length < fuel → ∃ later after, Holds after ∧
    after.cursor.left.length < later ∧
      Layout.readTokens fuel layout = Layout.readTokens later after

namespace Reaches

variable {layout : Layout} {First Second : Layout → Prop}

theorem refl (holds : First layout) : Reaches layout First :=
  fun fuel enough => ⟨fuel, layout, holds, enough, rfl⟩

theorem trans (first : Reaches layout First)
    (second : ∀ after, First after → Reaches after Second) : Reaches layout Second := by
  intro fuel enough
  obtain ⟨later, after, holds, enough, read⟩ := first fuel enough
  obtain ⟨last, final, holds, enough, readOn⟩ := second after holds later enough
  exact ⟨last, final, holds, enough, read.trans readOn⟩

end Reaches

section Steps

variable {layout : Layout} {gap : Gap} {front : Char} {rest : List Char} {read : List Token}
  {depth : Nat} {Holds : Layout → Prop}

/-- One token is read behind a gap, whatever that token is. -/
theorem Reaches.of_readToken (stands : Stands layout (gap.characters ++ front :: rest) read depth)
    (isFront : isFront front = true)
    (next : ∀ settled, Stands settled (front :: rest) read depth →
      (layout.allowsKey = true → settled.allowsKey = true) →
      (∀ place distance count, Awaits layout place distance →
        gap = List.replicate count Blank.space → distance + count ≤ Yaml.keyLimit →
        Awaits settled place (distance + count)) →
      ∃ after, settled.readToken = .ok after ∧ Holds after ∧
        after.cursor.left.length ≤ rest.length) : Reaches layout Holds := by
  intro fuel enough
  obtain ⟨fuel, rfl⟩ : ∃ less, fuel = less + 1 := Nat.exists_eq_add_one.mpr (by omega)
  have starts : Starts (front :: rest) := by
    intro first member
    cases member
    exact isFront
  obtain ⟨settled, settles, allows, awaits, advanced⟩ :=
    settle stands starts (Nat.le_of_lt_succ enough)
  obtain ⟨after, readToken, holds, shorter⟩ := next settled settles allows awaits
  refine ⟨fuel, after, holds, ?_, ?_⟩
  · rw [stands.standing, List.length_append, List.length_cons] at enough
    omega
  · rw [readToken, if_neg (by simp)] at advanced
    rw [Layout.readTokens_succ, advanced]
    rfl

/-- Brackets open inside the others. -/
theorem reaches_open {token : Token}
    (stands : Stands layout (gap.characters ++ front :: rest) read depth)
    (bracket : front = '[' ∧ token = .flowSequenceStart ∨
      front = '\x7b' ∧ token = .flowMappingStart) :
    Reaches layout fun after =>
      Stands after rest (read ++ [token]) (depth + 1) ∧ after.allowsKey = true := by
  have isFront : isFront front = true := by
    rcases bracket with ⟨rfl, -⟩ | ⟨rfl, -⟩ <;> decide
  refine .of_readToken stands isFront fun settled settles _ _ => ?_
  have here := Cursor.here_eq settles.standing
  have dispatched : settled.readToken = settled.openBrackets token := by
    rcases bracket with ⟨rfl, rfl⟩ | ⟨rfl, rfl⟩ <;>
      simp [Layout.readToken, Cursor.isAtMark, here]
  obtain ⟨after, opened, standsAfter, allows⟩ := openBrackets_eq settles token
  exact ⟨after, dispatched.trans opened, ⟨standsAfter, allows⟩,
    Nat.le_of_eq (congrArg List.length standsAfter.standing)⟩

theorem reaches_close {token : Token}
    (stands : Stands layout (gap.characters ++ front :: rest) read (depth + 1))
    (bracket : front = ']' ∧ token = .flowSequenceEnd ∨
      front = '\x7d' ∧ token = .flowMappingEnd) :
    Reaches layout fun after => Stands after rest (read ++ [token]) depth := by
  have isFront : isFront front = true := by
    rcases bracket with ⟨rfl, -⟩ | ⟨rfl, -⟩ <;> decide
  refine .of_readToken stands isFront fun settled settles _ _ => ?_
  have here := Cursor.here_eq settles.standing
  have dispatched : settled.readToken = settled.closeBrackets token := by
    rcases bracket with ⟨rfl, rfl⟩ | ⟨rfl, rfl⟩ <;>
      simp [Layout.readToken, Cursor.isAtMark, here]
  obtain ⟨after, closed, standsAfter⟩ := closeBrackets_eq settles token
  exact ⟨after, dispatched.trans closed, standsAfter,
    Nat.le_of_eq (congrArg List.length standsAfter.standing)⟩

theorem reaches_comma (stands : Stands layout (gap.characters ++ ',' :: rest) read depth) :
    Reaches layout fun after =>
      Stands after rest (read ++ [.flowEntry]) depth ∧ after.allowsKey = true := by
  refine .of_readToken stands (by decide) fun settled settles _ _ => ?_
  have here := Cursor.here_eq settles.standing
  have dispatched : settled.readToken = settled.addComma := by
    simp [Layout.readToken, Cursor.isAtMark, here]
  obtain ⟨after, added, standsAfter, allows⟩ := addComma_eq settles
  exact ⟨after, dispatched.trans added, ⟨standsAfter, allows⟩,
    Nat.le_of_eq (congrArg List.length standsAfter.standing)⟩

theorem reaches_quoted {glyphs : List Glyph}
    (stands : Stands layout (gap.characters ++ (Glyph.quoted glyphs ++ rest)) read depth) :
    Reaches layout fun after =>
      Stands after rest (read ++ [.scalar (Glyph.content glyphs) false]) depth ∧
        (layout.allowsKey = true → Awaits after read.length (Glyph.quoted glyphs).length) := by
  refine @Reaches.of_readToken _ _ '"' _ _ _ _ stands (by decide)
    fun settled settles allows _ => ?_
  have here : settled.cursor.here = '"' := Cursor.here_eq settles.standing
  have dispatched : settled.readToken = settled.addContent Yaml.Flow.readQuoted := by
    simp [Layout.readToken, Cursor.isAtMark, here]
  obtain ⟨after, added, standsAfter, awaits⟩ := addQuoted_eq settles
  refine ⟨after, dispatched.trans added, ⟨standsAfter, fun allowed => awaits (allows allowed)⟩, ?_⟩
  rw [standsAfter.standing]
  exact (List.suffix_append _ rest).length_le

/-- The name of a member is a key, if a key may begin. -/
theorem reaches_name {name : Name}
    (stands : Stands layout (gap.characters ++ (name.characters ++ ':' :: rest)) read (depth + 1))
    (allowed : layout.allowsKey = true) :
    Reaches layout fun after => Stands after rest
      (read ++ [.key, .scalar (Glyph.content name.glyphs) false, .value]) (depth + 1) := by
  have spaces : List.replicate name.spaces ' ' =
      Gap.characters (List.replicate name.spaces Blank.space) := by
    rw [Gap.characters, List.map_replicate]
    rfl
  rw [Name.characters, List.append_assoc, spaces] at stands
  refine (reaches_quoted stands).trans fun named reached => ?_
  obtain ⟨standsNamed, awaits⟩ := reached
  refine .of_readToken standsNamed (by decide) fun settled settles _ keeps => ?_
  have here := Cursor.here_eq settles.standing
  have dispatched : settled.readToken = settled.addValueMark := by
    simp [Layout.readToken, Layout.isMark, Cursor.isAtMark, here, settles.inBrackets]
  obtain ⟨after, added, standsAfter⟩ :=
    addValueMark_eq settles (keeps _ _ name.spaces (awaits allowed) rfl name.isShort)
  exact ⟨after, dispatched.trans added, standsAfter,
    Nat.le_of_eq (congrArg List.length standsAfter.standing)⟩

/-- What plain scalars of scripts begin with. -/
def BeginsPlain (found : List Char) : Prop :=
  ∃ first later, found = first :: later ∧ (isDigitOr ['n', 't', 'f'] first = true ∨
    first = '-' ∧ ∃ digit rest, later = digit :: rest ∧ digit.isDigit = true)

/-- The marks that something else than a plain scalar may begin with. -/
def marks : List Char :=
  ['%', '-', '.', '[', '\x7b', ']', '\x7d', ',', '?', ':', '*', '&', '!', '|', '>', '\'', '"']

theorem readToken_plain {found : List Char} {settled : Layout}
    (standing : settled.cursor.left = found ++ rest) (begins : BeginsPlain found) :
    settled.readToken = settled.addPlain := by
  have ofDigit {digit other : Char} (isDigit : digit.isDigit = true)
      (noDigit : other.isDigit = false) : digit ≠ other := by
    rintro rfl
    rw [noDigit] at isDigit
    cases isDigit
  obtain ⟨first, later, rfl, letter | ⟨rfl, digit, others, rfl, isDigit⟩⟩ := begins
  · obtain ⟨noMark, noGap, noIndicator⟩ :
        marks.Forall (first ≠ ·) ∧ Yaml.isGapOrEnd first = false ∧
          Layout.isIndicator first = false := by
      refine @forall_isDigitOr (fun first => marks.Forall (first ≠ ·) ∧
        Yaml.isGapOrEnd first = false ∧ Layout.isIndicator first = false) _
        (fun digit isDigit => ?_) (by decide) first letter
      have noDigits : ∀ mark ∈ marks, mark.isDigit = false :=
        List.forall_iff_forall_mem.mp (by decide)
      have indicators : ∀ mark ∈ "-?:,[]\x7b\x7d#&*!|>'\"%@\x60".toList,
          mark.isDigit = false := List.forall_iff_forall_mem.mp (by decide)
      refine ⟨List.forall_iff_forall_mem.mpr fun mark member => ofDigit isDigit (noDigits mark member),
        (noGap_of_isFront (isDigitOr_of_isDigit _ isDigit)).1, ?_⟩
      refine Bool.eq_false_iff.mpr fun found => ?_
      exact ofDigit isDigit (indicators digit (List.contains_iff_mem.mp found)) rfl
    have here : settled.cursor.here = first := Cursor.here_eq standing
    simp only [marks, List.Forall] at noMark
    simp [Layout.readToken, Layout.beginsPlain, Cursor.isAtMark, here, noMark, noGap, noIndicator]
  · have here : settled.cursor.here = '-' := Cursor.here_eq standing
    have next : settled.cursor.peek 1 = digit := Cursor.peek_eq standing 0
    have noGap := (noGap_of_isFront (isDigitOr_of_isDigit _ isDigit)).1
    have noDash := ofDigit isDigit (show '-'.isDigit = false from rfl)
    simp [Layout.readToken, Layout.beginsPlain, Cursor.isAtMark, here, next, noGap, noDash]

theorem reaches_plain {found : List Char} {after : Gap}
    (stands : Stands layout (gap.characters ++ (found ++ (after.characters ++ rest))) read depth)
    (begins : BeginsPlain found) (letters : ∀ character ∈ found, isLetter character = true)
    (stops : Stops (0 < depth) rest) :
    Reaches layout fun after =>
      Stands after rest (read ++ [.scalar (String.ofList found) true]) depth := by
  obtain ⟨first, later, written, isFront⟩ :
      ∃ first later, found = first :: later ∧ isFront first = true := by
    obtain ⟨first, later, rfl, letter | ⟨rfl, -⟩⟩ := begins
    · exact ⟨first, later, rfl, @forall_isDigitOr (fun first => isFront first = true) _
        (fun _ isDigit => isDigitOr_of_isDigit _ isDigit) (by decide) first letter⟩
    · exact ⟨_, later, rfl, by decide⟩
  have nonempty : found ≠ [] := by simp [written]
  refine @Reaches.of_readToken _ _ first (later ++ (after.characters ++ rest)) _ _ _
    (by rwa [written] at stands) isFront fun settled settles _ _ => ?_
  rw [← List.cons_append, ← written] at settles
  have dispatched := readToken_plain settles.standing begins
  obtain ⟨next, added, standsAfter⟩ := addPlain_eq settles nonempty letters stops
  refine ⟨next, dispatched.trans added, standsAfter, ?_⟩
  rw [standsAfter.standing]
  exact ((List.suffix_append _ rest).trans (List.suffix_append _ _)).length_le

end Steps

/-! ## Scripts -/

/-- Wherever it stands, the script is cut into its tokens. -/
def IsCut (script : Script) : Prop :=
  ∀ (layout : Layout) (before after : Gap) (rest : List Char) (read : List Token) (depth : Nat),
    Stands layout (before.characters ++ (script.characters ++ (after.characters ++ rest)))
      read depth →
    Stops (0 < depth) rest →
    Reaches layout fun later => ∃ gap : Gap,
      Stands later (gap.characters ++ rest) (read ++ script.tokens) depth

theorem isCut_plain {script : Script} {found : List Char} (written : script.characters = found)
    (cut : script.tokens = [.scalar (String.ofList found) true]) (begins : BeginsPlain found)
    (letters : ∀ character ∈ found, isLetter character = true) : IsCut script := by
  intro layout before after rest read depth stands stops
  rw [written] at stands
  rw [cut]
  exact (reaches_plain stands begins letters stops).trans
    fun later stands => .refl ⟨[], stands⟩

theorem isCut_word (said : Word) : IsCut (.word said) := by
  refine @isCut_plain (.word said) said.text.toList rfl ?_ ?_ ?_
  · rw [tokens, String.ofList_toList]
  · cases said <;> exact ⟨_, _, rfl, .inl (by decide)⟩
  · cases said <;> exact List.forall_iff_forall_mem.mp (by decide)

theorem isCut_number (figure : Figure) : IsCut (.number figure) := by
  have signed (isNegative : Bool) (whole : Whole) (rest : List Char) :
      BeginsPlain (Figure.sign isNegative ++ (whole.characters ++ rest)) := by
    obtain ⟨first, later, written, isDigit⟩ := whole.exists_first
    rw [written]
    cases isNegative with
    | true => exact ⟨_, _, rfl, .inr ⟨rfl, _, _, rfl, isDigit⟩⟩
    | false => exact ⟨_, _, rfl, .inl (isDigitOr_of_isDigit _ isDigit)⟩
  refine @isCut_plain (.number figure) figure.characters rfl (by rw [tokens]) ?_ ?_
  · cases figure with
    | integer isNegative whole few =>
        have begins := signed isNegative whole []
        rwa [List.append_nil] at begins
    | decimal isNegative whole fraction => exact signed isNegative whole _
  · intro character member
    exact @forall_isDigitOr (fun character => isLetter character = true) _
      (fun _ isDigit => isDigitOr_of_isDigit _ isDigit) (by decide) character
      (figure.areMarks character member)

theorem isCut_string (glyphs : List Glyph) : IsCut (.string glyphs) := by
  intro layout before after rest read depth stands stops
  rw [characters] at stands
  rw [tokens]
  exact (reaches_quoted stands).trans fun later reached => .refl ⟨after, reached.1⟩

theorem isCut_emptyArray (gap : Gap) : IsCut (.emptyArray gap) := by
  intro layout before after rest read depth stands stops
  simp only [characters, List.cons_append, List.append_assoc, List.nil_append] at stands
  refine (reaches_open stands (.inl ⟨rfl, rfl⟩)).trans fun opened reached => ?_
  refine (reaches_close reached.1 (.inl ⟨rfl, rfl⟩)).trans fun closed stands => .refl ⟨after, ?_⟩
  rwa [List.append_assoc] at stands

theorem stops_items (depth : Nat) (others : List (Item Script)) (rest : List Char) :
    Stops (0 < depth + 1) (itemCharacters others ++ ']' :: rest) := by
  cases others with
  | nil => exact .inr ⟨decide_eq_true (Nat.succ_pos depth), _, _, rfl, by decide⟩
  | cons item others => exact .inr ⟨decide_eq_true (Nat.succ_pos depth), _, _, rfl, by decide⟩

theorem stops_members (depth : Nat) (others : List (Member Script)) (rest : List Char) :
    Stops (0 < depth + 1) (memberCharacters others ++ '\x7d' :: rest) := by
  cases others with
  | nil => exact .inr ⟨decide_eq_true (Nat.succ_pos depth), _, _, rfl, by decide⟩
  | cons member others => exact .inr ⟨decide_eq_true (Nat.succ_pos depth), _, _, rfl, by decide⟩

/-- The items of an array are cut one after another. -/
theorem reaches_items {others : List (Item Script)}
    (each : ∀ item ∈ others, IsCut item.content) {content : Script} (first : IsCut content)
    {layout : Layout} {before after : Gap} {rest : List Char} {read : List Token} {depth : Nat}
    (stands : Stands layout (before.characters ++ (content.characters ++ (after.characters ++
      (itemCharacters others ++ ']' :: rest)))) read (depth + 1)) :
    Reaches layout fun later => Stands later rest
      (read ++ (content.tokens ++ (itemTokens others ++ [.flowSequenceEnd]))) depth := by
  induction others generalizing content layout before after read with
  | nil =>
      refine (first layout before after _ read _ stands
        (stops_items depth [] rest)).trans fun behind reached => ?_
      obtain ⟨gap, stands⟩ := reached
      have closed := reaches_close stands (.inl ⟨rfl, rfl⟩)
      rwa [List.append_assoc] at closed
  | cons item others ih =>
      refine (first layout before after _ read _ stands
        (stops_items depth (item :: others) rest)).trans fun behind reached => ?_
      obtain ⟨gap, stands⟩ := reached
      obtain ⟨nextBefore, nextContent, nextAfter⟩ := item
      rw [List.forall_mem_cons] at each
      simp only [itemCharacters, List.cons_append, List.append_assoc] at stands
      refine (reaches_comma stands).trans fun next reached => ?_
      have others := ih each.2 each.1 reached.1
      simpa only [itemTokens, List.append_assoc, List.cons_append, List.nil_append] using others

theorem isCut_array {first : Item Script} {others : List (Item Script)}
    (ofFirst : IsCut first.content) (each : ∀ item ∈ others, IsCut item.content) :
    IsCut (.array first others) := by
  intro layout before after rest read depth stands stops
  obtain ⟨firstBefore, content, firstAfter⟩ := first
  simp only [characters, List.cons_append, List.append_assoc, List.nil_append] at stands
  refine (reaches_open stands (.inl ⟨rfl, rfl⟩)).trans fun opened reached => ?_
  refine (reaches_items each ofFirst reached.1).trans fun closed stands => .refl ⟨after, ?_⟩
  simpa only [tokens, List.append_assoc, List.cons_append, List.nil_append] using stands

theorem isCut_emptyObject (gap : Gap) : IsCut (.emptyObject gap) := by
  intro layout before after rest read depth stands stops
  simp only [characters, List.cons_append, List.append_assoc, List.nil_append] at stands
  refine (reaches_open stands (.inr ⟨rfl, rfl⟩)).trans fun opened reached => ?_
  refine (reaches_close reached.1 (.inr ⟨rfl, rfl⟩)).trans fun closed stands => .refl ⟨after, ?_⟩
  rwa [List.append_assoc] at stands

/-- The members of an object are cut one after another. -/
theorem reaches_members {others : List (Member Script)}
    (each : ∀ member ∈ others, IsCut member.content) {name : Name} {content : Script}
    (first : IsCut content) {layout : Layout} {before between after : Gap} {rest : List Char}
    {read : List Token} {depth : Nat}
    (stands : Stands layout (before.characters ++ (name.characters ++ ':' ::
      (between.characters ++ (content.characters ++ (after.characters ++
        (memberCharacters others ++ '\x7d' :: rest)))))) read (depth + 1))
    (allowed : layout.allowsKey = true) :
    Reaches layout fun later => Stands later rest
      (read ++ (.key :: .scalar (Glyph.content name.glyphs) false :: .value ::
        (content.tokens ++ (memberTokens others ++ [.flowMappingEnd])))) depth := by
  induction others generalizing name content layout before between after read with
  | nil =>
      refine (reaches_name stands allowed).trans fun named stands => ?_
      refine (first named between after _ _ _ stands
        (stops_members depth [] rest)).trans fun behind reached => ?_
      obtain ⟨gap, stands⟩ := reached
      have closed := reaches_close stands (.inr ⟨rfl, rfl⟩)
      simpa only [memberTokens, List.append_assoc, List.cons_append, List.nil_append] using closed
  | cons member others ih =>
      refine (reaches_name stands allowed).trans fun named stands => ?_
      refine (first named between after _ _ _ stands
        (stops_members depth (member :: others) rest)).trans fun behind reached => ?_
      obtain ⟨gap, stands⟩ := reached
      obtain ⟨nextBefore, nextName, nextBetween, nextContent, nextAfter⟩ := member
      rw [List.forall_mem_cons] at each
      simp only [memberCharacters, List.cons_append, List.append_assoc] at stands
      refine (reaches_comma stands).trans fun next reached => ?_
      have others := ih each.2 each.1 reached.1 reached.2
      simpa only [memberTokens, List.append_assoc, List.cons_append, List.nil_append] using others

theorem isCut_object {first : Member Script} {others : List (Member Script)}
    (ofFirst : IsCut first.content) (each : ∀ member ∈ others, IsCut member.content) :
    IsCut (.object first others) := by
  intro layout before after rest read depth stands stops
  obtain ⟨firstBefore, name, between, content, firstAfter⟩ := first
  simp only [characters, List.cons_append, List.append_assoc, List.nil_append] at stands
  refine (reaches_open stands (.inr ⟨rfl, rfl⟩)).trans fun opened reached => ?_
  refine (reaches_members each ofFirst reached.1 reached.2).trans
    fun closed stands => .refl ⟨after, ?_⟩
  simpa only [tokens, List.append_assoc, List.cons_append, List.nil_append] using stands

/-- **Every script is cut into its tokens.** -/
theorem isCut (script : Script) : IsCut script := by
  induction script using induct with
  | word said => exact isCut_word said
  | number figure => exact isCut_number figure
  | string glyphs => exact isCut_string glyphs
  | emptyArray gap => exact isCut_emptyArray gap
  | array first others ofFirst each => exact isCut_array ofFirst each
  | emptyObject gap => exact isCut_emptyObject gap
  | object first others ofFirst each => exact isCut_object ofFirst each

/-! ## Whole texts -/

/-- At the end of the text no block is open. -/
theorem finish_eq {layout : Layout} {read : List Token} (stands : Stands layout [] read 0) :
    ∃ last, layout.finish = .ok last ∧ last.tokens.toList = read ++ [.streamEnd] := by
  unfold Layout.finish
  rw [unwind_eq stands, dropCandidate_eq stands]
  refine ⟨_, rfl, ?_⟩
  have tokens := stands.tokens
  simp [Layout.add, Row.push, Row.toList, tokens]

/-- **A page is cut into the tokens of its root.** -/
theorem Page.tokens_eq (page : Page) :
    Yaml.tokens page.characters = page.root.tokens ++ [.streamEnd] := by
  have stands : Stands (Layout.ofText page.characters) (page.before.characters ++
      (page.root.characters ++ (page.after.characters ++ []))) [] 0 :=
    { standing := by rw [List.append_nil]; rfl
      tokens := rfl
      size := rfl
      brackets := rfl
      optional := .none
      enclosing := fun _ member => nomatch member
      noIndent := rfl
      noOuter := rfl }
  have cut := page.root.isCut _ page.before page.after [] [] 0 stands (.inl rfl)
  obtain ⟨fuel, after, ⟨gap, stands⟩, enough, read⟩ :=
    cut (page.characters.length + 1) (Nat.lt_succ_self _)
  obtain ⟨fuel, rfl⟩ : ∃ less, fuel = less + 1 := Nat.exists_eq_add_one.mpr (by omega)
  obtain ⟨settled, settles, -, -, advanced⟩ :=
    settle stands (fun _ member => nomatch member) (Nat.le_of_lt_succ enough)
  obtain ⟨last, finished, tokens⟩ := finish_eq settles
  rw [finished, if_pos (by rfl)] at advanced
  rw [Yaml.tokens, read, Layout.readTokens_succ, advanced]
  exact tokens

end Script

end GuestFlow
