import GuestFlow.Proofs.Yaml.Meaning
import GuestFlow.Yaml.Reader

/-!
# How YAML fails

A text without a value is malformed, or something in it that is to be read as a scalar has no
value (`Yaml.read_sound`): the number of a version, the number of a character, or the content of
a scalar with its tag.  A place from which on no token could be read keeps its failure in the
token that stands there, so all tokens are mild before the nodes are read from them.
-/

set_option autoImplicit false

namespace GuestFlow.Yaml

/-- The computation fails over nothing but the text or a scalar in it. -/
abbrev FailsMildly {α : Type} (computed : Except Failure α) : Prop := Gives (fun _ => True) computed

/-- A token that could be read, or the mild failure over the one that could not. -/
def Token.IsMild (token : Token) : Prop := ∀ failure, token = .unreadable failure → failure.IsMild

/-- The token that was read is mild. -/
abbrev GivesToken (read : Except Failure (Token × Cursor)) : Prop :=
  Gives (fun read => read.1.IsMild) read

namespace Token

/-! ## Names, tags and directives -/

theorem gives_malformed {α : Type} {holds : α → Prop} :
    Gives holds (malformed : Except Failure α) :=
  .error trivial

theorem readName_mild (cursor : Cursor) : FailsMildly (readName cursor) := by
  unfold readName
  split
  split
  · exact gives_malformed
  · exact .ok trivial

theorem tagBytes_mild (characters : List Char) : FailsMildly (tagBytes characters) := by
  fun_induction tagBytes characters with
  | case1 => exact .ok trivial
  | case2 => exact gives_malformed
  | case3 first second rest byte _ ih => exact ih.bind fun _ _ => .ok trivial
  | case4 => exact gives_malformed
  | case5 character rest _ _ ih => exact ih.bind fun _ _ => .ok trivial

theorem readTagName_mild (cursor : Cursor) : FailsMildly (readTagName cursor) := by
  unfold readTagName
  split
  split
  · exact gives_malformed
  · refine (tagBytes_mild _).bind fun bytes _ => ?_
    split
    · exact gives_malformed
    · exact .ok trivial

theorem readHandle_mild (cursor : Cursor) : FailsMildly (readHandle cursor) := by
  unfold readHandle
  split
  · exact gives_malformed
  · dsimp only
    split
    · exact .ok trivial
    · split
      · exact .ok trivial
      · exact gives_malformed

theorem givesToken_tag (handle : Option String) (written : String) (after : Cursor) :
    GivesToken (.ok (.tag handle written, after)) := .ok nofun

theorem readTag_mild (cursor : Cursor) : GivesToken (readTag cursor) := by
  have ends (read : Token × Cursor) (mild : read.1.IsMild) :
      GivesToken (if isSpaceOrEnd read.2.here then .ok (read.1, read.2) else malformed) := by
    split
    · exact .ok mild
    · exact gives_malformed
  unfold readTag
  dsimp only
  split
  · refine (readTagName_mild _).bind fun named _ => ?_
    split
    · exact (givesToken_tag none named.1 _).bind ends
    · exact gives_malformed
  · split
    · exact (givesToken_tag none "!" _).bind ends
    · split
      · refine (readHandle_mild _).bind fun handle _ => ?_
        exact (readTagName_mild _).bind fun named _ =>
          (givesToken_tag (some handle.1) named.1 _).bind ends
      · exact (readTagName_mild _).bind fun named _ =>
          (givesToken_tag (some "!") named.1 _).bind ends

theorem endDirective_mild (cursor : Cursor) : FailsMildly (endDirective cursor) := by
  unfold endDirective
  dsimp only
  split
  · exact .ok trivial
  · exact gives_malformed

theorem readVersionNumber_mild (cursor : Cursor) : FailsMildly (readVersionNumber cursor) := by
  unfold readVersionNumber
  split
  split
  · exact gives_malformed
  · rename_i digits after _ _
    have finds := Scalar.finds_integer 10 (String.ofList digits)
    split
    · exact .ok trivial
    · rename_i failed
      rw [failed] at finds
      exact .error finds.of_error

theorem readVersion_mild (cursor : Cursor) : FailsMildly (readVersion cursor) := by
  unfold readVersion
  refine (readVersionNumber_mild _).bind fun major _ => ?_
  dsimp only
  split
  · exact gives_malformed
  · refine (readVersionNumber_mild _).bind fun minor _ => ?_
    split
    · exact .ok trivial
    · exact gives_malformed

theorem readHandleMeaning_mild (cursor : Cursor) : FailsMildly (readHandleMeaning cursor) := by
  unfold readHandleMeaning
  refine (readHandle_mild _).bind fun handle _ => ?_
  dsimp only
  split
  · exact gives_malformed
  · refine (readTagName_mild _).bind fun meaning _ => ?_
    split
    · exact .ok trivial
    · exact gives_malformed

theorem readDirective_mild (cursor : Cursor) : GivesToken (readDirective cursor) := by
  have ends (said : Directive) (after : Cursor) : GivesToken (do
      let after ← endDirective after
      .ok (.directive said, after)) :=
    (endDirective_mild after).bind fun after _ => .ok nofun
  unfold readDirective
  split
  split
  · exact gives_malformed
  · dsimp only
    split
    · exact (readVersion_mild _).bind fun read _ => ends read.1 read.2
    · split
      · exact (readHandleMeaning_mild _).bind fun read _ => ends read.1 read.2
      · exact ends .other _

end Token

open Token (gives_malformed)

/-! ## Scalars in the flow and in blocks -/

namespace Flow

theorem pieceOf_mild (number : Nat) : FailsMildly (pieceOf number) := by
  unfold pieceOf
  split
  · exact .ok trivial
  · split
    · exact .ok trivial
    · refine .error ?_
      split
      · exact rfl
      · exact rfl

theorem readBreaks_mild (fuel : Nat) (cursor : Cursor) : FailsMildly (readBreaks fuel cursor) := by
  induction fuel generalizing cursor with
  | zero => exact gives_malformed
  | succ fuel ih =>
      unfold readBreaks
      dsimp only
      split
      · exact gives_malformed
      · split
        · exact (ih _).bind fun _ _ => .ok trivial
        · exact .ok trivial

theorem readEscape_mild (fuel : Nat) (cursor : Cursor) : FailsMildly (readEscape fuel cursor) := by
  unfold readEscape
  dsimp only
  split
  · exact .ok trivial
  · split
    · split
      · split
        · exact (pieceOf_mild _).bind fun _ _ => .ok trivial
        · exact gives_malformed
      · exact gives_malformed
    · split
      · exact (readBreaks_mild _ _).bind fun _ _ => .ok trivial
      · exact gives_malformed

theorem readSpaces_mild (fuel : Nat) (cursor : Cursor) : FailsMildly (readSpaces fuel cursor) := by
  unfold readSpaces
  dsimp only
  split
  · exact gives_malformed
  · split
    · exact (readBreaks_mild _ _).bind fun _ _ => .ok trivial
    · exact .ok trivial

/-- Behind one part of a quoted scalar stands its closing quote, or what is read in one step
less. -/
theorem readFurther_mild {isDouble : Bool} {fuel : Nat}
    (less : ∀ cursor, FailsMildly (readContent isDouble fuel cursor)) (ordinary : List Char)
    (here : Cursor) (read : List Piece × Option Cursor) (_ : True) :
    FailsMildly (match read.2 with
      | none => .ok (characters ordinary, here.step)
      | some after => do
        let (more, last) ← readContent isDouble fuel after
        .ok (characters ordinary ++ read.1 ++ more, last)) := by
  split
  · exact .ok trivial
  · exact (less _).bind fun _ _ => .ok trivial

theorem readContent_mild (isDouble : Bool) (fuel : Nat) (cursor : Cursor) :
    FailsMildly (readContent isDouble fuel cursor) := by
  induction fuel generalizing cursor with
  | zero => exact gives_malformed
  | succ fuel ih =>
      have goOn := readFurther_mild ih
      unfold readContent
      dsimp only
      generalize (if isDouble = true then '"' else '\'') = closing
      split
      · exact Ensures.bind (.ok trivial) (goOn _ _)
      · split
        · exact Ensures.bind (.ok trivial) (goOn _ _)
        · split
          · exact (readEscape_mild _ _).bind fun _ _ => Ensures.bind (.ok trivial) (goOn _ _)
          · split
            · exact Ensures.bind (.ok trivial) (goOn _ _)
            · exact (readSpaces_mild _ _).bind fun _ _ => Ensures.bind (.ok trivial) (goOn _ _)

theorem readQuoted_mild (cursor : Cursor) : GivesToken (readQuoted cursor) := by
  unfold readQuoted
  exact (readContent_mild _ _ _).bind fun _ _ => .ok nofun

end Flow

namespace Block

theorem readIncrement_mild (cursor : Cursor) : FailsMildly (readIncrement cursor) := by
  unfold readIncrement
  dsimp only
  split
  · split
    · exact gives_malformed
    · exact .ok trivial
  · exact .ok trivial

theorem readHeader_mild (cursor : Cursor) : FailsMildly (readHeader cursor) := by
  have ends (read : Header × Cursor) (_ : True) : FailsMildly
      (if isSpaceOrEnd read.2.here then .ok (read.1, read.2) else Token.malformed) := by
    split
    · exact .ok trivial
    · exact gives_malformed
  unfold readHeader
  dsimp only
  split
  · exact (readIncrement_mild _).bind fun _ _ => Ensures.bind (.ok trivial) ends
  · refine (readIncrement_mild _).bind fun _ _ => ?_
    split
    · exact Ensures.bind (.ok trivial) ends
    · exact Ensures.bind (.ok trivial) ends

theorem endHeader_mild (cursor : Cursor) : FailsMildly (endHeader cursor) := by
  unfold endHeader
  dsimp only
  split
  · exact .ok trivial
  · exact gives_malformed

theorem read_mild (indent : Int) (cursor : Cursor) : GivesToken (read indent cursor) := by
  unfold read
  refine (readHeader_mild _).bind fun header _ => ?_
  exact (endHeader_mild _).bind fun after _ => .ok nofun

end Block

/-! ## The tokens of a text -/

/-- The tokens of a row are mild. -/
def Row.IsMild (row : Row) : Prop := ∀ token ∈ row.reversed, token.IsMild

theorem Row.IsMild.push {row : Row} (mild : row.IsMild) (token : Token) (ofToken : token.IsMild) :
    (row.push token).IsMild :=
  List.forall_mem_cons.mpr ⟨ofToken, mild⟩

theorem Row.IsMild.insertAt {row : Row} (mild : row.IsMild) (place : Nat) (token : Token)
    (ofToken : token.IsMild) : (row.insertAt place token).IsMild :=
  List.forall_mem_append.mpr ⟨fun _ member => mild _ (List.mem_of_mem_take member),
    List.forall_mem_cons.mpr ⟨ofToken, fun _ member => mild _ (List.mem_of_mem_drop member)⟩⟩

namespace Layout

/-- The tokens up to a place are mild. -/
def IsMild (layout : Layout) : Prop := layout.tokens.IsMild

/-- The layout behind what was read has mild tokens. -/
abbrev GivesLayout (read : Except Failure Layout) : Prop := Gives IsMild read

variable {layout : Layout}

theorem skipGaps_tokens (fuel : Nat) (layout : Layout) :
    (layout.skipGaps fuel).tokens = layout.tokens := by
  induction fuel generalizing layout with
  | zero => rfl
  | succ fuel ih =>
      unfold skipGaps
      dsimp only
      split
      · rw [ih]
      · rfl

theorem skipByteOrderMark_tokens (layout : Layout) :
    layout.skipByteOrderMark.tokens = layout.tokens := by
  unfold skipByteOrderMark
  split
  · rfl
  · rfl

theorem endBlocks_mild (column : Int) {tokens : Row} (mild : tokens.IsMild) (indent : Int)
    (outer : List Int) : (endBlocks column tokens indent outer).1.IsMild := by
  induction outer generalizing tokens indent with
  | nil => exact mild
  | cons next rest ih =>
      unfold endBlocks
      split
      · exact ih (mild.push .blockEnd nofun) next
      · exact mild

theorem IsMild.unwind (mild : layout.IsMild) (column : Int) : (layout.unwind column).IsMild := by
  unfold Layout.unwind
  split
  · exact mild
  · exact endBlocks_mild column mild _ _

theorem IsMild.beginBlock (mild : layout.IsMild) (column : Int) (place : Nat) (token : Token)
    (ofToken : token.IsMild) : (layout.beginBlock column place token).IsMild := by
  unfold Layout.beginBlock
  split
  · exact Row.IsMild.insertAt mild place token ofToken
  · exact mild

/-! ### Candidates -/

theorem dropped_mild (candidate : Option Candidate) : FailsMildly (dropped candidate) := by
  unfold dropped
  split
  · split
    · exact gives_malformed
    · exact .ok trivial
  · exact .ok trivial

theorem refreshed_mild (cursor : Cursor) (candidate : Option Candidate) :
    FailsMildly (refreshed cursor candidate) := by
  unfold refreshed
  split
  · split
    · exact .ok trivial
    · exact dropped_mild _
  · exact .ok trivial

theorem IsMild.refresh (mild : layout.IsMild) : GivesLayout layout.refresh := by
  unfold Layout.refresh
  refine (Ensures.mapM fun candidate _ => refreshed_mild _ candidate).bind fun _ _ => ?_
  exact (refreshed_mild _ _).bind fun _ _ => .ok mild

theorem IsMild.dropCandidate (mild : layout.IsMild) : GivesLayout layout.dropCandidate :=
  (dropped_mild _).bind fun _ _ => .ok mild

theorem IsMild.offerCandidate (mild : layout.IsMild) : GivesLayout layout.offerCandidate := by
  unfold Layout.offerCandidate
  split
  · exact mild.dropCandidate.bind fun _ mild => .ok mild
  · exact .ok mild

/-! ### Tokens -/

theorem IsMild.finish (mild : layout.IsMild) : GivesLayout layout.finish :=
  (mild.unwind _).dropCandidate.bind fun _ mild => .ok (mild.push .streamEnd nofun)

theorem IsMild.addDirective (mild : layout.IsMild) : GivesLayout layout.addDirective := by
  refine (mild.unwind _).dropCandidate.bind fun _ mild => ?_
  exact (Token.readDirective_mild _).bind fun _ ofToken => .ok (mild.push _ ofToken)

theorem IsMild.addDocumentMark (mild : layout.IsMild) (token : Token) (ofToken : token.IsMild) :
    GivesLayout (layout.addDocumentMark token) :=
  (mild.unwind _).dropCandidate.bind fun _ mild => .ok (mild.push _ ofToken)

theorem IsMild.openBrackets (mild : layout.IsMild) (token : Token) (ofToken : token.IsMild) :
    GivesLayout (layout.openBrackets token) :=
  mild.offerCandidate.bind fun _ mild => .ok (mild.push _ ofToken)

theorem IsMild.closeBrackets (mild : layout.IsMild) (token : Token) (ofToken : token.IsMild) :
    GivesLayout (layout.closeBrackets token) := by
  refine mild.dropCandidate.bind fun _ mild => ?_
  split
  · exact gives_malformed
  · exact .ok (mild.push _ ofToken)

theorem IsMild.addComma (mild : layout.IsMild) : GivesLayout layout.addComma :=
  mild.dropCandidate.bind fun _ mild => .ok (mild.push .flowEntry nofun)

theorem IsMild.beginBlockHere (mild : layout.IsMild) (token : Token) (ofToken : token.IsMild) :
    GivesLayout (layout.beginBlockHere token) := by
  unfold Layout.beginBlockHere
  split
  · exact .ok mild
  · split
    · exact .ok (mild.beginBlock _ _ token ofToken)
    · exact gives_malformed

theorem IsMild.addBlockEntry (mild : layout.IsMild) : GivesLayout layout.addBlockEntry := by
  refine (mild.beginBlockHere .blockSequenceStart nofun).bind fun _ mild => ?_
  exact mild.dropCandidate.bind fun _ mild => .ok (mild.push .blockEntry nofun)

theorem IsMild.addKeyMark (mild : layout.IsMild) : GivesLayout layout.addKeyMark := by
  refine (mild.beginBlockHere .blockMappingStart nofun).bind fun _ mild => ?_
  exact mild.dropCandidate.bind fun _ mild => .ok (mild.push .key nofun)

theorem IsMild.addValueMark (mild : layout.IsMild) : GivesLayout layout.addValueMark := by
  unfold Layout.addValueMark
  split
  · rename_i key _
    refine .ok (Row.IsMild.push ?_ .value nofun)
    have settled : (insertAt { layout with candidate := none, allowsKey := false }
        key.place .key).IsMild := Row.IsMild.insertAt mild key.place .key nofun
    split
    · exact settled
    · exact settled.beginBlock _ _ .blockMappingStart nofun
  · exact (mild.beginBlockHere .blockMappingStart nofun).bind fun _ mild =>
      .ok (mild.push .value nofun)

theorem IsMild.addContent (mild : layout.IsMild) {read : Cursor → Except Failure (Token × Cursor)}
    (reads : ∀ cursor, GivesToken (read cursor)) : GivesLayout (layout.addContent read) := by
  refine mild.offerCandidate.bind fun _ mild => ?_
  exact (reads _).bind fun _ ofToken => .ok (mild.push _ ofToken)

theorem readAlias_mild (cursor : Cursor) : GivesToken (readAlias cursor) :=
  (Token.readName_mild _).bind fun _ _ => .ok nofun

theorem readAnchor_mild (cursor : Cursor) : GivesToken (readAnchor cursor) :=
  (Token.readName_mild _).bind fun _ _ => .ok nofun

theorem IsMild.addBlockScalar (mild : layout.IsMild) : GivesLayout layout.addBlockScalar := by
  refine mild.dropCandidate.bind fun _ mild => ?_
  exact (Block.read_mild _ _).bind fun _ ofToken => .ok (mild.push _ ofToken)

theorem IsMild.addPlain (mild : layout.IsMild) : GivesLayout layout.addPlain :=
  mild.offerCandidate.bind fun _ mild => .ok (mild.push (.scalar _ true) nofun)

theorem IsMild.readToken (mild : layout.IsMild) : GivesLayout layout.readToken := by
  unfold Layout.readToken
  dsimp only
  refine .ite mild.addDirective (.ite (mild.addDocumentMark .documentStart nofun) ?_)
  refine .ite (mild.addDocumentMark .documentEnd nofun) ?_
  refine .ite (mild.openBrackets .flowSequenceStart nofun) ?_
  refine .ite (mild.openBrackets .flowMappingStart nofun) ?_
  refine .ite (mild.closeBrackets .flowSequenceEnd nofun) ?_
  refine .ite (mild.closeBrackets .flowMappingEnd nofun) ?_
  refine .ite mild.addComma (.ite mild.addBlockEntry ?_)
  refine .ite mild.addKeyMark (.ite mild.addValueMark ?_)
  refine .ite (mild.addContent readAlias_mild) (.ite (mild.addContent readAnchor_mild) ?_)
  refine .ite (mild.addContent Token.readTag_mild) (.ite mild.addBlockScalar ?_)
  exact .ite (mild.addContent Flow.readQuoted_mild) (.ite mild.addPlain gives_malformed)

/-- A step keeps the tokens mild. -/
theorem IsMild.advance (mild : layout.IsMild) (lines : Nat) :
    Gives (fun read => read.1.IsMild) (layout.advance lines) := by
  unfold Layout.advance
  have skipped : (layout.skipByteOrderMark.skipGaps (lines + 1)).IsMild := by
    rw [IsMild, skipGaps_tokens, skipByteOrderMark_tokens]
    exact mild
  refine skipped.refresh.bind fun layout mild => ?_
  have unwound := mild.unwind layout.column
  dsimp only
  split
  · exact unwound.finish.bind fun _ mild => .ok mild
  · exact unwound.readToken.bind fun _ mild => .ok mild

theorem IsMild.readTokens (mild : layout.IsMild) (fuel : Nat) :
    ∀ token ∈ layout.readTokens fuel, token.IsMild := by
  have ends {layout : Layout} (mild : layout.IsMild) (failure : Failure)
      (may : failure.IsMild) : ∀ token ∈ layout.tokens.toList ++ [.unreadable failure],
        token.IsMild := by
    refine List.forall_mem_append.mpr ⟨fun token member => mild token (List.mem_reverse.mp member),
      List.forall_mem_singleton.mpr fun other same => ?_⟩
    cases same
    exact may
  induction fuel generalizing layout with
  | zero => exact ends mild .malformed trivial
  | succ fuel ih =>
      have step := mild.advance fuel
      rw [readTokens_succ]
      generalize layout.advance fuel = read at step
      cases step with
      | error may => exact ends mild _ may
      | @ok read mild =>
          obtain ⟨after, isLast⟩ := read
          cases isLast with
          | true => exact fun token member => mild token (List.mem_reverse.mp member)
          | false => exact ih mild

end Layout

/-- **All tokens of a text are mild.** -/
theorem tokens_mild (text : List Char) : ∀ token ∈ tokens text, token.IsMild :=
  have mild : (Layout.ofText text).IsMild := fun _ member => nomatch member
  mild.readTokens _

/-! ## Nodes -/

namespace Node

theorem refuse_mild {α : Type} {holds : α → Prop} {token : Token} (mild : token.IsMild) :
    Gives holds (refuse token) := by
  unfold refuse
  split
  · exact .error (mild _ rfl)
  · exact .error trivial

namespace Reading

/-- The tokens that are left are mild. -/
def IsMild (reading : Reading) : Prop := ∀ token ∈ reading.left, token.IsMild

variable {reading : Reading}

theorem IsMild.next (mild : reading.IsMild) : reading.next.IsMild := by
  unfold Reading.next
  cases left : reading.left with
  | nil =>
      intro failure same
      cases same
      exact trivial
  | cons token rest => exact mild token (by simp [left])

theorem IsMild.skip (mild : reading.IsMild) : reading.skip.IsMild :=
  fun token member => mild token (List.mem_of_mem_tail member)

theorem IsMild.expect (mild : reading.IsMild) (token : Token) :
    Gives IsMild (reading.expect token) :=
  .ite (.ok mild.skip) (refuse_mild mild.next)

theorem resolve_mild (name : String) : FailsMildly (reading.resolve name) := by
  unfold resolve
  split
  · exact .ok trivial
  · exact gives_malformed

theorem IsMild.introduce (mild : reading.IsMild) (name : Option String) (beginning : Node) :
    Gives IsMild (reading.introduce name beginning) := by
  unfold Reading.introduce
  split
  · exact .ok mild
  · exact .ite gives_malformed (.ok mild)

theorem IsMild.close (mild : reading.IsMild) (name : Option String) (node : Node) :
    (reading.close name node).IsMild := by
  cases name with
  | none => exact mild
  | some name => exact mild

theorem fullTag_mild (written : Option String × String) :
    FailsMildly (reading.fullTag written) := by
  unfold fullTag
  split
  · exact .ok trivial
  · split
    · exact .ok trivial
    · exact gives_malformed

theorem IsMild.takeProperties (mild : reading.IsMild) : reading.takeProperties.2.2.IsMild := by
  have suffix {rest : List Token} (before : List Token) (split : reading.left = before ++ rest) :
      IsMild { reading with left := rest } :=
    fun token member => mild token (split ▸ List.mem_append_right before member)
  unfold Reading.takeProperties
  split
  · rename_i name handle written rest left
    exact suffix [.anchor name, .tag handle written] left
  · rename_i handle written name rest left
    exact suffix [.tag handle written, .anchor name] left
  · rename_i name rest _ left
    exact suffix [.anchor name] left
  · rename_i handle written rest _ left
    exact suffix [.tag handle written] left
  · exact mild

theorem IsMild.properties (mild : reading.IsMild) :
    Gives (fun read => read.2.IsMild) reading.properties := by
  unfold Reading.properties
  have rest := mild.takeProperties
  generalize reading.takeProperties = taken at rest
  obtain ⟨anchor, written, after⟩ := taken
  cases written with
  | none => exact .ok rest
  | some written =>
      have full : FailsMildly (Option.mapM after.fullTag (some written)) :=
        (fullTag_mild written).bind fun _ _ => .ok trivial
      exact full.bind fun _ _ => .ok rest

end Reading

open Reading (IsMild)

/-- The reading behind what was read is mild. -/
abbrev GivesNode {α : Type} (read : Except Failure (α × Reading)) : Prop :=
  Gives (fun read => read.2.IsMild) read

mutual

/-- **Nodes that are read from mild tokens leave mild tokens**, or fail mildly. -/
theorem readNode_mild : (fuel : Nat) → (place : Place) → {reading : Reading} → reading.IsMild →
    GivesNode (readNode fuel place reading)
  | 0, _, _, _ => gives_malformed
  | fuel + 1, place, reading, mild => by
    unfold readNode
    split
    · exact (Reading.resolve_mild _).bind fun _ _ => .ok mild.skip
    · refine mild.properties.bind fun _ mild => ?_
      refine (mild.introduce _ _).bind fun _ mild => ?_
      exact (readContent_mild fuel place _ mild).bind fun _ mild => .ok (mild.close _ _)

theorem readContent_mild : (fuel : Nat) → (place : Place) → (properties : Properties) →
    {reading : Reading} → reading.IsMild → GivesNode (readContent fuel place properties reading)
  | 0, _, _, _, _ => gives_malformed
  | fuel + 1, place, properties, reading, mild => by
    unfold readContent
    dsimp only
    split
    · exact (readPlainItems_mild fuel mild).bind fun _ mild => .ok mild
    · split
      · exact .ok mild.skip
      · exact (readFlowItems_mild fuel true mild.skip).bind fun _ mild => .ok mild
      · exact (readFlowEntries_mild fuel true mild.skip).bind fun _ mild => .ok mild
      · split
        · exact (readBlockItems_mild fuel mild.skip).bind fun _ mild => .ok mild
        · split
          · exact (readBlockEntries_mild fuel mild.skip).bind fun _ mild => .ok mild
          · split
            · exact .ok mild
            · exact refuse_mild mild.next

theorem readBlockItems_mild : (fuel : Nat) → {reading : Reading} → reading.IsMild →
    GivesNode (readBlockItems fuel reading)
  | 0, _, _ => gives_malformed
  | fuel + 1, reading, mild => by
    unfold readBlockItems
    split
    · refine (readPart_mild fuel .block endsBlockItem mild.skip).bind fun _ mild => ?_
      exact (readBlockItems_mild fuel mild).bind fun _ mild => .ok mild
    · exact (mild.expect _).bind fun _ mild => .ok mild

theorem readPlainItems_mild : (fuel : Nat) → {reading : Reading} → reading.IsMild →
    GivesNode (readPlainItems fuel reading)
  | 0, _, _ => gives_malformed
  | fuel + 1, reading, mild => by
    unfold readPlainItems
    split
    · refine (readPart_mild fuel .block endsPlainItem mild.skip).bind fun _ mild => ?_
      exact (readPlainItems_mild fuel mild).bind fun _ mild => .ok mild
    · exact .ok mild

theorem readBlockEntries_mild : (fuel : Nat) → {reading : Reading} → reading.IsMild →
    GivesNode (readBlockEntries fuel reading)
  | 0, _, _ => gives_malformed
  | fuel + 1, reading, mild => by
    unfold readBlockEntries
    split
    · refine (readPart_mild fuel .blockPart endsBlockPart mild.skip).bind fun _ mild => ?_
      refine (readValue_mild fuel .blockPart endsBlockPart mild).bind fun _ mild => ?_
      exact (readBlockEntries_mild fuel mild).bind fun _ mild => .ok mild
    · exact (mild.expect _).bind fun _ mild => .ok mild

theorem readFlowItems_mild : (fuel : Nat) → (isFirst : Bool) → {reading : Reading} →
    reading.IsMild → GivesNode (readFlowItems fuel isFirst reading)
  | 0, _, _, _ => gives_malformed
  | fuel + 1, isFirst, reading, mild => by
    have goOn (read : Node × Reading) (mild : read.2.IsMild) : GivesNode (do
        let (items, after) ← readFlowItems fuel false read.2
        .ok (read.1 :: items, after)) :=
      (readFlowItems_mild fuel false mild).bind fun _ mild => .ok mild
    unfold readFlowItems
    refine .ite (.ok mild.skip) ?_
    dsimp only
    -- Whether or not a comma has to stand in front, the item is read in the same way.
    refine .ite (Ensures.bind (.ok mild) fun reading mild => ?_)
      ((mild.expect _).bind fun reading mild => ?_)
    all_goals
      refine .ite (.ok mild.skip) (.ite ?_ ((readNode_mild fuel .flow mild).bind goOn))
      refine (readPart_mild fuel .flow _ mild.skip).bind fun _ mild => ?_
      exact (readValue_mild fuel .flow _ mild).bind fun _ mild => Ensures.bind (.ok mild) goOn

theorem readFlowEntries_mild : (fuel : Nat) → (isFirst : Bool) → {reading : Reading} →
    reading.IsMild → GivesNode (readFlowEntries fuel isFirst reading)
  | 0, _, _, _ => gives_malformed
  | fuel + 1, isFirst, reading, mild => by
    have goOn (read : (Node × Node) × Reading) (mild : read.2.IsMild) : GivesNode (do
        let (entries, after) ← readFlowEntries fuel false read.2
        .ok (read.1 :: entries, after)) :=
      (readFlowEntries_mild fuel false mild).bind fun _ mild => .ok mild
    unfold readFlowEntries
    refine .ite (.ok mild.skip) ?_
    dsimp only
    refine .ite (Ensures.bind (.ok mild) fun reading mild => ?_)
      ((mild.expect _).bind fun reading mild => ?_)
    all_goals
      refine .ite (.ok mild.skip) (.ite ?_ ((readNode_mild fuel .flow mild).bind
        fun _ mild => Ensures.bind (.ok mild) goOn))
      refine (readPart_mild fuel .flow _ mild.skip).bind fun _ mild => ?_
      exact (readValue_mild fuel .flow _ mild).bind fun _ mild => Ensures.bind (.ok mild) goOn

theorem readPart_mild : (fuel : Nat) → (place : Place) → (isLeftOut : Token → Bool) →
    {reading : Reading} → reading.IsMild → GivesNode (readPart fuel place isLeftOut reading)
  | 0, _, _, _, _ => gives_malformed
  | fuel + 1, place, isLeftOut, reading, mild => by
    unfold readPart
    exact .ite (.ok mild) (readNode_mild fuel place mild)

theorem readValue_mild : (fuel : Nat) → (place : Place) → (isLeftOut : Token → Bool) →
    {reading : Reading} → reading.IsMild → GivesNode (readValue fuel place isLeftOut reading)
  | 0, _, _, _, _ => gives_malformed
  | fuel + 1, place, isLeftOut, reading, mild => by
    unfold readValue
    exact .ite (readPart_mild fuel place isLeftOut mild.skip) (.ok mild)

end

/-! ## Documents -/

theorem readDirectives_mild (preamble : Preamble) {tokens : List Token}
    (mild : ∀ token ∈ tokens, token.IsMild) :
    Gives (fun read => ∀ token ∈ read.2, token.IsMild) (readDirectives preamble tokens) := by
  fun_induction readDirectives preamble tokens with
  | case1 => exact gives_malformed
  | case2 _ _ _ _ ih => exact ih (List.forall_mem_cons.mp mild).2
  | case3 => exact gives_malformed
  | case4 _ _ _ _ _ ih => exact ih (List.forall_mem_cons.mp mild).2
  | case5 _ _ ih => exact ih (List.forall_mem_cons.mp mild).2
  | case6 => exact .ok mild

theorem headD_mild {tokens : List Token} (mild : ∀ token ∈ tokens, token.IsMild) :
    (tokens.headD (.unreadable .malformed)).IsMild :=
  have reading : IsMild ⟨tokens, [], []⟩ := mild
  reading.next

theorem checkEnd_mild {tokens : List Token} (mild : ∀ token ∈ tokens, token.IsMild) :
    FailsMildly (checkEnd tokens) := by
  have rest : ∀ token ∈ tokens.dropWhile (· == .documentEnd), token.IsMild :=
    fun token member => mild token ((List.dropWhile_sublist _).mem member)
  unfold checkEnd
  refine .ite (.ok trivial) ?_
  exact (readDirectives_mild _ rest).bind fun _ mild => refuse_mild (headD_mild mild)

theorem readDocument_mild (handles : List (String × String)) {tokens : List Token}
    (mild : ∀ token ∈ tokens, token.IsMild) : FailsMildly (readDocument handles tokens) := by
  have reading : IsMild ⟨tokens, [], handles⟩ := mild
  refine (readNode_mild _ .block reading).bind fun _ mild => ?_
  exact (checkEnd_mild mild).bind fun _ _ => .ok trivial

theorem readMarked_mild {tokens : List Token} (mild : ∀ token ∈ tokens, token.IsMild) :
    FailsMildly (readMarked tokens) := by
  unfold readMarked
  refine (readDirectives_mild _ mild).bind fun read mild => ?_
  obtain ⟨preamble, rest⟩ := read
  dsimp only at mild ⊢
  split
  · have content := (List.forall_mem_cons.mp mild).2
    refine .ite ?_ (readDocument_mild _ content)
    exact (checkEnd_mild content).bind fun _ _ => .ok trivial
  · exact refuse_mild (List.forall_mem_cons.mp mild).1
  · exact gives_malformed

theorem ofTokens?_mild {tokens : List Token} (mild : ∀ token ∈ tokens, token.IsMild) :
    FailsMildly (ofTokens? tokens) := by
  unfold ofTokens?
  split
  · exact .ok trivial
  · refine .ite ?_ ?_
    · exact (readMarked_mild mild).bind fun _ _ => .ok trivial
    · exact (readDocument_mild _ mild).bind fun _ _ => .ok trivial
  · exact gives_malformed

end Node

/-- **The value of a text is sound**; without one, the text is malformed or a scalar in it has no
value. -/
theorem read_sound (text : String) : Gives Value.IsSound (read text) := by
  unfold read
  refine .ite ?_ (.error trivial)
  refine (Node.ofTokens?_mild (tokens_mild _)).bind fun node? _ => ?_
  cases node? with
  | none => exact .ok .null
  | some node => exact node.value_sound

end GuestFlow.Yaml
