import LogLine.Proofs.Color.Invisible

/-
  The blocks behind a line, as they are seen once the escape
  sequences are deleted.

  Whether a block needs a line feed in front of it, and whether
  there is a block at all, is decided by the texts as they are
  written.  So a line feed that stands in front of a reset does
  not count as the end of a line, and a failure without text
  counts as a block if it is painted.  In both cases a line
  feed is written that is seen as an empty line; none is ever
  left out.

  Key definitions include:
    * `LogLine.blockFeed`
    * `LogLine.joinBlocks`
    * `LogLine.ShowsFinalFeed`
    * `LogLine.Record.plainFailure`

  Key theorems include:
    * `LogLine.deleteEscapes_append_feed`
    * `LogLine.deleteEscapes_appendBlock`
    * `LogLine.deleteEscapes_joinBlocks_iff`
    * `LogLine.Renderer.deleteEscapes_failureBlock`
    * `LogLine.blocks_join_as_written`
-/

------------------------------------------------------------
-- Sequences and Line Feeds
------------------------------------------------------------

namespace LogLine

theorem behindEscape?_of_other
    {c d : Char}
    (hOther : ¬(c = '\x1b' ∧ d = '['))
    (rest : Text) :
    behindEscape? (c :: d :: rest) = none := by
  unfold behindEscape?
  split
  case h_1 behind hEq =>
      rw [List.cons.injEq, List.cons.injEq] at hEq
      exact absurd ⟨hEq.1, hEq.2.1⟩ hOther
  case h_2 => rfl

/- No sequence reaches over a line feed. -/
theorem behindEscape?_append_feed
    (text rest : Text) :
    behindEscape? (text ++ '\n' :: rest) =
      (behindEscape? text).map (· ++ '\n' :: rest) := by
  match text with
  | [] => simp [behindEscape?]
  | [c] => simp [behindEscape?]
  | c :: d :: more =>
      by_cases hStart : c = '\x1b' ∧ d = '['
      · rcases hStart with ⟨rfl, rfl⟩
        simp only [List.cons_append, behindEscape?,
          List.dropWhile_append]
        cases hDrop : more.dropWhile isCodeDigit with
        | nil => simp [isCodeDigit]
        | cons e after =>
            by_cases hEnd : e = 'm'
            · subst hEnd
              simp
            · simp [hEnd]
      · simp only [List.cons_append,
          behindEscape?_of_other hStart, Option.map_none]

/- So the parts of a text around a line feed stay apart. -/
theorem deleteEscapes_append_feed
    (text rest : Text) :
    deleteEscapes (text ++ '\n' :: rest) =
      deleteEscapes text ++ '\n' :: deleteEscapes rest := by
  induction text using deleteEscapes.induct with
  | case1 text after hBehind ih =>
      have hWhole := behindEscape?_append_feed text rest
      rw [hBehind, Option.map_some] at hWhole
      rw [deleteEscapes_of_behindEscape? hWhole,
        deleteEscapes_of_behindEscape? hBehind, ih]
  | case2 hNone =>
      rw [List.nil_append, deleteEscapes_nil, List.nil_append]
      exact deleteEscapes_cons (by decide) rest
  | case3 c more hNone ih =>
      have hWhole := behindEscape?_append_feed (c :: more) rest
      rw [hNone, Option.map_none, List.cons_append] at hWhole
      rw [List.cons_append, deleteEscapes_cons_of_none hWhole,
        deleteEscapes_cons_of_none hNone, ih, List.cons_append]

theorem Text.endsIn_iff
    (c : Char)
    (text : Text) :
    text.endsIn c = true ↔ ∃ front, text = front ++ [c] := by
  rw [endsIn, beq_iff_eq, List.getLast?_eq_some_iff]

theorem Text.endsIn_append
    {c : Char}
    {front back : Text}
    (hBack : back ≠ []) :
    endsIn c (front ++ back) = endsIn c back := by
  rw [endsIn, endsIn, List.getLast?_append_of_ne_nil _ hBack]

/- A line feed at the end is seen without the sequences too. -/
theorem endsIn_deleteEscapes
    {text : Text}
    (hEnd : text.endsIn '\n' = true) :
    (deleteEscapes text).endsIn '\n' = true := by
  rcases (Text.endsIn_iff _ _).mp hEnd with ⟨front, rfl⟩
  rw [deleteEscapes_append_feed, deleteEscapes_nil,
    Text.endsIn_iff]
  exact ⟨_, rfl⟩

end LogLine

------------------------------------------------------------
-- Feeds in Front of Blocks
------------------------------------------------------------

namespace LogLine

/- What is written between a text and a block behind it. -/
def blockFeed
    (text block : Text) :
    Text :=
  if block = [] ∨ text.endsIn '\n' = true then [] else ['\n']

theorem blockFeed_nil
    (text : Text) :
    blockFeed text [] = [] :=
  if_pos (Or.inl rfl)

theorem blockFeed_of_endsIn
    {text : Text}
    (hEnd : text.endsIn '\n' = true)
    (block : Text) :
    blockFeed text block = [] :=
  if_pos (Or.inr hEnd)

theorem blockFeed_of_open
    {text block : Text}
    (hBlock : block ≠ [])
    (hEnd : text.endsIn '\n' = false) :
    blockFeed text block = ['\n'] := by
  refine if_neg (not_or.mpr ⟨hBlock, ?_⟩)
  rw [hEnd]
  exact Bool.false_ne_true

theorem appendBlock_eq
    (text block : Text) :
    appendBlock text block =
      text ++ (blockFeed text block ++ block) := by
  unfold appendBlock
  split
  case isTrue hBlock =>
      rw [hBlock, blockFeed_nil, List.append_nil,
        List.append_nil]
  case isFalse hBlock =>
      split
      case isTrue hEnd =>
          rw [blockFeed_of_endsIn hEnd, List.nil_append]
      case isFalse hEnd =>
          rw [Bool.not_eq_true] at hEnd
          rw [blockFeed_of_open hBlock hEnd, List.singleton_append]

/- Deleting sequences leaves the feed that was written. -/
theorem deleteEscapes_appendBlock
    (text block : Text) :
    deleteEscapes (appendBlock text block) =
      deleteEscapes text ++
        (blockFeed text block ++ deleteEscapes block) := by
  rw [appendBlock_eq]
  by_cases hBlock : block = []
  · rw [hBlock, blockFeed_nil, deleteEscapes_nil,
      List.append_nil, List.append_nil, List.append_nil]
  · cases hEnd : text.endsIn '\n' with
    | false =>
        rw [blockFeed_of_open hBlock hEnd, List.singleton_append,
          List.singleton_append, deleteEscapes_append_feed]
    | true =>
        rw [blockFeed_of_endsIn hEnd, List.nil_append,
          List.nil_append]
        rcases (Text.endsIn_iff _ _).mp hEnd with ⟨front, rfl⟩
        rw [List.append_assoc, List.singleton_append,
          deleteEscapes_append_feed, deleteEscapes_append_feed,
          deleteEscapes_nil, List.append_assoc,
          List.singleton_append]

/- The line ends as its last block does. -/
theorem endsIn_appendBlock_iff
    (text block : Text) :
    (appendBlock text block).endsIn '\n' = true ↔
      if block = [] then
        text.endsIn '\n' = true
      else
        block.endsIn '\n' = true := by
  split
  case isTrue hBlock =>
      rw [appendBlock, if_pos hBlock]
  case isFalse hBlock =>
      rw [appendBlock_eq, ← List.append_assoc,
        Text.endsIn_append hBlock]

theorem ne_nil_of_endsIn
    {c : Char}
    {text : Text}
    (hEnd : text.endsIn c = true) :
    text ≠ [] := by
  rintro rfl
  cases hEnd

/- A feed at the end stays there without the sequences. -/
theorem endsIn_appendBlock_deleteEscapes
    {text block : Text}
    (hEnd : (appendBlock text block).endsIn '\n' = true) :
    (appendBlock (deleteEscapes text)
      (deleteEscapes block)).endsIn '\n' = true := by
  rw [endsIn_appendBlock_iff] at hEnd ⊢
  by_cases hBlock : block = []
  · rw [if_pos hBlock] at hEnd
    rw [hBlock, deleteEscapes_nil, if_pos rfl]
    exact endsIn_deleteEscapes hEnd
  · rw [if_neg hBlock] at hEnd
    have hSeen := endsIn_deleteEscapes hEnd
    rw [if_neg (ne_nil_of_endsIn hSeen)]
    exact hSeen

/- More line ends and fewer blocks need fewer feeds. -/
theorem blockFeed_prefix
    {text block other rest : Text}
    (hEnd :
      text.endsIn '\n' = true → other.endsIn '\n' = true)
    (hBlock : block = [] → rest = []) :
    blockFeed other rest <+: blockFeed text block := by
  by_cases hNone : block = []
  · rw [hBlock hNone, blockFeed_nil]
    exact List.nil_prefix
  · cases hOpen : text.endsIn '\n' with
    | true =>
        rw [blockFeed_of_endsIn (hEnd hOpen)]
        exact List.nil_prefix
    | false =>
        rw [blockFeed_of_open hNone hOpen]
        unfold blockFeed
        split
        case isTrue => exact List.nil_prefix
        case isFalse => exact List.prefix_refl _

end LogLine

------------------------------------------------------------
-- Lines with Both Blocks
------------------------------------------------------------

namespace LogLine

/- A line with the text of a failure and a stack behind it. -/
def joinBlocks
    (line failure stack : Text) :
    Text :=
  appendBlock (appendBlock line failure) stack

/-
  What is written between line, failure and stack is what is
  needed between them as they are seen.
-/
structure FeedsAsSeen
    (line failure stack : Text) : Prop where
  beforeFailure :
    blockFeed line failure =
      blockFeed (deleteEscapes line) (deleteEscapes failure)
  beforeStack :
    blockFeed (appendBlock line failure) stack =
      blockFeed
        (appendBlock (deleteEscapes line)
          (deleteEscapes failure))
        (deleteEscapes stack)

variable (line failure stack : Text)

theorem joinBlocks_eq :
    joinBlocks line failure stack =
      line ++ (blockFeed line failure ++ (failure ++
        (blockFeed (appendBlock line failure) stack ++
          stack))) := by
  rw [joinBlocks, appendBlock_eq _ stack]
  nth_rewrite 1 [appendBlock_eq]
  simp only [List.append_assoc]

theorem deleteEscapes_joinBlocks :
    deleteEscapes (joinBlocks line failure stack) =
      deleteEscapes line ++ (blockFeed line failure ++
        (deleteEscapes failure ++
          (blockFeed (appendBlock line failure) stack ++
            deleteEscapes stack))) := by
  rw [joinBlocks, deleteEscapes_appendBlock,
    deleteEscapes_appendBlock]
  simp only [List.append_assoc]

/- No feed that is needed in front of the failure is left out. -/
theorem failureFeed_prefix :
    blockFeed (deleteEscapes line) (deleteEscapes failure) <+:
      blockFeed line failure := by
  refine blockFeed_prefix endsIn_deleteEscapes ?_
  rintro rfl
  exact deleteEscapes_nil

/- And none in front of the stack. -/
theorem stackFeed_prefix :
    blockFeed
        (appendBlock (deleteEscapes line)
          (deleteEscapes failure))
        (deleteEscapes stack) <+:
      blockFeed (appendBlock line failure) stack := by
  refine blockFeed_prefix endsIn_appendBlock_deleteEscapes ?_
  rintro rfl
  exact deleteEscapes_nil

/-
  The line is seen as its parts are, joined, exactly if no
  more feeds are written than needed: since none is left out,
  the two texts cannot be of one length otherwise.
-/
theorem deleteEscapes_joinBlocks_iff :
    deleteEscapes (joinBlocks line failure stack) =
        joinBlocks (deleteEscapes line) (deleteEscapes failure)
          (deleteEscapes stack) ↔
      FeedsAsSeen line failure stack := by
  rw [deleteEscapes_joinBlocks, joinBlocks_eq]
  have hFailure := failureFeed_prefix line failure
  have hStack := stackFeed_prefix line failure stack
  constructor
  · intro hSame
    have hLength := congrArg List.length hSame
    simp only [List.length_append] at hLength
    have hFirst := hFailure.length_le
    have hSecond := hStack.length_le
    exact
      { beforeFailure :=
          (hFailure.eq_of_length (by omega)).symm
        beforeStack := (hStack.eq_of_length (by omega)).symm }
  · intro hFeeds
    rw [hFeeds.beforeFailure, hFeeds.beforeStack]

end LogLine

------------------------------------------------------------
-- Ends That Are Seen as Written
------------------------------------------------------------

namespace LogLine

/- No sequence stands behind the line feed at the end of a text. -/
def ShowsFinalFeed
    (text : Text) : Prop :=
  (deleteEscapes text).endsIn '\n' = true →
    text.endsIn '\n' = true

theorem deleteEscapes_of_not_mem
    {text : Text}
    (hText : '\x1b' ∉ text) :
    deleteEscapes text = text := by
  have hAll := deleteEscapes_text_append hText []
  rw [List.append_nil, deleteEscapes_nil, List.append_nil]
    at hAll
  exact hAll

theorem ShowsFinalFeed.of_not_mem
    {text : Text}
    (hText : '\x1b' ∉ text) :
    ShowsFinalFeed text := by
  unfold ShowsFinalFeed
  rw [deleteEscapes_of_not_mem hText]
  exact id

theorem ShowsFinalFeed.endsIn_eq
    {text : Text}
    (hText : ShowsFinalFeed text) :
    (deleteEscapes text).endsIn '\n' = text.endsIn '\n' :=
  Bool.eq_iff_iff.mpr ⟨hText, endsIn_deleteEscapes⟩

variable {line failure stack : Text}

theorem endsIn_appendBlock_congr
    (hLine : ShowsFinalFeed line)
    (hFailure : ShowsFinalFeed failure)
    (hEmpty : deleteEscapes failure = [] → failure = []) :
    (appendBlock (deleteEscapes line)
        (deleteEscapes failure)).endsIn '\n' =
      (appendBlock line failure).endsIn '\n' := by
  refine
    Bool.eq_iff_iff.mpr ⟨?_, endsIn_appendBlock_deleteEscapes⟩
  rw [endsIn_appendBlock_iff, endsIn_appendBlock_iff]
  by_cases hBlock : failure = []
  · rw [hBlock, deleteEscapes_nil, if_pos rfl, if_pos rfl]
    exact hLine
  · rw [if_neg (fun hSeen => hBlock (hEmpty hSeen)),
      if_neg hBlock]
    exact hFailure

theorem blockFeed_congr
    {text other block rest : Text}
    (hEnd : other.endsIn '\n' = text.endsIn '\n')
    (hBlock : rest = [] ↔ block = []) :
    blockFeed other rest = blockFeed text block := by
  unfold blockFeed
  simp only [hEnd, hBlock]

/-
  Line and failure that show their ends get the feeds that are
  needed, if there is something to see of the failure.
-/
theorem FeedsAsSeen.of_shown
    (hLine : ShowsFinalFeed line)
    (hFailure : ShowsFinalFeed failure)
    (hEmpty : deleteEscapes failure = [] → failure = [])
    (hStack : '\x1b' ∉ stack) :
    FeedsAsSeen line failure stack where
  beforeFailure := by
    refine (blockFeed_congr hLine.endsIn_eq ⟨hEmpty, ?_⟩).symm
    rintro rfl
    exact deleteEscapes_nil
  beforeStack := by
    rw [deleteEscapes_of_not_mem hStack]
    exact
      (blockFeed_congr
        (endsIn_appendBlock_congr hLine hFailure hEmpty)
        Iff.rfl).symm

end LogLine

------------------------------------------------------------
-- Texts of Failures
------------------------------------------------------------

namespace LogLine

/- The text of the failure of a record without colour, if any. -/
def Record.plainFailure
    (record : Record) :
    Text :=
  match record.failure with
  | none => []
  | some failure => failure.traceback.dropFinal '\n'

namespace Renderer

variable {renderer : Renderer}
variable {record : Record}

theorem deleteEscapes_paintFailure
    (hPalettes : renderer.EscapePalettes)
    (level : Level)
    (color : Bool)
    {text : Text}
    (hText : '\x1b' ∉ text) :
    deleteEscapes (renderer.paintFailure level color text) =
      text := by
  unfold paintFailure
  cases hPalette :
      renderer.palettes.get?
        Attribute.failureText.fieldName with
  | none => exact deleteEscapes_of_not_mem hText
  | some palette =>
      cases color with
      | false => exact deleteEscapes_of_not_mem hText
      | true =>
          have hEntry := Dict.mem_of_lookup hPalette
          exact
            Palette.deleteEscapes_paint
              (hPalettes _ palette hEntry level) hText

/- The block of a failure that no call has made a text of. -/
theorem failureBlock_of_fresh
    (hFresh : record.failureText = none)
    (color : Bool) :
    renderer.failureBlock color record =
      match record.failure with
      | none => []
      | some _ =>
          renderer.paintFailure record.level color
            record.plainFailure := by
  unfold failureBlock Record.failureTextWith Record.plainFailure
  cases record.failure with
  | none => rfl
  | some failure =>
      rw [hFresh]
      rfl

/- It is seen as the text of the failure. -/
theorem deleteEscapes_failureBlock
    (hPalettes : renderer.EscapePalettes)
    (hFresh : record.failureText = none)
    (hFailure : '\x1b' ∉ record.plainFailure)
    (color : Bool) :
    deleteEscapes (renderer.failureBlock color record) =
      record.plainFailure := by
  rw [failureBlock_of_fresh hFresh]
  cases hNone : record.failure with
  | none =>
      rw [Record.plainFailure, hNone]
      exact deleteEscapes_nil
  | some failure =>
      exact
        deleteEscapes_paintFailure hPalettes record.level color
          hFailure

/- Without colour it is that text. -/
theorem failureBlock_false
    (renderer : Renderer)
    (hFresh : record.failureText = none) :
    renderer.failureBlock false record =
      record.plainFailure := by
  rw [failureBlock_of_fresh hFresh]
  cases hFailure : record.failure with
  | none =>
      unfold Record.plainFailure
      rw [hFailure]
  | some failure =>
      unfold paintFailure
      cases renderer.palettes.get?
          Attribute.failureText.fieldName with
      | none => rfl
      | some palette => rfl

/- A line is a filled template with the blocks joined to it. -/
theorem exists_joinBlocks_of_render
    {color : Bool}
    (hMode : renderer.colorMode = .ok color)
    {out : Text}
    (hOut : (renderer.render record).1 = .ok out) :
    ∃ line,
      renderer.filled color record = .ok line ∧
        joinBlocks line (renderer.failureBlock color record)
            (record.stackInfo.getD []) =
          out := by
  cases hLine : renderer.filled color record with
  | error fault =>
      rw [render_of_filled_error hMode hLine] at hOut
      cases hOut
  | ok line =>
      rw [render_of_filled_ok hMode hLine] at hOut
      exact ⟨line, rfl, Except.ok.inj hOut⟩

end Renderer

/- The palettes of a renderer that was built. -/
theorem Settings.escapePalettes_of_build
    {settings : Settings}
    {built : Renderer}
    (hBuild : settings.build = .ok built)
    (supported : Bool) :
    (built.decideColor supported).2.EscapePalettes := by
  rcases (settings.build_eq_ok_iff built).mp hBuild with
    ⟨parts, hPassed, rfl⟩
  have hPalettes :=
    escapePalettes_of_passed hPassed settings parts.backup
  rw [Renderer.decideColor_snd]
  exact hPalettes

end LogLine

------------------------------------------------------------
-- Blocks of Rendered Lines
------------------------------------------------------------

namespace LogLine

/-
  A line with its blocks, once the escape sequences are
  deleted: what fills the template, the failure and the stack,
  with the feeds between them that the texts in colour call
  for.  None is left out of those that are needed for what is
  seen, and the parts are joined like texts without colour
  exactly if there is no other.  That is the case if line and
  failure show their ends and there is something to see of a
  failure in colour, and with colour off.
-/
theorem blocks_join_as_written
    {settings : Settings}
    {built : Renderer}
    (hBuild : settings.build = .ok built)
    (supported : Bool)
    {color : Bool}
    (hMode :
      (built.decideColor supported).2.colorMode = .ok color)
    {record : Record}
    (hFresh : record.failureText = none)
    (hFailure : '\x1b' ∉ record.plainFailure)
    (hStack : '\x1b' ∉ record.stackInfo.getD [])
    {out : Text}
    (hOut :
      ((built.decideColor supported).2.render record).1 =
        .ok out) :
    ∃ line,
      (built.decideColor supported).2.filled color record =
          .ok line ∧
      let painted :=
        (built.decideColor supported).2.failureBlock color record
      let failure := record.plainFailure
      let stack := record.stackInfo.getD []
      deleteEscapes out =
          deleteEscapes line ++
            (blockFeed line painted ++ (failure ++
              (blockFeed (appendBlock line painted) stack ++
                stack))) ∧
      blockFeed (deleteEscapes line) failure <+:
          blockFeed line painted ∧
      blockFeed (appendBlock (deleteEscapes line) failure)
            stack <+:
          blockFeed (appendBlock line painted) stack ∧
      (deleteEscapes out =
          joinBlocks (deleteEscapes line) failure stack ↔
        FeedsAsSeen line painted stack) ∧
      (ShowsFinalFeed line → ShowsFinalFeed painted →
        (failure = [] → painted = []) →
        deleteEscapes out =
          joinBlocks (deleteEscapes line) failure stack) ∧
      (color = false → '\x1b' ∉ line →
        deleteEscapes out =
          joinBlocks (deleteEscapes line) failure stack) := by
  have hSeen :=
    Renderer.deleteEscapes_failureBlock
      (Settings.escapePalettes_of_build hBuild supported) hFresh
      hFailure color
  have hPlainStack := deleteEscapes_of_not_mem hStack
  generalize (built.decideColor supported).2 = renderer
    at hMode hOut hSeen ⊢
  rcases renderer.exists_joinBlocks_of_render hMode hOut with
    ⟨line, hLine, rfl⟩
  have hText :=
    deleteEscapes_joinBlocks line
      (renderer.failureBlock color record)
      (record.stackInfo.getD [])
  have hFirst :=
    failureFeed_prefix line (renderer.failureBlock color record)
  have hSecond :=
    stackFeed_prefix line (renderer.failureBlock color record)
      (record.stackInfo.getD [])
  have hIff :=
    deleteEscapes_joinBlocks_iff line
      (renderer.failureBlock color record)
      (record.stackInfo.getD [])
  rw [hSeen] at hFirst
  rw [hSeen, hPlainStack] at hText hSecond hIff
  refine
    ⟨line, hLine, hText, hFirst, hSecond, hIff, ?_, ?_⟩
  · intro hEnd hPainted hEmpty
    rw [← hSeen] at hEmpty
    exact
      hIff.mpr
        (FeedsAsSeen.of_shown hEnd hPainted hEmpty hStack)
  · rintro rfl hPlain
    have hBlock := renderer.failureBlock_false hFresh
    refine
      hIff.mpr
        (FeedsAsSeen.of_shown (.of_not_mem hPlain) ?_ ?_ hStack)
    · rw [hBlock]
      exact .of_not_mem hFailure
    · rw [hSeen, hBlock]
      exact id

/- Messages in colour. -/
def messageSettings : Settings :=
  { Settings.blank with
    templates := LevelMap.uniform "\x7bmessage\x7d".toList
    palettes :=
      Dict.ofList
        [("message".toList, Settings.uniformColor "35")] }

/- A message that ends its line, with a failure behind it. -/
def endedRecord : Record :=
  { Record.ofMessage .error "app".toList "failed\n".toList
      default with
    failure := some (Failure.ofText "boom".toList) }

def endedLine : Text :=
  "\x1b[35mfailed\n\x1b[0m".toList

theorem deleteEscapes_endedLine :
    deleteEscapes endedLine = "failed\n".toList := by
  have hEnter :
      EscapeRun ('\x1b' :: '[' :: (['3', '5'] ++ 'm' :: [])) :=
    .cons (by decide) .nil
  have hInserted :
      Inserted EscapeRun endedLine "failed\n".toList :=
    .mark hEnter
      (.text "failed\n".toList (.mark EscapeRun.reset .nil))
  exact hInserted.deleteEscapes (by decide)

theorem exists_messageRenderer :
    ∃ built,
      messageSettings.build = .ok built ∧
      (built.decideColor true).2.colorMode = .ok true ∧
      (built.decideColor true).2.filled true endedRecord =
        .ok endedLine ∧
      (built.decideColor true).2.failureBlock true endedRecord =
        "boom".toList ∧
      ((built.decideColor true).2.render endedRecord).1 =
        .ok (endedLine ++ "\nboom".toList) := by
  have hRun :
      (messageSettings.build.toOption.map fun built =>
        ((built.decideColor true).2.colorMode,
          (built.decideColor true).2.filled true endedRecord,
          (built.decideColor true).2.failureBlock true
            endedRecord)) =
        some (.ok true, .ok endedLine, "boom".toList) := by
    decide +kernel
  simp only [Option.map_eq_some_iff, toOption_eq_some_iff,
    Prod.mk.injEq] at hRun
  rcases hRun with ⟨built, hBuild, hMode, hFilled, hBlock⟩
  refine ⟨built, hBuild, hMode, hFilled, hBlock, ?_⟩
  rw [Renderer.render_of_filled_ok hMode hFilled, hBlock]
  rfl

/-
  The reset behind a message in colour hides that its line is
  at an end, so an empty line is seen in front of the failure.
-/
theorem colored_message_adds_line :
    ¬ ∀ (settings : Settings) (built : Renderer)
        (supported color : Bool) (record : Record)
        (line out : Text),
      settings.build = .ok built →
      (built.decideColor supported).2.colorMode = .ok color →
      record.failureText = none →
      (∀ entry ∈ record.fields, ∀ text ∈ entry.2.text?,
        '\x1b' ∉ text) →
      '\x1b' ∉ record.plainFailure →
      '\x1b' ∉ record.stackInfo.getD [] →
      (built.decideColor supported).2.filled color record =
        .ok line →
      ((built.decideColor supported).2.render record).1 =
        .ok out →
      deleteEscapes out =
        joinBlocks (deleteEscapes line) record.plainFailure
          (record.stackInfo.getD []) := by
  intro hJoined
  rcases exists_messageRenderer with
    ⟨built, hBuild, hMode, hLine, -, hOut⟩
  have hSame :=
    hJoined messageSettings built true true endedRecord _ _
      hBuild hMode rfl (by decide +kernel) (by decide)
      (by decide) hLine hOut
  have hSeen :
      deleteEscapes (endedLine ++ "\nboom".toList) =
        "failed\n\nboom".toList := by
    have hText :=
      deleteEscapes_append_feed endedLine "boom".toList
    have hBlock : '\x1b' ∉ "boom".toList := by decide
    rw [deleteEscapes_endedLine,
      deleteEscapes_of_not_mem hBlock] at hText
    exact hText
  rw [hSeen, deleteEscapes_endedLine] at hSame
  revert hSame
  decide

theorem blocks_join_as_written_of_message :
    ∃ built,
      messageSettings.build = .ok built ∧
      (built.decideColor true).2.colorMode = .ok true ∧
      endedRecord.failureText = none ∧
      '\x1b' ∉ endedRecord.plainFailure ∧
      '\x1b' ∉ endedRecord.stackInfo.getD [] ∧
      ((built.decideColor true).2.render endedRecord).1 =
        .ok (endedLine ++ "\nboom".toList) ∧
      deleteEscapes (endedLine ++ "\nboom".toList) =
        "failed\n\nboom".toList := by
  rcases exists_messageRenderer with
    ⟨built, hBuild, hMode, hFilled, hBlock, hOut⟩
  have hFresh : endedRecord.failureText = none := rfl
  have hFailure : '\x1b' ∉ endedRecord.plainFailure := by
    decide
  have hStack : '\x1b' ∉ endedRecord.stackInfo.getD [] := by
    decide
  rcases blocks_join_as_written hBuild true hMode hFresh hFailure
      hStack hOut with
    ⟨line, hLine, hText, -⟩
  rw [hFilled, Except.ok.injEq] at hLine
  rw [← hLine, hBlock, deleteEscapes_endedLine] at hText
  exact
    ⟨built, hBuild, hMode, hFresh, hFailure, hStack, hOut, hText⟩

/- Failures in colour. -/
def paintedSettings : Settings :=
  { messageSettings with
    palettes :=
      Dict.ofList
        [("exc_text".toList, Settings.uniformColor "31")] }

/- A failure without text is a block if it is painted. -/
example :
    (paintedSettings.build.toOption.map fun built =>
      ((built.decideColor true).2.render
        { endedRecord with
          message := "failed".toList
          failure := some (Failure.ofText []) }).1) =
      some (.ok "failed\n\x1b[31m\x1b[0m".toList) := by
  decide +kernel

end LogLine
