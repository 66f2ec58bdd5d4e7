import LogLine.Proofs.Color.Invisible
import LogLine.Proofs.Template.Filling

/-
  With colour on, every colour that a line opens is reset
  before the next one and before the end of the line.

  Key definitions include:
    * `LogLine.Spanned`
    * `LogLine.Coupled`
    * `LogLine.Lookup.Couples`
    * `LogLine.Renderer.Opens`
    * `LogLine.Renderer.EscapeFree`

  Key theorems include:
    * `LogLine.Spanned.append`
    * `LogLine.Spanned.enclose`
    * `LogLine.MarkedUp.spanned`
    * `LogLine.Renderer.spanned_failureBlock`
    * `LogLine.Renderer.spanned_template`
    * `LogLine.colored_line_is_spanned`

  The two markers of a pair stand for the two sides of one
  palette at one level: a sequence and its reset, or nothing
  on either side.  So a template with paired markers gives a
  line of closed spans, and the blocks behind it are such
  lines too.
-/

------------------------------------------------------------
-- Texts in Closed Spans
------------------------------------------------------------

namespace LogLine

/-
  Texts without escape characters, some of them in spans that
  are opened by sequences and closed by a reset.
-/
inductive Spanned
    (opens : Text → Prop) :
    Text → Prop where
  | plain
      {text : Text}
      (hText : '\x1b' ∉ text) :
      Spanned opens text
  | span
      {before enter inside rest : Text}
      (hBefore : '\x1b' ∉ before)
      (hEnter : opens enter)
      (hInside : '\x1b' ∉ inside)
      (hRest : Spanned opens rest) :
      Spanned opens
        (before ++
          (enter ++ (inside ++ (resetSequence ++ rest))))

/- The two sides of a text: a sequence and its reset, or nothing. -/
inductive Coupled
    (opens : Text → Prop) :
    Text → Text → Prop where
  | bare :
      Coupled opens [] []
  | colored
      {enter : Text}
      (hEnter : opens enter) :
      Coupled opens enter resetSequence

namespace Spanned

variable {opens : Text → Prop}

theorem prepend
    {text rest : Text}
    (hText : '\x1b' ∉ text)
    (hRest : Spanned opens rest) :
    Spanned opens (text ++ rest) := by
  cases hRest with
  | plain hPlain =>
      apply Spanned.plain
      rw [List.mem_append, not_or]
      exact ⟨hText, hPlain⟩
  | @span before enter inside rest hBefore hEnter hInside hRest =>
      rw [← List.append_assoc]
      refine Spanned.span ?_ hEnter hInside hRest
      rw [List.mem_append, not_or]
      exact ⟨hText, hBefore⟩

theorem append
    {first second : Text}
    (hFirst : Spanned opens first)
    (hSecond : Spanned opens second) :
    Spanned opens (first ++ second) := by
  induction hFirst with
  | plain hPlain => exact hSecond.prepend hPlain
  | span hBefore hEnter hInside _ ih =>
      simp only [List.append_assoc]
      exact Spanned.span hBefore hEnter hInside ih

/- Two sides make a span of the text between them. -/
theorem enclose
    {front inside back rest : Text}
    (hCoupled : Coupled opens front back)
    (hInside : '\x1b' ∉ inside)
    (hRest : Spanned opens rest) :
    Spanned opens (front ++ (inside ++ (back ++ rest))) := by
  cases hCoupled with
  | bare =>
      have hText := hRest.prepend hInside
      simpa using hText
  | colored hEnter =>
      exact
        Spanned.span List.not_mem_nil hEnter hInside hRest

/- A block on lines of its own leaves all spans closed. -/
theorem appendBlock
    {text block : Text}
    (hText : Spanned opens text)
    (hBlock : Spanned opens block) :
    Spanned opens (LogLine.appendBlock text block) := by
  unfold LogLine.appendBlock
  split
  case isTrue => exact hText
  case isFalse =>
      split
      case isTrue => exact hText.append hBlock
      case isFalse =>
          have hFeed : '\x1b' ∉ ['\n'] := by decide
          exact hText.append (hBlock.prepend hFeed)

end Spanned

end LogLine

------------------------------------------------------------
-- Sides of Palettes
------------------------------------------------------------

namespace LogLine

namespace Renderer

variable {renderer : Renderer}
variable {level : Level}

/- The sequences that open the colours of a level. -/
def Opens
    (renderer : Renderer)
    (level : Level)
    (enter : Text) :
    Prop :=
  enter ≠ [] ∧
  ∃ field palette,
    renderer.palettes.get? field = some palette ∧
      palette.enter level = enter

/- A palette that opens nothing at a level closes nothing. -/
theorem coupled_of_palette
    {field : Text}
    {palette : Palette}
    (hPalette : renderer.palettes.get? field = some palette)
    (level : Level) :
    Coupled (renderer.Opens level)
      (palette.enter level) (palette.exit level) := by
  unfold Palette.exit
  by_cases hEmpty : palette.enter level = []
  · rw [if_pos hEmpty, hEmpty]
    exact Coupled.bare
  · rw [if_neg hEmpty]
    exact
      Coupled.colored ⟨hEmpty, field, palette, hPalette, rfl⟩

theorem coupled_markText
    (renderer : Renderer)
    (level : Level)
    (name : Text) :
    Coupled (renderer.Opens level)
      (renderer.markText level true .enter name)
      (renderer.markText level true .exit name) := by
  unfold markText
  cases hPalette : renderer.palettes.get? name with
  | none => exact Coupled.bare
  | some palette => exact coupled_of_palette hPalette level

end Renderer

end LogLine

------------------------------------------------------------
-- Templates with Markers
------------------------------------------------------------

namespace LogLine

/- The text of a token, if it has one, holds no escape. -/
def Token.FillsPlain
    (lookup : Lookup)
    (token : Token) :
    Prop :=
  ∀ text, token.fill lookup = .ok text → '\x1b' ∉ text

instance (lookup : Lookup) :
    DecidablePred (Token.FillsPlain lookup) :=
  fun token =>
    decidable_of_iff
      (∀ text ∈ (token.fill lookup).toOption, '\x1b' ∉ text)
      (by simp [Token.FillsPlain, toOption_eq_some_iff])

theorem not_mem_of_fillTokens
    {lookup : Lookup}
    {tokens : List Token}
    (hPlain : ∀ token ∈ tokens, token.FillsPlain lookup)
    {line : Text}
    (hLine : fillTokens lookup tokens = .ok line) :
    '\x1b' ∉ line := by
  induction tokens generalizing line with
  | nil =>
      cases hLine
      exact List.not_mem_nil
  | cons token rest ih =>
      rw [List.forall_mem_cons] at hPlain
      rcases (fillTokens_cons_eq_ok_iff _ _ _ _).mp hLine with
        ⟨text, behind, hText, hBehind, rfl⟩
      rw [List.mem_append, not_or]
      exact ⟨hPlain.1 text hText, ih hPlain.2 hBehind⟩

/- A pair of markers around plain tokens makes a span. -/
theorem spanned_of_pair
    {opens : Text → Prop}
    {lookup : Lookup}
    {opener closer : Token}
    {inside rest : List Token}
    {front back : Text}
    (hOpener : opener.fill lookup = .ok front)
    (hCloser : closer.fill lookup = .ok back)
    (hCoupled : Coupled opens front back)
    (hInside : ∀ token ∈ inside, token.FillsPlain lookup)
    (hRest :
      ∀ text,
        fillTokens lookup rest = .ok text → Spanned opens text)
    {line : Text}
    (hLine :
      fillTokens lookup (opener :: (inside ++ closer :: rest)) =
        .ok line) :
    Spanned opens line := by
  rcases (fillTokens_cons_eq_ok_iff _ _ _ _).mp hLine with
    ⟨first, middle, hFirst, hMiddle, rfl⟩
  rcases (fillTokens_append_eq_ok_iff _ _ _ _).mp hMiddle with
    ⟨shown, closed, hShown, hClosed, rfl⟩
  rcases (fillTokens_cons_eq_ok_iff _ _ _ _).mp hClosed with
    ⟨last, behind, hLast, hBehind, rfl⟩
  rw [hOpener, Except.ok.injEq] at hFirst
  rw [hCloser, Except.ok.injEq] at hLast
  rw [← hFirst, ← hLast]
  exact
    Spanned.enclose hCoupled
      (not_mem_of_fillTokens hInside hShown)
      (hRest behind hBehind)

/- The two markers of a name stand for texts that belong together. -/
def Lookup.Couples
    (lookup : Lookup)
    (opens : Text → Prop)
    (name : Text) :
    Prop :=
  ∃ front back,
    lookup (enterMarker name) = some (.str front) ∧
    lookup (exitMarker name) = some (.str back) ∧
    Coupled opens front back

/-
  By induction on how the markers were put in: each step adds
  plain text or one closed span in front.
-/
theorem MarkedUp.spanned
    {raw out : List Token}
    (hMarked : MarkedUp raw out)
    {opens : Text → Prop}
    {lookup : Lookup}
    (hBare : ∀ token ∈ raw, token.BareBoundary)
    (hCouples :
      ∀ f, Token.field f ∈ raw → f.role = .marked →
        lookup.Couples opens f.name)
    (hPlain :
      ∀ token ∈ raw, token.isBoundary = false →
        token.uncolored.FillsPlain lookup)
    {line : Text}
    (hLine : fillTokens lookup out = .ok line) :
    Spanned opens line := by
  induction hMarked generalizing line with
  | nil =>
      cases hLine
      exact Spanned.plain List.not_mem_nil
  | @copied token raw out hInside _ _ ih =>
      rw [List.forall_mem_cons] at hBare hPlain
      rcases (fillTokens_cons_eq_ok_iff _ _ _ _).mp hLine with
        ⟨text, behind, hText, hBehind, rfl⟩
      have hRest :=
        ih hBare.2
          (fun f hMem =>
            hCouples f (List.mem_cons_of_mem token hMem))
          hPlain.2 hBehind
      exact hRest.prepend (hPlain.1 hInside text hText)
  | @single f raw out hRole _ ih =>
      rw [List.forall_mem_cons] at hBare hPlain
      rcases hCouples f List.mem_cons_self hRole with
        ⟨front, back, hFront, hBack, hCoupled⟩
      have hOpener :
          (Token.field (Field.named (enterMarker f.name))).fill
              lookup =
            .ok front :=
        Token.fill_of_bare rfl rfl hFront
      have hCloser :
          (Token.field (Field.named (exitMarker f.name))).fill
              lookup =
            .ok back :=
        Token.fill_of_bare rfl rfl hBack
      have hOwn :
          ∀ token ∈ [(Token.field f).uncolored],
            token.FillsPlain lookup := by
        intro token hMem
        rw [List.mem_singleton.mp hMem]
        exact hPlain.1 (Token.isBoundary_of_marked hRole)
      refine
        spanned_of_pair hOpener hCloser hCoupled hOwn ?_ hLine
      intro text
      exact
        ih hBare.2
          (fun g hMem =>
            hCouples g (List.mem_cons_of_mem (.field f) hMem))
          hPlain.2
  | @group enter exit name inside raw out hEnter hExit hInside
      hName _ ih =>
      simp only [List.forall_mem_cons,
        List.forall_mem_append] at hBare hPlain
      rcases hBare with ⟨hBareEnter, -, hBareExit, hBareRest⟩
      rcases hPlain with ⟨-, hPlainInside, -, hPlainRest⟩
      rcases List.exists_of_findSome?_eq_some hName with
        ⟨token, hToken, hColor⟩
      rcases Token.exists_marked_of_colorName? hColor with
        ⟨first, rfl, hRole, rfl⟩
      rcases hCouples first (by simp [hToken]) hRole with
        ⟨front, back, hFront, hBack, hCoupled⟩
      have hOpens :=
        hBareEnter.markerOf (by simp [Token.isBoundary, hEnter])
          hToken hRole .enter
      have hCloses :=
        hBareExit.markerOf (by simp [Token.isBoundary, hExit])
          hToken hRole .exit
      refine
        spanned_of_pair
          (Token.fill_of_bare hOpens.conversion hOpens.spec
            hFront)
          (Token.fill_of_bare hCloses.conversion hCloses.spec
            hBack)
          hCoupled ?_ ?_ hLine
      · rw [List.forall_mem_map]
        exact fun token hMem =>
          hPlainInside token hMem (hInside token hMem)
      · intro text
        exact
          ih hBareRest (fun f hMem => hCouples f (by simp [hMem]))
            hPlainRest

end LogLine

------------------------------------------------------------
-- Lines of Records
------------------------------------------------------------

namespace LogLine

theorem Text.mem_of_mem_dropFinal
    {c d : Char}
    {text : Text}
    (hMem : c ∈ text.dropFinal d) :
    c ∈ text := by
  unfold dropFinal at hMem
  split at hMem
  case isTrue => exact text.dropLast_sublist.subset hMem
  case isFalse => exact hMem

namespace Renderer

/-
  Nothing but markers and palettes brings escape characters
  into the line of a record.  One that was never rendered
  keeps no text of its failure.
-/
structure EscapeFree
    (renderer : Renderer)
    (record : Record) : Prop where
  tokens :
    ∀ token ∈
        (scan (renderer.color record.level).source).tokens,
      token.isMarker = false →
        token.FillsPlain (renderer.filledTable true record).get?
  traceback :
    ∀ failure ∈ record.failure, '\x1b' ∉ failure.traceback
  kept : ∀ text ∈ record.failureText, '\x1b' ∉ text
  stack : ∀ text ∈ record.stackInfo, '\x1b' ∉ text

instance (renderer : Renderer) (record : Record) :
    Decidable (renderer.EscapeFree record) :=
  decidable_of_iff
    ((∀ token ∈
          (scan (renderer.color record.level).source).tokens,
        token.isMarker = false →
          token.FillsPlain
            (renderer.filledTable true record).get?) ∧
      (∀ failure ∈ record.failure,
        '\x1b' ∉ failure.traceback) ∧
      (∀ text ∈ record.failureText, '\x1b' ∉ text) ∧
      ∀ text ∈ record.stackInfo, '\x1b' ∉ text)
    ⟨fun h => ⟨h.1, h.2.1, h.2.2.1, h.2.2.2⟩,
      fun h => ⟨h.tokens, h.traceback, h.kept, h.stack⟩⟩

variable {renderer : Renderer}
variable {record : Record}

/- A traceback is painted as one span, or left as it is. -/
theorem spanned_paintFailure
    (renderer : Renderer)
    (level : Level)
    (color : Bool)
    {text : Text}
    (hText : '\x1b' ∉ text) :
    Spanned (renderer.Opens level)
      (renderer.paintFailure level color text) := by
  unfold paintFailure
  cases hPalette :
      renderer.palettes.get?
        Attribute.failureText.fieldName with
  | none => exact Spanned.plain hText
  | some palette =>
      cases color with
      | false => exact Spanned.plain hText
      | true =>
          have hEnd :
              Spanned (renderer.Opens level) [] :=
            Spanned.plain List.not_mem_nil
          have hPaint :=
            Spanned.enclose (coupled_of_palette hPalette level)
              hText hEnd
          simpa [Palette.paint] using hPaint

/- The block of a failure is spanned, painted now or before. -/
theorem spanned_failureBlock
    (color : Bool)
    (hFree : renderer.EscapeFree record) :
    Spanned (renderer.Opens record.level)
      (renderer.failureBlock color record) := by
  unfold failureBlock Record.failureTextWith
  cases hFailure : record.failure with
  | none => exact Spanned.plain List.not_mem_nil
  | some failure =>
      cases hKept : record.failureText with
      | some text => exact Spanned.plain (hFree.kept text hKept)
      | none =>
          apply renderer.spanned_paintFailure
          intro hMem
          exact
            hFree.traceback failure hFailure
              (Text.mem_of_mem_dropFinal hMem)

/- Pairs of markers stand for the two sides of a palette. -/
theorem couples_of_known
    (hKeys : renderer.UnmarkedKeys record)
    {name : Text}
    (hName : name ∈ intrinsicNames ++ renderer.defaults.keys) :
    Lookup.Couples (renderer.filledTable true record).get?
      (renderer.Opens record.level) name := by
  unfold filledTable
  rcases renderer.withTime_cases
      (renderer.templateFor true record.level) record with
    ⟨timeText, timeCalls, hFilled⟩
  have hFilledKeys :
      renderer.UnmarkedKeys { record with timeText, timeCalls } :=
    ⟨hKeys.defaults, hKeys.extras⟩
  rw [hFilled]
  exact
    ⟨_, _,
      get?_table_marker hFilledKeys hName record.level true
        .enter,
      get?_table_marker hFilledKeys hName record.level true
        .exit,
      renderer.coupled_markText record.level name⟩

end Renderer

namespace MarkedTemplate

variable {names : List Text}
variable {raw : Text}
variable {tokens out : List Token}

/- What stands in no boundary of a group is among the tokens. -/
theorem uncolored_mem
    (hTemplate : MarkedTemplate names raw tokens out)
    {token : Token}
    (hMem : token ∈ tokens)
    (hInside : token.isBoundary = false) :
    token.uncolored ∈ out := by
  have hShown :
      token.uncolored ∈
        out.filter (fun other => !other.isMarker) := by
    rw [hTemplate.marked.filter_isMarker hTemplate.renamable]
    refine List.mem_map_of_mem (List.mem_filter.mpr ?_)
    exact ⟨hMem, by rw [hInside]; rfl⟩
  exact (List.mem_filter.mp hShown).1

/- The tokens of a template with markers are those that it reads. -/
theorem exists_placed
    (hTemplate : MarkedTemplate names raw tokens out)
    {token : Token}
    (hMem : token ∈ out) :
    ∃ offset,
      token.placed offset ∈ (scan (unparse out)).tokens := by
  have hCanonical :=
    ((tokenize_eq_ok_iff raw tokens).mp hTemplate.read).2.1
  have hOut :=
    hTemplate.marked.canonical hTemplate.renamable hCanonical
  rw [(tokenize_eq_ok_iff_scan _ _).mp
    (tokenize_unparse_of_canonical hOut)]
  exact exists_placed_mem_placeTokens hMem 0

end MarkedTemplate

namespace Renderer

variable {renderer : Renderer}
variable {record : Record}

/- A template with paired markers is filled in span by span. -/
theorem spanned_template
    {raw : Text}
    {tokens out : List Token}
    {segments : List Segment}
    (hTemplate :
      MarkedTemplate (intrinsicNames ++ renderer.defaults.keys)
        raw tokens out)
    (hRead : readSegments out = .ok segments)
    (hColor :
      renderer.color record.level = ⟨unparse out, segments⟩)
    (hKeys : renderer.UnmarkedKeys record)
    (hFree : renderer.EscapeFree record)
    {line : Text}
    (hLine :
      (renderer.color record.level).render
          (renderer.filledTable true record).get? =
        .ok line) :
    Spanned (renderer.Opens record.level) line := by
  have hPlain :
      ∀ token ∈ tokens, token.isBoundary = false →
        token.uncolored.FillsPlain
          (renderer.filledTable true record).get? := by
    intro token hMem hInside text hText
    have hOut := hTemplate.uncolored_mem hMem hInside
    have hOwn :=
      (hTemplate.renamable token hMem).isMarker_uncolored
    rcases hTemplate.exists_placed hOut with ⟨offset, hPlaced⟩
    refine
      hFree.tokens (token.uncolored.placed offset) ?_ ?_ text ?_
    · rw [hColor]
      exact hPlaced
    · rw [Token.isMarker_placed, hOwn]
    · rw [Token.fill_placed, hText]
  rw [hColor, Template.render,
    renderSegments_eq_fillTokens hRead] at hLine
  refine
    hTemplate.marked.spanned hTemplate.bare ?_ hPlain hLine
  intro f hMem hRole
  exact
    couples_of_known hKeys
      (hTemplate.mem_names_of_marked hMem hRole)

end Renderer

/-
  With colour on, no colour reaches beyond its span: what
  opens one is reset before the next and before the end.
-/
theorem colored_line_is_spanned
    {settings : Settings}
    {built : Renderer}
    (hBuild : settings.build = .ok built)
    (hPlain : settings.Plain)
    (supported : Bool)
    (hColor :
      (built.decideColor supported).2.colorMode = .ok true)
    {record : Record}
    (hExtras :
      ∀ key ∈ record.extras.keys, isMarker key = false)
    (hFree :
      (built.decideColor supported).2.EscapeFree record)
    {line : Text}
    (hLine :
      ((built.decideColor supported).2.render record).1 =
        .ok line) :
    Spanned (built.Opens record.level) line := by
  rcases (settings.build_eq_ok_iff built).mp hBuild with
    ⟨parts, hPassed, rfl⟩
  rcases Settings.exists_templatePairs hPassed hPlain with
    ⟨plain, -, hPairs⟩
  rcases hPairs record.level with ⟨template, -, hPair⟩
  rw [Renderer.render_fst hColor] at hLine
  rw [Renderer.decideColor_snd] at hFree hLine
  generalize hLevel : parts.color record.level = compiled
    at hPair
  cases hPair with
  | intro hTemplate hRead _ =>
      rcases (map_eq_ok_iff _ _ _).mp hLine with
        ⟨shown, hShown, rfl⟩
      have hText :=
        Renderer.spanned_template hTemplate hRead hLevel
          ⟨hPlain.unmarked, hExtras⟩ hFree hShown
      have hStack : '\x1b' ∉ record.stackInfo.getD [] := by
        cases hInfo : record.stackInfo with
        | none => exact List.not_mem_nil
        | some text => exact hFree.stack text hInfo
      exact
        (hText.appendBlock
          (Renderer.spanned_failureBlock true hFree)).appendBlock
          (Spanned.plain hStack)

/- A group and a name in colour, and a colour for failures. -/
def failureSettings : Settings :=
  { groupSettings with
    palettes :=
      groupSettings.palettes.insert "exc_text".toList
        (Settings.uniformColor "31;1") }

/- A record with a failure and the stack that it came from. -/
def failedRecord : Record :=
  { Record.ofMessage .error "app".toList "stopped".toList
      default with
    failure := some (Failure.ofText "boom\n".toList)
    stackInfo := some "main".toList }

theorem colored_line_is_spanned_of_failure :
    ∃ built line,
      failureSettings.build = .ok built ∧
      failureSettings.Plain ∧
      (built.decideColor true).2.colorMode = .ok true ∧
      (∀ key ∈ failedRecord.extras.keys,
        isMarker key = false) ∧
      (built.decideColor true).2.EscapeFree failedRecord ∧
      ((built.decideColor true).2.render failedRecord).1 =
        .ok line ∧
      '\x1b' ∈ line ∧
      Spanned (built.Opens .error) line := by
  have hPlain : failureSettings.Plain :=
    { unbraced := by decide +kernel
      unmarked := by decide +kernel
      groups := by decide +kernel }
  have hExtras :
      ∀ key ∈ failedRecord.extras.keys,
        isMarker key = false := by
    decide
  have hRun :
      (failureSettings.build.toOption.bind fun built =>
        ((built.decideColor true).2.render
          failedRecord).1.toOption.map fun line =>
            ((built.decideColor true).2.colorMode,
              decide
                ((built.decideColor true).2.EscapeFree
                  failedRecord),
              line)) =
        some
          (.ok true, true,
            ("\x1b[31;1m[ERROR   ] app\x1b[0m " ++
              "\x1b[35mNone\x1b[0m: stopped\n" ++
              "\x1b[31;1mboom\x1b[0m\nmain").toList) := by
    decide +kernel
  simp only [Option.bind_eq_some_iff, Option.map_eq_some_iff,
    toOption_eq_some_iff, Prod.mk.injEq,
    decide_eq_true_eq] at hRun
  rcases hRun with
    ⟨built, hBuild, line, hLine, hColor, hFree, hText⟩
  refine
    ⟨built, line, hBuild, hPlain, hColor, hExtras, hFree, hLine,
      ?_,
      colored_line_is_spanned hBuild hPlain true hColor hExtras
        hFree hLine⟩
  rw [hText]
  decide

end LogLine
