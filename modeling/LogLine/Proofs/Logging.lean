import LogLine.Logger
import LogLine.Proofs.Outcome
import Mathlib.Data.List.Basic

/-
  What a logger leaves on a writer of its own: the lines of the
  events that it accepts, one after the other.

  Key definitions include:
    * `LogLine.Logger.Accepts`
    * `LogLine.Logger.line?`
    * `LogLine.Logger.lines`

  Key theorems include:
    * `LogLine.Logger.accepts_iff`
    * `LogLine.Logger.log_fst`
    * `LogLine.Logger.logAll_fst`
    * `LogLine.LoggerSetup.exists_build`
    * `LogLine.logger_writes_accepted_lines`
-/

------------------------------------------------------------
-- Accepted Events
------------------------------------------------------------

namespace LogLine

/- A target is below another one if a separated path follows. -/
theorem isBelow_iff
    (parent : Text)
    (separators : List Text)
    (target : Text) :
    isBelow parent separators target = true ↔
      ∃ path,
        target = parent ++ path ∧
          ∃ separator ∈ separators, separator <+: path := by
  unfold isBelow
  cases hPath : parent.isPrefixOf? target with
  | none =>
      constructor
      · intro hFalse
        cases hFalse
      · rintro ⟨path, rfl, -⟩
        have hFound :=
          List.isPrefixOf?_eq_some_iff_append_eq.mpr
            (rfl : parent ++ path = parent ++ path)
        rw [hPath] at hFound
        cases hFound
  | some path =>
      have hTarget :=
        List.isPrefixOf?_eq_some_iff_append_eq.mp hPath
      simp only [List.any_eq_true, List.isPrefixOf_iff_prefix]
      constructor
      · intro hSeparator
        exact ⟨path, hTarget.symm, hSeparator⟩
      · rintro ⟨other, hOther, hSeparator⟩
        rw [hOther, List.append_cancel_left_eq] at hTarget
        rw [hTarget]
        exact hSeparator

theorem isBelow_own_iff
    (target : Text) :
    isBelow ownTarget [[':', ':']] target = true ↔
      "tintlog::".toList <+: target := by
  have hOwn : "tintlog::".toList = ownTarget ++ [':', ':'] := by
    decide
  rw [isBelow_iff, hOwn]
  constructor
  · rintro ⟨path, rfl, separator, hMem, hPath⟩
    rw [List.mem_singleton] at hMem
    rw [hMem] at hPath
    exact (List.prefix_append_right_inj ownTarget).mpr hPath
  · rintro ⟨rest, rfl⟩
    rw [List.append_assoc]
    exact
      ⟨_, rfl, _, List.mem_singleton_self _,
        List.prefix_append _ rest⟩

namespace Logger

/-
  An event is severe enough, comes from elsewhere than from the
  library, and has the logger's target or one below it.
-/
structure Accepts
    (logger : Logger)
    (event : Event) : Prop where
  severe : logger.level.rank ≤ event.level.severity.rank
  notOwn : event.target ≠ "tintlog".toList
  notBelowOwn : ¬ "tintlog::".toList <+: event.target
  within :
    logger.target = [] ∨ event.target = logger.target ∨
      ∃ path,
        event.target = logger.target ++ path ∧
          ("::".toList <+: path ∨ ".".toList <+: path)

theorem acceptsTarget_iff
    (logger : Logger)
    (target : Text) :
    logger.acceptsTarget target = true ↔
      target ≠ ownTarget ∧ ¬ "tintlog::".toList <+: target ∧
      (logger.target = [] ∨ target = logger.target ∨
        ∃ path,
          target = logger.target ++ path ∧
            ("::".toList <+: path ∨ ".".toList <+: path)) := by
  have hBelow :
      isBelow logger.target targetSeparators target = true ↔
        ∃ path,
          target = logger.target ++ path ∧
            ("::".toList <+: path ∨ ".".toList <+: path) := by
    rw [isBelow_iff]
    simp [targetSeparators]
  unfold acceptsTarget
  rw [← isBelow_own_iff, ← hBelow]
  by_cases hOwn :
      target = ownTarget ∨
        isBelow ownTarget [[':', ':']] target = true
  · rw [if_pos hOwn]
    constructor
    · intro hFalse
      cases hFalse
    · rintro ⟨hOther, hApart, -⟩
      exact (hOwn.elim hOther hApart).elim
  · rw [if_neg hOwn]
    rw [not_or] at hOwn
    simp only [Bool.or_eq_true, List.isEmpty_iff, beq_iff_eq,
      or_assoc]
    exact
      ⟨fun hWithin => ⟨hOwn.1, hOwn.2, hWithin⟩, fun h => h.2.2⟩

theorem accepts_iff
    (logger : Logger)
    (event : Event) :
    logger.accepts event.level event.target = true ↔
      logger.Accepts event := by
  unfold accepts
  rw [Bool.and_eq_true, decide_eq_true_eq, acceptsTarget_iff]
  constructor
  · rintro ⟨hSevere, hOther, hApart, hWithin⟩
    exact ⟨hSevere, hOther, hApart, hWithin⟩
  · intro hAccepted
    exact
      ⟨hAccepted.severe, hAccepted.notOwn,
        hAccepted.notBelowOwn, hAccepted.within⟩

instance
    (logger : Logger)
    (event : Event) :
    Decidable (logger.Accepts event) :=
  decidable_of_iff _ (logger.accepts_iff event)

/- The logger's filter holds back nothing that is accepted. -/
theorem Accepts.admits
    {logger : Logger}
    {event : Event}
    (hAccepted : logger.Accepts event) :
    logger.filter.admits event.level = true := by
  have hSevere := hAccepted.severe
  unfold Logger.filter
  revert hSevere
  cases logger.level <;> cases event.level <;> decide

/- What a logger accepts, one with a lower level does too. -/
theorem Accepts.of_level
    {logger : Logger}
    {level : Level}
    (hLower : logger.level.rank ≤ level.rank)
    {event : Event}
    (hAccepted : { logger with level }.Accepts event) :
    logger.Accepts event :=
  { severe := Nat.le_trans hLower hAccepted.severe
    notOwn := hAccepted.notOwn
    notBelowOwn := hAccepted.notBelowOwn
    within := hAccepted.within }

end Logger

end LogLine

------------------------------------------------------------
-- Lines of Events
------------------------------------------------------------

namespace LogLine

/- Lines, each with a line feed behind it. -/
def textOfLines
    (lines : List Text) :
    Text :=
  (lines.map (· ++ ['\n'])).flatten

theorem textOfLines_append
    (first second : List Text) :
    textOfLines (first ++ second) =
      textOfLines first ++ textOfLines second := by
  simp [textOfLines]

namespace Logger

/- The line of an event, if it is accepted and has one. -/
def line?
    (logger : Logger)
    (event : Event) :
    Option Text :=
  if logger.Accepts event then
    (logger.renderer.render (Record.ofEvent event)).1.toOption
  else
    none

/- The lines of events in their order. -/
def lines
    (logger : Logger)
    (events : List Event) :
    List Text :=
  events.filterMap logger.line?

theorem line?_withSink
    (logger : Logger)
    (sink : Sink)
    (event : Event) :
    { logger with sink }.line? event = logger.line? event := by
  have hSame :
      { logger with sink }.Accepts event ↔
        logger.Accepts event := by
    rw [← accepts_iff, ← accepts_iff]
    rfl
  unfold line?
  by_cases hAccepted : logger.Accepts event
  · rw [if_pos hAccepted, if_pos (hSame.mpr hAccepted)]
  · rw [if_neg hAccepted, if_neg (hSame.not.mpr hAccepted)]

theorem lines_withSink
    (logger : Logger)
    (sink : Sink)
    (events : List Event) :
    { logger with sink }.lines events = logger.lines events :=
  List.filterMap_congr
    fun event _ => logger.line?_withSink sink event

theorem lines_cons
    (logger : Logger)
    (event : Event)
    (events : List Event) :
    logger.lines (event :: events) =
      (logger.line? event).toList ++ logger.lines events := by
  unfold lines
  cases hLine : logger.line? event with
  | none => rw [List.filterMap_cons_none hLine]; rfl
  | some line => rw [List.filterMap_cons_some hLine]; rfl

/- An event without a line leaves no trace among the lines. -/
theorem lines_middle_of_none
    {logger : Logger}
    {event : Event}
    (hLine : logger.line? event = none)
    (earlier later : List Event) :
    logger.lines (earlier ++ event :: later) =
      logger.lines (earlier ++ later) := by
  unfold lines
  rw [List.filterMap_append, List.filterMap_append,
    List.filterMap_cons_none hLine]

theorem line?_of_error
    {logger : Logger}
    {event : Event}
    {failure : RenderError}
    (hFailure :
      (logger.renderer.render (Record.ofEvent event)).1 =
        .error failure) :
    logger.line? event = none := by
  unfold line?
  rw [hFailure]
  exact ite_self none

/- Events that the filter holds back have no lines. -/
theorem lines_filter
    (logger : Logger)
    (events : List Event) :
    logger.lines
        (events.filter fun event =>
          logger.filter.admits event.level) =
      logger.lines events := by
  unfold lines
  rw [List.filterMap_filter]
  apply List.filterMap_congr
  intro event _
  by_cases hAdmitted : logger.filter.admits event.level = true
  · rw [if_pos hAdmitted]
  · rw [if_neg hAdmitted]
    have hRefused : ¬ logger.Accepts event :=
      fun hAccepted => hAdmitted hAccepted.admits
    unfold line?
    rw [if_neg hRefused]

/- A higher level takes lines away and changes none. -/
theorem lines_sublist_of_level
    {logger : Logger}
    {level : Level}
    (hLower : logger.level.rank ≤ level.rank)
    (events : List Event) :
    ({ logger with level }.lines events).Sublist
      (logger.lines events) := by
  induction events with
  | nil => exact List.Sublist.refl []
  | cons event events ih =>
      rw [lines_cons, lines_cons]
      refine List.Sublist.append ?_ ih
      unfold line?
      by_cases hHigher : { logger with level }.Accepts event
      · rw [if_pos hHigher, if_pos (hHigher.of_level hLower)]
      · rw [if_neg hHigher]
        exact List.nil_sublist _

end Logger

end LogLine

------------------------------------------------------------
-- Runs on a Writer
------------------------------------------------------------

namespace LogLine

/- A writer with lines behind what it holds. -/
def Writer.withLines
    (writer : Writer)
    (lines : List Text) :
    Writer :=
  { writer with written := writer.written ++ textOfLines lines }

theorem Writer.withLines_nil
    (writer : Writer) :
    writer.withLines [] = writer := by
  simp [withLines, textOfLines]

theorem Writer.withLines_append
    (writer : Writer)
    (first second : List Text) :
    writer.withLines (first ++ second) =
      (writer.withLines first).withLines second := by
  simp [withLines, textOfLines_append]

namespace Logger

variable {logger : Logger} {writer : Writer}

/- One event puts its line on the writer and changes no more. -/
theorem log_fst
    (hSink : logger.sink = .writer writer)
    (hTakes : writer.fault = none)
    (console : Console)
    (event : Event) :
    (logger.log console event).1 =
      { logger with
        sink :=
          .writer
            (writer.withLines (logger.line? event).toList) } := by
  have hUnchanged :
      logger =
        { logger with sink := .writer (writer.withLines []) } := by
    rw [Writer.withLines_nil, ← hSink]
  unfold log line?
  by_cases hAccepted : logger.Accepts event
  · rw [if_pos ((accepts_iff logger event).mpr hAccepted),
      if_pos hAccepted]
    cases hLine :
        (logger.renderer.render (Record.ofEvent event)).1 with
    | error failure => exact hUnchanged
    | ok line =>
        simp [hSink, Sink.writeLine, hTakes, Except.toOption,
          Writer.withLines, textOfLines]
  · rw [if_neg ((accepts_iff logger event).not.mpr hAccepted),
      if_neg hAccepted]
    exact hUnchanged

theorem logAll_cons
    (logger : Logger)
    (console : Console)
    (event : Event)
    (events : List Event) :
    logger.logAll console (event :: events) =
      (logger.log console event).1.logAll
        (logger.log console event).2 events :=
  rfl

/- A run puts the lines of all of its events on the writer. -/
theorem logAll_fst
    (hSink : logger.sink = .writer writer)
    (hTakes : writer.fault = none)
    (console : Console)
    (events : List Event) :
    (logger.logAll console events).1 =
      { logger with
        sink :=
          .writer (writer.withLines (logger.lines events)) } := by
  induction events generalizing logger writer console with
  | nil =>
      show logger = _
      unfold lines
      rw [List.filterMap_nil, Writer.withLines_nil, ← hSink]
  | cons event events ih =>
      have hStep := log_fst hSink hTakes console event
      have hFirst :
          (logger.log console event).1.sink =
            .writer
              (writer.withLines (logger.line? event).toList) := by
        rw [hStep]
      rw [logAll_cons, ih hFirst hTakes, hStep, lines_withSink,
        lines_cons, Writer.withLines_append]

end Logger

end LogLine

------------------------------------------------------------
-- Loggers That Were Set Up
------------------------------------------------------------

namespace LogLine

/- Setting up does not fail, and all levels share a renderer. -/
theorem LoggerSetup.exists_build
    (setup : LoggerSetup)
    (detector : ColorDetector) :
    ∃ renderer, ∀ level,
      { setup with level }.build detector =
        .ok {
          target := setup.target
          level := level.getD .warning
          renderer
          sink := setup.sink.getD .stderr } := by
  have hStandard : Settings.standard.build.toOption.isSome := by
    decide +kernel
  simp only [Option.isSome_iff_exists, toOption_eq_some_iff]
    at hStandard
  rcases hStandard with ⟨standard, hStandard⟩
  rcases setup with ⟨name, package, own, sink, given, supported⟩
  let shown := supported.getD (detector (sink.getD .stderr))
  cases given with
  | some renderer =>
      exact ⟨(renderer.decideColor shown).2, fun level => rfl⟩
  | none =>
      refine ⟨(standard.decideColor shown).2, ?_⟩
      intro level
      unfold build
      rw [hStandard]
      rfl

/-
  A logger on a writer that takes all lines leaves the lines of
  the events that it accepts there, in their order.  Events that
  cannot be rendered and those that its filter holds back make
  no difference, and a higher level only leaves lines out.
-/
theorem logger_writes_accepted_lines
    {setup : LoggerSetup}
    {writer : Writer}
    (hSink : setup.sink = some (.writer writer))
    (hTakes : writer.fault = none)
    (detector : ColorDetector) :
    ∃ logger,
      setup.build detector = .ok logger ∧
      ∀ console,
        (∀ events,
          (logger.logAll console events).1.sink =
            .writer (writer.withLines (logger.lines events))) ∧
        (∀ event failure,
          (logger.renderer.render (Record.ofEvent event)).1 =
              .error failure →
            ∀ earlier later,
              (logger.logAll console
                  (earlier ++ event :: later)).1 =
                (logger.logAll console (earlier ++ later)).1) ∧
        (∀ events,
          (logger.logAll console
              (events.filter fun event =>
                logger.filter.admits event.level)).1 =
            (logger.logAll console events).1) ∧
        ∀ level : Level,
          logger.level.rank ≤ level.rank →
            ∃ higher,
              { setup with level := some level }.build detector =
                .ok higher ∧
              ∀ events,
                (higher.logAll console events).1.sink =
                    .writer
                      (writer.withLines
                        (higher.lines events)) ∧
                (higher.lines events).Sublist
                  (logger.lines events) := by
  rcases setup.exists_build detector with ⟨renderer, hBuild⟩
  have hWriter : setup.sink.getD .stderr = .writer writer := by
    rw [hSink]
    rfl
  rw [hWriter] at hBuild
  refine ⟨_, hBuild setup.level, ?_⟩
  intro console
  refine ⟨?_, ?_, ?_, ?_⟩
  · intro events
    rw [Logger.logAll_fst rfl hTakes]
  · intro event failure hFailure earlier later
    rw [Logger.logAll_fst rfl hTakes,
      Logger.logAll_fst rfl hTakes,
      Logger.lines_middle_of_none
        (Logger.line?_of_error hFailure)]
  · intro events
    rw [Logger.logAll_fst rfl hTakes,
      Logger.logAll_fst rfl hTakes, Logger.lines_filter]
  · intro level hLower
    refine ⟨_, hBuild (some level), ?_⟩
    intro events
    constructor
    · rw [Logger.logAll_fst rfl hTakes]
    · exact Logger.lines_sublist_of_level hLower events

/- Messages that are as wide as the event wants. -/
def widthRenderer? : Option Renderer :=
  { Settings.blank with
    templates :=
      LevelMap.uniform
        "\x7bmessage:>\x7bw\x7d\x7d".toList }.build.toOption

def memorySetup : LoggerSetup :=
  { LoggerSetup.ofName "app".toList with
    level := some .info
    sink := some (.writer .memory)
    renderer := widthRenderer? }

def plainEvent
    (level : EventLevel)
    (target message : String)
    (values : List (Text × EventValue)) :
    Event where
  target := target.toList
  level := level
  message := message.toList
  file := none
  line := none
  module := none
  values := values
  created := default
  threadName := none
  origin := default

/- An event without a width, so it cannot be rendered. -/
def unwrittenEvent : Event :=
  plainEvent .error "app" "lost" []

/-
  Behind an event that is written: one too fine, one of the
  library's own, and another that is written.
-/
def laterEvents : List Event :=
  [plainEvent .debug "app::db" "query" [(['w'], .int 5)],
   plainEvent .error "tintlog::setup" "ready" [(['w'], .int 5)],
   plainEvent .warn "app.db" "slow" [(['w'], .int 6)]]

theorem logger_writes_accepted_lines_of_memory :
    ∃ logger higher,
      memorySetup.build (fun _ => false) = .ok logger ∧
      { memorySetup with level := some .warning }.build
          (fun _ => false) =
        .ok higher ∧
      ∃ failure,
        (logger.renderer.render
            (Record.ofEvent unwrittenEvent)).1 =
          .error failure ∧
        (logger.logAll .empty
            ([plainEvent .info "app" "up" [(['w'], .int 3)]] ++
              unwrittenEvent :: laterEvents)).1.sink =
          .writer
            (Writer.memory.withLines
              [" up".toList, "  slow".toList]) ∧
        (higher.lines laterEvents).Sublist
          (logger.lines laterEvents) := by
  rcases logger_writes_accepted_lines
      (rfl : memorySetup.sink = some (.writer .memory)) rfl
      (fun _ => false) with
    ⟨logger, hBuild, hRuns⟩
  rcases hRuns .empty with ⟨hContent, hUnwritten, -, hLevels⟩
  have hRun :
      ((memorySetup.build fun _ => false).toOption.map
        fun logger =>
          (logger.level,
            (logger.renderer.render
              (Record.ofEvent unwrittenEvent)).1,
            logger.lines
              ([plainEvent .info "app" "up" [(['w'], .int 3)]] ++
                laterEvents))) =
        some
          (.info, .error (.missingField ['w']),
            [" up".toList, "  slow".toList]) := by
    decide +kernel
  rw [(toOption_eq_some_iff _ _).mpr hBuild, Option.map_some]
    at hRun
  simp only [Option.some.injEq, Prod.mk.injEq] at hRun
  rcases hRun with ⟨hLevel, hFailure, hLines⟩
  have hLower : logger.level.rank ≤ Level.warning.rank := by
    rw [hLevel]
    decide
  rcases hLevels .warning hLower with ⟨higher, hHigher, hSublist⟩
  refine
    ⟨logger, higher, hBuild, hHigher, _, hFailure, ?_,
      (hSublist laterEvents).2⟩
  rw [hUnwritten unwrittenEvent _ hFailure, hContent, hLines]

end LogLine
