import LogLine.Proofs.Template.MarkedUp

/-
  The markers of a template that was given them: they come
  in pairs that do not nest, and each pair encloses what its
  group or its field was.

  Key definitions include:
    * `LogLine.FlatMarkers`
    * `LogLine.groupPieces`
    * `LogLine.spanPieces?`
    * `LogLine.SpanSide`

  Key theorems include:
    * `LogLine.MarkedUp.canonical`
    * `LogLine.MarkedUp.flatMarkers`
    * `LogLine.MarkedUp.spanPieces?`
    * `LogLine.compile_pairs_markers`
-/

------------------------------------------------------------
-- Flat Markers
------------------------------------------------------------

namespace LogLine

/-
  Every enter marker is followed by its exit marker, and
  every exit marker follows its enter marker, with no other
  marker in between.
-/
structure FlatMarkers
    (tokens : List Token) : Prop where
  closed :
    ∀ before enter after name,
      tokens = before ++ .field enter :: after →
      enter.name = enterMarker name →
        ∃ inside exit rest,
          after = inside ++ .field exit :: rest ∧
          exit.name = exitMarker name ∧
          ∀ token ∈ inside, token.isMarker = false
  opened :
    ∀ before exit after name,
      tokens = before ++ .field exit :: after →
      exit.name = exitMarker name →
        ∃ rest enter inside,
          before = rest ++ .field enter :: inside ∧
          enter.name = enterMarker name ∧
          ∀ token ∈ inside, token.isMarker = false

end LogLine

------------------------------------------------------------
-- Pieces of a Line
------------------------------------------------------------

namespace LogLine

/- A token outside of spans, or a span and what it encloses. -/
inductive Piece where
  | alone (token : Token)
  | span (name : Option Text) (inside : List Token)
deriving DecidableEq, Repr

/-
  The pieces of a raw template.  A group is a span, named
  after the first token inside that takes colour; a token
  outside of groups that takes colour is a span by itself.
-/
def groupPieces : List Token → List Piece
  | [] => []
  | .literal text :: rest =>
      .alone (.literal text) :: groupPieces rest
  | .field f :: rest =>
      match f.role with
      | .marked =>
          .span (some f.name) [(Token.field f).uncolored] ::
            groupPieces rest
      | .enter =>
          let inside := rest.takeWhile (fun t => !t.isBoundary)
          let after := rest.dropWhile (fun t => !t.isBoundary)
          .span (inside.findSome? Token.colorName?)
              (inside.map Token.uncolored) ::
            groupPieces after.tail
      | .exit => groupPieces rest
      | _ =>
          .alone (Token.field f).uncolored :: groupPieces rest
termination_by tokens => tokens.length
decreasing_by
  all_goals simp only [List.length_cons, List.length_tail]
  all_goals try omega
  have hLength :=
    (List.dropWhile_suffix
      (fun t : Token => !t.isBoundary) : _ <:+ rest).length_le
  omega

/-
  The pieces of a template with markers: a span stands
  between two markers of one name.  There are none if the
  markers do not pair up.
-/
def spanPieces? : List Token → Option (List Piece)
  | [] => some []
  | token :: rest =>
      if token.isMarker then
        let inside := rest.takeWhile (fun t => !t.isMarker)
        match token,
            _hAfter : rest.dropWhile (fun t => !t.isMarker) with
        | .field enter, .field exit :: after =>
            let name := enter.name.dropLast
            if enter.name = enterMarker name ∧
                exit.name = exitMarker name then
              (spanPieces? after).map
                (.span (some name) inside :: ·)
            else
              none
        | _, _ => none
      else
        (spanPieces? rest).map (.alone token :: ·)
termination_by tokens => tokens.length
decreasing_by
  · have hLength :=
      (List.dropWhile_suffix
        (fun t : Token => !t.isMarker) : _ <:+ rest).length_le
    rw [_hAfter] at hLength
    simp only [List.length_cons] at hLength ⊢
    omega
  · simp

end LogLine

------------------------------------------------------------
-- Sides of a Span
------------------------------------------------------------

namespace LogLine

/- The front and the back of a span. -/
inductive SpanSide where
  | enter
  | exit
deriving DecidableEq, Repr

namespace SpanSide

/- The marker of a name on this side. -/
def marker : SpanSide → Text → Text
  | enter => enterMarker
  | exit => exitMarker

theorem isMarker_marker
    (side : SpanSide)
    (name : Text) :
    isMarker (side.marker name) = true := by
  cases side with
  | enter => exact isMarker_enterMarker name
  | exit => exact isMarker_exitMarker name

/- A marker tells its side and its name. -/
theorem marker_injective
    {first second : SpanSide}
    {name other : Text}
    (hSame : first.marker name = second.marker other) :
    first = second ∧ name = other := by
  cases first with
  | enter =>
      cases second with
      | enter => exact ⟨rfl, enterMarker_injective hSame⟩
      | exit =>
          exact absurd hSame (enterMarker_ne_exitMarker _ _)
  | exit =>
      cases second with
      | enter =>
          exact
            absurd hSame.symm (enterMarker_ne_exitMarker _ _)
      | exit => exact ⟨rfl, exitMarker_injective hSame⟩

end SpanSide

end LogLine

------------------------------------------------------------
-- Pairs Next to Each Other
------------------------------------------------------------

namespace LogLine

theorem Token.not_mem_of_isMarker
    {tokens : List Token}
    (hNone : ∀ token ∈ tokens, token.isMarker = false)
    {f : Field}
    (hMarker : LogLine.isMarker f.name = true) :
    field f ∉ tokens := by
  intro hMem
  have hOther := hNone _ hMem
  rw [Token.isMarker, hMarker] at hOther
  cases hOther

namespace FlatMarkers

theorem of_no_marker
    {tokens : List Token}
    (hNone : ∀ token ∈ tokens, token.isMarker = false) :
    FlatMarkers tokens where
  closed := by
    intro before enter after name hTokens hEnter
    refine absurd ?_
      (Token.not_mem_of_isMarker hNone
        (hEnter ▸ isMarker_enterMarker name))
    rw [hTokens]
    exact List.mem_append_right before List.mem_cons_self
  opened := by
    intro before exit after name hTokens hExit
    refine absurd ?_
      (Token.not_mem_of_isMarker hNone
        (hExit ▸ isMarker_exitMarker name))
    rw [hTokens]
    exact List.mem_append_right before List.mem_cons_self

/- Pairs of one part stay pairs next to those of another. -/
theorem append
    {first second : List Token}
    (hFirst : FlatMarkers first)
    (hSecond : FlatMarkers second) :
    FlatMarkers (first ++ second) where
  closed := by
    intro before enter after name hTokens hEnter
    rcases List.append_eq_append_iff.mp hTokens with
      ⟨middle, hBefore, hTail⟩ | ⟨middle, hSplit, hTail⟩
    · exact hSecond.closed middle enter after name hTail hEnter
    · cases middle with
      | nil =>
          rw [List.nil_append] at hTail
          exact hSecond.closed [] enter after name hTail.symm
            hEnter
      | cons token middle =>
          rw [List.cons_append, List.cons.injEq] at hTail
          rcases hTail with ⟨rfl, rfl⟩
          rcases hFirst.closed before enter middle name hSplit
              hEnter with
            ⟨inside, exit, rest, rfl, hExit, hInside⟩
          exact ⟨inside, exit, rest ++ second, by simp, hExit,
            hInside⟩
  opened := by
    intro before exit after name hTokens hExit
    rcases List.append_eq_append_iff.mp hTokens with
      ⟨middle, hBefore, hTail⟩ | ⟨middle, hSplit, hTail⟩
    · rcases hSecond.opened middle exit after name hTail
          hExit with
        ⟨rest, enter, inside, rfl, hEnter, hInside⟩
      refine ⟨first ++ rest, enter, inside, ?_, hEnter, hInside⟩
      rw [hBefore, List.append_assoc]
    · cases middle with
      | nil =>
          rw [List.nil_append] at hTail
          rw [List.append_nil] at hSplit
          rcases hSecond.opened [] exit after name hTail.symm
              hExit with
            ⟨rest, enter, inside, hEmpty, -, -⟩
          simp at hEmpty
      | cons token middle =>
          rw [List.cons_append, List.cons.injEq] at hTail
          rcases hTail with ⟨rfl, rfl⟩
          exact hFirst.opened before exit middle name hSplit
            hExit

/- Two markers of one name around tokens that are none. -/
theorem pair
    (opener closer : Field)
    (inside : List Token)
    {name : Text}
    (hOpener : opener.name = enterMarker name)
    (hCloser : closer.name = exitMarker name)
    (hInside : ∀ token ∈ inside, token.isMarker = false) :
    FlatMarkers
      (.field opener :: (inside ++ [.field closer])) where
  closed := by
    intro before enter after other hTokens hEnter
    have hOutside : Token.field enter ∉ inside :=
      Token.not_mem_of_isMarker hInside
        (hEnter ▸ isMarker_enterMarker other)
    cases before with
    | nil =>
        rw [List.nil_append, List.cons.injEq] at hTokens
        rcases hTokens with ⟨hSame, rfl⟩
        cases hSame
        rw [hOpener] at hEnter
        have hName := enterMarker_injective hEnter
        subst hName
        exact ⟨inside, closer, [], rfl, hCloser, hInside⟩
    | cons token before =>
        rw [List.cons_append, List.cons.injEq] at hTokens
        have hMem :
            Token.field enter ∈ inside ++ [.field closer] := by
          rw [hTokens.2]
          simp
        rcases List.mem_append.mp hMem with hIn | hLast
        · exact absurd hIn hOutside
        · rw [List.mem_singleton, Token.field.injEq] at hLast
          rw [hLast, hCloser] at hEnter
          exact
            absurd hEnter.symm (enterMarker_ne_exitMarker _ _)
  opened := by
    intro before exit after other hTokens hExit
    have hOutside : Token.field exit ∉ inside :=
      Token.not_mem_of_isMarker hInside
        (hExit ▸ isMarker_exitMarker other)
    cases before with
    | nil =>
        rw [List.nil_append, List.cons.injEq,
          Token.field.injEq] at hTokens
        rw [← hTokens.1, hOpener] at hExit
        exact absurd hExit (enterMarker_ne_exitMarker _ _)
    | cons token before =>
        rw [List.cons_append, List.cons.injEq] at hTokens
        rcases hTokens with ⟨rfl, hTokens⟩
        rcases List.append_eq_append_iff.mp hTokens with
          ⟨middle, hBefore, hTail⟩ | ⟨middle, hSplit, hTail⟩
        · cases middle with
          | nil =>
              rw [List.nil_append, List.cons.injEq,
                Token.field.injEq] at hTail
              rw [List.append_nil] at hBefore
              rw [← hTail.1, hCloser] at hExit
              have hName := exitMarker_injective hExit
              subst hName
              exact ⟨[], opener, inside, by rw [hBefore]; rfl,
                hOpener, hInside⟩
          | cons second middle => simp at hTail
        · cases middle with
          | nil =>
              rw [List.nil_append, List.cons.injEq,
                Token.field.injEq] at hTail
              rw [List.append_nil] at hSplit
              rw [hTail.1, hCloser] at hExit
              have hName := exitMarker_injective hExit
              subst hName
              exact ⟨[], opener, inside, by rw [hSplit]; rfl,
                hOpener, hInside⟩
          | cons second middle =>
              rw [List.cons_append, List.cons.injEq] at hTail
              refine absurd ?_ hOutside
              rw [hSplit, hTail.1]
              simp

end FlatMarkers

end LogLine

------------------------------------------------------------
-- Tokens with Markers
------------------------------------------------------------

namespace LogLine

namespace MarkedUp

/- Where the raw tokens start with no text, the others do so too. -/
theorem apart_head
    {raw out : List Token}
    (hMarked : MarkedUp raw out)
    (hRaw : ∀ second ∈ raw.head?, second.isText = false) :
    ∀ second ∈ out.head?, second.isText = false := by
  cases hMarked with
  | nil => simp
  | copied => simpa using hRaw
  | single => simp [Token.isText]
  | group => simp [Token.isText]

/- Every token of the marked-up list reads back. -/
theorem readable_of_writable
    {raw out : List Token}
    (hMarked : MarkedUp raw out)
    (hRaw : ∀ token ∈ raw, token.Writable) :
    ∀ token ∈ out, token.Readable := by
  induction hMarked with
  | nil => simp
  | copied _ _ _ ih =>
      rw [List.forall_mem_cons] at hRaw ⊢
      exact ⟨hRaw.1.readable_uncolored, ih hRaw.2⟩
  | single _ _ ih =>
      rw [List.forall_mem_cons] at hRaw
      have hName := hRaw.1.name
      have hOpener := Field.readable_named hName.enterMarker
      have hCloser := Field.readable_named hName.exitMarker
      simp only [List.forall_mem_cons]
      exact
        ⟨hOpener, hRaw.1.readable_uncolored, hCloser,
          ih hRaw.2⟩
  | @group enter exit name inside raw out _ _ _ hName _ ih =>
      simp only [List.forall_mem_cons,
        List.forall_mem_append] at hRaw
      rcases hRaw with ⟨hEnter, hInside, hExit, hRest⟩
      rcases List.exists_of_findSome?_eq_some hName with
        ⟨token, hMem, hColor⟩
      rcases Token.exists_marked_of_colorName? hColor with
        ⟨first, rfl, -, rfl⟩
      have hFirst := (hInside _ hMem).name
      simp only [List.forall_mem_cons,
        List.forall_mem_append, List.forall_mem_map]
      exact
        ⟨hEnter.readable_renamed hFirst.enterMarker,
          fun token hMem =>
            (hInside token hMem).readable_uncolored,
          hExit.readable_renamed hFirst.exitMarker, ih hRest⟩

theorem readable
    {raw out : List Token}
    (hMarked : MarkedUp raw out)
    (hRaw : ∀ token ∈ raw, token.Renamable) :
    ∀ token ∈ out, token.Readable :=
  hMarked.readable_of_writable fun token hMem =>
    (hRaw token hMem).writable

/- Text that was kept apart stays apart. -/
theorem canonical
    {raw out : List Token}
    (hMarked : MarkedUp raw out)
    (hRaw : ∀ token ∈ raw, token.Renamable)
    (hCanonical : Canonical raw) :
    Canonical out := by
  refine ⟨hMarked.readable hRaw, ?_⟩
  have hApart := hCanonical.apart
  clear hRaw hCanonical
  induction hMarked with
  | nil => exact List.IsChain.nil
  | copied _ _ hRest ih =>
      rw [List.isChain_cons] at hApart ⊢
      refine ⟨?_, ih hApart.2⟩
      intro second hSecond hBoth
      rw [Token.isText_uncolored] at hBoth
      have hHead := hRest.apart_head (by
        intro other hOther
        have hNot := hApart.1 other hOther
        rw [hBoth.1] at hNot
        simpa using hNot)
      rw [hHead second hSecond] at hBoth
      cases hBoth.2
  | single _ _ ih =>
      rw [List.isChain_cons] at hApart
      rw [List.isChain_cons, List.isChain_cons,
        List.isChain_cons]
      exact
        ⟨by simp [Token.isText], by simp [Token.isText],
          by simp [Token.isText], ih hApart.2⟩
  | @group enter exit name inside raw out _ _ _ _ _ ih =>
      rw [List.isChain_cons, List.isChain_split] at hApart
      have hOut := ih (List.isChain_cons.mp hApart.2.2).2
      rw [List.isChain_cons, List.isChain_split]
      refine ⟨by simp [Token.isText], ?_, ?_⟩
      · have hInside := hApart.2.1
        rw [List.isChain_append] at hInside ⊢
        refine ⟨?_, by simp, by simp [Token.isText]⟩
        rw [List.isChain_map]
        simpa using hInside.1
      · rw [List.isChain_cons]
        exact ⟨by simp [Token.isText], hOut⟩

end MarkedUp

end LogLine

------------------------------------------------------------
-- Reading Pieces
------------------------------------------------------------

namespace LogLine

theorem takeWhile_append_stop
    {α : Type}
    {stops : α → Bool}
    {inside : List α}
    (hInside : ∀ x ∈ inside, stops x = false)
    {stop : α}
    (hStop : stops stop = true)
    (rest : List α) :
    (inside ++ stop :: rest).takeWhile (fun x => !stops x) =
        inside ∧
      (inside ++ stop :: rest).dropWhile (fun x => !stops x) =
        stop :: rest := by
  have hAll : ∀ x ∈ inside, (!stops x) = true := by
    intro x hMem
    rw [hInside x hMem]
    rfl
  rw [List.takeWhile_append_of_pos hAll,
    List.dropWhile_append_of_pos hAll]
  simp [hStop]

theorem spanPieces?_alone
    {token : Token}
    (hNone : token.isMarker = false)
    (rest : List Token) :
    spanPieces? (token :: rest) =
      (spanPieces? rest).map (.alone token :: ·) := by
  rw [spanPieces?, if_neg]
  rw [hNone]
  decide

theorem spanPieces?_pair
    (opener closer : Field)
    (inside : List Token)
    {name : Text}
    (hOpener : opener.name = enterMarker name)
    (hCloser : closer.name = exitMarker name)
    (hInside : ∀ token ∈ inside, token.isMarker = false)
    (rest : List Token) :
    spanPieces?
        (.field opener :: (inside ++ .field closer :: rest)) =
      (spanPieces? rest).map
        (.span (some name) inside :: ·) := by
  have hOpens : (Token.field opener).isMarker = true := by
    rw [Token.isMarker, hOpener, isMarker_enterMarker]
  have hCloses : (Token.field closer).isMarker = true := by
    rw [Token.isMarker, hCloser, isMarker_exitMarker]
  have hName : opener.name.dropLast = name := by
    rw [hOpener, enterMarker, List.dropLast_concat]
  rcases takeWhile_append_stop hInside hCloses rest with
    ⟨hTake, hDrop⟩
  rw [spanPieces?, if_pos hOpens]
  simp only [hTake]
  split
  case h_1 enter exit after hEnter hAfter =>
      rw [hDrop, List.cons.injEq, Token.field.injEq] at hAfter
      cases hEnter
      rw [← hAfter.1, ← hAfter.2, hName,
        if_pos ⟨hOpener, hCloser⟩]
  case h_2 hOther =>
      exact absurd hDrop (hOther opener closer rest rfl)

theorem groupPieces_copied
    {token : Token}
    (hInside : token.isBoundary = false)
    (hColor : token.colorName? = none)
    (rest : List Token) :
    groupPieces (token :: rest) =
      .alone token.uncolored :: groupPieces rest := by
  cases token with
  | literal text => rw [groupPieces]; rfl
  | field f =>
      rw [groupPieces]
      cases hRole : f.role with
      | positional => rfl
      | unmarked bare => rfl
      | marked =>
          rw [Token.colorName?_of_marked hRole] at hColor
          cases hColor
      | enter => simp [Token.isBoundary, hRole] at hInside
      | exit => simp [Token.isBoundary, hRole] at hInside

theorem groupPieces_group
    {enter exit : Field}
    {inside : List Token}
    (hEnter : enter.role = .enter)
    (hExit : exit.role = .exit)
    (hInside : ∀ token ∈ inside, token.isBoundary = false)
    (rest : List Token) :
    groupPieces
        (.field enter :: (inside ++ .field exit :: rest)) =
      .span (inside.findSome? Token.colorName?)
          (inside.map Token.uncolored) ::
        groupPieces rest := by
  have hStops : (Token.field exit).isBoundary = true := by
    simp [Token.isBoundary, hExit]
  rcases takeWhile_append_stop hInside hStops rest with
    ⟨hTake, hDrop⟩
  rw [groupPieces, hEnter]
  simp only [hTake, hDrop, List.tail_cons]

namespace MarkedUp

variable {raw out : List Token}

theorem flatMarkers
    (hMarked : MarkedUp raw out)
    (hRaw : ∀ token ∈ raw, token.Renamable) :
    FlatMarkers out := by
  induction hMarked with
  | nil => exact FlatMarkers.of_no_marker (by simp)
  | @copied token raw out _ _ _ ih =>
      rw [List.forall_mem_cons] at hRaw
      have hFirst : FlatMarkers [token.uncolored] := by
        apply FlatMarkers.of_no_marker
        intro other hMem
        rw [List.mem_singleton.mp hMem]
        exact hRaw.1.isMarker_uncolored
      exact hFirst.append (ih hRaw.2)
  | @single f raw out _ _ ih =>
      rw [List.forall_mem_cons] at hRaw
      have hInside :
          ∀ other ∈ [(Token.field f).uncolored],
            other.isMarker = false := by
        intro other hMem
        rw [List.mem_singleton.mp hMem]
        exact hRaw.1.isMarker_uncolored
      have hPair :=
        FlatMarkers.pair
          (Field.named (enterMarker f.name))
          (Field.named (exitMarker f.name))
          [(Token.field f).uncolored]
          rfl rfl hInside
      exact hPair.append (ih hRaw.2)
  | @group enter exit name inside raw out _ _ _ _ _ ih =>
      simp only [List.forall_mem_cons,
        List.forall_mem_append] at hRaw
      rcases hRaw with ⟨-, hInside, -, hRest⟩
      have hPair :=
        FlatMarkers.pair
          (enter.renamed (enterMarker name))
          (exit.renamed (exitMarker name))
          (inside.map Token.uncolored)
          rfl rfl (by
            intro other hMem
            rcases List.mem_map.mp hMem with
              ⟨token, hToken, rfl⟩
            exact (hInside token hToken).isMarker_uncolored)
      have hBoth := hPair.append (ih hRest)
      simpa using hBoth

/- Apart from markers and group fields nothing comes or goes. -/
theorem filter_isMarker
    (hMarked : MarkedUp raw out)
    (hRaw : ∀ token ∈ raw, token.Renamable) :
    out.filter (fun token => !token.isMarker) =
      (raw.filter (fun token => !token.isBoundary)).map
        Token.uncolored := by
  induction hMarked with
  | nil => rfl
  | copied hInside _ _ ih =>
      rw [List.forall_mem_cons] at hRaw
      simp [hRaw.1.isMarker_uncolored, hInside, ih hRaw.2]
  | single hRole _ ih =>
      rw [List.forall_mem_cons] at hRaw
      simp [Token.isMarker_field, Field.named,
        Token.isBoundary_of_marked hRole,
        hRaw.1.isMarker_uncolored, ih hRaw.2]
  | @group enter exit name inside raw out hEnter hExit hInside
      _ _ ih =>
      simp only [List.forall_mem_cons,
        List.forall_mem_append] at hRaw
      rcases hRaw with ⟨-, hPlain, -, hRest⟩
      have hKept :
          (inside.map Token.uncolored).filter
              (fun token => !token.isMarker) =
            inside.map Token.uncolored := by
        rw [List.filter_eq_self]
        intro other hMem
        rcases List.mem_map.mp hMem with ⟨token, hToken, rfl⟩
        rw [(hPlain token hToken).isMarker_uncolored]
        rfl
      have hAll :
          inside.filter (fun token => !token.isBoundary) =
            inside := by
        rw [List.filter_eq_self]
        intro token hMem
        rw [hInside token hMem]
        rfl
      have hOpens : (Token.field enter).isBoundary = true := by
        simp [Token.isBoundary, hEnter]
      have hCloses : (Token.field exit).isBoundary = true := by
        simp [Token.isBoundary, hExit]
      simp [Token.isMarker_field, Field.renamed, hOpens, hCloses,
        hKept, hAll, ih hRest]

theorem spanPieces?
    (hMarked : MarkedUp raw out)
    (hRaw : ∀ token ∈ raw, token.Renamable) :
    spanPieces? out = some (groupPieces raw) := by
  induction hMarked with
  | nil => rw [LogLine.spanPieces?, groupPieces]
  | copied hInside hColor _ ih =>
      rw [List.forall_mem_cons] at hRaw
      rw [spanPieces?_alone hRaw.1.isMarker_uncolored,
        ih hRaw.2, groupPieces_copied hInside hColor]
      rfl
  | @single f raw out hRole _ ih =>
      rw [List.forall_mem_cons] at hRaw
      have hPair :=
        spanPieces?_pair
          (Field.named (enterMarker f.name))
          (Field.named (exitMarker f.name))
          [(Token.field f).uncolored]
          rfl rfl (by
            intro other hMem
            rw [List.mem_singleton.mp hMem]
            exact hRaw.1.isMarker_uncolored) out
      rw [ih hRaw.2] at hPair
      rw [groupPieces, hRole]
      exact hPair
  | @group enter exit name inside raw out hEnter hExit hInside
      hName _ ih =>
      simp only [List.forall_mem_cons,
        List.forall_mem_append] at hRaw
      rcases hRaw with ⟨-, hPlain, -, hRest⟩
      have hPair :=
        spanPieces?_pair
          (enter.renamed (enterMarker name))
          (exit.renamed (exitMarker name))
          (inside.map Token.uncolored)
          rfl rfl (by
            intro other hMem
            rcases List.mem_map.mp hMem with
              ⟨token, hToken, rfl⟩
            exact (hPlain token hToken).isMarker_uncolored) out
      rw [ih hRest] at hPair
      rw [groupPieces_group hEnter hExit hInside, hName]
      exact hPair

end MarkedUp

end LogLine

------------------------------------------------------------
-- Pairs of Markers
------------------------------------------------------------

namespace LogLine

/-
  A template with plain names gets markers that are flat and
  paired.  Apart from them it has the tokens of the raw
  template without its group fields, and its spans enclose
  what the groups and the coloured fields of that were.
-/
theorem compile_pairs_markers
    {raw compiled : Text}
    (hNames : ∀ token ∈ (scan raw).tokens, token.Plain)
    (hCompile : compile raw = .ok compiled) :
    ∃ tokens out,
      tokenize raw = .ok tokens ∧
      tokenize compiled = .ok (placeTokens 0 out) ∧
      FlatMarkers out ∧
      out.filter (fun token => !token.isMarker) =
        (tokens.filter (fun token => !token.isBoundary)).map
          Token.uncolored ∧
      spanPieces? out = some (groupPieces tokens) := by
  rcases (compile_eq_ok_iff raw compiled).mp hCompile with
    ⟨tokens, out, hRead, hMarked, rfl⟩
  have hScan := (tokenize_eq_ok_iff_scan raw tokens).mp hRead
  have hCanonical := ((tokenize_eq_ok_iff raw tokens).mp hRead).2.1
  have hRenamable : ∀ token ∈ tokens, token.Renamable := by
    intro token hMem
    refine ⟨hCanonical.readable token hMem, hNames token ?_⟩
    rw [hScan]
    exact hMem
  have hOut := hMarked.canonical hRenamable hCanonical
  exact
    ⟨tokens, out, hRead, tokenize_unparse_of_canonical hOut,
      hMarked.flatMarkers hRenamable,
      hMarked.filter_isMarker hRenamable,
      hMarked.spanPieces? hRenamable⟩

/-
  A group that its second field names, and a field with a
  nested spec.
-/
theorem compile_pairs_markers_of_group :
    ∃ tokens out,
      tokenize
          ("\x7benter!s\x7d[\x7b_n\x7d\x7bl\x7d]" ++
            "\x7bexit\x7d: \x7bm:>\x7bw\x7d\x7d").toList =
        .ok tokens ∧
      tokenize
          ("\x7bl\x02!s\x7d[\x7bn\x7d\x7bl\x7d]" ++
            "\x7bl\x03\x7d: \x7bm\x02\x7d" ++
            "\x7bm:>\x7bw\x7d\x7d\x7bm\x03\x7d").toList =
        .ok (placeTokens 0 out) ∧
      FlatMarkers out ∧
      out.filter (fun token => !token.isMarker) =
        (tokens.filter (fun token => !token.isBoundary)).map
          Token.uncolored ∧
      spanPieces? out = some (groupPieces tokens) :=
  compile_pairs_markers
    (by decide +kernel)
    (by decide +kernel)

end LogLine
