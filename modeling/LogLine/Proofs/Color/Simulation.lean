import LogLine.Proofs.Color.Escapes
import LogLine.Proofs.Template.Filling
import LogLine.Proofs.Template.MarkerPairs

/-
  Filling in a template with markers, step by step beside the
  same template without them.

  Key definitions include:
    * `LogLine.Agree`
    * `LogLine.MarkersShown`

  Key theorems include:
    * `LogLine.fillTokens_agree`
    * `LogLine.references_iff_of_filter`
-/

------------------------------------------------------------
-- Results That Agree
------------------------------------------------------------

namespace LogLine

/-
  Two results agree if both fail for the same reason, or if
  both give texts and these are related.
-/
inductive Agree
    {ε : Type}
    (related : Text → Text → Prop) :
    Except ε Text → Except ε Text → Prop where
  | ok
      {first second : Text}
      (hRelated : related first second) :
      Agree related (.ok first) (.ok second)
  | error
      (fault : ε) :
      Agree related (.error fault) (.error fault)

namespace Agree

variable {ε : Type}
variable {related : Text → Text → Prop}
variable {first second : Except ε Text}

/- Texts that are related only to themselves leave no choice. -/
theorem eq_of_eq
    (hAgree : Agree related first second)
    (hRelated :
      ∀ left right, related left right → left = right) :
    first = second := by
  cases hAgree with
  | ok hTexts => rw [hRelated _ _ hTexts]
  | error fault => rfl

theorem error_iff
    (hAgree : Agree related first second)
    (fault : ε) :
    first = .error fault ↔ second = .error fault := by
  cases hAgree with
  | ok hTexts => simp
  | error other => rfl

theorem exists_of_ok
    (hAgree : Agree related first second)
    {plain : Text}
    (hPlain : second = .ok plain) :
    ∃ text, first = .ok text ∧ related text plain := by
  subst hPlain
  cases hAgree with
  | ok hTexts => exact ⟨_, rfl, hTexts⟩

end Agree

end LogLine

------------------------------------------------------------
-- Tokens Side by Side
------------------------------------------------------------

namespace LogLine

/-
  Two sets of values give the same to all names but those of
  the markers among some tokens, and to these the first gives
  allowed texts.
-/
structure MarkersShown
    (allowed : Text → Prop)
    (colored plain : Lookup)
    (tokens : List Token) : Prop where
  alike :
    ∀ f piece,
      Token.field f ∈ tokens →
      isMarker f.name = false →
      f.piece = .ok piece →
        ∀ name ∈ piece.names, colored name = plain name
  shown :
    ∀ f,
      Token.field f ∈ tokens →
      isMarker f.name = true →
        f.conversion = none ∧ f.effectiveSpec = none ∧
          ∃ mark,
            allowed mark ∧ colored f.name = some (.str mark)

namespace MarkersShown

variable {allowed : Text → Prop}
variable {colored plain : Lookup}

theorem tail
    {token : Token}
    {tokens : List Token}
    (hShown :
      MarkersShown allowed colored plain (token :: tokens)) :
    MarkersShown allowed colored plain tokens where
  alike := by
    intro f piece hMem
    exact hShown.alike f piece (List.mem_cons_of_mem token hMem)
  shown := by
    intro f hMem
    exact hShown.shown f (List.mem_cons_of_mem token hMem)

/- A marker is filled in with an allowed text. -/
theorem fill_marker
    {f : Field}
    {tokens : List Token}
    (hShown :
      MarkersShown allowed colored plain
        (.field f :: tokens))
    (hMarker : isMarker f.name = true) :
    ∃ mark,
      allowed mark ∧
        (Token.field f).fill colored = .ok mark := by
  rcases hShown.shown f List.mem_cons_self hMarker with
    ⟨hConversion, hSpec, mark, hAllowed, hValue⟩
  exact
    ⟨mark, hAllowed,
      Token.fill_of_bare hConversion hSpec hValue⟩

/- Any other token is filled in alike. -/
theorem fill_alike
    {token : Token}
    {tokens : List Token}
    (hShown :
      MarkersShown allowed colored plain (token :: tokens))
    (hOther : token.isMarker = false) :
    token.fill colored = token.fill plain := by
  cases hPiece : token.segment with
  | error fault =>
      rw [Token.fill, Token.fill, hPiece]
      rfl
  | ok piece =>
      rw [Token.fill_of_segment hPiece,
        Token.fill_of_segment hPiece]
      apply Segment.fill_congr
      intro name hName
      rcases Token.mem_names_segment hPiece hName with
        ⟨f, rfl, hField⟩
      exact
        hShown.alike f piece List.mem_cons_self hOther hField
          name hName

end MarkersShown

/- Filling in one more token keeps the results related. -/
theorem agree_bind
    {allowed : Text → Prop}
    {first : Except RenderError Text}
    {colored plain : Except RenderError Text}
    (hAgree : Agree (Inserted allowed) colored plain) :
    Agree (Inserted allowed)
      (do
        let text ← first
        let behind ← colored
        return text ++ behind)
      (do
        let text ← first
        let behind ← plain
        return text ++ behind) := by
  cases first with
  | error fault => exact Agree.error fault
  | ok text =>
      cases hAgree with
      | error fault => exact Agree.error fault
      | ok hTexts => exact Agree.ok (Inserted.text text hTexts)

theorem agree_bind_mark
    {allowed : Text → Prop}
    {mark : Text}
    (hMark : allowed mark)
    {colored plain : Except RenderError Text}
    (hAgree : Agree (Inserted allowed) colored plain) :
    Agree (Inserted allowed)
      (do
        let text ← Except.ok mark
        let behind ← colored
        return text ++ behind)
      plain := by
  cases hAgree with
  | error fault => exact Agree.error fault
  | ok hTexts => exact Agree.ok (Inserted.mark hMark hTexts)

/-
  With their markers tokens give the text that they give
  without them, with allowed texts put in, or both fail alike.
-/
theorem fillTokens_agree
    {allowed : Text → Prop}
    {colored plain : Lookup}
    {tokens : List Token}
    (hShown : MarkersShown allowed colored plain tokens) :
    Agree (Inserted allowed)
      (fillTokens colored tokens)
      (fillTokens plain
        (tokens.filter (fun token => !token.isMarker))) := by
  induction tokens with
  | nil => exact Agree.ok Inserted.nil
  | cons token tokens ih =>
      have hAgree := ih hShown.tail
      cases hMarker : token.isMarker with
      | true =>
          rw [List.filter_cons_of_neg (by simp [hMarker])]
          cases token with
          | literal text => cases hMarker
          | field f =>
              rcases hShown.fill_marker hMarker with
                ⟨mark, hAllowed, hFill⟩
              rw [fillTokens, hFill]
              exact agree_bind_mark hAllowed hAgree
      | false =>
          rw [List.filter_cons_of_pos (by simp [hMarker]),
            fillTokens, fillTokens, hShown.fill_alike hMarker]
          exact agree_bind hAgree

end LogLine

------------------------------------------------------------
-- Names Side by Side
------------------------------------------------------------

namespace LogLine

/- A template refers to no other fields without its markers. -/
theorem references_iff_of_filter
    {tokens : List Token}
    {segments visible : List Segment}
    (hRead : readSegments tokens = .ok segments)
    (hVisible :
      readSegments
          (tokens.filter (fun token => !token.isMarker)) =
        .ok visible)
    {name : Text}
    (hName : isMarker name = false)
    (source other : Text) :
    Template.references ⟨source, segments⟩ name =
      Template.references ⟨other, visible⟩ name := by
  unfold Template.references Template.fieldNames
  rw [filterMap_name?_of_readSegments hRead,
    filterMap_name?_of_readSegments hVisible]
  rw [Bool.eq_iff_iff, List.contains_iff_mem,
    List.contains_iff_mem, List.mem_filterMap,
    List.mem_filterMap]
  constructor
  · rintro ⟨token, hMem, hToken⟩
    refine ⟨token, ?_, hToken⟩
    rw [List.mem_filter]
    refine ⟨hMem, ?_⟩
    cases token with
    | literal text => rfl
    | field f =>
        cases hToken
        rw [Token.isMarker, hName]
        rfl
  · rintro ⟨token, hMem, hToken⟩
    exact ⟨token, (List.mem_filter.mp hMem).1, hToken⟩

end LogLine
