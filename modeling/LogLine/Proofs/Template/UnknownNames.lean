import LogLine.Proofs.Template.Validated
import LogLine.Proofs.Template.Violations

/-
  What is reported for a raw template that cannot be put to
  use: its leftmost fault, or that no field has a name, or else
  all names that are not known, in the order of their bytes.
  The lists of known names matter for the last one only, and
  only by the names that are in either.

  Key definitions include:
    * `LogLine.Text.bytes`
    * `LogLine.ItemFault`
    * `LogLine.LeftmostFault`
    * `LogLine.UsesName`

  Key theorems include:
    * `LogLine.Text.bytes_lt_bytes`
    * `LogLine.forM_checkItem_eq_error_iff`
    * `LogLine.validate_eq_items`
    * `LogLine.unknown_names_are_all_reported`
-/

------------------------------------------------------------
-- The Order of Bytes
------------------------------------------------------------

namespace LogLine

/-
  The bytes of a lower character are lower, whatever follows:
  a longer code begins with a greater byte, and codes of the
  same length are compared from their highest bits on.
-/
theorem utf8EncodeChar_append_lt
    {lower upper : Char}
    (hLess : lower < upper)
    (first second : List UInt8) :
    String.utf8EncodeChar lower ++ first <
      String.utf8EncodeChar upper ++ second := by
  have hValue : lower.val.toNat < upper.val.toNat := hLess
  have hValid : upper.val.toNat < 1114112 := by
    rcases upper.valid with hLow | hHigh
    · exact Nat.lt_trans hLow (by decide)
    · exact hHigh.2
  unfold String.utf8EncodeChar
  simp only
  generalize lower.val.toNat = a at hValue ⊢
  generalize upper.val.toNat = b at hValue hValid ⊢
  split <;> split
  all_goals
    repeat' split
  all_goals
    simp (disch := omega) only [List.cons_append,
      List.nil_append, List.cons_lt_cons_iff,
      UInt8.lt_iff_toNat_lt, ← UInt8.toNat_inj,
      UInt8.toNat_ofNat', Nat.reducePow, Nat.mod_eq_of_lt]
    omega

namespace Text

/- The bytes of a text in UTF-8. -/
def bytes
    (text : Text) :
    List UInt8 :=
  text.flatMap String.utf8EncodeChar

theorem bytes_cons
    (c : Char)
    (rest : Text) :
    bytes (c :: rest) = String.utf8EncodeChar c ++ bytes rest :=
  rfl

/- Texts are ordered as their bytes are. -/
theorem bytes_lt_bytes
    {first second : Text}
    (hLess : first < second) :
    first.bytes < second.bytes := by
  induction first generalizing second with
  | nil =>
      cases second with
      | nil => exact absurd hLess (List.lt_irrefl [])
      | cons d rest =>
          rcases List.exists_cons_of_ne_nil
              (String.utf8EncodeChar_ne_nil (c := d)) with
            ⟨byte, others, hBytes⟩
          rw [bytes_cons, hBytes]
          exact List.nil_lt_cons _ _
  | cons c rest ih =>
      cases second with
      | nil => exact absurd hLess (List.not_lt_nil _)
      | cons d others =>
          rw [bytes_cons, bytes_cons]
          rcases List.cons_lt_cons_iff.mp hLess with
            hChar | ⟨rfl, hRest⟩
          · exact utf8EncodeChar_append_lt hChar _ _
          · exact List.append_left_lt (ih hRest)

end Text

end LogLine

------------------------------------------------------------
-- Faults in Order
------------------------------------------------------------

namespace LogLine

/-
  The fault of a field by itself: its name comes first, then
  its conversion, then its spec.
-/
inductive Field.CheckFault
    (f : Field) : ValidationError → Prop where
  | name
      (hSome : f.name ≠ [])
      (hName : isFieldName f.name = false) :
      CheckFault f (.invalidFieldName f.name)
  | conversion
      {c : Char}
      (hName : f.name ≠ [] → isFieldName f.name = true)
      (hOwn : f.conversion = some c)
      (hOther : c ∉ ['r', 's', 'a']) :
      CheckFault f (.invalidConversion c)
  | spec
      {spec : Text}
      (hName : f.name ≠ [] → isFieldName f.name = true)
      (hConversion : ∀ c ∈ f.conversion, c ∈ ['r', 's', 'a'])
      (hOwn : f.spec = some spec)
      (hSome : spec ≠ [])
      (hSpec : isSpecText spec = false) :
      CheckFault f (.invalidFormatSpec spec)

/- The fault of what a reader gives: a violation, or a field's. -/
inductive ItemFault :
    Except SyntaxError Token → ValidationError → Prop where
  | malformed
      (violation : SyntaxError) :
      ItemFault (.error violation) (.malformed violation)
  | field
      {f : Field}
      {fault : ValidationError}
      (hFault : f.CheckFault fault) :
      ItemFault (.ok (.field f)) fault

/- The fault that a template has in front of all others. -/
def LeftmostFault
    (raw : Text)
    (fault : ValidationError) : Prop :=
  ∃ before item after,
    (scan raw).items = before ++ item :: after ∧
    (∀ earlier ∈ before,
      ∀ other, ¬ ItemFault earlier other) ∧
    ItemFault item fault

/- Faults that a template has wherever it is used. -/
def ValidationError.InPlace : ValidationError → Prop
  | malformed _ => True
  | invalidFieldName _ => True
  | invalidConversion _ => True
  | invalidFormatSpec _ => True
  | noFields => False
  | unknownFields _ => False

theorem ItemFault.inPlace
    {item : Except SyntaxError Token}
    {fault : ValidationError}
    (hFault : ItemFault item fault) :
    fault.InPlace := by
  cases hFault with
  | malformed violation => trivial
  | field hField =>
      cases hField with
      | name => trivial
      | conversion => trivial
      | spec => trivial

theorem Field.effectiveSpec_eq_some_iff
    (f : Field)
    (spec : Text) :
    f.effectiveSpec = some spec ↔
      f.spec = some spec ∧ spec ≠ [] := by
  rw [effectiveSpec, Option.filter_eq_some_iff]
  simp

/- A check fails at its first guard that fails. -/
theorem Field.check_eq_error_cases
    (f : Field)
    (fault : ValidationError) :
    f.check = .error fault ↔
      (f.name ≠ [] ∧ isFieldName f.name = false) ∧
        fault = .invalidFieldName f.name ∨
      (f.name ≠ [] → isFieldName f.name = true) ∧
        ((∃ c,
          (f.conversion = some c ∧ c ∉ conversions) ∧
            fault = .invalidConversion c) ∨
        (∀ c ∈ f.conversion, c ∈ conversions) ∧
          ∃ spec,
            (f.effectiveSpec = some spec ∧
              isSpecText spec = false) ∧
            fault = .invalidFormatSpec spec) := by
  have hName :
      (!f.name.isEmpty && !isFieldName f.name) = true ↔
        f.name ≠ [] ∧ isFieldName f.name = false := by
    simp
  have hNamed :
      ¬ (f.name ≠ [] ∧ isFieldName f.name = false) ↔
        (f.name ≠ [] → isFieldName f.name = true) := by
    simp
  unfold check
  simp only
  rw [throw_if_bind_eq_error_iff, hName, hNamed]
  cases f.conversion with
  | none =>
      cases f.effectiveSpec with
      | none => simp [pure, Except.pure]
      | some spec =>
          simp only [throw_if_eq_error_iff]
          simp
  | some c =>
      cases f.effectiveSpec with
      | none =>
          simp only [throw_if_bind_eq_error_iff]
          simp [pure, Except.pure]
      | some spec =>
          simp only [throw_if_bind_eq_error_iff,
            throw_if_eq_error_iff]
          simp

theorem Field.check_eq_error_iff
    (f : Field)
    (fault : ValidationError) :
    f.check = .error fault ↔ f.CheckFault fault := by
  simp only [check_eq_error_cases, effectiveSpec_eq_some_iff]
  constructor
  · rintro (⟨⟨hSome, hName⟩, rfl⟩ | ⟨hName,
      ⟨c, ⟨hOwn, hOther⟩, rfl⟩ |
      ⟨hConversion, spec, ⟨⟨hOwn, hSome⟩, hSpec⟩, rfl⟩⟩)
    · exact .name hSome hName
    · exact .conversion hName hOwn hOther
    · exact .spec hName hConversion hOwn hSome hSpec
  · intro hFault
    cases hFault with
    | name hSome hName => exact Or.inl ⟨⟨hSome, hName⟩, rfl⟩
    | conversion hName hOwn hOther =>
        exact Or.inr ⟨hName, Or.inl ⟨_, ⟨hOwn, hOther⟩, rfl⟩⟩
    | spec hName hConversion hOwn hSome hSpec =>
        refine Or.inr ⟨hName, Or.inr ⟨hConversion, ?_⟩⟩
        exact ⟨_, ⟨⟨hOwn, hSome⟩, hSpec⟩, rfl⟩

end LogLine

------------------------------------------------------------
-- Checking What a Reader Gives
------------------------------------------------------------

namespace LogLine

/- Check what a reader gives, as soon as it gives it. -/
def checkItem :
    Except SyntaxError Token → Except ValidationError Unit
  | .error violation => .error (.malformed violation)
  | .ok (.literal _) => .ok ()
  | .ok (.field f) => f.check

theorem checkItem_eq_error_iff
    (item : Except SyntaxError Token)
    (fault : ValidationError) :
    checkItem item = .error fault ↔ ItemFault item fault := by
  constructor
  · intro hFault
    cases item with
    | error violation =>
        cases hFault
        exact .malformed violation
    | ok token =>
        cases token with
        | literal text => cases hFault
        | field f =>
            exact .field ((f.check_eq_error_iff fault).mp hFault)
  · intro hFault
    cases hFault with
    | malformed violation => rfl
    | field hField =>
        exact (Field.check_eq_error_iff _ _).mpr hField

theorem exists_checkItem_iff
    (item : Except SyntaxError Token) :
    (∃ passed, checkItem item = .ok passed) ↔
      ∀ fault, ¬ ItemFault item fault := by
  simp only [← checkItem_eq_error_iff]
  cases checkItem item with
  | error fault => simp
  | ok passed => simp

/- The items in order have the leftmost fault of the template. -/
theorem forM_checkItem_eq_error_iff
    (raw : Text)
    (fault : ValidationError) :
    (scan raw).items.forM checkItem = .error fault ↔
      LeftmostFault raw fault := by
  rw [forM_eq_error_iff]
  unfold FailsFirst LeftmostFault
  simp only [exists_checkItem_iff, checkItem_eq_error_iff]

theorem forM_checkItem_eq_ok_iff
    (raw : Text) :
    (scan raw).items.forM checkItem = .ok () ↔
      ∀ fault, ¬ LeftmostFault raw fault := by
  simp only [← forM_checkItem_eq_error_iff]
  cases (scan raw).items.forM checkItem with
  | error fault => simp
  | ok passed => simp

/- Fields are checked in order, and a violation comes last. -/
theorem Scan.forM_checkItem
    (read : Scan) :
    read.items.forM checkItem =
      (do
        (read.tokens.filterMap Token.field?).forM Field.check
        match read.violation with
        | none => .ok ()
        | some violation => .error (.malformed violation)) := by
  rcases read with ⟨tokens, violation⟩
  induction tokens with
  | nil =>
      cases violation with
      | none => rfl
      | some violation => rfl
  | cons token tokens ih =>
      have hItems :
          (Scan.mk (token :: tokens) violation).items =
            .ok token :: (Scan.mk tokens violation).items :=
        rfl
      have hCons :
          ∀ item (items : List (Except SyntaxError Token)),
            (item :: items).forM checkItem =
              (checkItem item >>= fun _ => items.forM checkItem) :=
        fun _ _ => rfl
      rw [hItems, hCons, ih]
      cases token with
      | literal text => rfl
      | field f =>
          rw [List.filterMap_cons]
          show
            (f.check >>= fun _ => _) =
              ((f.check >>= fun _ => _) >>= fun _ => _)
          cases f.check with
          | error fault => rfl
          | ok passed => rfl

end LogLine

------------------------------------------------------------
-- Names That Are Not Known
------------------------------------------------------------

namespace LogLine

/- A field of the template has this name, underscore apart. -/
def UsesName
    (raw name : Text) : Prop :=
  ∃ f,
    Token.field f ∈ (scan raw).tokens ∧
    f.name ≠ [] ∧
    f.name.dropInitial '_' = name

/- The names of the template that are in none of two lists. -/
def unknownNames
    (raw : Text)
    (allowed extra : List Text) :
    List Text :=
  ((scan raw).namedFields.map Field.bareName).filter
    (fun name => name ∉ allowed ∧ name ∉ extra)

theorem namedFields_eq_nil_iff
    (raw : Text) :
    (scan raw).namedFields = [] ↔
      ∀ name, ¬ UsesName raw name := by
  rw [List.eq_nil_iff_forall_not_mem]
  simp only [mem_namedFields_iff]
  constructor
  · rintro hNone name ⟨f, hMem, hSome, -⟩
    exact hNone f ⟨hMem, hSome⟩
  · rintro hNone f ⟨hMem, hSome⟩
    exact hNone _ ⟨f, hMem, hSome, rfl⟩

theorem mem_unknownNames_iff
    (raw : Text)
    (allowed extra : List Text)
    (name : Text) :
    name ∈ unknownNames raw allowed extra ↔
      UsesName raw name ∧ name ∉ allowed ∧ name ∉ extra := by
  unfold unknownNames
  rw [List.mem_filter, List.mem_map, decide_eq_true_eq]
  simp only [mem_namedFields_iff]
  constructor
  · rintro ⟨⟨f, ⟨hMem, hSome⟩, rfl⟩, hUnknown⟩
    exact ⟨⟨f, hMem, hSome, rfl⟩, hUnknown⟩
  · rintro ⟨⟨f, hMem, hSome, rfl⟩, hUnknown⟩
    exact ⟨⟨f, ⟨hMem, hSome⟩, rfl⟩, hUnknown⟩

theorem unknownNames_eq_nil_iff
    (raw : Text)
    (allowed extra : List Text) :
    unknownNames raw allowed extra = [] ↔
      ∀ name, UsesName raw name →
        name ∈ allowed ∨ name ∈ extra := by
  rw [List.eq_nil_iff_forall_not_mem]
  simp only [mem_unknownNames_iff, not_and, not_not,
    or_iff_not_imp_left]

/- Only the names in either of the lists have a part in this. -/
theorem unknownNames_congr
    (raw : Text)
    {allowed extra otherAllowed otherExtra : List Text}
    (hSame :
      ∀ name,
        name ∈ otherAllowed ∨ name ∈ otherExtra ↔
          name ∈ allowed ∨ name ∈ extra) :
    unknownNames raw otherAllowed otherExtra =
      unknownNames raw allowed extra := by
  unfold unknownNames
  apply List.filter_congr
  intro name _
  rw [decide_eq_decide, ← not_or, ← not_or, hSame]

/- First the items are checked, then the names all together. -/
theorem validate_eq_items
    (raw : Text)
    (allowed extra : List Text) :
    validate raw allowed extra =
      (do
        (scan raw).items.forM checkItem
        if (scan raw).namedFields = [] then
          .error .noFields
        else if unknownNames raw allowed extra = [] then
          .ok ()
        else
          .error
            (.unknownFields
              (ascendingNames (unknownNames raw allowed extra)))) := by
  rw [Scan.forM_checkItem]
  unfold validate unknownNames
  simp only
  cases ((scan raw).tokens.filterMap Token.field?).forM
      Field.check with
  | error fault => rfl
  | ok passed =>
      cases (scan raw).violation with
      | some violation => rfl
      | none =>
          cases (scan raw).namedFields with
          | nil => rfl
          | cons f fields =>
              generalize
                ((f :: fields).map Field.bareName).filter _ =
                  unknown
              cases unknown with
              | nil => rfl
              | cons name names => rfl

/- Without a fault in its place, only names are reported. -/
theorem validate_of_faultless
    {raw : Text}
    (hFaultless : ∀ fault, ¬ LeftmostFault raw fault)
    (allowed extra : List Text) :
    validate raw allowed extra =
      if (scan raw).namedFields = [] then
        .error .noFields
      else if unknownNames raw allowed extra = [] then
        .ok ()
      else
        .error
          (.unknownFields
            (ascendingNames (unknownNames raw allowed extra))) := by
  rw [validate_eq_items,
    (forM_checkItem_eq_ok_iff raw).mpr hFaultless]
  rfl

theorem validate_of_leftmostFault
    {raw : Text}
    {fault : ValidationError}
    (hFault : LeftmostFault raw fault)
    (allowed extra : List Text) :
    validate raw allowed extra = .error fault := by
  rw [validate_eq_items,
    (forM_checkItem_eq_error_iff raw fault).mpr hFault]
  rfl

theorem LeftmostFault.inPlace
    {raw : Text}
    {fault : ValidationError}
    (hFault : LeftmostFault raw fault) :
    fault.InPlace := by
  rcases hFault with ⟨before, item, after, -, -, hItem⟩
  exact hItem.inPlace

theorem validate_eq_error_iff_of_inPlace
    {fault : ValidationError}
    (hInPlace : fault.InPlace)
    (raw : Text)
    (allowed extra : List Text) :
    validate raw allowed extra = .error fault ↔
      LeftmostFault raw fault := by
  constructor
  · intro hFault
    by_contra hOther
    by_cases hSome : ∃ other, LeftmostFault raw other
    · rcases hSome with ⟨other, hLeftmost⟩
      rw [validate_of_leftmostFault hLeftmost] at hFault
      cases hFault
      exact hOther hLeftmost
    · rw [validate_of_faultless (not_exists.mp hSome)] at hFault
      split at hFault
      · cases hFault
        exact hInPlace
      · split at hFault
        · cases hFault
        · cases hFault
          exact hInPlace
  · intro hLeftmost
    exact validate_of_leftmostFault hLeftmost allowed extra

theorem validate_eq_noFields_iff
    (raw : Text)
    (allowed extra : List Text) :
    validate raw allowed extra = .error .noFields ↔
      (∀ fault, ¬ LeftmostFault raw fault) ∧
        ∀ name, ¬ UsesName raw name := by
  rw [← namedFields_eq_nil_iff]
  constructor
  · intro hFault
    have hFaultless : ∀ fault, ¬ LeftmostFault raw fault := by
      intro fault hLeftmost
      rw [validate_of_leftmostFault hLeftmost] at hFault
      cases hFault
      exact hLeftmost.inPlace
    refine ⟨hFaultless, ?_⟩
    rw [validate_of_faultless hFaultless] at hFault
    split at hFault
    case isTrue hNone => exact hNone
    case isFalse =>
        split at hFault
        · cases hFault
        · cases hFault
  · rintro ⟨hFaultless, hNone⟩
    rw [validate_of_faultless hFaultless, if_pos hNone]

end LogLine

------------------------------------------------------------
-- Reports
------------------------------------------------------------

namespace LogLine

/-
  The leftmost fault of a template is reported first, and then
  that no field has a name; both with whatever names are known.
  Otherwise a template is accepted if all its names are known,
  and if not, exactly those that are not known are reported, in
  the order of their bytes.  So more known names never make a
  template fail.
-/
theorem unknown_names_are_all_reported
    (raw : Text)
    (allowed extra : List Text) :
    (∀ otherAllowed otherExtra,
      (∀ name,
        name ∈ otherAllowed ∨ name ∈ otherExtra ↔
          name ∈ allowed ∨ name ∈ extra) →
        validate raw otherAllowed otherExtra =
          validate raw allowed extra) ∧
    (∀ fault, fault.InPlace →
      (validate raw allowed extra = .error fault ↔
        LeftmostFault raw fault)) ∧
    (validate raw allowed extra = .error .noFields ↔
      (∀ fault, ¬ LeftmostFault raw fault) ∧
        ∀ name, ¬ UsesName raw name) ∧
    (∀ fault, fault.InPlace ∨ fault = .noFields →
      validate raw allowed extra = .error fault →
        ∀ otherAllowed otherExtra,
          validate raw otherAllowed otherExtra =
            .error fault) ∧
    ((∀ fault, ¬ LeftmostFault raw fault) →
      (∃ name, UsesName raw name) →
        ((∀ name, UsesName raw name →
            name ∈ allowed ∨ name ∈ extra) →
          validate raw allowed extra = .ok ()) ∧
        (¬ (∀ name, UsesName raw name →
            name ∈ allowed ∨ name ∈ extra) →
          ∃ names,
            validate raw allowed extra =
                .error (.unknownFields names) ∧
            names.Pairwise
              (fun first second => first.bytes < second.bytes) ∧
            ∀ name,
              name ∈ names ↔
                UsesName raw name ∧
                  ¬ (name ∈ allowed ∨ name ∈ extra))) ∧
    (validate raw allowed extra = .ok () →
      ∀ otherAllowed otherExtra,
        (∀ name, name ∈ allowed ∨ name ∈ extra →
          name ∈ otherAllowed ∨ name ∈ otherExtra) →
          validate raw otherAllowed otherExtra = .ok ()) := by
  refine
    ⟨?_, fun fault hInPlace =>
      validate_eq_error_iff_of_inPlace hInPlace raw allowed extra,
      validate_eq_noFields_iff raw allowed extra, ?_, ?_, ?_⟩
  · intro otherAllowed otherExtra hSame
    rw [validate_eq_items, validate_eq_items,
      unknownNames_congr raw hSame]
  · rintro fault (hInPlace | rfl) hFault otherAllowed otherExtra
    · rw [validate_eq_error_iff_of_inPlace hInPlace] at hFault ⊢
      exact hFault
    · rw [validate_eq_noFields_iff] at hFault ⊢
      exact hFault
  · intro hFaultless hNamed
    have hSome : (scan raw).namedFields ≠ [] := by
      rw [ne_eq, namedFields_eq_nil_iff, not_forall_not]
      exact hNamed
    have hValidate :=
      validate_of_faultless hFaultless allowed extra
    rw [if_neg hSome] at hValidate
    rw [← unknownNames_eq_nil_iff]
    constructor
    · intro hKnown
      rw [hValidate, if_pos hKnown]
    · intro hUnknown
      rw [if_neg hUnknown] at hValidate
      refine
        ⟨_, hValidate,
          (ascendingNames_pairwise _).imp Text.bytes_lt_bytes, ?_⟩
      intro name
      rw [mem_ascendingNames, mem_unknownNames_iff, not_or]
  · intro hValid otherAllowed otherExtra hMore
    rw [validate_eq_ok_iff] at hValid ⊢
    rcases hValid with ⟨hFields, hRead, hSome, hKnown⟩
    exact
      ⟨hFields, hRead, hSome, fun f hMem =>
        hMore _ (hKnown f hMem)⟩

/- Two unknown names, one of them in two places. -/
def strangeSource : Text :=
  "\x7b_zeta\x7d\x7bé\x7d\x7bname\x7d\x7bzeta\x7d".toList

/- The name é comes last, since its first byte is the largest. -/
theorem strange_names_are_reported_once :
    validate strangeSource ["name".toList] ["name".toList] =
      .error (.unknownFields ["zeta".toList, "é".toList]) := by
  have hSame :=
    (unknown_names_are_all_reported
      strangeSource ["name".toList] []).1
      ["name".toList] ["name".toList] (by simp)
  rw [hSame]
  decide +kernel

end LogLine
