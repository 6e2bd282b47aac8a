import StickyRouting.Proofs.Reading.Values

/-!
# Arrays are read exactly

An array gives the values of fields in their order, and it may end before it has given all of them.
No comma stands before its end, so what follows a comma is an element.
-/

namespace StickyRouting.Config

open StickyRouting.Json

variable {text rest : List Char} {config : Config} {field : Field} {setting : Setting}
  {settings : List Setting}

theorem Setting.Written.starts {value : List Char} (hwritten : setting.Written value) :
    ∃ first others, value = first :: others ∧ isBlank first = false ∧ first ≠ ']' := by
  have hnumeral {digits : List Char} {count : Nat} (hcount : Numeral digits count) :
      ∃ first others, digits = first :: others ∧ isBlank first = false ∧ first ≠ ']' := by
    obtain ⟨first, others, rfl, hdigit⟩ := hcount.starts
    refine ⟨first, others, rfl, isBlank_of_isDigit hdigit, ?_⟩
    rintro rfl
    cases hdigit
  cases hwritten with
  | healthCheck hflag =>
      cases hflag with
      | yes => exact ⟨_, _, rfl, rfl, by decide⟩
      | no => exact ⟨_, _, rfl, rfl, by decide⟩
  | maxConnections hcount => exact hnumeral hcount
  | maxStreams hcount => exact hnumeral hcount

theorem endsNumber_bracket (rest : List Char) : EndsNumber (']' :: rest) :=
  endsNumber_cons rfl (by decide) rfl rest

theorem readArrayEnd_sound {result : Config}
    (hread : readArrayEnd config text = .ok (result, rest)) :
    result = config ∧ ∃ blanks, Blanks blanks ∧ text = blanks ++ ']' :: rest := by
  obtain ⟨before, hbefore, htext⟩ := exists_blanks text
  unfold readArrayEnd at hread
  split at hread
  · cases hread
  · next behind heq =>
      obtain ⟨rfl, rfl⟩ := ok_inj.mp hread
      rw [heq] at htext
      exact ⟨rfl, before, hbefore, htext⟩
  · cases hread

theorem readArrayEnd_complete {blanks : List Char} (hblanks : Blanks blanks) (rest : List Char) :
    readArrayEnd config (blanks ++ ']' :: rest) = .ok (config, rest) := by
  rw [readArrayEnd, skipBlanks_append hblanks, skipBlanks_cons rfl]
  rfl

theorem nextElement_end {blanks : List Char} (hblanks : Blanks blanks) (isFirst : Bool)
    (rest : List Char) : nextElement isFirst (blanks ++ ']' :: rest) = .ok none := by
  rw [nextElement, skipBlanks_append hblanks, skipBlanks_cons rfl]
  rfl

theorem nextElement_first_sound {element : List Char}
    (hnext : nextElement true text = .ok (some element)) :
    ∃ before, Blanks before ∧ text = before ++ element := by
  obtain ⟨before, hbefore, htext⟩ := exists_blanks text
  unfold nextElement at hnext
  split at hnext
  · cases hnext
  · cases hnext
  · cases hnext
    exact ⟨before, hbefore, htext⟩

theorem nextElement_sound {element : List Char}
    (hnext : nextElement false text = .ok (some element)) :
    ∃ before between, Blanks before ∧ Blanks between ∧
      text = before ++ ',' :: (between ++ element) := by
  obtain ⟨before, hbefore, htext⟩ := exists_blanks text
  unfold nextElement at hnext
  split at hnext
  · cases hnext
  · cases hnext
  · simp only [Bool.false_eq_true, if_false] at hnext
    split at hnext
    · next behind heq =>
        obtain ⟨between, hbetween, hbehind⟩ := exists_blanks behind
        split at hnext
        · cases hnext
        · cases hnext
        · cases hnext
          rw [heq, hbehind] at htext
          exact ⟨before, between, hbefore, hbetween, htext⟩
    · cases hnext

theorem nextElement_first_complete {before value : List Char} (hbefore : Blanks before)
    (hwritten : setting.Written value) (rest : List Char) :
    nextElement true (before ++ (value ++ rest)) = .ok (some (value ++ rest)) := by
  obtain ⟨first, others, rfl, hblank, hbracket⟩ := hwritten.starts
  rw [nextElement, skipBlanks_append hbefore, List.cons_append, skipBlanks_cons hblank]
  split
  · next heq => cases heq
  · next heq => exact absurd (List.cons.inj heq).1 hbracket
  · rfl

theorem nextElement_complete {before between value : List Char} (hbefore : Blanks before)
    (hbetween : Blanks between) (hwritten : setting.Written value) (rest : List Char) :
    nextElement false (before ++ ',' :: (between ++ (value ++ rest))) =
      .ok (some (value ++ rest)) := by
  obtain ⟨first, others, rfl, hblank, hbracket⟩ := hwritten.starts
  have hskip : skipBlanks (between ++ (first :: others ++ rest)) = first :: (others ++ rest) := by
    rw [skipBlanks_append hbetween, List.cons_append, skipBlanks_cons hblank]
  rw [nextElement, skipBlanks_append hbefore, skipBlanks_cons rfl]
  split
  · next heq => cases heq
  · next heq => cases heq
  · rw [if_neg Bool.false_ne_true]
    split
    · next behind heq =>
        obtain ⟨_, rfl⟩ := List.cons.inj heq
        rw [hskip]
        split
        · next heq => cases heq
        · next heq => exact absurd (List.cons.inj heq).1 hbracket
        · rfl
    · next hother => exact absurd rfl (hother _)

/-- An array ends, or its next element is a value of the next field. -/
theorem readElements_cons_sound {isFirst : Bool} {fields : List Field} {result : Config}
    (hread : readElements isFirst (field :: fields) config text = .ok (result, rest)) :
    readArrayEnd config text = .ok (result, rest) ∨
      ∃ blanks value setting behind, Blanks blanks ∧ setting.Written value ∧
        setting.field = field ∧
          nextElement isFirst text = .ok (some (blanks ++ (value ++ behind))) ∧
            readElements false fields (config.set setting) behind = .ok (result, rest) := by
  unfold readElements at hread
  split at hread
  · cases hread
  · exact .inl hread
  · next element hnext =>
      split at hread
      · cases hread
      · next setting behind hvalue =>
          obtain ⟨blanks, value, hblanks, ⟨hfield, hwritten⟩, rfl⟩ :=
            (Field.read_exact field).sound hvalue
          exact .inr ⟨blanks, value, setting, behind, hblanks, hwritten, hfield, hnext, hread⟩

theorem readElements_cons_complete {isFirst : Bool} {fields : List Field}
    {value behind : List Char}
    (hnext : nextElement isFirst text = .ok (some (value ++ behind)))
    (hwritten : setting.Written value) (hends : EndsNumber behind) :
    readElements isFirst (setting.field :: fields) config text =
      readElements false fields (config.set setting) behind := by
  have hvalue := (Field.read_exact setting.field).complete Blanks.nil ⟨rfl, hwritten⟩ hends
  rw [List.nil_append] at hvalue
  rw [readElements, hnext]
  simp only [hvalue]

theorem readElements_sound {fields : List Field} {result : Config}
    (hread : readElements false fields config text = .ok (result, rest)) :
    ∃ body settings, Further Setting.Written body settings ∧
      settings.map Setting.field <+: fields ∧ text = body ++ ']' :: rest ∧
        result = config.setAll settings := by
  have hend {config : Config} {text : List Char}
      (hread : readArrayEnd config text = .ok (result, rest)) (fields : List Field) :
      ∃ body settings, Further Setting.Written body settings ∧
        settings.map Setting.field <+: fields ∧ text = body ++ ']' :: rest ∧
          result = config.setAll settings := by
    obtain ⟨rfl, blanks, hblanks, rfl⟩ := readArrayEnd_sound hread
    exact ⟨blanks, [], .done hblanks, List.nil_prefix, rfl, rfl⟩
  induction fields generalizing config text with
  | nil => exact hend hread []
  | cons field fields ih =>
      rcases readElements_cons_sound hread with
        hclosed | ⟨blanks, value, setting, behind, hblanks, hwritten, rfl, hnext, hrest⟩
      · exact hend hclosed _
      · obtain ⟨before, between, hbefore, hbetween, rfl⟩ := nextElement_sound hnext
        obtain ⟨body, settings, hfurther, hplaces, rfl, hresult⟩ := ih hrest
        exact ⟨_, setting :: settings,
          .item hbefore (hbetween.append hblanks) hwritten hfurther,
          List.cons_prefix_cons.mpr ⟨rfl, hplaces⟩, by simp, hresult⟩

theorem readElements_complete {body : List Char} (config : Config)
    (hfurther : Further Setting.Written body settings) {fields : List Field}
    (hplaces : settings.map Setting.field <+: fields) (rest : List Char) :
    readElements false fields config (body ++ ']' :: rest) =
      .ok (config.setAll settings, rest) := by
  induction hfurther generalizing fields config with
  | done hblanks =>
      cases fields with
      | nil => exact readArrayEnd_complete hblanks rest
      | cons field fields =>
          rw [readElements, nextElement_end hblanks]
          exact readArrayEnd_complete hblanks rest
  | @item before between value further setting settings hbefore hbetween hitem hrest ih =>
      obtain ⟨tail, rfl⟩ := hplaces
      have hnext := nextElement_complete hbefore hbetween hitem (further ++ ']' :: rest)
      have hends := hrest.endsNumber (endsNumber_bracket rest)
      have htext : before ++ ',' :: (between ++ (value ++ further)) ++ ']' :: rest =
          before ++ ',' :: (between ++ (value ++ (further ++ ']' :: rest))) := by
        simp
      rw [List.map_cons, List.cons_append, htext, readElements_cons_complete hnext hitem hends]
      exact ih (config.set setting) (List.prefix_append _ tail)

theorem readElements_first_sound {fields : List Field} {result : Config}
    (hread : readElements true fields config text = .ok (result, rest)) :
    ∃ body settings, Items Setting.Written body settings ∧
      settings.map Setting.field <+: fields ∧ text = body ++ ']' :: rest ∧
        result = config.setAll settings := by
  have hend (hread : readArrayEnd config text = .ok (result, rest)) :
      ∃ body settings, Items Setting.Written body settings ∧
        settings.map Setting.field <+: fields ∧ text = body ++ ']' :: rest ∧
          result = config.setAll settings := by
    obtain ⟨rfl, blanks, hblanks, rfl⟩ := readArrayEnd_sound hread
    exact ⟨blanks, [], .none hblanks, List.nil_prefix, rfl, rfl⟩
  cases fields with
  | nil => exact hend hread
  | cons field fields =>
      rcases readElements_cons_sound hread with
        hclosed | ⟨blanks, value, setting, behind, hblanks, hwritten, rfl, hnext, hrest⟩
      · exact hend hclosed
      · obtain ⟨before, hbefore, rfl⟩ := nextElement_first_sound hnext
        obtain ⟨body, settings, hfurther, hplaces, rfl, hresult⟩ := readElements_sound hrest
        exact ⟨_, setting :: settings, .first (hbefore.append hblanks) hwritten hfurther,
          List.cons_prefix_cons.mpr ⟨rfl, hplaces⟩, by simp, hresult⟩

theorem readElements_first_complete {body : List Char} (hbody : Items Setting.Written body settings)
    {fields : List Field} (hplaces : settings.map Setting.field <+: fields) (rest : List Char) :
    readElements true fields config (body ++ ']' :: rest) = .ok (config.setAll settings, rest) := by
  cases hbody with
  | none hblanks =>
      cases fields with
      | nil => exact readArrayEnd_complete hblanks rest
      | cons field fields =>
          rw [readElements, nextElement_end hblanks]
          exact readArrayEnd_complete hblanks rest
  | @first before value further setting settings hbefore hitem hrest =>
      obtain ⟨tail, rfl⟩ := hplaces
      have hnext := nextElement_first_complete hbefore hitem (further ++ ']' :: rest)
      have hends := hrest.endsNumber (endsNumber_bracket rest)
      have htext : before ++ (value ++ further) ++ ']' :: rest =
          before ++ (value ++ (further ++ ']' :: rest)) := by
        simp
      rw [List.map_cons, List.cons_append, htext, readElements_cons_complete hnext hitem hends]
      exact readElements_complete (config.set setting) hrest (List.prefix_append _ tail) rest

end StickyRouting.Config
