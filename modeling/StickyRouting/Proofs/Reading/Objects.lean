import Mathlib.Data.List.Nodup
import StickyRouting.Proofs.Reading.Values

/-!
# Objects are read exactly

The members of an object are read into the default configuration one after the other, each of them
for a field that is still missing.  So the reader accepts members for different fields in any order,
and the settings that they are read into are those that they are written for.
-/

namespace StickyRouting.Config

open StickyRouting.Json

variable {text rest : List Char} {config : Config} {field : Field} {setting : Setting}
  {settings : List Setting} {missing : List Field}

theorem Field.ofName?_eq_some_iff {name : String} :
    Field.ofName? name = some field ↔ field.name = name := by
  constructor
  · intro hfound
    simpa using List.find?_some hfound
  · rintro rfl
    cases field <;> rfl

theorem Field.mem_all (field : Field) : field ∈ Field.all := by
  cases field <;> decide

theorem readFieldName_sound (hread : readFieldName missing text = .ok (field, rest)) :
    ∃ name, Quoted name field.name ∧ text = name ++ rest := by
  unfold readFieldName at hread
  split at hread
  · cases hread
  · split at hread
    · cases hread
    · next characters behind hstring =>
        split at hread
        · cases hread
        · next found hname =>
            split at hread
            · obtain ⟨rfl, rfl⟩ := ok_inj.mp hread
              obtain ⟨body, hbody, rfl⟩ := readString_sound hstring
              have hquoted : SpelledAll body found.name.toList := by
                rwa [Field.ofName?_eq_some_iff.mp hname, String.toList_ofList]
              exact ⟨_, .quotes hquoted, by simp⟩
            · cases hread
  · cases hread

theorem readFieldName_complete {name : List Char} (hname : Quoted name field.name)
    (hmissing : field ∈ missing) (rest : List Char) :
    readFieldName missing (name ++ rest) = .ok (field, rest) := by
  cases hname with
  | @quotes body _ hbody =>
      have hstring := readString_complete hbody rest
      have hfound := Field.ofName?_eq_some_iff.mpr (rfl : field.name = field.name)
      simp [readFieldName, hstring, hfound, hmissing]

theorem readMember_sound (hread : readMember missing text = .ok ((field, setting), rest)) :
    setting.field = field ∧ ∃ member, setting.Member member ∧ text = member ++ rest := by
  unfold readMember at hread
  split at hread
  · cases hread
  · next found behind hname =>
      obtain ⟨⟨value, after⟩, hvalue, hpair⟩ := map_eq_ok_iff.mp hread
      obtain ⟨hmember, rfl⟩ := Prod.mk.inj hpair
      obtain ⟨rfl, rfl⟩ := Prod.mk.inj hmember
      obtain ⟨name, hquoted, rfl⟩ := readFieldName_sound hname
      obtain ⟨before, hbefore, htext⟩ := exists_blanks behind
      unfold readFieldValue at hvalue
      split at hvalue
      · cases hvalue
      · next colon heq =>
          obtain ⟨between, written, hbetween, ⟨rfl, hwritten⟩, hcolon⟩ :=
            (Field.read_exact found).sound hvalue
          rw [heq, hcolon] at htext
          exact ⟨rfl, _, .named hquoted hbefore hbetween hwritten, by simp [htext]⟩
      · cases hvalue

theorem readMember_complete {member : List Char} (hmember : setting.Member member)
    (hmissing : setting.field ∈ missing) (hends : EndsNumber rest) :
    readMember missing (member ++ rest) = .ok ((setting.field, setting), rest) := by
  cases hmember with
  | @named name before between value _ hname hbefore hbetween hvalue =>
      have hread := (Field.read_exact setting.field).complete hbetween ⟨rfl, hvalue⟩ hends
      have hfield := readFieldName_complete hname hmissing
        (before ++ ':' :: (between ++ (value ++ rest)))
      have hcolon : readFieldValue setting.field (before ++ ':' :: (between ++ (value ++ rest))) =
          .ok (setting, rest) := by
        rw [readFieldValue, skipBlanks_append hbefore, skipBlanks_cons rfl]
        exact hread
      have htext : name ++ (before ++ ':' :: (between ++ value)) ++ rest =
          name ++ (before ++ ':' :: (between ++ (value ++ rest))) := by
        simp
      rw [htext, readMember, hfield]
      exact map_eq_ok_iff.mpr ⟨(setting, rest), hcolon, rfl⟩

/-- Whether settings are of different fields, all of them missing. -/
def Fill (settings : List Setting) (missing : List Field) : Prop :=
  (settings.map Setting.field).Nodup ∧ ∀ setting ∈ settings, setting.field ∈ missing

theorem fill_nil : Fill [] missing :=
  ⟨List.nodup_nil, nofun⟩

theorem fill_cons_iff (hmissing : missing.Nodup) :
    Fill (setting :: settings) missing ↔
      setting.field ∈ missing ∧ Fill settings (missing.erase setting.field) := by
  have hothers : (∀ other ∈ settings, other.field ∈ missing.erase setting.field) ↔
      setting.field ∉ settings.map Setting.field ∧
        ∀ other ∈ settings, other.field ∈ missing := by
    simp only [hmissing.mem_erase_iff, List.mem_map, not_exists, not_and]
    exact ⟨fun hall => ⟨fun other hother => (hall other hother).1,
      fun other hother => (hall other hother).2⟩,
      fun hboth other hother => ⟨hboth.1 other hother, hboth.2 other hother⟩⟩
  rw [Fill, Fill, hothers, List.map_cons, List.nodup_cons, List.forall_mem_cons]
  constructor
  · rintro ⟨⟨hnew, hdistinct⟩, hfield, hmem⟩
    exact ⟨hfield, hdistinct, hnew, hmem⟩
  · rintro ⟨hfield, hdistinct, hnew, hmem⟩
    exact ⟨⟨hnew, hdistinct⟩, hfield, hmem⟩

theorem Setting.Member.starts {member : List Char} (hmember : setting.Member member) :
    ∃ letters, member = '"' :: letters := by
  cases hmember with
  | named hname _ _ _ =>
      cases hname with
      | quotes _ => exact ⟨_, rfl⟩

theorem endsNumber_brace (rest : List Char) : EndsNumber ('\x7d' :: rest) :=
  endsNumber_cons rfl (by decide) rfl rest

theorem readMembers_sound {result : Config} (hmissing : missing.Nodup)
    (hread : readMembers missing config text = .ok (result, rest)) :
    ∃ body settings, Further Setting.Member body settings ∧ Fill settings missing ∧
      text = body ++ '\x7d' :: rest ∧ result = config.setAll settings := by
  -- Every member takes one of the missing fields away.
  induction hlength : missing.length using Nat.strongRecOn generalizing missing config text with
  | ind length ih =>
      subst hlength
      obtain ⟨before, hbefore, htext⟩ := exists_blanks text
      unfold readMembers at hread
      split at hread
      · cases hread
      · next behind heq =>
          obtain ⟨rfl, rfl⟩ := ok_inj.mp hread
          rw [heq] at htext
          exact ⟨before, [], .done hbefore, fill_nil, htext, rfl⟩
      · next behind heq =>
          split at hread
          · cases hread
          · next field setting after hmember =>
              obtain ⟨between, hbetween, hbehind⟩ := exists_blanks behind
              obtain ⟨rfl, member, hwritten, hskipped⟩ := readMember_sound hmember
              have hfield := mem_of_readMember hmember
              have hfewer : (missing.erase setting.field).length < missing.length := by
                rw [List.length_erase_of_mem hfield]
                exact Nat.sub_one_lt_of_lt (List.length_pos_of_mem hfield)
              obtain ⟨body, settings, hfurther, hfill, rfl, hresult⟩ :=
                ih _ hfewer (hmissing.erase _) hread rfl
              refine ⟨_, setting :: settings, .item hbefore hbetween hwritten hfurther,
                (fill_cons_iff hmissing).mpr ⟨hfield, hfill⟩, ?_, hresult⟩
              rw [htext, heq, hbehind, hskipped]
              simp
      · cases hread

theorem readMembers_comma {behind : List Char}
    (hcomma : skipBlanks text = ',' :: rest)
    (hmember : readMember missing (skipBlanks rest) = .ok ((field, setting), behind)) :
    readMembers missing config text =
      readMembers (missing.erase field) (config.set setting) behind := by
  rw [readMembers, hcomma]
  split
  · next heq => cases heq
  · next heq => cases heq
  · next heq =>
      obtain ⟨_, rfl⟩ := List.cons.inj heq
      split
      · next hread =>
          rw [hmember] at hread
          cases hread
      · next hread =>
          rw [hmember] at hread
          cases hread
          rfl
  · next hother => exact absurd rfl (hother _)

theorem readMembers_complete {body : List Char} (config : Config)
    (hfurther : Further Setting.Member body settings)
    (hmissing : missing.Nodup) (hfill : Fill settings missing) (rest : List Char) :
    readMembers missing config (body ++ '\x7d' :: rest) = .ok (config.setAll settings, rest) := by
  induction hfurther generalizing missing config with
  | done hblanks =>
      unfold readMembers
      rw [skipBlanks_append hblanks, skipBlanks_cons rfl]
      rfl
  | @item before between member further setting settings hbefore hbetween hitem hrest ih =>
      obtain ⟨hfield, hothers⟩ := (fill_cons_iff hmissing).mp hfill
      have hmember := readMember_complete hitem hfield (hrest.endsNumber (endsNumber_brace rest))
      have hfollowing := ih (config.set setting) (hmissing.erase setting.field) hothers
      obtain ⟨letters, rfl⟩ := hitem.starts
      have htext : before ++ ',' :: (between ++ ('"' :: letters ++ further)) ++ '\x7d' :: rest =
          before ++ ',' :: (between ++ ('"' :: letters ++ (further ++ '\x7d' :: rest))) := by
        simp
      have hcomma : skipBlanks (before ++ ',' :: (between ++ ('"' :: letters ++
          (further ++ '\x7d' :: rest)))) =
          ',' :: (between ++ ('"' :: letters ++ (further ++ '\x7d' :: rest))) := by
        rw [skipBlanks_append hbefore, skipBlanks_cons rfl]
      have hskip : skipBlanks (between ++ ('"' :: letters ++ (further ++ '\x7d' :: rest))) =
          '"' :: letters ++ (further ++ '\x7d' :: rest) := by
        rw [skipBlanks_append hbetween, List.cons_append, skipBlanks_cons rfl]
      rw [← hskip] at hmember
      rw [htext, readMembers_comma hcomma hmember, hfollowing]
      rfl

theorem Field.nodup_all : Field.all.Nodup := by
  decide

theorem readObject_sound (hread : readObject text = .ok (config, rest)) :
    ∃ body settings, Items Setting.Member body settings ∧
      (settings.map Setting.field).Nodup ∧ text = body ++ '\x7d' :: rest ∧
        config = setAll {} settings := by
  obtain ⟨before, hbefore, htext⟩ := exists_blanks text
  unfold readObject at hread
  split at hread
  · cases hread
  · next behind heq =>
      obtain ⟨rfl, rfl⟩ := ok_inj.mp hread
      rw [heq] at htext
      exact ⟨before, [], .none hbefore, List.nodup_nil, htext, rfl⟩
  · split at hread
    · cases hread
    · next field setting behind hmember =>
        obtain ⟨rfl, member, hwritten, hskipped⟩ := readMember_sound hmember
        have hfield := mem_of_readMember hmember
        obtain ⟨body, settings, hfurther, hfill, rfl, hresult⟩ :=
          readMembers_sound (Field.nodup_all.erase _) hread
        have hall := (fill_cons_iff Field.nodup_all).mpr ⟨hfield, hfill⟩
        refine ⟨_, setting :: settings, .first hbefore hwritten hfurther, hall.1, ?_, hresult⟩
        rw [htext, hskipped]
        simp

theorem readObject_complete {body : List Char} (hbody : Items Setting.Member body settings)
    (hdistinct : (settings.map Setting.field).Nodup) (rest : List Char) :
    readObject (body ++ '\x7d' :: rest) = .ok (setAll {} settings, rest) := by
  cases hbody with
  | none hblanks =>
      rw [readObject, skipBlanks_append hblanks, skipBlanks_cons rfl]
      rfl
  | @first before member further setting settings hbefore hitem hrest =>
      have hfill : Fill (setting :: settings) Field.all :=
        ⟨hdistinct, fun other _ => Field.mem_all other.field⟩
      obtain ⟨hfield, hothers⟩ := (fill_cons_iff Field.nodup_all).mp hfill
      have hmember := readMember_complete hitem hfield (hrest.endsNumber (endsNumber_brace rest))
      have hfollowing := readMembers_complete (set {} setting) hrest
        (Field.nodup_all.erase setting.field) hothers rest
      obtain ⟨letters, rfl⟩ := hitem.starts
      have hskip : skipBlanks (before ++ ('"' :: letters ++ further) ++ '\x7d' :: rest) =
          '"' :: letters ++ (further ++ '\x7d' :: rest) := by
        rw [List.append_assoc, skipBlanks_append hbefore, List.append_assoc, List.cons_append,
          skipBlanks_cons rfl]
      rw [readObject, hskip]
      split
      · next heq => cases heq
      · next heq => cases heq
      · rw [hmember]
        exact hfollowing

end StickyRouting.Config
