import StickyRouting.Proofs.Reading.Arrays
import StickyRouting.Proofs.Reading.Objects

/-!
# Configurations are read exactly

Reading accepts the texts of the language of configurations and no others, and yields the default
configuration with what the text gives.  What a text of zero streams asks for is refused only once
the whole text has been read.
-/

namespace StickyRouting.Config

open StickyRouting.Json

variable {text : List Char} {config : Config} {settings : List Setting}

theorem readConfig_exact :
    ReadsExactly readConfig fun text config =>
      ∃ settings, Gives text settings ∧ config.Takes settings where
  sound {text rest config} hread := by
    obtain ⟨before, hbefore, htext⟩ := exists_blanks text
    unfold readConfig at hread
    split at hread
    · cases hread
    · next behind heq =>
        obtain ⟨body, settings, hbody, hplaces, rfl, hconfig⟩ := readElements_first_sound hread
        have hgives : Gives ('[' :: (body ++ [']'])) settings := .array hbody hplaces
        rw [heq] at htext
        exact ⟨before, _, hbefore, ⟨settings, hgives, (takes_iff hgives.distinct).mpr hconfig⟩,
          by simp [htext]⟩
    · next behind heq =>
        obtain ⟨body, settings, hbody, hdistinct, rfl, hconfig⟩ := readObject_sound hread
        rw [heq] at htext
        exact ⟨before, _, hbefore,
          ⟨settings, .object (.braces hbody) hdistinct, (takes_iff hdistinct).mpr hconfig⟩,
          by simp [htext]⟩
    · cases hread
  complete {before written rest config} hbefore hwritten _ := by
    obtain ⟨settings, hgives, htakes⟩ := hwritten
    obtain rfl := (takes_iff hgives.distinct).mp htakes
    cases hgives with
    | array hbody hplaces =>
        rw [readConfig, skipBlanks_append hbefore, List.cons_append, skipBlanks_cons rfl,
          List.append_assoc]
        exact readElements_first_complete hbody hplaces rest
    | object hobject hdistinct =>
        cases hobject with
        | braces hbody =>
            rw [readConfig, skipBlanks_append hbefore, List.cons_append, skipBlanks_cons rfl,
              List.append_assoc]
            exact readObject_complete hbody hdistinct rest

theorem readAll_eq_ok_iff {text : String} :
    readAll text = .ok config ↔
      ∃ settings, Padded Gives text.toList settings ∧ config.Takes settings := by
  constructor
  · intro hread
    unfold readAll at hread
    split at hread
    · cases hread
    · next found rest hconfig =>
        obtain ⟨_, hfinish, rfl⟩ := map_eq_ok_iff.mp hread
        obtain ⟨before, value, hbefore, ⟨settings, hgives, htakes⟩, htext⟩ :=
          readConfig_exact.sound hconfig
        rw [htext]
        exact ⟨settings, .padded hbefore hgives (finish_eq_ok_iff.mp hfinish), htakes⟩
  · rintro ⟨settings, hpadded, htakes⟩
    unfold readAll
    generalize text.toList = characters at hpadded
    cases hpadded with
    | padded hbefore hgives hbehind =>
        rw [readConfig_exact.complete hbefore ⟨settings, hgives, htakes⟩ (.blanks hbehind)]
        exact map_eq_ok_iff.mpr ⟨(), finish_eq_ok_iff.mpr hbehind, rfl⟩

/-- No streams at all are set exactly where a text asks for them. -/
theorem Takes.maxStreams_eq_zero_iff (htakes : config.Takes settings) :
    config.maxStreams = 0 ↔ Setting.maxStreams 0 ∈ settings := by
  constructor
  · intro hzero
    by_cases hgiven : Field.maxStreams ∈ settings.map Setting.field
    · obtain ⟨setting, hsetting, hfield⟩ := List.mem_map.mp hgiven
      have hget := htakes.given setting hsetting
      rw [hfield, get, hzero] at hget
      rwa [hget]
    · have hget := htakes.kept .maxStreams hgiven
      rw [get, hzero] at hget
      cases hget
  · intro hzero
    exact Setting.maxStreams.inj (htakes.given _ hzero)

theorem validate_eq_ok_iff : config.validate = .ok () ↔ config.maxStreams ≠ 0 := by
  by_cases hzero : config.maxStreams = 0 <;> simp [validate, hzero]

theorem ofText_eq_ok_iff {text : String} :
    ofText text = .ok config ↔ readAll text = .ok config ∧ config.maxStreams ≠ 0 := by
  rw [← validate_eq_ok_iff, ofText]
  cases hread : readAll text with
  | error fault => simp
  | ok found =>
      constructor
      · intro hvalid
        obtain ⟨_, hvalidate, rfl⟩ := map_eq_ok_iff.mp hvalid
        exact ⟨rfl, hvalidate⟩
      · rintro ⟨hfound, hvalidate⟩
        obtain rfl : found = config := Except.ok.inj hfound
        exact map_eq_ok_iff.mpr ⟨(), hvalidate, rfl⟩

theorem Renders.gives {fields : List Field} (hrenders : Renders text config fields)
    (hdistinct : fields.Nodup) : Padded Gives text (fields.map config.get) := by
  have hfields : (fields.map config.get).map Setting.field = fields := by
    simp [Function.comp_def]
  cases hrenders with
  | padded hbefore hobject hbehind =>
      exact .padded hbefore (.object hobject (by rwa [hfields])) hbehind

theorem SpelledAll.plain {characters : List Char}
    (hplain : ∀ character ∈ characters, character ≠ '"' ∧ character ≠ '\\' ∧ ' ' ≤ character) :
    SpelledAll characters characters := by
  induction characters with
  | nil => exact .nil
  | cons character characters ih =>
      obtain ⟨⟨hquote, hbackslash, hcontrol⟩, hothers⟩ := List.forall_mem_cons.mp hplain
      exact .cons (.plain hquote hbackslash hcontrol) (ih hothers)

theorem Field.spelledAll_name (field : Field) :
    SpelledAll field.name.toList field.name.toList := by
  apply SpelledAll.plain
  cases field <;> simp [Field.name]

theorem exists_member (setting : Setting) : ∃ member, setting.Member member := by
  obtain ⟨value, hvalue⟩ : ∃ value, setting.Written value := by
    cases setting with
    | healthCheck enabled =>
        cases enabled with
        | true => exact ⟨_, .healthCheck .yes⟩
        | false => exact ⟨_, .healthCheck .no⟩
    | maxConnections limit =>
        obtain ⟨digits, hdigits⟩ := exists_numeral limit.toNat
        exact ⟨digits, .maxConnections hdigits⟩
    | maxStreams limit =>
        obtain ⟨digits, hdigits⟩ := exists_numeral limit.toNat
        exact ⟨digits, .maxStreams hdigits⟩
  exact ⟨_, .named (.quotes setting.field.spelledAll_name) Blanks.nil Blanks.nil hvalue⟩

theorem exists_further (settings : List Setting) :
    ∃ body, Further Setting.Member body settings := by
  induction settings with
  | nil => exact ⟨[], .done Blanks.nil⟩
  | cons setting settings ih =>
      obtain ⟨rest, hrest⟩ := ih
      obtain ⟨member, hmember⟩ := exists_member setting
      exact ⟨_, .item Blanks.nil Blanks.nil hmember hrest⟩

theorem exists_renders (config : Config) (fields : List Field) :
    ∃ text, Renders text config fields := by
  have hbody : ∃ body, Items Setting.Member body (fields.map config.get) := by
    cases fields.map config.get with
    | nil => exact ⟨[], .none Blanks.nil⟩
    | cons setting settings =>
        obtain ⟨member, hmember⟩ := exists_member setting
        obtain ⟨rest, hrest⟩ := exists_further settings
        exact ⟨_, .first Blanks.nil hmember hrest⟩
  obtain ⟨body, hitems⟩ := hbody
  exact ⟨_, .padded Blanks.nil (.braces hitems) Blanks.nil⟩

/-- A text is accepted exactly if it gives settings and does not ask for zero streams, and it is
read as the default configuration with these settings.  So a configuration that is written as an
object is read back, whatever fields at their defaults are left out, in whatever order and layout
the others are given and however their names are escaped; and every choice of fields can be written
in this way. -/
theorem ofText_exact (text : String) (config : Config) :
    (ofText text = .ok config ↔
        ∃ settings, Padded Gives text.toList settings ∧ Setting.maxStreams 0 ∉ settings ∧
          config.Takes settings) ∧
      (∀ fields : List Field, fields.Nodup →
        (∀ field, field ∉ fields → config.get field = get {} field) →
          0 < config.maxStreams → Renders text.toList config fields →
            ofText text = .ok config) ∧
      ∀ fields : List Field, ∃ rendering : String, Renders rendering.toList config fields := by
  refine ⟨?_, ?_, ?_⟩
  · rw [ofText_eq_ok_iff, readAll_eq_ok_iff]
    constructor
    · rintro ⟨⟨settings, hpadded, htakes⟩, hpositive⟩
      exact ⟨settings, hpadded, fun hzero => hpositive (htakes.maxStreams_eq_zero_iff.mpr hzero),
        htakes⟩
    · rintro ⟨settings, hpadded, hnonzero, htakes⟩
      exact ⟨⟨settings, hpadded, htakes⟩,
        fun hzero => hnonzero (htakes.maxStreams_eq_zero_iff.mp hzero)⟩
  · intro fields hdistinct hothers hpositive hrenders
    have hread := readAll_eq_ok_iff.mpr
      ⟨_, hrenders.gives hdistinct, takes_map_get hothers⟩
    exact ofText_eq_ok_iff.mpr ⟨hread, (UInt32.ne_of_lt hpositive).symm⟩
  · intro fields
    obtain ⟨rendering, hrenders⟩ := exists_renders config fields
    exact ⟨String.ofList rendering, by rwa [String.toList_ofList]⟩

/-- An escaped name, blanks, another order and a default that is given all the same leave what is
read as it is. -/
theorem ofText_exact_escaped :
    let text := " \x7b\"maxStreams\" : 7 ,\n\"\\u0068ealthCheck\":false,\"maxConnections\":10\x7d\t"
    let config : Config := { healthCheck := false, maxStreams := 7 }
    let fields : List Field := [.maxStreams, .healthCheck, .maxConnections]
    fields.Nodup ∧ (∀ field, field ∉ fields → config.get field = get {} field) ∧
      0 < config.maxStreams ∧ Renders text.toList config fields ∧ ofText text = .ok config := by
  intro text config fields
  have hdistinct : fields.Nodup := by decide
  have hothers : ∀ field, field ∉ fields → config.get field = get {} field := by
    intro field hfield
    cases field <;> exact absurd (by decide) hfield
  have hpositive : 0 < config.maxStreams := by decide
  have hblank : Blanks [' '] := by simp [Blanks, isBlank]
  have hstreams : Setting.Member "\"maxStreams\" : 7".toList (.maxStreams 7) := by
    have hname : Quoted _ "maxStreams" := .quotes (Field.spelledAll_name .maxStreams)
    have hvalue : Setting.Written ['7'] (.maxStreams 7) :=
      .maxStreams (.positive (by decide) (by simp))
    exact .named hname hblank hblank hvalue
  have hcheck : Setting.Member "\"\\u0068ealthCheck\":false".toList (.healthCheck false) := by
    have hzero : hexDigit? '0' = some 0 := by decide
    have hsix : hexDigit? '6' = some 6 := by decide
    have height : hexDigit? '8' = some 8 := by decide
    have hletter : Spelled ['\\', 'u', '0', '0', '6', '8'] 'h' :=
      .codePoint (.digits hzero hzero hsix height) rfl rfl
    have hletters : SpelledAll "ealthCheck".toList "ealthCheck".toList := by
      apply SpelledAll.plain
      simp
    have hspelled : SpelledAll _ "healthCheck".toList := .cons hletter hletters
    have hname : Quoted _ "healthCheck" := .quotes hspelled
    exact .named hname Blanks.nil Blanks.nil (.healthCheck .no)
  have hconnections : Setting.Member "\"maxConnections\":10".toList (.maxConnections 10) := by
    have hname : Quoted _ "maxConnections" := .quotes (Field.spelledAll_name .maxConnections)
    have hvalue : Setting.Written ['1', '0'] (.maxConnections 10) :=
      .maxConnections (.positive (by decide) (by simp))
    exact .named hname Blanks.nil Blanks.nil hvalue
  have hrenders : Renders text.toList config fields := by
    have hbehind : Blanks ['\t'] := by simp [Blanks, isBlank]
    have hline : Blanks ['\n'] := by simp [Blanks, isBlank]
    have hpadded : Padded Object _ (fields.map config.get) :=
      .padded hblank (.braces (.first Blanks.nil hstreams (.item hblank hline hcheck
        (.item Blanks.nil Blanks.nil hconnections (.done Blanks.nil))))) hbehind
    refine Eq.mp (congrArg (Padded Object · (fields.map config.get)) ?_) hpadded
    decide
  obtain ⟨_, hread, _⟩ := ofText_exact text config
  exact ⟨hdistinct, hothers, hpositive, hrenders,
    hread fields hdistinct hothers hpositive hrenders⟩

end StickyRouting.Config
