import StickyRouting.Config.Reader

/-!
# The language of configurations

What a text of a configuration looks like, stated on whole texts and without a reader.  Blanks,
strings with their escapes, integer literals and comma-separated items are those of JSON.  A text is
an object whose members name different fields, or an array that gives the fields in their order, and
it stands for the default configuration with the given settings in it.
-/

namespace StickyRouting.Json

def Blanks (text : List Char) : Prop :=
  ∀ character ∈ text, isBlank character

/-- The letters that follow a backslash, each with the character that it stands for. -/
def shortEscapes : List (Char × Char) :=
  [('"', '"'), ('\\', '\\'), ('/', '/'), ('b', '\x08'), ('f', '\x0c'), ('n', '\n'), ('r', '\r'),
    ('t', '\t')]

/-- Four hexadecimal digits and their value. -/
inductive CodeUnit : List Char → Nat → Prop
  | digits {first second third fourth : Char} {a b c d : Nat}
      (hfirst : hexDigit? first = some a) (hsecond : hexDigit? second = some b)
      (hthird : hexDigit? third = some c) (hfourth : hexDigit? fourth = some d) :
      CodeUnit [first, second, third, fourth] (((a * 16 + b) * 16 + c) * 16 + d)

/-- How one character of a string is written. -/
inductive Spelled : List Char → Char → Prop
  | plain {character : Char} (hquote : character ≠ '"') (hbackslash : character ≠ '\\')
      (hcontrol : ' ' ≤ character) : Spelled [character] character
  | short {letter character : Char} (hshort : (letter, character) ∈ shortEscapes) :
      Spelled ['\\', letter] character
  | codePoint {digits : List Char} {unit : Nat} (hdigits : CodeUnit digits unit)
      (hlead : isLeadSurrogate unit = false) (htrail : isTrailSurrogate unit = false) :
      Spelled ('\\' :: 'u' :: digits) (Char.ofNat unit)
  | pair {left right : List Char} {lead trail : Nat} (hleft : CodeUnit left lead)
      (hright : CodeUnit right trail) (hlead : isLeadSurrogate lead)
      (htrail : isTrailSurrogate trail) :
      Spelled ('\\' :: 'u' :: (left ++ '\\' :: 'u' :: right)) (joinSurrogates lead trail)

/-- How the characters of a string are written between its quotes. -/
inductive SpelledAll : List Char → List Char → Prop
  | nil : SpelledAll [] []
  | cons {piece text characters : List Char} {character : Char}
      (hfirst : Spelled piece character) (hrest : SpelledAll text characters) :
      SpelledAll (piece ++ text) (character :: characters)

inductive Quoted : List Char → String → Prop
  | quotes {body : List Char} {value : String} (hbody : SpelledAll body value.toList) :
      Quoted ('"' :: (body ++ ['"'])) value

inductive Flag : List Char → Bool → Prop
  | yes : Flag "true".toList true
  | no : Flag "false".toList false

/-- An integer literal without a sign, a fraction or an exponent. -/
inductive Numeral : List Char → Nat → Prop
  | zero : Numeral ['0'] 0
  | positive {first : Char} {digits : List Char} (hfirst : first ≠ '0')
      (hdigits : ∀ character ∈ first :: digits, character.isDigit) :
      Numeral (first :: digits) (digitsValue (first :: digits))

section Items

variable {α : Type} (Written : List Char → α → Prop)

/-- What stands behind an item: only blanks, or a comma and another item. -/
inductive Further : List Char → List α → Prop
  | done {blanks : List Char} (hblanks : Blanks blanks) : Further blanks []
  | item {before between text rest : List Char} {value : α} {values : List α}
      (hbefore : Blanks before) (hbetween : Blanks between) (hitem : Written text value)
      (hrest : Further rest values) :
      Further (before ++ ',' :: (between ++ (text ++ rest))) (value :: values)

/-- What stands between two brackets. -/
inductive Items : List Char → List α → Prop
  | none {blanks : List Char} (hblanks : Blanks blanks) : Items blanks []
  | first {before text rest : List Char} {value : α} {values : List α} (hbefore : Blanks before)
      (hitem : Written text value) (hrest : Further Written rest values) :
      Items (before ++ (text ++ rest)) (value :: values)

inductive Padded : List Char → α → Prop
  | padded {before text behind : List Char} {value : α} (hbefore : Blanks before)
      (hvalue : Written text value) (hbehind : Blanks behind) :
      Padded (before ++ (text ++ behind)) value

end Items

end StickyRouting.Json

namespace StickyRouting.Config

open StickyRouting.Json

def Setting.field : Setting → Field
  | .healthCheck _ => .healthCheck
  | .maxConnections _ => .maxConnections
  | .maxStreams _ => .maxStreams

inductive Setting.Written : List Char → Setting → Prop
  | healthCheck {text : List Char} {enabled : Bool} (hflag : Flag text enabled) :
      Written text (.healthCheck enabled)
  | maxConnections {text : List Char} {limit : UInt64} (hcount : Numeral text limit.toNat) :
      Written text (.maxConnections limit)
  | maxStreams {text : List Char} {limit : UInt32} (hcount : Numeral text limit.toNat) :
      Written text (.maxStreams limit)

/-- A setting as a member of an object. -/
inductive Setting.Member : List Char → Setting → Prop
  | named {name before between value : List Char} {setting : Setting}
      (hname : Quoted name setting.field.name) (hbefore : Blanks before)
      (hbetween : Blanks between) (hvalue : setting.Written value) :
      Member (name ++ (before ++ ':' :: (between ++ value))) setting

/-! ## Configurations -/

inductive Object : List Char → List Setting → Prop
  | braces {body : List Char} {settings : List Setting}
      (hbody : Items Setting.Member body settings) :
      Object ('\x7b' :: (body ++ ['\x7d'])) settings

/-- The settings that a text gives.  An object may name its fields in any order, but none of them
twice; an array gives the first fields, or all of them. -/
inductive Gives : List Char → List Setting → Prop
  | object {text : List Char} {settings : List Setting} (hobject : Object text settings)
      (hdistinct : (settings.map Setting.field).Nodup) : Gives text settings
  | array {body : List Char} {settings : List Setting}
      (hbody : Items Setting.Written body settings)
      (hplaces : settings.map Setting.field <+: Field.all) :
      Gives ('[' :: (body ++ [']'])) settings

def get (config : Config) : Field → Setting
  | .healthCheck => .healthCheck config.healthCheck
  | .maxConnections => .maxConnections config.maxConnections
  | .maxStreams => .maxStreams config.maxStreams

/-- Whether a configuration is the default one with the given settings in the place of its own. -/
structure Takes (config : Config) (settings : List Setting) : Prop where
  given : ∀ setting ∈ settings, config.get setting.field = setting
  kept : ∀ field : Field, field ∉ settings.map Setting.field →
    config.get field = get {} field

/-- Whether a text is an object that gives what a configuration has in some fields. -/
def Renders (text : List Char) (config : Config) (fields : List Field) : Prop :=
  Padded Object text (fields.map config.get)

variable {config : Config} {setting : Setting} {settings : List Setting} {field : Field}

@[simp] theorem field_get (config : Config) (field : Field) : (config.get field).field = field := by
  cases field <;> rfl

theorem eq_of_get {left right : Config} (hget : ∀ field, left.get field = right.get field) :
    left = right := by
  have hcheck := hget .healthCheck
  have hconnections := hget .maxConnections
  have hstreams := hget .maxStreams
  cases left
  cases right
  simp_all [get]

theorem get_set (config : Config) (setting : Setting) (field : Field) :
    (config.set setting).get field =
      if setting.field = field then setting else config.get field := by
  cases setting <;> cases field <;> rfl

theorem get_setAll_of_not_mem (config : Config) (hfield : field ∉ settings.map Setting.field) :
    (config.setAll settings).get field = config.get field := by
  induction settings generalizing config with
  | nil => rfl
  | cons setting settings ih =>
      rw [List.map_cons, List.mem_cons, not_or] at hfield
      have hrest := ih (config.set setting) hfield.2
      rw [get_set, if_neg (Ne.symm hfield.1)] at hrest
      exact hrest

/-- Settings of different fields all last. -/
theorem get_setAll_of_mem (config : Config) (hdistinct : (settings.map Setting.field).Nodup)
    (hsetting : setting ∈ settings) :
    (config.setAll settings).get setting.field = setting := by
  induction settings generalizing config with
  | nil => exact absurd hsetting List.not_mem_nil
  | cons first settings ih =>
      rw [List.map_cons, List.nodup_cons] at hdistinct
      rcases List.mem_cons.mp hsetting with rfl | hlater
      · have hkept := get_setAll_of_not_mem (config.set setting) hdistinct.1
        rw [get_set, if_pos rfl] at hkept
        exact hkept
      · exact ih (config.set first) hdistinct.2 hlater

theorem takes_iff (hdistinct : (settings.map Setting.field).Nodup) :
    config.Takes settings ↔ config = setAll {} settings := by
  constructor
  · intro htakes
    apply eq_of_get
    intro field
    by_cases hfield : field ∈ settings.map Setting.field
    · obtain ⟨setting, hsetting, rfl⟩ := List.mem_map.mp hfield
      rw [htakes.given setting hsetting, get_setAll_of_mem {} hdistinct hsetting]
    · rw [htakes.kept field hfield, get_setAll_of_not_mem {} hfield]
  · rintro rfl
    exact ⟨fun _ hsetting => get_setAll_of_mem {} hdistinct hsetting,
      fun _ hfield => get_setAll_of_not_mem {} hfield⟩

theorem Gives.distinct {text : List Char} (hgives : Gives text settings) :
    (settings.map Setting.field).Nodup := by
  cases hgives with
  | object _ hdistinct => exact hdistinct
  | array _ hplaces =>
      have hall : Field.all.Nodup := by decide
      exact hall.sublist hplaces.sublist

/-- What a configuration has in some fields makes it up if the others are the default ones. -/
theorem takes_map_get {fields : List Field}
    (hothers : ∀ field, field ∉ fields → config.get field = get {} field) :
    config.Takes (fields.map config.get) where
  given setting hsetting := by
    obtain ⟨field, _, rfl⟩ := List.mem_map.mp hsetting
    rw [field_get]
  kept field hfield := by
    apply hothers
    simpa using hfield

end StickyRouting.Config
