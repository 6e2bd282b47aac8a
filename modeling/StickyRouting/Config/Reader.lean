import StickyRouting.Config
import StickyRouting.Json.Scalar

/-!
# Reading a configuration

A configuration is written as a JSON object with any of three fields, each at most once, or as
an array that gives the fields by position. A field that is not given keeps its default. The
text is read from left to right and the first fault decides; a field name is judged before the
colon behind it, and the settings are validated only after the whole text has been read.
-/

namespace StickyRouting.Config

open StickyRouting.Json

inductive Field where
  | healthCheck
  | maxConnections
  | maxStreams
  deriving DecidableEq, Repr

namespace Field

/-- The fields in the order in which an array gives them. -/
def all : List Field := [healthCheck, maxConnections, maxStreams]

def name : Field → String
  | healthCheck => "healthCheck"
  | maxConnections => "maxConnections"
  | maxStreams => "maxStreams"

def ofName? (name : String) : Option Field :=
  all.find? fun field => field.name = name

def read (field : Field) (text : List Char) : Reading Setting :=
  match field with
  | healthCheck => (readFlag text).map fun (enabled, rest) => (.healthCheck enabled, rest)
  | maxConnections =>
      (readCount .count64 (UInt64.size - 1) text).map fun (limit, rest) =>
        (.maxConnections limit.toUInt64, rest)
  | maxStreams =>
      (readCount .count32 (UInt32.size - 1) text).map fun (limit, rest) =>
        (.maxStreams limit.toUInt32, rest)

end Field

/-- Reads a field name at its opening quote and judges it. -/
def readFieldName (missing : List Field) (text : List Char) : Reading Field :=
  match text with
  | [] => .error .truncated
  | '"' :: rest =>
      match readString rest with
      | .error fault => .error fault
      | .ok (characters, behind) =>
          match Field.ofName? (String.ofList characters) with
          | none =>
              .error (.mismatch
                (.unknownField (String.ofList characters) (Field.all.map Field.name)))
          | some field =>
              if field ∈ missing then .ok (field, behind)
              else .error (.mismatch (.duplicateField field.name))
  | _ => .error .malformed

def readFieldValue (field : Field) (text : List Char) : Reading Setting :=
  match skipBlanks text with
  | [] => .error .truncated
  | ':' :: rest => field.read rest
  | _ => .error .malformed

def readMember (missing : List Field) (text : List Char) : Reading (Field × Setting) :=
  match readFieldName missing text with
  | .error fault => .error fault
  | .ok (field, behind) =>
      (readFieldValue field behind).map fun (setting, rest) => ((field, setting), rest)

theorem mem_of_readFieldName {missing : List Field} {text rest : List Char} {field : Field}
    (hread : readFieldName missing text = .ok (field, rest)) : field ∈ missing := by
  unfold readFieldName at hread
  split at hread
  · cases hread
  · split at hread
    · cases hread
    · split at hread
      · cases hread
      · split at hread
        · next hmissing =>
            obtain ⟨rfl, _⟩ := ok_inj.mp hread
            exact hmissing
        · cases hread
  · cases hread

theorem mem_of_readMember {missing : List Field} {text rest : List Char} {field : Field}
    {setting : Setting} (hread : readMember missing text = .ok ((field, setting), rest)) :
    field ∈ missing := by
  unfold readMember at hread
  split at hread
  · cases hread
  · next found behind hname =>
      obtain ⟨_, _, hpair⟩ := map_eq_ok_iff.mp hread
      obtain ⟨hmember, rfl⟩ := Prod.mk.inj hpair
      obtain ⟨rfl, rfl⟩ := Prod.mk.inj hmember
      exact mem_of_readFieldName hname

/-- Reads the members of an object behind the first one, up to the closing brace. Each takes one
of the missing fields. -/
def readMembers (missing : List Field) (config : Config) (text : List Char) : Reading Config :=
  match skipBlanks text with
  | [] => .error .truncated
  | '\x7d' :: rest => .ok (config, rest)
  | ',' :: rest =>
      match _ : readMember missing (skipBlanks rest) with
      | .error fault => .error fault
      | .ok ((field, setting), behind) =>
          readMembers (missing.erase field) (config.set setting) behind
  | _ => .error .malformed
termination_by missing.length
decreasing_by
  rw [List.length_erase_of_mem (mem_of_readMember ‹_›)]
  exact Nat.sub_one_lt_of_lt (List.length_pos_of_mem (mem_of_readMember ‹_›))

def readObject (text : List Char) : Reading Config :=
  match skipBlanks text with
  | [] => .error .truncated
  | '\x7d' :: rest => .ok ({}, rest)
  | first =>
      match readMember Field.all first with
      | .error fault => .error fault
      | .ok ((field, setting), behind) =>
          readMembers (Field.all.erase field) (Config.set {} setting) behind

/-- Reads the closing bracket of an array in which every field has been given or left out. -/
def readArrayEnd (config : Config) (text : List Char) : Reading Config :=
  match skipBlanks text with
  | [] => .error .truncated
  | ']' :: rest => .ok (config, rest)
  | _ => .error .malformed

/-- Where the next element of an array starts; nothing at its closing bracket. Elements are
separated by one comma, and none stands before the bracket. -/
def nextElement (isFirst : Bool) (text : List Char) : Except Fault (Option (List Char)) :=
  match skipBlanks text with
  | [] => .error .truncated
  | ']' :: _ => .ok none
  | other =>
      if isFirst then .ok (some other)
      else
        match other with
        | ',' :: rest =>
            match skipBlanks rest with
            | [] => .error .truncated
            | ']' :: _ => .error .malformed
            | element => .ok (some element)
        | _ => .error .malformed

def readElements : Bool → List Field → Config → List Char → Reading Config
  | _, [], config, text => readArrayEnd config text
  | isFirst, field :: missing, config, text =>
      match nextElement isFirst text with
      | .error fault => .error fault
      | .ok none => readArrayEnd config text
      | .ok (some element) =>
          match field.read element with
          | .error fault => .error fault
          | .ok (setting, behind) => readElements false missing (config.set setting) behind

def readConfig (text : List Char) : Reading Config :=
  match skipBlanks text with
  | [] => .error .truncated
  | '[' :: rest => readElements true Field.all {} rest
  | '\x7b' :: rest => readObject rest
  | other => .error (refuse .config other)

/-- Reads a text that holds one configuration and nothing else. -/
def readAll (text : String) : Except Fault Config :=
  match readConfig text.toList with
  | .error fault => .error fault
  | .ok (config, rest) => (finish rest).map fun _ => config

def ofText (text : String) : Except Error Config :=
  match readAll text with
  | .error fault => .error (.json fault)
  | .ok config => config.validate.map fun _ => config

/-- A step in drafting a configuration: it is replaced by one that is read from a text, or one
setting is changed. -/
inductive DraftStep where
  | replace (text : String)
  | set (setting : Setting)
  deriving DecidableEq

def draftStep (config : Config) : DraftStep → Except Error Config
  | .replace text => ofText text
  | .set setting => .ok (config.set setting)

def draft (steps : List DraftStep) : Except Error Config :=
  steps.foldlM draftStep {}

end StickyRouting.Config
