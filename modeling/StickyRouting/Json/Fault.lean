import StickyRouting.Decimal.Layout
import StickyRouting.Text.Quoted

/-!
# Why a JSON text is refused

A text that is read for a value of a known form is refused for one of three reasons: it is not
JSON, it ends too early, or it is JSON of another form than the wanted one. Only the last
reason carries a message, which says what was found and what was wanted.
-/

namespace StickyRouting.Json

/-- The forms that a reader can ask for. -/
inductive Wanted where
  | text
  | flag
  | count32
  | count64
  | config
  deriving DecidableEq, Repr

def Wanted.describe : Wanted → String
  | text => "a string"
  | flag => "a boolean"
  | count32 => "u32"
  | count64 => "usize"
  | config => "struct BalancerConfig"

/-- What stands in the text. A number that is not an integer of 64 bits is given by the bits of
the binary64 number nearest to it. -/
inductive Found where
  | null
  | flag (value : Bool)
  | integer (value : Int)
  | real (bits : UInt64)
  | text (value : String)
  | sequence
  | map
  deriving DecidableEq, Repr

def Found.describe : Found → String
  | null => "null"
  | flag value => "boolean \x60" ++ (if value then "true" else "false") ++ "\x60"
  | integer value => "integer \x60" ++ toString value ++ "\x60"
  | real bits => "floating point \x60" ++ Decimal.messageLayout.write bits ++ "\x60"
  | text value => "string " ++ Text.quoted value
  | sequence => "sequence"
  | map => "map"

inductive Mismatch where
  | invalidType (found : Found) (wanted : Wanted)
  | invalidValue (value : Int) (wanted : Wanted)
  | unknownField (name : String) (known : List String)
  | duplicateField (name : String)
  deriving DecidableEq, Repr

def Mismatch.message : Mismatch → String
  | invalidType found wanted =>
      "invalid type: " ++ found.describe ++ ", expected " ++ wanted.describe
  | invalidValue value wanted =>
      "invalid value: " ++ (Found.integer value).describe ++ ", expected " ++ wanted.describe
  | unknownField name known =>
      "unknown field \x60" ++ name ++ "\x60, expected one of " ++
        ", ".intercalate (known.map fun field => "\x60" ++ field ++ "\x60")
  | duplicateField name => "duplicate field \x60" ++ name ++ "\x60"

inductive Fault where
  | malformed
  | truncated
  | mismatch (cause : Mismatch)
  deriving DecidableEq, Repr

end StickyRouting.Json
