import StickyRouting.Json.Number

/-!
# Scalars of a wanted form

Readers for a truth value, a bounded count and a string. Where another value stands in the text
it is read in full first, so that a broken scalar is reported as broken; a sequence or a map is
refused at its opening bracket.
-/

namespace StickyRouting.Json

/-- What stands at the start of a text that begins with no blank. -/
def readFound : List Char → Except Fault Found
  | 'n' :: rest => (readWord "ull".toList rest).map fun _ => .null
  | 't' :: rest => (readWord "rue".toList rest).map fun _ => .flag true
  | 'f' :: rest => (readWord "alse".toList rest).map fun _ => .flag false
  | '"' :: rest => (readString rest).map fun read => .text (String.ofList read.1)
  | '[' :: _ => .ok .sequence
  | '\x7b' :: _ => .ok .map
  | [] => .error .malformed
  | character :: rest =>
      if startsNumber character then
        (readNumber (character :: rest)).map fun read => read.1.found
      else .error .malformed

def refuse (wanted : Wanted) (text : List Char) : Fault :=
  match readFound text with
  | .error fault => fault
  | .ok found => .mismatch (.invalidType found wanted)

def readFlag (text : List Char) : Reading Bool :=
  match skipBlanks text with
  | [] => .error .truncated
  | 't' :: rest => (readWord "rue".toList rest).map fun behind => (true, behind)
  | 'f' :: rest => (readWord "alse".toList rest).map fun behind => (false, behind)
  | other => .error (refuse .flag other)

/-- Reads an integer literal from zero up to `greatest`. -/
def readCount (wanted : Wanted) (greatest : Nat) (text : List Char) : Reading Nat :=
  match skipBlanks text with
  | [] => .error .truncated
  | character :: rest =>
      if startsNumber character then
        match readNumber (character :: rest) with
        | .error fault => .error fault
        | .ok (.natural value, behind) =>
            if value ≤ greatest then .ok (value, behind)
            else .error (.mismatch (.invalidValue value wanted))
        | .ok (.negative magnitude, _) =>
            .error (.mismatch (.invalidValue (-magnitude) wanted))
        | .ok (.real bits, _) => .error (.mismatch (.invalidType (.real bits) wanted))
      else .error (refuse wanted (character :: rest))

/-- Reads a text that holds one string and nothing else. -/
def parseString (text : String) : Except Fault String :=
  match skipBlanks text.toList with
  | [] => .error .truncated
  | '"' :: rest =>
      match readString rest with
      | .error fault => .error fault
      | .ok (characters, behind) => (finish behind).map fun _ => String.ofList characters
  | other => .error (refuse .text other)

end StickyRouting.Json
