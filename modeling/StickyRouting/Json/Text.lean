import StickyRouting.Json.Fault

/-!
# Blanks, words and strings of a JSON text

The readers of this module take the characters that are still to be read and return what they
read together with the characters behind it. A reader stops at the first character that cannot
continue; a text that ends before that is truncated.
-/

namespace StickyRouting.Json

/-- What a reader of `α` yields on the characters still to be read. -/
abbrev Reading (α : Type) := Except Fault (α × List Char)

def isBlank (character : Char) : Bool :=
  character = ' ' || character = '\t' || character = '\n' || character = '\r'

def skipBlanks (text : List Char) : List Char :=
  text.dropWhile isBlank

/-- Accepts the end of the text after blanks, and nothing else. -/
def finish (text : List Char) : Except Fault Unit :=
  if (skipBlanks text).isEmpty then .ok () else .error .malformed

def readWord : List Char → List Char → Except Fault (List Char)
  | [], text => .ok text
  | _ :: _, [] => .error .truncated
  | expected :: word, character :: text =>
      if character = expected then readWord word text else .error .malformed

def hexDigit? (character : Char) : Option Nat :=
  if '0' ≤ character ∧ character ≤ '9' then some (character.toNat - '0'.toNat)
  else if 'a' ≤ character ∧ character ≤ 'f' then some (character.toNat - 'a'.toNat + 10)
  else if 'A' ≤ character ∧ character ≤ 'F' then some (character.toNat - 'A'.toNat + 10)
  else none

/-- Reads four hexadecimal digits. Fewer than four bytes cannot hold them, so there the text
ends too early whatever the bytes are. -/
def readUnit : List Char → Reading Nat
  | first :: second :: third :: fourth :: rest =>
      match hexDigit? first, hexDigit? second, hexDigit? third, hexDigit? fourth with
      | some a, some b, some c, some d => .ok (((a * 16 + b) * 16 + c) * 16 + d, rest)
      | _, _, _, _ => .error .malformed
  | short =>
      if (String.ofList short).utf8ByteSize < 4 then .error .truncated else .error .malformed

def isLeadSurrogate (unit : Nat) : Bool :=
  0xD800 ≤ unit && unit ≤ 0xDBFF

def isTrailSurrogate (unit : Nat) : Bool :=
  0xDC00 ≤ unit && unit ≤ 0xDFFF

def joinSurrogates (lead trail : Nat) : Char :=
  Char.ofNat ((lead - 0xD800) * 0x400 + (trail - 0xDC00) + 0x10000)

/-- Reads the second half of a pair of surrogates, with its own escape in front. -/
def readTrail (lead : Nat) : List Char → Reading Char
  | [] => .error .truncated
  | ['\\'] => .error .truncated
  | '\\' :: 'u' :: text =>
      match readUnit text with
      | .error fault => .error fault
      | .ok (trail, rest) =>
          if isTrailSurrogate trail then .ok (joinSurrogates lead trail, rest)
          else .error .malformed
  | _ => .error .malformed

/-- Reads the digits of a `\u` escape. Surrogates are accepted in pairs only. -/
def readCodePoint (text : List Char) : Reading Char :=
  match readUnit text with
  | .error fault => .error fault
  | .ok (unit, rest) =>
      if isTrailSurrogate unit then .error .malformed
      else if isLeadSurrogate unit then readTrail unit rest
      else .ok (Char.ofNat unit, rest)

/-- The character that a letter stands for behind a backslash. -/
def shortEscape? : Char → Option Char
  | '"' => some '"'
  | '\\' => some '\\'
  | '/' => some '/'
  | 'b' => some '\x08'
  | 'f' => some '\x0c'
  | 'n' => some '\n'
  | 'r' => some '\r'
  | 't' => some '\t'
  | _ => none

def readEscape : List Char → Reading Char
  | [] => .error .truncated
  | letter :: rest =>
      if letter = 'u' then readCodePoint rest
      else
        match shortEscape? letter with
        | some character => .ok (character, rest)
        | none => .error .malformed

theorem ok_inj {α : Type} {left right : α} {rest other : List Char} :
    (Except.ok (left, rest) : Reading α) = .ok (right, other) ↔ left = right ∧ rest = other := by
  simp

theorem map_eq_ok_iff {ε α β : Type} {outcome : Except ε α} {change : α → β} {result : β} :
    outcome.map change = .ok result ↔ ∃ value, outcome = .ok value ∧ change value = result := by
  cases outcome <;> simp [Except.map]

theorem readUnit_length {text rest : List Char} {unit : Nat}
    (hread : readUnit text = .ok (unit, rest)) : rest.length < text.length := by
  unfold readUnit at hread
  split at hread
  · split at hread
    · obtain ⟨_, rfl⟩ := ok_inj.mp hread
      simp only [List.length_cons]
      omega
    · cases hread
  · split at hread <;> cases hread

theorem readTrail_length {lead : Nat} {text rest : List Char} {character : Char}
    (hread : readTrail lead text = .ok (character, rest)) : rest.length < text.length := by
  unfold readTrail at hread
  split at hread
  · cases hread
  · cases hread
  · split at hread
    · cases hread
    · next trail behind hunit =>
        have hshorter := readUnit_length hunit
        split at hread
        · obtain ⟨_, rfl⟩ := ok_inj.mp hread
          simp only [List.length_cons]
          omega
        · cases hread
  · cases hread

theorem readCodePoint_length {text rest : List Char} {character : Char}
    (hread : readCodePoint text = .ok (character, rest)) : rest.length < text.length := by
  unfold readCodePoint at hread
  split at hread
  · cases hread
  · next unit behind hunit =>
      have hshorter := readUnit_length hunit
      split at hread
      · cases hread
      · split at hread
        · exact Nat.lt_trans (readTrail_length hread) hshorter
        · obtain ⟨_, rfl⟩ := ok_inj.mp hread
          exact hshorter

theorem readEscape_length {text rest : List Char} {character : Char}
    (hread : readEscape text = .ok (character, rest)) : rest.length < text.length := by
  cases text with
  | nil => cases hread
  | cons letter text =>
      rw [readEscape] at hread
      split at hread
      · exact Nat.lt_succ_of_lt (readCodePoint_length hread)
      · split at hread
        · obtain ⟨_, rfl⟩ := ok_inj.mp hread
          exact Nat.lt_succ_self _
        · cases hread

def prepend (character : Char) (reading : Reading (List Char)) : Reading (List Char) :=
  reading.map fun (characters, rest) => (character :: characters, rest)

/-- Reads the characters of a string up to its closing quote. Control characters have to be
escaped. -/
def readString (text : List Char) : Reading (List Char) :=
  match text with
  | [] => .error .truncated
  | '"' :: rest => .ok ([], rest)
  | '\\' :: rest =>
      match _ : readEscape rest with
      | .error fault => .error fault
      | .ok (character, behind) => prepend character (readString behind)
  | character :: rest =>
      if character < ' ' then .error .malformed else prepend character (readString rest)
termination_by text.length
decreasing_by
  · exact Nat.lt_succ_of_lt (readEscape_length ‹_›)
  · exact Nat.lt_succ_self _

theorem readString_nil : readString [] = .error .truncated := by
  rw [readString]

theorem readString_quote (rest : List Char) : readString ('"' :: rest) = .ok ([], rest) := by
  rw [readString]

theorem readString_escape (rest : List Char) :
    readString ('\\' :: rest) =
      match readEscape rest with
      | .error fault => .error fault
      | .ok (character, behind) => prepend character (readString behind) := by
  rw [readString]
  split <;> simp_all

theorem readString_plain {character : Char} (hquote : character ≠ '"')
    (hbackslash : character ≠ '\\') (rest : List Char) :
    readString (character :: rest) =
      if character < ' ' then .error .malformed else prepend character (readString rest) := by
  rw [readString.eq_def]
  split
  · next heq => cases heq
  · next heq => exact absurd (List.cons.inj heq).1 hquote
  · next heq => exact absurd (List.cons.inj heq).1 hbackslash
  · next heq =>
      obtain ⟨rfl, rfl⟩ := List.cons.inj heq
      rfl

end StickyRouting.Json
