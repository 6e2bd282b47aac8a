import StickyRouting.Json.Text

/-!
# Numbers of a JSON text

An integer literal that fits 64 bits is read exactly. Every other literal is read as a binary64
number: the leading digits are collected in a 64-bit significand for as long as they fit, the
places behind them only move the decimal exponent, and the significand is then multiplied or
divided once by a power of ten. A literal too large for binary64 is refused.
-/

namespace StickyRouting.Json

inductive Number where
  | natural (value : Nat)
  | negative (magnitude : Nat)
  | real (bits : UInt64)
  deriving DecidableEq, Repr

def Number.found : Number → Found
  | natural value => .integer value
  | negative magnitude => .integer (-magnitude)
  | real bits => .real bits

def greatestSignificand : Nat := UInt64.size - 1

def greatestExponent : Nat := 2147483647

def digit? (character : Char) : Option Nat :=
  if character.isDigit then some (character.toNat - '0'.toNat) else none

def startsWithDigit (text : List Char) : Bool :=
  text.head?.any Char.isDigit

/-- Collects digits behind `significand` while the result fits. Returns the significand, the
number of digits collected and the text behind them. -/
def collect (significand : Nat) : List Char → Nat × Nat × List Char
  | [] => (significand, 0, [])
  | character :: rest =>
      match digit? character with
      | none => (significand, 0, character :: rest)
      | some digit =>
          if greatestSignificand < significand * 10 + digit then
            (significand, 0, character :: rest)
          else
            let (result, count, behind) := collect (significand * 10 + digit) rest
            (result, count + 1, behind)

def digitsFrom (significand : Nat) (digits : List Char) : Nat :=
  digits.foldl (fun value character => value * 10 + (character.toNat - '0'.toNat)) significand

def digitsValue (digits : List Char) : Nat :=
  digitsFrom 0 digits

def powerOfTen (exponent : Nat) : Float :=
  Float.ofScientific 1 false exponent

/-- Divides by ten to `exponent` in steps that binary64 can hold. No significand survives more
than a few of them. -/
def scaleDown : Nat → Float → Nat → Float
  | 0, value, _ => value
  | steps + 1, value, exponent =>
      if exponent ≤ 308 then value / powerOfTen exponent
      else scaleDown steps (value / powerOfTen 308) (exponent - 308)

/-- The binary64 number for `significand * 10 ^ exponent`, unless it is too large. -/
def scale? (significand : Nat) (exponent : Int) : Option Float :=
  let value := significand.toUInt64.toFloat
  if significand = 0 then some value
  else if 0 ≤ exponent then
    if exponent ≤ 308 then
      let scaled := value * powerOfTen exponent.toNat
      if scaled.isInf then none else some scaled
    else none
  else some (scaleDown 4 value (-exponent).toNat)

def realNumber (isNegative : Bool) (value : Float) : Number :=
  .real (if isNegative then -value else value).toBits

def finishReal (isNegative : Bool) (significand : Nat) (exponent : Int) (text : List Char) :
    Reading Number :=
  match scale? significand exponent with
  | none => .error .malformed
  | some value => .ok (realNumber isNegative value, text)

/-- Reads the digits of an exponent and finishes the number. An exponent beyond every bound
makes the number zero or too large. -/
def readExponentDigits (isNegative : Bool) (significand : Nat) (exponent : Int)
    (exponentIsNegative : Bool) (text : List Char) : Reading Number :=
  match text with
  | [] => .error .truncated
  | first :: _ =>
      if !first.isDigit then .error .malformed
      else
        let written := digitsValue (text.takeWhile Char.isDigit)
        let rest := text.dropWhile Char.isDigit
        if greatestExponent < written then
          if significand ≠ 0 && !exponentIsNegative then .error .malformed
          else .ok (realNumber isNegative 0, rest)
        else
          let shift : Int := if exponentIsNegative then -written else written
          finishReal isNegative significand (exponent + shift) rest

def readExponent (isNegative : Bool) (significand : Nat) (exponent : Int) (text : List Char) :
    Reading Number :=
  match text with
  | '+' :: rest => readExponentDigits isNegative significand exponent false rest
  | '-' :: rest => readExponentDigits isNegative significand exponent true rest
  | _ => readExponentDigits isNegative significand exponent false text

def isExponentMark (character : Char) : Bool :=
  character = 'e' || character = 'E'

def finishFraction (isNegative : Bool) (significand : Nat) (exponent : Int)
    (text : List Char) : Reading Number :=
  match text with
  | mark :: rest =>
      if isExponentMark mark then readExponent isNegative significand exponent rest
      else finishReal isNegative significand exponent text
  | [] => finishReal isNegative significand exponent []

/-- Reads the places behind the point. There is at least one. -/
def readFraction (isNegative : Bool) (significand : Nat) (exponent : Int) (text : List Char) :
    Reading Number :=
  match text with
  | [] => .error .truncated
  | first :: _ =>
      if !first.isDigit then .error .malformed
      else
        let (collected, count, behind) := collect significand text
        finishFraction isNegative collected (exponent - count) (behind.dropWhile Char.isDigit)

/-- The number of an integer literal whose digits fit the significand. Minus zero and what is
below the least 64-bit integer have no exact form. -/
def integerNumber (isNegative : Bool) (significand : Nat) : Number :=
  if !isNegative then .natural significand
  else if significand = 0 || 0x8000000000000000 < significand then
    realNumber true significand.toUInt64.toFloat
  else .negative significand

/-- Reads what follows the integer digits. `skipped` counts the digits that did not fit the
significand. -/
def finishInteger (isNegative : Bool) (significand skipped : Nat) (text : List Char) :
    Reading Number :=
  match text with
  | '.' :: rest => readFraction isNegative significand skipped rest
  | mark :: rest =>
      if isExponentMark mark then readExponent isNegative significand skipped rest
      else if skipped = 0 then .ok (integerNumber isNegative significand, text)
      else finishReal isNegative significand skipped text
  | [] =>
      if skipped = 0 then .ok (integerNumber isNegative significand, [])
      else finishReal isNegative significand skipped []

/-- Reads a number behind its sign. A leading zero stands alone. -/
def readMagnitude (isNegative : Bool) (text : List Char) : Reading Number :=
  match text with
  | [] => .error .truncated
  | '0' :: rest =>
      if startsWithDigit rest then .error .malformed else finishInteger isNegative 0 0 rest
  | first :: _ =>
      if !first.isDigit then .error .malformed
      else
        let (significand, _, behind) := collect 0 text
        let skipped := behind.takeWhile Char.isDigit
        finishInteger isNegative significand skipped.length (behind.dropWhile Char.isDigit)

def startsNumber (character : Char) : Bool :=
  character = '-' || character.isDigit

def readNumber (text : List Char) : Reading Number :=
  match text with
  | '-' :: rest => readMagnitude true rest
  | _ => readMagnitude false text

end StickyRouting.Json
