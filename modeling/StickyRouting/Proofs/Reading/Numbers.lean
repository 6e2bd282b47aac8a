import StickyRouting.Proofs.Reading.Strings

/-!
# Numbers are read exactly

A number does not show its own end, so it is read exactly only where no digit, point or exponent
follows.  Of the forms of a number only the integer literal without a sign yields a natural one: a
fraction, an exponent or more digits than fit 64 bits make it real, and a sign makes it negative or
real.
-/

namespace StickyRouting.Json

variable {text rest : List Char}

theorem digitsFrom_cons (significand : Nat) (character : Char) (digits : List Char) :
    digitsFrom significand (character :: digits) =
      digitsFrom (significand * 10 + (character.toNat - '0'.toNat)) digits := by
  rw [digitsFrom, List.foldl_cons, digitsFrom]

theorem digitsValue_concat (digits : List Char) (character : Char) :
    digitsValue (digits ++ [character]) =
      digitsValue digits * 10 + (character.toNat - '0'.toNat) := by
  rw [digitsValue, digitsFrom, List.foldl_append, List.foldl_cons, List.foldl_nil, digitsValue,
    digitsFrom]

theorem le_digitsFrom (significand : Nat) (digits : List Char) :
    significand ≤ digitsFrom significand digits := by
  induction digits generalizing significand with
  | nil => exact Nat.le_refl _
  | cons character digits ih =>
      have hrest := ih (significand * 10 + (character.toNat - '0'.toNat))
      rw [digitsFrom_cons]
      omega

theorem digit?_eq_some {character : Char} (hdigit : character.isDigit) :
    digit? character = some (character.toNat - '0'.toNat) :=
  if_pos hdigit

theorem digit?_eq_none {character : Char} (hdigit : character.isDigit = false) :
    digit? character = none :=
  if_neg (by simp [hdigit])

/-- What is collected is the value of the leading digits up to some place. -/
theorem collect_sound (significand : Nat) (text : List Char) :
    ∃ digits, (∀ character ∈ digits, character.isDigit) ∧
      text = digits ++ (collect significand text).2.2 ∧
        (collect significand text).1 = digitsFrom significand digits := by
  induction text generalizing significand with
  | nil => exact ⟨[], nofun, rfl, rfl⟩
  | cons character text ih =>
      by_cases hdigit : character.isDigit
      · by_cases hfits : greatestSignificand < significand * 10 + (character.toNat - '0'.toNat)
        · simp only [collect, digit?_eq_some hdigit, if_pos hfits]
          exact ⟨[], nofun, rfl, rfl⟩
        · obtain ⟨digits, hdigits, htext, hvalue⟩ :=
            ih (significand * 10 + (character.toNat - '0'.toNat))
          simp only [collect, digit?_eq_some hdigit, if_neg hfits]
          refine ⟨character :: digits, ?_, ?_, hvalue⟩
          · exact List.forall_mem_cons.mpr ⟨hdigit, hdigits⟩
          · rw [List.cons_append, ← htext]
      · simp only [collect, digit?_eq_none (Bool.not_eq_true _ ▸ hdigit)]
        exact ⟨[], nofun, rfl, rfl⟩

theorem collect_complete {significand : Nat} {digits : List Char}
    (hdigits : ∀ character ∈ digits, character.isDigit)
    (hfits : digitsFrom significand digits ≤ greatestSignificand)
    (hrest : startsWithDigit rest = false) :
    collect significand (digits ++ rest) =
      (digitsFrom significand digits, digits.length, rest) := by
  induction digits generalizing significand with
  | nil =>
      cases rest with
      | nil => rfl
      | cons character rest =>
          have hcharacter : character.isDigit = false := by
            simpa [startsWithDigit] using hrest
          simp [collect, digit?_eq_none hcharacter, digitsFrom]
  | cons character digits ih =>
      obtain ⟨hdigit, hothers⟩ := List.forall_mem_cons.mp hdigits
      -- A value only grows by further digits, so no digit before the last one is too many.
      have hle := le_digitsFrom (significand * 10 + (character.toNat - '0'.toNat)) digits
      have hcollected := ih hothers hfits
      rw [digitsFrom_cons] at hfits ⊢
      rw [List.cons_append, collect, digit?_eq_some hdigit]
      simp only [hcollected, if_neg (Nat.not_lt.mpr (hle.trans hfits)), List.length_cons]

section Real

variable {isNegative : Bool} {significand value : Nat} {exponent : Int}

theorem finishReal_ne_natural :
    finishReal isNegative significand exponent text ≠ .ok (.natural value, rest) := by
  unfold finishReal
  split <;> simp [realNumber]

theorem readExponentDigits_ne_natural {exponentIsNegative : Bool} :
    readExponentDigits isNegative significand exponent exponentIsNegative text ≠
      .ok (.natural value, rest) := by
  cases text with
  | nil => nofun
  | cons first text =>
      simp only [readExponentDigits]
      split
      · nofun
      · split
        · split <;> simp [realNumber]
        · exact finishReal_ne_natural

theorem readExponent_ne_natural :
    readExponent isNegative significand exponent text ≠ .ok (.natural value, rest) := by
  unfold readExponent
  split <;> exact readExponentDigits_ne_natural

theorem finishFraction_ne_natural :
    finishFraction isNegative significand exponent text ≠ .ok (.natural value, rest) := by
  unfold finishFraction
  split
  · split
    · exact readExponent_ne_natural
    · exact finishReal_ne_natural
  · exact finishReal_ne_natural

theorem readFraction_ne_natural :
    readFraction isNegative significand exponent text ≠ .ok (.natural value, rest) := by
  cases text with
  | nil => nofun
  | cons first text =>
      simp only [readFraction]
      split
      · nofun
      · exact finishFraction_ne_natural

theorem integerNumber_eq_natural :
    integerNumber isNegative significand = .natural value ↔
      isNegative = false ∧ value = significand := by
  cases isNegative with
  | false => simp [integerNumber, eq_comm]
  | true =>
      simp only [integerNumber, Bool.not_true, Bool.false_eq_true, if_false]
      split <;> simp [realNumber]

theorem finishInteger_sound {skipped : Nat}
    (hread : finishInteger isNegative significand skipped text = .ok (.natural value, rest)) :
    isNegative = false ∧ skipped = 0 ∧ value = significand ∧ rest = text := by
  have hwhole (behind : List Char)
      (hread : (if skipped = 0 then .ok (integerNumber isNegative significand, behind)
        else finishReal isNegative significand skipped behind : Reading Number) =
          .ok (.natural value, rest)) :
      isNegative = false ∧ skipped = 0 ∧ value = significand ∧ rest = behind := by
    split at hread
    · next hskipped =>
        obtain ⟨hnumber, hrest⟩ := ok_inj.mp hread
        obtain ⟨hsign, hvalue⟩ := integerNumber_eq_natural.mp hnumber
        exact ⟨hsign, hskipped, hvalue, hrest.symm⟩
    · exact absurd hread finishReal_ne_natural
  unfold finishInteger at hread
  split at hread
  · exact absurd hread readFraction_ne_natural
  · split at hread
    · exact absurd hread readExponent_ne_natural
    · exact hwhole _ hread
  · exact hwhole _ hread

end Real

/-- Whether a number cannot go on where a text begins. -/
def EndsNumber (text : List Char) : Prop :=
  ∀ character ∈ text.head?,
    character.isDigit = false ∧ character ≠ '.' ∧ isExponentMark character = false

theorem endsNumber_cons {character : Char} (hdigit : character.isDigit = false)
    (hpoint : character ≠ '.') (hexponent : isExponentMark character = false)
    (text : List Char) : EndsNumber (character :: text) := by
  intro first hfirst
  obtain rfl : character = first := Option.some.inj hfirst
  exact ⟨hdigit, hpoint, hexponent⟩

theorem EndsNumber.startsWithDigit (hends : EndsNumber text) : startsWithDigit text = false := by
  cases text with
  | nil => rfl
  | cons character text => exact (hends character rfl).1

theorem EndsNumber.blanks_append {before : List Char} (hbefore : Blanks before)
    (hends : EndsNumber text) : EndsNumber (before ++ text) := by
  cases before with
  | nil => exact hends
  | cons blank before =>
      have hblank := hbefore blank List.mem_cons_self
      simp only [isBlank, Bool.or_eq_true, decide_eq_true_eq] at hblank
      rcases hblank with ((rfl | rfl) | rfl) | rfl <;>
        exact endsNumber_cons rfl (by decide) rfl _

theorem EndsNumber.blanks {blanks : List Char} (hblanks : Blanks blanks) :
    EndsNumber blanks := by
  have hnil : EndsNumber [] := nofun
  have hends := hnil.blanks_append hblanks
  rwa [List.append_nil] at hends

theorem Further.endsNumber {α : Type} {Written : List Char → α → Prop} {body : List Char}
    {values : List α} (hfurther : Further Written body values) (hends : EndsNumber rest) :
    EndsNumber (body ++ rest) := by
  cases hfurther with
  | done hblanks => exact hends.blanks_append hblanks
  | item hbefore _ _ _ =>
      rw [List.append_assoc]
      exact .blanks_append hbefore (endsNumber_cons rfl (by decide) rfl _)

theorem EndsNumber.digits_eq_nil (hends : EndsNumber text) :
    text.takeWhile Char.isDigit = [] ∧ text.dropWhile Char.isDigit = text := by
  cases text with
  | nil => exact ⟨rfl, rfl⟩
  | cons character text =>
      have hdigit := (hends character rfl).1
      simp [hdigit]

theorem finishInteger_complete (hends : EndsNumber text) (significand : Nat) :
    finishInteger false significand 0 text = .ok (.natural significand, text) := by
  cases text with
  | nil => rfl
  | cons character text =>
      obtain ⟨_, hpoint, hexponent⟩ := hends character rfl
      unfold finishInteger
      split
      · next heq =>
          cases heq
          exact absurd rfl hpoint
      · next heq =>
          cases heq
          simp [hexponent, integerNumber]
      · next heq => cases heq

theorem readMagnitude_sound {isNegative : Bool} {value : Nat}
    (hread : readMagnitude isNegative text = .ok (.natural value, rest)) :
    isNegative = false ∧ ∃ digits, Numeral digits value ∧ text = digits ++ rest := by
  unfold readMagnitude at hread
  split at hread
  · cases hread
  · split at hread
    · cases hread
    · obtain ⟨hsign, _, rfl, rfl⟩ := finishInteger_sound hread
      exact ⟨hsign, ['0'], .zero, rfl⟩
  · next first behind hzero =>
      split at hread
      · cases hread
      · next hfirst =>
          have hdigit : first.isDigit := by simpa using hfirst
          have hcollect := collect_sound 0 (first :: behind)
          generalize collect 0 (first :: behind) = collected at hread hcollect
          obtain ⟨significand, count, after⟩ := collected
          obtain ⟨digits, hdigits, htext, rfl⟩ := hcollect
          obtain ⟨hsign, hskipped, rfl, rfl⟩ := finishInteger_sound hread
          -- No digit is left behind those that were collected.
          have hnone := List.length_eq_zero_iff.mp hskipped
          have hall := List.takeWhile_append_dropWhile (p := Char.isDigit) (l := after)
          rw [hnone, List.nil_append] at hall
          rw [hall]
          cases digits with
          | nil =>
              rw [← show first :: behind = after from htext,
                List.takeWhile_cons_of_pos hdigit] at hnone
              cases hnone
          | cons other digits =>
              obtain ⟨rfl, hbehind⟩ := List.cons.inj htext
              exact ⟨hsign, first :: digits, .positive hzero hdigits, htext⟩

theorem readNumber_sound {value : Nat} (hread : readNumber text = .ok (.natural value, rest)) :
    ∃ digits, Numeral digits value ∧ text = digits ++ rest := by
  unfold readNumber at hread
  split at hread
  · cases (readMagnitude_sound hread).1
  · exact (readMagnitude_sound hread).2

/-- An integer literal that fits is read as what it says, wherever it is seen to end. -/
theorem readNumber_complete {digits : List Char} {value : Nat} (hnumeral : Numeral digits value)
    (hfits : value ≤ greatestSignificand) (hends : EndsNumber rest) :
    readNumber (digits ++ rest) = .ok (.natural value, rest) := by
  cases hnumeral with
  | zero =>
      have hdigit := hends.startsWithDigit
      simp [readNumber, readMagnitude, hdigit, finishInteger_complete hends]
  | @positive first digits hfirst hdigits =>
      have hdigit := hdigits first List.mem_cons_self
      have hcollect := collect_complete hdigits hfits hends.startsWithDigit
      obtain ⟨htake, hdrop⟩ := hends.digits_eq_nil
      have hminus : first ≠ '-' := by
        rintro rfl
        cases hdigit
      have hmagnitude : readNumber (first :: digits ++ rest) =
          readMagnitude false (first :: digits ++ rest) := by
        rw [List.cons_append]
        unfold readNumber
        split
        · next heq => exact absurd (List.cons.inj heq).1 hminus
        · rfl
      rw [hmagnitude]
      unfold readMagnitude
      split
      · next heq => cases heq
      · next heq => exact absurd (List.cons.inj heq).1 hfirst
      · next heq =>
          obtain ⟨rfl, _⟩ := List.cons.inj heq
          -- All digits are collected, so none are skipped and the number stays an integer.
          simp only [hdigit, hcollect, htake, hdrop, Bool.not_true, Bool.false_eq_true, if_false,
            List.length_nil]
          exact finishInteger_complete hends _

theorem Numeral.starts {digits : List Char} {value : Nat} (hnumeral : Numeral digits value) :
    ∃ first others, digits = first :: others ∧ first.isDigit := by
  cases hnumeral with
  | zero => exact ⟨'0', [], rfl, rfl⟩
  | positive _ hdigits => exact ⟨_, _, rfl, hdigits _ List.mem_cons_self⟩

theorem isDigit_digitChar {digit : Nat} (hdigit : digit < 10) : digit.digitChar.isDigit := by
  have hchar := Nat.toNat_digitChar_of_lt_ten hdigit
  rw [Char.isDigit_iff_toNat, hchar]
  exact ⟨Nat.le_add_right 48 digit, by change 48 + digit ≤ 57; omega⟩

theorem Numeral.single {digit : Nat} (hdigit : digit < 10) : Numeral [digit.digitChar] digit := by
  by_cases hzero : digit = 0
  · subst hzero
    exact .zero
  · have hchar := Nat.toNat_digitChar_of_lt_ten hdigit
    have hfirst : digit.digitChar ≠ '0' := by
      intro hfirst
      rw [hfirst] at hchar
      change 48 = 48 + digit at hchar
      omega
    have hvalue : digitsValue [digit.digitChar] = digit := by
      change 0 * 10 + (digit.digitChar.toNat - 48) = digit
      omega
    have hnumeral := Numeral.positive hfirst
      (List.forall_mem_singleton.mpr (isDigit_digitChar hdigit))
    rwa [hvalue] at hnumeral

theorem Numeral.append {digits : List Char} {value digit : Nat} (hnumeral : Numeral digits value)
    (hvalue : 0 < value) (hdigit : digit < 10) :
    Numeral (digits ++ [digit.digitChar]) (value * 10 + digit) := by
  cases hnumeral with
  | zero => exact absurd hvalue (Nat.lt_irrefl 0)
  | @positive first digits hfirst hdigits =>
      have hchar := Nat.toNat_digitChar_of_lt_ten hdigit
      have happended : digitsValue (first :: digits ++ [digit.digitChar]) =
          digitsValue (first :: digits) * 10 + digit := by
        rw [digitsValue_concat]
        change _ + (digit.digitChar.toNat - 48) = _
        omega
      rw [← happended]
      apply Numeral.positive hfirst
      exact List.forall_mem_append.mpr
        ⟨hdigits, List.forall_mem_singleton.mpr (isDigit_digitChar hdigit)⟩

theorem exists_numeral (value : Nat) : ∃ digits, Numeral digits value := by
  induction value using Nat.strongRecOn with
  | ind value ih =>
      by_cases hsmall : value < 10
      · exact ⟨_, .single hsmall⟩
      · obtain ⟨digits, hdigits⟩ := ih (value / 10) (by omega)
        have hnumeral : Numeral _ (value / 10 * 10 + value % 10) :=
          hdigits.append (by omega) (by omega)
        rw [Nat.div_add_mod'] at hnumeral
        exact ⟨_, hnumeral⟩

end StickyRouting.Json
