import Mathlib.Data.List.TakeWhile
import StickyRouting.Proofs.Reading.Grammar

/-!
# Blanks, words and strings are read exactly

A reader of one of these accepts what the grammar calls one, returns what the grammar says it
stands for, and leaves all that stands behind it.  Each shows its own end, so it does not matter
what follows.
-/

namespace StickyRouting.Json

variable {text rest : List Char}

theorem Blanks.nil : Blanks [] :=
  nofun

theorem Blanks.append {before between : List Char} (hbefore : Blanks before)
    (hbetween : Blanks between) : Blanks (before ++ between) :=
  List.forall_mem_append.mpr ⟨hbefore, hbetween⟩

theorem skipBlanks_append {before : List Char} (hbefore : Blanks before) (text : List Char) :
    skipBlanks (before ++ text) = skipBlanks text :=
  List.dropWhile_append_of_pos hbefore

theorem skipBlanks_cons {character : Char} (hcharacter : isBlank character = false)
    (text : List Char) : skipBlanks (character :: text) = character :: text := by
  rw [skipBlanks, List.dropWhile_cons_of_neg (by simp [hcharacter])]

theorem exists_blanks (text : List Char) :
    ∃ before, Blanks before ∧ text = before ++ skipBlanks text :=
  ⟨text.takeWhile isBlank, fun _ hmem => List.mem_takeWhile_imp hmem,
    List.takeWhile_append_dropWhile.symm⟩

theorem finish_eq_ok_iff : finish text = .ok () ↔ Blanks text := by
  rw [finish, Blanks, ← List.dropWhile_eq_nil_iff, ← List.isEmpty_iff, skipBlanks]
  split <;> simp_all

theorem readWord_eq_ok_iff {word : List Char} :
    readWord word text = .ok rest ↔ text = word ++ rest := by
  induction word generalizing text with
  | nil => simp [readWord]
  | cons expected word ih =>
      cases text with
      | nil => simp [readWord]
      | cons character text =>
          by_cases hsame : character = expected
          · simp [readWord, hsame, ih]
          · simp [readWord, hsame]

theorem readUnit_eq_ok_iff {unit : Nat} :
    readUnit text = .ok (unit, rest) ↔
      ∃ digits, CodeUnit digits unit ∧ text = digits ++ rest := by
  constructor
  · intro hread
    unfold readUnit at hread
    split at hread
    · split at hread
      · next hfirst hsecond hthird hfourth =>
          cases hread
          exact ⟨_, .digits hfirst hsecond hthird hfourth, rfl⟩
      · cases hread
    · split at hread <;> cases hread
  · rintro ⟨digits, ⟨hfirst, hsecond, hthird, hfourth⟩, rfl⟩
    simp [readUnit, hfirst, hsecond, hthird, hfourth]

theorem readTrail_eq_ok_iff {lead : Nat} {character : Char} :
    readTrail lead text = .ok (character, rest) ↔
      ∃ digits trail, CodeUnit digits trail ∧ isTrailSurrogate trail ∧
        character = joinSurrogates lead trail ∧ text = '\\' :: 'u' :: (digits ++ rest) := by
  constructor
  · intro hread
    unfold readTrail at hread
    split at hread
    · cases hread
    · cases hread
    · split at hread
      · cases hread
      · next trail behind hunit =>
          obtain ⟨digits, hdigits, rfl⟩ := readUnit_eq_ok_iff.mp hunit
          split at hread
          · next htrail =>
              obtain ⟨rfl, rfl⟩ := ok_inj.mp hread
              exact ⟨digits, trail, hdigits, htrail, rfl, rfl⟩
          · cases hread
    · cases hread
  · rintro ⟨digits, trail, hdigits, htrail, hcharacter, htext⟩
    have hunit : readUnit (digits ++ rest) = .ok (trail, rest) :=
      readUnit_eq_ok_iff.mpr ⟨digits, hdigits, rfl⟩
    simp [htext, readTrail, hunit, htrail, hcharacter]

theorem readCodePoint_sound {character : Char}
    (hread : readCodePoint text = .ok (character, rest)) :
    ∃ piece, Spelled ('\\' :: 'u' :: piece) character ∧ text = piece ++ rest := by
  unfold readCodePoint at hread
  split at hread
  · cases hread
  · next unit behind hunit =>
      obtain ⟨digits, hdigits, rfl⟩ := readUnit_eq_ok_iff.mp hunit
      split at hread
      · cases hread
      · next htrail =>
          split at hread
          · next hlead =>
              obtain ⟨right, trail, hright, hpaired, hcharacter, htext⟩ :=
                readTrail_eq_ok_iff.mp hread
              rw [hcharacter, htext]
              exact ⟨_, .pair hdigits hright hlead hpaired, by simp⟩
          · next hlead =>
              obtain ⟨rfl, rfl⟩ := ok_inj.mp hread
              exact ⟨digits, .codePoint hdigits (by simpa using hlead) (by simpa using htrail), rfl⟩

theorem shortEscape?_eq_some_iff {letter character : Char} :
    shortEscape? letter = some character ↔ (letter, character) ∈ shortEscapes := by
  constructor
  · intro hshort
    unfold shortEscape? at hshort
    split at hshort <;> simp_all [shortEscapes, eq_comm]
  · intro hshort
    simp only [shortEscapes, List.mem_cons, Prod.mk.injEq, List.not_mem_nil, or_false] at hshort
    rcases hshort with ⟨rfl, rfl⟩ | ⟨rfl, rfl⟩ | ⟨rfl, rfl⟩ | ⟨rfl, rfl⟩ | ⟨rfl, rfl⟩ |
      ⟨rfl, rfl⟩ | ⟨rfl, rfl⟩ | ⟨rfl, rfl⟩ <;> rfl

theorem readEscape_sound {character : Char} (hread : readEscape text = .ok (character, rest)) :
    ∃ piece, Spelled ('\\' :: piece) character ∧ text = piece ++ rest := by
  cases text with
  | nil => cases hread
  | cons letter text =>
      rw [readEscape] at hread
      split at hread
      · next hunicode =>
          obtain ⟨piece, hpiece, rfl⟩ := readCodePoint_sound hread
          exact ⟨'u' :: piece, hpiece, by rw [hunicode, List.cons_append]⟩
      · split at hread
        · next hshort =>
            obtain ⟨rfl, rfl⟩ := ok_inj.mp hread
            exact ⟨[letter], .short (shortEscape?_eq_some_iff.mp hshort), rfl⟩
        · cases hread

theorem isLeadSurrogate_trail {unit : Nat} (hlead : isLeadSurrogate unit) :
    isTrailSurrogate unit = false := by
  simp only [isLeadSurrogate, isTrailSurrogate, Bool.and_eq_true, decide_eq_true_eq,
    Bool.and_eq_false_iff, decide_eq_false_iff_not] at hlead ⊢
  omega

theorem readEscape_complete {piece : List Char} {character : Char}
    (hspelled : Spelled ('\\' :: piece) character) (rest : List Char) :
    readEscape (piece ++ rest) = .ok (character, rest) := by
  cases hspelled with
  | plain _ hbackslash _ => exact absurd rfl hbackslash
  | @short letter _ hshort =>
      have hletter : letter ≠ 'u' := by
        rintro rfl
        simp [shortEscapes] at hshort
      rw [List.singleton_append, readEscape, if_neg hletter, shortEscape?_eq_some_iff.mpr hshort]
  | @codePoint digits unit hdigits hlead htrail =>
      have hunit : readUnit (digits ++ rest) = .ok (unit, rest) :=
        readUnit_eq_ok_iff.mpr ⟨digits, hdigits, rfl⟩
      simp [readEscape, readCodePoint, hunit, hlead, htrail]
  | @pair left right lead trail hleft hright hlead htrail =>
      have hunit : readUnit (left ++ '\\' :: 'u' :: (right ++ rest)) =
          .ok (lead, '\\' :: 'u' :: (right ++ rest)) :=
        readUnit_eq_ok_iff.mpr ⟨left, hleft, rfl⟩
      have hpair : readTrail lead ('\\' :: 'u' :: (right ++ rest)) =
          .ok (joinSurrogates lead trail, rest) :=
        readTrail_eq_ok_iff.mpr ⟨right, trail, hright, htrail, rfl, rfl⟩
      simp [readEscape, readCodePoint, hunit, hlead, isLeadSurrogate_trail hlead, hpair]

theorem Spelled.plain_or_escape {piece : List Char} {character : Char}
    (hspelled : Spelled piece character) :
    (character ≠ '"' ∧ character ≠ '\\' ∧ ' ' ≤ character ∧ piece = [character]) ∨
      ∃ letters, piece = '\\' :: letters := by
  cases hspelled with
  | plain hquote hbackslash hcontrol => exact .inl ⟨hquote, hbackslash, hcontrol, rfl⟩
  | short _ => exact .inr ⟨_, rfl⟩
  | codePoint _ _ _ => exact .inr ⟨_, rfl⟩
  | pair _ _ _ _ => exact .inr ⟨_, rfl⟩

theorem prepend_eq_ok_iff {character : Char} {reading : Reading (List Char)}
    {characters : List Char} :
    prepend character reading = .ok (characters, rest) ↔
      ∃ others, reading = .ok (others, rest) ∧ character :: others = characters := by
  simp [prepend, map_eq_ok_iff]

theorem readString_sound {characters : List Char}
    (hread : readString text = .ok (characters, rest)) :
    ∃ body, SpelledAll body characters ∧ text = body ++ '"' :: rest := by
  -- An escape may be of any length, so what is left of the text is only known to be shorter.
  induction hlength : text.length using Nat.strongRecOn generalizing text characters with
  | ind length ih =>
      subst hlength
      cases text with
      | nil =>
          rw [readString_nil] at hread
          cases hread
      | cons first behind =>
          by_cases hquote : first = '"'
          · subst hquote
            rw [readString_quote] at hread
            obtain ⟨rfl, rfl⟩ := ok_inj.mp hread
            exact ⟨[], .nil, rfl⟩
          by_cases hbackslash : first = '\\'
          · subst hbackslash
            rw [readString_escape] at hread
            split at hread
            · cases hread
            · next character after hescape =>
                have hshorter := Nat.lt_succ_of_lt (readEscape_length hescape)
                obtain ⟨others, hothers, rfl⟩ := prepend_eq_ok_iff.mp hread
                obtain ⟨piece, hpiece, rfl⟩ := readEscape_sound hescape
                obtain ⟨body, hbody, rfl⟩ := ih _ hshorter hothers rfl
                exact ⟨_, .cons hpiece hbody, by simp⟩
          · rw [readString_plain hquote hbackslash] at hread
            split at hread
            · cases hread
            · next hcontrol =>
                obtain ⟨others, hothers, rfl⟩ := prepend_eq_ok_iff.mp hread
                obtain ⟨body, hbody, rfl⟩ := ih _ (Nat.lt_succ_self _) hothers rfl
                exact ⟨_, .cons (.plain hquote hbackslash (Char.not_lt.mp hcontrol)) hbody, rfl⟩

theorem readString_complete {body characters : List Char}
    (hspelled : SpelledAll body characters) (rest : List Char) :
    readString (body ++ '"' :: rest) = .ok (characters, rest) := by
  induction hspelled with
  | nil => exact readString_quote rest
  | @cons piece text characters character hfirst _ ih =>
      rw [List.append_assoc]
      rcases hfirst.plain_or_escape with ⟨hquote, hbackslash, hcontrol, rfl⟩ | ⟨letters, rfl⟩
      · rw [List.singleton_append, readString_plain hquote hbackslash,
          if_neg (Char.not_lt.mpr hcontrol), ih]
        rfl
      · rw [List.cons_append, readString_escape, readEscape_complete hfirst]
        simp only [ih]
        rfl

end StickyRouting.Json
