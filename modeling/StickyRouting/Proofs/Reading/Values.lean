import StickyRouting.Proofs.Reading.Numbers

/-!
# The values of fields are read exactly

The reader of a field skips blanks, and then accepts exactly what is written for a value of the
field.  Counts are bounded by their width, so one that does not fit is refused and not cut off.
-/

namespace StickyRouting.Json

/-- Whether a reader skips blanks and then accepts what is written in one form, and nothing else.
What follows must not look like more of a number. -/
structure ReadsExactly {α : Type} (read : List Char → Reading α)
    (Written : List Char → α → Prop) : Prop where
  sound {text rest : List Char} {value : α} (hread : read text = .ok (value, rest)) :
    ∃ before written, Blanks before ∧ Written written value ∧ text = before ++ (written ++ rest)
  complete {before written rest : List Char} {value : α} (hbefore : Blanks before)
    (hwritten : Written written value) (hends : EndsNumber rest) :
    read (before ++ (written ++ rest)) = .ok (value, rest)

theorem ReadsExactly.map {α β : Type} {read : List Char → Reading α}
    {Written : List Char → α → Prop} (hexact : ReadsExactly read Written) (change : α → β) :
    ReadsExactly (fun text => (read text).map fun (value, rest) => (change value, rest))
      fun text result => ∃ value, Written text value ∧ change value = result where
  sound {text rest result} hread := by
    obtain ⟨⟨value, behind⟩, hvalue, hpair⟩ := map_eq_ok_iff.mp hread
    obtain ⟨hresult, rfl⟩ := Prod.mk.inj hpair
    obtain ⟨before, written, hbefore, hwritten, htext⟩ := hexact.sound hvalue
    exact ⟨before, written, hbefore, ⟨value, hwritten, hresult⟩, htext⟩
  complete hbefore hwritten hends := by
    obtain ⟨value, hvalue, rfl⟩ := hwritten
    rw [hexact.complete hbefore hvalue hends]
    rfl

theorem ReadsExactly.congr {α : Type} {read : List Char → Reading α}
    {Written Other : List Char → α → Prop} (hexact : ReadsExactly read Written)
    (hsame : ∀ text value, Written text value ↔ Other text value) : ReadsExactly read Other := by
  have heq : Written = Other := funext fun text => funext fun value => propext (hsame text value)
  rwa [← heq]

theorem readFlag_exact : ReadsExactly readFlag Flag where
  sound {text rest value} hread := by
    obtain ⟨before, hbefore, htext⟩ := exists_blanks text
    unfold readFlag at hread
    split at hread
    · cases hread
    · next behind heq =>
        obtain ⟨after, hword, hpair⟩ := map_eq_ok_iff.mp hread
        obtain ⟨rfl, rfl⟩ := Prod.mk.inj hpair
        rw [heq, readWord_eq_ok_iff.mp hword] at htext
        exact ⟨before, _, hbefore, .yes, htext⟩
    · next behind heq =>
        obtain ⟨after, hword, hpair⟩ := map_eq_ok_iff.mp hread
        obtain ⟨rfl, rfl⟩ := Prod.mk.inj hpair
        rw [heq, readWord_eq_ok_iff.mp hword] at htext
        exact ⟨before, _, hbefore, .no, htext⟩
    · cases hread
  complete {before written rest value} hbefore hwritten _ := by
    rw [readFlag, skipBlanks_append hbefore]
    cases hwritten with
    | yes => rfl
    | no => rfl

theorem isBlank_of_isDigit {character : Char} (hdigit : character.isDigit) :
    isBlank character = false := by
  rw [← Bool.not_eq_true]
  intro hblank
  simp only [isBlank, Bool.or_eq_true, decide_eq_true_eq] at hblank
  rcases hblank with ((rfl | rfl) | rfl) | rfl <;> cases hdigit

theorem readCount_exact (wanted : Wanted) {greatest : Nat}
    (hfits : greatest ≤ greatestSignificand) :
    ReadsExactly (readCount wanted greatest)
      fun text value => Numeral text value ∧ value ≤ greatest where
  sound {text rest value} hread := by
    obtain ⟨before, hbefore, htext⟩ := exists_blanks text
    unfold readCount at hread
    split at hread
    · cases hread
    · next character behind heq =>
        split at hread
        · split at hread
          · cases hread
          · next found after hnumber =>
              split at hread
              · next hle =>
                  obtain ⟨rfl, rfl⟩ := ok_inj.mp hread
                  obtain ⟨digits, hnumeral, hdigits⟩ := readNumber_sound hnumber
                  rw [heq, hdigits] at htext
                  exact ⟨before, digits, hbefore, ⟨hnumeral, hle⟩, htext⟩
              · cases hread
          · cases hread
          · cases hread
        · cases hread
  complete {before written rest value} hbefore hwritten hends := by
    obtain ⟨hnumeral, hle⟩ := hwritten
    have hnumber := readNumber_complete hnumeral (hle.trans hfits) hends
    obtain ⟨first, digits, rfl, hdigit⟩ := hnumeral.starts
    have hstarts : startsNumber first := by
      simp [startsNumber, hdigit]
    rw [List.cons_append] at hnumber
    rw [readCount, skipBlanks_append hbefore, List.cons_append,
      skipBlanks_cons (isBlank_of_isDigit hdigit)]
    simp [hstarts, hnumber, hle]

end StickyRouting.Json

namespace StickyRouting.Config

open StickyRouting.Json

theorem Field.read_exact (field : Field) :
    ReadsExactly field.read fun text setting => setting.field = field ∧ setting.Written text := by
  cases field with
  | healthCheck =>
      apply (readFlag_exact.map Setting.healthCheck).congr
      intro text setting
      constructor
      · rintro ⟨enabled, hflag, rfl⟩
        exact ⟨rfl, .healthCheck hflag⟩
      · rintro ⟨hfield, hwritten⟩
        cases hwritten with
        | healthCheck hflag => exact ⟨_, hflag, rfl⟩
        | maxConnections _ | maxStreams _ => cases hfield
  | maxConnections =>
      apply ((readCount_exact .count64 (Nat.le_refl _)).map
        fun limit => Setting.maxConnections limit.toUInt64).congr
      intro text setting
      constructor
      · rintro ⟨limit, ⟨hnumeral, hle⟩, rfl⟩
        have hlimit : limit.toUInt64.toNat = limit :=
          UInt64.toNat_ofNat_of_lt' (Nat.lt_of_le_pred (by decide) hle)
        exact ⟨rfl, .maxConnections (by rwa [hlimit])⟩
      · rintro ⟨hfield, hwritten⟩
        cases hwritten with
        | @maxConnections limit hcount =>
            exact ⟨limit.toNat, ⟨hcount, Nat.le_pred_of_lt limit.toNat_lt⟩, by simp⟩
        | healthCheck _ | maxStreams _ => cases hfield
  | maxStreams =>
      apply ((readCount_exact .count32 (by decide)).map
        fun limit => Setting.maxStreams limit.toUInt32).congr
      intro text setting
      constructor
      · rintro ⟨limit, ⟨hnumeral, hle⟩, rfl⟩
        have hlimit : limit.toUInt32.toNat = limit :=
          UInt32.toNat_ofNat_of_lt' (Nat.lt_of_le_pred (by decide) hle)
        exact ⟨rfl, .maxStreams (by rwa [hlimit])⟩
      · rintro ⟨hfield, hwritten⟩
        cases hwritten with
        | @maxStreams limit hcount =>
            exact ⟨limit.toNat, ⟨hcount, Nat.le_pred_of_lt limit.toNat_lt⟩, by simp⟩
        | healthCheck _ | maxConnections _ => cases hfield

end StickyRouting.Config
