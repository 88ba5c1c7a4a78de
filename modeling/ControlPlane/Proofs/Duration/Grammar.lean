import Mathlib.Data.List.Basic
import ControlPlane.Duration
import ControlPlane.Proofs.Text.Blank
import ControlPlane.Proofs.Text.Digits

/-!
# Texts that write durations

A duration is written as a numeral with a unit or with none, and blanks may stand around it.
The units overlap: a text in milliseconds ends with the letter of seconds, and it starts that
unit with the letter of minutes.  They are tried in a fixed order, and since a numeral ends
with a digit it does not matter which letters are tried first.

* Units.  `Measure` lists them, and `Measure.Counts` says what duration a number of units is.
* Reading.  `exists_read` takes a text apart as the reader does, and `parseTrimmed_append`
  says that a numeral with a unit is taken apart between the two.
* Grammar.  `Writes` describes the texts of a duration, and `parse_eq_ok_iff_writes` says that
  these are the texts from which it is read.
-/

namespace ControlPlane.Duration

open Text

/-! ## Units -/

/-- What the number in a text counts. -/
inductive Measure
  /-- Milliseconds, without saying so. -/
  | bare
  | millis
  | seconds
  | minutes
  deriving DecidableEq, Repr

namespace Measure

/-- The letters of a unit. -/
def letters : Measure → List Char
  | bare => []
  | millis => ['m', 's']
  | seconds => ['s']
  | minutes => ['m']

/-- The milliseconds in a unit. -/
def length : Measure → Nat
  | bare => 1
  | millis => 1
  | seconds => 1000
  | minutes => 60000

/-- So many units make up a duration.  The number has to fit 64 bits, and that of minutes has
to fit as seconds. -/
structure Counts (unit : Measure) (n : Nat) (d : Duration) : Prop where
  fits : n ≤ maxWord
  seconds : unit = minutes → 60 * n ≤ maxWord
  millis : d.millis = n * unit.length

/-- What is read of the text before a unit.  The whole text is shown if the minutes do not
fit. -/
def read (text : List Char) : Measure → List Char → Except Fault Duration
  | bare, cs => ofCount 1 cs
  | millis, cs => ofCount 1 cs
  | seconds, cs => ofCount 1000 cs
  | minutes, cs => do
    let d ← ofCount 60000 cs
    if maxWord * 1000 < d.millis then throw (.overflow text) else return d

end Measure

variable {unit : Measure} {cs num : List Char} {n : Nat} {d : Duration}

theorem ofCount_eq_ok_iff {unit : Nat} :
    ofCount unit cs = .ok d ↔ ∃ n, Numeral cs n ∧ n ≤ maxWord ∧ d.millis = n * unit := by
  unfold ofCount
  constructor
  · intro h
    split at h
    · cases h
    · next n hn =>
      obtain ⟨hnum, hfits⟩ := whole_eq_ok_iff.1 hn
      exact ⟨n, hnum, hfits, Except.ok.inj h ▸ rfl⟩
  · rintro ⟨n, hnum, hfits, hmillis⟩
    rw [whole_eq_ok_iff.2 ⟨hnum, hfits⟩]
    exact congrArg Except.ok (Duration.mk.injEq .. ▸ hmillis.symm)

namespace Measure

theorem read_minutes_eq_ok_iff {text : List Char} :
    minutes.read text cs = .ok d ↔ ofCount 60000 cs = .ok d ∧ d.millis ≤ maxWord * 1000 := by
  rw [read]
  cases ofCount 60000 cs with
  | error fault => exact iff_of_false nofun fun h => nomatch h.1
  | ok d' =>
    show (if maxWord * 1000 < d'.millis then Except.error _ else Except.ok d') = .ok d ↔ _
    by_cases hover : maxWord * 1000 < d'.millis
    · rw [if_pos hover]
      refine iff_of_false nofun fun h => ?_
      obtain rfl := Except.ok.inj h.1
      exact Nat.not_le.2 hover h.2
    · rw [if_neg hover]
      refine ⟨fun h => ⟨h, ?_⟩, And.left⟩
      exact Except.ok.inj h ▸ Nat.le_of_not_lt hover

theorem read_of_ne {text : List Char} (h : unit ≠ minutes) :
    unit.read text cs = ofCount unit.length cs := by
  cases unit with
  | bare | millis | seconds => rfl
  | minutes => exact absurd rfl h

theorem read_eq_ok_iff {text : List Char} :
    unit.read text cs = .ok d ↔ ∃ n, Numeral cs n ∧ unit.Counts n d := by
  by_cases hunit : unit = minutes
  · subst hunit
    rw [read_minutes_eq_ok_iff, ofCount_eq_ok_iff]
    constructor
    · rintro ⟨⟨n, hnum, hfits, hmillis⟩, hle⟩
      exact ⟨n, hnum, hfits, fun _ => by omega, hmillis⟩
    · rintro ⟨n, hnum, hfits, hseconds, hmillis⟩
      have hsixty := hseconds rfl
      have hmillis : d.millis = n * 60000 := hmillis
      exact ⟨⟨n, hnum, hfits, hmillis⟩, by omega⟩
  · rw [read_of_ne hunit, ofCount_eq_ok_iff]
    exact ⟨fun ⟨n, hnum, hfits, hmillis⟩ => ⟨n, hnum, hfits, fun h => absurd h hunit, hmillis⟩,
      fun ⟨n, hnum, hcounts⟩ => ⟨n, hnum, hcounts.fits, hcounts.millis⟩⟩

end Measure

/-! ## Reading -/

/-- The reader takes one of the units off the end. -/
theorem exists_read (cs : List Char) :
    ∃ num unit, cs = num ++ Measure.letters unit ∧ parseTrimmed cs = unit.read cs num := by
  unfold parseTrimmed
  split
  · next h => exact ⟨_, .millis, (List.isSuffixOf?_eq_some_iff_append_eq.1 h).symm, rfl⟩
  · next h => exact ⟨_, .seconds, (List.isSuffixOf?_eq_some_iff_append_eq.1 h).symm, rfl⟩
  · next h => exact ⟨_, .minutes, (List.isSuffixOf?_eq_some_iff_append_eq.1 h).symm, rfl⟩
  · exact ⟨cs, .bare, (List.append_nil cs).symm, rfl⟩

theorem isSuffixOf?_append_of_ne (us ts : List Char) {c e : Char} (h : c ≠ e) :
    (us ++ [c]).isSuffixOf? (ts ++ [e]) = none := by
  refine Option.eq_none_iff_forall_ne_some.2 fun cs hcs => h ?_
  have happend := List.isSuffixOf?_eq_some_iff_append_eq.1 hcs
  rw [← List.append_assoc] at happend
  exact List.singleton_inj.1 (List.append_inj' happend rfl).2

theorem isSuffixOf?_append_append (us ts ws : List Char) :
    (us ++ ws).isSuffixOf? (ts ++ ws) = us.isSuffixOf? ts := by
  refine Option.ext fun cs => ?_
  rw [List.isSuffixOf?_eq_some_iff_append_eq, List.isSuffixOf?_eq_some_iff_append_eq,
    ← List.append_assoc, List.append_cancel_right_eq]

theorem isSuffixOf?_append_self (us ts : List Char) : us.isSuffixOf? (ts ++ us) = some ts :=
  List.isSuffixOf?_eq_some_iff_append_eq.2 rfl

/-- No letter of a unit is a digit, and no digit is a blank. -/
theorem digitChar_ne {e : Nat} (h : e < 10) :
    'm' ≠ e.digitChar ∧ 's' ≠ e.digitChar ∧ isBlank e.digitChar = false := by
  have hall : ∀ e : Fin 10, 'm' ≠ e.val.digitChar ∧ 's' ≠ e.val.digitChar ∧
      isBlank e.val.digitChar = false := by decide
  exact hall ⟨e, h⟩

/-- A numeral with a unit is taken apart between the two. -/
theorem parseTrimmed_append (hnum : Numeral num n) (unit : Measure) :
    parseTrimmed (num ++ unit.letters) = unit.read (num ++ unit.letters) num := by
  obtain ⟨init, e, he, hlast⟩ := hnum.exists_last
  obtain ⟨hm, hs, -⟩ := digitChar_ne he
  unfold parseTrimmed
  cases unit with
  | bare =>
    have hmillis : ['m', 's'].isSuffixOf? num = none :=
      hlast ▸ isSuffixOf?_append_of_ne ['m'] init hs
    have hseconds : ['s'].isSuffixOf? num = none := hlast ▸ isSuffixOf?_append_of_ne [] init hs
    have hminutes : ['m'].isSuffixOf? num = none := hlast ▸ isSuffixOf?_append_of_ne [] init hm
    simp only [Measure.letters, List.append_nil, hmillis, hseconds, hminutes]
    rfl
  | millis =>
    simp only [Measure.letters, isSuffixOf?_append_self]
    rfl
  | seconds =>
    have hmillis : ['m', 's'].isSuffixOf? (num ++ ['s']) = none :=
      (isSuffixOf?_append_append ['m'] num ['s']).trans
        (hlast ▸ isSuffixOf?_append_of_ne [] init hm)
    simp only [Measure.letters, hmillis, isSuffixOf?_append_self]
    rfl
  | minutes =>
    have hmillis : ['m', 's'].isSuffixOf? (num ++ ['m']) = none :=
      isSuffixOf?_append_of_ne ['m'] num (by decide)
    have hseconds : ['s'].isSuffixOf? (num ++ ['m']) = none :=
      isSuffixOf?_append_of_ne [] num (by decide)
    simp only [Measure.letters, hmillis, hseconds, isSuffixOf?_append_self]
    rfl

/-! ## Grammar -/

/-- The text writes the duration: a numeral and a unit or none, with blanks around them or
none. -/
def Writes (text : String) (d : Duration) : Prop :=
  ∃ lead trail num unit n, text.toList = lead ++ (num ++ Measure.letters unit) ++ trail ∧
    Blank lead ∧ Blank trail ∧ Numeral num n ∧ unit.Counts n d

/-- There is no blank at either end of a numeral with a unit. -/
theorem trim_count {lead trail : List Char} (hnum : Numeral num n) (unit : Measure)
    (hlead : Blank lead) (htrail : Blank trail) :
    trim (lead ++ (num ++ unit.letters) ++ trail) = num ++ unit.letters := by
  obtain ⟨c, rest, hfirst, hc⟩ := hnum.exists_first
  obtain ⟨init, e, he, hlast⟩ := hnum.exists_last
  have hdigit {e : Nat} (he : e < 10) : isBlank e.digitChar = false := (digitChar_ne he).2.2
  have hstart : Flush (num ++ unit.letters) := by
    rw [hfirst]
    rintro _ ⟨⟩
    rcases hc with rfl | ⟨e, he, rfl⟩
    · decide
    · exact hdigit he
  have hend : Flush (num ++ unit.letters).reverse := by
    rw [List.reverse_append]
    cases unit with
    | bare =>
      rw [hlast, List.reverse_append]
      rintro _ ⟨⟩
      exact hdigit he
    | millis | seconds | minutes =>
      rintro _ ⟨⟩
      decide
  have hne : num ++ unit.letters ≠ [] := by
    rw [hfirst]
    exact List.cons_ne_nil _ _
  exact trim_append hlead htrail hne hstart hend

theorem parse_of_writes {text : String} (h : Writes text d) : parse text = .ok d := by
  obtain ⟨lead, trail, num, unit, n, htext, hlead, htrail, hnum, hcounts⟩ := h
  rw [parse, htext, trim_count hnum unit hlead htrail, parseTrimmed_append hnum]
  exact Measure.read_eq_ok_iff.2 ⟨n, hnum, hcounts⟩

theorem writes_of_parse {text : String} (h : parse text = .ok d) : Writes text d := by
  obtain ⟨lead, trail, hlead, htrail, htext⟩ := exists_blanks text.toList
  obtain ⟨num, unit, htrim, hread⟩ := exists_read (trim text.toList)
  rw [parse, hread] at h
  obtain ⟨n, hnum, hcounts⟩ := Measure.read_eq_ok_iff.1 h
  exact ⟨lead, trail, num, unit, n, htrim ▸ htext, hlead, htrail, hnum, hcounts⟩

/-- A duration is read from the texts that write it, and from no other. -/
theorem parse_eq_ok_iff_writes {text : String} : parse text = .ok d ↔ Writes text d :=
  ⟨writes_of_parse, parse_of_writes⟩

end ControlPlane.Duration
