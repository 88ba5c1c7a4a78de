import ControlPlane.Proofs.Duration.Grammar

/-!
# Durations that are read back

A duration is written in milliseconds, however many they are.  It is read from at most
64 bits of them.  A text may say more, in seconds or in minutes, and then the duration is
written as a text that is refused.

* `parse_text` is the reading of what was written, and `parse_text_eq_ok_iff` says which
  durations come back.
* `exists_parse_iff` says which durations some text gives.
-/

namespace ControlPlane.Duration

open Text

theorem toList_text (d : Duration) :
    d.text.toList = [] ++ (Nat.toDigits 10 d.millis ++ Measure.letters .millis) ++ [] := by
  rw [text, String.toList_append, Nat.toList_repr]
  exact (List.append_nil _).symm

/-- The text of a duration is read back if its milliseconds fit 64 bits, and refused
otherwise. -/
theorem parse_text (d : Duration) :
    parse d.text = if d.millis ≤ maxWord then .ok d else .error (.number .tooLarge) := by
  have hnum : Numeral (Nat.toDigits 10 d.millis) d.millis := numeral_toDigits d.millis
  rw [parse, toList_text, trim_count hnum _ blank_nil blank_nil, parseTrimmed_append hnum,
    Measure.read, ofCount, whole_toDigits]
  by_cases hfits : d.millis ≤ maxWord
  · simp only [if_pos hfits, Nat.mul_one]
  · simp only [if_neg hfits]

theorem parse_text_eq_ok_iff {d : Duration} : parse d.text = .ok d ↔ d.millis ≤ maxWord := by
  rw [parse_text]
  split
  · next hfits => exact iff_of_true rfl hfits
  · next hover => exact iff_of_false nofun hover

theorem writes_seconds {n : Nat} {d : Duration} (hn : n ≤ maxWord) (hd : d.millis = n * 1000) :
    Writes (Nat.repr n ++ "s") d := by
  refine ⟨[], [], Nat.toDigits 10 n, .seconds, n, ?_, blank_nil, blank_nil, numeral_toDigits n,
    hn, nofun, hd⟩
  rw [String.toList_append, Nat.toList_repr]
  exact (List.append_nil _).symm

/-- The durations that texts give are those of at most 64 bits of milliseconds and those of
at most 64 bits of seconds. -/
theorem exists_parse_iff {d : Duration} : (∃ text, parse text = .ok d) ↔
    d.millis ≤ maxWord ∨ ∃ n ≤ maxWord, d.millis = n * 1000 := by
  constructor
  · rintro ⟨text, h⟩
    obtain ⟨-, -, -, unit, n, -, -, -, -, hfits, hseconds, hmillis⟩ := writes_of_parse h
    cases unit with
    | bare | millis => exact .inl (hmillis.trans (Nat.mul_one n) ▸ hfits)
    | seconds =>
      rw [Measure.length] at hmillis
      exact .inr ⟨n, hfits, hmillis⟩
    | minutes =>
      rw [Measure.length] at hmillis
      exact .inr ⟨n * 60, Nat.mul_comm 60 n ▸ hseconds rfl, by rw [hmillis, Nat.mul_assoc]⟩
  · rintro (h | ⟨n, hn, hd⟩)
    · exact ⟨d.text, parse_text_eq_ok_iff.2 h⟩
    · exact ⟨_, parse_of_writes (writes_seconds hn hd)⟩

end ControlPlane.Duration
