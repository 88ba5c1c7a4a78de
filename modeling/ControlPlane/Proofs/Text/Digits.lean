import ControlPlane.Text.Scan

/-!
# Numerals

A number that is written in a base is read back as it was.  There are three groups.

* `Spelling` describes the digits of a number, and `exists_spelling` gives them.
* `scanNumeral_append` and `scanDecimal_append` read a numeral off the front of a text.
  `Stops` is the condition on what comes after it.
* `whole_toDigits` reads a decimal numeral that is a whole text, and says exactly when it
  is past the limit.  `Numeral` describes all such numerals, also those with a sign or
  leading zeros, and `whole_eq_ok_iff` says that no other text is read.
-/

namespace ControlPlane.Text

/-! ## Digits -/

/-- The digits of a number in a base, the first the most significant. -/
structure Spelling (base : Nat) (digits : List Nat) (n : Nat) : Prop where
  chars : Nat.toDigits base n = digits.map Nat.digitChar
  lt : ∀ d ∈ digits, d < base
  value : ofDigits base digits = n
  nonempty : digits ≠ []
  /-- No zero leads, but for the number zero. -/
  lead : digits.head? = some 0 → digits = [0]

theorem ofDigits_append {base : Nat} {ds es : List Nat} :
    ofDigits base (ds ++ es) = es.foldl (fun n d => n * base + d) (ofDigits base ds) :=
  List.foldl_append

theorem exists_spelling {base : Nat} (hbase : 1 < base) (n : Nat) :
    ∃ digits, Spelling base digits n := by
  induction n using Nat.base_induction base hbase with
  | single m hm =>
    refine ⟨[m], Nat.toDigits_of_lt_base hm, by simpa using hm, by simp [ofDigits],
      List.cons_ne_nil m [], fun hlead => ?_⟩
    rw [Option.some.inj hlead]
  | digit m d hd hm ih =>
    obtain ⟨digits, ⟨hchars, hlt, hvalue, hne, hlead⟩⟩ := ih
    refine ⟨digits ++ [d], ?_, ?_, ?_, List.append_ne_nil_of_left_ne_nil hne [d], fun hzero => ?_⟩
    · rw [← Nat.toDigits_append_toDigits hbase hm hd, hchars, Nat.toDigits_of_lt_base hd,
        List.map_append]
      rfl
    · intro e he
      rcases List.mem_append.1 he with he | he
      · exact hlt e he
      · exact List.mem_singleton.1 he ▸ hd
    · rw [ofDigits_append, hvalue, Nat.mul_comm base m]
      rfl
    · -- A leading zero would be that of `m`, which is not zero.
      obtain ⟨e, es, rfl⟩ := List.exists_cons_of_ne_nil hne
      have hm' : 0 = m := by simpa [hlead hzero, ofDigits] using hvalue
      omega

/-! ## Reading digits -/

theorem digit?_digitChar {d : Nat} (h : d < 10) : digit? d.digitChar = some d := by
  have hall : ∀ d : Fin 10, digit? (d.val.digitChar) = some d.val := by decide
  exact hall ⟨d, h⟩

/-- Only the ten characters are digits. -/
theorem of_digit?_eq_some {c : Char} {d : Nat} (h : digit? c = some d) :
    d < 10 ∧ c = d.digitChar := by
  unfold digit? at h
  split at h
  · next hc =>
    have hlow : '0'.toNat ≤ c.toNat := hc.1
    have hhigh : c.toNat ≤ '9'.toNat := hc.2
    have hd : c.toNat = 48 + d := Option.some.inj h ▸ (Nat.add_sub_of_le hlow).symm
    have hlt : d < 10 := by
      have h9 : '9'.toNat = 57 := rfl
      omega
    exact ⟨hlt, Char.toNat_inj.1 (hd.trans (Nat.toNat_digitChar_of_lt_ten hlt).symm)⟩
  · cases h

theorem hexDigit?_digitChar {d : Nat} (h : d < 16) : hexDigit? d.digitChar = some d := by
  have hall : ∀ d : Fin 16, hexDigit? (d.val.digitChar) = some d.val := by decide
  exact hall ⟨d, h⟩

/-- A text does not go on with a digit. -/
def Stops (digit : Char → Option Nat) (cs : List Char) : Prop := ∀ c ∈ cs.head?, digit c = none

section Reader

variable {digit : Char → Option Nat} {base : Nat}

theorem stops_nil : Stops digit [] := nofun

theorem stops_cons {c : Char} {cs : List Char} : Stops digit (c :: cs) ↔ digit c = none := by
  simp [Stops]

theorem spanDigits_of_stops {cs : List Char} (h : Stops digit cs) :
    spanDigits digit cs = ([], cs) := by
  cases cs with
  | nil => rfl
  | cons c cs => simp only [spanDigits, stops_cons.1 h]

/-- What comes after a text that is not a digit changes nothing about its digits. -/
theorem spanDigits_append {cs rest : List Char} (hrest : Stops digit rest) :
    spanDigits digit (cs ++ rest) = ((spanDigits digit cs).1, (spanDigits digit cs).2 ++ rest) := by
  induction cs with
  | nil => exact spanDigits_of_stops hrest
  | cons c cs ih =>
    rw [List.cons_append]
    unfold spanDigits
    cases digit c with
    | none => rfl
    | some d =>
      dsimp only
      rw [ih]
      rfl

theorem spanDigits_map_digitChar (hdigit : ∀ d < base, digit d.digitChar = some d) {ds : List Nat}
    (hlt : ∀ d ∈ ds, d < base) : spanDigits digit (ds.map Nat.digitChar) = (ds, []) := by
  induction ds with
  | nil => rfl
  | cons d ds ih =>
    obtain ⟨hd, hds⟩ := List.forall_mem_cons.1 hlt
    simp only [List.map_cons, spanDigits, hdigit d hd, ih hds]
    rfl

/-- A numeral at the front of a text. -/
theorem scanNumeral_append (hdigit : ∀ d < base, digit d.digitChar = some d) {ds : List Nat}
    {n limit : Nat} {rest : List Char} (hn : Spelling base ds n) (hlimit : n ≤ limit)
    (hrest : Stops digit rest) :
    scanNumeral digit base limit (Nat.toDigits base n ++ rest) = some ((ds, n), rest) := by
  unfold scanNumeral
  rw [hn.chars, spanDigits_append hrest, spanDigits_map_digitChar hdigit hn.lt]
  dsimp only [List.nil_append]
  rw [hn.value, List.isEmpty_eq_false_iff.2 hn.nonempty,
    decide_eq_false (Nat.not_lt.2 hlimit), Bool.or_self, if_neg Bool.false_ne_true]

end Reader

/-- A decimal number at the front of a text. -/
theorem scanDecimal_append {n limit : Nat} {rest : List Char} (hlimit : n ≤ limit)
    (hrest : Stops digit? rest) :
    scanDecimal limit (Nat.toDigits 10 n ++ rest) = some (n, rest) := by
  obtain ⟨ds, hn⟩ := exists_spelling (by decide : 1 < 10) n
  unfold scanDecimal
  rw [scanNumeral_append (fun _ => digit?_digitChar) hn hlimit hrest]
  rfl

/-! ## Whole texts -/

/-- Further digits make a number no smaller. -/
theorem le_foldl_digits (m : Nat) (ds : List Nat) :
    m ≤ ds.foldl (fun n d => n * 10 + d) m := by
  induction ds generalizing m with
  | nil => exact Nat.le_refl m
  | cons d ds ih => exact Nat.le_trans (by omega) (ih (m * 10 + d))

/-- Digits are read as long as the number that they make is within the limit. -/
theorem wholeFrom_map_digitChar {limit m : Nat} {ds : List Nat} (hlt : ∀ d ∈ ds, d < 10)
    (hm : m ≤ limit) :
    wholeFrom limit m (ds.map Nat.digitChar) =
      let n := ds.foldl (fun n d => n * 10 + d) m
      if n ≤ limit then .ok n else .error .tooLarge := by
  induction ds generalizing m with
  | nil => exact (if_pos hm).symm
  | cons d ds ih =>
    obtain ⟨hd, hds⟩ := List.forall_mem_cons.1 hlt
    have hle := le_foldl_digits (m * 10 + d) ds
    rw [List.map_cons, wholeFrom, digit?_digitChar hd, List.foldl_cons]
    dsimp only
    by_cases hover : limit < m * 10 + d
    · rw [if_pos hover, if_neg (Nat.not_le.2 (Nat.lt_of_lt_of_le hover hle))]
    · rw [if_neg hover, ih hds (Nat.le_of_not_lt hover)]

theorem digitChar_ne_plus (d : Nat) : d.digitChar ≠ '+' := Nat.digitChar_ne '+' (by decide)

theorem whole_plus {limit : Nat} {cs : List Char} (h : cs ≠ []) :
    whole limit ('+' :: cs) = wholeFrom limit 0 cs := by
  obtain ⟨c, cs, rfl⟩ := List.exists_cons_of_ne_nil h
  rfl

/-- Digits do not start with a sign. -/
theorem whole_map_digitChar {limit : Nat} {ds : List Nat} (h : ds ≠ []) :
    whole limit (ds.map Nat.digitChar) = wholeFrom limit 0 (ds.map Nat.digitChar) := by
  obtain ⟨d, ds, rfl⟩ := List.exists_cons_of_ne_nil h
  rw [List.map_cons]
  generalize hc : d.digitChar = c
  have hplus : c ≠ '+' := hc ▸ digitChar_ne_plus d
  unfold whole
  split
  · simp_all
  · simp_all
  · simp_all
  · rfl

/-- A decimal numeral is read as the number that it writes if that is within the limit. -/
theorem whole_toDigits (limit n : Nat) :
    whole limit (Nat.toDigits 10 n) = if n ≤ limit then .ok n else .error .tooLarge := by
  obtain ⟨ds, hn⟩ := exists_spelling (by decide : 1 < 10) n
  have hfrom := wholeFrom_map_digitChar (m := 0) hn.lt (Nat.zero_le limit)
  have hvalue : ds.foldl (fun n d => n * 10 + d) 0 = n := hn.value
  rw [hvalue] at hfrom
  rw [hn.chars, ← hfrom, whole_map_digitChar hn.nonempty]

/-- A text of decimal digits and the number that they make.  Zeros may lead. -/
def Digits (cs : List Char) (n : Nat) : Prop :=
  ∃ ds : List Nat, (∀ d ∈ ds, d < 10) ∧ ofDigits 10 ds = n ∧ cs = ds.map Nat.digitChar

/-- A whole number in decimal: one digit or more, after a plus sign or none. -/
def Numeral (cs : List Char) (n : Nat) : Prop :=
  ∃ sign digits, (sign = [] ∨ sign = ['+']) ∧ digits ≠ [] ∧ Digits digits n ∧ cs = sign ++ digits

theorem numeral_toDigits (n : Nat) : Numeral (Nat.toDigits 10 n) n := by
  obtain ⟨ds, hn⟩ := exists_spelling (by decide : 1 < 10) n
  refine ⟨[], _, .inl rfl, ?_, ⟨ds, hn.lt, hn.value, hn.chars⟩, rfl⟩
  rw [hn.chars]
  simpa using hn.nonempty

/-- A numeral starts with a sign or a digit. -/
theorem Numeral.exists_first {cs : List Char} {n : Nat} (h : Numeral cs n) :
    ∃ c rest, cs = c :: rest ∧ (c = '+' ∨ ∃ d < 10, c = d.digitChar) := by
  obtain ⟨sign, _, hsign, hne, ⟨ds, hlt, -, rfl⟩, rfl⟩ := h
  rcases hsign with rfl | rfl
  · cases ds with
    | nil => exact absurd rfl hne
    | cons d ds => exact ⟨_, _, rfl, .inr ⟨d, hlt d List.mem_cons_self, rfl⟩⟩
  · exact ⟨_, _, rfl, .inl rfl⟩

/-- A numeral ends with a digit. -/
theorem Numeral.exists_last {cs : List Char} {n : Nat} (h : Numeral cs n) :
    ∃ init, ∃ d < 10, cs = init ++ [d.digitChar] := by
  obtain ⟨sign, _, -, hne, ⟨ds, hlt, -, rfl⟩, rfl⟩ := h
  have hds : ds ≠ [] := fun h => hne (h ▸ rfl)
  refine ⟨sign ++ ds.dropLast.map Nat.digitChar, ds.getLast hds, hlt _ (List.getLast_mem hds), ?_⟩
  rw [List.append_assoc, ← List.map_singleton, ← List.map_append, List.dropLast_concat_getLast]

theorem wholeFrom_eq_ok_iff {limit m n : Nat} {cs : List Char} (hm : m ≤ limit) :
    wholeFrom limit m cs = .ok n ↔
      ∃ ds : List Nat, (∀ d ∈ ds, d < 10) ∧ ds.foldl (fun n d => n * 10 + d) m = n ∧ n ≤ limit ∧
        cs = ds.map Nat.digitChar := by
  constructor
  · intro h
    fun_induction wholeFrom limit m cs with
    | case1 m => exact ⟨[], by simp, Except.ok.inj h, Except.ok.inj h ▸ hm, rfl⟩
    | case2 => cases h
    | case3 => cases h
    | case4 m c cs d hdigit hle ih =>
      obtain ⟨ds, hlt, hvalue, hn, rfl⟩ := ih (Nat.le_of_not_lt hle) h
      obtain ⟨hd, rfl⟩ := of_digit?_eq_some hdigit
      exact ⟨d :: ds, List.forall_mem_cons.2 ⟨hd, hlt⟩, hvalue, hn, rfl⟩
  · rintro ⟨ds, hlt, rfl, hn, rfl⟩
    rw [wholeFrom_map_digitChar hlt hm]
    exact if_pos hn

theorem wholeFrom_zero_eq_ok_iff {limit n : Nat} {cs : List Char} :
    wholeFrom limit 0 cs = .ok n ↔ Digits cs n ∧ n ≤ limit := by
  rw [wholeFrom_eq_ok_iff (Nat.zero_le limit)]
  exact ⟨fun ⟨ds, hlt, hvalue, hn, hcs⟩ => ⟨⟨ds, hlt, hvalue, hcs⟩, hn⟩,
    fun ⟨⟨ds, hlt, hvalue, hcs⟩, hn⟩ => ⟨ds, hlt, hvalue, hn, hcs⟩⟩

/-- Numerals are read up to the limit, and nothing else is. -/
theorem whole_eq_ok_iff {limit n : Nat} {cs : List Char} :
    whole limit cs = .ok n ↔ Numeral cs n ∧ n ≤ limit := by
  constructor
  · intro h
    unfold whole at h
    split at h
    · cases h
    · cases h
    · next cs hne =>
      obtain ⟨hdigits, hn⟩ := wholeFrom_zero_eq_ok_iff.1 h
      exact ⟨⟨['+'], cs, .inr rfl, fun h => hne (h ▸ rfl), hdigits, rfl⟩, hn⟩
    · next hne _ _ =>
      obtain ⟨hdigits, hn⟩ := wholeFrom_zero_eq_ok_iff.1 h
      exact ⟨⟨[], cs, .inl rfl, hne, hdigits, rfl⟩, hn⟩
  · rintro ⟨⟨sign, digits, hsign, hne, hdigits, rfl⟩, hn⟩
    have hfrom : wholeFrom limit 0 digits = .ok n := wholeFrom_zero_eq_ok_iff.2 ⟨hdigits, hn⟩
    rcases hsign with rfl | rfl
    · obtain ⟨ds, -, -, rfl⟩ := hdigits
      rw [List.nil_append, whole_map_digitChar (mt List.map_eq_nil_iff.2 hne), hfrom]
    · rw [List.singleton_append, whole_plus hne, hfrom]

end ControlPlane.Text
