import ControlPlane.Proofs.Json.Print

/-!
# Numbers and their tokens

A number is written as a numeral of JSON, whatever the number is.  There are three groups.

* `lexNumeral_digits` reads a numeral part by part.  `Leading` is the rule for the digits
  before the point.
* `prints_whole` is the text of a whole number, with the digits of the numeral.
* `prints_exchange` is the text of a fraction.  Its shortest decimal is not zero, so that no
  zero leads, and each of its layouts is a numeral.
-/

namespace ControlPlane.Json

open Text Decimal

/-! ## Parts of a numeral -/

/-- Digits that may stand before the point. -/
structure Leading (ds : List Nat) : Prop where
  lt : ∀ d ∈ ds, d < 10
  nonempty : ds ≠ []
  lead : ds.head? = some 0 → ds = [0]

theorem leading_of_spelling {ds : List Nat} {n : Nat} (h : Spelling 10 ds n) : Leading ds :=
  ⟨h.lt, h.nonempty, h.lead⟩

theorem leading_of_head_ne {ds : List Nat} (hlt : ∀ d ∈ ds, d < 10) (hne : ds ≠ [])
    (hhead : ds.head? ≠ some 0) : Leading ds := ⟨hlt, hne, fun h => absurd h hhead⟩

theorem spanDigits_digits {ds : List Nat} {rest : List Char} (hlt : ∀ d ∈ ds, d < 10)
    (hrest : Stops digit? rest) :
    spanDigits digit? (ds.map Nat.digitChar ++ rest) = (ds, rest) := by
  rw [spanDigits_append hrest, spanDigits_map_digitChar (fun _ => digit?_digitChar) hlt]
  rfl

theorem lexFraction_digits {ds : List Nat} {rest : List Char} (hlt : ∀ d ∈ ds, d < 10)
    (hne : ds ≠ []) (hrest : Stops digit? rest) :
    lexFraction ('.' :: (ds.map Nat.digitChar ++ rest)) = some ((true, ds), rest) := by
  simp [lexFraction, spanDigits_digits hlt hrest, hne]

theorem lexPower_digits {negative : Bool} {ds : List Nat} (hlt : ∀ d ∈ ds, d < 10)
    (hne : ds ≠ []) :
    lexPower negative (ds.map Nat.digitChar) = some (some (negative, ds), []) := by
  have hspan := spanDigits_digits hlt (stops_nil : Stops digit? [])
  rw [List.append_nil] at hspan
  simp [lexPower, hspan, hne]

theorem lexNumeral_digits (negative : Bool) {pointed : Bool} {ds fraction : List Nat}
    {exponent : Option (Bool × List Nat)} {cs cs' left : List Char} (hds : Leading ds)
    (hcs : Stops digit? cs) (hfraction : lexFraction cs = some ((pointed, fraction), cs'))
    (hexponent : lexExponent cs' = some (exponent, left)) :
    lexNumeral negative (ds.map Nat.digitChar ++ cs) =
      some (⟨negative, ds, fraction, pointed, exponent⟩, left) := by
  have hlead : ds.head? = some 0 → ds.length = 1 := fun h => congrArg List.length (hds.lead h)
  unfold lexNumeral
  simpa [spanDigits_digits hds.lt hcs, hfraction, hexponent, hds.nonempty] using hlead

/-- The text of a numeral with its sign. -/
theorem prints_numeral {negative : Bool} {cs : List Char} {n : Numeral}
    (h : lexNumeral negative cs = some (n, [])) :
    Prints ((if negative then ['-'] else []) ++ cs) [.number n] := by
  refine ⟨?_, by simp⟩
  cases negative with
  | true =>
    have hlex : lexToken '-' cs = (.number n, []) := by simp only [lexToken, h]
    rw [if_pos rfl, List.singleton_append, tokens_cons rfl, hlex]
    rfl
  | false =>
    cases cs with
    | nil => cases h
    | cons c cs =>
      have hdigit := digit_of_lexNumeral h
      have hspace : isSpace c = false := by
        refine Bool.eq_false_iff.2 fun hspace => ?_
        have hblank : c = ' ' ∨ c = '\n' ∨ c = '\t' ∨ c = '\r' := by
          simpa [isSpace, or_assoc] using hspace
        rcases hblank with rfl | rfl | rfl | rfl <;> exact absurd hdigit (by decide)
      rw [if_neg Bool.false_ne_true, List.nil_append, tokens_cons hspace,
        lexToken_of_digit hdigit, h]
      rfl

/-! ## Whole numbers -/

theorem toList_toString (n : Int) :
    (toString n).toList = (if n < 0 then ['-'] else []) ++ Nat.toDigits 10 n.natAbs := by
  cases n with
  | ofNat n => simp [toString, Int.repr]
  | negSucc n => simp [toString, Int.repr, Int.negSucc_lt_zero]

theorem prints_whole (n : Int) : ∃ ds, Spelling 10 ds n.natAbs ∧
    Prints (toString n).toList [.number ⟨decide (n < 0), ds, [], false, none⟩] := by
  obtain ⟨ds, hds⟩ := exists_spelling (by decide : 1 < 10) n.natAbs
  have hlex : lexNumeral (decide (n < 0)) (ds.map Nat.digitChar ++ []) =
      some (⟨decide (n < 0), ds, [], false, none⟩, []) :=
    lexNumeral_digits _ (leading_of_spelling hds) stops_nil rfl rfl
  rw [List.append_nil] at hlex
  have hprints := prints_numeral hlex
  refine ⟨ds, hds, ?_⟩
  rw [toList_toString, hds.chars]
  simpa using hprints

/-! ## Fractions -/

theorem ratio_scaled_pos {r : Ratio} (h : 0 < r.num) (e : Int) : 0 < (r.scaled e).num := by
  unfold Ratio.scaled
  split
  · exact h
  · exact Nat.mul_pos h (Nat.pow_pos (by decide))

theorem ratio_binary_pos {n : Nat} (h : 0 < n) (e : Int) : 0 < (Ratio.binary n e).num := by
  unfold Ratio.binary
  split
  · rw [Nat.shiftLeft_eq]
    exact Nat.mul_pos h (Nat.two_pow_pos _)
  · exact h

/-- Zero is not between the halfway points around a positive number. -/
theorem onGrid_pos {tie : Tie} {significand : Nat} {exponent place : Int} {s : Scaled}
    (hpos : 0 < significand) (h : onGrid tie significand exponent place = some s) :
    0 < s.digits := by
  unfold onGrid at h
  dsimp only at h
  have hquarters : 0 < 4 * significand - if significand = hiddenBit ∧ exponent ≠ -1074 then 1
      else 2 := by
    split <;> omega
  have hlow := ratio_scaled_pos (ratio_binary_pos hquarters (exponent - 2)) place
  generalize Ratio.scaled (.binary (4 * significand - _) (exponent - 2)) place = low at h hlow
  generalize Ratio.scaled (.binary (4 * significand) (exponent - 2)) place = mid at h
  generalize Ratio.scaled (.binary (4 * significand + 2) (exponent - 2)) place = high at h
  split at h
  · next hinside =>
    rw [← Option.some.inj h]
    refine Nat.pos_of_ne_zero fun (hzero : mid.num / mid.den = 0) => ?_
    have hover := (Bool.and_eq_true_iff.1 (Bool.and_eq_true_iff.1 hinside).1).1
    simp [hzero, Nat.ne_of_gt hlow] at hover
  · split at h
    · rw [← Option.some.inj h]
      exact Nat.succ_pos _
    · cases h

theorem trimmed_pos {s : Scaled} (h : 0 < s.digits) : 0 < s.trimmed.digits := by
  fun_induction Scaled.trimmed s with
  | case1 s hzero ih => exact ih (by simp only; omega)
  | case2 s _ => exact h

theorem shortest_pos (tie : Tie) {significand : Nat} (hpos : 0 < significand) (exponent : Int) :
    0 < (shortest tie significand exponent).digits := by
  unfold shortest
  refine trimmed_pos ?_
  generalize hfound : List.findSome? _ _ = found
  cases found with
  | none => exact hpos
  | some s =>
    obtain ⟨n, -, hs⟩ := List.exists_of_findSome?_eq_some hfound
    exact onGrid_pos hpos hs

/-- A numeral with a point and without an exponent. -/
theorem lexNumeral_point (negative : Bool) {ds fraction : List Nat} (hds : Leading ds)
    (hlt : ∀ d ∈ fraction, d < 10) (hne : fraction ≠ []) :
    lexNumeral negative (ds.map Nat.digitChar ++ '.' :: fraction.map Nat.digitChar) =
      some (⟨negative, ds, fraction, true, none⟩, []) := by
  have hfraction := lexFraction_digits hlt hne (stops_nil : Stops digit? [])
  rw [List.append_nil] at hfraction
  exact lexNumeral_digits negative hds (stops_cons.2 rfl) hfraction rfl

/-- The exponent of a number whose point stands after so many digits. -/
theorem lexExponent_exchange (point : Int) : ∃ exponent,
    lexExponent ((if 0 < point then "e+" else "e").toList ++ (toString (point - 1)).toList) =
      some (some exponent, []) := by
  obtain ⟨ds, hds⟩ := exists_spelling (by decide : 1 < 10) (point - 1).natAbs
  have hpower (negative : Bool) : lexPower negative (ds.map Nat.digitChar) = _ :=
    lexPower_digits hds.lt hds.nonempty
  rw [toList_toString, hds.chars]
  by_cases hpoint : 0 < point
  · rw [if_pos hpoint, if_neg (by omega)]
    exact ⟨_, hpower false⟩
  · rw [if_neg hpoint, if_pos (by omega)]
    exact ⟨_, hpower true⟩

/-- No zero leads the digits of a positive number. -/
theorem exists_spelling_of_pos {n : Nat} (hpos : 0 < n) :
    ∃ ds, Spelling 10 ds n ∧ ds.head? ≠ some 0 := by
  obtain ⟨ds, hds⟩ := exists_spelling (by decide : 1 < 10) n
  refine ⟨ds, hds, fun hzero => ?_⟩
  have hvalue := hds.value
  rw [hds.lead hzero] at hvalue
  exact Nat.ne_of_lt hpos hvalue

theorem toList_zeros (n : Nat) : (zeros n).toList = (List.replicate n 0).map Nat.digitChar := by
  simp [zeros, Nat.digitChar]

theorem lt_of_mem_replicate {n d : Nat} (h : d ∈ List.replicate n 0) : d < 10 := by
  rw [List.eq_of_mem_replicate h]
  decide

theorem lexNumeral_positional_of_nonneg (negative : Bool) {s : Scaled} (hpos : 0 < s.digits)
    (hexponent : 0 ≤ s.exponent) :
    ∃ n, lexNumeral negative (s.positional ++ ".0").toList = some (n, []) := by
  obtain ⟨ds, hds, hhead⟩ := exists_spelling_of_pos hpos
  have hleading : Leading (ds ++ List.replicate s.exponent.toNat 0) := by
    refine leading_of_head_ne (fun d hd => ?_) (List.append_ne_nil_of_left_ne_nil hds.nonempty _) ?_
    · exact (List.mem_append.1 hd).elim (hds.lt d) lt_of_mem_replicate
    · obtain ⟨d, ds, rfl⟩ := List.exists_cons_of_ne_nil hds.nonempty
      exact hhead
  have htext : (s.positional ++ ".0").toList =
      (ds ++ List.replicate s.exponent.toNat 0).map Nat.digitChar ++
        '.' :: [0].map Nat.digitChar := by
    simp [Scaled.positional, Scaled.text, hexponent, hds.chars, toList_zeros, Nat.digitChar]
  rw [htext]
  exact ⟨_, lexNumeral_point negative hleading (by decide) (List.cons_ne_nil 0 [])⟩

theorem lexNumeral_positional_of_neg (negative : Bool) {s : Scaled} (hpos : 0 < s.digits)
    (hexponent : s.exponent < 0) :
    ∃ n, lexNumeral negative s.positional.toList = some (n, []) := by
  obtain ⟨ds, hds, hhead⟩ := exists_spelling_of_pos hpos
  have htext : s.text.toList = ds.map Nat.digitChar := by
    rw [Scaled.text, Nat.toList_repr, hds.chars]
  have hlength : s.text.length = ds.length := by rw [← String.length_toList, htext, List.length_map]
  unfold Scaled.positional
  rw [if_neg (Int.not_le.2 hexponent), hlength]
  split
  · next hpoint =>
    -- The point stands between two digits.
    generalize hplace : ((ds.length : Int) + s.exponent).toNat = place
    have hplace : 0 < place ∧ place < ds.length := by omega
    have hleading : Leading (ds.take place) := by
      refine leading_of_head_ne (fun d hd => hds.lt d (List.mem_of_mem_take hd)) ?_ ?_
      · simpa [hds.nonempty] using Nat.ne_of_gt hplace.1
      · rwa [List.head?_take, if_neg (Nat.ne_of_gt hplace.1)]
    have hdrop : ds.drop place ≠ [] := by simpa using hplace.2
    have hnumeral := lexNumeral_point negative hleading
      (fun d hd => hds.lt d (List.mem_of_mem_drop hd)) hdrop
    simp only [String.toList_append, String.toList_ofList, htext, ← List.map_take, ← List.map_drop,
      List.append_assoc]
    exact ⟨_, hnumeral⟩
  · generalize (-((ds.length : Int) + s.exponent)).toNat = gap
    have hlt : ∀ d ∈ List.replicate gap 0 ++ ds, d < 10 := fun d hd =>
      (List.mem_append.1 hd).elim lt_of_mem_replicate (hds.lt d)
    have hzero : Leading [0] := ⟨by decide, by decide, fun _ => rfl⟩
    have hnumeral := lexNumeral_point negative hzero hlt
      (List.append_ne_nil_of_right_ne_nil _ hds.nonempty)
    simp only [String.toList_append, toList_zeros, htext, List.append_assoc, ← List.map_append]
    exact ⟨_, hnumeral⟩

/-- One digit before the point, and an exponent. -/
theorem lexNumeral_scientific (negative : Bool) {s : Scaled} (hpos : 0 < s.digits) (point : Int) :
    ∃ n, lexNumeral negative
      (String.ofList (s.text.toList.take 1) ++
        (if (String.ofList (s.text.toList.drop 1)).isEmpty then ""
          else "." ++ String.ofList (s.text.toList.drop 1)) ++
        (if 0 < point then "e+" else "e") ++ toString (point - 1)).toList = some (n, []) := by
  obtain ⟨ds, hds, hhead⟩ := exists_spelling_of_pos hpos
  have htext : s.text.toList = ds.map Nat.digitChar := by
    rw [Scaled.text, Nat.toList_repr, hds.chars]
  obtain ⟨d, ds, rfl⟩ := List.exists_cons_of_ne_nil hds.nonempty
  obtain ⟨hd, hlt⟩ := List.forall_mem_cons.1 hds.lt
  obtain ⟨exponent, hexponent⟩ := lexExponent_exchange point
  have hpower : ∃ cs, (if 0 < point then "e+" else "e").toList ++ (toString (point - 1)).toList =
      'e' :: cs := by
    split
    · exact ⟨_, rfl⟩
    · exact ⟨_, rfl⟩
  simp only [String.toList_append, List.append_assoc]
  generalize (if 0 < point then "e+" else "e").toList ++ (toString (point - 1)).toList = power at *
  obtain ⟨cs, rfl⟩ := hpower
  have hstops : Stops digit? ('e' :: cs) := stops_cons.2 rfl
  have hleading : Leading [d] :=
    leading_of_head_ne (List.forall_mem_singleton.2 hd) (List.cons_ne_nil d []) hhead
  cases ds with
  | nil =>
    have hnumeral := lexNumeral_digits negative hleading hstops
      (lexFraction_of_ends (by simp)) hexponent
    exact ⟨_, by simpa [htext] using hnumeral⟩
  | cons e ds =>
    have hfraction := lexFraction_digits hlt (List.cons_ne_nil e ds) hstops
    have hnumeral := lexNumeral_digits negative hleading (stops_cons.2 rfl) hfraction
      hexponent
    exact ⟨_, by simpa [htext] using hnumeral⟩

theorem toList_signed (negative : Bool) (text : String) :
    (signed negative text).toList = (if negative then ['-'] else []) ++ text.toList := by
  cases negative <;> simp [signed]

/-- A fraction is written as a numeral, and what is no finite number as `null`. -/
theorem prints_exchange (x : Float) : Prints (exchange x).toList [.null] ∨
    ∃ n, Prints (exchange x).toList [.number n] := by
  have hnumeral {negative : Bool} {text : String}
      (h : ∃ n, lexNumeral negative text.toList = some (n, [])) :
      ∃ n, Prints (signed negative text).toList [.number n] := by
    obtain ⟨n, h⟩ := h
    rw [toList_signed]
    exact ⟨n, prints_numeral h⟩
  unfold exchange
  split
  · exact .inl ⟨by decide, by decide⟩
  · exact .inl ⟨by decide, by decide⟩
  · next negative _ _ => exact .inr (hnumeral ⟨⟨negative, [0], [0], true, none⟩, rfl⟩)
  · next negative significand exponent hzero _ =>
    have hpos := shortest_pos .toEven (Nat.pos_of_ne_zero hzero) exponent
    dsimp only
    refine .inr (hnumeral ?_)
    split
    · next hwhole => exact lexNumeral_positional_of_nonneg negative hpos hwhole.1
    split
    · next hwhole hplain =>
      exact lexNumeral_positional_of_neg negative hpos (Int.not_le.1 fun h => hwhole ⟨h, hplain.2⟩)
    · exact lexNumeral_scientific negative hpos _

end ControlPlane.Json
