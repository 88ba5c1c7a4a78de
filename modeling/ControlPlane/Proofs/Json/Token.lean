import ControlPlane.Json.Token
import ControlPlane.Proofs.Text.Digits

/-!
# Texts cut into tokens

The tokens of a text are those of its parts, one part after the other.

* `Pieced` says how a string is cut into pieces.  `Pieced.of_lexPieces` and `Pieced.lexPieces`
  say that this is what is done.
* `lexToken_append` says that a token stays what it is if something comes after it.  Only a
  numeral could go on, and `Ends` is what keeps it from that.
* `lex_eq` takes the bound out of `lex`: every token takes a character, so that any bound
  that is at least the length of the text gives the same tokens.  `tokens_space` and
  `tokens_cons` are the equations that this leaves, and `tokens_append` is the law for texts.
-/

namespace ControlPlane.Json

open Text

/-! ## Strings -/

/-- The text is that of the pieces of a string with its closing quote, and then the rest. -/
inductive Pieced : List Char → List Piece → List Char → Prop
  | close (rest : List Char) : Pieced ('"' :: rest) [] rest
  | unit {a b c d : Char} {n : Nat} {cs left : List Char} {ps : List Piece}
      (hunit : codeUnit? [a, b, c, d] = some n) (h : Pieced cs ps left) :
      Pieced ('\\' :: 'u' :: a :: b :: c :: d :: cs) (.unit n :: ps) left
  | escape {e c : Char} {cs left : List Char} {ps : List Piece} (hescape : escaped? e = some c)
      (h : Pieced cs ps left) : Pieced ('\\' :: e :: cs) (.char c :: ps) left
  | char {c : Char} {cs left : List Char} {ps : List Piece} (hquote : c ≠ '"') (hslash : c ≠ '\\')
      (hcontrol : 32 ≤ c.toNat) (h : Pieced cs ps left) : Pieced (c :: cs) (.char c :: ps) left

theorem Pieced.of_lexPieces {cs left : List Char} {ps : List Piece}
    (h : lexPieces cs = some (ps, left)) : Pieced cs ps left := by
  fun_induction lexPieces cs generalizing ps with
  | case1 => cases h
  | case2 rest =>
    obtain ⟨rfl, rfl⟩ := Prod.mk.inj (Option.some.inj h)
    exact .close _
  | case3 a b c d rest ih =>
    obtain ⟨n, hn, h⟩ := Option.bind_eq_some_iff.1 h
    obtain ⟨⟨ps', left'⟩, hrest, h⟩ := Option.bind_eq_some_iff.1 h
    obtain ⟨rfl, rfl⟩ := Prod.mk.inj (Option.some.inj h)
    exact .unit hn (ih hrest)
  | case4 e rest _ ih =>
    obtain ⟨c, hc, h⟩ := Option.bind_eq_some_iff.1 h
    obtain ⟨⟨ps', left'⟩, hrest, h⟩ := Option.bind_eq_some_iff.1 h
    obtain ⟨rfl, rfl⟩ := Prod.mk.inj (Option.some.inj h)
    exact .escape hc (ih hrest)
  | case5 => cases h
  | case6 c rest hquote _ hslash _ hcontrol =>
    next ih =>
    obtain ⟨⟨ps', left'⟩, hrest, h⟩ := Option.bind_eq_some_iff.1 h
    obtain ⟨rfl, rfl⟩ := Prod.mk.inj (Option.some.inj h)
    refine .char hquote ?_ (Nat.le_of_not_lt hcontrol) (ih hrest)
    rintro rfl
    obtain _ | ⟨e, rest⟩ := rest
    · cases hrest
    · exact hslash e rest rfl rfl

theorem Pieced.lexPieces {cs left : List Char} {ps : List Piece} (h : Pieced cs ps left) :
    lexPieces cs = some (ps, left) := by
  induction h with
  | close rest => rfl
  | unit hunit _ ih => simp [Json.lexPieces, hunit, ih]
  | @escape e c cs left ps hescape _ ih =>
    -- The escape is not that of a code unit.
    have hu : e ≠ 'u' := by
      rintro rfl
      cases hescape
    simp [Json.lexPieces, hu, hescape, ih]
  | char hquote hslash hcontrol _ ih =>
    simp [Json.lexPieces, hslash, Nat.not_lt.2 hcontrol, ih]

theorem Pieced.append {cs left : List Char} {ps : List Piece} (h : Pieced cs ps left)
    (rest : List Char) : Pieced (cs ++ rest) ps (left ++ rest) := by
  induction h with
  | close => exact .close _
  | unit hunit _ ih => exact .unit hunit ih
  | escape hescape _ ih => exact .escape hescape ih
  | char hquote hslash hcontrol _ ih => exact .char hquote hslash hcontrol ih

theorem Pieced.length_lt {cs left : List Char} {ps : List Piece} (h : Pieced cs ps left) :
    left.length < cs.length := by
  induction h with
  | close => exact Nat.lt_succ_self _
  | unit _ _ ih => exact Nat.lt_of_lt_of_le ih (by simp; omega)
  | escape _ _ ih => exact Nat.lt_of_lt_of_le ih (by simp; omega)
  | char _ _ _ _ ih => exact Nat.lt_succ_of_lt ih

/-! ## Numerals -/

/-- A numeral does not go on with the text. -/
def Ends (cs : List Char) : Prop :=
  ∀ c ∈ cs.head?, digit? c = none ∧ c ≠ '.' ∧ c ≠ 'e' ∧ c ≠ 'E'

theorem ends_cons {c : Char} {cs : List Char} :
    Ends (c :: cs) ↔ digit? c = none ∧ c ≠ '.' ∧ c ≠ 'e' ∧ c ≠ 'E' := by
  simp [Ends]

theorem Ends.stops {cs : List Char} (h : Ends cs) : Stops digit? cs := fun c hc => (h c hc).1

theorem lexFraction_of_ends {cs : List Char} (h : cs.head? ≠ some '.') :
    lexFraction cs = some ((false, []), cs) := by
  unfold lexFraction
  split
  · simp at h
  · rfl

theorem lexFraction_append {cs left more : List Char} {r : Bool × List Nat}
    (h : lexFraction cs = some (r, left)) (hmore : Ends more) :
    lexFraction (cs ++ more) = some (r, left ++ more) := by
  by_cases hpoint : cs.head? = some '.'
  · obtain ⟨cs, rfl⟩ : ∃ rest, cs = '.' :: rest := List.head?_eq_some_iff.1 hpoint
    simp only [lexFraction, List.cons_append, spanDigits_append hmore.stops] at h ⊢
    generalize spanDigits digit? cs = out at h ⊢
    split at h
    · cases h
    · next hsome =>
      obtain ⟨rfl, rfl⟩ := Prod.mk.inj (Option.some.inj h)
      rw [if_neg hsome]
  · rw [lexFraction_of_ends hpoint] at h
    obtain ⟨rfl, rfl⟩ := Prod.mk.inj (Option.some.inj h)
    refine lexFraction_of_ends ?_
    cases cs with
    | nil => exact fun hdot => (hmore '.' hdot).2.1 rfl
    | cons c cs => exact hpoint

theorem lexPower_append {negative : Bool} {cs left more : List Char} {r : Option (Bool × List Nat)}
    (h : lexPower negative cs = some (r, left)) (hmore : Ends more) :
    lexPower negative (cs ++ more) = some (r, left ++ more) := by
  simp only [lexPower, spanDigits_append hmore.stops] at h ⊢
  generalize spanDigits digit? cs = out at h ⊢
  split at h
  · cases h
  · next hsome =>
    obtain ⟨rfl, rfl⟩ := Prod.mk.inj (Option.some.inj h)
    rw [if_neg hsome]

theorem lexExponent_unsigned {c : Char} {cs : List Char} (hc : c = 'e' ∨ c = 'E')
    (hplus : cs.head? ≠ some '+') (hminus : cs.head? ≠ some '-') :
    lexExponent (c :: cs) = lexPower false cs := by
  rcases hc with rfl | rfl
  all_goals
    unfold lexExponent
    split <;> simp_all

theorem lexExponent_of_ends {cs : List Char} (h : cs.head? ≠ some 'e') (h' : cs.head? ≠ some 'E') :
    lexExponent cs = some (none, cs) := by
  unfold lexExponent
  split <;> simp_all

theorem lexExponent_append {cs left more : List Char} {r : Option (Bool × List Nat)}
    (h : lexExponent cs = some (r, left)) (hmore : Ends more) :
    lexExponent (cs ++ more) = some (r, left ++ more) := by
  -- An exponent without a sign has a digit, so what comes after it is not its sign.
  have hunsigned {c : Char} {rest : List Char} (hc : c = 'e' ∨ c = 'E')
      (hplus : ∀ cs, rest ≠ '+' :: cs) (hminus : ∀ cs, rest ≠ '-' :: cs)
      (h : lexPower false rest = some (r, left)) :
      lexExponent (c :: (rest ++ more)) = some (r, left ++ more) := by
    cases rest with
    | nil => cases h
    | cons d rest =>
      rw [lexExponent_unsigned hc]
      · exact lexPower_append h hmore
      · exact fun hd => hplus rest (by rw [← Option.some.inj hd])
      · exact fun hd => hminus rest (by rw [← Option.some.inj hd])
  unfold lexExponent at h
  split at h
  · exact lexPower_append h hmore
  · exact lexPower_append h hmore
  · exact lexPower_append h hmore
  · exact lexPower_append h hmore
  · next hplus hminus => exact hunsigned (.inl rfl) hplus hminus h
  · next hplus hminus => exact hunsigned (.inr rfl) hplus hminus h
  · next he hE =>
    obtain ⟨rfl, rfl⟩ := Prod.mk.inj (Option.some.inj h)
    cases cs with
    | nil =>
      exact lexExponent_of_ends (fun hc => (hmore 'e' hc).2.2.1 rfl)
        fun hc => (hmore 'E' hc).2.2.2 rfl
    | cons c cs =>
      refine lexExponent_of_ends (fun hc => he cs ?_) fun hc => hE cs ?_
      · rw [← Option.some.inj hc]
      · rw [← Option.some.inj hc]

theorem lexNumeral_append {negative : Bool} {cs left more : List Char} {n : Numeral}
    (h : lexNumeral negative cs = some (n, left)) (hmore : Ends more) :
    lexNumeral negative (cs ++ more) = some (n, left ++ more) := by
  unfold lexNumeral at h ⊢
  rw [spanDigits_append hmore.stops]
  generalize spanDigits digit? cs = out at h ⊢
  obtain ⟨whole, rest⟩ := out
  dsimp only at h ⊢
  split at h
  · cases h
  · next hwhole =>
    obtain ⟨⟨⟨pointed, fraction⟩, rest'⟩, hfraction, h⟩ := Option.bind_eq_some_iff.1 h
    obtain ⟨⟨exponent, rest''⟩, hexponent, h⟩ := Option.bind_eq_some_iff.1 h
    obtain ⟨rfl, rfl⟩ := Prod.mk.inj (Option.some.inj h)
    rw [if_neg hwhole]
    simp [lexFraction_append hfraction hmore, lexExponent_append hexponent hmore]

theorem length_spanDigits {digit : Char → Option Nat} (cs : List Char) :
    (spanDigits digit cs).1.length + (spanDigits digit cs).2.length = cs.length := by
  induction cs with
  | nil => rfl
  | cons c cs ih =>
    unfold spanDigits
    cases digit c with
    | none => exact Nat.zero_add _
    | some d =>
      show (spanDigits digit cs).1.length + 1 + (spanDigits digit cs).2.length = cs.length + 1
      omega

theorem lexPower_length_le {negative : Bool} {cs left : List Char} {r : Option (Bool × List Nat)}
    (h : lexPower negative cs = some (r, left)) : left.length ≤ cs.length := by
  have hspan : (spanDigits digit? cs).1.length + _ = _ := length_spanDigits cs
  unfold lexPower at h
  generalize spanDigits digit? cs = out at h hspan
  dsimp only at h
  split at h
  · cases h
  · obtain ⟨-, rfl⟩ := Prod.mk.inj (Option.some.inj h)
    omega

theorem lexFraction_length_le {cs left : List Char} {r : Bool × List Nat}
    (h : lexFraction cs = some (r, left)) : left.length ≤ cs.length := by
  unfold lexFraction at h
  split at h
  · next rest =>
    have hspan : (spanDigits digit? rest).1.length + _ = _ := length_spanDigits rest
    dsimp only at h
    split at h
    · cases h
    · obtain ⟨-, rfl⟩ := Prod.mk.inj (Option.some.inj h)
      rw [List.length_cons]
      omega
  · obtain ⟨-, rfl⟩ := Prod.mk.inj (Option.some.inj h)
    exact Nat.le_refl _

theorem lexExponent_length_le {cs left : List Char} {r : Option (Bool × List Nat)}
    (h : lexExponent cs = some (r, left)) : left.length ≤ cs.length := by
  unfold lexExponent at h
  split at h
  case h_7 =>
    obtain ⟨-, rfl⟩ := Prod.mk.inj (Option.some.inj h)
    exact Nat.le_refl _
  all_goals
    have hle := lexPower_length_le h
    simp only [List.length_cons]
    omega

theorem lexNumeral_length_lt {negative : Bool} {cs left : List Char} {n : Numeral}
    (h : lexNumeral negative cs = some (n, left)) : left.length < cs.length := by
  have hspan : (spanDigits digit? cs).1.length + _ = _ := length_spanDigits cs
  unfold lexNumeral at h
  generalize spanDigits digit? cs = out at h hspan
  obtain ⟨whole, rest⟩ := out
  dsimp only at h hspan
  split at h
  · cases h
  · next hwhole =>
    obtain ⟨⟨⟨pointed, fraction⟩, rest'⟩, hfraction, h⟩ := Option.bind_eq_some_iff.1 h
    obtain ⟨⟨exponent, rest''⟩, hexponent, h⟩ := Option.bind_eq_some_iff.1 h
    obtain ⟨-, rfl⟩ := Prod.mk.inj (Option.some.inj h)
    have hle := lexFraction_length_le hfraction
    have hle' := lexExponent_length_le hexponent
    have hpos : 0 < whole.length := List.length_pos_iff.2 fun hnil => by simp [hnil] at hwhole
    dsimp only at hle hle' ⊢
    omega

/-! ## Tokens -/

/-- A character that starts neither a name nor a string nor a negative numeral. -/
theorem lexToken_of_digit {c : Char} (h : (digit? c).isSome = true) (rest : List Char) :
    lexToken c rest =
      match lexNumeral false (c :: rest) with
      | some (n, rest) => (.number n, rest)
      | none => (.bad, []) := by
  unfold lexToken
  split
  case h_12 => rfl
  all_goals exact absurd h (by decide)

theorem digit_of_lexNumeral {negative : Bool} {c : Char} {cs left : List Char} {n : Numeral}
    (h : lexNumeral negative (c :: cs) = some (n, left)) : (digit? c).isSome = true := by
  unfold lexNumeral spanDigits at h
  cases hc : digit? c with
  | some d => rfl
  | none => simp [hc] at h

/-- A token stays what it is if something comes after it with which a numeral does not go
on. -/
theorem lexToken_append {c : Char} {rest left more : List Char} {t : Token}
    (h : lexToken c rest = (t, left)) (ht : t ≠ .bad) (hmore : Ends more) :
    lexToken c (rest ++ more) = (t, left ++ more) := by
  unfold lexToken at h
  split at h
  case h_10 =>
    cases hpieces : lexPieces rest with
    | none =>
      rw [hpieces] at h
      exact absurd (Prod.mk.inj h).1.symm ht
    | some out =>
      obtain ⟨ps, left'⟩ := out
      rw [hpieces] at h
      obtain ⟨rfl, rfl⟩ := Prod.mk.inj h
      have happend := ((Pieced.of_lexPieces hpieces).append more).lexPieces
      simp only [lexToken, happend]
  case h_11 =>
    cases hnumeral : lexNumeral true rest with
    | none =>
      rw [hnumeral] at h
      exact absurd (Prod.mk.inj h).1.symm ht
    | some out =>
      obtain ⟨n, left'⟩ := out
      rw [hnumeral] at h
      obtain ⟨rfl, rfl⟩ := Prod.mk.inj h
      simp only [lexToken, lexNumeral_append hnumeral hmore]
  case h_12 =>
    cases hnumeral : lexNumeral false (c :: rest) with
    | none =>
      rw [hnumeral] at h
      exact absurd (Prod.mk.inj h).1.symm ht
    | some out =>
      obtain ⟨n, left'⟩ := out
      rw [hnumeral] at h
      obtain ⟨rfl, rfl⟩ := Prod.mk.inj h
      have happend := lexNumeral_append hnumeral hmore
      rw [List.cons_append] at happend
      rw [lexToken_of_digit (digit_of_lexNumeral hnumeral), happend]
  all_goals
    obtain ⟨rfl, rfl⟩ := Prod.mk.inj h
    rfl

theorem lexToken_length_le (c : Char) (rest : List Char) :
    (lexToken c rest).2.length ≤ rest.length := by
  unfold lexToken
  split
  case h_10 =>
    cases hpieces : lexPieces rest with
    | none => exact Nat.zero_le _
    | some out => exact Nat.le_of_lt (Pieced.of_lexPieces hpieces).length_lt
  case h_11 =>
    cases hnumeral : lexNumeral true rest with
    | none => exact Nat.zero_le _
    | some out => exact Nat.le_of_lt (lexNumeral_length_lt hnumeral)
  case h_12 =>
    cases hnumeral : lexNumeral false (c :: rest) with
    | none => exact Nat.zero_le _
    | some out => exact Nat.le_of_lt_succ (lexNumeral_length_lt hnumeral)
  all_goals
    simp only [List.length_cons]
    omega

/-! ## Texts -/

/-- Any bound that is at least the length of a text gives its tokens. -/
theorem lex_eq {n m : Nat} {cs : List Char} (hn : cs.length ≤ n) (hm : cs.length ≤ m) :
    lex n cs = lex m cs := by
  induction n generalizing m cs with
  | zero =>
    obtain rfl := List.length_eq_zero_iff.1 (Nat.le_zero.1 hn)
    cases m <;> rfl
  | succ n ih =>
    cases cs with
    | nil => cases m <;> rfl
    | cons c cs =>
      obtain ⟨m, rfl⟩ : ∃ k, m = k + 1 := ⟨m - 1, by simp at hm; omega⟩
      have hn' := Nat.le_of_succ_le_succ hn
      have hm' := Nat.le_of_succ_le_succ hm
      have hleft := lexToken_length_le c cs
      unfold lex
      split
      · exact ih hn' hm'
      · exact congrArg _ (ih (Nat.le_trans hleft hn') (Nat.le_trans hleft hm'))

theorem tokens_space {c : Char} {cs : List Char} (hc : isSpace c = true) :
    tokens (c :: cs) = tokens cs := if_pos hc

theorem tokens_cons {c : Char} {cs : List Char} (hc : isSpace c = false) :
    tokens (c :: cs) = (lexToken c cs).1 :: tokens (lexToken c cs).2 := by
  have hleft : lex cs.length (lexToken c cs).2 = tokens (lexToken c cs).2 :=
    lex_eq (lexToken_length_le c cs) (Nat.le_refl _)
  simp only [tokens, List.length_cons, lex, hc, Bool.false_eq_true, if_false] at hleft ⊢
  rw [hleft]

/-- The tokens of a text are those of its parts, if no numeral reaches from one to the
other. -/
theorem tokens_append {cs more : List Char} (hcs : .bad ∉ tokens cs) (hmore : Ends more) :
    tokens (cs ++ more) = tokens cs ++ tokens more := by
  induction hn : cs.length using Nat.strongRecOn generalizing cs with
  | ind n ih =>
    cases cs with
    | nil => rfl
    | cons c cs =>
      have hlength : cs.length < n := by
        rw [← hn]
        exact Nat.lt_succ_self _
      rw [List.cons_append]
      cases hc : isSpace c with
      | true =>
        rw [tokens_space hc] at hcs ⊢
        rw [tokens_space hc]
        exact ih _ hlength hcs rfl
      | false =>
        rw [tokens_cons hc] at hcs ⊢
        rw [tokens_cons hc]
        obtain ⟨hbad, hleft⟩ := not_or.1 (mt List.mem_cons.2 hcs)
        rw [lexToken_append (t := (lexToken c cs).1) rfl (fun h => hbad h.symm) hmore]
        have hthen := ih _ (Nat.lt_of_le_of_lt (lexToken_length_le c cs) hlength) hleft rfl
        exact congrArg _ hthen

end ControlPlane.Json
