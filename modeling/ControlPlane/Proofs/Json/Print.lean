import ControlPlane.Json.Value
import ControlPlane.Proofs.Json.Token

/-!
# Texts and their tokens

`Prints` relates a text to its tokens.  The lemmas below it put texts together, and
`prints_quoted` is the text of a string in quotes: what is escaped in it is read as what
it was.
-/

namespace ControlPlane.Json

open Text

/-- The characters are a text of some tokens. -/
structure Prints (cs : List Char) (ts : List Token) : Prop where
  eq : tokens cs = ts
  whole : .bad ∉ ts

/-- The characters that are tokens by themselves. -/
def signs : List (Char × Token) :=
  [('\x7b', .leftBrace), ('\x7d', .rightBrace), ('[', .leftBracket), (']', .rightBracket),
    (':', .colon), (',', .comma)]

namespace Prints

variable {cs more : List Char} {ts us : List Token} {c : Char} {t : Token}

theorem nil : Prints [] [] := ⟨rfl, List.not_mem_nil⟩

theorem space (hc : isSpace c = true) (h : Prints cs ts) : Prints (c :: cs) ts :=
  ⟨(tokens_space hc).trans h.eq, h.whole⟩

theorem spaces {blanks : List Char} (hblanks : ∀ c ∈ blanks, isSpace c = true)
    (h : Prints cs ts) : Prints (blanks ++ cs) ts := by
  induction blanks with
  | nil => exact h
  | cons c blanks ih =>
    obtain ⟨hc, hblanks⟩ := List.forall_mem_cons.1 hblanks
    exact .space hc (ih hblanks)

theorem sign (hsign : (c, t) ∈ signs) (h : Prints cs ts) : Prints (c :: cs) (t :: ts) := by
  have hall : ∀ p ∈ signs, isSpace p.1 = false ∧ p.2 ≠ .bad := by decide
  have hlex : ∀ p ∈ signs, lexToken p.1 cs = (p.2, cs) := by
    simp only [signs, List.forall_mem_cons]
    exact ⟨rfl, rfl, rfl, rfl, rfl, rfl, nofun⟩
  obtain ⟨hspace, hbad⟩ := hall _ hsign
  refine ⟨?_, List.not_mem_cons_of_ne_of_not_mem hbad.symm h.whole⟩
  rw [tokens_cons hspace, hlex _ hsign, h.eq]

theorem append (h : Prints cs ts) (hmore : Prints more us) (hends : Ends more) :
    Prints (cs ++ more) (ts ++ us) := by
  have hcs : .bad ∉ tokens cs := h.eq ▸ h.whole
  refine ⟨?_, fun hbad => (List.mem_append.1 hbad).elim h.whole hmore.whole⟩
  rw [tokens_append hcs hends, h.eq, hmore.eq]

end Prints

/-! ## Strings -/

/-- The characters that are written as a backslash and a letter, with the letter. -/
def letters : List (Char × Char) :=
  [('"', '"'), ('\\', '\\'), ('\n', 'n'), ('\r', 'r'), ('\t', 't'), ('\x08', 'b'), ('\x0c', 'f')]

/-- The piece of a string that a character is written as. -/
def pieceOf (c : Char) : Piece :=
  if c.toNat < 32 ∧ c ∉ letters.map Prod.fst then .unit c.toNat else .char c

theorem escape_of_letter {c e : Char} (h : (c, e) ∈ letters) :
    (escape c).toList = ['\\', e] ∧ escaped? e = some c := by
  have hall : ∀ p ∈ letters, (escape p.1).toList = ['\\', p.2] ∧ escaped? p.2 = some p.1 := by
    simp only [letters, List.forall_mem_cons]
    exact ⟨⟨rfl, rfl⟩, ⟨rfl, rfl⟩, ⟨rfl, rfl⟩, ⟨rfl, rfl⟩, ⟨rfl, rfl⟩, ⟨rfl, rfl⟩, ⟨rfl, rfl⟩,
      nofun⟩
  exact hall _ h

/-- Every other character is written in hexadecimal if it is a control character, and as it
is otherwise. -/
theorem escape_of_other {c : Char} (h : c ∉ letters.map Prod.fst) : (escape c).toList =
    if c.toNat < 32 then ['\\', 'u', '0', '0', hexDigit (c.toNat / 16), hexDigit (c.toNat % 16)]
    else [c] := by
  have hothers : c ≠ '"' ∧ c ≠ '\\' ∧ c ≠ '\n' ∧ c ≠ '\r' ∧ c ≠ '\t' ∧ c ≠ '\x08' ∧ c ≠ '\x0c' := by
    simpa [letters] using h
  by_cases hcontrol : c.toNat < 32 <;> simp [escape, hothers, hcontrol]

theorem codeUnit?_hexDigit {n : Nat} (h : n < 32) :
    codeUnit? ['0', '0', hexDigit (n / 16), hexDigit (n % 16)] = some n := by
  have hall : ∀ n : Fin 32,
      codeUnit? ['0', '0', hexDigit (n.val / 16), hexDigit (n.val % 16)] = some n.val := by decide
  exact hall ⟨n, h⟩

theorem pieced_escape (c : Char) {cs left : List Char} {ps : List Piece} (h : Pieced cs ps left) :
    Pieced ((escape c).toList ++ cs) (pieceOf c :: ps) left := by
  by_cases hletter : c ∈ letters.map Prod.fst
  · obtain ⟨⟨_, e⟩, hmem, rfl⟩ := List.mem_map.1 hletter
    obtain ⟨hescape, hescaped⟩ := escape_of_letter hmem
    rw [hescape, pieceOf, if_neg fun hcontrol => hcontrol.2 hletter]
    exact .escape hescaped h
  · rw [escape_of_other hletter, pieceOf]
    by_cases hcontrol : c.toNat < 32
    · rw [if_pos hcontrol, if_pos ⟨hcontrol, hletter⟩]
      exact .unit (codeUnit?_hexDigit hcontrol) h
    · rw [if_neg hcontrol, if_neg fun hboth => hcontrol hboth.1]
      refine .char ?_ ?_ (Nat.le_of_not_lt hcontrol) h
      · rintro rfl
        exact hletter (by decide)
      · rintro rfl
        exact hletter (by decide)

theorem joinPieces_cons (c : Char) (ps : List Piece) :
    joinPieces (pieceOf c :: ps) = (joinPieces ps).map (c :: ·) := by
  unfold pieceOf
  split
  · next hcontrol =>
    have hlt : c.toNat < 32 := hcontrol.1
    have hc : Char.ofNat c.toNat = c := Char.ofNat_toNat c
    have hhigh : ¬(0xD800 ≤ c.toNat ∧ c.toNat < 0xDC00) := by omega
    have hlow : ¬(0xDC00 ≤ c.toNat ∧ c.toNat < 0xE000) := by omega
    have hsurrogate : ¬(0xD800 ≤ c.toNat ∧ c.toNat < 0xE000) := by omega
    match ps with
    | [] => simp [joinPieces, hsurrogate, hc]
    | .char d :: ps => simp [joinPieces, hsurrogate, hc]
    | .unit n :: ps => simp [joinPieces, hhigh, hlow, hc]
  · rfl

theorem joinPieces_map_pieceOf (cs : List Char) : joinPieces (cs.map pieceOf) = some cs := by
  induction cs with
  | nil => rfl
  | cons c cs ih => rw [List.map_cons, joinPieces_cons, ih, Option.map_some]

theorem pieced_escapes (cs rest : List Char) :
    Pieced (cs.flatMap (fun c => (escape c).toList) ++ '"' :: rest) (cs.map pieceOf) rest := by
  induction cs with
  | nil => exact .close rest
  | cons c cs ih =>
    rw [List.flatMap_cons, List.append_assoc]
    exact pieced_escape c ih

theorem toList_quoted (s : String) :
    (quoted s).toList = '"' :: (s.toList.flatMap (fun c => (escape c).toList) ++ ['"']) := by
  simp [quoted, List.flatMap_map]

theorem prints_quoted (s : String) : Prints (quoted s).toList [.text (some s)] := by
  have hlex : lexToken '"' (s.toList.flatMap (fun c => (escape c).toList) ++ ['"']) =
      (.text (some s), []) := by
    simp only [lexToken, (pieced_escapes s.toList []).lexPieces, joinPieces_map_pieceOf,
      Option.map_some, String.ofList_toList]
  refine ⟨?_, by simp⟩
  rw [toList_quoted, tokens_cons rfl, hlex]
  rfl

end ControlPlane.Json
