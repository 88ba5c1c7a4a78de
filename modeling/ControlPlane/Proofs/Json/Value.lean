import Mathlib.Data.List.Forall2
import ControlPlane.Json.Document
import ControlPlane.Proofs.Json.Numeral

/-!
# Values that are read back

A value has one tree, whichever way it is written.

* `Value.tokens` are the tokens of a value.  `prints_compact` and `prints_pretty` say that
  both layouts are texts of them: they differ in blanks only.
* `Value.document` is the tree of a value.  `build_tokens` reads it from the tokens, whatever
  stands around them and whatever comes after.
* `ofText_compact` and `ofText_pretty` put the two together.
-/

namespace ControlPlane.Json

/-! ## Tokens -/

/-- The token that a number is written as. -/
def numberToken (s : String) : Token := (tokens s.toList).headD .bad

mutual

/-- The tokens of a value. -/
def Value.tokens : Value → List Token
  | .null => [.null]
  | .bool b => [.bool b]
  | .whole n => [numberToken (toString n)]
  | .fraction x => [numberToken (Decimal.exchange x)]
  | .text s => [.text (some s)]
  | .array items => .leftBracket :: ([.comma].intercalate (itemTokens items) ++ [.rightBracket])
  | .object members => .leftBrace :: ([.comma].intercalate (memberTokens members) ++ [.rightBrace])

/-- The tokens of each item. -/
def itemTokens : List Value → List (List Token)
  | [] => []
  | v :: vs => v.tokens :: itemTokens vs

/-- The tokens of each member. -/
def memberTokens : List (String × Value) → List (List Token)
  | [] => []
  | (k, v) :: ms => (.text (some k) :: .colon :: v.tokens) :: memberTokens ms

end

/-- A token that is a value by itself. -/
def Token.Leaf (t : Token) : Prop :=
  t = .null ∨ (∃ b, t = .bool b) ∨ (∃ n, t = .number n) ∨ ∃ s, t = .text s

theorem numberToken_of_prints {s : String} {t : Token} (h : Prints s.toList [t]) :
    numberToken s = t := by
  rw [numberToken, h.eq, List.headD_cons]

theorem prints_numberToken_toString (n : Int) :
    Prints (toString n).toList [numberToken (toString n)] := by
  obtain ⟨ds, -, h⟩ := prints_whole n
  rwa [numberToken_of_prints h]

theorem prints_numberToken_exchange (x : Float) :
    Prints (Decimal.exchange x).toList [numberToken (Decimal.exchange x)] := by
  rcases prints_exchange x with h | ⟨n, h⟩
  all_goals rwa [numberToken_of_prints h]

theorem leaf_numberToken_toString (n : Int) : (numberToken (toString n)).Leaf := by
  obtain ⟨ds, -, h⟩ := prints_whole n
  exact numberToken_of_prints h ▸ .inr (.inr (.inl ⟨_, rfl⟩))

theorem leaf_numberToken_exchange (x : Float) : (numberToken (Decimal.exchange x)).Leaf := by
  rcases prints_exchange x with h | ⟨n, h⟩
  · exact numberToken_of_prints h ▸ .inl rfl
  · exact numberToken_of_prints h ▸ .inr (.inr (.inl ⟨n, rfl⟩))

/-! ## Parts between brackets -/

/-- The texts are those of the tokens, part for part. -/
abbrev PrintsEach : List String → List (List Token) → Prop :=
  List.Forall₂ fun s ts => Prints s.toList ts

theorem ends_sign {c : Char} {t : Token} (h : (c, t) ∈ signs) (cs : List Char) :
    Ends (c :: cs) := by
  have hall : ∀ p ∈ signs, Ends (p.1 :: cs) := by
    simp only [signs, List.forall_mem_cons, ends_cons]
    decide
  exact hall _ h

theorem ends_space {c : Char} (h : isSpace c = true) (cs : List Char) : Ends (c :: cs) := by
  have hblank : c = ' ' ∨ c = '\n' ∨ c = '\t' ∨ c = '\r' := by simpa [isSpace, or_assoc] using h
  rw [ends_cons]
  rcases hblank with rfl | rfl | rfl | rfl <;> decide

theorem prints_commas {parts : List String} {tss : List (List Token)} (h : PrintsEach parts tss) :
    Prints (",".intercalate parts).toList ([.comma].intercalate tss) := by
  rw [String.toList_intercalate]
  induction h with
  | nil => exact .nil
  | @cons s ts parts tss hs htail ih =>
    cases htail with
    | nil => simpa using hs
    | cons hnext htail =>
      have hcomma := ih.sign (c := ',') (t := .comma) (by decide)
      rw [List.map_cons, List.map_cons, List.intercalate_cons_cons, List.intercalate_cons_cons,
        List.append_assoc, List.append_assoc]
      exact hs.append hcomma (ends_sign (t := .comma) (by decide) _)

/-- A text between two brackets, with blanks before the second. -/
theorem Prints.between {cs blanks : List Char} {ts : List Token} {c d : Char} {t u : Token}
    (h : Prints cs ts) (hleft : (c, t) ∈ signs) (hright : (d, u) ∈ signs)
    (hblanks : ∀ c ∈ blanks, isSpace c = true) :
    Prints (c :: (cs ++ (blanks ++ [d]))) (t :: (ts ++ [u])) := by
  have hends : Ends (blanks ++ [d]) := by
    cases blanks with
    | nil => exact ends_sign hright []
    | cons c blanks => exact ends_space (hblanks c List.mem_cons_self) _
  exact .sign hleft (h.append (.spaces hblanks (.sign hright .nil)) hends)

/-! ## Layouts -/

mutual

theorem prints_compact : ∀ v : Value, Prints v.compact.toList v.tokens
  | .null => ⟨by decide, by decide⟩
  | .bool b => by cases b <;> exact ⟨by decide, by decide⟩
  | .whole n => prints_numberToken_toString n
  | .fraction x => prints_numberToken_exchange x
  | .text s => prints_quoted s
  | .array items => by
    have h := (prints_commas (prints_compactItems items)).between (c := '[') (d := ']')
      (t := .leftBracket) (u := .rightBracket) (by decide) (by decide) (List.forall_mem_nil _)
    simpa [Value.compact, Value.tokens] using h
  | .object members => by
    have h := (prints_commas (prints_compactMembers members)).between (c := '\x7b') (d := '\x7d')
      (t := .leftBrace) (u := .rightBrace) (by decide) (by decide) (List.forall_mem_nil _)
    simpa [Value.compact, Value.tokens] using h

theorem prints_compactItems : ∀ vs : List Value, PrintsEach (compactItems vs) (itemTokens vs)
  | [] => .nil
  | v :: vs => .cons (prints_compact v) (prints_compactItems vs)

theorem prints_compactMembers : ∀ ms : List (String × Value),
    PrintsEach (compactMembers ms) (memberTokens ms)
  | [] => .nil
  | (k, v) :: ms => by
    refine .cons ?_ (prints_compactMembers ms)
    have h := (prints_compact v).sign (c := ':') (t := .colon) (by decide)
    simpa using (prints_quoted k).append h (ends_sign (t := .colon) (by decide) _)

end

theorem isSpace_newLine (level : Nat) : ∀ c ∈ (newLine level).toList, isSpace c = true := by
  have htext : (newLine level).toList = '\n' :: List.replicate (2 * level) ' ' := by simp [newLine]
  rw [htext]
  exact List.forall_mem_cons.2 ⟨rfl, fun c hc => List.eq_of_mem_replicate hc ▸ rfl⟩

theorem prints_block (level : Nat) {left right : String} {c d : Char} {t u : Token}
    {parts : List String} {tss : List (List Token)} (h : PrintsEach parts tss)
    (hleft : left.toList = [c]) (hright : right.toList = [d]) (ht : (c, t) ∈ signs)
    (hu : (d, u) ∈ signs) :
    Prints (block level left right parts).toList (t :: ([.comma].intercalate tss ++ [u])) := by
  have hlines : PrintsEach (parts.map (newLine (level + 1) ++ ·)) tss := by
    refine List.forall₂_map_left_iff.2 (h.imp fun s ts hs => ?_)
    rw [String.toList_append]
    exact .spaces (isSpace_newLine _) hs
  unfold block
  split
  · next hnone =>
    obtain rfl : parts = [] := by simpa using hnone
    cases h
    have hempty := Prints.nil.between ht hu (List.forall_mem_nil _)
    simpa [hleft, hright] using hempty
  · have hbetween := (prints_commas hlines).between ht hu (isSpace_newLine level)
    simpa [hleft, hright] using hbetween

mutual

theorem prints_prettyAt (level : Nat) : ∀ v : Value, Prints (v.prettyAt level).toList v.tokens
  | .array items => prints_block level (prints_prettyItems _ items) rfl rfl (by decide) (by decide)
  | .object members =>
    prints_block level (prints_prettyMembers _ members) rfl rfl (by decide) (by decide)
  | .null => prints_compact .null
  | .bool b => prints_compact (.bool b)
  | .whole n => prints_compact (.whole n)
  | .fraction x => prints_compact (.fraction x)
  | .text s => prints_compact (.text s)

theorem prints_prettyItems (level : Nat) : ∀ vs : List Value,
    PrintsEach (prettyItems level vs) (itemTokens vs)
  | [] => .nil
  | v :: vs => .cons (prints_prettyAt level v) (prints_prettyItems level vs)

theorem prints_prettyMembers (level : Nat) : ∀ ms : List (String × Value),
    PrintsEach (prettyMembers level ms) (memberTokens ms)
  | [] => .nil
  | (k, v) :: ms => by
    refine .cons ?_ (prints_prettyMembers level ms)
    have h := ((prints_prettyAt level v).space (c := ' ') rfl).sign (c := ':') (t := .colon)
      (by decide)
    simpa using (prints_quoted k).append h (ends_sign (t := .colon) (by decide) _)

end

/-! ## Trees -/

mutual

/-- The tree of a value. -/
def Value.document : Value → Document
  | .null => .null
  | .bool b => .bool b
  | .whole n => .ofToken (numberToken (toString n))
  | .fraction x => .ofToken (numberToken (Decimal.exchange x))
  | .text s => .text (some s)
  | .array items => .array (itemDocuments items)
  | .object members => .object (memberDocuments members)

/-- The trees of items. -/
def itemDocuments : List Value → List Document
  | [] => []
  | v :: vs => v.document :: itemDocuments vs

/-- The trees of the names and the values of members. -/
def memberDocuments : List (String × Value) → List (Document × Document)
  | [] => []
  | (k, v) :: ms => (.text (some k), v.document) :: memberDocuments ms

end

namespace Document

theorem build_leaf (frames : List Frame) (start : Bool) {t : Token} (ts : List Token)
    (h : t.Leaf) : build frames (.item start) (t :: ts) = build frames (.after (ofToken t)) ts := by
  rcases h with rfl | ⟨b, rfl⟩ | ⟨n, rfl⟩ | ⟨s, rfl⟩ <;> rfl

mutual

/-- A value is read from its tokens. -/
theorem build_tokens (frames : List Frame) (start : Bool) (ts : List Token) : ∀ v : Value,
    build frames (.item start) (v.tokens ++ ts) = build frames (.after v.document) ts
  | .null => rfl
  | .bool _ => rfl
  | .text _ => rfl
  | .whole n => build_leaf frames start ts (leaf_numberToken_toString n)
  | .fraction x => build_leaf frames start ts (leaf_numberToken_exchange x)
  | .array items => by
    have h := build_items frames [] true ts items (fun _ => rfl)
    simpa [Value.tokens, Value.document, build] using h
  | .object members => by
    have h := build_members frames [] true ts members (fun _ => rfl)
    simpa [Value.tokens, Value.document, build] using h

/-- Items are read after some that were read before. -/
theorem build_items (frames : List Frame) (done : List Document) (start : Bool)
    (ts : List Token) : ∀ vs : List Value, (vs = [] → start = true) →
    build (.array done :: frames) (.item start)
        ([.comma].intercalate (itemTokens vs) ++ .rightBracket :: ts) =
      build frames (.after (.array (done.reverse ++ itemDocuments vs))) ts
  | [], hstart => by
    simp [hstart rfl, itemTokens, itemDocuments, build]
  | [v], _ => by
    have hv := build_tokens (.array done :: frames) start (.rightBracket :: ts) v
    simpa [itemTokens, itemDocuments, build] using hv
  | v :: w :: vs, _ => by
    have hrest := build_items frames (v.document :: done) false ts (w :: vs) nofun
    have hv := build_tokens (.array done :: frames) start
      (.comma :: ([.comma].intercalate (itemTokens (w :: vs)) ++ .rightBracket :: ts)) v
    simpa [itemTokens, itemDocuments, build] using hv.trans hrest

/-- Members are read after some that were read before. -/
theorem build_members (frames : List Frame) (done : List (Document × Document)) (start : Bool)
    (ts : List Token) : ∀ ms : List (String × Value), (ms = [] → start = true) →
    build frames (.key done start)
        ([.comma].intercalate (memberTokens ms) ++ .rightBrace :: ts) =
      build frames (.after (.object (done.reverse ++ memberDocuments ms))) ts
  | [], hstart => by
    simp [hstart rfl, memberTokens, memberDocuments, build]
  | [(k, v)], _ => by
    have hv := build_tokens (.object done (.text (some k)) :: frames) false (.rightBrace :: ts) v
    simpa [memberTokens, memberDocuments, build] using hv
  | (k, v) :: m :: ms, _ => by
    have hrest := build_members frames ((.text (some k), v.document) :: done) false ts
      (m :: ms) nofun
    have hv := build_tokens (.object done (.text (some k)) :: frames) false
      (.comma :: ([.comma].intercalate (memberTokens (m :: ms)) ++ .rightBrace :: ts)) v
    simpa [memberTokens, memberDocuments, build] using hv.trans hrest

end

/-- Every text of the tokens of a value is read as the tree of the value. -/
theorem ofText_of_prints {s : String} {v : Value} (h : Prints s.toList v.tokens) :
    ofText s = (v.document, false) := by
  have hbuild := build_tokens [] false [] v
  rw [List.append_nil] at hbuild
  rw [ofText, h.eq, hbuild]
  rfl

theorem ofText_compact (v : Value) : ofText v.compact = (v.document, false) :=
  ofText_of_prints (prints_compact v)

theorem ofText_pretty (v : Value) : ofText v.pretty = (v.document, false) :=
  ofText_of_prints (prints_prettyAt 0 v)

end Document

end ControlPlane.Json
