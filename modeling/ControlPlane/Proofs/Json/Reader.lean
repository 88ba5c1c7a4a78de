import ControlPlane.Json.Reader
import ControlPlane.Proofs.Json.Value

/-!
# Readers of written values

What a reader makes of the text of a value depends on the tree of the value only, for either
layout (`decode_compact`, `decode_pretty`).  There are two groups below that.

* `word64_whole` reads a word from its numeral.
* Records.  `Record.Yields` says what a record is read as from its members, and there is a
  lemma for each way in which a record is put together.  `Record.Yields.read` is the reading
  of an object, whether it goes well or not.
-/

namespace ControlPlane.Json

open Text

variable {α β : Type}

theorem bind_eq_ok_iff {x : Except Fault α} {f : α → Except Fault β} {b : β} :
    x >>= f = .ok b ↔ ∃ a, x = .ok a ∧ f a = .ok b := by
  cases x <;> simp [bind, Except.bind]

theorem decode_compact (read : Reader α) (v : Value) : decode read v.compact = read v.document := by
  rw [decode, Document.ofText_compact]
  dsimp only
  cases read v.document <;> rfl

theorem decode_pretty (read : Reader α) (v : Value) : decode read v.pretty = read v.document := by
  rw [decode, Document.ofText_pretty]
  dsimp only
  cases read v.document <;> rfl

theorem bool_bool (b : Bool) : bool (Value.bool b).document = .ok b := rfl

theorem text_text (s : String) : text (Value.text s).document = .ok s := rfl

theorem parsed_text (expected : String) (parse? : String → Option α) (s : String) :
    parsed expected parse? (Value.text s).document =
      match parse? s with
      | some a => .ok a
      | none => .error (.mismatch expected) := rfl

/-! ## Words -/

/-- Digits are taken in as long as the number that they make fits a word. -/
theorem absorb_digits {m : Nat} {ds : List Nat}
    (h : ds.foldl (fun n d => n * 10 + d) m ≤ maxWord) :
    absorb m ds = (ds.foldl (fun n d => n * 10 + d) m, []) := by
  induction ds generalizing m with
  | nil => rfl
  | cons d ds ih =>
    rw [List.foldl_cons] at h ⊢
    rw [absorb, if_pos (Nat.le_trans (le_foldl_digits _ ds) h), ih h]

theorem number?_natural {ds : List Nat} {w : UInt64} (hds : Spelling 10 ds w.toNat) :
    Numeral.number? ⟨false, ds, [], false, none⟩ = some (.natural w) := by
  have hvalue : ds.foldl (fun n d => n * 10 + d) 0 = w.toNat := hds.value
  have hfits : ds.foldl (fun n d => n * 10 + d) 0 ≤ maxWord := by
    rw [hvalue]
    exact Nat.le_pred_of_lt w.toNat_lt
  unfold Numeral.number?
  simp [absorb_digits hfits, hvalue]

theorem word64_whole (w : UInt64) : word64 (Value.whole w.toNat).document = .ok w := by
  obtain ⟨ds, hds, hprints⟩ := prints_whole w.toNat
  have hnatural : decide ((w.toNat : Int) < 0) = false := decide_eq_false (by omega)
  rw [hnatural] at hprints
  rw [Value.document, numberToken_of_prints hprints]
  simp only [Document.ofToken, word64, number?_natural hds]

/-! ## Records -/

/-- The first member of a name is found if no two have one name. -/
theorem lookup_of_nodup {l : List (String × β)} {k : String} {b : β}
    (hnames : (l.map Prod.fst).Nodup) (h : (k, b) ∈ l) : l.lookup k = some b := by
  induction l with
  | nil => cases h
  | cons p l ih =>
    obtain ⟨hp, hl⟩ := List.nodup_cons.1 hnames
    rcases List.mem_cons.1 h with rfl | h
    · simp
    · have hne : k ≠ p.1 := by
        rintro rfl
        exact hp (List.mem_map.2 ⟨_, h, rfl⟩)
      rw [List.lookup_cons, beq_false_of_ne hne]
      exact ih hl h

namespace Record

/-- Checks members one after the other, each by the check at its place. -/
def checkEach : List (String × Reader Unit) → List (String × Value) → Except Fault Unit
  | c :: cs, m :: ms => do
    c.2 m.2.document
    checkEach cs ms
  | _, _ => .ok ()

/-- Each check is that of the member at its place. -/
abbrev Named : List (String × Reader Unit) → List (String × Value) → Prop :=
  List.Forall₂ fun c m => c.1 = m.1

/-- What a record is read as from these members, one after the other. -/
structure Yields (r : Record α) (ms : List (String × Value)) (out : Except Fault α) : Prop where
  named : Named r.checks ms
  checks : checkEach r.checks ms = out.map fun _ => ()
  build : ∀ fields : Fields, (∀ m ∈ ms, fields.values.lookup m.1 = some m.2.document) →
    ∀ a, out = .ok a → r.build fields = .ok a

theorem checkEach_append {cs cs' : List (String × Reader Unit)} {ms ms' : List (String × Value)}
    (h : Named cs ms) : checkEach (cs ++ cs') (ms ++ ms') = (do
      checkEach cs ms
      checkEach cs' ms') := by
  induction h with
  | nil => rfl
  | @cons c m cs ms _ _ ih =>
    show (do c.2 m.2.document; checkEach (cs ++ cs') (ms ++ ms')) = (do
      (do c.2 m.2.document; checkEach cs ms)
      checkEach cs' ms')
    rw [ih]
    cases c.2 m.2.document <;> rfl

/-! ## Putting records together -/

theorem Yields.withDefault {name : String} {read : Reader α} {v : Value} {out : Except Fault α}
    (d : α) (h : read v.document = out) :
    (Record.withDefault name read d).Yields [(name, v)] out where
  named := .cons rfl .nil
  checks := by
    subst h
    show (do (read v.document).map fun _ => (); Except.ok ()) = (read v.document).map fun _ => ()
    cases read v.document <;> rfl
  build fields hfields a ha := by
    have hfield := hfields (name, v) List.mem_cons_self
    simp only [Record.withDefault, hfield, h, ha]

theorem Yields.map {r : Record α} {ms : List (String × Value)} {out : Except Fault α} (g : α → β)
    (h : r.Yields ms out) : (g <$> r).Yields ms (g <$> out) where
  named := h.named
  checks := by
    refine h.checks.trans ?_
    cases out <;> rfl
  build fields hfields b hb := by
    cases out with
    | error e => cases hb
    | ok a =>
      show (r.build fields).map g = .ok b
      rw [h.build fields hfields a rfl]
      exact hb

theorem Yields.seq {f : Record (α → β)} {r : Record α} {ms ms' : List (String × Value)}
    {fout : Except Fault (α → β)} {out : Except Fault α} (hf : f.Yields ms fout)
    (hr : r.Yields ms' out) :
    (f <*> r).Yields (ms ++ ms') (do return (← fout) (← out)) where
  named := List.rel_append hf.named hr.named
  checks := by
    refine (checkEach_append hf.named).trans ?_
    rw [hf.checks, hr.checks]
    cases fout <;> cases out <;> rfl
  build fields hfields b hb := by
    cases fout with
    | error e => cases hb
    | ok g =>
      cases out with
      | error e => cases hb
      | ok a =>
        have hg := hf.build fields (fun m hm => hfields m (List.mem_append_left _ hm)) g rfl
        have ha := hr.build fields (fun m hm => hfields m (List.mem_append_right _ hm)) a rfl
        show (do let g ← f.build fields; return g (← r.build fields)) = Except.ok b
        rw [hg, ha]
        exact hb

/-! ## Objects -/

/-- The fields that members give. -/
def given (ms : List (String × Value)) : List (String × Document) :=
  ms.map fun m => (m.1, m.2.document)

/-- Members that are in the order of their checks are checked one after the other. -/
theorem members_eq {checks cs : List (String × Reader Unit)} {ms : List (String × Value)}
    (hcs : ∀ c ∈ cs, checks.lookup c.1 = some c.2) (hms : Named cs ms)
    (hnames : (ms.map Prod.fst).Nodup) (seen : List (String × Document))
    (hseen : ∀ m ∈ ms, seen.lookup m.1 = none) :
    members checks seen (memberDocuments ms) =
      (checkEach cs ms).map fun _ => (given ms).reverse ++ seen := by
  induction hms generalizing seen with
  | nil => rfl
  | @cons c m cs ms hname _ ih =>
    obtain ⟨k, check⟩ := c
    obtain ⟨_, v⟩ := m
    obtain rfl : k = _ := hname
    obtain ⟨hlookup, hcs⟩ := List.forall_mem_cons.1 hcs
    obtain ⟨hk, hnames⟩ := List.nodup_cons.1 hnames
    obtain ⟨hnone, hseen⟩ := List.forall_mem_cons.1 hseen
    have hseen' : ∀ m ∈ ms, ((k, v.document) :: seen).lookup m.1 = none := by
      intro m hm
      have hne : m.1 ≠ k := by
        rintro rfl
        exact hk (List.mem_map.2 ⟨m, hm, rfl⟩)
      rw [List.lookup_cons, beq_false_of_ne hne]
      exact hseen m hm
    have hthen := ih hcs hnames _ hseen'
    have hgiven : (given ((k, v) :: ms)).reverse ++ seen =
        (given ms).reverse ++ (k, v.document) :: seen := by simp [given]
    simp only at hlookup hnone
    simp only [memberDocuments, members, hlookup, hnone, checkEach, hgiven]
    cases check v.document with
    | error e => rfl
    | ok => exact hthen

theorem Named.names {cs : List (String × Reader Unit)} {ms : List (String × Value)}
    (h : Named cs ms) : cs.map Prod.fst = ms.map Prod.fst := by
  induction h with
  | nil => rfl
  | cons hname _ ih => rw [List.map_cons, List.map_cons, hname, ih]

/-- A record is read from an object that has its members and no others. -/
theorem Yields.read {r : Record α} {ms : List (String × Value)} {out : Except Fault α}
    (h : r.Yields ms out) (hnames : (ms.map Prod.fst).Nodup) :
    r.read (Value.object ms).document = out := by
  have hchecks : (r.checks.map Prod.fst).Nodup := by rwa [h.named.names]
  have hmembers := members_eq (fun c hc => lookup_of_nodup hchecks hc) h.named hnames []
    fun _ _ => rfl
  rw [h.checks, List.append_nil] at hmembers
  simp only [Value.document, Record.read, hmembers]
  cases out with
  | error e => rfl
  | ok a =>
    have hgiven : ((given ms).reverse.map Prod.fst).Nodup := by
      refine ((List.reverse_perm (given ms)).map Prod.fst).nodup_iff.2 ?_
      simpa [given, Function.comp_def] using hnames
    exact h.build ⟨false, (given ms).reverse⟩ (fun m hm =>
      lookup_of_nodup hgiven (List.mem_reverse.2 (List.mem_map_of_mem hm))) a rfl

end Record

end ControlPlane.Json
