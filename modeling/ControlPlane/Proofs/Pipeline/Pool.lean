import Mathlib.Data.List.Nodup
import Mathlib.Data.List.Perm.Subperm
import ControlPlane.Pipeline.Pool

/-!
# What the pool keeps

The lookup laws of the pool and of its list of open pipelines.  There are four
groups.

* Entries.  `find?_put` and `find?_modify` say what is under an identifier after
  a change, and the lemmas below them evaluate the operations that have to find
  their pipeline.
* Open pipelines.  `mem_opened` reads the list off the entries, and
  `opened_ids_nodup` says that no identifier is in it twice.
* Closing.  `closing` closes several pipelines at once.  `opened_closing` is the
  law that the accounts of the allocator rest on: closing takes the closed
  pipelines out of the list of open ones and does nothing else to it.
* All schemes.  `openTotal` counts the open pipelines of the pool: one more when an
  open one is put in (`openTotal_put_of_new`), one fewer when one of them is closed
  (`openTotal_closing`).
-/

namespace ControlPlane

theorem Table.insertInto_of_new {κ α : Type} [DecidableEq κ] {k : κ} {a : α}
    {l : List (κ × α)} (h : k ∉ l.map (·.1)) : insertInto k a l = l ++ [(k, a)] := by
  induction l with
  | nil => rfl
  | cons c cs ih =>
    simp only [List.map_cons, List.mem_cons, not_or] at h
    rw [insertInto, if_neg (Ne.symm h.1), ih h.2, List.cons_append]

namespace Pool

variable {p : Pool} {id j : PipelineId} {e : Entry} {scheme : Scheme}

/-! ## Entries -/

theorem find?_eq_some_iff : p.find? id = some e ↔ (id, e) ∈ p.entries.rows :=
  Table.find?_eq_some_iff

/-- An entry is found under the identifier of its pipeline. -/
theorem id_of_find? (h : p.find? id = some e) : e.pipeline.id = id :=
  p.keyed _ (find?_eq_some_iff.1 h)

theorem find?_put : (p.put e).find? id = if e.pipeline.id = id then some e else p.find? id :=
  Table.find?_insert

theorem find?_modify {f : Entry → Entry} {hf} :
    (p.modify id f hf).find? j = if id = j then (p.find? j).map f else p.find? j :=
  Table.find?_modify

theorem modify_of_absent {f : Entry → Entry} {hf} (h : p.find? id = none) :
    p.modify id f hf = p :=
  Pool.ext (Table.modify_of_absent h)

/-- A change to the entry that was just put in. -/
theorem modify_put {f : Entry → Entry} {hf} :
    (p.put e).modify e.pipeline.id f hf = p.put (f e) := by
  refine Pool.ext ?_
  show (p.entries.insert e.pipeline.id e).modify e.pipeline.id f =
    p.entries.insert (f e).pipeline.id (f e)
  rw [Table.modify_insert, hf]

@[simp] theorem size_modify {f : Entry → Entry} {hf} :
    (p.modify id f hf).entries.size = p.entries.size :=
  Table.size_modify

theorem size_put_of_new (h : p.find? e.pipeline.id = none) :
    (p.put e).entries.size = p.entries.size + 1 :=
  Table.size_insert_of_new h

/-- The row of a new pipeline goes to the end of the table. -/
theorem rows_put_of_new (h : p.find? e.pipeline.id = none) :
    (p.put e).entries.rows = p.entries.rows ++ [(e.pipeline.id, e)] :=
  Table.insertInto_of_new (Table.find?_eq_none_iff.1 h)

theorem keys_put_of_new (h : p.find? e.pipeline.id = none) :
    (p.put e).entries.keys = p.entries.keys ++ [e.pipeline.id] := by
  rw [Table.keys, rows_put_of_new h, List.map_append]
  rfl

theorem keys_modify {f : Entry → Entry} {hf} :
    (p.modify id f hf).entries.keys = p.entries.keys := by
  show (p.entries.rows.map fun row => if row.1 = id then (row.1, f row.2) else row).map (·.1) = _
  rw [List.map_map]
  refine List.map_congr_left fun row _ => ?_
  rw [Function.comp_apply]
  split <;> rfl

theorem entry_eq_ok_iff : p.entry id = .ok e ↔ p.find? id = some e := by
  unfold entry
  cases p.find? id <;> simp

theorem entry_eq_error_iff {err : Error} :
    p.entry id = .error err ↔ p.find? id = none ∧ err = .pipelineNotFound id := by
  unfold entry
  cases p.find? id <;> simp [eq_comm]

theorem modify_modify {f : Entry → Entry} {hf} (hagain : ∀ e, f (f e) = f e) :
    (p.modify id f hf).modify id f hf = p.modify id f hf :=
  Pool.ext (Table.modify_modify hagain)

/-- A change that may be made twice in a row. -/
theorem update_update {p' : Pool} {f : Entry → Entry} {hf} (hagain : ∀ e, f (f e) = f e)
    (h : p.update id f hf = .ok p') : p'.update id f hf = .ok p' := by
  cases he : p.find? id with
  | none =>
    simp only [update, entry, he] at h
    cases h
  | some e =>
    simp only [update, entry, he] at h
    obtain rfl := Except.ok.inj h
    simp only [update, entry, find?_modify, he, if_true, Option.map_some, Except.map,
      modify_modify hagain]

/-- The containers bound to a pipeline; none if it is not in the pool. -/
def bound (p : Pool) (id : PipelineId) : SortedSet ContainerId :=
  (p.find? id).elim ∅ (·.containers)

theorem bound_of_find? (h : p.find? id = some e) : p.bound id = e.containers := by
  simp only [bound, h, Option.elim_some]

/-! ## Open pipelines -/

/-- A pipeline is listed as open if its entry says so. -/
theorem mem_opened {q : Pipeline} :
    q ∈ p.opened scheme ↔
      (∃ cs, p.find? q.id = some ⟨q, cs⟩) ∧ q.scheme = scheme ∧ q.state = .opened := by
  simp only [opened, select, all, Table.values, List.mem_mergeSort, List.mem_filter, List.mem_map,
    Bool.and_eq_true, beq_iff_eq, find?_eq_some_iff]
  refine and_congr_left fun _ => ⟨?_, ?_⟩
  · rintro ⟨e, ⟨r, hr, rfl⟩, rfl⟩
    have hid : r.2.pipeline.id = r.1 := p.keyed r hr
    exact ⟨r.2.containers, hid ▸ hr⟩
  · rintro ⟨cs, h⟩
    exact ⟨_, ⟨_, h, rfl⟩, rfl⟩

/-- The open pipelines in the order of the table. -/
theorem opened_perm : (p.opened scheme).Perm
    ((p.entries.rows.map (·.2.pipeline)).filter fun q =>
      q.scheme == scheme && q.state == .opened) := by
  have hall : p.all = p.entries.rows.map (·.2.pipeline) := List.map_map
  exact hall ▸ List.mergeSort_perm _ _

theorem opened_ids_nodup (p : Pool) (scheme : Scheme) : ((p.opened scheme).map (·.id)).Nodup := by
  refine (opened_perm.map _).nodup_iff.2 ?_
  have hids : p.entries.rows.map (·.2.pipeline.id) = p.entries.keys :=
    List.map_congr_left fun r hr => p.keyed r hr
  have hnodup : ((p.entries.rows.map (·.2.pipeline)).map (·.id)).Nodup := by
    rw [List.map_map]
    exact hids ▸ p.entries.nodup_keys
  exact hnodup.sublist (List.filter_sublist.map _)

/-- Two open pipelines with one identifier are the same. -/
theorem eq_of_mem_opened {q q' : Pipeline} {scheme' : Scheme} (h : q ∈ p.opened scheme)
    (h' : q' ∈ p.opened scheme') (hid : q.id = q'.id) : q = q' := by
  obtain ⟨⟨cs, hq⟩, -⟩ := mem_opened.1 h
  obtain ⟨⟨cs', hq'⟩, -⟩ := mem_opened.1 h'
  rw [hid, hq'] at hq
  exact (congrArg Entry.pipeline (Option.some.inj hq)).symm

theorem opened_nodup (p : Pool) (scheme : Scheme) : (p.opened scheme).Nodup :=
  (opened_ids_nodup p scheme).of_map

/-- Lists of open pipelines are told apart by their members only. -/
theorem opened_perm_of_mem {l : List Pipeline} (hl : l.Nodup)
    (h : ∀ q, q ∈ p.opened scheme ↔ q ∈ l) : (p.opened scheme).Perm l :=
  (List.perm_ext_iff_of_nodup (opened_nodup p scheme) hl).2 h

/-- The entry with its pipeline opened. -/
def Entry.reopen (e : Entry) : Entry := { e with pipeline := { e.pipeline with state := .opened } }

@[simp] theorem Entry.reopen_id (e : Entry) : e.reopen.pipeline.id = e.pipeline.id := rfl

/-- The entry with one more container. -/
def Entry.holding (e : Entry) (c : ContainerId) : Entry :=
  { e with containers := e.containers.insert c }

@[simp] theorem Entry.holding_id (c : ContainerId) (e : Entry) :
    (e.holding c).pipeline.id = e.pipeline.id := rfl

/-- A pipeline that is in the pool lists the container that is bound to it, and nothing else
changes. -/
theorem mem_bound_holding {c d : ContainerId} (h : p.find? id = some e) :
    d ∈ (p.modify id (·.holding c) (Entry.holding_id c)).bound j ↔
      id = j ∧ d = c ∨ d ∈ p.bound j := by
  rw [bound, find?_modify]
  split
  · next hid =>
    subst hid
    simp only [h, Option.map_some, Option.elim_some, Entry.holding, SortedSet.mem_insert,
      true_and, bound]
  · next hid => simp only [hid, false_and, false_or, bound]

/-! ## A pipeline more -/

theorem mem_opened_put {q : Pipeline} :
    q ∈ (p.put e).opened scheme ↔
      if e.pipeline.id = q.id then q = e.pipeline ∧ q.scheme = scheme ∧ q.state = .opened
      else q ∈ p.opened scheme := by
  simp only [mem_opened, find?_put]
  split
  · simp only [Option.some.injEq]
    refine and_congr_left fun _ => ⟨?_, ?_⟩
    · rintro ⟨cs, rfl⟩
      rfl
    · rintro rfl
      exact ⟨e.containers, rfl⟩
  · rfl

/-- A new pipeline adds at most itself to the open ones. -/
theorem length_opened_put_le :
    ((p.put e).opened scheme).length ≤ (p.opened scheme).length + 1 := by
  have hsub : (p.put e).opened scheme ⊆ e.pipeline :: p.opened scheme := fun q hq => by
    rw [mem_opened_put] at hq
    split at hq
    · exact List.mem_cons.2 (.inl hq.1)
    · exact List.mem_cons_of_mem _ hq
  simpa using (List.subperm_of_subset (opened_nodup (p.put e) scheme) hsub).length_le

/-- It does not even add itself if it is not open or of another scheme. -/
theorem length_opened_put_le_of_not (h : e.pipeline.scheme = scheme → e.pipeline.state ≠ .opened) :
    ((p.put e).opened scheme).length ≤ (p.opened scheme).length := by
  have hsub : (p.put e).opened scheme ⊆ p.opened scheme := fun q hq => by
    rw [mem_opened_put] at hq
    split at hq
    · obtain ⟨rfl, hscheme, hopen⟩ := hq
      exact (h hscheme hopen).elim
    · exact hq
  exact (List.subperm_of_subset (opened_nodup (p.put e) scheme) hsub).length_le

/-! ## Closing -/

/-- The entry with its pipeline closed. -/
def Entry.close (e : Entry) : Entry := { e with pipeline := { e.pipeline with state := .closed } }

@[simp] theorem Entry.close_id (e : Entry) : e.close.pipeline.id = e.pipeline.id := rfl
@[simp] theorem Entry.close_close (e : Entry) : e.close.close = e.close := rfl

/-- The pool with some pipelines closed, as far as it has them. -/
def closing (p : Pool) (ids : List PipelineId) : Pool :=
  ids.foldl (fun p id => p.modify id Entry.close Entry.close_id) p

@[simp] theorem closing_nil : p.closing [] = p := rfl

theorem closing_cons {ids : List PipelineId} :
    p.closing (id :: ids) = (p.modify id Entry.close Entry.close_id).closing ids := rfl

theorem closing_append {ids ids' : List PipelineId} :
    p.closing (ids ++ ids') = (p.closing ids).closing ids' :=
  List.foldl_append

theorem find?_closing {ids : List PipelineId} :
    (p.closing ids).find? j = if j ∈ ids then (p.find? j).map Entry.close else p.find? j := by
  induction ids generalizing p with
  | nil => simp
  | cons id ids ih =>
    rw [closing_cons, ih, find?_modify]
    by_cases hid : id = j
    · subst hid
      simp [Function.comp_def]
    · simp [hid, Ne.symm hid]

/-- The rows stay where they are, some of them closed. -/
theorem rows_closing {ids : List PipelineId} : (p.closing ids).entries.rows =
    p.entries.rows.map fun row => if row.1 ∈ ids then (row.1, row.2.close) else row := by
  induction ids generalizing p with
  | nil => simp
  | cons id ids ih =>
    rw [closing_cons, ih]
    show (p.entries.rows.map fun row => if row.1 = id then (row.1, row.2.close) else row).map _ = _
    rw [List.map_map]
    refine List.map_congr_left fun row _ => ?_
    rw [Function.comp_apply]
    by_cases hid : row.1 = id
    · simp [hid]
    · simp [hid]

/-- It does not matter in which order pipelines are closed, nor how often. -/
theorem closing_congr {ids ids' : List PipelineId} (h : ∀ id, id ∈ ids ↔ id ∈ ids') :
    p.closing ids = p.closing ids' := by
  refine Pool.ext (Table.ext ?_)
  simp only [rows_closing, h]

@[simp] theorem size_closing {ids : List PipelineId} :
    (p.closing ids).entries.size = p.entries.size := by
  induction ids generalizing p with
  | nil => rfl
  | cons id ids ih => rw [closing_cons, ih, size_modify]

@[simp] theorem keys_closing {ids : List PipelineId} :
    (p.closing ids).entries.keys = p.entries.keys := by
  induction ids generalizing p with
  | nil => rfl
  | cons id ids ih => rw [closing_cons, ih, keys_modify]

theorem find?_closing_eq_none {ids : List PipelineId} :
    (p.closing ids).find? j = none ↔ p.find? j = none := by
  rw [find?_closing]
  split <;> simp

/-- Closing frees no container. -/
@[simp] theorem bound_closing {ids : List PipelineId} : (p.closing ids).bound j = p.bound j := by
  simp only [bound, find?_closing]
  split
  · cases p.find? j <;> rfl
  · rfl

theorem mem_opened_closing {ids : List PipelineId} {q : Pipeline} :
    q ∈ (p.closing ids).opened scheme ↔ q ∈ p.opened scheme ∧ q.id ∉ ids := by
  simp only [mem_opened, find?_closing]
  by_cases hid : q.id ∈ ids
  · simp only [hid, if_true, not_true, and_false, iff_false]
    rintro ⟨⟨cs, h⟩, -, hopen⟩
    obtain ⟨e, -, he⟩ := Option.map_eq_some_iff.1 h
    have hclosed : q.state = .closed := (congrArg (·.pipeline.state) he).symm
    rw [hclosed] at hopen
    simp at hopen
  · simp only [hid, if_false, not_false_eq_true, and_true]

/-- Closing takes the closed pipelines out of the list of open ones. -/
theorem opened_closing {ids : List PipelineId} :
    ((p.closing ids).opened scheme).Perm ((p.opened scheme).filter fun q => q.id ∉ ids) :=
  opened_perm_of_mem ((opened_nodup p scheme).filter _) fun q => by
    simp [mem_opened_closing]

theorem length_opened_closing_le {ids : List PipelineId} :
    ((p.closing ids).opened scheme).length ≤ (p.opened scheme).length := by
  rw [opened_closing.length_eq]
  exact List.length_filter_le _ _

/-! ## Open pipelines of all schemes -/

/-- Is the pipeline of the entry open? -/
def Entry.isOpen (e : Entry) : Bool := e.pipeline.state == .opened

/-- The number of open pipelines over all schemes. -/
def openTotal (p : Pool) : Nat := p.all.countP fun q => q.state == .opened

theorem openTotal_eq : p.openTotal = p.entries.rows.countP (·.2.isOpen) := by
  rw [openTotal, all, Table.values, List.map_map, List.countP_map]
  rfl

theorem openTotal_put_of_new (h : p.find? e.pipeline.id = none) :
    (p.put e).openTotal = p.openTotal + if e.isOpen then 1 else 0 := by
  rw [openTotal_eq, openTotal_eq, rows_put_of_new h, List.countP_append, List.countP_singleton]

theorem openTotal_closing (h : p.find? id = some e) (hopen : e.pipeline.state = .opened) :
    (p.closing [id]).openTotal + 1 = p.openTotal := by
  have hbefore : e.isOpen = true := by rw [Entry.isOpen, hopen]; rfl
  have hafter : e.close.isOpen = false := rfl
  have hcount := Table.countP_map (f := Entry.close) Entry.isOpen p.entries.nodup_keys h
  rw [hbefore, hafter] at hcount
  rw [openTotal_eq, openTotal_eq]
  exact hcount

end Pool

end ControlPlane
