import Mathlib.Data.List.Forall2
import Mathlib.Logic.Relation
import WarehouseAccess.RunResults

/-!
# What the file of results tells

The file of results is any bytes, and all that counts is whether it tells of success: that it can be
read, lists nodes, and none of them failed.

### Outline

* `RunResults.TellsSuccess` says so without the functions that read the file, and
  `RunResults.statusOfFile_eq_success_iff` connects the two;
* `RunResults.HoldsItems.tellsSuccess_iff` takes this down to the items of the list as they stand in
  the file, of which each is read for itself;
* `RunResults.Edit` is one change to the list that leaves the nodes alone that failed or cannot be
  read.  A file with nodes tells of success after any number of such edits just when it did before.
-/

namespace WarehouseAccess

namespace RunResults

/-- The file tells of success: it is there, it is UTF-8 and holds results of nodes, and no node has
the status `error`. -/
def TellsSuccess (file : Option (List UInt8)) : Prop :=
  ∃ bytes document r, file = some bytes ∧ decodeUtf8 bytes = .ok document ∧
    ofJson? document = some r ∧ r.results ≠ [] ∧ ∀ n ∈ r.results, n.status ≠ some "error"

/-- The nodes decide the status: there are some, and none failed. -/
lemma status_eq_success_iff (r : RunResults) :
    r.status = .success ↔ r.results ≠ [] ∧ ∀ n ∈ r.results, n.status ≠ some "error" := by
  unfold status
  split_ifs with hempty hfailed
  · simp [List.isEmpty_iff.mp hempty]
  · obtain ⟨n, hn, herror⟩ := List.any_eq_true.mp hfailed
    exact iff_of_false (by simp) fun h => h.2 n hn (of_decide_eq_true herror)
  · refine iff_of_true rfl ⟨by simpa using hempty, fun n hn herror => hfailed ?_⟩
    exact List.any_eq_true.mpr ⟨n, hn, decide_eq_true herror⟩

/-- The status that is read from a file is that of success just when the file tells of it. -/
lemma statusOfFile_eq_success_iff (file : Option (List UInt8)) :
    statusOfFile file = .success ↔ TellsSuccess file := by
  unfold statusOfFile TellsSuccess
  cases file with
  | none => simp
  | some bytes =>
    cases hdecode : decodeUtf8 bytes with
    | error fault => simp [hdecode]
    | ok document =>
      cases hread : ofJson? document with
      | none => simp [hdecode, hread]
      | some r => simp [hdecode, hread, status_eq_success_iff]

/-- Only the status `error` counts: that of a test that failed does not. -/
example : TellsSuccess (some (encodeUtf8
    "\x7b\"results\":[\x7b\"status\":\"fail\"\x7d]\x7d")) :=
  (statusOfFile_eq_success_iff _).mp (by decide +kernel)

/-! ### Items of the list -/

/-- The file holds results, with the items in their list. -/
def HoldsItems (file : Option (List UInt8)) (items : List JsonSyntax) : Prop :=
  ∃ bytes document v, file = some bytes ∧ decodeUtf8 bytes = .ok document ∧
    JsonSyntax.read document = some v ∧ v.record ["results"] = some [some (.array items)]

/-- The item can be read as a node, and the node did not fail. -/
def Harmless (item : JsonSyntax) : Prop :=
  ∃ n, NodeResult.ofSyntax item = some n ∧ n.status ≠ some "error"

/-- The nodes of a list are read one by one. -/
lemma nodes_array_eq_some_iff {items : List JsonSyntax} {nodes : List NodeResult} :
    RunResults.nodes (.array items) = some nodes ↔
      List.Forall₂ (fun item n => NodeResult.ofSyntax item = some n) items nodes := by
  change items.mapM NodeResult.ofSyntax = some nodes ↔ _
  induction items generalizing nodes with
  | nil => simp [eq_comm]
  | cons item items ih =>
    simp only [List.mapM_cons, Option.bind_eq_bind, Option.pure_def, Option.bind_eq_some_iff,
      Option.some.injEq, List.forall₂_cons_left_iff, ih]
    constructor
    · rintro ⟨n, hn, rest, hrest, rfl⟩
      exact ⟨n, rest, hn, hrest, rfl⟩
    · rintro ⟨n, rest, hn, hrest, rfl⟩
      exact ⟨n, hn, rest, hrest, rfl⟩

/-- Nodes that are read from items did not fail just when the items are harmless. -/
lemma harmless_of_forall₂ {items : List JsonSyntax} {nodes : List NodeResult}
    (h : List.Forall₂ (fun item n => NodeResult.ofSyntax item = some n) items nodes) :
    (∀ n ∈ nodes, n.status ≠ some "error") ↔ ∀ item ∈ items, Harmless item := by
  induction h with
  | nil => simp
  | @cons item n items nodes hitem _ ih =>
    simp [Harmless, hitem, ih]

/-- Harmless items can be read. -/
lemma exists_nodes {items : List JsonSyntax} (h : ∀ item ∈ items, Harmless item) :
    ∃ nodes, List.Forall₂ (fun item n => NodeResult.ofSyntax item = some n) items nodes := by
  induction items with
  | nil => exact ⟨[], .nil⟩
  | cons item items ih =>
    obtain ⟨⟨n, hn, -⟩, hrest⟩ := List.forall_mem_cons.mp h
    obtain ⟨nodes, hnodes⟩ := ih hrest
    exact ⟨n :: nodes, .cons hn hnodes⟩

/-- The results of a file with items are their nodes. -/
lemma HoldsItems.tellsSuccess_iff_nodes {file : Option (List UInt8)} {items : List JsonSyntax}
    (h : HoldsItems file items) :
    TellsSuccess file ↔ ∃ nodes, RunResults.nodes (.array items) = some nodes ∧ nodes ≠ [] ∧
      ∀ n ∈ nodes, n.status ≠ some "error" := by
  obtain ⟨bytes, document, v, rfl, hdecode, hread, hrecord⟩ := h
  have hresults : ofJson? document = (RunResults.nodes (.array items)).map RunResults.mk := by
    unfold ofJson? ofSyntax
    rw [hread, Option.bind_some, hrecord]
    simp only [Option.bind_eq_bind, Option.bind_some, JsonSyntax.fieldOr]
    cases RunResults.nodes (.array items) <;> rfl
  simp [TellsSuccess, hdecode, hresults]

/-- A file with items tells of success just when there are some and all are harmless. -/
lemma HoldsItems.tellsSuccess_iff {file : Option (List UInt8)} {items : List JsonSyntax}
    (h : HoldsItems file items) :
    TellsSuccess file ↔ items ≠ [] ∧ ∀ item ∈ items, Harmless item := by
  rw [h.tellsSuccess_iff_nodes]
  constructor
  · rintro ⟨nodes, hnodes, hsome, hall⟩
    have hpairs := nodes_array_eq_some_iff.mp hnodes
    refine ⟨?_, (harmless_of_forall₂ hpairs).mp hall⟩
    rintro rfl
    cases hpairs
    exact hsome rfl
  · rintro ⟨hsome, hall⟩
    obtain ⟨nodes, hpairs⟩ := exists_nodes hall
    refine ⟨nodes, nodes_array_eq_some_iff.mpr hpairs, ?_, (harmless_of_forall₂ hpairs).mpr hall⟩
    rintro rfl
    cases hpairs
    exact hsome rfl

/-! ### Edits of the list -/

/-- One change to a list that touches harmless items only. -/
inductive Edit : List JsonSyntax → List JsonSyntax → Prop
  | add {before after : List JsonSyntax} {item : JsonSyntax} (h : Harmless item) :
      Edit (before ++ after) (before ++ item :: after)
  | remove {before after : List JsonSyntax} {item : JsonSyntax} (h : Harmless item) :
      Edit (before ++ item :: after) (before ++ after)
  /-- All items may change places, not only harmless ones. -/
  | reorder {items items' : List JsonSyntax} (h : items.Perm items') : Edit items items'

/-- A harmless item more or less does not matter for whether all are. -/
lemma forall_harmless_insert {before after : List JsonSyntax} {item : JsonSyntax}
    (h : Harmless item) : (∀ other ∈ before ++ item :: after, Harmless other) ↔
      ∀ other ∈ before ++ after, Harmless other := by
  rw [List.forall_mem_append, List.forall_mem_append, List.forall_mem_cons, and_iff_right h]

/-- An edit does not matter for whether all items are harmless. -/
lemma Edit.forall_harmless_iff {items items' : List JsonSyntax} (h : Edit items items') :
    (∀ item ∈ items, Harmless item) ↔ ∀ item ∈ items', Harmless item := by
  cases h with
  | add hitem => exact (forall_harmless_insert hitem).symm
  | remove hitem => exact forall_harmless_insert hitem
  | reorder hperm => simp only [hperm.mem_iff]

/-- Any number of edits does not matter for whether all items are harmless. -/
lemma forall_harmless_iff_of_edits {items items' : List JsonSyntax}
    (h : Relation.ReflTransGen Edit items items') :
    (∀ item ∈ items, Harmless item) ↔ ∀ item ∈ items', Harmless item := by
  induction h with
  | refl => exact Iff.rfl
  | tail _ hlast ih => exact ih.trans hlast.forall_harmless_iff

/-- Files with items that edits lead from one to the other tell the same, as long as either has
any. -/
theorem tellsSuccess_iff_of_edits {file file' : Option (List UInt8)}
    {items items' : List JsonSyntax} (h : HoldsItems file items) (h' : HoldsItems file' items')
    (hsome : items ≠ []) (hsome' : items' ≠ []) (hedits : Relation.ReflTransGen Edit items items') :
    TellsSuccess file ↔ TellsSuccess file' := by
  rw [h.tellsSuccess_iff, h'.tellsSuccess_iff, forall_harmless_iff_of_edits hedits]
  simp [hsome, hsome']

end RunResults

end WarehouseAccess
