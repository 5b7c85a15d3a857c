import Geocube.Ingest.Batch
import Mathlib.Data.List.Perm.Basic

/-!
# The order a batch is written in

`lineageOrder` takes the entries of a batch in rounds: a round takes, in batch
order, every entry whose sources in the batch were taken in earlier rounds, and
the entries left when a round takes none are in or below a lineage cycle. Two
facts carry every later statement about batches: the two parts together are a
rearrangement of the entries (`lineageOrder_perm`), and the first part takes
the in-batch sources of each entry before it (`lineageOrder_sourcesFirst`).
-/

namespace Geocube

/-- The ids of a dataset's lineage sources. -/
def Dataset.sourceIds (d : Dataset) : List Uuid := d.sources.map (·.sourceId)

/-- Entries in an order that takes the in-batch sources of each entry before
it: `placed` holds the ids taken so far, and every source id of an entry that
is in `inBatch` is among them when the entry comes. -/
def SourcesFirst (inBatch : List Uuid) : List Uuid → List Prepared → Prop
  | _, [] => True
  | placed, e :: es => (∀ x ∈ e.dataset.sourceIds, x ∈ inBatch → x ∈ placed) ∧
      SourcesFirst inBatch (placed ++ [e.dataset.id]) es

namespace SourcesFirst

variable {inBatch : List Uuid}

/-- Taking more ids first keeps the order. -/
theorem mono : ∀ {placed placed' : List Uuid} {es : List Prepared}, placed ⊆ placed' →
    SourcesFirst inBatch placed es → SourcesFirst inBatch placed' es
  | _, _, [], _, _ => trivial
  | _, _, _ :: _, hsub, ⟨hsrc, hrest⟩ =>
    ⟨fun x hx hin => hsub (hsrc x hx hin),
      mono (List.append_subset.2 ⟨List.Subset.trans hsub (List.subset_append_left _ _),
        List.subset_append_right _ _⟩) hrest⟩

/-- Entries whose in-batch sources were all placed before any of them can come
in any order. -/
theorem of_placed : ∀ {placed : List Uuid} {es : List Prepared},
    (∀ e ∈ es, ∀ x ∈ e.dataset.sourceIds, x ∈ inBatch → x ∈ placed) → SourcesFirst inBatch placed es
  | _, [], _ => trivial
  | _, e :: _, h =>
    ⟨h e List.mem_cons_self,
      mono (List.subset_append_left _ _) (of_placed fun e' he' => h e' (List.mem_cons_of_mem e he'))⟩

theorem append : ∀ {placed : List Uuid} {es es' : List Prepared},
    SourcesFirst inBatch placed es →
      SourcesFirst inBatch (placed ++ es.map (·.dataset.id)) es' →
      SourcesFirst inBatch placed (es ++ es')
  | _, [], _, _, h' => by simpa using h'
  | placed, e :: es, _, ⟨hsrc, hrest⟩, h' =>
    ⟨hsrc, append hrest (by simpa only [List.map_cons, List.append_assoc, List.singleton_append] using h')⟩

end SourcesFirst

namespace lineageOrder

variable (inBatch : List Uuid)

/-- A round loses and repeats nothing: what is taken and what is left are a
rearrangement of what was taken and left before. -/
theorem rounds_perm (fuel : Nat) (placed : List Uuid) (ordered remaining : List Prepared) :
    ((rounds inBatch fuel placed ordered remaining).1 ++
      (rounds inBatch fuel placed ordered remaining).2).Perm (ordered ++ remaining) := by
  induction fuel generalizing placed ordered remaining with
  | zero => exact .refl _
  | succ fuel ih =>
    simp only [rounds]
    -- the round splits what is left into the ready entries and the rest
    have hsplit := List.filter_append_perm (fun e : Prepared => e.dataset.sources.all fun s =>
      !inBatch.contains s.sourceId || placed.contains s.sourceId) remaining
    split
    · rename_i hempty
      rw [List.isEmpty_iff.1 hempty, List.nil_append] at hsplit
      exact hsplit.append_left ordered
    · refine (ih _ _ _).trans ?_
      rw [List.append_assoc]
      exact hsplit.append_left ordered

/-- A round takes only entries whose in-batch sources are placed, and places
them. -/
theorem rounds_sourcesFirst (fuel : Nat) (ordered remaining : List Prepared)
    (hfirst : SourcesFirst inBatch [] ordered) :
    SourcesFirst inBatch [] (rounds inBatch fuel (ordered.map (·.dataset.id)) ordered remaining).1 := by
  induction fuel generalizing ordered remaining with
  | zero => exact hfirst
  | succ fuel ih =>
    simp only [rounds]
    split
    · exact hfirst
    · rw [← List.map_append]
      refine ih _ _ (hfirst.append (SourcesFirst.of_placed fun e he x hx hin => ?_))
      -- a ready entry has each in-batch source placed
      have hready := (List.mem_filter.1 he).2
      obtain ⟨s, hs, rfl⟩ := List.mem_map.1 hx
      have hs' := List.all_eq_true.1 hready s hs
      simp only [Bool.or_eq_true, Bool.not_eq_true', List.contains_eq_mem,
        decide_eq_false_iff_not, decide_eq_true_eq] at hs'
      simpa using hs'.resolve_left (not_not.2 hin)

end lineageOrder

/-- The ordered entries and those in or below a cycle are together a
rearrangement of the batch. -/
theorem lineageOrder_perm (es : List Prepared) :
    ((lineageOrder es).1 ++ (lineageOrder es).2).Perm es := by
  unfold lineageOrder
  simpa using lineageOrder.rounds_perm (es.map (·.dataset.id)) (es.length + 1) [] [] es

/-- The ordered entries take the sources each names in the batch before it. -/
theorem lineageOrder_sourcesFirst (es : List Prepared) :
    SourcesFirst (es.map (·.dataset.id)) [] (lineageOrder es).1 :=
  lineageOrder.rounds_sourcesFirst _ _ [] es trivial

end Geocube
