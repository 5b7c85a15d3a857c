import Geocube.Proofs.Ingest.Order

/-!
# The rounds of a batch end, and leave the entries in or below a cycle

`lineageOrder` runs rounds until one takes nothing. A round that takes
something takes it out of what is left, so a batch of `n` entries needs at most
`n + 1` rounds: the fuel the definition gives is never what stops the loop
(`lineageOrder.rounds_of_length_lt`), and the loop ends at a round that takes
nothing (`lineageOrder.rounds_stops`).

The entries left over are described without the loop. A set of entries is
closed when it holds every entry of the batch each of whose in-batch source ids
is carried by an entry of the set; an entry is `Placeable` when every closed
set holds it, that is, when it belongs to the least closed set. The entries a
round takes are placeable, since their in-batch sources were taken in earlier
rounds (`lineageOrder.rounds_placeable`); and once the loop has stopped, the
ordered entries form a closed set themselves, since every entry they make ready
was taken (`lineageOrder_closed`). So the entries left are exactly those that
are not placeable, in batch order: the entries in, or derived from, a lineage
cycle, an entry that names its own id included.
-/

namespace Geocube

/-- A set of entries closed under placing: it holds every entry of the batch
each of whose source ids that the batch carries is carried by an entry of the
set. -/
def PlacingClosed (es : List Prepared) (S : Prepared → Prop) : Prop :=
  ∀ e ∈ es, (∀ x ∈ e.dataset.sourceIds, x ∈ es.map (·.dataset.id) →
    ∃ e' ∈ es, S e' ∧ e'.dataset.id = x) → S e

/-- An entry that every closed set holds: a member of the least set closed
under placing. -/
def Placeable (es : List Prepared) (e : Prepared) : Prop :=
  ∀ S, PlacingClosed es S → S e

namespace Placeable

variable {es : List Prepared} {e : Prepared}

theorem mem (h : Placeable es e) : e ∈ es := h (· ∈ es) fun _ he _ => he

/-- The placeable entries form a closed set. -/
theorem closed : PlacingClosed es (Placeable es) := by
  intro e he hsrc S hS
  refine hS e he fun x hx hin => ?_
  obtain ⟨e', he', hp, hid⟩ := hsrc x hx hin
  exact ⟨e', he', hp S hS, hid⟩

/-- A placeable entry is in every closed set. -/
theorem of_closed {S : Prepared → Prop} (hS : PlacingClosed es S) (h : Placeable es e) : S e :=
  h S hS

end Placeable

namespace SourcesFirst

variable {inBatch : List Uuid}

/-- In an order that takes sources first, each in-batch source of an entry was
placed before the order started or is carried by an entry before it. -/
theorem mem_before {e : Prepared} {post : List Prepared} :
    ∀ {placed : List Uuid} {pre : List Prepared}, SourcesFirst inBatch placed (pre ++ e :: post) →
      ∀ x ∈ e.dataset.sourceIds, x ∈ inBatch → x ∈ placed ++ pre.map (·.dataset.id)
  | _, [], ⟨hsrc, _⟩, x, hx, hin => by simpa using hsrc x hx hin
  | _, a :: pre, ⟨_, hrest⟩, x, hx, hin => by
    simpa using mem_before hrest x hx hin

end SourcesFirst

namespace lineageOrder

/-- Whether a round with the ids `placed` taken takes the entry: each source id
it names that the batch carries is placed. -/
def ready (inBatch placed : List Uuid) (e : Prepared) : Bool :=
  e.dataset.sources.all fun s => !inBatch.contains s.sourceId || placed.contains s.sourceId

theorem ready_iff {inBatch placed : List Uuid} {e : Prepared} :
    ready inBatch placed e = true ↔ ∀ x ∈ e.dataset.sourceIds, x ∈ inBatch → x ∈ placed := by
  simp only [ready, List.all_eq_true, Bool.or_eq_true, Bool.not_eq_true', List.contains_eq_mem,
    decide_eq_false_iff_not, decide_eq_true_eq, Dataset.sourceIds, List.mem_map,
    forall_exists_index, and_imp, forall_apply_eq_imp_iff₂, or_iff_not_imp_left, not_not]

/-- One round: the ready entries are taken in batch order, and the rest are
left, unless none is ready. -/
theorem rounds_succ (inBatch : List Uuid) (fuel : Nat) (placed : List Uuid)
    (ordered remaining : List Prepared) :
    rounds inBatch (fuel + 1) placed ordered remaining =
      if (remaining.filter (ready inBatch placed)).isEmpty then
        (ordered, remaining.filter (!ready inBatch placed ·))
      else
        rounds inBatch fuel (placed ++ (remaining.filter (ready inBatch placed)).map (·.dataset.id))
          (ordered ++ remaining.filter (ready inBatch placed))
          (remaining.filter (!ready inBatch placed ·)) := rfl

/-- A round that takes an entry leaves fewer. -/
theorem length_rest_lt {p : Prepared → Bool} {remaining : List Prepared}
    (h : (remaining.filter p).isEmpty = false) :
    (remaining.filter (!p ·)).length < remaining.length := by
  obtain ⟨e, he⟩ := List.exists_mem_of_ne_nil _ (List.isEmpty_eq_false_iff.1 h)
  refine List.length_filter_lt_length_iff_exists.2 ⟨e, (List.mem_filter.1 he).1, ?_⟩
  simp [(List.mem_filter.1 he).2]

variable (inBatch : List Uuid)

/-- Once there are more rounds to go than entries left, more rounds change
nothing: the loop ends by itself. -/
theorem rounds_of_length_lt : ∀ (fuel fuel' : Nat) (placed : List Uuid)
    (ordered remaining : List Prepared), remaining.length < fuel → remaining.length < fuel' →
      rounds inBatch fuel placed ordered remaining = rounds inBatch fuel' placed ordered remaining
  | 0, _, _, _, _, h, _ | _, 0, _, _, _, _, h => absurd h (Nat.not_lt_zero _)
  | fuel + 1, fuel' + 1, placed, ordered, remaining, h, h' => by
    rw [rounds_succ, rounds_succ]
    split
    · rfl
    · rename_i htaken
      -- the round took something, so what is left is shorter than both fuels
      have hlt := length_rest_lt (Bool.eq_false_iff.2 htaken)
      exact rounds_of_length_lt _ _ _ _ _ (by omega) (by omega)

/-- With more rounds than entries left, the loop ends at a round that takes
nothing: no entry left is ready once the ordered ones are placed. -/
theorem rounds_stops : ∀ (fuel : Nat) (ordered remaining : List Prepared), remaining.length < fuel →
    ∀ e ∈ (rounds inBatch fuel (ordered.map (·.dataset.id)) ordered remaining).2,
      ready inBatch ((rounds inBatch fuel (ordered.map (·.dataset.id)) ordered remaining).1.map
        (·.dataset.id)) e = false
  | 0, _, _, h => absurd h (Nat.not_lt_zero _)
  | fuel + 1, ordered, remaining, h => by
    rw [rounds_succ]
    split
    · intro e he
      simpa using (List.mem_filter.1 he).2
    · rename_i htaken
      have hlt := length_rest_lt (Bool.eq_false_iff.2 htaken)
      rw [← List.map_append]
      exact rounds_stops fuel _ _ (by omega)

/-- What a run leaves is a part of what was left, in the same order. -/
theorem rounds_sublist : ∀ (fuel : Nat) (placed : List Uuid) (ordered remaining : List Prepared),
    (rounds inBatch fuel placed ordered remaining).2.Sublist remaining
  | 0, _, _, _ => List.Sublist.refl _
  | fuel + 1, placed, ordered, remaining => by
    rw [rounds_succ]
    split
    · exact List.filter_sublist
    · exact (rounds_sublist fuel _ _ _).trans List.filter_sublist

end lineageOrder

namespace lineageOrder

variable {es : List Prepared}

/-- Every entry a round takes is placeable: its in-batch sources are carried by
entries taken in earlier rounds, which are placeable already. -/
theorem rounds_placeable : ∀ (fuel : Nat) (ordered remaining : List Prepared),
    (∀ e ∈ ordered, Placeable es e) → (∀ e ∈ remaining, e ∈ es) →
      ∀ e ∈ (rounds (es.map (·.dataset.id)) fuel (ordered.map (·.dataset.id)) ordered remaining).1,
        Placeable es e
  | 0, _, _, hord, _ => hord
  | fuel + 1, ordered, remaining, hord, hrem => by
    rw [rounds_succ]
    split
    · exact hord
    · rw [← List.map_append]
      refine rounds_placeable fuel _ _ (fun e he => ?_)
        (fun e he => hrem e (List.mem_filter.1 he).1)
      rcases List.mem_append.1 he with he | he
      · exact hord e he
      · -- a ready entry: each in-batch source is carried by an earlier, placeable entry
        have hready := ready_iff.1 (List.mem_filter.1 he).2
        refine Placeable.closed e (hrem e (List.mem_filter.1 he).1) fun x hx hin => ?_
        obtain ⟨e', he', hid⟩ := List.mem_map.1 (hready x hx hin)
        exact ⟨e', (hord e' he').mem, hord e' he', hid⟩

end lineageOrder

section Split

variable (es : List Prepared)

/-- `lineageOrder` is the run of its rounds from nothing placed. -/
theorem lineageOrder_eq_rounds :
    lineageOrder es = lineageOrder.rounds (es.map (·.dataset.id)) (es.length + 1)
      (([] : List Prepared).map (·.dataset.id)) [] es := rfl

/-- No entry left over is ready once the ordered entries are placed. -/
theorem lineageOrder_stops :
    ∀ e ∈ (lineageOrder es).2,
      lineageOrder.ready (es.map (·.dataset.id)) ((lineageOrder es).1.map (·.dataset.id)) e = false := by
  rw [lineageOrder_eq_rounds]
  exact lineageOrder.rounds_stops _ _ _ _ (Nat.lt_succ_self _)

/-- Every ordered entry is ready once the ordered entries are placed. -/
theorem lineageOrder_ordered_ready {e : Prepared} (he : e ∈ (lineageOrder es).1) :
    lineageOrder.ready (es.map (·.dataset.id)) ((lineageOrder es).1.map (·.dataset.id)) e = true := by
  obtain ⟨pre, post, hsplit⟩ := List.append_of_mem he
  have hfirst := lineageOrder_sourcesFirst es
  rw [hsplit] at hfirst
  refine lineageOrder.ready_iff.2 fun x hx hin => ?_
  have hpre := hfirst.mem_before x hx hin
  rw [List.nil_append] at hpre
  rw [hsplit, List.map_append]
  exact List.mem_append_left _ hpre

/-- The ordered entries are placeable. -/
theorem lineageOrder_placeable {e : Prepared} (he : e ∈ (lineageOrder es).1) : Placeable es e := by
  rw [lineageOrder_eq_rounds] at he
  exact lineageOrder.rounds_placeable _ _ _ (fun _ h => absurd h List.not_mem_nil) (fun _ h => h) e he

/-- Once the loop has stopped, the ordered entries form a closed set: an entry
whose in-batch sources they carry is ready, and no entry left over is. -/
theorem lineageOrder_closed : PlacingClosed es (· ∈ (lineageOrder es).1) := by
  intro e he hsrc
  have hmem := (lineageOrder_perm es).mem_iff.2 he
  rcases List.mem_append.1 hmem with hord | hcyc
  · exact hord
  · have hready : lineageOrder.ready (es.map (·.dataset.id))
        ((lineageOrder es).1.map (·.dataset.id)) e = true := by
      refine lineageOrder.ready_iff.2 fun x hx hin => ?_
      obtain ⟨e', -, he', rfl⟩ := hsrc x hx hin
      exact List.mem_map_of_mem he'
    simp [lineageOrder_stops es e hcyc] at hready

/-- An entry is ordered exactly when it is placeable; the others are left. -/
theorem mem_lineageOrder_ordered_iff {e : Prepared} :
    e ∈ (lineageOrder es).1 ↔ Placeable es e :=
  ⟨lineageOrder_placeable es, Placeable.of_closed (lineageOrder_closed es)⟩

theorem not_mem_ordered_of_mem_cyclic {e : Prepared} (he : e ∈ (lineageOrder es).2) :
    e ∉ (lineageOrder es).1 := by
  intro hord
  have hstop := lineageOrder_stops es e he
  rw [lineageOrder_ordered_ready es hord] at hstop
  exact Bool.noConfusion hstop

open Classical in
/-- The entries left over are the batch's entries that are not placeable, in
batch order. -/
theorem lineageOrder_cyclic_eq :
    (lineageOrder es).2 = es.filter fun e => ¬ Placeable es e := by
  -- the entries left are a part of the batch, in order, and a rearrangement of its unplaceable ones
  have hsub : (lineageOrder es).2.Sublist es := by
    rw [lineageOrder_eq_rounds]
    exact lineageOrder.rounds_sublist _ _ _ _ _
  have hleft : ∀ e ∈ (lineageOrder es).2, ¬ Placeable es e := fun e he hp =>
    not_mem_ordered_of_mem_cyclic es he ((mem_lineageOrder_ordered_iff es).2 hp)
  have hord : (lineageOrder es).1.filter (fun e => ¬ Placeable es e) = [] :=
    List.filter_eq_nil_iff.2 fun e he => by simpa using lineageOrder_placeable es he
  have hcyc : (lineageOrder es).2.filter (fun e => ¬ Placeable es e) = (lineageOrder es).2 :=
    List.filter_eq_self.2 fun e he => by simpa using hleft e he
  have hperm : (es.filter fun e => ¬ Placeable es e).Perm (lineageOrder es).2 := by
    have h := ((lineageOrder_perm es).filter fun e => ¬ Placeable es e).symm
    rwa [List.filter_append, hord, hcyc, List.nil_append] at h
  refine (List.Sublist.eq_of_length ?_ hperm.length_eq.symm)
  have hs := hsub.filter fun e => ¬ Placeable es e
  rwa [hcyc] at hs

end Split

open Classical in
/-- `lineageOrder` splits a batch into a topological order and the rest. The
two parts together rearrange the batch; each ordered entry comes after an
entry carrying each of its in-batch source ids; the entries left over are, in
batch order, exactly those outside the least set closed under placing (the
entries in or derived from a lineage cycle); and the loop ends: no entry left
is ready once the ordered ones are placed, and more rounds than the batch has
entries change nothing. -/
theorem lineageOrder_topological_split (es : List Prepared) :
    ((lineageOrder es).1 ++ (lineageOrder es).2).Perm es ∧
    (∀ pre e post, (lineageOrder es).1 = pre ++ e :: post →
      ∀ x ∈ e.dataset.sourceIds, x ∈ es.map (·.dataset.id) → ∃ e' ∈ pre, e'.dataset.id = x) ∧
    (lineageOrder es).2 = es.filter (fun e => ¬ Placeable es e) ∧
    (∀ e ∈ (lineageOrder es).2, ∃ x ∈ e.dataset.sourceIds,
      x ∈ es.map (·.dataset.id) ∧ x ∉ (lineageOrder es).1.map (·.dataset.id)) ∧
    (∀ fuel, es.length < fuel →
      lineageOrder.rounds (es.map (·.dataset.id)) fuel [] [] es = lineageOrder es) := by
  refine ⟨lineageOrder_perm es, ?_, lineageOrder_cyclic_eq es, ?_, ?_⟩
  · intro pre e post hsplit x hx hin
    have hfirst := lineageOrder_sourcesFirst es
    rw [hsplit] at hfirst
    simpa using hfirst.mem_before x hx hin
  · intro e he
    have hstop := lineageOrder_stops es e he
    simpa [lineageOrder.ready, Dataset.sourceIds] using hstop
  · intro fuel hfuel
    exact lineageOrder.rounds_of_length_lt _ _ _ _ _ _ hfuel (Nat.lt_succ_self _)

end Geocube
