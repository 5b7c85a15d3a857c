import Geocube.Proofs.Catalog.Records
import Geocube.Proofs.Catalog.Reachable
import Mathlib.Data.List.Dedup

/-!
# Archiving is all or nothing

Archiving a batch without `force` first looks, for each id of the batch, at
the datasets that list it as a source; the first one outside the batch that
is active refuses the whole batch with a conflict, and nothing is written.
Otherwise, and always with `force`, the records of the batch are flagged
archived in one write, which counts the records whose flag changed.

While no id is stored twice, the refusal happens exactly when some active
dataset outside the batch lists an id of the batch as a source
(`Index.ArchiveBlocked`), and the count is the number of distinct ids of the
batch that are stored and not archived (`Index.flagTargets`). Restoring is the
same write with the flag cleared.
-/

namespace Geocube

namespace Index

/-- Some active dataset outside the batch `ids` lists an id of the batch as a
source. -/
def ArchiveBlocked (ix : Index) (ids : List Uuid) : Prop :=
  ∃ r ∈ ix.datasets, r.archived = false ∧ r.id ∉ ids ∧ ∃ s ∈ r.sources, s.sourceId ∈ ids

instance (ix : Index) (ids : List Uuid) : Decidable (ix.ArchiveBlocked ids) :=
  inferInstanceAs (Decidable (∃ r ∈ ix.datasets, r.archived = false ∧ r.id ∉ ids ∧
    ∃ s ∈ r.sources, s.sourceId ∈ ids))

/-- The distinct ids of a batch that are stored with a flag other than
`archived`: those that archiving (or restoring) changes. -/
def flagTargets (ix : Index) (ids : List Uuid) (archived : Bool) : List Uuid :=
  ids.dedup.filter fun id => (ix.record? id).any (·.archived != archived)

variable {ix : Index}

theorem mem_flagTargets {ids : List Uuid} {archived : Bool} {id : Uuid} :
    id ∈ ix.flagTargets ids archived ↔ id ∈ ids ∧ ∃ r, ix.record? id = some r ∧ r.archived ≠ archived := by
  simp [flagTargets, Option.any_eq_true]

/-- With distinct ids, a batch changes one record per id it targets. -/
theorem IdsDistinct.flagChanges_eq (hd : ix.IdsDistinct) (ids : List Uuid) (archived : Bool) :
    ix.flagChanges ids archived = (ix.flagTargets ids archived).length := by
  -- the records that change, by their ids, are the targets, each once
  have hperm : ((ix.datasets.filter fun r => r.id ∈ ids && r.archived != archived).map (·.id)).Perm
      (ix.flagTargets ids archived) := by
    refine (List.perm_ext_iff_of_nodup ?_ ?_).2 fun id => ?_
    · exact hd.sublist (List.filter_sublist.map _)
    · exact (List.nodup_dedup ids).filter _
    · rw [mem_flagTargets]
      constructor
      · intro hmem
        obtain ⟨r, hr, rfl⟩ := List.mem_map.1 hmem
        obtain ⟨hr, hsel⟩ := List.mem_filter.1 hr
        simp only [Bool.and_eq_true, decide_eq_true_eq, bne_iff_ne] at hsel
        exact ⟨hsel.1, r, hd.record?_of_mem hr, hsel.2⟩
      · rintro ⟨hid, r, hr, hflag⟩
        refine List.mem_map.2 ⟨r, List.mem_filter.2 ⟨record?_mem hr, ?_⟩, record?_id hr⟩
        simp [record?_id hr, hid, hflag]
  rw [flagChanges, List.countP_eq_length_filter, ← hperm.length_eq, List.length_map]

/-! ### The check -/

/-- A check on the index: it leaves the index as it was, giving `a`, unless
`bad` holds, and then it fails with a conflict. -/
def Checks {α : Type} (m : IndexOp α) (s : Index) (a : α) (bad : Prop) : Prop :=
  (¬ bad → m.run s = .ok (a, s)) ∧ (bad → ∃ msg, m.run s = .error (.conflict msg))

theorem Checks.forIn {ρ : Type} {f : ρ → PUnit → IndexOp (ForInStep PUnit)} {s : Index} {bad : ρ → Prop}
    (hf : ∀ x, Checks (f x ⟨⟩) s (.yield ⟨⟩) (bad x)) :
    ∀ xs : List ρ, Checks (forIn xs ⟨⟩ f) s ⟨⟩ (∃ x ∈ xs, bad x)
  | [] => ⟨fun _ => rfl, fun ⟨_, hx, _⟩ => nomatch hx⟩
  | x :: xs => by
    have ih := Checks.forIn hf xs
    unfold Checks
    rw [List.forIn_cons, StateT.run_bind]
    by_cases hx : bad x
    · -- the first check fails, and the loop with it
      obtain ⟨msg, hmsg⟩ := (hf x).2 hx
      rw [hmsg]
      exact ⟨fun hno => absurd ⟨x, List.mem_cons_self, hx⟩ hno, fun _ => ⟨msg, rfl⟩⟩
    · rw [(hf x).1 hx]
      refine ⟨fun hno => ih.1 fun ⟨y, hy, hbady⟩ => hno ⟨y, List.mem_cons_of_mem x hy, hbady⟩,
        fun ⟨y, hy, hbady⟩ => ?_⟩
      rcases List.mem_cons.1 hy with rfl | hy
      · exact absurd hbady hx
      · exact ih.2 ⟨y, hy, hbady⟩

theorem Checks.seq {α β : Type} {m : IndexOp α} {s : Index} {a : α} {bad : Prop} (h : Checks m s a bad)
    (b : β) : Checks (m >>= fun _ => pure b) s b bad := by
  refine ⟨fun hno => ?_, fun hbad => ?_⟩
  · rw [StateT.run_bind, h.1 hno]
    rfl
  · obtain ⟨msg, hmsg⟩ := h.2 hbad
    exact ⟨msg, by rw [StateT.run_bind, hmsg]; rfl⟩

/-- A write after a check runs on the index as it was, unless the check fails. -/
theorem Checks.then {α β : Type} {m : IndexOp α} {s : Index} {a : α} {bad : Prop} (h : Checks m s a bad)
    (w : IndexOp β) :
    (¬ bad → (m.run s >>= fun p => w.run p.2) = w.run s) ∧
      (bad → ∃ msg, (m.run s >>= fun p => w.run p.2) = .error (.conflict msg)) := by
  refine ⟨fun hno => ?_, fun hbad => ?_⟩
  · rw [h.1 hno]
    rfl
  · obtain ⟨msg, hmsg⟩ := h.2 hbad
    exact ⟨msg, by rw [hmsg]; rfl⟩

/-- The derived dataset `derived` blocks archiving the batch `ids`: it is
outside the batch and active. -/
def Blocks (ix : Index) (ids : List Uuid) (derived : Uuid) : Prop :=
  ids.contains derived = false ∧ ((ix.record? derived).map (!·.archived)).getD false = true

/-- Some id of the batch has a derived dataset that blocks archiving it. -/
theorem archiveBlocked_iff (hd : ix.IdsDistinct) (ids : List Uuid) :
    ix.ArchiveBlocked ids ↔ ∃ id ∈ ids, ∃ derived ∈ ix.derivedIds id, ix.Blocks ids derived := by
  simp only [ArchiveBlocked, Blocks, derivedIds, List.mem_map, List.mem_filter, List.any_eq_true,
    beq_iff_eq]
  constructor
  · rintro ⟨r, hr, hactive, hout, s, hs, hid⟩
    refine ⟨s.sourceId, hid, r.id, ⟨r, ⟨hr, s, hs, rfl⟩, rfl⟩, by simpa using hout, ?_⟩
    simp [hd.record?_of_mem hr, hactive]
  · rintro ⟨id, hid, _, ⟨r, ⟨hr, s, hs, rfl⟩, rfl⟩, hout, hactive⟩
    rw [hd.record?_of_mem hr] at hactive
    exact ⟨r, hr, by simpa using hactive, by simpa using hout, s, hs, hid⟩

/-- Archiving without `force` is refused with a conflict when the batch is
blocked, and is otherwise the write alone. -/
theorem archive_check_run (hd : ix.IdsDistinct) (ids : List Uuid) :
    (¬ ix.ArchiveBlocked ids → (archive ids false).run ix = (setArchived ids true).run ix) ∧
    (ix.ArchiveBlocked ids → ∃ msg, (archive ids false).run ix = .error (.conflict msg)) := by
  rw [archiveBlocked_iff hd]
  unfold archive
  simp only [Bool.not_false, if_true, StateT.run_bind, StateT.run_get, pure_bind]
  refine Checks.then (Checks.forIn (fun id => (Checks.forIn (fun derived => ?_) _).seq _) ids) _
  -- one derived dataset: skipped inside the batch, refusing when active
  unfold Checks Blocks
  by_cases hin : ids.contains derived = true
  · rw [if_pos hin]
    exact ⟨fun _ => rfl, fun ⟨hout, _⟩ => absurd (hout.symm.trans hin) Bool.false_ne_true⟩
  · rw [if_neg hin]
    by_cases hactive : ((ix.record? derived).map (!·.archived)).getD false = true
    · rw [if_pos hactive]
      exact ⟨fun hno => absurd ⟨by simpa using hin, hactive⟩ hno, fun _ => ⟨_, rfl⟩⟩
    · rw [if_neg hactive]
      exact ⟨fun _ => rfl, fun ⟨_, h⟩ => absurd h hactive⟩

/-- Flagging a batch changes exactly the records of its targets. -/
theorem IdsDistinct.withFlag_targets (hd : ix.IdsDistinct) (ids : List Uuid) (archived : Bool) :
    ix.withFlag ids archived = ix.withFlag (ix.flagTargets ids archived) archived := by
  simp only [Index.withFlag]
  congr 1
  apply List.map_congr_left
  intro r hr
  by_cases hflag : r.archived = archived
  · -- a record with the flag already is the same either way
    have hsame : ({ r with archived := archived } : DatasetRecord) = r := by rw [← hflag]
    split <;> split <;> simp [hsame]
  · have hiff : r.id ∈ ix.flagTargets ids archived ↔ r.id ∈ ids :=
      ⟨fun h => (mem_flagTargets.1 h).1, fun h => mem_flagTargets.2 ⟨h, r, hd.record?_of_mem hr, hflag⟩⟩
    simp only [hiff]

end Index

open Index in
/-- Over every index with distinct ids, and every batch with ids repeated or
not stored: archiving without `force` is refused with a conflict exactly when
some active dataset outside the batch lists an id of the batch as a source,
and a refusal carries no index. Otherwise, and always with `force`, it
archives exactly the distinct stored ids of the batch that were active and
answers their number, leaving every other record, location and field as it
was. Restoring clears the flag of exactly the distinct stored archived ids of
the batch, and answers their number. -/
theorem archive_all_or_nothing {ix : Index} (hd : ix.IdsDistinct) (ids : List Uuid) :
    ((∃ msg, (archive ids false).run ix = .error (.conflict msg)) ↔ ix.ArchiveBlocked ids) ∧
    (¬ ix.ArchiveBlocked ids → (archive ids false).run ix =
      .ok ((ix.flagTargets ids true).length, ix.withFlag (ix.flagTargets ids true) true)) ∧
    (archive ids true).run ix =
      .ok ((ix.flagTargets ids true).length, ix.withFlag (ix.flagTargets ids true) true) ∧
    (restore ids).run ix =
      .ok ((ix.flagTargets ids false).length, ix.withFlag (ix.flagTargets ids false) false) := by
  have hwrite : ∀ archived, (setArchived ids archived).run ix =
      .ok ((ix.flagTargets ids archived).length,
        ix.withFlag (ix.flagTargets ids archived) archived) := fun archived => by
    rw [setArchived_run hd, hd.flagChanges_eq, hd.withFlag_targets]
  obtain ⟨hpass, hrefuse⟩ := archive_check_run hd ids
  refine ⟨⟨fun ⟨msg, hmsg⟩ => ?_, hrefuse⟩, fun hno => (hpass hno).trans (hwrite true),
    hwrite true, hwrite false⟩
  -- a batch that is not blocked is written, which does not fail
  by_contra hno
  rw [hpass hno, hwrite true] at hmsg
  cases hmsg

/-! ### A scene and a dataset derived from it -/

/-- A dataset derived from the scene of id 1. -/
def derivedScene (q : Product) : Dataset := ⟨⟨2⟩, q, sceneDoc, [], false, [⟨"src", ⟨1⟩⟩]⟩

def lineageIndex : Index :=
  { januaryProductIndex with
    datasets := [DatasetRecord.ofDataset (scene (sceneProduct "mt" "a0" "a1")) true,
      DatasetRecord.ofDataset (derivedScene (sceneProduct "mt" "a0" "a1")) true] }

/-- The scene and the dataset derived from it have distinct ids, so archiving
the scene alone is refused exactly when the derived dataset is active. -/
theorem lineage_archive_all_or_nothing :
    lineageIndex.IdsDistinct ∧
      ((∃ msg, (Index.archive [⟨1⟩] false).run lineageIndex = .error (.conflict msg)) ↔
        lineageIndex.ArchiveBlocked [⟨1⟩]) ∧
      (¬ lineageIndex.ArchiveBlocked [⟨1⟩] → (Index.archive [⟨1⟩] false).run lineageIndex =
        .ok ((lineageIndex.flagTargets [⟨1⟩] true).length,
          lineageIndex.withFlag (lineageIndex.flagTargets [⟨1⟩] true) true)) ∧
      (Index.archive [⟨1⟩] true).run lineageIndex =
        .ok ((lineageIndex.flagTargets [⟨1⟩] true).length,
          lineageIndex.withFlag (lineageIndex.flagTargets [⟨1⟩] true) true) ∧
      (Index.restore [⟨1⟩]).run lineageIndex =
        .ok ((lineageIndex.flagTargets [⟨1⟩] false).length,
          lineageIndex.withFlag (lineageIndex.flagTargets [⟨1⟩] false) false) :=
  have hd : lineageIndex.IdsDistinct := by
    simp [Index.IdsDistinct, lineageIndex, DatasetRecord.ofDataset_id, scene, derivedScene]
  ⟨hd, archive_all_or_nothing hd [⟨1⟩]⟩

end Geocube
