import Geocube.Proofs.Catalog.Representation
import Geocube.Proofs.Catalog.Registry

/-!
# Resource calls running side by side

Each client of a `System` is a resource call in progress: adding a dataset,
deleting a product, archiving (checked or forced) or restoring datasets. A
request passes through a fixed list of clients (`Request.Stage`), one driver
call between each and the next, and whatever the schedule, every client of a
system started from requests stays at a stage of its own request
(`System.atStages_run`).

A step of a request does one of few things to the index (`Request.Guarantee`):
nothing, or the one write its stage makes. The invariants about interleaved
runs are stated per stage and carried over each step: the moving client's fact
from its own transition, and every other client's fact across the mover's
guarantee.
-/

namespace Geocube

namespace Client

/-- A call step answers with the executed call's result, or finishes with its error. -/
theorem advance_call {β : Type} {c : DriverCall β} {k : β → Client} {ix ix' : Index} {c' : Client}
    (h : (call c k).advance ix = some (ix', c')) :
    (∃ b, c.exec.run ix = .ok (b, ix') ∧ c' = k b) ∨ (ix' = ix ∧ ∃ e, c' = finish (.error e)) := by
  simp only [advance, Option.some.injEq] at h
  split at h
  · cases h
    exact .inl ⟨_, ‹_›, rfl⟩
  · cases h
    exact .inr ⟨rfl, _, rfl⟩

/-- A reading call leaves the index as it was and goes on with what it read. -/
theorem advance_read {β : Type} {f : Index → β} {c : DriverCall β} {k : β → Client}
    {ix ix' : Index} {c' : Client} (hc : ∀ ix, c.exec.run ix = .ok (f ix, ix))
    (h : (call c k).advance ix = some (ix', c')) : ix' = ix ∧ c' = k (f ix) := by
  simp only [advance, hc, Option.some.injEq, Prod.mk.injEq] at h
  exact ⟨h.1.symm, h.2.symm⟩

theorem advance_addDataset {d : Dataset} {withLineage : Bool} {ix ix' : Index} {c' : Client}
    (h : (addDataset d withLineage).advance ix = some (ix', c')) :
    ix' = ix ∧ ((ix.product? d.product.name).isSome ∧ c' = insertChecked d withLineage ∨
      ∃ o, c' = finish o) := by
  obtain ⟨hix, rfl⟩ := advance_read (fun _ => rfl) h
  refine ⟨hix, ?_⟩
  cases ix.product? d.product.name with
  | some _ => exact .inl ⟨rfl, rfl⟩
  | none => exact .inr ⟨_, rfl⟩

/-- Inserting a dataset never fails. -/
theorem advance_insertChecked {d : Dataset} {withLineage : Bool} {ix ix' : Index} {c' : Client}
    (h : (insertChecked d withLineage).advance ix = some (ix', c')) :
    (∃ b, (Index.insertDataset d withLineage).run ix = .ok (b, ix')) ∧ ∃ o, c' = finish o := by
  have hok : ∃ b ix'', (Index.insertDataset d withLineage).run ix = .ok (b, ix'') := by
    cases hr : ix.record? d.id with
    | none => exact ⟨_, _, Index.insertDataset_run_new hr⟩
    | some r => exact ⟨_, _, Index.insertDataset_run_stored hr⟩
  obtain ⟨b, ix'', hrun⟩ := hok
  simp only [insertChecked, advance, DriverCall.exec, hrun, Option.some.injEq, Prod.mk.injEq] at h
  obtain ⟨rfl, rfl⟩ := h
  exact ⟨⟨b, hrun⟩, _, rfl⟩

theorem advance_deleteProduct {name : String} {ix ix' : Index} {c' : Client}
    (h : (deleteProduct name).advance ix = some (ix', c')) :
    ix' = ix ∧ (c' = countThenRemove name ∨ ∃ o, c' = finish o) := by
  obtain ⟨hix, rfl⟩ := advance_read (fun _ => rfl) h
  refine ⟨hix, ?_⟩
  cases ix.product? name with
  | some _ => exact .inl rfl
  | none => exact .inr ⟨_, rfl⟩

/-- The product is removed only after its records were counted and found none. -/
theorem advance_countThenRemove {name : String} {ix ix' : Index} {c' : Client}
    (h : (countThenRemove name).advance ix = some (ix', c')) :
    ix' = ix ∧ (ix.productRecordCount name = 0 ∧ c' = removeChecked name ∨ ∃ o, c' = finish o) := by
  obtain ⟨hix, rfl⟩ := advance_read (fun _ => rfl) h
  refine ⟨hix, ?_⟩
  by_cases hn : ix.productRecordCount name > 0
  · exact .inr ⟨_, if_pos hn⟩
  · exact .inl ⟨by omega, if_neg hn⟩

theorem advance_removeChecked {name : String} {ix ix' : Index} {c' : Client}
    (h : (removeChecked name).advance ix = some (ix', c')) :
    (ix' = ix ∨ (Index.removeProduct name).run ix = .ok ((), ix')) ∧ ∃ o, c' = finish o := by
  rcases advance_call h with ⟨_, hrun, rfl⟩ | ⟨rfl, _, rfl⟩
  · exact ⟨.inr hrun, _, rfl⟩
  · exact ⟨.inl rfl, _, rfl⟩

/-- Flagging a batch answers with the count of the records it changed, or fails. -/
theorem advance_flagAll {ids : List Uuid} {archived : Bool} {ix ix' : Index} {c' : Client}
    (h : (flagAll ids archived).advance ix = some (ix', c')) :
    (∃ n, (Index.setArchived ids archived).run ix = .ok (n, ix') ∧ c' = finish (.ok (.count n))) ∨
      (ix' = ix ∧ ∃ e, c' = finish (.error e)) := by
  rcases advance_call h with ⟨n, hrun, rfl⟩ | hfail
  · exact .inl ⟨n, hrun, rfl⟩
  · exact .inr hfail

theorem advance_archiveScan_cons {ids rest : List Uuid} {id : Uuid} {ix ix' : Index} {c' : Client}
    (h : (archiveScan ids (id :: rest)).advance ix = some (ix', c')) :
    ix' = ix ∧ c' = archiveInspect ids id (archiveScan ids rest) (ix.derivedIds id) :=
  advance_read (fun _ => rfl) h

/-- The check of a derived dataset outside the batch: an active one refuses
the archive, and otherwise the check goes on with the next. -/
theorem advance_archiveInspect_cons {ids more : List Uuid} {id derived : Uuid} {next : Client}
    {ix ix' : Index} {c' : Client} (hout : ids.contains derived = false)
    (h : (archiveInspect ids id next (derived :: more)).advance ix = some (ix', c')) :
    ix' = ix ∧ (((ix.record? derived).map (!·.archived)).getD false = false ∧
      c' = archiveInspect ids id next more ∨ ∃ e, c' = finish (.error e)) := by
  simp only [archiveInspect, hout, Bool.false_eq_true, if_false] at h
  obtain ⟨hix, rfl⟩ := advance_read (fun _ => rfl) h
  refine ⟨hix, ?_⟩
  cases hactive : ((ix.record? derived).map (!·.archived)).getD false
  · exact .inl ⟨rfl, if_neg (by simp)⟩
  · exact .inr ⟨_, if_pos rfl⟩

/-- A checked archive still inspecting has a call to make. -/
theorem archiveInspect_ne_finish {ids rest : List Uuid} {id : Uuid} {o : Except CatalogError Answer} :
    ∀ more, archiveInspect ids id (archiveScan ids rest) more ≠ finish o
  | [] => by cases rest <;> simp [archiveInspect, archiveScan, flagAll]
  | derived :: more => by
    cases hin : ids.contains derived
    · rw [archiveInspect, if_neg (by rw [hin]; decide)]
      intro h
      cases h
    · rw [archiveInspect, if_pos hin]
      exact archiveInspect_ne_finish more

theorem archiveInspect_cons_of_contains {ids more : List Uuid} {id derived : Uuid} {next : Client}
    (hin : ids.contains derived = true) :
    archiveInspect ids id next (derived :: more) = archiveInspect ids id next more := by
  rw [archiveInspect, if_pos hin]

end Client

namespace System

/-- A step either changes nothing, or lets one client make its next call. -/
theorem step_cases (s : System) (i : Nat) :
    s.step i = s ∨ ∃ c ix' c', s.clients[i]? = some c ∧ c.advance s.index = some (ix', c') ∧
      s.step i = ⟨ix', s.clients.set i c'⟩ := by
  unfold step
  split
  · split
    · exact .inr ⟨_, _, _, ‹_›, ‹_›, rfl⟩
    · exact .inl rfl
  · exact .inl rfl

/-- What every step keeps holds after every schedule. -/
theorem run_induction {P : System → Prop} (hstep : ∀ s i, P s → P (s.step i)) :
    ∀ (s : System) (sched : List Nat), P s → P (s.run sched)
  | _, [], h => h
  | s, i :: sched, h => run_induction hstep (s.step i) sched (hstep s i h)

end System

/-- A resource call made by one client. -/
inductive Request where
  | add (d : Dataset) (withLineage : Bool)
  | deleteProduct (name : String)
  | archive (ids : List Uuid) (force : Bool)
  | restore (ids : List Uuid)

namespace Request

/-- The client a request starts as. -/
def client : Request → Client
  | add d withLineage => .addDataset d withLineage
  | deleteProduct name => .deleteProduct name
  | archive ids force => .archive ids force
  | restore ids => .restore ids

/-- The clients a request passes through, from its first call to its end. A
checked archive scans the ids of its batch, `done` before `rest`, and inspects
the datasets derived from one of them before going on. A stage is data, so
that facts about a run can be stated stage by stage. -/
inductive Stage : Request → Client → Type
  | addStart {d : Dataset} {withLineage : Bool} : Stage (add d withLineage) (.addDataset d withLineage)
  | addInsert {d : Dataset} {withLineage : Bool} :
      Stage (add d withLineage) (.insertChecked d withLineage)
  | deleteStart {name : String} : Stage (deleteProduct name) (.deleteProduct name)
  | deleteCount {name : String} : Stage (deleteProduct name) (.countThenRemove name)
  | deleteRemove {name : String} : Stage (deleteProduct name) (.removeChecked name)
  | archiveForced {ids : List Uuid} : Stage (archive ids true) (.flagAll ids true)
  | archiveScan {ids : List Uuid} (done rest : List Uuid) (h : ids = done ++ rest) :
      Stage (archive ids false) (.archiveScan ids rest)
  | archiveInspect {ids : List Uuid} (done : List Uuid) {rest more : List Uuid} {id : Uuid}
      (h : ids = done ++ id :: rest) :
      Stage (archive ids false) (.archiveInspect ids id (.archiveScan ids rest) more)
  | restoreStart {ids : List Uuid} : Stage (restore ids) (.flagAll ids false)
  | finished {ρ : Request} (o : Except CatalogError Answer) : Stage ρ (.finish o)

/-- The first stage of a request: its client. -/
def Stage.start : ∀ ρ : Request, ρ.Stage ρ.client
  | add .. => .addStart
  | deleteProduct _ => .deleteStart
  | archive _ true => .archiveForced
  | archive ids false => .archiveScan [] ids rfl
  | restore _ => .restoreStart

/-- What a step of a request may do to the index: nothing, or its one write. -/
def Guarantee : Request → Index → Index → Prop
  | add d withLineage, ix, ix' =>
    ix' = ix ∨ ∃ b, (Index.insertDataset d withLineage).run ix = .ok (b, ix')
  | deleteProduct name, ix, ix' => ix' = ix ∨ (Index.removeProduct name).run ix = .ok ((), ix')
  | archive ids _, ix, ix' => ix' = ix ∨ ∃ n, (Index.setArchived ids true).run ix = .ok (n, ix')
  | restore ids, ix, ix' => ix' = ix ∨ ∃ n, (Index.setArchived ids false).run ix = .ok (n, ix')

theorem Guarantee.refl (ρ : Request) (ix : Index) : ρ.Guarantee ix ix := by
  cases ρ <;> exact .inl rfl

/-- A step of a client flagging a batch, whose write the request may make. -/
theorem stage_flagAll {ρ : Request} {ids : List Uuid} {archived : Bool}
    (hg : ∀ ix ix' n, (Index.setArchived ids archived).run ix = .ok (n, ix') → ρ.Guarantee ix ix')
    {ix ix' : Index} {c' : Client} (h : (Client.flagAll ids archived).advance ix = some (ix', c')) :
    Nonempty (ρ.Stage c') ∧ ρ.Guarantee ix ix' := by
  rcases Client.advance_flagAll h with ⟨n, hrun, rfl⟩ | ⟨rfl, _, rfl⟩
  · exact ⟨⟨.finished _⟩, hg _ _ _ hrun⟩
  · exact ⟨⟨.finished _⟩, .refl ρ _⟩

theorem stage_archiveScan {ids done rest : List Uuid} (hsplit : ids = done ++ rest) {ix ix' : Index}
    {c' : Client} (h : (Client.archiveScan ids rest).advance ix = some (ix', c')) :
    Nonempty ((archive ids false).Stage c') ∧ (archive ids false).Guarantee ix ix' := by
  cases rest with
  | nil => exact stage_flagAll (ρ := archive ids false) (fun _ _ n hrun => .inr ⟨n, hrun⟩) h
  | cons id rest =>
    obtain ⟨rfl, rfl⟩ := Client.advance_archiveScan_cons h
    exact ⟨⟨.archiveInspect done hsplit⟩, .inl rfl⟩

/-- The inspection of the datasets derived from one id skips those in the
batch, and makes one read for the next one outside it. -/
theorem stage_archiveInspect {ids done rest : List Uuid} {id : Uuid}
    (hsplit : ids = done ++ id :: rest) {ix ix' : Index} {c' : Client} :
    ∀ more, (Client.archiveInspect ids id (.archiveScan ids rest) more).advance ix = some (ix', c') →
      Nonempty ((archive ids false).Stage c') ∧ (archive ids false).Guarantee ix ix'
  | [], h => stage_archiveScan (show ids = (done ++ [id]) ++ rest by simp [hsplit]) h
  | derived :: more, h => by
    cases hin : ids.contains derived
    · obtain ⟨rfl, ⟨-, rfl⟩ | ⟨_, rfl⟩⟩ := Client.advance_archiveInspect_cons hin h
      · exact ⟨⟨.archiveInspect done hsplit⟩, .inl rfl⟩
      · exact ⟨⟨.finished _⟩, .inl rfl⟩
    · rw [Client.archiveInspect_cons_of_contains hin] at h
      exact stage_archiveInspect hsplit more h

/-- Every step of a client keeps it at a stage of its request, and does to the
index only what the request may do. -/
theorem Stage.advance {ρ : Request} {c c' : Client} {ix ix' : Index} (st : ρ.Stage c)
    (h : c.advance ix = some (ix', c')) : Nonempty (ρ.Stage c') ∧ ρ.Guarantee ix ix' := by
  cases st with
  | addStart =>
    obtain ⟨rfl, ⟨-, rfl⟩ | ⟨_, rfl⟩⟩ := Client.advance_addDataset h
    · exact ⟨⟨.addInsert⟩, .inl rfl⟩
    · exact ⟨⟨.finished _⟩, .inl rfl⟩
  | addInsert =>
    obtain ⟨⟨b, hrun⟩, _, rfl⟩ := Client.advance_insertChecked h
    exact ⟨⟨.finished _⟩, .inr ⟨b, hrun⟩⟩
  | deleteStart =>
    obtain ⟨rfl, rfl | ⟨_, rfl⟩⟩ := Client.advance_deleteProduct h
    · exact ⟨⟨.deleteCount⟩, .inl rfl⟩
    · exact ⟨⟨.finished _⟩, .inl rfl⟩
  | deleteCount =>
    obtain ⟨rfl, ⟨-, rfl⟩ | ⟨_, rfl⟩⟩ := Client.advance_countThenRemove h
    · exact ⟨⟨.deleteRemove⟩, .inl rfl⟩
    · exact ⟨⟨.finished _⟩, .inl rfl⟩
  | deleteRemove =>
    obtain ⟨hg, _, rfl⟩ := Client.advance_removeChecked h
    exact ⟨⟨.finished _⟩, hg⟩
  | archiveForced => exact stage_flagAll (ρ := archive _ true) (fun _ _ n hrun => .inr ⟨n, hrun⟩) h
  | archiveScan _ _ hsplit => exact stage_archiveScan hsplit h
  | archiveInspect _ hsplit => exact stage_archiveInspect hsplit _ h
  | restoreStart => exact stage_flagAll (ρ := restore _) (fun _ _ n hrun => .inr ⟨n, hrun⟩) h
  | finished => simp [Client.advance] at h

end Request

namespace System

/-- The system whose clients start the requests `reqs` on the index `ix`. -/
def start (ix : Index) (reqs : List Request) : System := ⟨ix, reqs.map Request.client⟩

/-- Every client stands at a stage of its request. -/
def AtStages (reqs : List Request) (s : System) : Prop :=
  s.clients.length = reqs.length ∧
    ∀ (i : Nat) (ρ : Request) (c : Client), reqs[i]? = some ρ → s.clients[i]? = some c →
      Nonempty (ρ.Stage c)

variable {reqs : List Request} {s : System}

theorem atStages_start (ix : Index) (reqs : List Request) : (start ix reqs).AtStages reqs := by
  refine ⟨List.length_map _, fun i ρ c hρ hc => ?_⟩
  simp only [start, List.getElem?_map, hρ, Option.map_some, Option.some.injEq] at hc
  exact hc ▸ ⟨Request.Stage.start ρ⟩

/-- A step of a system at the stages of `reqs` changes nothing, or lets the
client of one request make a call, which does to the index only what its
request may do. -/
theorem AtStages.step_cases (hs : s.AtStages reqs) (i : Nat) :
    s.step i = s ∨ ∃ ρ c ix' c', reqs[i]? = some ρ ∧ s.clients[i]? = some c ∧
      c.advance s.index = some (ix', c') ∧ ρ.Guarantee s.index ix' ∧
      s.step i = ⟨ix', s.clients.set i c'⟩ := by
  rcases s.step_cases i with hsame | ⟨c, ix', c', hc, hadv, hstep⟩
  · exact .inl hsame
  · -- the client at `i` belongs to the request at `i`
    have hi : i < reqs.length := hs.1 ▸ (List.getElem?_eq_some_iff.1 hc).1
    obtain ⟨st⟩ := hs.2 i reqs[i] c (List.getElem?_eq_getElem hi) hc
    exact .inr ⟨reqs[i], c, ix', c', List.getElem?_eq_getElem hi, hc, hadv,
      (st.advance hadv).2, hstep⟩

theorem AtStages.step (hs : s.AtStages reqs) (i : Nat) : (s.step i).AtStages reqs := by
  rcases s.step_cases i with hsame | ⟨c, ix', c', hc, hadv, hstep⟩
  · rw [hsame]
    exact hs
  · rw [hstep]
    refine ⟨by simp [hs.1], fun j ρ d hρ hd => ?_⟩
    by_cases hji : j = i
    · subst hji
      have hj : j < s.clients.length := (List.getElem?_eq_some_iff.1 hc).1
      rw [List.getElem?_set_self hj, Option.some.injEq] at hd
      obtain ⟨st⟩ := hs.2 j ρ c hρ hc
      exact hd ▸ (st.advance hadv).1
    · rw [List.getElem?_set_ne (Ne.symm hji)] at hd
      exact hs.2 j ρ d hρ hd

/-- A fact of each client's stage: every client stands at a stage of its
request of which `P` holds on the index. -/
def StagesHold (reqs : List Request) (P : ∀ {ρ : Request} {c : Client}, ρ.Stage c → Index → Prop)
    (s : System) : Prop :=
  ∀ (i : Nat) (ρ : Request) (c : Client), reqs[i]? = some ρ → s.clients[i]? = some c →
    ∃ st : ρ.Stage c, P st s.index

/-- A fact of each client's stage survives a step when the mover reaches a
stage of which it holds, and every other client's fact crosses the mover's
guarantee. -/
theorem AtStages.stagesHold_step {P : ∀ {ρ : Request} {c : Client}, ρ.Stage c → Index → Prop}
    (hs : s.AtStages reqs) (hP : StagesHold reqs P s) (i : Nat)
    (hmove : ∀ {ρ : Request} {c c' : Client} {ix' : Index} (st : ρ.Stage c), reqs[i]? = some ρ →
      P st s.index → c.advance s.index = some (ix', c') → ∃ st' : ρ.Stage c', P st' ix')
    (hother : ∀ {ρ σ : Request} {c : Client} {ix' : Index} (st : ρ.Stage c), ρ ∈ reqs →
      reqs[i]? = some σ → σ.Guarantee s.index ix' → P st s.index → P st ix') :
    StagesHold reqs P (s.step i) := by
  rcases hs.step_cases i with hsame | ⟨σ, c, ix', c', hσ, hc, hadv, hg, hstep⟩
  · rw [hsame]
    exact hP
  intro j τ d hτ hd
  rw [hstep] at hd ⊢
  dsimp only at hd ⊢
  by_cases hji : j = i
  · -- the mover reaches a stage of which the fact holds
    subst hji
    have hj : j < s.clients.length := (List.getElem?_eq_some_iff.1 hc).1
    rw [List.getElem?_set_self hj, Option.some.injEq] at hd
    obtain rfl : σ = τ := Option.some.inj (hσ.symm.trans hτ)
    subst hd
    obtain ⟨st, hst⟩ := hP j σ c hσ hc
    exact hmove st hσ hst hadv
  · -- every other client's fact crosses the mover's step
    rw [List.getElem?_set_ne (Ne.symm hji)] at hd
    obtain ⟨st, hst⟩ := hP j τ d hτ hd
    exact ⟨st, hother st (List.mem_of_getElem? hτ) hσ hg hst⟩

theorem atStages_run (ix : Index) (reqs : List Request) (sched : List Nat) :
    ((start ix reqs).run sched).AtStages reqs :=
  run_induction (fun _ i hs => hs.step i) _ sched (atStages_start ix reqs)

end System

end Geocube
