import RenderEngine.Ports.EpochChain

/-!
# Interrupted seeding

The seeder commits one epoch at a time and carries the parent root in memory.
A run that finds epochs of its own list stored writes nothing for them, and
still returns their roots to itself; so it goes on where an earlier run
stopped with the parent root that run would have used.

`SeededTo n` says which rows are there after `n` epochs, whoever wrote them.

## Main results

* `writeEpoch_stored`, `writeEpoch_next`: one call, for an epoch that is there
  and for the next one.
* `seedLoop_seededTo`: a run that starts over.
* `seed_resumes`: any number of interrupted runs and a complete one leave the
  rows of a single uninterrupted run.
-/

namespace RenderEngine.Ports.SeedResume

open RenderEngine.Ports.CoreTypes
open RenderEngine.Ports.Schema
open RenderEngine.Ports.MerkleProof
open RenderEngine.Ports.SeedWriter
open RenderEngine.Ports.EpochChain
open RenderEngine.Verified.KeyedRows
open RenderEngine.Verified.StepRun

/-! ## Writing what is there -/

/-- Two databases with the same tables are the same. -/
theorem database_ext {N : Type} {db db' : Database N}
    (htenants : db.tenants = db'.tenants) (hepochs : db.epochs = db'.epochs)
    (hcells : db.cellStates = db'.cellStates)
    (hatts : db.attestations = db'.attestations) : db = db' := by
  cases db
  cases db'
  cases htenants
  cases hepochs
  cases hcells
  cases hatts
  rfl

theorem insertCells_present {N : Type} {db : Database N}
    {rows : List (CellStateRow N)}
    (hfkey : ∀ r ∈ rows, r.epochKey ∈ db.epochs.map EpochRow.key)
    (hpresent : ∀ r ∈ rows, r.key ∈ db.cellStates.map CellStateRow.key) :
    db.insertCells rows = .ok db := by
  unfold Database.insertCells
  rw [dif_pos hfkey]
  refine congrArg Except.ok (database_ext rfl rfl ?_ rfl)
  exact insertAll_of_present CellStateRow.key hpresent

section Resume

variable {F N : Type} (lib : Libraries F N)
variable (pair : HexBytes32 → HexBytes32 → HexBytes32)

/-- A call whose epoch and cells are stored changes nothing. -/
theorem writeEpoch_stored (db : Database N) (call : EpochCall F)
    (hepoch : (call.tenant, call.epochId) ∈ db.epochs.map EpochRow.key)
    (hcells : ∀ r ∈ call.cells lib,
      r.key ∈ db.cellStates.map CellStateRow.key) :
    writeEpoch lib pair db call =
      .ok (db, rootOf pair (HexBytes.zero 32) (call.hashes lib)) := by
  have hopen : ∀ root, openEpoch db (call.epochRow lib root) = .ok db := by
    intro root
    unfold openEpoch
    cases hfind : db.findEpoch (call.epochRow lib root).tenantId
        (call.epochRow lib root).epochId with
    | some r => rfl
    | none => exact absurd hepoch ((findEpoch_eq_none_iff db _ _).mp hfind)
  have hblocks : ∀ blocks : List (List (SeedRow F N)),
      (∀ block ∈ blocks, ∀ row ∈ block, row ∈ call.rows lib) →
      blocks.foldlM
        (fun db chunk => db.insertCells (chunk.map call.cellOf)) db =
        (.ok db : Outcome (Database N)) := by
    intro blocks hsub
    induction blocks with
    | nil => rfl
    | cons block blocks ih =>
        have hblock : db.insertCells (block.map call.cellOf) = .ok db := by
          apply insertCells_present
          · intro r hr
            rcases List.mem_map.mp hr with ⟨row, -, rfl⟩
            exact hepoch
          · intro r hr
            rcases List.mem_map.mp hr with ⟨row, hrow, rfl⟩
            exact hcells _ (List.mem_map_of_mem
              (hsub block List.mem_cons_self row hrow))
        rw [List.foldlM_cons, hblock]
        exact ih (fun b hb => hsub b (List.mem_cons_of_mem block hb))
  have hchunks := hblocks (chunks batchSize (call.rows lib)) (by
    intro block hblock row hrow
    rw [← flatten_chunks (by decide : 0 < batchSize) (call.rows lib)]
    exact List.mem_flatten.mpr ⟨block, hblock, hrow⟩)
  simp only [writeEpoch, merkleRoot_eq_rootOf, Outcome.ok_bind, hopen, hchunks]
  rfl

/-! ## The rows of an uninterrupted run -/

/-- A cell with its time of writing left out. -/
def withoutWrittenAt (r : CellStateRow N) : CellStateRow N :=
  { r with writtenAt := 0 }

variable (tenant : TenantId) (substations : List (Substation F))

/-- A run over the whole list that nothing interrupts. -/
def fullRun : SeederRun F := ⟨substations, epochCount, 0⟩

/-- The epoch row of epoch `j`. -/
def seededEpoch (j : Nat) : EpochRow :=
  loopRow lib pair tenant (fullRun substations) 0 none j

/-- The cell rows of epoch `j`: of substations in one H3 cell the first. -/
def seededCells (j : Nat) : List (CellStateRow N) :=
  insertAll CellStateRow.key []
    (((fullRun substations).call tenant j none).cells lib)

/-- The rows of epochs `0` to `n - 1` have been added to those of `db₀`. -/
structure SeededTo (db₀ : Database N) (n : Nat) (db : Database N) : Prop where
  tenants : db.tenants = db₀.tenants
  epochs : db.epochs = db₀.epochs ++
    (List.range n).map (seededEpoch lib pair tenant substations)
  cells : db.cellStates.map withoutWrittenAt =
    db₀.cellStates.map withoutWrittenAt ++
      (List.range n).flatMap (seededCells lib tenant substations)

/-- The parent root a run carries when it comes to epoch `j`. -/
def carriedRoot (j : Nat) : Option HexBytes32 :=
  if (j : Int) = 0 then none
  else some (runRoot lib pair tenant (fullRun substations) (j - 1))

/-- A run over the list, whenever it runs and however far it gets. -/
structure OverList (r : SeederRun F) : Prop where
  substations : r.substations = substations
  committed : r.committed ≤ epochCount

variable {tenant substations}

theorem OverList.runRoot_eq {r : SeederRun F} (hr : OverList substations r)
    (j : Int) : runRoot lib pair tenant r j =
      runRoot lib pair tenant (fullRun substations) j := by
  rcases r with ⟨subs, committed, now⟩
  cases hr.substations
  rfl

theorem OverList.epochRow_eq {r : SeederRun F} (hr : OverList substations r)
    (j : Nat) :
    (r.call tenant j (carriedRoot lib pair tenant substations j)).epochRow lib
        (runRoot lib pair tenant r j) =
      seededEpoch lib pair tenant substations j := by
  rcases r with ⟨subs, committed, now⟩
  cases hr.substations
  rfl

/-- But for their time of writing, the cells of two runs are the same. -/
theorem OverList.cells_eq {r : SeederRun F} (hr : OverList substations r)
    (j : Nat) (parent : Option HexBytes32) :
    ((r.call tenant j parent).cells lib).map withoutWrittenAt =
      ((fullRun substations).call tenant j none).cells lib := by
  rcases r with ⟨subs, committed, now⟩
  cases hr.substations
  rw [EpochCall.cells, EpochCall.cells, List.map_map]
  rfl

theorem map_key_withoutWrittenAt (rows : List (CellStateRow N)) :
    (rows.map withoutWrittenAt).map CellStateRow.key =
      rows.map CellStateRow.key := by
  rw [List.map_map]
  rfl

section Invariant

variable {lib pair}
variable {db₀ db : Database N} {n : Nat}

/-- Before the first run nothing is seeded. -/
theorem seededTo_zero (db₀ : Database N) :
    SeededTo lib pair tenant substations db₀ 0 db₀ where
  tenants := rfl
  epochs := (List.append_nil _).symm
  cells := (List.append_nil _).symm

/-- Of the tenant's epochs those below `n` are stored and no others. -/
theorem SeededTo.epoch_mem_iff
    (h : SeededTo lib pair tenant substations db₀ n db)
    (hfresh : ∀ j, db₀.findEpoch tenant j = none) (j : Nat) :
    (tenant, (j : Int)) ∈ db.epochs.map EpochRow.key ↔ j < n := by
  have hbefore := (findEpoch_eq_none_iff db₀ tenant j).mp (hfresh j)
  have hkeys : (seededEpoch lib pair tenant substations · |>.key) =
      fun i : Nat => (tenant, (i : Int)) := rfl
  rw [h.epochs, List.map_append, List.mem_append, or_iff_right hbefore,
    List.map_map]
  change (tenant, (j : Int)) ∈ (List.range n).map
    (seededEpoch lib pair tenant substations · |>.key) ↔ _
  rw [hkeys]
  simp

/-- Epochs below `n` have their cells. -/
theorem SeededTo.cells_present
    (h : SeededTo lib pair tenant substations db₀ n db)
    {r : SeederRun F} (hr : OverList substations r) {j : Nat} (hj : j < n)
    (parent : Option HexBytes32) :
    ∀ c ∈ (r.call tenant j parent).cells lib,
      c.key ∈ db.cellStates.map CellStateRow.key := by
  intro c hc
  have hseeded : withoutWrittenAt c ∈
      ((fullRun substations).call tenant j none).cells lib :=
    hr.cells_eq lib j parent ▸ List.mem_map_of_mem hc
  have hkey : (withoutWrittenAt c).key ∈
      (seededCells lib tenant substations j).map CellStateRow.key :=
    key_mem_insertAll CellStateRow.key [] hseeded
  rcases List.mem_map.mp hkey with ⟨c', hc', hcc⟩
  change (withoutWrittenAt c).key ∈ _
  rw [← map_key_withoutWrittenAt, h.cells, ← hcc]
  apply List.mem_map_of_mem
  exact List.mem_append_right _
    (List.mem_flatMap.mpr ⟨j, List.mem_range.mpr hj, hc'⟩)

/-- A tenant's epoch without its row has no cell in the way. -/
theorem cells_free {call : EpochCall F}
    (hnew : db.findEpoch call.tenant call.epochId = none) :
    ∀ c ∈ call.cells lib, c.key ∉ db.cellStates.map CellStateRow.key := by
  intro c hc hmem
  rcases List.mem_map.mp hmem with ⟨c', hc', hkey⟩
  have hnone := List.filter_eq_nil_iff.mp (cellStates_of_no_epoch hnew) c' hc'
  simp only [CellStateRow.key, Prod.mk.injEq] at hkey
  have hepoch := cells_epochKey lib call hc
  simp only [CellStateRow.epochKey, Prod.mk.injEq] at hepoch
  apply hnone
  simp [CellStateRow.epochKey, hkey, hepoch]

/-- **A call for the next epoch adds its rows.** -/
theorem writeEpoch_next (h : SeededTo lib pair tenant substations db₀ n db)
    (hfresh : ∀ j, db₀.findEpoch tenant j = none)
    (htenant : tenant ∈ db₀.tenants)
    {r : SeederRun F} (hr : OverList substations r) :
    ∃ db', writeEpoch lib pair db
        (r.call tenant n (carriedRoot lib pair tenant substations n)) =
          .ok (db', runRoot lib pair tenant r n) ∧
      SeededTo lib pair tenant substations db₀ (n + 1) db' := by
  have hnew : db.findEpoch tenant n = none := by
    rw [findEpoch_eq_none_iff, h.epoch_mem_iff hfresh]
    exact Nat.lt_irrefl n
  rcases writeEpoch_ok lib pair db
    (r.call tenant n (carriedRoot lib pair tenant substations n))
    (h.tenants ▸ htenant) with ⟨db', root, hcommit⟩
  rcases writeEpoch_cases lib pair hcommit with
    ⟨hroot, htenants, hcells, hepochs⟩
  rw [merkleRoot_eq_rootOf] at hroot
  obtain rfl : runRoot lib pair tenant r n = root := Except.ok.inj hroot
  refine ⟨db', hcommit, ?_⟩
  refine { tenants := htenants.trans h.tenants, epochs := ?_, cells := ?_ }
  · rcases hepochs with ⟨⟨row, hfind⟩, -⟩ | ⟨-, hepochs⟩
    · exact absurd (hnew.symm.trans hfind) (by simp)
    · rw [hepochs, h.epochs, hr.epochRow_eq, List.range_succ, List.map_append,
        List.append_assoc]
      rfl
  · have hfree : ∀ c ∈ (r.call tenant n
        (carriedRoot lib pair tenant substations n)).cells lib,
        c.key ∉ db.cellStates.map CellStateRow.key := cells_free hnew
    have hfree' : ∀ c ∈ ((fullRun substations).call tenant n none).cells lib,
        c.key ∉ (db.cellStates.map withoutWrittenAt).map CellStateRow.key := by
      intro c hc
      rw [← hr.cells_eq lib n (carriedRoot lib pair tenant substations n)] at hc
      rcases List.mem_map.mp hc with ⟨c', hc', rfl⟩
      rw [map_key_withoutWrittenAt]
      exact hfree c' hc'
    rw [hcells, map_insertAll CellStateRow.key (f := withoutWrittenAt)
        (fun _ => rfl), hr.cells_eq,
      insertAll_of_disjoint CellStateRow.key hfree', h.cells, List.range_succ,
      List.flatMap_append, List.append_assoc]
    simp [seededCells]

/-! ## Runs -/

/-- A loop over epochs that are all there changes nothing. -/
theorem seedLoop_stored (h : SeededTo lib pair tenant substations db₀ n db)
    (hfresh : ∀ j, db₀.findEpoch tenant j = none)
    {r : SeederRun F} (hr : OverList substations r) (m start : Nat)
    (hle : start + m ≤ n) (parent : Option HexBytes32) :
    seedLoop lib pair tenant r m start parent db = .ok db := by
  induction m generalizing start parent with
  | zero => rfl
  | succ m ih =>
      have hstored := writeEpoch_stored lib pair db (r.call tenant start parent)
        ((h.epoch_mem_iff hfresh start).mpr (by omega))
        (h.cells_present hr (by omega) parent)
      have hnext : (start : Int) + 1 = ((start + 1 : Nat) : Int) := by omega
      rw [seedLoop, hstored, Outcome.ok_bind, hnext]
      exact ih (start + 1) (by omega) _

/-- **A loop goes on where the rows end.**  It starts over at epoch `start`
with the root it would carry there. -/
theorem seedLoop_seededTo (h : SeededTo lib pair tenant substations db₀ n db)
    (hfresh : ∀ j, db₀.findEpoch tenant j = none)
    (htenant : tenant ∈ db₀.tenants)
    {r : SeederRun F} (hr : OverList substations r) (m start : Nat)
    (hle : start ≤ n) :
    ∃ db', seedLoop lib pair tenant r m start
        (carriedRoot lib pair tenant substations start) db = .ok db' ∧
      SeededTo lib pair tenant substations db₀ (max n (start + m)) db' := by
  induction m generalizing start n db with
  | zero =>
      refine ⟨db, rfl, ?_⟩
      rwa [Nat.add_zero, Nat.max_eq_left hle]
  | succ m ih =>
      have hnext : (start : Int) + 1 = ((start + 1 : Nat) : Int) := by omega
      have hshift : start + 1 + m = start + (m + 1) := by omega
      have hcarried : carriedRoot lib pair tenant substations (start + 1) =
          some (runRoot lib pair tenant r start) := by
        rw [carriedRoot, if_neg (by omega), hr.runRoot_eq, ← hnext,
          Int.add_sub_cancel]
      rcases Nat.lt_or_eq_of_le hle with hlt | rfl
      · have hstored := writeEpoch_stored lib pair db
          (r.call tenant start (carriedRoot lib pair tenant substations start))
          ((h.epoch_mem_iff hfresh start).mpr hlt)
          (h.cells_present hr hlt _)
        rcases ih h (start + 1) hlt with ⟨db', hrest, hseeded⟩
        refine ⟨db', ?_, hshift ▸ hseeded⟩
        rw [seedLoop, hstored, Outcome.ok_bind, hnext, ← hrest, hcarried]
        rfl
      · rcases writeEpoch_next h hfresh htenant hr with ⟨db₁, hcall, hseeded₁⟩
        rcases ih hseeded₁ (start + 1) (Nat.le_refl _) with
          ⟨db', hrest, hseeded⟩
        refine ⟨db', ?_, ?_⟩
        · rw [seedLoop, hcall, Outcome.ok_bind, hnext, ← hrest, hcarried]
        · rw [Nat.max_eq_right (by omega), hshift] at hseeded
          rwa [Nat.max_eq_right (by omega)]

theorem verifyTenantExists_ok {db : Database N}
    (htenant : tenant ∈ db.tenants) :
    verifyTenantExists db tenant = .ok () := if_pos htenant

/-- A run over the list goes through and leaves the rows of as many epochs as
it or an earlier run came to. -/
theorem seedStep_seededTo (h : SeededTo lib pair tenant substations db₀ n db)
    (hfresh : ∀ j, db₀.findEpoch tenant j = none)
    (htenant : tenant ∈ db₀.tenants)
    {r : SeederRun F} (hr : OverList substations r) :
    ∃ db', seedStep lib pair tenant db r = some db' ∧
      SeededTo lib pair tenant substations db₀ (max n r.committed) db' := by
  rcases seedLoop_seededTo h hfresh htenant hr r.committed 0 (Nat.zero_le n)
    with ⟨db', hloop, hseeded⟩
  refine ⟨db', ?_, by rwa [Nat.zero_add] at hseeded⟩
  have hseed : seed lib pair tenant db r = .ok db' := by
    rw [seed, verifyTenantExists_ok (h.tenants ▸ htenant), Outcome.ok_bind]
    exact hloop
  rw [seedStep, hseed]

/-- A run that comes to no new epoch changes nothing. -/
theorem seedStep_stored (h : SeededTo lib pair tenant substations db₀ n db)
    (hfresh : ∀ j, db₀.findEpoch tenant j = none)
    (htenant : tenant ∈ db₀.tenants)
    {r : SeederRun F} (hr : OverList substations r) (hle : r.committed ≤ n) :
    seedStep lib pair tenant db r = some db := by
  have hseed : seed lib pair tenant db r = .ok db := by
    rw [seed, verifyTenantExists_ok (h.tenants ▸ htenant), Outcome.ok_bind]
    exact seedLoop_stored h hfresh hr r.committed 0 (by omega) none
  rw [seedStep, hseed]

end Invariant

/-- A run that is not interrupted. -/
structure Complete (substations : List (Substation F)) (r : SeederRun F) :
    Prop where
  substations : r.substations = substations
  committed : r.committed = epochCount

theorem Complete.overList {r : SeederRun F} (h : Complete substations r) :
    OverList substations r where
  substations := h.substations
  committed := h.committed.le

/-- The epoch and cell rows of two databases agree, times of writing aside. -/
structure SameRows (db db' : Database N) : Prop where
  epochs : db.epochs = db'.epochs
  cellStates : db.cellStates.map withoutWrittenAt =
    db'.cellStates.map withoutWrittenAt

/-- **Interrupted seeding resumes to the same database.**  Any number of runs
over one list, each stopped after any epoch, and then a complete run leave the
rows of one uninterrupted run; further complete runs change nothing. -/
theorem seed_resumes (db : Database N) (htenant : tenant ∈ db.tenants)
    (hfresh : ∀ j, db.findEpoch tenant j = none)
    {interrupted : List (SeederRun F)}
    (hinterrupted : ∀ r ∈ interrupted, OverList substations r)
    {last once : SeederRun F} (hlast : Complete substations last)
    (honce : Complete substations once) :
    ∃ db' db₁,
      run (seedStep lib pair tenant) db (interrupted ++ [last]) = some db' ∧
      seedStep lib pair tenant db once = some db₁ ∧ SameRows db' db₁ ∧
      ∀ more, (∀ r ∈ more, Complete substations r) →
        run (seedStep lib pair tenant) db' more = some db' := by
  have hbegin : SeededTo lib pair tenant substations db 0 db :=
    seededTo_zero db
  have hruns : ∃ t, run (seedStep lib pair tenant) db interrupted = some t ∧
      ∃ n ≤ epochCount, SeededTo lib pair tenant substations db n t := by
    refine exists_run (seedStep lib pair tenant) ?_
      ⟨0, Nat.zero_le _, hbegin⟩ hinterrupted
    rintro s r ⟨n, hn, hs⟩ hr
    rcases seedStep_seededTo hs hfresh htenant hr with ⟨s', hstep, hs'⟩
    exact ⟨s', hstep, _, Nat.max_le.mpr ⟨hn, hr.committed⟩, hs'⟩
  rcases hruns with ⟨t, ht, n, hn, hseeded⟩
  rcases seedStep_seededTo hseeded hfresh htenant hlast.overList with
    ⟨db', hrun, hdone⟩
  rcases seedStep_seededTo hbegin hfresh htenant honce.overList with
    ⟨db₁, hrun₁, hdone₁⟩
  rw [hlast.committed, Nat.max_eq_right hn] at hdone
  rw [honce.committed, Nat.max_eq_right (Nat.zero_le _)] at hdone₁
  refine ⟨db', db₁, ?_, hrun₁, ?_, ?_⟩
  · rw [run_concat, ht]
    exact hrun
  · exact {
      epochs := hdone.epochs.trans hdone₁.epochs.symm
      cellStates := hdone.cells.trans hdone₁.cells.symm }
  · intro more hmore
    have hstep : ∀ s r, s = db' → Complete substations r →
        ∃ s', seedStep lib pair tenant s r = some s' ∧ s' = db' := by
      rintro s r rfl hr
      exact ⟨s, seedStep_stored hdone hfresh htenant hr.overList
        hr.committed.le, rfl⟩
    rcases exists_run (seedStep lib pair tenant) hstep rfl hmore with
      ⟨s, hs, rfl⟩
    exact hs

end Resume

/-- A run stopped after three epochs, one stopped at once, and a complete
one. -/
theorem seed_resumes_after_three :
    ∃ db' db₁,
      run (seedStep checksumLibraries checksumPair ciTenant)
        (Database.migrated Int [ciTenant])
        ([⟨[bareSubstation "a" 5], 3, 0⟩, ⟨[bareSubstation "a" 5], 0, 1⟩] ++
          [⟨[bareSubstation "a" 5], epochCount, 2⟩]) = some db' ∧
      seedStep checksumLibraries checksumPair ciTenant
        (Database.migrated Int [ciTenant])
        ⟨[bareSubstation "a" 5], epochCount, 3⟩ = some db₁ ∧
      SameRows db' db₁ ∧
      ∀ more : List (SeederRun Int),
        (∀ r ∈ more, Complete [bareSubstation "a" 5] r) →
        run (seedStep checksumLibraries checksumPair ciTenant) db' more =
          some db' :=
  seed_resumes checksumLibraries checksumPair (Database.migrated Int [ciTenant])
    List.mem_cons_self (fun _ => rfl)
    (by
      intro r hr
      simp only [List.mem_cons, List.not_mem_nil, or_false] at hr
      rcases hr with rfl | rfl <;> exact ⟨rfl, by decide⟩)
    ⟨rfl, rfl⟩ ⟨rfl, rfl⟩

end RenderEngine.Ports.SeedResume
