import RenderEngine.Ports.RustStd
import RenderEngine.Ports.SealedEpochs
import RenderEngine.Ports.ViewportCells
import RenderEngine.Verified.FirstPerKey

/-!
# The substations of the seeder (`seed-data/src/main.rs`)

`build_substations` reads a list of OpenStreetMap features.  Two features can
lie in one H3 cell, and the seeder keeps the one that comes first in the file:
it decides the key that signs the cell.

## Main results

* `buildSubstations_oneOfEach`: of every cell that is hit the first feature.
* `seed_built_sealed`: what is seeded from such a list can be audited.
-/

namespace RenderEngine.Ports.SeedSubstations

open RenderEngine.Ports.CoreTypes
open RenderEngine.Ports.RustStd
open RenderEngine.Ports.Schema
open RenderEngine.Ports.SealedEpochs
open RenderEngine.Ports.SeedWriter
open RenderEngine.Ports.ViewportCells
open RenderEngine.Verified.FirstPerKey

/-! ## Features -/

structure Geometry (F : Type) where
  /-- longitude and latitude -/
  coordinates : F × F

structure Feature (F : Type) where
  geometry : Geometry F
  properties : SubstationProps

section Build

variable {F N Cell Point : Type}
variable (f64 : F64 F) (h3o : H3o F Cell Point) (lib : Libraries F N)

/-- `derive_signing_key`: the secret bytes of the key. -/
def deriveSigningKey (osmId : Text) : HexBytes32 := lib.blake3 (asBytes osmId)

/-- The voltages of a tag, those that are no `u64` left out. -/
def voltages (s : Text) : List Nat :=
  (s.splitOn ';').filterMap fun part =>
    parseUnsigned (2 ^ 64 - 1) (trimWhitespace part)

/-- `voltage_to_base_load`. -/
def voltageToBaseLoad (v : Option Text) : F :=
  match v with
  | none => f64.lit 0.90
  | some s =>
      let maxKv := ((voltages s).max?.map fun raw => raw / 1000).getD 0
      if 380 ≤ maxKv then f64.lit 1.15
      else if 220 ≤ maxKv then f64.lit 1.05
      else if 132 ≤ maxKv then f64.lit 0.95
      else if 60 ≤ maxKv then f64.lit 0.85
      else if 20 ≤ maxKv then f64.lit 0.80
      else f64.lit 0.90

/-- The unit of one feature; invalid coordinates are skipped. -/
def seedUnit (res : Resolution) (f : Feature F) : Option (Substation F) :=
  let (lon, lat) := f.geometry.coordinates
  match h3o.latLng lat lon with
  | .error _ => none
  | .ok latLng =>
      let cell := h3o.toCell latLng res
      some {
        osmId := f.properties.osmId
        h3 := ⟨h3o.toU64 cell⟩
        lat := lat
        lon := lon
        props := f.properties
        signingKey := deriveSigningKey lib f.properties.osmId
        baseLoadPu := voltageToBaseLoad f64 f.properties.voltage }

/-- The order of `u64`. -/
def h3Key (s : Substation F) : Nat := s.h3.bits.toNat

/-- `build_substations`. -/
def buildSubstations (features : List (Feature F)) :
    Outcome (List (Substation F)) := do
  let res ← match Resolution.tryFrom (UInt8.ofNat h3Resolution.toNat) with
    | some res => pure res
    | none => throw .panic
  let out := features.filterMap (seedUnit f64 h3o lib res)
  return dedupByKey h3Key (sortByKey h3Key out)

/-! ## One substation for each cell -/

/-- The cell of a feature with valid coordinates. -/
def cellOf (res : Resolution) (f : Feature F) : Option H3Cell :=
  (h3o.latLng f.geometry.coordinates.2 f.geometry.coordinates.1).toOption.map
    fun latLng => ⟨h3o.toU64 (h3o.toCell latLng res)⟩

/-- The substation that a feature makes of its cell. -/
def substationOf (f : Feature F) (cell : H3Cell) : Substation F where
  osmId := f.properties.osmId
  h3 := cell
  lat := f.geometry.coordinates.2
  lon := f.geometry.coordinates.1
  props := f.properties
  signingKey := deriveSigningKey lib f.properties.osmId
  baseLoadPu := voltageToBaseLoad f64 f.properties.voltage

/-- One substation for each cell that is hit, made by the first feature in it,
in the order of the cells. -/
structure OneOfEach (res : Resolution) (features : List (Feature F))
    (substations : List (Substation F)) : Prop where
  ascending : substations.Pairwise fun a b => h3Key a < h3Key b
  hit : ∀ cell, (∃ f ∈ features, cellOf h3o res f = some cell) ↔
    ∃! s, s ∈ substations ∧ s.h3 = cell
  first : ∀ s ∈ substations, ∃ f,
    features.find? (fun f => cellOf h3o res f = some s.h3) = some f ∧
      s = substationOf f64 lib f s.h3

theorem seedUnit_eq (res : Resolution) (f : Feature F) :
    seedUnit f64 h3o lib res f =
      (cellOf h3o res f).map (substationOf f64 lib f) := by
  obtain ⟨⟨⟨lon, lat⟩⟩, properties⟩ := f
  cases hlatLng : h3o.latLng lat lon with
  | error e =>
      simp only [seedUnit, cellOf, hlatLng, Except.toOption, Option.map_none]
  | ok latLng =>
      simp only [seedUnit, cellOf, hlatLng, Except.toOption, Option.map_some]
      rfl

theorem h3Key_eq_iff {s t : Substation F} :
    h3Key s = h3Key t ↔ s.h3 = t.h3 := by
  rw [h3Key, h3Key, BitVec.toNat_inj]
  exact ⟨fun h => congrArg H3Cell.mk h, fun h => congrArg H3Cell.bits h⟩

theorem cellOf_of_find? {res : Resolution} {features : List (Feature F)}
    {cell : H3Cell} {f : Feature F}
    (h : features.find? (fun f => cellOf h3o res f = some cell) = some f) :
    cellOf h3o res f = some cell := by
  simpa using List.find?_some h

/-- The first feature in a cell makes the substation that is kept. -/
theorem find?_seedUnit (res : Resolution) (features : List (Feature F))
    (cell : H3Cell) :
    (features.filterMap (seedUnit f64 h3o lib res)).find?
        (fun s => s.h3 = cell) =
      (features.find? fun f => cellOf h3o res f = some cell).map
        fun f => substationOf f64 lib f cell := by
  have hhit : (fun f => (seedUnit f64 h3o lib res f).any fun s => s.h3 = cell) =
      fun f => decide (cellOf h3o res f = some cell) := by
    funext f
    rw [seedUnit_eq]
    cases cellOf h3o res f with
    | none => rfl
    | some c => simp [substationOf]
  rw [List.find?_filterMap, hhit]
  cases hfind : features.find? fun f => cellOf h3o res f = some cell with
  | none => rfl
  | some f =>
      rw [Option.bind_some, seedUnit_eq, cellOf_of_find? h3o hfind]
      rfl

theorem mem_built_iff (res : Resolution) (features : List (Feature F))
    (s : Substation F) :
    s ∈ firstPerKey h3Key (features.filterMap (seedUnit f64 h3o lib res)) ↔
      ∃ f, features.find? (fun f => cellOf h3o res f = some s.h3) = some f ∧
        s = substationOf f64 lib f s.h3 := by
  have hkey : (fun t : Substation F => decide (h3Key t = h3Key s)) =
      fun t => decide (t.h3 = s.h3) := by
    funext t
    rw [decide_eq_decide, h3Key_eq_iff]
  rw [mem_firstPerKey_iff, hkey, find?_seedUnit, Option.map_eq_some_iff]
  exact exists_congr fun f => and_congr_right fun _ => eq_comm

theorem oneOfEach_built (res : Resolution) (features : List (Feature F)) :
    OneOfEach f64 h3o lib res features
      (firstPerKey h3Key (features.filterMap (seedUnit f64 h3o lib res))) where
  ascending := firstPerKey_strict h3Key _
  hit := by
    intro cell
    constructor
    · rintro ⟨f, hf, hcell⟩
      have hsome :
          (features.find? fun f => cellOf h3o res f = some cell).isSome :=
        List.find?_isSome.mpr ⟨f, hf, decide_eq_true hcell⟩
      obtain ⟨g, hg⟩ := Option.isSome_iff_exists.mp hsome
      refine ⟨substationOf f64 lib g cell,
        ⟨(mem_built_iff f64 h3o lib res features _).mpr ⟨g, hg, rfl⟩, rfl⟩,
        ?_⟩
      rintro s ⟨hs, rfl⟩
      obtain ⟨g', hg', heq⟩ :=
        (mem_built_iff f64 h3o lib res features s).mp hs
      rw [Option.some.inj (hg.symm.trans hg')]
      exact heq
    · rintro ⟨s, ⟨hs, rfl⟩, -⟩
      obtain ⟨f, hf, -⟩ := (mem_built_iff f64 h3o lib res features s).mp hs
      exact ⟨f, List.mem_of_find?_eq_some hf, cellOf_of_find? h3o hf⟩
  first := fun s hs => (mem_built_iff f64 h3o lib res features s).mp hs

/-- **The list of features leaves one substation for each cell that a valid one
hits, and it is that of the first of them.** -/
theorem buildSubstations_oneOfEach (features : List (Feature F)) :
    ∃ substations, buildSubstations f64 h3o lib features = .ok substations ∧
      OneOfEach f64 h3o lib 11 features substations :=
  ⟨_, rfl, oneOfEach_built f64 h3o lib 11 features⟩

theorem OneOfEach.distinct {res : Resolution} {features : List (Feature F)}
    {substations : List (Substation F)}
    (h : OneOfEach f64 h3o lib res features substations) :
    (substations.map Substation.h3).Nodup := by
  rw [List.Nodup, List.pairwise_map]
  exact h.ascending.imp fun hlt heq => hlt.ne (h3Key_eq_iff.mpr heq)

/-! ## Seeding from a list of features -/

variable (pair : HexBytes32 → HexBytes32 → HexBytes32) {tenant : TenantId}

theorem seedLoop_sealed {r : SeederRun F}
    (hdistinct : (r.substations.map Substation.h3).Nodup) (n : Nat)
    (epochId : Int) (parentRoot : Option HexBytes32) {db : Database N}
    (hs : Sealed pair db) (htenant : tenant ∈ db.tenants)
    (hfree : ∀ j, epochId ≤ j → db.findEpoch tenant j = none) :
    ∃ db', seedLoop lib pair tenant r n epochId parentRoot db = .ok db' ∧
      Sealed pair db' := by
  induction n generalizing epochId parentRoot db with
  | zero => exact ⟨db, rfl, hs⟩
  | succ n ih =>
      have hnone := hfree epochId (Int.le_refl _)
      obtain ⟨db₁, root, hcommit⟩ := writeEpoch_ok lib pair db
        (r.call tenant epochId parentRoot) htenant
      have hsealing : Sealing db (r.call tenant epochId parentRoot) := by
        have hfind : db.findEpoch (r.call tenant epochId parentRoot).tenant
            (r.call tenant epochId parentRoot).epochId = none := hnone
        rw [Sealing, hfind]
        exact hdistinct
      have hs₁ := (sealed_step_iff hs hcommit).mpr hsealing
      obtain ⟨-, htenants, -, ⟨⟨row, hrow⟩, -⟩ | ⟨-, hepochs⟩⟩ :=
        writeEpoch_cases lib pair hcommit
      · exact absurd (hnone.symm.trans hrow) (by simp)
      · have hfree₁ : ∀ j, epochId + 1 ≤ j →
            db₁.findEpoch tenant j = none := by
          intro j hj
          have hold := hfree j (by omega)
          rw [findEpoch_eq_none_iff] at hold ⊢
          rw [hepochs, List.map_append, List.mem_append, not_or]
          refine ⟨hold, ?_⟩
          intro hnew
          have hj' : j = epochId := (Prod.mk.inj (List.mem_singleton.mp hnew)).2
          omega
        obtain ⟨db', hloop, hs'⟩ := ih (epochId + 1) (some root) hs₁
          (htenants ▸ htenant) hfree₁
        refine ⟨db', ?_, hs'⟩
        rw [seedLoop, hcommit, Outcome.ok_bind]
        exact hloop

/-- **A run of the seeder over the features of a file, for a tenant that has no
epoch yet, leaves every stored cell with an accepted proof.** -/
theorem seed_built_sealed (features : List (Feature F)) {db : Database N}
    (hs : Sealed pair db) (htenant : tenant ∈ db.tenants)
    (hfresh : ∀ j, db.findEpoch tenant j = none) (committed : Nat)
    (now : Timestamp) :
    ∃ substations db', buildSubstations f64 h3o lib features = .ok substations ∧
      seed lib pair tenant db ⟨substations, committed, now⟩ = .ok db' ∧
      SealedAndProvable pair db' := by
  have hone := oneOfEach_built f64 h3o lib 11 features
  obtain ⟨db', hloop, hs'⟩ := seedLoop_sealed lib pair
    (r := ⟨_, committed, now⟩) hone.distinct committed 0 none hs
    htenant fun j _ => hfresh j
  refine ⟨_, db', rfl, ?_, (sealedAndProvable_iff pair db').mpr hs'⟩
  rw [seed, verifyTenantExists, if_pos htenant]
  exact hloop

end Build

end RenderEngine.Ports.SeedSubstations
