import RenderEngine.Ports.QueryPredictions

/-!
# What `query_predictions` takes its arguments for

A limit that is no `u64` counts as absent, which makes it 100, and a `u64` is
cut down to 32 bits before its range is checked.  An epoch that is no `i64`
and a model version that is no string count as absent too, and then the query
has one filter less.

## Main results

* `limitEnforced_iff`: which limits are enforced.
* `filtersKept_iff`: which filters are kept.
-/

namespace RenderEngine.Ports.QueryArguments

open RenderEngine.Ports.CoreTypes
open RenderEngine.Ports.Serde
open RenderEngine.Ports.SerdeNumber
open RenderEngine.Ports.LabClient
open RenderEngine.Ports.QueryPredictions

/-! ## The limit -/

/-- The value is an integer from 1 to 1000. -/
def LimitOf (v : Value Number) (k : Nat) : Prop :=
  1 ≤ k ∧ k ≤ 1000 ∧ ∃ n : Number, v = Value.number n ∧ n.real = k

/-- The call returns no more records than its limit allows, and is rejected
for a limit out of range. -/
structure LimitEnforced (lab : Lab) (args v : Value Number) : Prop where
  bounded : ∀ k, LimitOf v k →
    (returned (queryPredictions (some lab) args)).length ≤ k
  refused : (¬ ∃ k, LimitOf v k) → Rejected (queryPredictions (some lab) args)

/-- The number passes for a limit as it stands, or is refused after all. -/
def LimitRead : Number → Prop
  | .posInt n => (1 ≤ n.toNat ∧ n.toNat ≤ 1000) ∨
      n.toNat % 2 ^ 32 = 0 ∨ 1000 < n.toNat % 2 ^ 32
  | .negInt _ => False
  | .float x => ∃ k : Nat, 100 ≤ k ∧ k ≤ 1000 ∧ x.val = k

/-- A double that is an integer in the range: where it is below 100, the
records of the table decide. -/
def SpelledAsDouble (v : Value Number) : Prop :=
  ∃ (x : Double) (k : Nat), v = Value.number (.float x) ∧ 1 ≤ k ∧ k ≤ 1000 ∧
    x.val = k

/-- The call is rejected for its model version, or reads its limit. -/
def LimitSound (args v : Value Number) : Prop :=
  (∃ mv, modelVersionArg args = some mv ∧ validModelVersion mv = false) ∨
  ∃ n : Number, v = Value.number n ∧ LimitRead n

theorem number_injective : Function.Injective (Value.number (N := Number)) := by
  intro n m h
  cases h
  rfl

/-- Any filters are satisfied by some row. -/
theorem exists_wanted (cloud : F64) (h3Cell : Text) (epoch : Option Int64)
    (modelVersion : Option Text) :
    ∃ ep mv, wanted h3Cell epoch modelVersion (fullRow cloud h3Cell ep mv) =
      true := by
  refine ⟨epoch.getD 0, modelVersion.getD [], ?_⟩
  cases epoch <;> cases modelVersion <;> simp [wanted, fullRow]

section Limit

variable {args v : Value Number} {h3Cell : Text}

theorem validRequest_false_iff (hvalid : validH3Cell h3Cell = true) :
    validRequest h3Cell (modelVersionArg args) (limitArg args) = false ↔
      (∃ mv, modelVersionArg args = some mv ∧ validModelVersion mv = false) ∨
      validLimit (limitArg args) = false := by
  rw [validRequest, hvalid, Bool.true_and, Bool.and_eq_false_iff]
  cases modelVersionArg args with
  | none => simp
  | some mv => simp

/-- The limit a call is made with. -/
theorem limitArg_eq (hlimit : args.get "limit".toList = some v) :
    limitArg args = ((asU64 v).getD 100).toUInt32 := by
  rw [limitArg, hlimit, Option.bind_some]

theorem limitArg_posInt {n : UInt64}
    (hlimit : args.get "limit".toList = some (Value.number (.posInt n))) :
    (limitArg args).toNat = n.toNat % 2 ^ 32 := by
  rw [limitArg_eq hlimit]
  exact UInt64.toNat_toUInt32 n

theorem limitArg_default (hlimit : args.get "limit".toList = some v)
    (hother : asU64 v = none) : limitArg args = 100 := by
  rw [limitArg_eq hlimit, hother]
  rfl

/-- A limit that is read is the one that was meant. -/
theorem limitOf_unique {n : Number} {k : Nat}
    (h : LimitOf (Value.number n) k) : n.real = k := by
  obtain ⟨-, -, m, hm, hk⟩ := h
  rw [number_injective hm]
  exact hk

theorem limitOf_posInt {n : UInt64} {k : Nat}
    (h : LimitOf (Value.number (.posInt n)) k) : n.toNat = k := by
  have hreal : (n.toNat : ℚ) = k := limitOf_unique h
  exact_mod_cast hreal

theorem not_limitOf_negInt {i : { i : Int64 // i < 0 }} {k : Nat} :
    ¬ LimitOf (Value.number (.negInt i)) k := by
  intro h
  have hreal : (i.val.toInt : ℚ) = k := limitOf_unique h
  have hint : i.val.toInt = (k : Int) := by exact_mod_cast hreal
  have hneg : i.val.toInt < 0 := Int64.lt_iff_toInt_lt.mp i.property
  omega

/-- Which limits the lab client refuses. -/
theorem validLimit_eq_false_iff (n : UInt32) :
    validLimit n = false ↔ n.toNat = 0 ∨ 1000 < n.toNat := by
  rw [← Bool.not_eq_true, validLimit_iff]
  omega

section Calls

variable (lab : Lab) (hcell : h3CellArg args = some h3Cell)
  (hvalid : validH3Cell h3Cell = true)
  (hlimit : args.get "limit".toList = some v)

include hcell

theorem returned_length_le :
    (returned (queryPredictions (some lab) args)).length ≤
      (limitArg args).toNat := by
  by_cases hrequest :
      validRequest h3Cell (modelVersionArg args) (limitArg args) = true
  · obtain ⟨records, hreturned, hlength, -⟩ :=
      exists_rows_of_returned lab hcell hrequest
    rw [hreturned, List.length_map]
    exact hlength
  · rw [Bool.not_eq_true] at hrequest
    rw [returned_of_rejected ((rejected_iff lab hcell).mpr hrequest)]
    exact Nat.zero_le _

/-- A rejected call keeps to every limit. -/
theorem limitEnforced_of_rejected
    (hrequest : validRequest h3Cell (modelVersionArg args) (limitArg args) =
      false) : LimitEnforced lab args v := by
  have hrejected := (rejected_iff lab hcell).mpr hrequest
  refine ⟨fun k _ => ?_, fun _ => hrejected⟩
  rw [returned_of_rejected hrejected]
  exact Nat.zero_le k

include hvalid hlimit

theorem limitEnforced_of_sound (h : LimitSound args v) :
    LimitEnforced lab args v := by
  have hlength := returned_length_le lab hcell
  rcases h with hmodel | ⟨n, rfl, hread⟩
  · exact limitEnforced_of_rejected lab hcell
      ((validRequest_false_iff hvalid).mpr (Or.inl hmodel))
  cases n with
  | negInt i => exact hread.elim
  | posInt n =>
      have hcut := limitArg_posInt hlimit
      rcases hread with hrange | hrefused
      · have hsmall : n.toNat % 2 ^ 32 = n.toNat := by omega
        have hmeant : LimitOf (Value.number (.posInt n)) n.toNat :=
          ⟨hrange.1, hrange.2, _, rfl, rfl⟩
        refine ⟨fun k hk => ?_, fun hno => absurd ⟨_, hmeant⟩ hno⟩
        have hkn := limitOf_posInt hk
        omega
      · apply limitEnforced_of_rejected lab hcell
        rw [validRequest_false_iff hvalid, validLimit_eq_false_iff, hcut]
        exact Or.inr hrefused
  | float x =>
      obtain ⟨k, hlow, hhigh, hk⟩ := hread
      have hdefault : (limitArg args).toNat = 100 := by
        rw [limitArg_default hlimit rfl]
        rfl
      have hmeant : LimitOf (Value.number (.float x)) k :=
        ⟨by omega, hhigh, _, rfl, hk⟩
      refine ⟨fun k' hk' => ?_, fun hno => absurd ⟨_, hmeant⟩ hno⟩
      have hreal : x.val = k' := limitOf_unique hk'
      have hkk : k = k' := by
        rw [hk] at hreal
        exact_mod_cast hreal
      omega

/-- A call that is not rejected has a limit in range. -/
theorem sound_of_rejected (h : Rejected (queryPredictions (some lab) args)) :
    LimitSound args v := by
  rw [rejected_iff lab hcell, validRequest_false_iff hvalid,
    validLimit_eq_false_iff] at h
  rcases h with hmodel | hrange
  · exact Or.inl hmodel
  · refine Or.inr ?_
    cases hread : asU64 v with
    | none =>
        rw [limitArg_default hlimit hread] at hrange
        exact absurd hrange (by decide)
    | some n =>
        rw [asU64_eq_some_iff] at hread
        subst hread
        rw [limitArg_posInt hlimit] at hrange
        exact ⟨_, rfl, Or.inr hrange⟩

theorem sound_of_limitEnforced (hspelled : ¬ SpelledAsDouble v)
    (h : LimitEnforced lab args v) : LimitSound args v := by
  by_cases hmeant : ∃ k, LimitOf v k
  · obtain ⟨k, hlow, hhigh, n, rfl, hk⟩ := hmeant
    have hlimitOf : LimitOf (Value.number n) k := ⟨hlow, hhigh, n, rfl, hk⟩
    cases n with
    | posInt n =>
        have hkn := limitOf_posInt hlimitOf
        exact Or.inr ⟨_, rfl, Or.inl (by omega)⟩
    | negInt i => exact absurd hlimitOf not_limitOf_negInt
    | float x => exact absurd ⟨x, k, rfl, hlow, hhigh, hk⟩ hspelled
  · exact sound_of_rejected lab hcell hvalid hlimit (h.refused hmeant)

end Calls

/-- With a limit below 100 that is spelled as a double, a table with a hundred
rows shows more than it allows. -/
theorem sound_of_forall_limitEnforced (pg : Postgres F64)
    (hcell : h3CellArg args = some h3Cell)
    (hvalid : validH3Cell h3Cell = true)
    (hlimit : args.get "limit".toList = some v)
    (h : ∀ pool, LimitEnforced ⟨pg, pool⟩ args v) : LimitSound args v := by
  by_cases hspelled : SpelledAsDouble v
  · obtain ⟨x, k, rfl, hlow, hhigh, hk⟩ := hspelled
    by_cases hlarge : 100 ≤ k
    · exact Or.inr ⟨_, rfl, k, hlarge, hhigh, hk⟩
    by_cases hrequest :
        validRequest h3Cell (modelVersionArg args) (limitArg args) = true
    · have hdefault : (limitArg args).toNat = 100 := by
        rw [limitArg_default hlimit rfl]
        rfl
      obtain ⟨ep, mv, hwanted⟩ := exists_wanted .nan h3Cell (epochArg args)
        (modelVersionArg args)
      obtain ⟨records, hreturned, hlength, -⟩ :=
        returned_replicate hcell pg hrequest hwanted 100
      have hbound := (h (.ok (List.replicate 100
        (fullRow .nan h3Cell ep mv)))).bounded k ⟨hlow, hhigh, _, rfl, hk⟩
      rw [hreturned, List.length_map, hlength, hdefault] at hbound
      omega
    · rw [Bool.not_eq_true] at hrequest
      exact sound_of_rejected ⟨pg, .ok []⟩ hcell hvalid hlimit
        ((rejected_iff _ hcell).mpr hrequest)
  · exact sound_of_limitEnforced ⟨pg, .ok []⟩ hcell hvalid hlimit hspelled
      (h (.ok []))

end Limit

/-- **Which limits are enforced.**  On every table those that are sound; and
unless the limit is an integer spelled as a double, on each single table. -/
theorem limitEnforced_iff (pg : Postgres F64) {args v : Value Number}
    {h3Cell : Text} (hcell : h3CellArg args = some h3Cell)
    (hvalid : validH3Cell h3Cell = true)
    (hlimit : args.get "limit".toList = some v) :
    ((∀ pool, LimitEnforced ⟨pg, pool⟩ args v) ↔ LimitSound args v) ∧
    ∀ pool, ¬ SpelledAsDouble v →
      (LimitEnforced ⟨pg, pool⟩ args v ↔ LimitSound args v) := by
  refine ⟨⟨sound_of_forall_limitEnforced pg hcell hvalid hlimit,
    fun h pool => limitEnforced_of_sound _ hcell hvalid hlimit h⟩, ?_⟩
  intro pool hspelled
  exact ⟨sound_of_limitEnforced _ hcell hvalid hlimit hspelled,
    limitEnforced_of_sound _ hcell hvalid hlimit⟩

/-- A cell and one more argument. -/
def cellArgs (k : Text) (v : Value Number) : Value Number :=
  Value.object [("h3_cell".toList, Value.string "881f1d4805fffff".toList), (k, v)]

theorem h3CellArg_cellArgs {k : Text} (hk : k ≠ "h3_cell".toList)
    (v : Value Number) :
    h3CellArg (cellArgs k v) = some "881f1d4805fffff".toList := by
  rw [h3CellArg, cellArgs, Value.get_object]
  show (List.lookup _ [(k, v), _]).bind _ = _
  rw [List.lookup_cons, beq_false_of_ne hk.symm]
  rfl

theorem get_cellArgs (k : Text) (v : Value Number) :
    (cellArgs k v).get k = some v := by
  rw [cellArgs, Value.get_object]
  exact List.lookup_cons_self

theorem get_cellArgs_of_ne {k k' : Text} (hk : k' ≠ k)
    (hcell : k' ≠ "h3_cell".toList) (v : Value Number) :
    (cellArgs k v).get k' = none := by
  rw [cellArgs, Value.get_object]
  show List.lookup k' [(k, v), _] = none
  rw [List.lookup_cons, beq_false_of_ne hk]
  show List.lookup k' [("h3_cell".toList, _)] = none
  rw [List.lookup_cons, beq_false_of_ne hcell]
  rfl

theorem plainCell_valid : validH3Cell "881f1d4805fffff".toList = true := by
  decide

/-- The limit 5 is enforced on a table of eight rows. -/
theorem limitEnforced_iff_five :
    LimitEnforced ⟨plainPostgres F64, .ok (List.replicate 8 (fullRow .nan
      "881f1d4805fffff".toList 800 "sen1floods11".toList))⟩
      (cellArgs "limit".toList (Value.number (.posInt 5)))
      (Value.number (.posInt 5)) := by
  have h := limitEnforced_iff (plainPostgres F64)
    (h3CellArg_cellArgs (by decide) (Value.number (.posInt 5)))
    plainCell_valid (get_cellArgs "limit".toList _)
  exact h.1.mpr (Or.inr ⟨_, rfl, Or.inl (by decide)⟩) _

/-- The limit -5. -/
def minusFive : Value Number := Value.number (.negInt ⟨-5, by decide⟩)

/-- With the limit -5 a table with a row shows it. -/
theorem not_limitEnforced_minusFive :
    ¬ LimitEnforced ⟨plainPostgres F64, .ok [fullRow .nan
      "881f1d4805fffff".toList 800 "sen1floods11".toList]⟩
      (cellArgs "limit".toList minusFive) minusFive := by
  intro h
  have hspelled : ¬ SpelledAsDouble minusFive := by
    rintro ⟨x, k, hv, -⟩
    cases hv
  have hsound := sound_of_limitEnforced _ (h3CellArg_cellArgs (by decide) _)
    plainCell_valid (get_cellArgs _ _) hspelled h
  rcases hsound with ⟨mv, hmv, -⟩ | ⟨n, hn, hread⟩
  · have hnone : modelVersionArg (cellArgs "limit".toList minusFive) = none := by
      rw [modelVersionArg, cellArgs, Value.get_object]
      rfl
    rw [hnone] at hmv
    cases hmv
  · rw [← number_injective hn] at hread
    exact hread

/-! ## Filters -/

/-- Where the argument is given, each record has its value. -/
def FilterKept (lab : Lab) (args : Value Number) (k : Text) : Prop :=
  ∀ v, args.get k = some v → v ≠ Value.null →
    Rejected (queryPredictions (some lab) args) ∨
    ∀ r ∈ returned (queryPredictions (some lab) args), r.get k = some v

structure FiltersKept (lab : Lab) (args : Value Number) : Prop where
  epoch : FilterKept lab args "epoch".toList
  modelVersion : FilterKept lab args "model_version".toList

/-- Where a filter is given, it is of the kind that is read. -/
structure FiltersRead (args : Value Number) : Prop where
  epoch : ∀ v, args.get "epoch".toList = some v → v ≠ Value.null →
    (asI64 v).isSome = true
  modelVersion : ∀ v, args.get "model_version".toList = some v →
    v ≠ Value.null → v.asStr.isSome = true

section Filters

variable {args : Value Number} {h3Cell : Text}

theorem filtersKept_of_read (lab : Lab) (hcell : h3CellArg args = some h3Cell)
    (hrequest : validRequest h3Cell (modelVersionArg args) (limitArg args) =
      true) (h : FiltersRead args) : FiltersKept lab args := by
  obtain ⟨records, hreturned, -, hrows⟩ :=
    exists_rows_of_returned lab hcell hrequest
  refine ⟨fun v hv hnull => Or.inr ?_, fun v hv hnull => Or.inr ?_⟩
  · obtain ⟨ep, hep⟩ := Option.isSome_iff_exists.mp (h.epoch v hv hnull)
    have harg : epochArg args = some ep := by
      rw [epochArg, hv, Option.bind_some, hep]
    rw [hreturned, List.forall_mem_map]
    intro r hr
    obtain ⟨row, hdecode, hwanted⟩ := hrows r hr
    have hcolumn := (columns_of_rowToRecord lab.pg hdecode).1
    have hrow := (wanted_iff.mp hwanted).2.1 ep harg
    rw [hcolumn] at hrow
    rw [get_epoch_recordToValue, Option.some.inj hrow,
      asI64_eq_some_iff.mp hep]
  · obtain ⟨mv, hmv⟩ := Option.isSome_iff_exists.mp (h.modelVersion v hv hnull)
    have harg : modelVersionArg args = some mv := by
      rw [modelVersionArg, hv, Option.bind_some, hmv]
    rw [hreturned, List.forall_mem_map]
    intro r hr
    obtain ⟨row, hdecode, hwanted⟩ := hrows r hr
    have hcolumn := (columns_of_rowToRecord lab.pg hdecode).2
    have hrow := (wanted_iff.mp hwanted).2.2 mv harg
    rw [hcolumn] at hrow
    rw [get_modelVersion_recordToValue, Option.some.inj hrow,
      asStr_eq_some_iff.mp hmv]

/-- With one wanted row in the table a call that is not rejected returns it. -/
theorem exists_returned (pg : Postgres F64)
    (hcell : h3CellArg args = some h3Cell)
    (hrequest : validRequest h3Cell (modelVersionArg args) (limitArg args) =
      true) :
    ∃ (pool : Except Text (List (PredictionRow F64)))
      (r : SignedPredictionRecord F64),
      recordToValue r ∈ returned (queryPredictions (some ⟨pg, pool⟩) args) := by
  obtain ⟨ep, mv, hwanted⟩ :=
    exists_wanted .nan h3Cell (epochArg args) (modelVersionArg args)
  obtain ⟨records, hreturned, hlength, -⟩ :=
    returned_replicate hcell pg hrequest hwanted 1
  have hlimit : 1 ≤ (limitArg args).toNat := by
    rw [validRequest, Bool.and_eq_true] at hrequest
    exact ((validLimit_iff _).mp hrequest.2).1
  obtain ⟨r, hr⟩ := List.exists_mem_of_length_pos
    (show 0 < records.length by omega)
  refine ⟨.ok (List.replicate 1 (fullRow .nan h3Cell ep mv)), r, ?_⟩
  rw [hreturned]
  exact List.mem_map_of_mem hr

/-- A filter that is kept on every table is read. -/
theorem filtersRead_of_kept (pg : Postgres F64)
    (hcell : h3CellArg args = some h3Cell)
    (hrequest : validRequest h3Cell (modelVersionArg args) (limitArg args) =
      true) (h : ∀ pool, FiltersKept ⟨pg, pool⟩ args) : FiltersRead args := by
  obtain ⟨pool, r, hr⟩ := exists_returned pg hcell hrequest
  have haccepted : ¬ Rejected (queryPredictions (some ⟨pg, pool⟩) args) := by
    rw [rejected_iff _ hcell, hrequest]
    exact nofun
  refine ⟨fun v hv hnull => ?_, fun v hv hnull => ?_⟩
  · have hkept := ((h pool).epoch v hv hnull).resolve_left haccepted _ hr
    rw [get_epoch_recordToValue] at hkept
    rw [asI64_eq_some_iff.mpr (Option.some.inj hkept).symm]
    rfl
  · have hkept := ((h pool).modelVersion v hv hnull).resolve_left haccepted _ hr
    rw [get_modelVersion_recordToValue] at hkept
    rw [asStr_eq_some_iff.mpr (Option.some.inj hkept).symm]
    rfl

end Filters

/-- **Which filters are kept.**  On every table those that are read, unless
the call is rejected for its model version or its limit. -/
theorem filtersKept_iff (pg : Postgres F64) {args : Value Number}
    {h3Cell : Text} (hcell : h3CellArg args = some h3Cell) :
    (∀ pool, FiltersKept ⟨pg, pool⟩ args) ↔
      validRequest h3Cell (modelVersionArg args) (limitArg args) = false ∨
      FiltersRead args := by
  by_cases hrequest :
      validRequest h3Cell (modelVersionArg args) (limitArg args) = true
  · rw [or_iff_right (by simp [hrequest])]
    exact ⟨filtersRead_of_kept pg hcell hrequest,
      fun h pool => filtersKept_of_read _ hcell hrequest h⟩
  · rw [Bool.not_eq_true] at hrequest
    refine iff_of_true (fun pool => ?_) (Or.inl hrequest)
    have hrejected := (rejected_iff ⟨pg, pool⟩ hcell).mpr hrequest
    exact ⟨fun _ _ _ => Or.inl hrejected, fun _ _ _ => Or.inl hrejected⟩

/-- An epoch that is an integer is kept on a table with another one. -/
theorem filtersKept_iff_integer :
    FiltersKept ⟨plainPostgres F64, .ok
      [ fullRow .nan "881f1d4805fffff".toList 800 "sen1floods11".toList
      , fullRow .nan "881f1d4805fffff".toList 801 "sen1floods11".toList ]⟩
      (cellArgs "epoch".toList (Value.number (.posInt 800))) := by
  refine (filtersKept_iff (plainPostgres F64) (h3CellArg_cellArgs (by decide)
    _)).mpr (Or.inr ⟨fun v hv _ => ?_, fun v hv _ => ?_⟩) _
  · rw [get_cellArgs] at hv
    cases hv
    rfl
  · rw [get_cellArgs_of_ne (by decide) (by decide)] at hv
    cases hv

/-- The epoch "800". -/
def stringEpochArgs : Value Number :=
  cellArgs "epoch".toList (Value.string "800".toList)

/-- An epoch that is a string is dropped: the record of another epoch is
returned. -/
theorem not_filtersKept_string :
    ¬ FiltersKept ⟨plainPostgres F64, .ok [fullRow .nan
      "881f1d4805fffff".toList 801 "sen1floods11".toList]⟩
      stringEpochArgs := by
  have hcell : h3CellArg stringEpochArgs = some "881f1d4805fffff".toList :=
    h3CellArg_cellArgs (by decide) _
  have hepoch : epochArg stringEpochArgs = none := by
    rw [epochArg, stringEpochArgs, get_cellArgs]
    rfl
  have hmodel : modelVersionArg stringEpochArgs = none := by
    rw [modelVersionArg, stringEpochArgs,
      get_cellArgs_of_ne (by decide) (by decide)]
    rfl
  have hlimit : limitArg stringEpochArgs = 100 := by
    rw [limitArg, stringEpochArgs, get_cellArgs_of_ne (by decide) (by decide)]
    rfl
  have hrequest : validRequest "881f1d4805fffff".toList
      (modelVersionArg stringEpochArgs) (limitArg stringEpochArgs) = true := by
    rw [hmodel, hlimit]
    decide
  have hwanted : wanted "881f1d4805fffff".toList (epochArg stringEpochArgs)
      (modelVersionArg stringEpochArgs) (fullRow F64.nan
        "881f1d4805fffff".toList 801 "sen1floods11".toList) = true := by
    rw [hepoch, hmodel]
    decide
  intro h
  obtain ⟨records, hreturned, hlength, hall⟩ :=
    returned_replicate hcell (plainPostgres F64) hrequest hwanted 1
  rw [hlimit] at hlength
  obtain ⟨r, hr⟩ := List.exists_mem_of_length_pos
    (show 0 < records.length by rw [hlength]; decide)
  rcases h.epoch _ (get_cellArgs _ _) nofun with hrejected | hkept
  · rw [rejected_iff _ hcell, hrequest] at hrejected
    cases hrejected
  · have hmem : recordToValue r ∈ returned (queryPredictions
        (some ⟨plainPostgres F64, .ok (List.replicate 1 (fullRow F64.nan
          "881f1d4805fffff".toList 801 "sen1floods11".toList))⟩)
        stringEpochArgs) := by
      rw [hreturned]
      exact List.mem_map_of_mem hr
    have hepochs := hkept _ hmem
    rw [get_epoch_recordToValue] at hepochs
    cases hepochs

end RenderEngine.Ports.QueryArguments
