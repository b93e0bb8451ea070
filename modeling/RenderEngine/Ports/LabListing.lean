import RenderEngine.Ports.LabClient

/-!
# Listing the cells of a model (`lab-client/src/postgres.rs`, `types.rs`)

`list_cells_for_model` reads two columns in the order of the cells and turns
each row into a pair; the cell is kept as fifteen bytes.  Frontends draw the
pairs and fetch the records of a pair when it is asked for.

## Main results

* `fromStr_asStr`, `asStr_fromStr`: the fifteen bytes are the cell's text.
* `listCellsForModel_spec`: a listing fails at the first row without a cell;
  else each of its pairs can be fetched, and a record that can be fetched is
  listed or comes after a full listing.
-/

namespace RenderEngine.Ports.LabListing

open RenderEngine.Ports.CoreTypes
open RenderEngine.Ports.RustStd
open RenderEngine.Ports.LabClient
open RenderEngine.Verified.BoundSelect
open RenderEngine.Verified.Fallible

/-! ## Cells as bytes -/

/-- `H3CellHex`: fifteen bytes, each an ASCII hex digit. -/
structure H3CellHex where
  bytes : List UInt8
  length_eq : bytes.length = 15
  hex : ∀ b ∈ bytes, isAsciiHexdigit (Char.ofUInt8 b) = true

/-- `as_str`. -/
def H3CellHex.asStr (c : H3CellHex) : Text := c.bytes.map Char.ofUInt8

theorem val_le_of_hexdigit {c : Char} (h : isAsciiHexdigit c = true) :
    c.val.toNat ≤ 102 := by
  simp only [isAsciiHexdigit, Bool.or_eq_true, decide_eq_true_eq,
    Char.le_def, UInt32.le_iff_toNat_le] at h
  have h9 : '9'.val.toNat = 57 := rfl
  have hf : 'f'.val.toNat = 102 := rfl
  have hF : 'F'.val.toNat = 70 := rfl
  omega

/-- A digit survives the byte it is kept in. -/
theorem ofUInt8_toUInt8 {c : Char} (h : isAsciiHexdigit c = true) :
    Char.ofUInt8 c.toUInt8 = c := by
  have hle := val_le_of_hexdigit h
  have hval : c.toUInt8.toUInt32 = c.val := by
    rw [← UInt32.toNat_inj, UInt8.toNat_toUInt32, ← Char.toUInt8_val,
      UInt32.toNat_toUInt8]
    exact Nat.mod_eq_of_lt (by omega)
  exact Char.ext hval

theorem utf8Size_of_hexdigit {c : Char} (h : isAsciiHexdigit c = true) :
    c.utf8Size = 1 := by
  have hle := val_le_of_hexdigit h
  exact Char.utf8Size_eq_one_iff.mpr
    (UInt32.le_iff_toNat_le.mpr (Nat.le_trans hle (by decide)))

/-- Hex digits are a byte each. -/
theorem byteLength_of_hex {s : Text}
    (h : ∀ c ∈ s, isAsciiHexdigit c = true) : byteLength s = s.length := by
  have hmap : s.map Char.utf8Size = s.map fun _ => 1 :=
    List.map_congr_left fun c hc => utf8Size_of_hexdigit (h c hc)
  rw [byteLength, hmap, List.map_const', List.sum_replicate]
  simp

theorem validH3Cell_iff (s : Text) :
    validH3Cell s = true ↔
      s.length = 15 ∧ ∀ c ∈ s, isAsciiHexdigit c = true := by
  rw [validH3Cell, Bool.and_eq_true, beq_iff_eq, List.all_eq_true]
  constructor
  · rintro ⟨hlength, hhex⟩
    exact ⟨(byteLength_of_hex hhex).symm.trans hlength, hhex⟩
  · rintro ⟨hlength, hhex⟩
    exact ⟨(byteLength_of_hex hhex).trans hlength, hhex⟩

theorem length_toBytes {s : Text} (h : validH3Cell s = true) :
    (s.map Char.toUInt8).length = 15 := by
  rw [List.length_map]
  exact ((validH3Cell_iff s).mp h).1

theorem hex_toBytes {s : Text} (h : validH3Cell s = true) :
    ∀ b ∈ s.map Char.toUInt8, isAsciiHexdigit (Char.ofUInt8 b) = true := by
  intro b hb
  obtain ⟨c, hc, rfl⟩ := List.mem_map.mp hb
  have hhex := ((validH3Cell_iff s).mp h).2 c hc
  rw [ofUInt8_toUInt8 hhex]
  exact hhex

/-- `from_str`. -/
def H3CellHex.fromStr (s : Text) : Option H3CellHex :=
  if h : validH3Cell s = true then
    some ⟨s.map Char.toUInt8, length_toBytes h, hex_toBytes h⟩
  else none

/-- **A cell is read as the text it was made of.** -/
theorem asStr_fromStr {s : Text} {c : H3CellHex}
    (h : H3CellHex.fromStr s = some c) :
    c.asStr = s ∧ validH3Cell s = true := by
  unfold H3CellHex.fromStr at h
  split at h
  next hvalid =>
    have hhex := ((validH3Cell_iff s).mp hvalid).2
    cases h
    refine ⟨?_, hvalid⟩
    have hmap : s.map (Char.ofUInt8 ∘ Char.toUInt8) = s.map id :=
      List.map_congr_left fun c hc => ofUInt8_toUInt8 (hhex c hc)
    show (s.map Char.toUInt8).map Char.ofUInt8 = s
    rw [List.map_map, hmap, List.map_id]
  next => cases h

/-- Every cell is the reading of its text. -/
theorem fromStr_asStr (c : H3CellHex) : H3CellHex.fromStr c.asStr = some c := by
  have hvalid : validH3Cell c.asStr = true := by
    refine (validH3Cell_iff _).mpr ⟨?_, ?_⟩
    · rw [H3CellHex.asStr, List.length_map]
      exact c.length_eq
    · intro d hd
      obtain ⟨b, hb, rfl⟩ := List.mem_map.mp hd
      exact c.hex b hb
  have hbytes : c.asStr.map Char.toUInt8 = c.bytes := by
    have hid : Char.toUInt8 ∘ Char.ofUInt8 = id := by
      funext b
      show b.toUInt32.toUInt8 = b
      exact UInt8.toUInt8_toUInt32 b
    rw [H3CellHex.asStr, List.map_map, hid, List.map_id]
  obtain ⟨bytes, hlength, hhex⟩ := c
  rw [H3CellHex.fromStr, dif_pos hvalid]
  simp only [Option.some.injEq, H3CellHex.mk.injEq]
  exact hbytes

theorem fromStr_eq_none {s : Text} :
    H3CellHex.fromStr s = none ↔ validH3Cell s = false := by
  unfold H3CellHex.fromStr
  split
  next h => simp [h]
  next h => simpa using h

/-! ## The listing -/

structure CellEpochPair where
  h3Cell : H3CellHex
  epoch : Int64

/-- `SELECT h3_cell, epoch FROM predictions WHERE model_version = $1 ORDER BY
h3_cell ASC, epoch ASC LIMIT $2` -/
def selectPairs : Statement Column where
  conditions := [(.modelVersion, 1)]
  orderBy := [(.h3Cell, .asc), (.epoch, .asc)]
  limit := 2

section Listing

variable {F : Type} (pg : Postgres F)

/-- One turn of the loop over the rows. -/
def rowToPair (row : PredictionRow F) :
    Except LabClientError CellEpochPair := do
  let h3Str ← tryGet pg "h3_cell" row.h3Cell
  let h3 ← okOr (.decoding ("invalid h3_cell from DB: ".toList ++ h3Str))
    (H3CellHex.fromStr h3Str)
  let epoch ← tryGet pg "epoch" row.epoch
  return { h3Cell := h3, epoch := epoch }

/-- `list_cells_for_model`. -/
def listCellsForModel (pool : Except Text (List (PredictionRow F)))
    (modelVersion : Text) (limit : UInt32) :
    Except LabClientError (List CellEpochPair) := do
  validateModelVersion modelVersion
  validateLimit limit
  let rows ← (fetchAll pg pool selectPairs
    [.text modelVersion, .int8 (Int64.ofNat limit.toNat)]).mapError .database
  rows.mapM (rowToPair pg)

/-! ### Rows and pairs -/

/-- The row is of the model. -/
def ofModel (modelVersion : Text) (row : PredictionRow F) : Bool :=
  decide (row.modelVersion = some modelVersion)

/-- `ORDER BY h3_cell ASC, epoch ASC` -/
def CellLe (c : Text) (ep : Int64) (c' : Text) (ep' : Int64) : Prop :=
  pg.collate c c' = true ∧
    (pg.collate c' c = true → ep.toInt ≤ ep'.toInt)

/-- The order of the rows that have both columns. -/
def CellsFirst (a b : PredictionRow F) : Prop :=
  ∀ c ep c' ep', a.h3Cell = some c → a.epoch = some ep →
    b.h3Cell = some c' → b.epoch = some ep' → CellLe pg c ep c' ep'

theorem cellsFirst_of_orderLe {a b : PredictionRow F}
    (h : orderLe pg.columns selectPairs.orderBy a b = true) :
    CellsFirst pg a b := by
  intro c ep c' ep' hc hep hc' hep'
  rw [← value_h3Cell pg] at hc hc'
  rw [← value_epoch pg] at hep hep'
  simp only [selectPairs, orderLe, keyLe, hc, hc', hep, hep', nullLe,
    Bool.and_eq_true, Bool.or_eq_true, Bool.not_eq_true'] at h
  simp only [Postgres.columns, Postgres.le, decide_eq_true_eq] at h
  refine ⟨h.1, fun hback => ?_⟩
  rcases h.2 with hfalse | ⟨hle, -⟩
  · rw [hback] at hfalse
    cases hfalse
  · exact hle

/-- The statement returns the first rows of the model. -/
theorem fetchAll_pairs (modelVersion : Text) (limit : UInt32)
    (table : List (PredictionRow F)) :
    ∃ rows,
      fetchAll pg (.ok table) selectPairs
        [.text modelVersion, .int8 (Int64.ofNat limit.toNat)] = .ok rows ∧
      IsTop (ofModel modelVersion) (CellsFirst pg) limit.toNat table rows := by
  let binds : List PgValue :=
    [.text modelVersion, .int8 (Int64.ofNat limit.toNat)]
  have hbound : ∀ c ∈ selectPairs.conditions,
      (param binds c.2).isSome = true := by
    intro c hc
    rw [List.mem_singleton.mp hc]
    rfl
  have hlimit : (param binds selectPairs.limit).bind pg.columns.asLimit =
      some limit.toNat := by
    rw [← asLimit_ofNat limit]
    rfl
  obtain ⟨rows, hrows, htop⟩ :=
    run_isTop pg.columns pg.arrangement hbound hlimit table
  have hselects : selects pg.columns selectPairs binds =
      ofModel modelVersion := by
    funext row
    simp [selects, selectPairs, binds, holds_eq, param, ofModel]
  rw [hselects] at htop
  refine ⟨rows, ?_, htop.mono fun a _ b _ => cellsFirst_of_orderLe pg⟩
  show okOr pg.bindError (run pg.columns pg.arrangement selectPairs binds table)
    = .ok rows
  rw [hrows]
  rfl

/-- A row gives a pair exactly if it has both columns and a valid cell. -/
theorem rowToPair_eq_ok {row : PredictionRow F} {p : CellEpochPair} :
    rowToPair pg row = .ok p ↔
      row.h3Cell = some p.h3Cell.asStr ∧ row.epoch = some p.epoch := by
  simp only [rowToPair, tryGet, bind_eq_ok, okOr_eq_ok]
  constructor
  · rintro ⟨s, hs, c, hc, ep, hep, hp⟩
    cases hp
    rw [(asStr_fromStr hc).1]
    exact ⟨hs, hep⟩
  · rintro ⟨hs, hep⟩
    exact ⟨_, hs, _, fromStr_asStr p.h3Cell, _, hep, rfl⟩

/-! ### Pairs and records -/

/-- Where a record stands in the table. -/
theorem place_of_rowToRecord {includeChain : Bool} {row : PredictionRow F}
    {r : SignedPredictionRecord F}
    (h : rowToRecord pg includeChain row = .ok r) :
    row.h3Cell = some r.h3Cell ∧ row.epoch = some r.epoch ∧
      row.modelVersion = some r.modelVersion := by
  refine ⟨?_, columns_of_rowToRecord pg h⟩
  simp only [rowToRecord, tryGet, bind_eq_ok, okOr_eq_ok] at h
  obtain ⟨_, -, _, -, _, -, _, -, cell, hcell, _, -, _, -, h⟩ := h
  obtain ⟨_, -, _, -, _, -, _, -, _, -, _, -, _, -, _, -, _, -, h⟩ := h
  obtain ⟨_, -, _, -, _, -, _, -, _, -, _, -, _, -, _, -, h⟩ := h
  cases h
  exact hcell

/-- The certificates decide on no error. -/
theorem rowToRecord_returns {row : PredictionRow F}
    (h : ∃ r, rowToRecord pg true row = .ok r) (includeChain : Bool) :
    ∃ r, rowToRecord pg includeChain row = .ok r := by
  obtain ⟨r, hr⟩ := h
  cases includeChain with
  | true => exact ⟨r, hr⟩
  | false =>
      rw [rowToRecord_false, hr]
      exact ⟨r.withoutChain, rfl⟩

/-- The pair of the record. -/
def CellEpochPair.Describes (p : CellEpochPair)
    (r : SignedPredictionRecord F) : Prop :=
  p.h3Cell.asStr = r.h3Cell ∧ p.epoch = r.epoch

/-- The pair is the cell and the epoch of the row. -/
def CellEpochPair.OfRow (row : PredictionRow F) (p : CellEpochPair) : Prop :=
  row.h3Cell = some p.h3Cell.asStr ∧ row.epoch = some p.epoch

/-- What a frontend may rely on that was given the pairs of these rows of a
model. -/
structure Listed (table rows : List (PredictionRow F)) (modelVersion : Text)
    (limit : UInt32) (pairs : List CellEpochPair) : Prop where
  /-- The pairs are those of the rows, one each and in their order. -/
  ofRows : List.Forall₂ CellEpochPair.OfRow rows pairs
  length : pairs.length =
    min limit.toNat (table.filter (ofModel modelVersion)).length
  ordered : pairs.Pairwise fun p q =>
    CellLe pg p.h3Cell.asStr p.epoch q.h3Cell.asStr q.epoch
  /-- A pair can be fetched. -/
  fetched : ∀ p ∈ pairs, ∀ n includeChain, validLimit n = true →
    ∃ records, fetchSignedPredictions pg (.ok table) p.h3Cell.asStr
        (some p.epoch) (some modelVersion) n includeChain = .ok records ∧
      records ≠ [] ∧
      ∀ r ∈ records, p.Describes r ∧ r.modelVersion = modelVersion
  /-- A record that can be fetched, by whatever filters, is listed. -/
  complete : ∀ h3Cell epoch mv n includeChain records,
    fetchSignedPredictions pg (.ok table) h3Cell epoch mv n includeChain =
      .ok records →
    ∀ r ∈ records, r.modelVersion = modelVersion →
      (∃ p ∈ pairs, p.Describes r) ∨
      pairs.length = limit.toNat ∧
        ∀ p ∈ pairs, CellLe pg p.h3Cell.asStr p.epoch r.h3Cell r.epoch

section Pairs

variable {table rows : List (PredictionRow F)} {modelVersion : Text}
  {limit : UInt32} {pairs : List CellEpochPair}

/-- A pair of a row is fetched with the row's record. -/
theorem fetched_of_row
    (hmodel : validModelVersion modelVersion = true)
    (hdecode : ∀ row ∈ table, row.modelVersion = some modelVersion →
      ∃ r, rowToRecord pg true row = .ok r)
    {row : PredictionRow F} (hrow : row ∈ table)
    (hof : row.modelVersion = some modelVersion) {p : CellEpochPair}
    (hp : rowToPair pg row = .ok p) {n : UInt32} (includeChain : Bool)
    (hn : validLimit n = true) :
    ∃ records, fetchSignedPredictions pg (.ok table) p.h3Cell.asStr
        (some p.epoch) (some modelVersion) n includeChain = .ok records ∧
      records ≠ [] ∧
      ∀ r ∈ records, p.Describes r ∧ r.modelVersion = modelVersion := by
  obtain ⟨hcell, hepoch⟩ := (rowToPair_eq_ok pg).mp hp
  have hvalid : validRequest p.h3Cell.asStr (some modelVersion) n = true := by
    rw [validRequest, (asStr_fromStr (fromStr_asStr p.h3Cell)).2, hn]
    simp [hmodel]
  have hwanted : wanted p.h3Cell.asStr (some p.epoch) (some modelVersion) row
      = true := by
    rw [wanted_iff]
    exact ⟨hcell, fun ep h => by rw [← Option.some.inj h, hepoch],
      fun mv h => by rw [← Option.some.inj h, hof]⟩
  obtain ⟨records, hrecords⟩ := fetchSignedPredictions_returns pg
    (some p.epoch) includeChain hvalid fun row' hrow' hw =>
      rowToRecord_returns pg
        (hdecode row' hrow' ((wanted_iff.mp hw).2.2 _ rfl)) includeChain
  obtain ⟨table', found, htable, htop, hfound⟩ :=
    rows_of_fetchSignedPredictions pg (.ok table) _ includeChain hvalid hrecords
  cases htable
  refine ⟨records, hrecords, ?_, fun r hr => ?_⟩
  · -- the row itself is among the candidates, and at least one is returned
    have hpos : 1 ≤ n.toNat := ((validLimit_iff n).mp hn).1
    have hcandidate := List.length_pos_of_mem
      (List.mem_filter.mpr ⟨hrow, hwanted⟩)
    have hlength := htop.length
    rw [hfound.length_eq] at hlength
    intro hnil
    rw [hnil, List.length_nil] at hlength
    omega
  · obtain ⟨row', hrow', hdecoded⟩ := exists_of_mem_right hfound hr
    obtain ⟨hc, he, hm⟩ := wanted_iff.mp (htop.mem hrow').2
    obtain ⟨hcell', hepoch', hmodel'⟩ := place_of_rowToRecord pg hdecoded
    refine ⟨⟨?_, ?_⟩, ?_⟩
    · exact Option.some.inj (hc.symm.trans hcell')
    · exact Option.some.inj ((he _ rfl).symm.trans hepoch')
    · exact Option.some.inj (hmodel'.symm.trans (hm _ rfl))

/-- A record that was fetched has a row of its model. -/
theorem row_of_fetched {h3Cell : Text} {epoch : Option Int64}
    {mv : Option Text} {n : UInt32} {includeChain : Bool}
    {records : List (SignedPredictionRecord F)}
    (hok : fetchSignedPredictions pg (.ok table) h3Cell epoch mv n
      includeChain = .ok records)
    {r : SignedPredictionRecord F} (hr : r ∈ records) :
    ∃ row ∈ table, rowToRecord pg includeChain row = .ok r := by
  cases hvalid : validRequest h3Cell mv n with
  | false =>
      obtain ⟨e, he, -⟩ := fetchSignedPredictions_of_invalid pg (.ok table)
        epoch includeChain hvalid
      rw [hok] at he
      cases he
  | true =>
      obtain ⟨table', found, htable, htop, hfound⟩ :=
        rows_of_fetchSignedPredictions pg (.ok table) epoch includeChain hvalid
          hok
      cases htable
      obtain ⟨row, hrow, hdecoded⟩ := exists_of_mem_right hfound hr
      exact ⟨row, (htop.mem hrow).1, hdecoded⟩

/-- **The pairs of the first rows are a listing.** -/
theorem listed_of_rows
    (hmodel : validModelVersion modelVersion = true)
    (hdecode : ∀ row ∈ table, row.modelVersion = some modelVersion →
      ∃ r, rowToRecord pg true row = .ok r)
    (htop : IsTop (ofModel modelVersion) (CellsFirst pg) limit.toNat table
      rows)
    (hpairs : List.Forall₂ (fun row p => rowToPair pg row = .ok p) rows
      pairs) :
    Listed pg table rows modelVersion limit pairs where
  ofRows := hpairs.imp fun _ _ hp => (rowToPair_eq_ok pg).mp hp
  length := by
    rw [← hpairs.length_eq]
    exact htop.length
  ordered := by
    have hsorted : rows.Pairwise (CellsFirst pg) := by
      obtain ⟨sorted, -, hsorted, rfl⟩ := htop
      exact hsorted.sublist (List.take_sublist _ _)
    clear htop
    induction hpairs with
    | nil => exact .nil
    | cons hp hrest ih =>
        rw [List.pairwise_cons] at hsorted ⊢
        refine ⟨fun q hq => ?_, ih hsorted.2⟩
        obtain ⟨row', hrow', hq'⟩ := exists_of_mem_right hrest hq
        obtain ⟨hcell, hepoch⟩ := (rowToPair_eq_ok pg).mp hp
        obtain ⟨hcell', hepoch'⟩ := (rowToPair_eq_ok pg).mp hq'
        exact hsorted.1 row' hrow' _ _ _ _ hcell hepoch hcell' hepoch'
  fetched := by
    intro p hp n includeChain hn
    obtain ⟨row, hrow, hpair⟩ := exists_of_mem_right hpairs hp
    obtain ⟨hmem, hof⟩ := htop.mem hrow
    exact fetched_of_row pg hmodel hdecode hmem (of_decide_eq_true hof) hpair
      includeChain hn
  complete := by
    intro h3Cell epoch mv n includeChain records hok r hr hrm
    obtain ⟨row, hrow, hdecoded⟩ := row_of_fetched pg hok hr
    obtain ⟨hcell, hepoch, hrowModel⟩ := place_of_rowToRecord pg hdecoded
    have hof : ofModel modelVersion row = true := by
      rw [ofModel, decide_eq_true_eq, hrowModel, hrm]
    rcases htop.mem_or_full hrow hof with hmem | ⟨hfull, hafter⟩
    · obtain ⟨p, hp, hpair⟩ := exists_of_mem_left hpairs hmem
      obtain ⟨hpc, hpe⟩ := (rowToPair_eq_ok pg).mp hpair
      exact Or.inl ⟨p, hp, Option.some.inj (hpc.symm.trans hcell),
        Option.some.inj (hpe.symm.trans hepoch)⟩
    · refine Or.inr ⟨hpairs.length_eq.symm.trans hfull, fun p hp => ?_⟩
      obtain ⟨row', hrow', hpair⟩ := exists_of_mem_right hpairs hp
      obtain ⟨hpc, hpe⟩ := (rowToPair_eq_ok pg).mp hpair
      exact hafter row' hrow' _ _ _ _ hpc hpe hcell hepoch

end Pairs

/-- The cell of the row, if it has one, is fifteen hex digits. -/
def ValidCell (row : PredictionRow F) : Prop :=
  ∀ s, row.h3Cell = some s → validH3Cell s = true

/-- The error of a row whose record can be read names its cell. -/
theorem rowToPair_error {row : PredictionRow F} {e : LabClientError}
    (hdecode : ∃ r, rowToRecord pg true row = .ok r)
    (h : rowToPair pg row = .error e) :
    ∃ s, row.h3Cell = some s ∧ validH3Cell s = false ∧
      e = .decoding ("invalid h3_cell from DB: ".toList ++ s) := by
  obtain ⟨r, hr⟩ := hdecode
  obtain ⟨hcell, hepoch, -⟩ := place_of_rowToRecord pg hr
  have hrow : rowToPair pg row =
      (okOr (.decoding ("invalid h3_cell from DB: ".toList ++ r.h3Cell))
        (H3CellHex.fromStr r.h3Cell) >>= fun h3 =>
          .ok { h3Cell := h3, epoch := r.epoch }) := by
    rw [rowToPair, hcell, hepoch]
    rfl
  rw [hrow] at h
  refine ⟨r.h3Cell, hcell, ?_⟩
  cases hread : H3CellHex.fromStr r.h3Cell with
  | none =>
      rw [hread] at h
      cases h
      exact ⟨fromStr_eq_none.mp hread, rfl⟩
  | some c =>
      rw [hread] at h
      cases h

theorem validCell_of_rowToPair {row : PredictionRow F} {p : CellEpochPair}
    (h : rowToPair pg row = .ok p) : ValidCell row := by
  intro s hs
  rw [((rowToPair_eq_ok pg).mp h).1] at hs
  cases hs
  exact (asStr_fromStr (fromStr_asStr p.h3Cell)).2

end Listing

/-- **Listed and fetched.**  A listing takes the first `limit` rows of the
model, cells ascending and epochs after them.  It ends at the first of them
whose cell is not fifteen hex digits, with an error that names the cell, and
lists nothing.  Else it lists the pair of each of these rows in order; each can
be fetched, and gives at least one record of that cell, epoch and model; and a
record of the model that any request fetches is listed, unless the listing is
full and ends before it. -/
theorem listCellsForModel_spec {F : Type} (pg : Postgres F)
    (table : List (PredictionRow F)) (modelVersion : Text) (limit : UInt32)
    (hmodel : validModelVersion modelVersion = true)
    (hlimit : 1 ≤ limit.toNat ∧ limit.toNat ≤ 1000)
    (hdecode : ∀ row ∈ table, row.modelVersion = some modelVersion →
      ∃ r, rowToRecord pg true row = .ok r) :
    ∃ rows,
      IsTop (ofModel modelVersion) (CellsFirst pg) limit.toNat table rows ∧
      ((∀ row ∈ rows, ValidCell row) ∧
        (∃ pairs,
          listCellsForModel pg (.ok table) modelVersion limit = .ok pairs ∧
          Listed pg table rows modelVersion limit pairs) ∨
      ∃ before row after s, rows = before ++ row :: after ∧
        (∀ b ∈ before, ValidCell b) ∧
        row.h3Cell = some s ∧ validH3Cell s = false ∧
        listCellsForModel pg (.ok table) modelVersion limit =
          .error (.decoding ("invalid h3_cell from DB: ".toList ++ s))) := by
  obtain ⟨rows, hrows, htop⟩ := fetchAll_pairs pg modelVersion limit table
  have hlist : listCellsForModel pg (.ok table) modelVersion limit =
      rows.mapM (rowToPair pg) := by
    have hrange : validLimit limit = true := (validLimit_iff limit).mpr hlimit
    unfold listCellsForModel validateModelVersion validateLimit
    rw [if_pos hmodel, if_pos hrange, hrows]
    rfl
  refine ⟨rows, htop, ?_⟩
  rw [hlist]
  cases hread : rows.mapM (rowToPair pg) with
  | ok pairs =>
      have hpairs := mapM_eq_ok_iff.mp hread
      refine Or.inl ⟨fun row hrow => ?_, pairs, rfl,
        listed_of_rows pg hmodel hdecode htop hpairs⟩
      obtain ⟨p, -, hp⟩ := exists_of_mem_left hpairs hrow
      exact validCell_of_rowToPair pg hp
  | error e =>
      obtain ⟨before, row, after, ps, hsplit, hbefore, herror⟩ :=
        mapM_eq_error_iff.mp hread
      have hrow : row ∈ rows := by
        rw [hsplit]
        exact List.mem_append_right before List.mem_cons_self
      obtain ⟨hmem, hof⟩ := htop.mem hrow
      obtain ⟨s, hs, hinvalid, he⟩ := rowToPair_error pg
        (hdecode row hmem (of_decide_eq_true hof)) herror
      refine Or.inr ⟨before, row, after, s, hsplit, fun b hb => ?_, hs,
        hinvalid, by rw [he]⟩
      obtain ⟨p, -, hp⟩ := exists_of_mem_left hbefore hb
      exact validCell_of_rowToPair pg hp

/-- Rows of two models, one of them in a cell that is none. -/
def modelRows : List (PredictionRow Unit) :=
  [ fullRow () "881f1d4805fffff".toList 2 "a".toList
  , fullRow () "881e80590dfffff".toList 1 "a".toList
  , fullRow () "lazio".toList 1 "b".toList ]

theorem listCellsForModel_spec_modelRows :
    ∃ rows,
      IsTop (ofModel "a".toList) (CellsFirst (plainPostgres Unit)) 2 modelRows
        rows ∧
      ((∀ row ∈ rows, ValidCell row) ∧
        (∃ pairs,
          listCellsForModel (plainPostgres Unit) (.ok modelRows) "a".toList 2 =
            .ok pairs ∧
          Listed (plainPostgres Unit) modelRows rows "a".toList 2 pairs) ∨
      ∃ before row after s, rows = before ++ row :: after ∧
        (∀ b ∈ before, ValidCell b) ∧
        row.h3Cell = some s ∧ validH3Cell s = false ∧
        listCellsForModel (plainPostgres Unit) (.ok modelRows) "a".toList 2 =
          .error (.decoding ("invalid h3_cell from DB: ".toList ++ s))) := by
  refine listCellsForModel_spec (plainPostgres Unit) modelRows _ 2
    (by decide) (by decide) ?_
  intro row hrow _
  simp only [modelRows, List.mem_cons, List.not_mem_nil, or_false] at hrow
  rcases hrow with rfl | rfl | rfl
  all_goals exact fullRow_decodes _ true _ _ _ _

end RenderEngine.Ports.LabListing
