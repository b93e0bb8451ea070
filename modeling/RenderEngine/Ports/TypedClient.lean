import RenderEngine.Ports.AuditPipeline

/-!
# The methods of the TypeScript client (`scripts/clients/typescript/client.ts`)

Each method sends its arguments under the name of one tool and returns what
the tool wrote, under a type that the client declares for it.  The tools read
the arguments with the decoders of `render-core`, where a cell is a string of
hex digits and a count is not negative.

## Main results

* `call_served`: every call is the tool's run on what its arguments mean, or
  it is turned away with -32602.
* `promised_undefined_iff`: which members of the declared types never arrive.
-/

namespace RenderEngine.Ports.TypedClient

open RenderEngine.Ports.CoreTypes
open RenderEngine.Ports.Serde
open RenderEngine.Ports.JavaScript
open RenderEngine.Ports.Mcp
open RenderEngine.Ports.PostgresClient
open RenderEngine.Ports.ProofVerifiers (hashPair)
open RenderEngine.Ports.ViewportCells (LatLng)
open RenderEngine.Ports.RenderTools (RenderViewportInput GetCellStateInput
  QueryCellsInRegionInput GetProvenanceInput)
open RenderEngine.Ports.RegistryBuild
open RenderEngine.Ports.RequestText
open RenderEngine.Ports.RpcClient
open RenderEngine.Ports.SealedEpochs (commit threeCellsCall)
open RenderEngine.Ports.SeedWriter (checksum ciTenant)
open RenderEngine.Ports.ToolInputs
open RenderEngine.Ports.WireText
open RenderEngine.Ports.WireTypes
open RenderEngine.Verified.Fallible
open RenderEngine.Verified.JsonGrammar
open RenderEngine.Verified.KeyedRows (findKey_eq_some_iff)
open RenderEngine.Verified.StepRun (run)

/-! ## Calls -/

/-- `Viewport` of the client: its cell is a string. -/
inductive ViewportArg (F : Type) where
  | parentCell (parent : Text) (targetResolution : FiniteNumber F)
  | boundingBox (southWest northEast : LatLng (FiniteNumber F))
      (resolution : FiniteNumber F)

/-- A call of one of the methods.  An attestation is any value. -/
inductive Call (F : Type) where
  | renderViewport (viewport : ViewportArg F)
      (epochId maxCells : Option (FiniteNumber F))
  | getCellState (h3Cell : Text) (epochId : Option (FiniteNumber F))
  | queryCellsInRegion (viewport : ViewportArg F)
      (epochId limit : Option (FiniteNumber F))
  | getProvenance (h3Cell : Text) (epochId : FiniteNumber F)
  | verifyAttestation (attestation : Json (FiniteNumber F) Text)

section Requests

variable {F : Type}

def latLngTree (p : LatLng (FiniteNumber F)) : Json (FiniteNumber F) Text :=
  .obj [("lat".toList, .num p.lat), ("lng".toList, .num p.lng)]

def ViewportArg.tree : ViewportArg F → Json (FiniteNumber F) Text
  | .parentCell parent targetResolution => .obj
      [ ("mode".toList, .str "parent_cell".toList)
      , ("parent".toList, .str parent)
      , ("target_resolution".toList, .num targetResolution) ]
  | .boundingBox southWest northEast resolution => .obj
      [ ("mode".toList, .str "bounding_box".toList)
      , ("south_west".toList, latLngTree southWest)
      , ("north_east".toList, latLngTree northEast)
      , ("resolution".toList, .num resolution) ]

/-- A member that `JSON.stringify` leaves out where it is undefined. -/
def optionalNumber (name : String) (x : Option (FiniteNumber F)) :
    List (Text × Json (FiniteNumber F) Text) :=
  (x.map fun x => (name.toList, .num x)).toList

/-- The tool that a method calls. -/
def Call.tool : Call F → Text
  | .renderViewport _ _ _ => "render_viewport".toList
  | .getCellState _ _ => "get_cell_state".toList
  | .queryCellsInRegion _ _ _ => "query_cells_in_region".toList
  | .getProvenance _ _ => "get_provenance".toList
  | .verifyAttestation _ => "verify_attestation".toList

def Call.args : Call F → Json (FiniteNumber F) Text
  | .renderViewport viewport epochId maxCells => .obj
      ([("viewport".toList, viewport.tree)]
        ++ optionalNumber "epoch_id" epochId
        ++ optionalNumber "max_cells" maxCells)
  | .getCellState h3Cell epochId => .obj
      ([("h3_cell".toList, .str h3Cell)] ++ optionalNumber "epoch_id" epochId)
  | .queryCellsInRegion viewport epochId limit => .obj
      ([("viewport".toList, viewport.tree)]
        ++ optionalNumber "epoch_id" epochId
        ++ optionalNumber "limit" limit)
  | .getProvenance h3Cell epochId => .obj
      [ ("h3_cell".toList, .str h3Cell)
      , ("epoch_id".toList, .num epochId) ]
  | .verifyAttestation attestation =>
      .obj [("attestation".toList, attestation)]

end Requests

/-! ## What the arguments mean -/

/-- The inputs of the tools. -/
inductive ToolInput (G N : Type) where
  | renderViewport (input : RenderViewportInput G)
  | getCellState (input : GetCellStateInput)
  | queryCellsInRegion (input : QueryCellsInRegionInput G)
  | getProvenance (input : GetProvenanceInput)
  | verifyAttestation (attestation : Attestation N)

def cellOf (s : Text) : Option H3Cell := (H3Text.fromHex s).toOption

section Meaning

variable {F G N : Type} (codecs : Codecs G N) (value : FiniteNumber F → N)

/-- An `i64`. -/
def epochOf (x : FiniteNumber F) : Option EpochId :=
  (codecs.asI64 (value x)).map EpochId.mk

/-- An epoch, if there is one. -/
def optionalEpochOf : Option (FiniteNumber F) → Option (Option EpochId)
  | some x => (epochOf codecs value x).map some
  | none => some none

/-- A `u8`. -/
def byteOf (x : FiniteNumber F) : Option UInt8 :=
  ((codecs.asU64 (value x)).filter (· < 2 ^ 8)).map UInt8.ofNat

/-- A `usize`. -/
def countOf (x : FiniteNumber F) : Option Nat :=
  (codecs.asU64 (value x)).filter (· < 2 ^ 64)

/-- A limit, or its default. -/
def limitOf : Option (FiniteNumber F) → Option Nat
  | some x => countOf codecs value x
  | none => some defaultMaxCells

/-- A coordinate is the double that `serde_json` reads. -/
def pointOf (p : LatLng (FiniteNumber F)) : LatLng G :=
  ⟨codecs.asF64 (value p.lat), codecs.asF64 (value p.lng)⟩

def ViewportArg.meaning :
    ViewportArg F → Option (ViewportCells.Viewport G)
  | .parentCell parent targetResolution => do
      let cell ← cellOf parent
      let resolution ← byteOf codecs value targetResolution
      return .parentCell cell resolution
  | .boundingBox southWest northEast resolution => do
      let resolution ← byteOf codecs value resolution
      return .boundingBox (pointOf codecs value southWest)
        (pointOf codecs value northEast) resolution

/-- What the tool is asked for; `none` where the arguments are no input. -/
def Call.meaning : Call F → Option (ToolInput G N)
  | .renderViewport viewport epochId maxCells => do
      let viewport ← viewport.meaning codecs value
      let epochId ← optionalEpochOf codecs value epochId
      let maxCells ← limitOf codecs value maxCells
      return .renderViewport
        { viewport := viewport, epochId := epochId, maxCells := maxCells }
  | .getCellState h3Cell epochId => do
      let cell ← cellOf h3Cell
      let epochId ← optionalEpochOf codecs value epochId
      return .getCellState { h3Cell := cell, epochId := epochId }
  | .queryCellsInRegion viewport epochId limit => do
      let viewport ← viewport.meaning codecs value
      let epochId ← optionalEpochOf codecs value epochId
      let limit ← limitOf codecs value limit
      return .queryCellsInRegion
        { viewport := viewport, epochId := epochId, limit := limit }
  | .getProvenance h3Cell epochId => do
      let cell ← cellOf h3Cell
      let epochId ← epochOf codecs value epochId
      return .getProvenance { h3Cell := cell, epochId := epochId }
  | .verifyAttestation attestation => do
      let a ← (attestationFromValue codecs
        (serverValue value attestation)).toOption
      return .verifyAttestation a

end Meaning

/-! ## What the tools read -/

section Options

variable {N α β : Type}

@[simp] theorem toOption_ok (a : α) :
    (Except.ok a : Input N α).toOption = some a := rfl

@[simp] theorem toOption_error (e : InputError N) :
    (Except.error e : Input N α).toOption = none := rfl

theorem toOption_bind (x : Input N α) (f : α → Input N β) :
    (x >>= f).toOption = x.toOption.bind fun a => (f a).toOption := by
  cases x <;> rfl

@[simp] theorem toOption_map (x : Input N α) (f : α → β) :
    (x.map f).toOption = x.toOption.map f := by
  cases x <;> rfl

@[simp] theorem toOption_pure (a : α) :
    (pure a : Input N α).toOption = some a := rfl

@[simp] theorem toOption_required (name : String) (x : Option α) :
    (required name x : Input N α).toOption = x := by
  cases x <;> rfl

theorem toOption_field (ms : List (Text × Value N)) (name : String)
    (fromValue : Value N → Input N α) :
    (field ms name fromValue).toOption =
      match ms.lookup name.toList with
      | some v => (fromValue v).toOption.map some
      | none => some none := by
  unfold field
  cases ms.lookup name.toList with
  | some v => exact toOption_map _ _
  | none => rfl

end Options

section Reading

variable {F G N : Type} {codecs : Codecs G N} {value : FiniteNumber F → N}

theorem h3CellFromValue_string (s : Text) :
    (h3CellFromValue (Value.string s : Value N)).toOption = cellOf s := by
  have hstring : stringFromValue (Value.string s : Value N) = .ok s := rfl
  rw [h3CellFromValue, hstring, Input.ok_bind, cellOf]
  cases H3Text.fromHex s <;> rfl

theorem outOfRange_toOption {α : Type} (v : Value N) (n : N)
    (expected : String) :
    (outOfRange codecs v n expected : Input N α).toOption = none := by
  unfold outOfRange
  split_ifs <;> rfl

theorem epochIdFromValue_number (x : FiniteNumber F) :
    (epochIdFromValue codecs (Value.number (value x))).toOption =
      epochOf codecs value x := by
  rw [epochIdFromValue, toOption_map, epochOf]
  have hread : (i64FromValue codecs (Value.number (value x))).toOption =
      codecs.asI64 (value x) := by
    have hnumber : (Value.number (value x)).tree = .num (value x) := rfl
    simp only [i64FromValue, hnumber]
    cases codecs.asI64 (value x) with
    | none => exact outOfRange_toOption _ _ _
    | some i => rfl
  rw [hread]

theorem unsignedFromValue_number (bound : Nat) (name : String)
    (x : FiniteNumber F) :
    (unsignedFromValue codecs bound name
        (Value.number (value x))).toOption =
      (codecs.asU64 (value x)).filter (· < bound) := by
  have hnumber : (Value.number (value x)).tree = .num (value x) := rfl
  simp only [unsignedFromValue, hnumber]
  cases codecs.asU64 (value x) with
  | none => exact outOfRange_toOption _ _ _
  | some m =>
      rw [Option.filter_some]
      by_cases hbound : m < bound
      · simp [hbound]
      · simp [hbound, outOfRange_toOption]

theorem u8FromValue_number (x : FiniteNumber F) :
    (u8FromValue codecs (Value.number (value x))).toOption =
      byteOf codecs value x := by
  rw [u8FromValue, toOption_map, unsignedFromValue_number]
  rfl

theorem usizeFromValue_number (x : FiniteNumber F) :
    (usizeFromValue codecs (Value.number (value x))).toOption =
      countOf codecs value x := by
  rw [usizeFromValue, unsignedFromValue_number]
  rfl

/-! ### Objects -/

variable (value) in
/-- The members that were sent. -/
theorem asObject_serverValue (ms : List (Text × Json (FiniteNumber F) Text)) :
    ∃ ns, (serverValue value (.obj ms)).asObject = some ns ∧
      ∀ k, ns.lookup k =
        (ms.map fun m => (m.1, serverValue value m.2)).reverse.lookup k := by
  rw [serverValue_obj]
  exact exists_members _

theorem structFromValue_of_object {α : Type} {name : String}
    {fromObject : List (Text × Value N) → Input N α}
    {fromArray : List (Value N) → Input N α} {v : Value N}
    {ns : List (Text × Value N)} (hns : v.asObject = some ns) :
    structFromValue name fromObject fromArray v = fromObject ns := by
  rw [structFromValue, hns]

/-- A member beside another one. -/
theorem lookup_filter_ne {k m : Text} (hne : k ≠ m)
    (ns : List (Text × Value N)) :
    (ns.filter fun n => n.1 ≠ m).lookup k = ns.lookup k := by
  induction ns with
  | nil => rfl
  | cons n ns ih =>
      by_cases hn : n.1 = m
      · have hk : (k == n.1) = false := by
          rw [hn]
          exact beq_eq_false_iff_ne.mpr hne
        rw [List.filter_cons_of_neg (by simpa using hn), ih, List.lookup_cons,
          hk]
      · rw [List.filter_cons_of_pos (by simpa using hn), List.lookup_cons,
          List.lookup_cons, ih]

theorem f64FromValue_num (x : FiniteNumber F) :
    f64FromValue codecs (serverValue value (.num x)) =
      .ok (codecs.asF64 (value x)) := rfl

theorem latLngFromValue_tree (p : LatLng (FiniteNumber F)) :
    latLngFromValue codecs (serverValue value (latLngTree p)) =
      .ok (pointOf codecs value p) := by
  rw [latLngFromValue, latLngTree]
  obtain ⟨ns, hns, hlookup⟩ := asObject_serverValue value
    [("lat".toList, .num p.lat), ("lng".toList, .num p.lng)]
  rw [structFromValue_of_object hns,
    field_of_lookup (hlookup _) (f64FromValue_num p.lat),
    field_of_lookup (hlookup _) (f64FromValue_num p.lng)]
  rfl

/-- **A viewport is read as what it means.** -/
theorem viewportFromValue_tree (v : ViewportArg F) :
    (viewportFromValue codecs (serverValue value v.tree)).toOption =
      v.meaning codecs value := by
  cases v with
  | parentCell parent r =>
      rw [ViewportArg.tree]
      obtain ⟨ns, hns, hlookup⟩ := asObject_serverValue value
        [ ("mode".toList, .str "parent_cell".toList)
        , ("parent".toList, .str parent)
        , ("target_resolution".toList, .num r) ]
      have htag : ns.lookup "mode".toList =
          some (Value.string "parent_cell".toList) := hlookup _
      have hparent : ns.lookup "parent".toList = some (Value.string parent) :=
        hlookup _
      have hr : ns.lookup "target_resolution".toList =
          some (Value.number (value r)) := hlookup _
      rw [viewportFromValue, hns]
      show (required "mode" (ns.lookup "mode".toList) >>= _).toOption = _
      rw [htag]
      show (parentCellFromObject codecs
        (ns.filter fun m => m.1 ≠ "mode".toList)).toOption = _
      rw [parentCellFromObject]
      simp only [toOption_bind, toOption_field,
        lookup_filter_ne (show "parent".toList ≠ "mode".toList by decide),
        lookup_filter_ne
          (show "target_resolution".toList ≠ "mode".toList by decide),
        hparent, hr, h3CellFromValue_string, u8FromValue_number,
        toOption_required, toOption_pure]
      rw [ViewportArg.meaning]
      cases cellOf parent <;> cases byteOf codecs value r <;> rfl
  | boundingBox sw ne r =>
      rw [ViewportArg.tree]
      obtain ⟨ns, hns, hlookup⟩ := asObject_serverValue value
        [ ("mode".toList, .str "bounding_box".toList)
        , ("south_west".toList, latLngTree sw)
        , ("north_east".toList, latLngTree ne)
        , ("resolution".toList, .num r) ]
      have htag : ns.lookup "mode".toList =
          some (Value.string "bounding_box".toList) := hlookup _
      have hsw : ns.lookup "south_west".toList =
          some (serverValue value (latLngTree sw)) := hlookup _
      have hne : ns.lookup "north_east".toList =
          some (serverValue value (latLngTree ne)) := hlookup _
      have hr : ns.lookup "resolution".toList =
          some (Value.number (value r)) := hlookup _
      rw [viewportFromValue, hns]
      show (required "mode" (ns.lookup "mode".toList) >>= _).toOption = _
      rw [htag]
      show (boundingBoxFromObject codecs
        (ns.filter fun m => m.1 ≠ "mode".toList)).toOption = _
      rw [boundingBoxFromObject]
      simp only [toOption_bind, toOption_field,
        lookup_filter_ne (show "south_west".toList ≠ "mode".toList by decide),
        lookup_filter_ne (show "north_east".toList ≠ "mode".toList by decide),
        lookup_filter_ne (show "resolution".toList ≠ "mode".toList by decide),
        hsw, hne, hr, latLngFromValue_tree, u8FromValue_number,
        toOption_required, toOption_pure]
      rw [ViewportArg.meaning]
      cases byteOf codecs value r <;> rfl

/-! ### Inputs -/

/-- An optional epoch. -/
theorem field_epochId {ns : List (Text × Value N)}
    {epochId : Option (FiniteNumber F)}
    (he : ns.lookup "epoch_id".toList =
      epochId.map fun x => Value.number (value x)) :
    (field ns "epoch_id" (optionFromValue
        (epochIdFromValue codecs))).toOption.map (fun e => e.getD none) =
      optionalEpochOf codecs value epochId := by
  rw [toOption_field, he]
  cases epochId with
  | none => rfl
  | some x =>
      show (((epochIdFromValue codecs (Value.number (value x))).map
        some).toOption.map some).map _ = (epochOf codecs value x).map some
      rw [toOption_map, epochIdFromValue_number]
      cases epochOf codecs value x <;> rfl

/-- An optional limit. -/
theorem field_limit {ns : List (Text × Value N)} {name : String}
    {limit : Option (FiniteNumber F)}
    (hl : ns.lookup name.toList =
      limit.map fun x => Value.number (value x)) :
    (field ns name (usizeFromValue codecs)).toOption.map
      (fun l => l.getD defaultMaxCells) = limitOf codecs value limit := by
  rw [toOption_field, hl]
  cases limit with
  | none => rfl
  | some x =>
      show ((usizeFromValue codecs _).toOption.map some).map _ =
        countOf codecs value x
      rw [usizeFromValue_number]
      cases countOf codecs value x <;> rfl

variable (codecs) in
/-- The fields that two inputs share, the last of them under its own name. -/
theorem regionFromObject_read {name : String}
    (hname : name = "max_cells" ∨ name = "limit") (viewport : ViewportArg F)
    (epochId limit : Option (FiniteNumber F)) :
    ∃ ns, (serverValue value (.obj
        ([("viewport".toList, viewport.tree)]
          ++ optionalNumber "epoch_id" epochId
          ++ optionalNumber name limit))).asObject = some ns ∧
      (regionFromObject codecs name ns).toOption = (do
        let v ← viewport.meaning codecs value
        let e ← optionalEpochOf codecs value epochId
        let l ← limitOf codecs value limit
        return (v, e, l)) := by
  obtain ⟨ns, hns, hlookup⟩ := asObject_serverValue value
    ([("viewport".toList, viewport.tree)]
      ++ optionalNumber "epoch_id" epochId ++ optionalNumber name limit)
  have hv : ns.lookup "viewport".toList =
      some (serverValue value viewport.tree) := by
    rw [hlookup]
    rcases hname with rfl | rfl <;> cases epochId <;> cases limit <;> rfl
  have he : ns.lookup "epoch_id".toList =
      epochId.map fun x => Value.number (value x) := by
    rw [hlookup]
    rcases hname with rfl | rfl <;> cases epochId <;> cases limit <;> rfl
  have hl : ns.lookup name.toList =
      limit.map fun x => Value.number (value x) := by
    rw [hlookup]
    rcases hname with rfl | rfl <;> cases epochId <;> cases limit <;> rfl
  refine ⟨ns, hns, ?_⟩
  have hview : (field ns "viewport" (viewportFromValue codecs)).toOption =
      (viewport.meaning codecs value).map some := by
    rw [toOption_field, hv, ← viewportFromValue_tree]
  rw [regionFromObject, ← field_limit hl, ← field_epochId he]
  simp only [toOption_bind, hview, toOption_required, toOption_pure]
  cases viewport.meaning codecs value
    <;> cases (field ns "epoch_id" (optionFromValue
      (epochIdFromValue codecs))).toOption
    <;> cases (field ns name (usizeFromValue codecs)).toOption
    <;> rfl

/-- The cell of two inputs. -/
theorem field_h3Cell {ns : List (Text × Value N)} {h3Cell : Text}
    (hcell : ns.lookup "h3_cell".toList = some (Value.string h3Cell)) :
    (field ns "h3_cell" h3CellFromValue).toOption =
      (cellOf h3Cell).map some := by
  rw [toOption_field, hcell]
  exact congrArg (Option.map some) (h3CellFromValue_string h3Cell)

theorem renderViewportInput_read (viewport : ViewportArg F)
    (epochId maxCells : Option (FiniteNumber F)) :
    (renderViewportInputFromValue codecs (serverValue value
        (Call.renderViewport viewport epochId maxCells).args)).toOption.map
        ToolInput.renderViewport =
      (Call.renderViewport viewport epochId maxCells).meaning codecs value := by
  obtain ⟨ns, hns, hregion⟩ := regionFromObject_read codecs
    (Or.inl rfl) viewport epochId maxCells
  rw [Call.args, renderViewportInputFromValue, structFromValue_of_object hns,
    toOption_bind, hregion, Call.meaning]
  cases viewport.meaning codecs value
    <;> cases optionalEpochOf codecs value epochId
    <;> cases limitOf codecs value maxCells
    <;> rfl

theorem queryCellsInRegionInput_read (viewport : ViewportArg F)
    (epochId limit : Option (FiniteNumber F)) :
    (queryCellsInRegionInputFromValue codecs (serverValue value
        (Call.queryCellsInRegion viewport epochId limit).args)).toOption.map
        ToolInput.queryCellsInRegion =
      (Call.queryCellsInRegion viewport epochId limit).meaning codecs
        value := by
  obtain ⟨ns, hns, hregion⟩ := regionFromObject_read codecs
    (Or.inr rfl) viewport epochId limit
  rw [Call.args, queryCellsInRegionInputFromValue,
    structFromValue_of_object hns, toOption_bind, hregion, Call.meaning]
  cases viewport.meaning codecs value
    <;> cases optionalEpochOf codecs value epochId
    <;> cases limitOf codecs value limit
    <;> rfl

theorem getCellStateInput_read (h3Cell : Text)
    (epochId : Option (FiniteNumber F)) :
    (getCellStateInputFromValue codecs (serverValue value
        (Call.getCellState h3Cell epochId).args)).toOption.map
        ToolInput.getCellState =
      (Call.getCellState h3Cell epochId).meaning codecs value := by
  rw [Call.args]
  obtain ⟨ns, hns, hlookup⟩ := asObject_serverValue value
    ([("h3_cell".toList, .str h3Cell)] ++ optionalNumber "epoch_id" epochId)
  have hcell : ns.lookup "h3_cell".toList = some (Value.string h3Cell) := by
    rw [hlookup]
    cases epochId <;> rfl
  have he : ns.lookup "epoch_id".toList =
      epochId.map fun x => Value.number (value x) := by
    rw [hlookup]
    cases epochId <;> rfl
  rw [getCellStateInputFromValue, structFromValue_of_object hns, Call.meaning,
    ← field_epochId he]
  simp only [toOption_bind, field_h3Cell hcell, toOption_required,
    toOption_pure]
  cases cellOf h3Cell
    <;> cases (field ns "epoch_id" (optionFromValue
      (epochIdFromValue codecs))).toOption
    <;> rfl

theorem getProvenanceInput_read (h3Cell : Text) (epochId : FiniteNumber F) :
    (getProvenanceInputFromValue codecs (serverValue value
        (Call.getProvenance h3Cell epochId).args)).toOption.map
        ToolInput.getProvenance =
      (Call.getProvenance h3Cell epochId).meaning codecs value := by
  rw [Call.args]
  obtain ⟨ns, hns, hlookup⟩ := asObject_serverValue value
    [("h3_cell".toList, .str h3Cell), ("epoch_id".toList, .num epochId)]
  have hcell : ns.lookup "h3_cell".toList = some (Value.string h3Cell) :=
    hlookup _
  have he : ns.lookup "epoch_id".toList =
      some (Value.number (value epochId)) := hlookup _
  have hepoch : (field ns "epoch_id" (epochIdFromValue codecs)).toOption =
      (epochOf codecs value epochId).map some := by
    rw [toOption_field, he]
    exact congrArg (Option.map some) (epochIdFromValue_number epochId)
  rw [getProvenanceInputFromValue, structFromValue_of_object hns, Call.meaning]
  simp only [toOption_bind, hepoch, field_h3Cell hcell, toOption_required,
    toOption_pure]
  cases cellOf h3Cell <;> cases epochOf codecs value epochId <;> rfl

theorem verifyAttestationInput_read
    (attestation : Json (FiniteNumber F) Text) :
    (verifyAttestationInputFromValue codecs (serverValue value
        (Call.verifyAttestation attestation).args)).toOption.map
        ToolInput.verifyAttestation =
      (Call.verifyAttestation attestation : Call F).meaning codecs value := by
  rw [Call.args]
  obtain ⟨ns, hns, hlookup⟩ :=
    asObject_serverValue value [("attestation".toList, attestation)]
  have ha : ns.lookup "attestation".toList =
      some (serverValue value attestation) := hlookup _
  rw [verifyAttestationInputFromValue, structFromValue_of_object hns,
    Call.meaning]
  simp only [toOption_bind, toOption_field, ha, toOption_required]
  cases (attestationFromValue codecs (serverValue value attestation)).toOption
    <;> rfl

end Reading

/-! ## What the server does -/

section Served

variable {F G N Cell Point K Lab : Type}
variable (server : Server G N Cell Point K Lab)

/-- The run of a tool on an input. -/
def ToolInput.answer (tenant : TenantId) (w : World G N Lab) :
    ToolInput G N → Except (JsonRpcError N) (Value N)
  | .renderViewport input => do
      let out ← (RenderTools.renderViewport server.f64 server.h3o w.db tenant
        input w.renderMs).mapError (faultToJsonrpc server)
      return renderedViewportToValue server.codecs out
  | .getCellState input => do
      let out ← (RenderTools.getCellState w.db tenant input).mapError
        (faultToJsonrpc server)
      return getCellStateOutputToValue server.codecs out
  | .queryCellsInRegion input => do
      let out ← (RenderTools.queryCellsInRegion server.f64 server.h3o w.db
        tenant input).mapError (faultToJsonrpc server)
      return queryCellsInRegionOutputToValue server.codecs out
  | .getProvenance input => do
      let out ← (RenderTools.getProvenance server.pair w.db tenant
        input).mapError (faultToJsonrpc server)
      return provenanceToValue server.codecs out
  | .verifyAttestation a => do
      let out ← (VerifyAttestation.verifyAttestation server.crypto server.serde
        w.db tenant w.now a).mapError (faultToJsonrpc server)
      return verifyAttestationOutputToValue out

/-- The call of a tool that was understood, or was refused its arguments. -/
def Understood (tenant : TenantId) (w : World G N Lab)
    (meaning : Option (ToolInput G N))
    (outcome : Except (JsonRpcError N) (Value N)) : Prop :=
  match meaning with
  | some input => outcome = input.answer server tenant w
  | none => ∃ message, outcome =
      .error (.new JsonRpcError.invalidParams message)

/-- An entry runs its tool on what it reads, or refuses the arguments. -/
theorem coreEntry_understood {α β : Type} (definition : ToolDefinition N)
    {fromValue : Value N → Input N α}
    {tool : World G N Lab → TenantId → α → Outcome β} {toValue : β → Value N}
    {tenant : TenantId} {w : World G N Lab} {input : α → ToolInput G N}
    (hanswer : ∀ a, (input a).answer server tenant w =
      (tool w tenant a).mapError (faultToJsonrpc server) >>=
        fun b => pure (toValue b))
    {args : Value N} {meaning : Option (ToolInput G N)}
    (hread : (fromValue args).toOption.map input = meaning) :
    Understood server tenant w meaning
      ((coreEntry server definition fromValue tool toValue).run args tenant
        w).1 := by
  subst hread
  show Understood server tenant w _ ((fromValue args).mapError _ >>= fun a =>
    (tool w tenant a).mapError _ >>= fun b => pure (toValue b))
  cases fromValue args with
  | ok a => exact (hanswer a).symm
  | error e => exact ⟨_, rfl⟩

/-- **Every call runs its tool on what its arguments mean.** -/
theorem registry_understood (value : FiniteNumber F → N) (call : Call F)
    (tenant : TenantId) (w : World G N Lab) :
    Understood server tenant w (call.meaning server.codecs value)
      ((build server).call call.tool (serverValue value call.args) tenant
        w).1 := by
  cases call with
  | renderViewport viewport epochId maxCells =>
      exact coreEntry_understood server _ (fun _ => rfl)
        (renderViewportInput_read viewport epochId maxCells)
  | getCellState h3Cell epochId =>
      exact coreEntry_understood server _ (fun _ => rfl)
        (getCellStateInput_read h3Cell epochId)
  | queryCellsInRegion viewport epochId limit =>
      exact coreEntry_understood server _ (fun _ => rfl)
        (queryCellsInRegionInput_read viewport epochId limit)
  | getProvenance h3Cell epochId =>
      exact coreEntry_understood server _ (fun _ => rfl)
        (getProvenanceInput_read h3Cell epochId)
  | verifyAttestation attestation =>
      exact coreEntry_understood server _ (fun _ => rfl)
        (verifyAttestationInput_read attestation)

end Served

/-! ## What the client promises -/

/-- The members of the type that a method returns. -/
def Call.promised {F : Type} : Call F → List String
  | .renderViewport _ _ _ => ["cells", "count", "epoch"]
  | .getCellState _ _ => ["cell_state"]
  | .queryCellsInRegion _ _ _ => ["cells", "count"]
  | .getProvenance _ _ =>
      [ "tenant_id", "h3_cell", "epoch_id", "cell_state", "attestations"
      , "merkle_proof", "leaf_index", "epoch" ]
  | .verifyAttestation _ =>
      ["claim_hash_ok", "signature_ok", "cell_exists", "expired", "verdict"]

/-- The members that the tool writes. -/
def Call.written {F : Type} : Call F → List String
  | .renderViewport _ _ _ =>
      [ "tenant_id", "viewport", "epoch_id", "cell_count", "cells"
      , "render_ms" ]
  | .getCellState _ _ => ["cell_state"]
  | .queryCellsInRegion _ _ _ => ["cells", "count"]
  | .getProvenance _ _ =>
      [ "tenant_id", "h3_cell", "epoch_id", "cell_state", "attestations"
      , "merkle_proof", "leaf_index", "epoch" ]
  | .verifyAttestation _ =>
      [ "signature_valid", "claim_hash_valid", "cell_exists", "not_expired"
      , "verified" ]

/-- The promised members that the tool does not write: it has `cell_count` and
`epoch_id` for the first method, and `claim_hash_valid`, `signature_valid`,
`not_expired` and `verified` for the last. -/
def Call.missing {F : Type} : Call F → List String
  | .renderViewport _ _ _ => ["count", "epoch"]
  | .verifyAttestation _ =>
      ["claim_hash_ok", "signature_ok", "expired", "verdict"]
  | _ => []

section Promises

variable {F G N Cell Point K Lab : Type}

/-- No value of the server is undefined in the browser. -/
theorem browserValue_defined (number : N → JsNumber F) (v : Value N) :
    browserValue number v ≠ .undefined := by
  obtain ⟨tree, hsorted⟩ := v
  cases tree <;> nofun

/-- A property is undefined where the object has no such member. -/
theorem member_undefined_iff (number : N → JsNumber F)
    (ms : List (Text × Value N)) (k : String) :
    (browserValue number (Value.object ms)).member (js k) = .undefined ↔
      k.toList ∉ ms.map Prod.fst := by
  rw [member_object, ← List.mem_reverse, ← List.map_reverse]
  generalize ms.reverse = ns
  induction ns with
  | nil => simp
  | cons n ns ih =>
      rw [List.lookup_cons, List.map_cons, List.mem_cons]
      by_cases hk : k.toList = n.1
      · simp [hk, browserValue_defined]
      · rw [beq_eq_false_iff_ne.mpr hk]
        simp only [hk, false_or]
        exact ih

theorem missing_iff (call : Call F) :
    ∀ k ∈ call.promised, k ∉ call.written ↔ k ∈ call.missing := by
  cases call with
  | renderViewport viewport epochId maxCells =>
      show ∀ k ∈ ["cells", "count", "epoch"], k ∉
        [ "tenant_id", "viewport", "epoch_id", "cell_count", "cells"
        , "render_ms" ] ↔ k ∈ ["count", "epoch"]
      decide
  | verifyAttestation attestation =>
      show ∀ k ∈
        ["claim_hash_ok", "signature_ok", "cell_exists", "expired", "verdict"],
        k ∉ [ "signature_valid", "claim_hash_valid", "cell_exists"
            , "not_expired", "verified" ] ↔
          k ∈ ["claim_hash_ok", "signature_ok", "expired", "verdict"]
      decide
  -- the other three types are those of the tools
  | getCellState h3Cell epochId =>
      exact fun k hk => ⟨fun hnot => absurd hk hnot, nofun⟩
  | queryCellsInRegion viewport epochId limit =>
      exact fun k hk => ⟨fun hnot => absurd hk hnot, nofun⟩
  | getProvenance h3Cell epochId =>
      exact fun k hk => ⟨fun hnot => absurd hk hnot, nofun⟩

/-- What a run returns is an object with the members of its kind. -/
theorem keys_of_answer (server : Server G N Cell Point K Lab)
    {tenant : TenantId} {w : World G N Lab} {value : FiniteNumber F → N}
    {call : Call F} {input : ToolInput G N}
    (hmeaning : call.meaning server.codecs value = some input) {v : Value N}
    (hanswer : input.answer server tenant w = .ok v) :
    ∃ ms, v = Value.object ms ∧
      ms.map Prod.fst = call.written.map String.toList := by
  cases call
  all_goals
    simp only [Call.meaning, Option.bind_eq_bind, Option.bind_eq_some_iff]
      at hmeaning
  case renderViewport | queryCellsInRegion =>
    obtain ⟨_, -, _, -, _, -, hinput⟩ := hmeaning
    cases hinput
    obtain ⟨out, -, hout⟩ := bind_eq_ok.mp hanswer
    cases hout
    exact ⟨_, rfl, rfl⟩
  case getCellState | getProvenance =>
    obtain ⟨_, -, _, -, hinput⟩ := hmeaning
    cases hinput
    obtain ⟨out, -, hout⟩ := bind_eq_ok.mp hanswer
    cases hout
    exact ⟨_, rfl, rfl⟩
  case verifyAttestation =>
    obtain ⟨_, -, hinput⟩ := hmeaning
    cases hinput
    obtain ⟨out, -, hout⟩ := bind_eq_ok.mp hanswer
    cases hout
    exact ⟨_, rfl, rfl⟩

/-- **Which promised members never arrive.** -/
theorem promised_undefined_iff (server : Server G N Cell Point K Lab)
    (number : N → JsNumber F)
    {tenant : TenantId} {w : World G N Lab} {value : FiniteNumber F → N}
    {call : Call F} {input : ToolInput G N}
    (hmeaning : call.meaning server.codecs value = some input) {v : Value N}
    (hanswer : input.answer server tenant w = .ok v) :
    ∀ k ∈ call.promised,
      ((browserValue number v).member (js k) = .undefined ↔
        k ∈ call.missing) := by
  intro k hk
  obtain ⟨ms, rfl, hkeys⟩ := keys_of_answer server hmeaning hanswer
  have hwritten : k.toList ∈ call.written.map String.toList ↔
      k ∈ call.written := by
    rw [List.mem_map]
    constructor
    · rintro ⟨k', hk', heq⟩
      rwa [← String.toList_inj.mp heq]
    · exact fun hmem => ⟨k, hmem, rfl⟩
  rw [member_undefined_iff, hkeys, hwritten]
  exact missing_iff call k hk

end Promises

/-! ## All of it -/

section Client

variable {F G N Cell Point K Lab JwkSet Jwk DecodingKey : Type}

/-- The body of a call. -/
def Call.body (en : Engine F) (id : FiniteNumber F) (call : Call F) :
    JsString :=
  toolsCallBody en id.val (jsText call.tool) (browserTree call.args)

/-- What a method returns or rejects with: what its tool made of the
arguments' meaning, or -32602 where they have none. -/
def Settles (server : Server G N Cell Point K Lab) (number : N → JsNumber F)
    (value : FiniteNumber F → N) (tenant : TenantId) (w : World G N Lab)
    (call : Call F) (result : Except (Client.CallError F) (JsValue F)) :
    Prop :=
  match call.meaning server.codecs value with
  | some input =>
      result = Client.delivered number server.codecs.fromI64
          (input.answer server tenant w) ∧
        ∀ v, result = .ok v → ∀ k ∈ call.promised,
          (v.member (js k) = .undefined ↔ k ∈ call.missing)
  | none => ∃ message, result =
      .error (.mobyDb (.number (.int ⟨-32602, rfl⟩)) (.string message)
        .undefined)

theorem settles_of_understood {server : Server G N Cell Point K Lab}
    {en : Engine F} {number : N → JsNumber F} {value : FiniteNumber F → N}
    (h : Understand en server.serde server.codecs.fromI64 number value)
    {tenant : TenantId} {w : World G N Lab} {call : Call F}
    {outcome : Except (JsonRpcError N) (Value N)}
    (hunderstood : Understood server tenant w
      (call.meaning server.codecs value) outcome) :
    Settles server number value tenant w call
      (Client.delivered number server.codecs.fromI64 outcome) := by
  unfold Settles
  cases hmeaning : call.meaning server.codecs value with
  | some input =>
      rw [hmeaning] at hunderstood
      have houtcome : outcome = input.answer server tenant w := hunderstood
      subst houtcome
      refine ⟨rfl, fun v hv => ?_⟩
      cases hanswer : input.answer server tenant w with
      | ok u =>
          rw [hanswer] at hv
          cases hv
          exact promised_undefined_iff server number hmeaning hanswer
      | error e =>
          rw [hanswer, Client.delivered] at hv
          split_ifs at hv
  | none =>
      rw [hmeaning] at hunderstood
      obtain ⟨message, houtcome⟩ := hunderstood
      refine ⟨jsText message, ?_⟩
      rw [houtcome, ← h.number_fromI64 ⟨-32602, rfl⟩]
      rfl

section Calls

variable (server : Server G N Cell Point K Lab) (cfg : ServerConfig.Config)
variable (auth : Auth.Libraries JwkSet Jwk DecodingKey N) {en : Engine F}
variable {number : N → JsNumber F} {value : FiniteNumber F → N}
variable (hunderstand :
  Understand en server.serde server.codecs.fromI64 number value)
variable (rejection : JsonRejection → Text)
variable (provider : Auth.Provider JwkSet) (now : Nat)
variable (s : McpHandler.Shared (World G N Lab) JwkSet)
variable (headers : Auth.HeaderMap) {id : FiniteNumber F} {call : Call F}

/-- A result that is one of the statuses. -/
def RejectsWith (statuses : List Int)
    (result : Except (Client.CallError F) (JsValue F)) : Prop :=
  ∃ (status : SafeInteger) (message : JsString), status.val ∈ statuses ∧
    result = .error (.mobyDb (.number (.int status)) (.string message)
      .undefined)

/-- The extractor takes the body of the call. -/
def Call.Fits (en : Engine F) (id : FiniteNumber F) (call : Call F) : Prop :=
  RpcClient.Fits en (toolsCallTree id call.tool call.args)

include hunderstand

/-- An admitted call. -/
theorem settles_of_admitted (hfits : call.Fits en id) (ctx : Auth.AuthContext)
    (hctx : Admits (HttpServer.appState server cfg auth) provider now s headers
      ctx) :
    Settles server number value ctx.tenant s.world call (Client.call en
        (post (HttpServer.appState server cfg auth) rejection provider now s
          headers (call.body en id)).1) ∧
      (post (HttpServer.appState server cfg auth) rejection provider now s
        headers (call.body en id)).2.world = s.world := by
  have hwire : Understand en (HttpServer.appState server cfg auth).wire.serde
      (HttpServer.appState server cfg auth).wire.fromI64 number value :=
    hunderstand
  have hbody : RpcClient.Fits en (toolsCallTree id call.tool call.args) :=
    hfits
  have hdelivered := delivered_of_admitted
    (HttpServer.appState server cfg auth) hwire rejection provider now s headers
    hbody hctx
  rw [Call.body, hdelivered.2.2.1, hdelivered.2.2.2]
  exact ⟨settles_of_understood hunderstand
      (registry_understood server value call ctx.tenant s.world),
    registry_world server call.tool _ ctx.tenant s.world⟩

omit hunderstand in
/-- A response of one of the statuses. -/
theorem rejectsWith_of_status {resp : HttpResponse} {statuses : List UInt16}
    (hstatus : resp.status ∈ statuses) (hthrows : ThrowsStatus en resp) :
    RejectsWith (statuses.map fun n => (n.toNat : Int)) (Client.call en resp) :=
  ⟨_, _, List.mem_map_of_mem hstatus, hthrows.client⟩

/-- A call that is not admitted. -/
theorem rejects_of_not_admitted (hfits : call.Fits en id)
    (hnone : ∀ ctx, ¬ Admits (HttpServer.appState server cfg auth) provider now
      s headers ctx) :
    RejectsWith [401, 429] (Client.call en
        (post (HttpServer.appState server cfg auth) rejection provider now s
          headers (call.body en id)).1) ∧
      (post (HttpServer.appState server cfg auth) rejection provider now s
        headers (call.body en id)).2.world = s.world := by
  have hwire : Understand en (HttpServer.appState server cfg auth).wire.serde
      (HttpServer.appState server cfg auth).wire.fromI64 number value :=
    hunderstand
  have hbody : RpcClient.Fits en (toolsCallTree id call.tool call.args) :=
    hfits
  have hthrown := throwsStatus_of_not_admitted
    (HttpServer.appState server cfg auth) hwire rejection provider now s headers
    hbody hnone
  rw [Call.body]
  have hstatus : _ ∈ [(401 : UInt16), 429] :=
    List.mem_pair.mpr hthrown.1
  exact ⟨rejectsWith_of_status hstatus hthrown.2.1, hthrown.2.2⟩

/-- A call whose body is turned away. -/
theorem rejects_of_not_fits (hfits : ¬ call.Fits en id) :
    RejectsWith [413, 400] (Client.call en
        (post (HttpServer.appState server cfg auth) rejection provider now s
          headers (call.body en id)).1) ∧
      (post (HttpServer.appState server cfg auth) rejection provider now s
        headers (call.body en id)).2.world = s.world := by
  have hwire : Understand en (HttpServer.appState server cfg auth).wire.serde
      (HttpServer.appState server cfg auth).wire.fromI64 number value :=
    hunderstand
  have hbody : ¬ RpcClient.Fits en (toolsCallTree id call.tool call.args) :=
    hfits
  have hthrown := throwsStatus_of_not_fits
    (HttpServer.appState server cfg auth) hwire rejection provider now s headers
    hbody
  have hstatus : (post (HttpServer.appState server cfg auth) rejection provider
      now s headers (call.body en id)).1.status ∈ [(413 : UInt16), 400] := by
    rw [Call.body, hthrown.1]
    split_ifs <;> decide
  rw [Call.body] at hstatus ⊢
  exact ⟨rejectsWith_of_status hstatus hthrown.2.1,
    congrArg McpHandler.Shared.world hthrown.2.2⟩

end Calls

end Client

/-- What the typed client gets of the server, with this database. -/
def smallResult (db : Schema.Database SafeInteger) (id : SafeInteger)
    (call : Call Empty) : Except (Client.CallError Empty) (JsValue Empty) :=
  Client.call LabAcceptance.plainEngine (post (HttpServer.appState
    (HttpServer.smallServer AuditPipeline.safeCodecs safeText)
      HttpServer.seededConfig tokenless)
    axumRejection McpHandler.offlineProvider 0
    ⟨none, some (.new 100 0), HttpServer.worldOf db⟩ McpHandler.mainKeyHeaders
    (call.body LabAcceptance.plainEngine (literal id))).1

end RenderEngine.Ports.TypedClient
