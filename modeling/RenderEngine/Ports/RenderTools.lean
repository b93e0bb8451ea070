import RenderEngine.Ports.RegionQuery
import RenderEngine.Ports.VerifyAttestation

/-!
# The tools of `render-core/src/tools.rs`

Each tool calls the client and wraps what it returns.  `render_viewport` calls
it twice, so `renderViewportFrom` reads two databases.
-/

namespace RenderEngine.Ports.RenderTools

open RenderEngine.Ports.CoreTypes
open RenderEngine.Ports.Schema
open RenderEngine.Ports.PostgresClient
open RenderEngine.Ports.RegionQuery
open RenderEngine.Ports.ViewportCells

/-! ## Inputs and outputs -/

structure RenderViewportInput (F : Type) where
  viewport : Viewport F
  epochId : Option EpochId
  maxCells : Nat

structure RenderedViewport (F N : Type) where
  tenantId : TenantId
  viewport : Viewport F
  epochId : EpochId
  cellCount : Nat
  cells : List (CellState N)
  renderMs : F

structure GetCellStateInput where
  h3Cell : H3Cell
  epochId : Option EpochId

structure GetCellStateOutput (N : Type) where
  cellState : Option (CellState N)

structure QueryCellsInRegionInput (F : Type) where
  viewport : Viewport F
  epochId : Option EpochId
  limit : Nat

structure QueryCellsInRegionOutput (N : Type) where
  cells : List (CellState N)
  count : Nat

structure GetProvenanceInput where
  h3Cell : H3Cell
  epochId : EpochId

/-! ## Tools -/

section Tools

variable {F Cell Point N : Type} (f64 : F64 F) (h3o : H3o F Cell Point)

/-- `render_viewport`, its two calls reading two states of the database;
`renderMs` is the time it took. -/
def renderViewportFrom (db₁ db₂ : Database N) (tenant : TenantId)
    (input : RenderViewportInput F) (renderMs : F) :
    Outcome (RenderedViewport F N) := do
  let cells ← RegionQuery.queryCellsInRegion f64 h3o db₁ tenant input.viewport
    input.epochId input.maxCells
  let epochId ← match input.epochId with
    | some e => pure e
    | none => do
        let latest ← latestEpoch db₂ tenant
        pure latest.epochId
  return {
    tenantId := tenant
    viewport := input.viewport
    epochId := epochId
    cellCount := cells.length
    cells := cells
    renderMs := renderMs }

/-- `render_viewport` with no commit between its calls. -/
def renderViewport (db : Database N) (tenant : TenantId)
    (input : RenderViewportInput F) (renderMs : F) :
    Outcome (RenderedViewport F N) :=
  renderViewportFrom f64 h3o db db tenant input renderMs

/-- `get_cell_state`. -/
def getCellState (db : Database N) (tenant : TenantId)
    (input : GetCellStateInput) : Outcome (GetCellStateOutput N) := do
  let cellState ←
    PostgresClient.getCellState db tenant input.h3Cell input.epochId
  return { cellState := cellState }

/-- `query_cells_in_region`. -/
def queryCellsInRegion (db : Database N) (tenant : TenantId)
    (input : QueryCellsInRegionInput F) :
    Outcome (QueryCellsInRegionOutput N) := do
  let cells ← RegionQuery.queryCellsInRegion f64 h3o db tenant input.viewport
    input.epochId input.limit
  let count := cells.length
  return { cells := cells, count := count }

/-- `get_provenance`. -/
def getProvenance (pair : HexBytes32 → HexBytes32 → HexBytes32)
    (db : Database N) (tenant : TenantId) (input : GetProvenanceInput) :
    Outcome (Provenance N) :=
  PostgresClient.getProvenance pair db tenant input.h3Cell input.epochId

end Tools

end RenderEngine.Ports.RenderTools
