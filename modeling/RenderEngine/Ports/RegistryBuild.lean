import RenderEngine.Ports.McpHandler
import RenderEngine.Ports.TenantIsolation
import RenderEngine.Ports.ToolInputs

/-!
# The tools of the server (`mcp-server/src/tools.rs`, `error.rs`)

`ToolRegistry::build` puts the six tools together: arguments are read, the tool
is run, what it returns is written as a value; errors of the core become errors
of JSON-RPC.  The world a tool works on is the database, the lab and the clock.

## Main results

* `registry_world`: no tool changes the world.
* `registry_call_congr`: what a tenant's call answers depends on its own rows
  only.
* `coreToJsonrpc_isProtocol`: which errors of the core stay errors of the
  protocol.
-/

namespace RenderEngine.Ports.RegistryBuild

open RenderEngine.Ports.CoreTypes
open RenderEngine.Ports.RustStd
open RenderEngine.Ports.Serde
open RenderEngine.Ports.Schema
open RenderEngine.Ports.Mcp
open RenderEngine.Ports.PostgresClient
open RenderEngine.Ports.RenderTools
open RenderEngine.Ports.TenantIsolation
open RenderEngine.Ports.ToolInputs
open RenderEngine.Ports.VerifyAttestation
open RenderEngine.Ports.ViewportCells
open RenderEngine.Ports.WireTypes

/-! ## Errors -/

namespace JsonRpcError

def internalError : Int := -32603
def notFound : Int := -32004

end JsonRpcError

/-- `core_to_jsonrpc`. -/
def coreToJsonrpc {N : Type} (e : CoreError) : JsonRpcError N :=
  let code := match e with
    | .invalidH3Cell _ => Mcp.JsonRpcError.invalidParams
    | .invalidH3Resolution _ => Mcp.JsonRpcError.invalidParams
    | .viewportTooLarge _ _ => Mcp.JsonRpcError.invalidParams
    | .epochNotFound _ _ => JsonRpcError.notFound
    | .cellNotFound _ _ _ => JsonRpcError.notFound
    | .database _ => JsonRpcError.internalError
    | .other _ => JsonRpcError.internalError
  .new code (coreErrorText e)

/-- The errors that `tools/call` answers with an error of the protocol. -/
def isProtocol {N : Type} (e : JsonRpcError N) : Bool :=
  e.code == Mcp.JsonRpcError.methodNotFound
    || e.code == Mcp.JsonRpcError.invalidParams

/-- The errors of the core that are about what was asked for. -/
def isAboutInput : CoreError → Bool
  | .invalidH3Cell _ => true
  | .invalidH3Resolution _ => true
  | .viewportTooLarge _ _ => true
  | _ => false

theorem coreToJsonrpc_isProtocol {N : Type} (e : CoreError) :
    isProtocol (coreToJsonrpc (N := N) e) = isAboutInput e := by
  cases e <;> rfl

/-! ## The world -/

/-- What the tools work on. -/
structure World (F N Lab : Type) where
  db : Database N
  lab : Lab
  /-- `Utc::now` -/
  now : Timestamp
  /-- the milliseconds that `render_viewport` takes -/
  renderMs : F
  /-- the milliseconds that `tools/call` takes -/
  elapsedMs : F

/-- What the server is put together from.  A panic ends the task that serves
the request; what its caller sees is left open. -/
structure Server (F N Cell Point K Lab : Type) where
  codecs : Codecs F N
  f64 : F64 F
  h3o : H3o F Cell Point
  pair : HexBytes32 → HexBytes32 → HexBytes32
  crypto : Crypto K
  serde : SerdeText N
  /-- `schema_for!` of an input -/
  schemaFor : String → Value N
  /-- the text of an error of `from_value` -/
  inputErrorText : InputError N → Text
  /-- the handler of `query_predictions` -/
  queryPredictions : Lab → Value N → Except (JsonRpcError N) (Value N)
  panicked : JsonRpcError N

section Registry

variable {F N Cell Point K Lab : Type}
variable (server : Server F N Cell Point K Lab)

/-! ## The entries -/

/-- A fault of a tool, as the caller is told of it. -/
def faultToJsonrpc : Fault → JsonRpcError N
  | .core e => coreToJsonrpc e
  | .panic => server.panicked

/-- The entry of a tool of the core: its closure reads the arguments, runs the
tool and writes the result. -/
def coreEntry {α β : Type} (definition : ToolDefinition N)
    (fromValue : Value N → Input N α)
    (tool : World F N Lab → TenantId → α → Outcome β)
    (toValue : β → Value N) : ToolEntry (World F N Lab) N where
  definition := definition
  run := fun args tenant w =>
    (do
      let input ← (fromValue args).mapError fun e =>
        .new Mcp.JsonRpcError.invalidParams (server.inputErrorText e)
      let result ← (tool w tenant input).mapError (faultToJsonrpc server)
      return toValue result, w)

def renderViewportEntry : ToolEntry (World F N Lab) N :=
  coreEntry server
    { name := "render_viewport".toList
      description := ("Render a viewport of the spacetime grid. Returns cell "
        ++ "states (and, in future versions, composited payload) for all cells "
        ++ "within the given viewport at the given epoch.").toList
      inputSchema := server.schemaFor "RenderViewportInput" }
    (renderViewportInputFromValue server.codecs)
    (fun w tenant input => renderViewport server.f64 server.h3o w.db tenant
      input w.renderMs)
    (renderedViewportToValue server.codecs)

def getCellStateEntry : ToolEntry (World F N Lab) N :=
  coreEntry server
    { name := "get_cell_state".toList
      description := ("Get the state of a specific H3 cell. If epoch_id is "
        ++ "omitted, returns the state at the latest epoch that has a write "
        ++ "for this cell (null if never written).").toList
      inputSchema := server.schemaFor "GetCellStateInput" }
    (getCellStateInputFromValue server.codecs)
    (fun w => RenderTools.getCellState w.db)
    (getCellStateOutputToValue server.codecs)

def queryCellsInRegionEntry : ToolEntry (World F N Lab) N :=
  coreEntry server
    { name := "query_cells_in_region".toList
      description := ("List cell states in a region (H3 parent + target "
        ++ "resolution, or lat/lng bounding box). Returns at most `limit` "
        ++ "cells; exceeding the limit is an error, not silent truncation."
        ).toList
      inputSchema := server.schemaFor "QueryCellsInRegionInput" }
    (queryCellsInRegionInputFromValue server.codecs)
    (fun w => RenderTools.queryCellsInRegion server.f64 server.h3o w.db)
    (queryCellsInRegionOutputToValue server.codecs)

def getProvenanceEntry : ToolEntry (World F N Lab) N :=
  coreEntry server
    { name := "get_provenance".toList
      description := ("Get the full provenance bundle for a cell at an epoch: "
        ++ "cell state + attestations + Merkle proof against the epoch root + "
        ++ "epoch metadata. Used for EU AI Act audit trail.").toList
      inputSchema := server.schemaFor "GetProvenanceInput" }
    (getProvenanceInputFromValue server.codecs)
    (fun w => RenderTools.getProvenance server.pair w.db)
    (provenanceToValue server.codecs)

def verifyAttestationEntry : ToolEntry (World F N Lab) N :=
  coreEntry server
    { name := "verify_attestation".toList
      description := ("Verify an attestation: claim-hash consistency, Ed25519 "
        ++ "signature, referenced cell existence, and expiration. Returns "
        ++ "per-check booleans + overall verdict.").toList
      inputSchema := server.schemaFor "VerifyAttestationInput" }
    (verifyAttestationInputFromValue server.codecs)
    (fun w tenant => verifyAttestation server.crypto server.serde w.db tenant
      w.now)
    verifyAttestationOutputToValue

/-- A property of the schema of `query_predictions`. -/
def schemaProperty (kind description : String)
    (default : List (Text × Value N)) : Value N :=
  Value.object
    ([ ("type".toList, Value.string kind.toList)
     , ("description".toList, Value.string description.toList) ] ++ default)

def queryPredictionsSchema : Value N :=
  Value.object
    [ ("type".toList, Value.string "object".toList)
    , ("properties".toList, Value.object
        [ ("h3_cell".toList, schemaProperty "string"
            "H3 cell index, 15-character lowercase hex string" [])
        , ("epoch".toList, schemaProperty "integer"
            ("Optional epoch filter (lab convention: epoch 0 = 2024-01-01 "
              ++ "UTC)") [])
        , ("model_version".toList, schemaProperty "string"
            ("Optional model_version filter (e.g. "
              ++ "'sen1floods11@918b9f140bb1')") [])
        , ("limit".toList, schemaProperty "integer"
            "Max records to return (default 100, max 1000)"
            [("default".toList, intToValue server.codecs 100)])
        , ("include_chain".toList, schemaProperty "boolean"
            "Include embedded delegation chain JSONs (default true)"
            [("default".toList, Value.bool true)]) ])
    , ("required".toList, Value.array [Value.string "h3_cell".toList]) ]

def queryPredictionsEntry : ToolEntry (World F N Lab) N where
  definition :=
    { name := "query_predictions".toList
      description := ("Return signed AI prediction records from the GEIANT Lab "
        ++ "for a given H3 cell. Each record carries an Ed25519 signature over "
        ++ "canonical JSON plus an embedded 3-level delegation chain back to "
        ++ "the GEIANT Lab root. Trust root is distinct from the render "
        ++ "engine's primary root; clients displaying both must distinguish "
        ++ "them.").toList
      inputSchema := queryPredictionsSchema server }
  run := fun args _ w => (server.queryPredictions w.lab args, w)

/-- `ToolRegistry::build`. -/
def build : ToolRegistry (World F N Lab) N where
  tools :=
    [ renderViewportEntry server, getCellStateEntry server
    , queryCellsInRegionEntry server, getProvenanceEntry server
    , verifyAttestationEntry server, queryPredictionsEntry server ]

/-! ## What a call does -/

/-- **No tool changes the world.** -/
theorem registry_world (name : Text) (args : Value N) (tenant : TenantId)
    (w : World F N Lab) : ((build server).call name args tenant w).2 = w := by
  unfold ToolRegistry.call
  cases hfind : (build server).tools.find? fun t => t.definition.name == name with
  | none => rfl
  | some entry =>
      have hmem := List.mem_of_find?_eq_some hfind
      simp only [build, List.mem_cons, List.not_mem_nil, or_false] at hmem
      rcases hmem with rfl | rfl | rfl | rfl | rfl | rfl <;> rfl

/-- The worlds are the same but for their databases. -/
structure SameBut (r : Database N → Database N → Prop) (w w' : World F N Lab) :
    Prop where
  db : r w.db w'.db
  lab : w.lab = w'.lab
  now : w.now = w'.now
  renderMs : w.renderMs = w'.renderMs
  elapsedMs : w.elapsedMs = w'.elapsedMs

/-- A tool that reads its arguments and returns is answered with its value. -/
theorem coreEntry_ok {α β : Type} (definition : ToolDefinition N)
    {fromValue : Value N → Input N α}
    {tool : World F N Lab → TenantId → α → Outcome β} (toValue : β → Value N)
    {args : Value N} {input : α} {tenant : TenantId} {w : World F N Lab} {b : β}
    (hargs : fromValue args = .ok input) (htool : tool w tenant input = .ok b) :
    (coreEntry server definition fromValue tool toValue).run args tenant w =
      (.ok (toValue b), w) := by
  show ((fromValue args).mapError _ >>= fun input =>
    (tool w tenant input).mapError _ >>= fun b => pure (toValue b), w) = _
  rw [hargs]
  show ((tool w tenant input).mapError _ >>= _, w) = _
  rw [htool]
  rfl

/-- A tool that answers alike in both worlds is answered alike. -/
theorem coreEntry_congr {α β : Type} (definition : ToolDefinition N)
    (fromValue : Value N → Input N α)
    {tool : World F N Lab → TenantId → α → Outcome β} (toValue : β → Value N)
    {tenant : TenantId} {w w' : World F N Lab}
    (h : ∀ input, tool w tenant input = tool w' tenant input)
    (args : Value N) :
    ((coreEntry server definition fromValue tool toValue).run args tenant w).1 =
      ((coreEntry server definition fromValue tool toValue).run args tenant
        w').1 := by
  simp only [coreEntry, h]

/-- **What a tenant's call answers depends on its own rows only**, and on the
lab and the clock. -/
theorem registry_call_congr {tenant : TenantId}
    {w w' : World F N Lab} (h : SameBut (AgreeOn tenant) w w') (name : Text)
    (args : Value N) :
    ((build server).call name args tenant w).1 =
      ((build server).call name args tenant w').1 := by
  have hsame := sameTools_of_sameReads server.f64 server.h3o server.pair
    server.crypto server.serde
    (sameReads_of_agreeOn server.f64 server.h3o server.pair h.db)
  unfold ToolRegistry.call
  cases hfind : (build server).tools.find? fun t => t.definition.name == name with
  | none => rfl
  | some entry =>
      have hmem := List.mem_of_find?_eq_some hfind
      simp only [build, List.mem_cons, List.not_mem_nil, or_false] at hmem
      rcases hmem with rfl | rfl | rfl | rfl | rfl | rfl
      · refine coreEntry_congr server _ _ _ (fun input => ?_) args
        rw [h.renderMs]
        exact hsame.renderViewport input _
      · exact coreEntry_congr server _ _ _ (fun input =>
          hsame.getCellState input) args
      · exact coreEntry_congr server _ _ _ (fun input =>
          hsame.queryCellsInRegion input) args
      · exact coreEntry_congr server _ _ _ (fun input =>
          hsame.getProvenance input) args
      · refine coreEntry_congr server _ _ _ (fun input => ?_) args
        rw [h.now]
        exact hsame.verifyAttestation _ input
      · show server.queryPredictions w.lab args =
          server.queryPredictions w'.lab args
        rw [h.lab]

end Registry

end RenderEngine.Ports.RegistryBuild
