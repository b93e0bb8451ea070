import RenderEngine.Ports.CoreTypes
import RenderEngine.Ports.SerdeValue

/-!
# The messages of MCP (`mcp.rs`) and the tool registry (`tools.rs`)

Requests are decoded from values by their derived `Deserialize`, responses
written as values by their derived `Serialize`.  A tool is any function of its
arguments, the tenant and the world `W` it reads and changes.
-/

namespace RenderEngine.Ports.Mcp

open RenderEngine.Ports.CoreTypes
open RenderEngine.Ports.RustStd
open RenderEngine.Ports.Serde

/-! ## The JSON-RPC envelope -/

structure JsonRpcRequest (N : Type) where
  jsonrpc : Text
  method : Text
  params : Option (Value N)
  /-- `none` is a notification -/
  id : Option (Value N)

structure JsonRpcError (N : Type) where
  code : Int
  message : Text
  data : Option (Value N)

structure JsonRpcResponse (N : Type) where
  result : Option (Value N)
  error : Option (JsonRpcError N)
  id : Value N

/-- The version every message names. -/
def jsonrpcVersion : Text := "2.0".toList

namespace JsonRpcError

def parseError : Int := -32700
def invalidRequest : Int := -32600
def methodNotFound : Int := -32601
def invalidParams : Int := -32602
def rateLimited : Int := -32029

end JsonRpcError

section Messages

variable {N : Type}

/-- `JsonRpcError::new`. -/
def JsonRpcError.new (code : Int) (message : Text) : JsonRpcError N where
  code := code
  message := message
  data := none

/-- `JsonRpcResponse::ok`. -/
def JsonRpcResponse.ok (id result : Value N) : JsonRpcResponse N where
  result := some result
  error := none
  id := id

/-- `JsonRpcResponse::err`. -/
def JsonRpcResponse.err (id : Value N) (e : JsonRpcError N) :
    JsonRpcResponse N where
  result := none
  error := some e
  id := id

/-- Exactly one of `result` and `error`. -/
def JsonRpcResponse.OneOutcome (r : JsonRpcResponse N) : Prop :=
  (r.result.isSome ∧ r.error = none) ∨ (r.result = none ∧ r.error.isSome)

/-! ## Decoding -/

/-- The members of an object come in the order of their keys: a wrong type in
`jsonrpc` is met before one in `method`, and both before a missing member. -/
def JsonRpcRequest.fromObject (ms : List (Text × Value N)) :
    Except (DecodeError N) (JsonRpcRequest N) := do
  let jsonrpc ← stringMember ms "jsonrpc".toList
  let method ← stringMember ms "method".toList
  let jsonrpc ← okOr (.missingField "jsonrpc".toList) jsonrpc
  let method ← okOr (.missingField "method".toList) method
  return {
    jsonrpc := jsonrpc
    method := method
    params := (ms.lookup "params".toList).bind decodeOption
    id := (ms.lookup "id".toList).bind decodeOption }

/-- Of the four elements only `params` has a default. -/
def JsonRpcRequest.fromArray (xs : List (Value N)) :
    Except (DecodeError N) (JsonRpcRequest N) := do
  let expected := "struct JsonRpcRequest with 4 elements".toList
  let jsonrpc ← decodeString (← element xs 0 expected)
  let method ← decodeString (← element xs 1 expected)
  let id ← element xs 3 expected
  noMoreThan xs 4
  return {
    jsonrpc := jsonrpc
    method := method
    params := xs[2]?.bind decodeOption
    id := decodeOption id }

def JsonRpcRequest.fromValue :
    Value N → Except (DecodeError N) (JsonRpcRequest N) :=
  decodeStruct "JsonRpcRequest".toList fromObject fromArray

structure ToolsCallParams (N : Type) where
  name : Text
  arguments : Value N

def ToolsCallParams.fromObject (ms : List (Text × Value N)) :
    Except (DecodeError N) (ToolsCallParams N) := do
  let name ← stringMember ms "name".toList
  let name ← okOr (.missingField "name".toList) name
  return {
    name := name
    arguments := (ms.lookup "arguments".toList).getD Value.null }

def ToolsCallParams.fromArray (xs : List (Value N)) :
    Except (DecodeError N) (ToolsCallParams N) := do
  let expected := "struct ToolsCallParams with 2 elements".toList
  let name ← decodeString (← element xs 0 expected)
  noMoreThan xs 2
  return {
    name := name
    arguments := xs[1]?.getD Value.null }

def ToolsCallParams.fromValue :
    Value N → Except (DecodeError N) (ToolsCallParams N) :=
  decodeStruct "ToolsCallParams".toList fromObject fromArray

/-! ## Results -/

def protocolVersion : Text := "2024-11-05".toList
def serverName : Text := "mobydb-render-engine".toList
def serverVersion : Text := "0.1.0".toList

/-- `InitializeResult`, as `handle_initialize` fills it. -/
def initializeResult : Value N :=
  Value.object
    [ ("protocolVersion".toList, Value.string protocolVersion)
    , ("capabilities".toList, Value.object
        [("tools".toList,
          Value.object [("listChanged".toList, Value.bool false)])])
    , ("serverInfo".toList, Value.object
        [ ("name".toList, Value.string serverName)
        , ("version".toList, Value.string serverVersion) ]) ]

structure ToolDefinition (N : Type) where
  name : Text
  description : Text
  inputSchema : Value N

def ToolDefinition.toValue (d : ToolDefinition N) : Value N :=
  Value.object
    [ ("name".toList, Value.string d.name)
    , ("description".toList, Value.string d.description)
    , ("inputSchema".toList, d.inputSchema) ]

/-- `ToolsListResult`. -/
def toolsListResult (tools : List (ToolDefinition N)) : Value N :=
  Value.object
    [("tools".toList, Value.array (tools.map ToolDefinition.toValue))]

structure ToolsCallMeta (N : Type) where
  /-- an `f64`, as it is written -/
  renderMs : Value N
  tool : Text

/-- `ToolsCallResult`, its one block of content as its text. -/
structure ToolsCallResult (N : Type) where
  text : Text
  isError : Option Bool
  info : Option (ToolsCallMeta N)

/-- `ToolsCallResult::text_json`. -/
def ToolsCallResult.textJson (serde : SerdeText N) (v : Value N) :
    ToolsCallResult N where
  text := (lexicon serde).render v.tree
  isError := none
  info := none

/-- `ToolsCallResult::error`. -/
def ToolsCallResult.error (message : Text) : ToolsCallResult N where
  text := message
  isError := some true
  info := none

def ToolsCallResult.toValue (r : ToolsCallResult N) : Value N :=
  Value.object
    ([("content".toList, Value.array
        [Value.object
          [ ("type".toList, Value.string "text".toList)
          , ("text".toList, Value.string r.text) ]])]
      ++ (r.isError.map fun b => ("isError".toList, Value.bool b)).toList
      ++ (r.info.map fun m => ("_meta".toList, Value.object
          [ ("render_ms".toList, m.renderMs)
          , ("tool".toList, Value.string m.tool) ])).toList)

/-- `to_value` of an error, with how an integer becomes a number. -/
def JsonRpcError.toValue (fromI64 : Int → N) (e : JsonRpcError N) : Value N :=
  Value.object
    ([ ("code".toList, Value.number (fromI64 e.code))
     , ("message".toList, Value.string e.message) ]
      ++ (e.data.map fun d => ("data".toList, d)).toList)

/-- `to_value` of a response. -/
def JsonRpcResponse.toValue (fromI64 : Int → N) (r : JsonRpcResponse N) :
    Value N :=
  Value.object
    ([("jsonrpc".toList, Value.string jsonrpcVersion)]
      ++ (r.result.map fun v => ("result".toList, v)).toList
      ++ (r.error.map fun e => ("error".toList, e.toValue fromI64)).toList
      ++ [("id".toList, r.id)])

end Messages

/-! ## The registry -/

structure ToolEntry (W N : Type) where
  definition : ToolDefinition N
  run : Value N → TenantId → W → Except (JsonRpcError N) (Value N) × W

structure ToolRegistry (W N : Type) where
  tools : List (ToolEntry W N)

section Registry

variable {W N : Type}

def ToolRegistry.list (r : ToolRegistry W N) : List (ToolDefinition N) :=
  r.tools.map ToolEntry.definition

/-- `call`: the first tool of this name. -/
def ToolRegistry.call (r : ToolRegistry W N) (name : Text) (args : Value N)
    (tenant : TenantId) (w : W) : Except (JsonRpcError N) (Value N) × W :=
  match r.tools.find? fun t => t.definition.name == name with
  | some entry => entry.run args tenant w
  | none =>
      (.error (.new JsonRpcError.methodNotFound
        ("unknown tool: ".toList ++ name)), w)

end Registry

end RenderEngine.Ports.Mcp
