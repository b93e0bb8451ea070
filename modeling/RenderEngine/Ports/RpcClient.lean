import RenderEngine.Ports.CanonicalJson
import RenderEngine.Ports.McpHandler
import RenderEngine.Ports.RequestText

/-!
# The clients of `tools/call` (`demo/app.js`, `demo/lab_overlay.js`, `client.ts`)

Three clients send the same request and take the reply apart in the same
order: the status, the error of the protocol, the error of the tool, and the
text of the result, which is parsed a second time.  Here the clients run
against the extractor and the handler, texts and all.

## Main results

* `receive_toolsCallBody`: what the server reads of a client's request.
* `mcpHandler_toolsCall`: what the server replies to it.
* `clients_served`: what each client makes of the reply.
-/

namespace RenderEngine.Ports.RpcClient

open RenderEngine.Ports.CoreTypes
open RenderEngine.Ports.RustStd
open RenderEngine.Ports.Serde
open RenderEngine.Ports.JavaScript
open RenderEngine.Ports.JavaScriptJson
open RenderEngine.Ports.LabAcceptance (plainEngine)
open RenderEngine.Ports.Auth
open RenderEngine.Ports.CanonicalJson (nestedArrays depth_nestedArrays)
open RenderEngine.Ports.Mcp
open RenderEngine.Ports.McpDispatch
open RenderEngine.Ports.McpHandler
open RenderEngine.Ports.RequestText
open RenderEngine.Ports.WireText
open RenderEngine.Verified.JsonGrammar

/-! ## Responses of `fetch` -/

structure HttpResponse where
  status : UInt16
  /-- `resp.text()` -/
  text : JsString

/-- `resp.ok` -/
def HttpResponse.ok (resp : HttpResponse) : Bool :=
  decide (200 ≤ resp.status.toNat ∧ resp.status.toNat ≤ 299)

/-- `HTTP ${resp.status}` -/
def HttpResponse.statusText (resp : HttpResponse) : JsString :=
  js "HTTP " ++ ofText (decimal resp.status.toNat)

/-- `resp.status` -/
def HttpResponse.statusNumber {F : Type} (resp : HttpResponse) : JsNumber F :=
  .int ⟨resp.status.toNat, by
    have hlt := resp.status.toNat_lt
    simp only [isSafe, decide_eq_true_eq, Int.natAbs_natCast]
    omega⟩

/-- A reply of the server, as it arrives. -/
def arrived {N : Type} (sj : SerdeText N) (reply : Reply N) :
    HttpResponse where
  status := UInt16.ofNat reply.status
  text := jsText (match reply.body with
    | .empty => []
    | .text s => s
    | .json v => (lexicon sj).render v.tree)

section Clients

variable {F : Type} (en : Engine F)

/-! ## Accesses -/

/-- `v?.k` -/
def optionalMember (v : JsValue F) (k : JsString) : JsValue F :=
  if v.nullish then .undefined else v.member k

/-- The property `0` of a value that has properties. -/
def first (v : JsValue F) : JsValue F :=
  match v with
  | .array items => items.head?.getD .undefined
  | .string s => (s.head?.map fun u => .string [u]).getD .undefined
  | v => v.member (js "0")

/-- `v?.[0]` -/
def optionalFirst (v : JsValue F) : JsValue F :=
  if v.nullish then .undefined else first v

/-- `v[0]` -/
def getFirst (v : JsValue F) : Throws (JsValue F) :=
  if v.nullish then .error (en.nullAccess (js "0")) else .ok (first v)

/-- `a ?? b` -/
def coalesce (a b : JsValue F) : JsValue F := if a.nullish then b else a

/-- `JSON.parse(v)` -/
def parseText (v : JsValue F) : Throws (JsValue F) := do
  jsonParse en (← v.toText en)

/-! ## The request -/

/-- The body that every client sends.  (The TypeScript client counts its ids
from 1.) -/
def toolsCallBody (id : JsNumber F) (name : JsString)
    (args : Json (JsNumber F) JsString) : JsString :=
  jsonText en.toNumerals (.obj
    [ (js "jsonrpc", .str (js "2.0")), (js "id", .num id)
    , (js "method", .str (js "tools/call"))
    , (js "params", .obj [(js "name", .str name), (js "arguments", args)]) ])

/-! ## The demo page -/

namespace Demo

/-- `mcpCall`, from the response on: `{ inner, server_ms }`. -/
def mcpCall (resp : HttpResponse) : Throws (JsValue F × JsValue F) := do
  if !resp.ok then
    .error ⟨resp.statusText ++ js ": " ++ resp.text⟩
  else
    let rpc ← jsonParse en resp.text
    let error ← rpc.get en (js "error")
    if error.truthy then
      let code ← (← error.get en (js "code")).toText en
      let message ← (← error.get en (js "message")).toText en
      .error ⟨code ++ js ": " ++ message⟩
    else
      let result ← rpc.get en (js "result")
      let isError ← result.get en (js "isError")
      if isError.truthy then
        let content ← result.get en (js "content")
        let text := optionalMember (optionalFirst content) (js "text")
        let message ← (text.orElse (.string (js "tool error"))).toText en
        .error ⟨message⟩
      else
        let serverMs := coalesce
          (optionalMember (← result.get en (js "_meta")) (js "render_ms"))
          (.number (.int ⟨0, rfl⟩))
        let item ← getFirst en (← result.get en (js "content"))
        let inner ← parseText en (← item.get en (js "text"))
        return (inner, serverMs)

end Demo

/-! ## The lab overlay -/

namespace LabOverlay

/-- `queryPredictions` of the overlay, from the response on. -/
def queryPredictions (resp : HttpResponse) : Throws (JsValue F) := do
  if !resp.ok then .error ⟨resp.statusText⟩
  else
    let rpc ← jsonParse en resp.text
    let error ← rpc.get en (js "error")
    if error.truthy then
      let code ← (← error.get en (js "code")).toText en
      let message ← (← error.get en (js "message")).toText en
      .error ⟨js "MCP " ++ code ++ js ": " ++ message⟩
    else
      let result ← rpc.get en (js "result")
      let isError ← result.get en (js "isError")
      if isError.truthy then
        let content ← result.get en (js "content")
        let text := optionalMember (optionalFirst content) (js "text")
        let message ← (text.orElse (.string (js "tool error"))).toText en
        .error ⟨message⟩
      else
        let item ← getFirst en (← result.get en (js "content"))
        parseText en (← item.get en (js "text"))

end LabOverlay

/-! ## The TypeScript client -/

namespace Client

/-- What `call` rejects with: a `MobyDbError`, with the arguments it is made
from, or an error of the engine. -/
inductive CallError (F : Type) where
  | mobyDb (code message data : JsValue F)
  | engine (e : JsError)

/-- A step that may throw an error of the engine. -/
def engine {α : Type} (x : Throws α) : Except (CallError F) α :=
  x.mapError .engine

/-- `call`, from the response on. -/
def call (resp : HttpResponse) : Except (CallError F) (JsValue F) := do
  if !resp.ok then
    .error (.mobyDb (.number resp.statusNumber)
      (.string (resp.statusText ++ js ": " ++ resp.text)) .undefined)
  else
    let rpc ← engine (jsonParse en resp.text)
    let error ← engine (rpc.get en (js "error"))
    if error.truthy then
      .error (.mobyDb (error.member (js "code")) (error.member (js "message"))
        (error.member (js "data")))
    else
      let result ← engine (rpc.get en (js "result"))
      if !result.truthy then
        .error (.mobyDb (.number (.int ⟨-32603, rfl⟩))
          (.string (js "malformed response: missing result")) .undefined)
      else if (result.member (js "isError")).truthy then
        .error (.mobyDb (.number (.int ⟨-32000, rfl⟩))
          (coalesce (optionalMember
              (optionalFirst (result.member (js "content"))) (js "text"))
            (.string (js "tool error"))) .undefined)
      else
        engine (parseText en (coalesce
          (optionalMember (optionalFirst (result.member (js "content")))
            (js "text"))
          (.string (js "{}"))))

end Client

end Clients

/-! ## Values of the server in the browser -/

section Served

variable {F N : Type} {en : Engine F} {sj : SerdeText N}
variable (number : N → JsNumber F)

theorem member_object (ms : List (Text × Value N)) (k : String) :
    (browserValue number (Value.object ms)).member (js k) =
      ((ms.reverse.lookup k.toList).map (browserValue number)).getD
        .undefined := by
  rw [← Value.get_object]
  exact member_browserValue number _ _

theorem object_nullish (ms : List (Text × Value N)) :
    (browserValue number (Value.object ms)).nullish = false := rfl

section Members

variable (fromI64 : Int → N)

/-- A response with a result has no error. -/
theorem member_ok (id v : Value N) :
    (browserValue number ((JsonRpcResponse.ok id v).toValue fromI64)).member
        (js "error") = .undefined ∧
      (browserValue number ((JsonRpcResponse.ok id v).toValue
        fromI64)).member (js "result") = browserValue number v :=
  ⟨member_object number _ "error", member_object number _ "result"⟩

theorem member_err (id : Value N) (e : JsonRpcError N) :
    (browserValue number ((JsonRpcResponse.err id e).toValue fromI64)).member
      (js "error") = browserValue number (e.toValue fromI64) :=
  member_object number _ "error"

/-- The members of an error. -/
theorem member_error (e : JsonRpcError N) :
    (browserValue number (e.toValue fromI64)).member (js "code") =
        .number (number (fromI64 e.code)) ∧
      (browserValue number (e.toValue fromI64)).member (js "message") =
        .string (jsText e.message) ∧
      (browserValue number (e.toValue fromI64)).member (js "data") =
        (e.data.map (browserValue number)).getD .undefined := by
  unfold JsonRpcError.toValue
  cases e.data with
  | none =>
      exact ⟨member_object number _ "code", member_object number _ "message",
        member_object number _ "data"⟩
  | some d =>
      exact ⟨member_object number _ "code", member_object number _ "message",
        member_object number _ "data"⟩

/-- The members of the result of a tool. -/
theorem member_result (r : ToolsCallResult N) :
    (browserValue number r.toValue).member (js "isError") =
        (r.isError.map .bool).getD .undefined ∧
      (browserValue number r.toValue).member (js "_meta") =
        (r.info.map fun m => browserValue number (Value.object
          [ ("render_ms".toList, m.renderMs)
          , ("tool".toList, Value.string m.tool) ])).getD .undefined ∧
      ∃ item, (browserValue number r.toValue).member (js "content") =
          .array [item] ∧ item.nullish = false ∧
        item.member (js "text") = .string (jsText r.text) := by
  have hcontent : ∀ ms : List (Text × Value N),
      ms.reverse.lookup "content".toList = some (Value.array
        [Value.object
          [ ("type".toList, Value.string "text".toList)
          , ("text".toList, Value.string r.text) ]]) →
      ∃ item, (browserValue number (Value.object ms)).member (js "content") =
          .array [item] ∧ item.nullish = false ∧
        item.member (js "text") = .string (jsText r.text) := by
    intro ms hms
    refine ⟨browserValue number (Value.object
      [ ("type".toList, Value.string "text".toList)
      , ("text".toList, Value.string r.text) ]), ?_, rfl,
      member_object number _ "text"⟩
    rw [member_object, hms, Option.map_some, Option.getD_some,
      browserValue_array]
    rfl
  unfold ToolsCallResult.toValue
  cases r.isError <;> cases r.info <;>
    exact ⟨member_object number _ "isError", member_object number _ "_meta",
      hcontent _ rfl⟩

end Members

end Served

/-! ## What the server makes of a call -/

section Served

variable {F N W JwkSet Jwk DecodingKey : Type}
variable {en : Engine F} {value : FiniteNumber F → N}

/-- The request of a client, from its numbers and texts. -/
def toolsCallTree (id : FiniteNumber F) (name : Text)
    (args : Json (FiniteNumber F) Text) : Json (FiniteNumber F) Text :=
  .obj
    [ ("jsonrpc".toList, .str "2.0".toList), ("id".toList, .num id)
    , ("method".toList, .str "tools/call".toList)
    , ("params".toList,
        .obj [("name".toList, .str name), ("arguments".toList, args)]) ]

theorem toolsCallBody_eq (id : FiniteNumber F) (name : Text)
    (args : Json (FiniteNumber F) Text) :
    toolsCallBody en id.val (jsText name) (browserTree args) =
      jsonText en.toNumerals (browserTree (toolsCallTree id name args)) := rfl

/-- A request nests two containers around its arguments. -/
theorem depth_toolsCallTree (id : FiniteNumber F) (name : Text)
    (args : Json (FiniteNumber F) Text) :
    (toolsCallTree id name args).depth = args.depth + 2 := by
  simp [toolsCallTree, Json.depth, membersDepth]

/-- **What the server reads of a client's request.** -/
theorem receive_toolsCallBody {sj : SerdeText N} (h : ReadsBrowser en sj value)
    (id : FiniteNumber F) (name : Text) {args : Json (FiniteNumber F) Text}
    (hdepth : args.depth + 2 < recursionLimit) :
    receive sj (toolsCallBody en id.val (jsText name) (browserTree args)) =
      some (serverValue value (toolsCallTree id name args)) := by
  rw [toolsCallBody_eq, receive_jsonText h, depth_toolsCallTree,
    if_pos hdepth]

theorem toolsCallParams_of_members {raw : Value N} {name : Text}
    (hname : raw.get "name".toList = some (Value.string name)) :
    ToolsCallParams.fromValue raw = .ok {
      name := name
      arguments := (raw.get "arguments".toList).getD Value.null } := by
  unfold Value.get at *
  unfold ToolsCallParams.fromValue decodeStruct
  cases hobject : raw.asObject with
  | none =>
      rw [hobject] at hname
      cases hname
  | some ms =>
      rw [hobject, Option.bind_some] at hname
      simp only [ToolsCallParams.fromObject, stringMember, hname]
      rfl

theorem runMethod_toolsCall (wire : Wire W N) (tools : ToolRegistry W N)
    (tenant : TenantId) {req : JsonRpcRequest N}
    (hmethod : req.method = "tools/call".toList) (w : W) :
    runMethod wire tools tenant req w =
      (some (handleToolsCall wire tools tenant req w).1,
        (handleToolsCall wire tools tenant req w).2) := by
  unfold runMethod
  rw [hmethod]
  rfl

/-- The request decodes, with its id and its params. -/
theorem toolsCall_decodes (id : FiniteNumber F) (name : Text)
    (args : Json (FiniteNumber F) Text) :
    ∃ params : Value N,
      JsonRpcRequest.fromValue (serverValue value (toolsCallTree id name args)) =
        .ok { jsonrpc := jsonrpcVersion
              method := "tools/call".toList
              params := some params
              id := some (Value.number (value id)) } ∧
      ToolsCallParams.fromValue params =
        .ok { name := name, arguments := serverValue value args } := by
  have hmembers : serverValue value (toolsCallTree id name args) = _ :=
    serverValue_obj _
  have hget : ∀ k : Text,
      (serverValue value (toolsCallTree id name args)).get k = _ :=
    fun k => (congrArg (fun v => Value.get v k) hmembers).trans
      (Value.get_object _ k)
  have hversion : (serverValue value (toolsCallTree id name args)).get
      "jsonrpc".toList = some (Value.string "2.0".toList) := hget _
  have hmethod : (serverValue value (toolsCallTree id name args)).get
      "method".toList = some (Value.string "tools/call".toList) := hget _
  have hparams : serverValue value
      (.obj [("name".toList, .str name), ("arguments".toList, args)]) = _ :=
    serverValue_obj _
  have hname : (serverValue value
      (.obj [("name".toList, .str name), ("arguments".toList, args)])).get
        "name".toList = some (Value.string name) :=
    (congrArg (fun v => Value.get v _) hparams).trans (Value.get_object _ _)
  refine ⟨serverValue value
    (.obj [("name".toList, .str name), ("arguments".toList, args)]), ?_, ?_⟩
  · rw [fromValue_of_members hversion hmethod, hget, hget]
    rfl
  · rw [toolsCallParams_of_members hname, hparams, Value.get_object]
    rfl

variable (app : AppState W JwkSet Jwk DecodingKey N)

variable (value) in
/-- **What the server replies to a call that it admits**: the outcome of the
tool, under the id of the request. -/
theorem mcpHandler_toolsCall {provider : Provider JwkSet} {now : Nat}
    {s : Shared W JwkSet} {headers : HeaderMap} {ctx : AuthContext}
    {jwks : Option (CachedJwks JwkSet)}
    (hauth : authenticate app.auth app.cfg provider s.jwks headers =
      (.ok ctx, jwks))
    (hadmitted : isRefused ctx.scheme now s.demoLimiter = false)
    (id : FiniteNumber F) (name : Text) (args : Json (FiniteNumber F) Text) :
    let called := app.tools.call name (serverValue value args) ctx.tenant
      s.world
    mcpHandler app provider now s headers
        (serverValue value (toolsCallTree id name args)) =
      (.json ((answer (Value.number (value id)) (callOutcome app.wire name
          (app.wire.elapsedMs s.world called.2) called.1)).toValue
            app.wire.fromI64),
        { jwks := jwks
          demoLimiter := (consume ctx.scheme now s.demoLimiter).2
          world := called.2 }) := by
  intro called
  obtain ⟨params, hreq, hparams⟩ := toolsCall_decodes id name args
  have hone : dispatchOne app.wire app.tools ctx.tenant
      (serverValue value (toolsCallTree id name args)) s.world =
      (some (answer (Value.number (value id)) (callOutcome app.wire name
        (app.wire.elapsedMs s.world called.2) called.1)), called.2) := by
    have hcall : handleToolsCall app.wire app.tools ctx.tenant
        { jsonrpc := jsonrpcVersion
          method := "tools/call".toList
          params := some params
          id := some (Value.number (value id)) } s.world =
        (callOutcome app.wire name (app.wire.elapsedMs s.world called.2)
          called.1, called.2) := by
      simp only [handleToolsCall, hparams]
      rfl
    rw [dispatchOne_request _ _ _ hreq rfl, runMethod_toolsCall _ _ _ rfl,
      hcall]
    rfl
  rw [mcpHandler_of_admitted app hauth hadmitted, messages_of_single rfl,
    responses_cons, hone]
  rfl

/-! ## What the clients make of the reply -/

/-- The errors that `tools/call` leaves errors of the protocol. -/
def isProtocolError (e : JsonRpcError N) : Bool :=
  decide (e.code = JsonRpcError.methodNotFound
    ∨ e.code = JsonRpcError.invalidParams)

section Delivered

variable (number : N → JsNumber F)

/-- What the demo page makes of the outcome of a tool. -/
def Demo.delivered (renderMs : Value N) :
    Except (JsonRpcError N) (Value N) → Throws (JsValue F × JsValue F)
  | .ok v =>
      .ok (browserValue number v,
        coalesce (browserValue number renderMs) (.number (.int ⟨0, rfl⟩)))
  | .error e =>
      if isProtocolError e
      then .error ⟨ofText (intDecimal e.code) ++ js ": " ++ jsText e.message⟩
      else .error ⟨if e.message = [] then js "tool error"
        else jsText e.message⟩

/-- What the lab overlay makes of it. -/
def LabOverlay.delivered :
    Except (JsonRpcError N) (Value N) → Throws (JsValue F)
  | .ok v => .ok (browserValue number v)
  | .error e =>
      if isProtocolError e
      then .error ⟨js "MCP " ++ ofText (intDecimal e.code) ++ js ": "
        ++ jsText e.message⟩
      else .error ⟨if e.message = [] then js "tool error"
        else jsText e.message⟩

/-- What the TypeScript client makes of it. -/
def Client.delivered (fromI64 : Int → N) :
    Except (JsonRpcError N) (Value N) →
      Except (Client.CallError F) (JsValue F)
  | .ok v => .ok (browserValue number v)
  | .error e =>
      if isProtocolError e
      then .error (.mobyDb (.number (number (fromI64 e.code)))
        (.string (jsText e.message))
        ((e.data.map (browserValue number)).getD .undefined))
      else .error (.mobyDb (.number (.int ⟨-32000, rfl⟩))
        (.string (jsText e.message)) .undefined)

end Delivered

/-- How the two sides of the wire understand each other's numbers. -/
structure Understand (en : Engine F) (sj : SerdeText N) (fromI64 : Int → N)
    (number : N → JsNumber F) (value : FiniteNumber F → N) : Prop where
  reply : ReadsSerde en sj number
  request : ReadsBrowser en sj value
  /-- integers are written in decimal -/
  integer : ∀ i : SafeInteger, sj.number (fromI64 i.val) = intDecimal i.val
  /-- and read back, whatever becomes of floats -/
  readsInteger : ∀ i : SafeInteger, ReadsBack sj (fromI64 i.val)

variable {number : N → JsNumber F} {sj : SerdeText N} {fromI64 : Int → N}

/-- The browser reads a safe integer of the server as that integer. -/
theorem Understand.number_fromI64
    (h : Understand en sj fromI64 number value) (i : SafeInteger) :
    number (fromI64 i.val) = .int i := by
  have hread := h.reply.readNumber (fromI64 i.val)
  have htext : jsText (sj.number (fromI64 i.val)) =
      numberText en.toNumerals (.int i) := by
    rw [jsText_number, h.integer]
    rfl
  rw [htext, readNumber_numberText] at hread
  exact (Option.some.inj hread).symm

theorem get_of_not_nullish {v : JsValue F} (h : v.nullish = false)
    (k : JsString) : v.get en k = .ok (v.member k) :=
  (JsValue.get_eq_ok_iff en).mpr ⟨h, rfl⟩

/-- A reply with a response, as its text arrives. -/
theorem arrived_parse (h : ReadsSerde en sj number) (v : Value N) :
    (arrived sj (.json v)).ok = true ∧
      jsonParse en (arrived sj (.json v)).text =
        .ok (browserValue number v) :=
  ⟨rfl, jsonParse_render h v⟩

/-- The code of an error of the protocol, in a template. -/
theorem protocol_code (h : Understand en sj fromI64 number value)
    {e : JsonRpcError N} (hprotocol : isProtocolError e = true) :
    (JsValue.number (number (fromI64 e.code))).toText en =
      .ok (ofText (intDecimal e.code)) := by
  have hsafe : isSafe e.code = true := by
    simp only [isProtocolError, decide_eq_true_eq] at hprotocol
    rcases hprotocol with hcode | hcode <;> rw [hcode] <;> rfl
  rw [h.number_fromI64 ⟨e.code, hsafe⟩]
  rfl

/-! ### Responses -/

/-- A response with a result whose content is one text. -/
structure HasResult (rpc result : JsValue F) (text : JsString) : Prop where
  rpc_nullish : rpc.nullish = false
  no_error : rpc.member (js "error") = .undefined
  result_eq : rpc.member (js "result") = result
  result_truthy : result.truthy = true
  result_nullish : result.nullish = false
  content : ∃ item, result.member (js "content") = .array [item] ∧
    item.nullish = false ∧ item.member (js "text") = .string text

/-- A response with an error of the protocol. -/
structure HasError (rpc error code message : JsValue F) : Prop where
  rpc_nullish : rpc.nullish = false
  error_eq : rpc.member (js "error") = error
  error_truthy : error.truthy = true
  error_nullish : error.nullish = false
  code_eq : error.member (js "code") = code
  message_eq : error.member (js "message") = message

variable (number fromI64) in
theorem hasResult (id : Value N) (r : ToolsCallResult N) :
    HasResult
      (browserValue number ((JsonRpcResponse.ok id r.toValue).toValue fromI64))
      (browserValue number r.toValue) (jsText r.text) where
  rpc_nullish := rfl
  no_error := (member_ok number fromI64 id r.toValue).1
  result_eq := (member_ok number fromI64 id r.toValue).2
  result_truthy := rfl
  result_nullish := rfl
  content := (member_result number r).2.2

variable (number fromI64) in
theorem hasError (id : Value N) (e : JsonRpcError N) :
    HasError
      (browserValue number ((JsonRpcResponse.err id e).toValue fromI64))
      (browserValue number (e.toValue fromI64))
      (.number (number (fromI64 e.code))) (.string (jsText e.message)) where
  rpc_nullish := rfl
  error_eq := member_err number fromI64 id e
  error_truthy := rfl
  error_nullish := rfl
  code_eq := (member_error number fromI64 e).1
  message_eq := (member_error number fromI64 e).2.1

section Peeling

variable {resp : HttpResponse} {rpc result error : JsValue F}
variable {text code message : JsString} {codeValue : JsValue F}

theorem truthy_undefined : (JsValue.undefined : JsValue F).truthy = false := rfl

/-- The text of a result, by optional accesses. -/
theorem HasResult.optionalText (h : HasResult rpc result text) :
    optionalMember (optionalFirst (result.member (js "content"))) (js "text") =
      .string text := by
  obtain ⟨item, hcontent, hitem, htext⟩ := h.content
  rw [hcontent]
  show (if item.nullish then _ else _) = _
  rw [hitem]
  exact htext

variable (en) in
/-- The text of a result, by plain accesses. -/
theorem HasResult.getText (h : HasResult rpc result text) :
    ∃ item, getFirst en (result.member (js "content")) = .ok item ∧
      item.get en (js "text") = .ok (.string text) := by
  obtain ⟨item, hcontent, hitem, htext⟩ := h.content
  rw [hcontent]
  exact ⟨item, rfl, by rw [get_of_not_nullish hitem, htext]⟩

/-- The text of a tool's error, or the words for an empty one. -/
theorem orElse_toolError (text : JsString) :
    ((JsValue.string text : JsValue F).orElse
      (.string (js "tool error"))).toText en =
        .ok (if text = [] then js "tool error" else text) := by
  cases text <;> rfl

/-! The demo page. -/

theorem Demo.mcpCall_result (hok : resp.ok = true)
    (hparse : jsonParse en resp.text = .ok rpc)
    (h : HasResult rpc result text)
    (hisError : (result.member (js "isError")).truthy = false) :
    Demo.mcpCall en resp = (do
      let inner ← jsonParse en text
      return (inner, coalesce
        (optionalMember (result.member (js "_meta")) (js "render_ms"))
        (.number (.int ⟨0, rfl⟩)))) := by
  obtain ⟨item, hfirst, htext⟩ := h.getText en
  simp only [Demo.mcpCall, hok, Bool.not_true, Bool.false_eq_true, if_false,
    hparse, Throws.ok_bind, get_of_not_nullish h.rpc_nullish, h.no_error,
    truthy_undefined, h.result_eq, get_of_not_nullish h.result_nullish,
    hisError, hfirst, htext, parseText, JsValue.toText]

theorem Demo.mcpCall_toolError (hok : resp.ok = true)
    (hparse : jsonParse en resp.text = .ok rpc)
    (h : HasResult rpc result text)
    (hisError : (result.member (js "isError")).truthy = true) :
    Demo.mcpCall en resp =
      .error ⟨if text = [] then js "tool error" else text⟩ := by
  have hoptional := h.optionalText
  simp only [Demo.mcpCall, hok, Bool.not_true, Bool.false_eq_true, if_false,
    hparse, Throws.ok_bind, get_of_not_nullish h.rpc_nullish, h.no_error,
    truthy_undefined, h.result_eq, get_of_not_nullish h.result_nullish,
    hisError, hoptional, orElse_toolError, if_true]

theorem Demo.mcpCall_error (hok : resp.ok = true)
    (hparse : jsonParse en resp.text = .ok rpc)
    (h : HasError rpc error codeValue (.string message))
    (hcode : codeValue.toText en = .ok code) :
    Demo.mcpCall en resp = .error ⟨code ++ js ": " ++ message⟩ := by
  simp only [Demo.mcpCall, hok, Bool.not_true, Bool.false_eq_true, if_false,
    hparse, Throws.ok_bind, get_of_not_nullish h.rpc_nullish, h.error_eq,
    h.error_truthy, if_true, get_of_not_nullish h.error_nullish, h.code_eq,
    hcode, h.message_eq, JsValue.toText]

/-! The lab overlay. -/

theorem LabOverlay.queryPredictions_result (hok : resp.ok = true)
    (hparse : jsonParse en resp.text = .ok rpc)
    (h : HasResult rpc result text)
    (hisError : (result.member (js "isError")).truthy = false) :
    LabOverlay.queryPredictions en resp = jsonParse en text := by
  obtain ⟨item, hfirst, htext⟩ := h.getText en
  simp only [LabOverlay.queryPredictions, hok, Bool.not_true,
    Bool.false_eq_true, if_false, hparse, Throws.ok_bind,
    get_of_not_nullish h.rpc_nullish, h.no_error, truthy_undefined, h.result_eq,
    get_of_not_nullish h.result_nullish, hisError, hfirst, htext, parseText,
    JsValue.toText]

theorem LabOverlay.queryPredictions_toolError (hok : resp.ok = true)
    (hparse : jsonParse en resp.text = .ok rpc)
    (h : HasResult rpc result text)
    (hisError : (result.member (js "isError")).truthy = true) :
    LabOverlay.queryPredictions en resp =
      .error ⟨if text = [] then js "tool error" else text⟩ := by
  have hoptional := h.optionalText
  simp only [LabOverlay.queryPredictions, hok, Bool.not_true,
    Bool.false_eq_true, if_false, hparse, Throws.ok_bind,
    get_of_not_nullish h.rpc_nullish, h.no_error, truthy_undefined, h.result_eq,
    get_of_not_nullish h.result_nullish, hisError, hoptional, orElse_toolError,
    if_true]

theorem LabOverlay.queryPredictions_error (hok : resp.ok = true)
    (hparse : jsonParse en resp.text = .ok rpc)
    (h : HasError rpc error codeValue (.string message))
    (hcode : codeValue.toText en = .ok code) :
    LabOverlay.queryPredictions en resp =
      .error ⟨js "MCP " ++ code ++ js ": " ++ message⟩ := by
  simp only [LabOverlay.queryPredictions, hok, Bool.not_true,
    Bool.false_eq_true, if_false, hparse, Throws.ok_bind,
    get_of_not_nullish h.rpc_nullish, h.error_eq, h.error_truthy, if_true,
    get_of_not_nullish h.error_nullish, h.code_eq, hcode, h.message_eq,
    JsValue.toText]

/-! The TypeScript client. -/

theorem Client.engine_bind {α β : Type} (a : α)
    (f : α → Except (Client.CallError F) β) :
    (Client.engine (.ok a) >>= f) = f a := rfl

theorem Client.call_result (hok : resp.ok = true)
    (hparse : jsonParse en resp.text = .ok rpc)
    (h : HasResult rpc result text)
    (hisError : (result.member (js "isError")).truthy = false) :
    Client.call en resp = Client.engine (jsonParse en text) := by
  have hoptional := h.optionalText
  have hcoalesce : coalesce (.string text) (.string (js "{}")) =
      (.string text : JsValue F) := rfl
  simp only [Client.call, hok, Bool.not_true, Bool.false_eq_true, if_false,
    hparse, Client.engine_bind, get_of_not_nullish h.rpc_nullish, h.no_error,
    truthy_undefined, h.result_eq, h.result_truthy, hisError, hoptional,
    hcoalesce, parseText, JsValue.toText, Throws.ok_bind]

theorem Client.call_toolError (hok : resp.ok = true)
    (hparse : jsonParse en resp.text = .ok rpc)
    (h : HasResult rpc result text)
    (hisError : (result.member (js "isError")).truthy = true) :
    Client.call en resp = .error (.mobyDb (.number (.int ⟨-32000, rfl⟩))
      (.string text) .undefined) := by
  have hoptional := h.optionalText
  have hcoalesce : coalesce (.string text) (.string (js "tool error")) =
      (.string text : JsValue F) := rfl
  simp only [Client.call, hok, Bool.not_true, Bool.false_eq_true, if_false,
    hparse, Client.engine_bind, get_of_not_nullish h.rpc_nullish, h.no_error,
    truthy_undefined, h.result_eq, h.result_truthy, hisError, hoptional,
    hcoalesce, if_true]

theorem Client.call_error (hok : resp.ok = true)
    (hparse : jsonParse en resp.text = .ok rpc)
    (h : HasError rpc error codeValue (.string message)) :
    Client.call en resp = .error (.mobyDb codeValue (.string message)
      (error.member (js "data"))) := by
  simp only [Client.call, hok, Bool.not_true, Bool.false_eq_true, if_false,
    hparse, Client.engine_bind, get_of_not_nullish h.rpc_nullish, h.error_eq,
    h.error_truthy, if_true, h.code_eq, h.message_eq]

end Peeling

/-! ### The outcomes of a tool -/

section Outcomes

variable {wire : Wire W N}

/-- The reply to a call, as it arrives. -/
def replied (wire : Wire W N) (id : Value N) (name : Text) (renderMs : Value N)
    (outcome : Except (JsonRpcError N) (Value N)) : HttpResponse :=
  arrived wire.serde (.json
    ((answer id (callOutcome wire name renderMs outcome)).toValue wire.fromI64))

theorem jsText_eq_nil_iff (s : Text) : jsText s = [] ↔ s = [] :=
  ⟨fun h => jsText_injective h, fun h => congrArg jsText h⟩

/-- **What each client makes of each outcome.** -/
theorem delivered_replied
    (h : Understand en wire.serde wire.fromI64 number value) (id : Value N)
    (name : Text) (renderMs : Value N)
    (outcome : Except (JsonRpcError N) (Value N)) :
    Demo.mcpCall en (replied wire id name renderMs outcome) =
        Demo.delivered number renderMs outcome ∧
      LabOverlay.queryPredictions en (replied wire id name renderMs outcome) =
        LabOverlay.delivered number outcome ∧
      Client.call en (replied wire id name renderMs outcome) =
        Client.delivered number wire.fromI64 outcome := by
  cases outcome with
  | ok v =>
      -- the text of the result is parsed a second time
      have hinner := jsonParse_render h.reply v
      have hresult := hasResult number wire.fromI64 id
        { ToolsCallResult.textJson wire.serde v with
          info := some { renderMs := renderMs, tool := name } }
      have hmembers := member_result number
        { ToolsCallResult.textJson wire.serde v with
          info := some { renderMs := renderMs, tool := name } }
      obtain ⟨hok, hparse⟩ := arrived_parse h.reply
        ((JsonRpcResponse.ok id
          { ToolsCallResult.textJson wire.serde v with
            info := some { renderMs := renderMs, tool := name } }.toValue
          ).toValue wire.fromI64)
      have hisError := congrArg JsValue.truthy hmembers.1
      refine ⟨?_, ?_, ?_⟩
      · refine (Demo.mcpCall_result hok hparse hresult hisError).trans ?_
        have hms : optionalMember (browserValue number (Value.object
            [ ("render_ms".toList, renderMs)
            , ("tool".toList, Value.string name) ])) (js "render_ms") =
              browserValue number renderMs := by
          rw [optionalMember, object_nullish, if_neg Bool.false_ne_true]
          exact member_object number _ "render_ms"
        rw [hmembers.2.1]
        exact (congrArg (· >>= _) hinner).trans
          (congrArg (fun ms => Except.ok (browserValue number v, coalesce ms _))
            hms)
      · exact (LabOverlay.queryPredictions_result hok hparse hresult
          hisError).trans hinner
      · exact (Client.call_result hok hparse hresult hisError).trans
          (congrArg Client.engine hinner)
  | error e =>
      by_cases hprotocol : isProtocolError e = true
      · have houtcome : callOutcome wire name renderMs (.error e) =
            .error e := if_pos (of_decide_eq_true hprotocol)
        have herror := hasError number wire.fromI64 id e
        obtain ⟨hok, hparse⟩ := arrived_parse h.reply
          ((JsonRpcResponse.err id e).toValue wire.fromI64)
        have hcode := protocol_code h hprotocol
        rw [replied, houtcome]
        refine ⟨?_, ?_, ?_⟩
        · rw [Demo.delivered, if_pos hprotocol]
          exact Demo.mcpCall_error hok hparse herror hcode
        · rw [LabOverlay.delivered, if_pos hprotocol]
          exact LabOverlay.queryPredictions_error hok hparse herror hcode
        · rw [Client.delivered, if_pos hprotocol,
            ← (member_error number wire.fromI64 e).2.2]
          exact Client.call_error hok hparse herror
      · have houtcome : callOutcome wire name renderMs (.error e) =
            .ok (ToolsCallResult.error e.message).toValue :=
          if_neg fun hcode => hprotocol (decide_eq_true hcode)
        have hresult := hasResult number wire.fromI64 id
          (ToolsCallResult.error e.message)
        obtain ⟨hok, hparse⟩ := arrived_parse h.reply
          ((JsonRpcResponse.ok id
            (ToolsCallResult.error e.message).toValue).toValue wire.fromI64)
        have hisError := congrArg JsValue.truthy
          (member_result number (ToolsCallResult.error e.message)).1
        have htext : (if jsText e.message = [] then js "tool error"
            else jsText e.message) =
              if e.message = [] then js "tool error" else jsText e.message :=
          if_congr (jsText_eq_nil_iff e.message) rfl rfl
        rw [replied, houtcome]
        refine ⟨?_, ?_, ?_⟩
        · rw [Demo.delivered, if_neg hprotocol, ← htext]
          exact Demo.mcpCall_toolError hok hparse hresult hisError
        · rw [LabOverlay.delivered, if_neg hprotocol, ← htext]
          exact LabOverlay.queryPredictions_toolError hok hparse hresult
            hisError
        · rw [Client.delivered, if_neg hprotocol]
          exact Client.call_toolError hok hparse hresult hisError

end Outcomes

/-! ## Clients against the handler -/

/-- A request without valid credentials is turned away with 401. -/
theorem status_of_refused {lib : Auth.Libraries JwkSet Jwk DecodingKey N}
    {cfg : ServerConfig.Config} {provider : Provider JwkSet}
    {cache : Option (CachedJwks JwkSet)} {headers : HeaderMap} {e : AuthError}
    (h : (authenticate lib cfg provider cache headers).1 = .error e) :
    e.status = 401 := by
  have hkey : ∀ e, authenticateKey cfg headers = .error e → e.status = 401 := by
    intro e he
    unfold authenticateKey at he
    split_ifs at he with hconfigured hproduction
    · split at he
      · dsimp only at he
        split_ifs at he with hmain hdemo
        cases he
        rfl
      · cases he
        rfl
    · cases he
      rfl
  unfold authenticate at h
  by_cases hoauth : cfg.oauthEnabled = true
  · rw [if_pos hoauth] at h
    cases hbearer : extractBearer headers with
    | some token =>
        simp only [hbearer] at h
        cases hverify : (verifyOauth lib cfg provider cache token).1 with
        | error _ =>
            rw [hverify] at h
            cases h
            rfl
        | ok _ =>
            rw [hverify] at h
            cases h
    | none =>
        simp only [hbearer] at h
        split_ifs at h
        · cases h
          rfl
        · exact hkey e h
  · rw [if_neg hoauth] at h
    exact hkey e h

/-- Each client throws the status. -/
structure ThrowsStatus (en : Engine F) (resp : HttpResponse) : Prop where
  demo : Demo.mcpCall en resp =
    .error ⟨resp.statusText ++ js ": " ++ resp.text⟩
  labOverlay : LabOverlay.queryPredictions en resp = .error ⟨resp.statusText⟩
  client : Client.call en resp =
    .error (.mobyDb (.number resp.statusNumber)
      (.string (resp.statusText ++ js ": " ++ resp.text)) .undefined)

/-- What the clients make of a response that is not `ok`. -/
theorem throwsStatus_of_not_ok {resp : HttpResponse} (h : resp.ok = false) :
    ThrowsStatus en resp := by
  have hbranch : (!resp.ok) = true := by rw [h]; rfl
  exact ⟨if_pos hbranch, if_pos hbranch, if_pos hbranch⟩

/-- The handler admits the request. -/
def Admits (provider : Provider JwkSet) (now : Nat) (s : Shared W JwkSet)
    (headers : HeaderMap) (ctx : AuthContext) : Prop :=
  (authenticate app.auth app.cfg provider s.jwks headers).1 = .ok ctx ∧
    isRefused ctx.scheme now s.demoLimiter = false

/-- A request that is not admitted is turned away with 401 or 429. -/
theorem mcpHandler_of_not_admitted {provider : Provider JwkSet} {now : Nat}
    {s : Shared W JwkSet} {headers : HeaderMap}
    (hnot : ∀ ctx, ¬ Admits app provider now s headers ctx) (raw : Value N) :
    let served := mcpHandler app provider now s headers raw
    let resp := arrived app.wire.serde served.1
    (resp.status = 401 ∨ resp.status = 429) ∧ resp.ok = false ∧
      served.2.world = s.world := by
  cases hauth : authenticate app.auth app.cfg provider s.jwks headers with
  | mk result jwks =>
      cases result with
      | error e =>
          have hstatus : e.status = 401 :=
            status_of_refused (congrArg Prod.fst hauth)
          rw [mcpHandler_of_error app hauth]
          have hresp : (arrived app.wire.serde
              (Reply.refused e)).status = 401 := by
            show UInt16.ofNat e.status = 401
            rw [hstatus]
            rfl
          refine ⟨.inl hresp, ?_, rfl⟩
          show HttpResponse.ok (arrived app.wire.serde (Reply.refused e)) = _
          rw [HttpResponse.ok, hresp]
          rfl
      | ok ctx =>
          have hrefused : isRefused ctx.scheme now s.demoLimiter = true := by
            by_contra hadmitted
            exact hnot ctx ⟨congrArg Prod.fst hauth,
              Bool.eq_false_iff.mpr hadmitted⟩
          obtain ⟨retryAfterSec, limit, hhandled⟩ :=
            mcpHandler_of_refused app hauth hrefused
          rw [hhandled]
          exact ⟨.inr rfl, rfl, rfl⟩

/-- A request to `/mcp`: the extractor, and then the handler.  A body that is
turned away, in the words of `axum`, reaches nothing of the server. -/
def post (rejection : JsonRejection → Text) (provider : Provider JwkSet)
    (now : Nat) (s : Shared W JwkSet) (headers : HeaderMap)
    (body : JsString) : HttpResponse × Shared W JwkSet :=
  match extract app.wire.serde body with
  | .error e => (⟨e.status, jsText (rejection e)⟩, s)
  | .ok raw =>
      let served := mcpHandler app provider now s headers raw
      (arrived app.wire.serde served.1, served.2)

/-- The extractor takes the body. -/
def Fits (en : Engine F) (t : Json (FiniteNumber F) Text) : Prop :=
  bodyBytes en t ≤ bodyLimit ∧ t.depth < recursionLimit

section Post

variable {rejection : JsonRejection → Text} {provider : Provider JwkSet}
variable {now : Nat} {s : Shared W JwkSet} {headers : HeaderMap}

theorem post_of_fits (h : ReadsBrowser en app.wire.serde value)
    {t : Json (FiniteNumber F) Text} (hfits : Fits en t) :
    let served := mcpHandler app provider now s headers (serverValue value t)
    post app rejection provider now s headers
        (jsonText en.toNumerals (browserTree t)) =
      (arrived app.wire.serde served.1, served.2) := by
  rw [post, extract_jsonText h, if_neg (Nat.not_lt.mpr hfits.1),
    if_pos hfits.2]

/-- Why a body is turned away. -/
def rejectionOf (en : Engine F) (t : Json (FiniteNumber F) Text) :
    JsonRejection :=
  if bodyLimit < bodyBytes en t then .lengthLimit else .syntaxError

theorem post_of_not_fits (h : ReadsBrowser en app.wire.serde value)
    {t : Json (FiniteNumber F) Text} (hfits : ¬ Fits en t) :
    post app rejection provider now s headers
        (jsonText en.toNumerals (browserTree t)) =
      (⟨(rejectionOf en t).status, jsText (rejection (rejectionOf en t))⟩,
        s) := by
  rw [post, extract_jsonText h, rejectionOf]
  split_ifs with hlong hdeep
  · rfl
  · exact absurd ⟨Nat.not_lt.mp hlong, hdeep⟩ hfits
  · rfl

theorem rejection_not_ok (e : JsonRejection) (text : JsString) :
    HttpResponse.ok ⟨e.status, text⟩ = false := by
  cases e <;> rfl

end Post

section Calls

variable (h : Understand en app.wire.serde app.wire.fromI64 number value)
variable (rejection : JsonRejection → Text) (provider : Provider JwkSet)
variable (now : Nat) (s : Shared W JwkSet) (headers : HeaderMap)
variable {id : FiniteNumber F} {name : Text} {args : Json (FiniteNumber F) Text}

include h

/-- A call that is admitted. -/
theorem delivered_of_admitted (hfits : Fits en (toolsCallTree id name args))
    {ctx : AuthContext} (hctx : Admits app provider now s headers ctx) :
    let sent := post app rejection provider now s headers
      (toolsCallBody en id.val (jsText name) (browserTree args))
    let called := app.tools.call name (serverValue value args) ctx.tenant
      s.world
    Demo.mcpCall en sent.1 = Demo.delivered number
        (app.wire.elapsedMs s.world called.2) called.1 ∧
      LabOverlay.queryPredictions en sent.1 =
        LabOverlay.delivered number called.1 ∧
      Client.call en sent.1 =
        Client.delivered number app.wire.fromI64 called.1 ∧
      sent.2.world = called.2 := by
  have hauth : authenticate app.auth app.cfg provider s.jwks headers =
      (.ok ctx, (authenticate app.auth app.cfg provider s.jwks headers).2) :=
    Prod.ext hctx.1 rfl
  rw [toolsCallBody_eq, post_of_fits app h.request hfits,
    mcpHandler_toolsCall value app hauth hctx.2 id name args]
  have hclients := delivered_replied h (Value.number (value id)) name
    (app.wire.elapsedMs s.world (app.tools.call name
      (serverValue value args) ctx.tenant s.world).2)
    (app.tools.call name (serverValue value args) ctx.tenant s.world).1
  exact ⟨hclients.1, hclients.2.1, hclients.2.2, rfl⟩

/-- A call that is not. -/
theorem throwsStatus_of_not_admitted
    (hfits : Fits en (toolsCallTree id name args))
    (hnot : ∀ ctx, ¬ Admits app provider now s headers ctx) :
    let sent := post app rejection provider now s headers
      (toolsCallBody en id.val (jsText name) (browserTree args))
    (sent.1.status = 401 ∨ sent.1.status = 429) ∧
      ThrowsStatus en sent.1 ∧ sent.2.world = s.world := by
  rw [toolsCallBody_eq, post_of_fits app h.request hfits]
  obtain ⟨hstatus, hok, hworld⟩ := mcpHandler_of_not_admitted app hnot
    (serverValue value (toolsCallTree id name args))
  exact ⟨hstatus, throwsStatus_of_not_ok hok, hworld⟩

/-- A call whose body is turned away. -/
theorem throwsStatus_of_not_fits
    (hfits : ¬ Fits en (toolsCallTree id name args)) :
    let sent := post app rejection provider now s headers
      (toolsCallBody en id.val (jsText name) (browserTree args))
    sent.1.status =
        (if bodyLimit < bodyBytes en (toolsCallTree id name args) then 413
          else 400) ∧
      ThrowsStatus en sent.1 ∧ sent.2 = s := by
  rw [toolsCallBody_eq, post_of_not_fits app h.request hfits]
  refine ⟨?_, throwsStatus_of_not_ok (rejection_not_ok _ _), rfl⟩
  unfold rejectionOf
  split_ifs <;> rfl

end Calls

/-- **What the clients get of the tools.**  A call whose body the extractor
takes and whose headers are admitted runs the tool once, on the arguments as
the server reads them, and each client ends up with the tool's value, or with
its error under the code and the words of the server.  A call that is not
admitted runs nothing, and each client throws the status; nor does one whose
body is too long or nests too deeply, which is turned away first. -/
theorem clients_served
    (h : Understand en app.wire.serde app.wire.fromI64 number value)
    (rejection : JsonRejection → Text) (provider : Provider JwkSet) (now : Nat)
    (s : Shared W JwkSet) (headers : HeaderMap) (id : FiniteNumber F)
    (name : Text) (args : Json (FiniteNumber F) Text) :
    let sent := post app rejection provider now s headers
      (toolsCallBody en id.val (jsText name) (browserTree args))
    (Fits en (toolsCallTree id name args) →
      (∀ ctx, Admits app provider now s headers ctx →
        let called := app.tools.call name (serverValue value args) ctx.tenant
          s.world
        Demo.mcpCall en sent.1 = Demo.delivered number
            (app.wire.elapsedMs s.world called.2) called.1 ∧
          LabOverlay.queryPredictions en sent.1 =
            LabOverlay.delivered number called.1 ∧
          Client.call en sent.1 =
            Client.delivered number app.wire.fromI64 called.1 ∧
          sent.2.world = called.2) ∧
      ((∀ ctx, ¬ Admits app provider now s headers ctx) →
        (sent.1.status = 401 ∨ sent.1.status = 429) ∧
          ThrowsStatus en sent.1 ∧ sent.2.world = s.world)) ∧
    (¬ Fits en (toolsCallTree id name args) →
      sent.1.status =
          (if bodyLimit < bodyBytes en (toolsCallTree id name args) then 413
            else 400) ∧
        ThrowsStatus en sent.1 ∧ sent.2 = s) := by
  exact ⟨fun hfits =>
    ⟨fun _ hctx =>
        delivered_of_admitted app h rejection provider now s headers hfits hctx,
      fun hnot => throwsStatus_of_not_admitted app h rejection provider now s
        headers hfits hnot⟩,
    fun hfits => throwsStatus_of_not_fits app h rejection provider now s headers
      hfits⟩

end Served

/-! ## A deployment with one tool -/

/-- A safe integer; others do not occur. -/
def toSafe (i : Int) : SafeInteger :=
  if h : isSafe i = true then ⟨i, h⟩ else ⟨0, rfl⟩

theorem understand_safe :
    Understand plainEngine safeText toSafe .int safeValue where
  reply := readsSerde_safe
  request := readsBrowser_safe
  integer := by
    intro i
    rw [toSafe, dif_pos i.property]
    rfl
  readsInteger := fun i => readsBack_safeText (toSafe i.val)

/-- Libraries that refuse every token. -/
def tokenless : Auth.Libraries Unit Unit Unit SafeInteger where
  decodeHeader := fun _ => .error "InvalidToken".toList
  find := fun _ _ => none
  fromJwk := fun _ => .ok ()
  decode := fun _ _ _ => .error "InvalidToken".toList
  parseUuid := fun _ => .error "invalid length".toList

/-- A deployment with a tool that returns its arguments. -/
def echoApp : AppState Unit Unit Unit Unit SafeInteger where
  cfg := keyedConfig
  auth := tokenless
  tools := ⟨[
    { definition :=
        { name := "echo".toList, description := [], inputSchema := Value.null }
      run := fun args _ w => (.ok args, w) }]⟩
  wire :=
    { serde := safeText
      fromI64 := toSafe
      display := fun _ => "invalid".toList
      elapsedMs := fun _ _ => Value.number (toSafe 3) }

/-- What `axum` says of a body it turns away. -/
def axumRejection : JsonRejection → Text
  | .lengthLimit =>
      "Failed to buffer the request body: length limit exceeded".toList
  | .syntaxError => "Failed to parse the request body as JSON".toList

/-- The demo page gets the arguments back, and the time; arguments that nest
too deeply are turned away. -/
theorem clients_served_echo :
    Demo.mcpCall plainEngine (post echoApp axumRejection offlineProvider 0
      keyedShared mainKeyHeaders (toolsCallBody plainEngine (.int ⟨1, rfl⟩)
        (jsText "echo".toList) (browserTree (.str "€".toList)))).1 =
      .ok (.string (js "€"), .number (.int ⟨3, rfl⟩)) ∧
    ThrowsStatus plainEngine (post echoApp axumRejection offlineProvider 0
      keyedShared mainKeyHeaders (toolsCallBody plainEngine (.int ⟨1, rfl⟩)
        (jsText "echo".toList) (browserTree (nestedArrays 125)))).1 := by
  have hserved := fun args => clients_served echoApp understand_safe
    axumRejection offlineProvider 0 keyedShared mainKeyHeaders
    ⟨.int ⟨1, rfl⟩, rfl⟩ "echo".toList args
  constructor
  · have hfits : Fits plainEngine (toolsCallTree ⟨.int ⟨1, rfl⟩, rfl⟩
        "echo".toList (.str "€".toList)) := by
      unfold Fits
      decide +kernel
    exact (((hserved _).1 hfits).1 (defaultContext keyedConfig .apiKey)
      ⟨rfl, rfl⟩).1
  · have hdeep : ¬ Fits plainEngine (toolsCallTree ⟨.int ⟨1, rfl⟩, rfl⟩
        "echo".toList (nestedArrays 125)) := by
      rintro ⟨-, hdepth⟩
      rw [depth_toolsCallTree, depth_nestedArrays] at hdepth
      exact absurd hdepth (by decide)
    exact ((hserved _).2 hdeep).2.1

end RenderEngine.Ports.RpcClient
