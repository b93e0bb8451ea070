import RenderEngine.Ports.Mcp

/-!
# Dispatching one message (`dispatch_one` of `http.rs`)

`isDue` says of a message alone whether it is answered: a message that does
not decode or names another version is, and so is a request with an id whose
method is not one of the notifications MCP clients send.

## Main results

* `dispatchOne_isSome`: whether there is an answer does not depend on the tools.
* `dispatchOne_world`: only `tools/call` messages reach the world.
* `dispatchOne_answers`: a request is answered once, under its id, with a
  result or an error.
-/

namespace RenderEngine.Ports.McpDispatch

open RenderEngine.Ports.CoreTypes
open RenderEngine.Ports.RustStd
open RenderEngine.Ports.Serde
open RenderEngine.Ports.Mcp

/-- What the dispatcher calls of `serde_json` and of the clock. -/
structure Wire (W N : Type) where
  serde : SerdeText N
  fromI64 : Int → N
  /-- the text of a decoding error -/
  display : DecodeError N → Text
  /-- the milliseconds between two states of the world, as they are written -/
  elapsedMs : W → W → Value N

section Dispatch

variable {W N : Type} (wire : Wire W N) (tools : ToolRegistry W N)
variable (tenant : TenantId)

/-! ## Methods -/

/-- What `tools/call` answers to the tool's outcome: protocol errors stay
errors, every other error is a result that says so. -/
def callOutcome (tool : Text) (renderMs : Value N) :
    Except (JsonRpcError N) (Value N) → Except (JsonRpcError N) (Value N)
  | .ok v =>
      .ok { ToolsCallResult.textJson wire.serde v with
        info := some { renderMs := renderMs, tool := tool } }.toValue
  | .error e =>
      if e.code = JsonRpcError.methodNotFound
        ∨ e.code = JsonRpcError.invalidParams
      then .error e
      else .ok (ToolsCallResult.error e.message).toValue

/-- `handle_tools_call`. -/
def handleToolsCall (req : JsonRpcRequest N) (w : W) :
    Except (JsonRpcError N) (Value N) × W :=
  match req.params with
  | none =>
      (.error (.new JsonRpcError.invalidParams "missing params".toList), w)
  | some params =>
      match ToolsCallParams.fromValue params with
      | .error e =>
          (.error (.new JsonRpcError.invalidParams (wire.display e)), w)
      | .ok call =>
          let (result, w') := tools.call call.name call.arguments tenant w
          (callOutcome wire call.name (wire.elapsedMs w w') result, w')

/-- The `match` of `dispatch_one` on the method; `none` where it returns. -/
def runMethod (req : JsonRpcRequest N) (w : W) :
    Option (Except (JsonRpcError N) (Value N)) × W :=
  if req.method = "initialize".toList then (some (.ok initializeResult), w)
  else if req.method = "initialized".toList then (none, w)
  else if req.method = "notifications/initialized".toList then (none, w)
  else if req.method = "notifications/cancelled".toList then (none, w)
  else if req.method = "ping".toList then (some (.ok (Value.object [])), w)
  else if req.method = "tools/list".toList then
    (some (.ok (toolsListResult tools.list)), w)
  else if req.method = "tools/call".toList then
    let (result, w) := handleToolsCall wire tools tenant req w
    (some result, w)
  else
    (some (.error (.new JsonRpcError.methodNotFound
      ("unknown method: ".toList ++ req.method))), w)

/-- `dispatch_one`. -/
def dispatchOne (raw : Value N) (w : W) : Option (JsonRpcResponse N) × W :=
  match JsonRpcRequest.fromValue raw with
  | .error e =>
      (some (.err Value.null (.new JsonRpcError.parseError (wire.display e))),
        w)
  | .ok req =>
      if req.jsonrpc ≠ jsonrpcVersion then
        (some (.err (req.id.getD Value.null) (.new JsonRpcError.invalidRequest
          "jsonrpc must be '2.0'".toList)), w)
      else
        match runMethod wire tools tenant req w with
        | (none, w) => (none, w)
        | (some result, w) =>
            match req.id, result with
            | none, _ => (none, w)
            | some id, .ok v => (some (.ok id v), w)
            | some id, .error e => (some (.err id e), w)

/-! ## Which messages are answered -/

/-- The methods that are ignored whatever the message holds. -/
def isIgnored (method : Text) : Bool :=
  method == "initialized".toList || method == "notifications/initialized".toList
    || method == "notifications/cancelled".toList

/-- The message is due a response. -/
def isDue (raw : Value N) : Bool :=
  match JsonRpcRequest.fromValue raw with
  | .error _ => true
  | .ok req =>
      req.jsonrpc != jsonrpcVersion || req.id.isSome && !isIgnored req.method

/-- The message is a `tools/call`. -/
def isToolsCall (raw : Value N) : Bool :=
  match JsonRpcRequest.fromValue raw with
  | .error _ => false
  | .ok req =>
      req.jsonrpc == jsonrpcVersion && req.method == "tools/call".toList

/-- A method is answered, or ignored, whatever its params and the tools. -/
theorem runMethod_isSome (req : JsonRpcRequest N) (w : W) :
    (runMethod wire tools tenant req w).1.isSome = !isIgnored req.method := by
  unfold runMethod isIgnored
  by_cases h1 : req.method = "initialize".toList
  · rw [if_pos h1, h1]
    rfl
  rw [if_neg h1]
  by_cases h2 : req.method = "initialized".toList
  · rw [if_pos h2, h2]
    rfl
  rw [if_neg h2]
  by_cases h3 : req.method = "notifications/initialized".toList
  · rw [if_pos h3, h3]
    rfl
  rw [if_neg h3]
  by_cases h4 : req.method = "notifications/cancelled".toList
  · rw [if_pos h4, h4]
    rfl
  rw [if_neg h4]
  have hignored : (req.method == "initialized".toList
      || req.method == "notifications/initialized".toList
      || req.method == "notifications/cancelled".toList) = false := by
    simp only [Bool.or_eq_false_iff, beq_eq_false_iff_ne]
    exact ⟨⟨h2, h3⟩, h4⟩
  rw [hignored]
  split_ifs <;> rfl

/-- No method but `tools/call` touches the world. -/
theorem runMethod_world {req : JsonRpcRequest N}
    (h : req.method ≠ "tools/call".toList) (w : W) :
    (runMethod wire tools tenant req w).2 = w := by
  unfold runMethod
  rw [if_neg h]
  split_ifs <;> rfl

/-- The response to a request, from its id and its method's outcome. -/
def answer (id : Value N) :
    Except (JsonRpcError N) (Value N) → JsonRpcResponse N
  | .ok v => .ok id v
  | .error e => .err id e

/-- What a message of the right version that decodes comes to. -/
theorem dispatchOne_request {raw : Value N} {req : JsonRpcRequest N}
    (hreq : JsonRpcRequest.fromValue raw = .ok req)
    (hversion : req.jsonrpc = jsonrpcVersion) (w : W) :
    dispatchOne wire tools tenant raw w =
      ((runMethod wire tools tenant req w).1.bind fun result =>
          req.id.map fun id => answer id result,
        (runMethod wire tools tenant req w).2) := by
  unfold dispatchOne
  simp only [hreq, hversion, ne_eq, not_true_eq_false, if_false]
  cases runMethod wire tools tenant req w with
  | mk outcome w' =>
      cases outcome with
      | none => rfl
      | some result =>
          cases req.id with
          | none => rfl
          | some id =>
              cases result with
              | ok v => rfl
              | error e => rfl

/-- **Whether a message is answered is a matter of the message alone.** -/
theorem dispatchOne_isSome (raw : Value N) (w : W) :
    (dispatchOne wire tools tenant raw w).1.isSome = isDue raw := by
  unfold isDue
  cases hreq : JsonRpcRequest.fromValue raw with
  | error e => simp [dispatchOne, hreq]
  | ok req =>
      by_cases hversion : req.jsonrpc = jsonrpcVersion
      · have hmethod := runMethod_isSome wire tools tenant req w
        rw [dispatchOne_request wire tools tenant hreq hversion]
        cases hrun : (runMethod wire tools tenant req w).1 with
        | none =>
            rw [hrun] at hmethod
            simp [hversion, ← hmethod]
        | some result =>
            rw [hrun] at hmethod
            simp [hversion, ← hmethod]
      · simp [dispatchOne, hreq, hversion]

/-- **Only `tools/call` messages touch the world.** -/
theorem dispatchOne_world {raw : Value N} (h : isToolsCall raw = false)
    (w : W) : (dispatchOne wire tools tenant raw w).2 = w := by
  unfold isToolsCall at h
  cases hreq : JsonRpcRequest.fromValue raw with
  | error e => simp [dispatchOne, hreq]
  | ok req =>
      rw [hreq] at h
      change (req.jsonrpc == jsonrpcVersion
        && req.method == "tools/call".toList) = false at h
      by_cases hversion : req.jsonrpc = jsonrpcVersion
      · have hmethod : req.method ≠ "tools/call".toList := by
          intro heq
          rw [hversion, heq, beq_self_eq_true, beq_self_eq_true] at h
          cases h
        rw [dispatchOne_request wire tools tenant hreq hversion]
        exact runMethod_world wire tools tenant hmethod w
      · simp [dispatchOne, hreq, hversion]

/-! ## Requests that are objects -/

/-- An object with a version and a method that are strings decodes, with `null`
for its params or its id read as none. -/
theorem fromValue_of_members {raw : Value N} {version method : Text}
    (hversion : raw.get "jsonrpc".toList = some (Value.string version))
    (hmethod : raw.get "method".toList = some (Value.string method)) :
    JsonRpcRequest.fromValue raw = .ok {
      jsonrpc := version
      method := method
      params := (raw.get "params".toList).bind decodeOption
      id := (raw.get "id".toList).bind decodeOption } := by
  unfold Value.get at *
  unfold JsonRpcRequest.fromValue decodeStruct
  cases hobject : raw.asObject with
  | none =>
      rw [hobject] at hmethod
      cases hmethod
  | some ms =>
      rw [hobject, Option.bind_some] at hversion hmethod
      simp only [JsonRpcRequest.fromObject, stringMember, hversion, hmethod]
      rfl

/-- **Every request is answered once, under its id, with a result or an
error**, and a message without an id, or with a method that only notifies, is
not answered. -/
theorem dispatchOne_answers {raw : Value N} {method : Text}
    (hversion : raw.get "jsonrpc".toList = some (Value.string "2.0".toList))
    (hmethod : raw.get "method".toList = some (Value.string method)) (w : W) :
    (∀ id, raw.get "id".toList = some id → id ≠ Value.null →
      isIgnored method = false →
      ∃ resp, (dispatchOne wire tools tenant raw w).1 = some resp ∧
        resp.id = id ∧ resp.OneOutcome) ∧
    (raw.get "id".toList = none →
      (dispatchOne wire tools tenant raw w).1 = none) ∧
    (isIgnored method = true →
      (dispatchOne wire tools tenant raw w).1 = none) := by
  have hreq := fromValue_of_members hversion hmethod
  have hrun := runMethod_isSome wire tools tenant {
    jsonrpc := "2.0".toList
    method := method
    params := (raw.get "params".toList).bind decodeOption
    id := (raw.get "id".toList).bind decodeOption } w
  rw [dispatchOne_request wire tools tenant hreq rfl]
  refine ⟨?_, ?_, ?_⟩
  · intro id hid hnull hmethod
    obtain ⟨result, hresult⟩ :=
      Option.isSome_iff_exists.mp (hrun.trans (by rw [hmethod]; rfl))
    refine ⟨answer id result, ?_, ?_, ?_⟩
    · rw [hresult, hid, Option.bind_some, Option.bind_some,
        decodeOption_of_ne_null hnull, Option.map_some]
    · cases result with
      | ok v => rfl
      | error e => rfl
    · cases result with
      | ok v => exact .inl ⟨rfl, rfl⟩
      | error e => exact .inr ⟨rfl, rfl⟩
  · intro hid
    rw [hid]
    show Option.bind _ (fun _ => Option.none) = Option.none
    exact Option.bind_fun_none _
  · intro hignored
    rw [hignored, Bool.not_true, Option.isSome_eq_false_iff,
      Option.isNone_iff_eq_none] at hrun
    rw [hrun]
    rfl

end Dispatch

/-! ## Ids that get no answer -/

/-- A message with nothing but a method and an id. -/
def plainMessage (method : Text) (id : Value Int) : Value Int :=
  Value.object
    [ ("jsonrpc".toList, Value.string "2.0".toList)
    , ("method".toList, Value.string method)
    , ("id".toList, id) ]

/-- A wire over the integers, in a world without a clock. -/
def intWire {W : Type} : Wire W Int where
  serde := intText
  fromI64 := id
  display := fun _ => "invalid".toList
  elapsedMs := fun _ _ => Value.number 0

/-- The message names version, method and id. -/
structure Names (raw : Value Int) (method : Text) (id : Value Int) : Prop where
  version : raw.get "jsonrpc".toList = some (Value.string "2.0".toList)
  method : raw.get "method".toList = some (Value.string method)
  id : raw.get "id".toList = some id

/-- Neither an id on a notification method nor an id `null` is answered. -/
theorem dispatchOne_id_unanswered :
    (Names (plainMessage "initialized".toList (Value.number 1))
        "initialized".toList (Value.number 1) ∧
      (dispatchOne intWire ⟨[]⟩ ⟨0⟩
        (plainMessage "initialized".toList (Value.number 1)) ()).1 = none) ∧
    (Names (plainMessage "ping".toList Value.null) "ping".toList Value.null ∧
      (dispatchOne intWire ⟨[]⟩ ⟨0⟩
        (plainMessage "ping".toList Value.null) ()).1 = none) :=
  ⟨⟨⟨rfl, rfl, rfl⟩, rfl⟩, ⟨⟨rfl, rfl, rfl⟩, rfl⟩⟩

/-- A `ping` with an id is answered. -/
theorem dispatchOne_answers_ping :
    ∃ resp, (dispatchOne intWire ⟨[]⟩ ⟨0⟩
        (plainMessage "ping".toList (Value.number 1)) ()).1 = some resp ∧
      resp.id = Value.number 1 ∧ resp.OneOutcome := by
  have hnull : (Value.number 1 : Value Int) ≠ Value.null := by
    intro h
    cases congrArg Value.tree h
  exact (dispatchOne_answers intWire ⟨[]⟩ ⟨0⟩ rfl rfl ()).1 _ rfl hnull rfl

end RenderEngine.Ports.McpDispatch
