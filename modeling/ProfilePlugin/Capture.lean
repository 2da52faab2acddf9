import ProfilePlugin.Session
import ProfilePlugin.Respond
import ProfilePlugin.PyInt
/-
**The capture route: `capture_route_impl`.**

A capture asks TensorFlow's `profiler_client.trace` to record a profile of a running program into
the logdir.  The route reads `duration` and `num_retry` with `int`, builds
`profiler.ProfilerOptions` from the tracer levels (an `AttributeError` there, on TensorFlow before
2.3, leaves the options `None`), and for a TPU name resolves the master with
`TPUClusterResolver`: without a `worker_list` argument it reads the workers of the cluster spec with
`get_worker_list`, outside the `try` that guards the resolver, and then the master's address,
stripped of `grpc://` and `:8470`, becomes the service address with port `8466` and is stored in
`master_tpu_unsecure_channel` before the trace runs.  The
answer is a one-item JSON `dict`: `result` on success, `error` otherwise.

TensorFlow is an oracle (`ProfilePlugin.TensorFlow`): whether it is installed, which version of
`ProfilerOptions` it has, what the resolver finds for a service address, and how a call of `trace`
ends.  The cluster spec is part of what the resolver finds: its worker addresses, or the exception
that `cluster_spec()`, `task_indices` or `task_address` raises.

Main definitions:

* `ProfilePlugin.pyReplace` — `str.replace`;
* `ProfilePlugin.profilerOptions`, `ProfilePlugin.captureArgs` — the arguments a capture reads;
* `ProfilePlugin.captureRouteImpl` — the route, with its effect on the plugin.

Main results:

* `ProfilePlugin.captureRouteImpl_state` — a capture changes nothing of the plugin but
  `master_tpu_unsecure_channel`, and that only for a TPU name whose master the resolver finds,
  however the trace then ends;
* `ProfilePlugin.captureRouteImpl_raises` — a capture raises only for an integer argument `int`
  cannot read, for an exception of the resolver that the route does not catch, or for one of
  `get_worker_list`; otherwise a client reads its answer as a `dict` with the single key `result`
  or `error`.
-/

set_option autoImplicit false

namespace ProfilePlugin

/-! ### `str.replace` -/

/-- The loop of `str.replace`, with one step of fuel per character. -/
def replaceLoop (old new : List Char) : Nat → List Char → List Char
  | 0, s => s
  | _ + 1, [] => []
  | n + 1, c :: cs =>
      if old.isPrefixOf (c :: cs) then new ++ replaceLoop old new n ((c :: cs).drop old.length)
      else c :: replaceLoop old new n cs

/-- `s.replace(old, new)` for a non-empty `old`, the only kind the plugin uses: every occurrence,
left to right, without overlaps. -/
def pyReplace (s old new : String) : String := ⟨replaceLoop old.data new.data s.length s.data⟩

/-! ### TensorFlow -/

/-- `profiler.ProfilerOptions(...)`. -/
structure ProfilerOptions where
  hostTracerLevel : Int
  deviceTracerLevel : Int
  pythonTracerLevel : Int
  delayMs : Option Int
  deriving DecidableEq, Repr

/-- The arguments of a call of `profiler_client.trace`; `options` is `none` when the call is made
without them. -/
structure TraceCall where
  serviceAddr : Option String
  logdir : String
  duration : Int
  workerList : Option String
  numTracingAttempts : Int
  options : Option ProfilerOptions
  deriving DecidableEq, Repr

/-- How a call of `profiler_client.trace` ends. -/
inductive TraceOutcome where
  | ok
  /-- `tf.errors.UnavailableError`. -/
  | unavailable
  /-- Any other exception, by `str(e)`. -/
  | failed (str : String)

/-- How `TPUClusterResolver(service_addr)` and its `get_master()` end. -/
inductive TpuResolution where
  /-- The master's gRPC address, and the addresses of the `worker` tasks of the cluster spec, or
  the exception reading them raises. -/
  | master (grpcAddr : String) (workers : Except PyErr (List String))
  /-- `ImportError` or `RuntimeError`, by `repr(err)`. -/
  | importOrRuntimeError (repr : String)
  /-- `ValueError` or `TypeError`. -/
  | valueOrTypeError
  /-- Any other exception, which escapes the route. -/
  | other (err : PyErr)

/-- What TensorFlow does for the capture route. -/
structure TensorFlow where
  /-- `tf`, `profiler` and `profiler_client` were imported. -/
  installed : Bool
  /-- `profiler.ProfilerOptions` exists: TensorFlow 2.3 and later. -/
  hasProfilerOptions : Bool
  /-- `'delay_ms' in options._fields`. -/
  hasDelayField : Bool
  /-- Whether `options.delay_ms = ...` succeeds; on a named tuple it raises `AttributeError`. -/
  delayAssignable : Bool
  resolve : Option String → TpuResolution
  trace : TraceCall → TraceOutcome

/-! ### The route -/

/-- `request.args.get(key, default)`. -/
def argOr (args : List (String × String)) (key default : String) : String :=
  (args.lookup key).getD default

/-- The options of the trace.  `profiler.ProfilerOptions` is looked up before its arguments are
read, so without it the tracer levels are never parsed; an `int` that fails raises, and an
`AttributeError` of the assignment of `delay_ms` keeps the options built. -/
def profilerOptions (tf : TensorFlow) (args : List (String × String)) :
    Except PyErr (Option ProfilerOptions) :=
  if tf.hasProfilerOptions then do
    let host ← pyInt (argOr args "host_tracer_level" "2")
    let device ← pyInt (argOr args "device_tracer_level" "1")
    let python ← pyInt (argOr args "python_tracer_level" "0")
    let options : ProfilerOptions := ⟨host, device, python, none⟩
    if tf.hasDelayField then
      let delay ← pyInt (argOr args "delay" "0")
      return some (if tf.delayAssignable then { options with delayMs := some delay } else options)
    else return some options
  else return none

/-- The numbers a capture reads before it touches TensorFlow, in the order the route reads them:
`duration`, `num_retry` plus one, and the options. -/
def captureArgs (tf : TensorFlow) (args : List (String × String)) :
    Except PyErr (Int × Int × Option ProfilerOptions) := do
  let duration ← pyInt (argOr args "duration" "1000")
  let numRetry ← pyInt (argOr args "num_retry" "0")
  let options ← profilerOptions tf args
  return (duration, numRetry + 1, options)

/-- `get_worker_list(cluster_resolver)`: the worker addresses with port `8470` replaced by `8466`,
joined with commas. -/
def getWorkerList (workerAddresses : List String) : String :=
  ",".intercalate (workerAddresses.map fun a => pyReplace a ":8470" ":8466")

/-- The `dict` of one key and one text that the route answers with. -/
def oneItem (key text : String) : Body := .val (.dict [(key, .str text)])

/-- The call of `profiler_client.trace` and the answer that follows it. -/
def traceAndRespond (tf : TensorFlow) (call : TraceCall) : Except PyErr Response :=
  match tf.trace call with
  | .ok => respond (oneItem "result" "Capture profile successfully. Please refresh.")
      "application/json"
  | .unavailable => respond (oneItem "error" "empty trace result.") "application/json" 200
  | .failed str => respond (oneItem "error" str) "application/json" 500

/-- `capture_route_impl(request)` on the plugin `p`: the plugin after it, and the response or the
exception that escapes. -/
def captureRouteImpl (tf : TensorFlow) (p : Plugin) (args : List (String × String)) :
    Plugin × Except PyErr Response :=
  if tf.installed then
    match captureArgs tf args with
    | .error err => (p, .error err)
    | .ok (duration, numTracingAttempts, options) =>
        if args.lookup "is_tpu_name" = some "true" then
          match tf.resolve (args.lookup "service_addr") with
          | .master grpcAddr workers =>
              let workerList := if (args.lookup "worker_list").getD "" = "" then
                  workers.map fun workerAddresses => some (getWorkerList workerAddresses)
                else .ok (args.lookup "worker_list")
              match workerList with
              | .error err => (p, .error err)
              | .ok workerList =>
                  let masterIp := pyReplace (pyReplace grpcAddr "grpc://" "") ":8470" ""
                  ({ p with masterTpuUnsecureChannel := masterIp },
                    traceAndRespond tf ⟨some (masterIp ++ ":8466"), p.logdir, duration, workerList,
                      numTracingAttempts, options⟩)
          | .importOrRuntimeError repr =>
              (p, respond (oneItem "error" repr) "application/json" 500)
          | .valueOrTypeError =>
              (p, respond (oneItem "error" "no TPUs with the specified names exist.")
                "application/json" 500)
          | .other err => (p, .error err)
        else
          (p, traceAndRespond tf ⟨args.lookup "service_addr", p.logdir, duration,
            args.lookup "worker_list", numTracingAttempts, options⟩)
  else (p, respond (oneItem "error" "TensorFlow is not installed.") "application/json" 500)

/-! ### What a capture raises -/

/-- Every exception `x` raises is a `ValueError`. -/
def OnlyValueErrors {α : Type} (x : Except PyErr α) : Prop :=
  ∀ err, x = .error err → ∃ msg, err = .valueError msg

theorem OnlyValueErrors.bind {α β : Type} {x : Except PyErr α} {f : α → Except PyErr β}
    (hx : OnlyValueErrors x) (hf : ∀ a, OnlyValueErrors (f a)) : OnlyValueErrors (x >>= f) := by
  intro err h
  cases x with
  | error e => exact hx err (by cases h; rfl)
  | ok a => exact hf a err h

theorem onlyValueErrors_pure {α : Type} (a : α) : OnlyValueErrors (pure a : Except PyErr α) :=
  fun _ h => nomatch h

/-- `int` raises nothing but `ValueError`. -/
theorem pyInt_onlyValueErrors (s : String) : OnlyValueErrors (pyInt s) := by
  intro err h
  simp only [pyInt] at h
  split at h
  · exact ⟨_, (Except.error.inj h).symm⟩
  · split at h
    · exact ⟨_, (Except.error.inj h).symm⟩
    · split_ifs at h <;> exact ⟨_, (Except.error.inj h).symm⟩

theorem profilerOptions_onlyValueErrors (tf : TensorFlow) (args : List (String × String)) :
    OnlyValueErrors (profilerOptions tf args) := by
  unfold profilerOptions
  split_ifs <;>
    repeat (first
      | exact onlyValueErrors_pure _
      | refine (pyInt_onlyValueErrors _).bind fun _ => ?_
      | dsimp only)

theorem captureArgs_onlyValueErrors (tf : TensorFlow) (args : List (String × String)) :
    OnlyValueErrors (captureArgs tf args) :=
  (pyInt_onlyValueErrors _).bind fun _ => (pyInt_onlyValueErrors _).bind fun _ =>
    (profilerOptions_onlyValueErrors tf args).bind fun _ => onlyValueErrors_pure _

/-- A client reads a one-item answer back as it is. -/
theorem respond_oneItem (key text : String) (code : Nat) :
    (respond (oneItem key text) "application/json" code).map Response.json =
      .ok (some (.dict [(key, .str text)])) := by
  rw [oneItem, respond_json _ (fun _ => PyVal.noConfusion) code, sortKeys_dict,
    List.mergeSort_singleton]
  rfl

/-- An answer a client reads as a `dict` with the single key `result` or `error`. -/
def OneItemAnswer (x : Except PyErr Response) : Prop :=
  ∀ r, x = .ok r → ∃ key text, (key = "result" ∨ key = "error") ∧
    r.json = some (.dict [(key, .str text)])

theorem oneItemAnswer_respond {key : String} (text : String) (code : Nat)
    (hk : key = "result" ∨ key = "error") :
    OneItemAnswer (respond (oneItem key text) "application/json" code) := by
  intro r hr
  have hj := respond_oneItem key text code
  rw [hr] at hj
  exact ⟨key, text, hk, Except.ok.inj hj⟩

/-- An answer of one item is always built. -/
theorem respond_oneItem_ne_error (key text : String) (code : Nat) (err : PyErr) :
    respond (oneItem key text) "application/json" code ≠ .error err := by
  simp [respond_gzip, oneItem, bodyBytes, Except.map]

theorem traceAndRespond_ne_error (tf : TensorFlow) (call : TraceCall) (err : PyErr) :
    traceAndRespond tf call ≠ .error err := by
  unfold traceAndRespond
  split <;> exact respond_oneItem_ne_error _ _ _ err

theorem oneItemAnswer_trace (tf : TensorFlow) (call : TraceCall) :
    OneItemAnswer (traceAndRespond tf call) := by
  unfold traceAndRespond
  split
  · exact oneItemAnswer_respond _ _ (.inl rfl)
  · exact oneItemAnswer_respond _ _ (.inr rfl)
  · exact oneItemAnswer_respond _ _ (.inr rfl)

/-- The exceptions of the resolver that the capture lets through: one of `TPUClusterResolver` or
`get_master()` that the route does not catch, or, without a `worker_list` argument, one of
`get_worker_list`. -/
def ResolverRaises (tf : TensorFlow) (args : List (String × String)) (err : PyErr) : Prop :=
  tf.resolve (args.lookup "service_addr") = .other err ∨
    ∃ grpcAddr, (args.lookup "worker_list").getD "" = "" ∧
      tf.resolve (args.lookup "service_addr") = .master grpcAddr (.error err)

/-- What a capture can do: raise the exception of an integer argument or of the resolver, answer
an error, call the trace, or, for a TPU name whose master the resolver finds, set the channel and
call the trace. -/
theorem captureRouteImpl_cases (tf : TensorFlow) (p : Plugin) (args : List (String × String)) :
    (∃ err, captureArgs tf args = .error err ∧ captureRouteImpl tf p args = (p, .error err)) ∨
    (∃ err, ResolverRaises tf args err ∧ captureRouteImpl tf p args = (p, .error err)) ∨
    (∃ text, captureRouteImpl tf p args =
      (p, respond (oneItem "error" text) "application/json" 500)) ∨
    (∃ call, captureRouteImpl tf p args = (p, traceAndRespond tf call)) ∨
    ∃ grpcAddr workers v call, tf.installed = true ∧ captureArgs tf args = .ok v ∧
      args.lookup "is_tpu_name" = some "true" ∧
      tf.resolve (args.lookup "service_addr") = .master grpcAddr workers ∧
      captureRouteImpl tf p args =
        ({ p with
            masterTpuUnsecureChannel := pyReplace (pyReplace grpcAddr "grpc://" "") ":8470" "" },
          traceAndRespond tf call) := by
  unfold captureRouteImpl
  by_cases hi : tf.installed
  · rw [if_pos hi]
    cases hc : captureArgs tf args with
    | error err => exact .inl ⟨err, rfl, rfl⟩
    | ok v =>
      dsimp only
      by_cases ht : args.lookup "is_tpu_name" = some "true"
      · rw [if_pos ht]
        cases hr : tf.resolve (args.lookup "service_addr") with
        | master grpcAddr workers =>
          dsimp only
          split
          · -- `get_worker_list` raised, before the channel is set
            rename_i err hw
            refine .inr (.inl ⟨err, .inr ⟨grpcAddr, ?_, ?_⟩, rfl⟩) <;> split_ifs at hw with hl
            · exact hl
            · cases workers <;> cases hw
              exact hr
          · exact .inr (.inr (.inr (.inr ⟨grpcAddr, workers, v, _, hi, rfl, ht, rfl, rfl⟩)))
        | importOrRuntimeError repr => exact .inr (.inr (.inl ⟨repr, rfl⟩))
        | valueOrTypeError => exact .inr (.inr (.inl ⟨_, rfl⟩))
        | other err => exact .inr (.inl ⟨err, .inl hr, rfl⟩)
      · rw [if_neg ht]
        exact .inr (.inr (.inr (.inl ⟨_, rfl⟩)))
  · rw [if_neg hi]
    exact .inr (.inr (.inl ⟨_, rfl⟩))

/-- **A capture changes nothing of the plugin but `master_tpu_unsecure_channel`**, and that only
for a TPU name whose master the resolver finds once the integer arguments are read.  The channel
is set before the trace runs, so it does not depend on how the trace ends. -/
theorem captureRouteImpl_state (tf : TensorFlow) (p : Plugin) (args : List (String × String)) :
    (captureRouteImpl tf p args).1 = p ∨
      ∃ grpcAddr workers v, tf.installed = true ∧ captureArgs tf args = .ok v ∧
        args.lookup "is_tpu_name" = some "true" ∧
        tf.resolve (args.lookup "service_addr") = .master grpcAddr workers ∧
        (captureRouteImpl tf p args).1 =
          { p with
            masterTpuUnsecureChannel := pyReplace (pyReplace grpcAddr "grpc://" "") ":8470" "" } := by
  rcases captureRouteImpl_cases tf p args with ⟨_, _, h⟩ | ⟨_, _, h⟩ | ⟨_, h⟩ | ⟨_, h⟩ |
    ⟨g, ws, v, _, hi, hc, ht, hr, h⟩ <;> rw [h]
  · exact .inl rfl
  · exact .inl rfl
  · exact .inl rfl
  · exact .inl rfl
  · exact .inr ⟨g, ws, v, hi, hc, ht, hr, rfl⟩

/-- **What a capture raises, and what it answers.**  It raises only a `ValueError` of an integer
argument, an exception of the resolver that the route does not catch, or, without a `worker_list`
argument, an exception of `get_worker_list`, which runs outside the `try`; any answer is a `dict`
with the single key `result` or `error`, as a client reads it. -/
theorem captureRouteImpl_raises (tf : TensorFlow) (p : Plugin) (args : List (String × String)) :
    (∀ err, (captureRouteImpl tf p args).2 = .error err →
      (∃ msg, err = .valueError msg) ∨ tf.resolve (args.lookup "service_addr") = .other err ∨
        ∃ grpcAddr, (args.lookup "worker_list").getD "" = "" ∧
          tf.resolve (args.lookup "service_addr") = .master grpcAddr (.error err)) ∧
    ∀ r, (captureRouteImpl tf p args).2 = .ok r →
      ∃ key text, (key = "result" ∨ key = "error") ∧ r.json = some (.dict [(key, .str text)]) := by
  rcases captureRouteImpl_cases tf p args with ⟨e, hc, h⟩ | ⟨e, hr, h⟩ | ⟨text, h⟩ | ⟨call, h⟩ |
    ⟨_, _, _, call, _, _, _, _, h⟩ <;> rw [h]
  · exact ⟨fun e' he => .inl (captureArgs_onlyValueErrors tf args e' (hc.trans (by cases he; rfl))),
      fun r hr => nomatch hr⟩
  · exact ⟨fun e' he => .inr (by cases he; exact hr), fun r hr => nomatch hr⟩
  · exact ⟨fun e he => absurd he (respond_oneItem_ne_error _ _ _ e),
      oneItemAnswer_respond _ _ (.inr rfl)⟩
  · exact ⟨fun e he => absurd he (traceAndRespond_ne_error tf _ e), oneItemAnswer_trace tf _⟩
  · exact ⟨fun e he => absurd he (traceAndRespond_ne_error tf _ e), oneItemAnswer_trace tf _⟩

end ProfilePlugin
