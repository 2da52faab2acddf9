import ProfilePlugin.Capture
/-
**The routes of the plugin, and the events of a TensorBoard server.**

TensorBoard asks a plugin two kinds of things: `is_active()`, and requests to the routes of
`get_plugin_apps()`, each with its query arguments.  Each route calls a method of the plugin and
answers through `respond`: `runs_route` the names of `runs_imp`, `run_tools_route` the tools of
`run_tools_imp`, `hosts_route` the hosts of `host_impl` as `{'hostname': ...}` dicts,
`hlo_module_list_route` the text of `hlo_module_list_impl`, `data_route` the data of `data_impl`
(404 without data, 500 with `str(e)` for the exceptions it catches), `capture_route` whatever
`capture_route_impl` answers, and the static routes the files packaged with the plugin.  A missing
argument is `None`: `_run_dir(None)` raises `AttributeError`, and `generate_tools_of_run(None)`
raises `KeyError`.

`data_impl` reads the request itself: `ProfilePlugin.dataRequest` gathers its arguments and what
`_get_graph_viewer_options` raises, which reads `graph_width` with `int` once `str.isdigit` holds,
after the version check and before the tool is looked at.

The strings of the model are Unicode text.  A file name or logdir that is not UTF-8 reaches
Python as a `str` with lone surrogates, which `json.dumps` escapes but `str.encode('utf-8')` in
`respond` rejects with `UnicodeEncodeError`; such names are outside the model, so what is proved
here of a `text/plain` answer holds for names that are text.

Main definitions:

* `ProfilePlugin.Route`, `ProfilePlugin.pluginApps` — `get_plugin_apps()`;
* `ProfilePlugin.HttpWorld` — what the world does during one request;
* `ProfilePlugin.getGraphViewerOptions`, `ProfilePlugin.dataImplArgs`, `ProfilePlugin.dataRoute`,
  and the other handlers;
* `ProfilePlugin.Event`, `ProfilePlugin.Plugin.event`, `ProfilePlugin.Plugin.run` — one event of a
  TensorBoard server, and a sequence of them.

Main results:

* `ProfilePlugin.event_secure` — every response carries the content security policy and
  `nosniff`, and is compressed;
* `ProfilePlugin.event_staticFiles` — the plugin reads no file under `static/` but the eight the
  routes name;
* `ProfilePlugin.routes_read` — a client reads from a JSON route what its method returned;
* `ProfilePlugin.dataRoute_catches` — the exceptions of `data_impl` that `data_route` answers,
  and those that escape it;
* `ProfilePlugin.dataRoute_graphWidth` — a `graph_width` that `str.isdigit` accepts and `int`
  rejects fails every data request of a run;
* `ProfilePlugin.Plugin.run_methodState` — over every sequence of events, the routes change the
  plugin as the `is_active` and `runs_imp` calls they make do.
-/

set_option autoImplicit false

namespace ProfilePlugin

/-! ### `get_plugin_apps` -/

def BASE_ROUTE : String := "/"
def INDEX_JS_ROUTE : String := "/index.js"
def INDEX_HTML_ROUTE : String := "/index.html"
def BUNDLE_JS_ROUTE : String := "/bundle.js"
def STYLES_CSS_ROUTE : String := "/styles.css"
def MATERIALICONS_WOFF2_ROUTE : String := "/materialicons.woff2"
def TRACE_VIEWER_INDEX_HTML_ROUTE : String := "/trace_viewer_index.html"
def TRACE_VIEWER_INDEX_JS_ROUTE : String := "/trace_viewer_index.js"
def ZONE_JS_ROUTE : String := "/zone.js"
def DATA_ROUTE : String := "/data"
def RUNS_ROUTE : String := "/runs"
def RUN_TOOLS_ROUTE : String := "/run_tools"
def HOSTS_ROUTE : String := "/hosts"
def HLO_MODULE_LIST_ROUTE : String := "/module_list"
def CAPTURE_ROUTE : String := "/capture_profile"
def LOCAL_ROUTE : String := "/local"

/-- The handlers of the routes. -/
inductive Route where
  | defaultHandler
  | staticFileRoute
  | runsRoute
  | runToolsRoute
  | hostsRoute
  | dataRoute
  | hloModuleListRoute
  | captureRoute
  deriving DecidableEq, Repr

/-- `get_plugin_apps()`, in the order of the `dict`. -/
def pluginApps : List (String × Route) :=
  [(BASE_ROUTE, .defaultHandler), (INDEX_JS_ROUTE, .staticFileRoute),
    (INDEX_HTML_ROUTE, .staticFileRoute), (BUNDLE_JS_ROUTE, .staticFileRoute),
    (STYLES_CSS_ROUTE, .staticFileRoute), (MATERIALICONS_WOFF2_ROUTE, .staticFileRoute),
    (TRACE_VIEWER_INDEX_HTML_ROUTE, .staticFileRoute), (TRACE_VIEWER_INDEX_JS_ROUTE, .staticFileRoute),
    (ZONE_JS_ROUTE, .staticFileRoute), (RUNS_ROUTE, .runsRoute), (RUN_TOOLS_ROUTE, .runToolsRoute),
    (HOSTS_ROUTE, .hostsRoute), (DATA_ROUTE, .dataRoute), (HLO_MODULE_LIST_ROUTE, .hloModuleListRoute),
    (CAPTURE_ROUTE, .captureRoute), (LOCAL_ROUTE, .defaultHandler)]

/-- What the world does during one request, besides what it does for the methods: what reading a
file packaged under `static/` gives, the content type the converter returns with its data, for
the arguments of the conversion, and TensorFlow. -/
structure HttpWorld extends World where
  staticFiles : String → Except PyErr (List UInt8)
  dataContentType : List String → String → Bool → String
  tf : TensorFlow

/-- A world to instantiate results on: `World.sample`, an empty file for every packaged name, a
converter whose data is JSON, and no TensorFlow. -/
def HttpWorld.sample : HttpWorld :=
  { World.sample with
    staticFiles := fun _ => .ok []
    dataContentType := fun _ _ _ => "application/json"
    tf := ⟨false, false, false, false, fun _ => .valueOrTypeError, fun _ => .ok⟩ }

/-! ### Exceptions -/

/-- The built-in subclasses of `ValueError`, by name. -/
def VALUEERROR_SUBCLASSES : List String :=
  ["UnicodeError", "UnicodeDecodeError", "UnicodeEncodeError", "UnicodeTranslateError"]

/-- The text `data_route` answers an exception with, `str(e)`, when one of its `except` clauses
catches it: `TimeoutError`, `AttributeError`, `ValueError`, `FileNotFoundError`, `IOError`, and
their subclasses. -/
def dataRouteCatch : PyErr → Option String
  | .osError msg | .fileNotFound msg | .attributeError msg | .valueError msg => some msg
  | .other cls msg => if cls ∈ OSERROR_SUBCLASSES ∨ cls ∈ VALUEERROR_SUBCLASSES then some msg else none
  | .runtimeError _ | .keyError _ => none

/-! ### The handlers -/

/-- A `list` of `str`. -/
def strList (l : List String) : PyVal := .list (l.map .str)

/-- `[{'hostname': host} for host in hosts]`. -/
def hostList (hosts : List String) : PyVal := .list (hosts.map fun h => .dict [("hostname", .str h)])

/-- `default_handler`: `index.html`, whose read raises as it is. -/
def defaultHandler (w : HttpWorld) : Except PyErr Response :=
  (w.staticFiles "index.html").bind fun contents => respond (.bytes contents) "text/html"

/-- `os.path.splitext(filename)[1]`: from the last dot of the name, when a character other than a
dot comes before it. -/
def splitextExt (filename : String) : String :=
  let name := afterSep filename.data
  if '.' ∈ name ∧ ((name.rdropWhile (· != '.')).dropLast.any (· != '.')) then
    ⟨'.' :: name.rtakeWhile (· != '.')⟩
  else ""

/-- The content type `static_file_route` gives an extension. -/
def mimetypeOf (extension : String) : String :=
  if extension = ".html" then "text/html"
  else if extension = ".css" then "text/css"
  else if extension = ".js" then "application/javascript"
  else "application/octet-stream"

/-- `static_file_route`: the file named by the last component of the path; an `IOError` of the
read is answered with 404. -/
def staticFileRoute (w : HttpWorld) (path : String) : Except PyErr Response :=
  match w.staticFiles (basename path) with
  | .ok contents => respond (.bytes contents) (mimetypeOf (splitextExt (basename path)))
  | .error err =>
      if err.isOSError then respond (.val (.str "Fail to read the files.")) "text/plain" 404
      else .error err

/-- `runs_route`: the names of `runs_imp`, and the cache it leaves. -/
def Plugin.runsRoute (p : Plugin) (w : HttpWorld) : Option (Plugin × Except PyErr Response) :=
  (runsImp (w.toWorld.env p.logdir) (listAssets w.fs w.faults) w.arrange p.runToProfileRunDir).map
    fun r => ({ p with runToProfileRunDir := r.2 }, respond (.val (strList r.1)) "application/json")

/-- `run_tools_route`. -/
def Plugin.runToolsRoute (p : Plugin) (w : HttpWorld) (args : List (String × String)) :
    Except PyErr Response :=
  match args.lookup "run" with
  | some run => (generateToolsOfRun w.fs w.faults w.xspaceToToolNames p.runToProfileRunDir run).bind
      fun tools => respond (.val (strList tools)) "application/json"
  | none => .error (.keyError "None")

/-- `hosts_route`; a missing `tag` is a name that is no tool. -/
def hostsRoute (e : Env) (args : List (String × String)) : Except PyErr Response :=
  match args.lookup "run" with
  | some run => (hostImpl e run (argOr args "tag" "")).bind fun hosts =>
      respond (.val (hostList hosts)) "application/json"
  | none => .error noneRstrip

/-- `hlo_module_list_route`; a missing `run` reaches `_run_dir` as `None`. -/
def hloModuleListRoute (e : Env) (args : List (String × String)) : Except PyErr Response :=
  (hloModuleListImpl e (args.lookup "run")).bind fun text => respond (.val (.str text)) "text/plain"

/-- What `_get_graph_viewer_options(request)` returns. -/
structure GraphViewerOptions where
  nodeName : Option String
  moduleName : Option String
  graphWidth : Int
  showMetadata : Nat
  mergeFusion : Nat
  format : Option String
  type : Option String

/-- `_get_graph_viewer_options(request)`: `graph_width` read with `int` when `str.isdigit` holds,
`3` otherwise. -/
def getGraphViewerOptions (args : List (String × String)) : Except PyErr GraphViewerOptions := do
  let graphWidthStr := argOr args "graph_width" ""
  let graphWidth ← (if isdigit graphWidthStr then pyInt graphWidthStr else pure 3 : Except PyErr Int)
  return ⟨args.lookup "node_name", args.lookup "module_name", graphWidth,
    if args.lookup "show_metadata" = some "true" then 1 else 0,
    if args.lookup "merge_fusion" = some "true" then 1 else 0,
    args.lookup "format", args.lookup "type"⟩

/-- The arguments of the conversion a request made, if it made one. -/
def DataCall.convertArgs : DataCall → Option (List String × String × Bool)
  | .convert assetPaths tool useSavedResult => some (assetPaths, tool, useSavedResult)
  | _ => none

/-- The request `data_impl` reads from the arguments; a missing `tag` is a name that is no tool,
and a missing `host` behaves as `''`. -/
def dataRequest (run : String) (args : List (String × String)) : DataRequest :=
  ⟨run, argOr args "tag" "", argOr args "host" "", argOr args "use_saved_result" "true",
    (getGraphViewerOptions args).map fun _ => ()⟩

/-- `data_impl(request)`: the data and its content type.  A missing `run` raises in `_run_dir`. -/
def dataImplArgs (e : Env) (w : HttpWorld) (args : List (String × String)) :
    Except PyErr (Option (String × String)) :=
  match args.lookup "run" with
  | none => .error noneRstrip
  | some run =>
      let reply := dataImpl e w.version w.dataIo w.versions (dataRequest run args)
      reply.result.map fun data => data.map fun d =>
        (d, match reply.calls.findSome? DataCall.convertArgs with
          | some (assetPaths, tool, useSavedResult) =>
              w.dataContentType assetPaths tool useSavedResult
          | none => "application/json")

/-- `data_route`. -/
def dataRoute (e : Env) (w : HttpWorld) (args : List (String × String)) : Except PyErr Response :=
  match dataImplArgs e w args with
  | .ok none => respond (.val (.str "No Data")) "text/plain" 404
  | .ok (some (data, contentType)) => respond (.val (.str data)) contentType
  | .error err =>
      match dataRouteCatch err with
      | some msg => respond (.val (.str msg)) "text/plain" 500
      | none => .error err

/-- The handler of `route` for a request to `path`: the plugin after it, and the response or the
exception that escapes; `none` only if a walk runs out of fuel. -/
def Plugin.handle (p : Plugin) (w : HttpWorld) (route : Route) (path : String)
    (args : List (String × String)) : Option (Plugin × Except PyErr Response) :=
  match route with
  | .defaultHandler => some (p, defaultHandler w)
  | .staticFileRoute => some (p, staticFileRoute w path)
  | .runsRoute => p.runsRoute w
  | .runToolsRoute => some (p, p.runToolsRoute w args)
  | .hostsRoute => some (p, hostsRoute (w.toWorld.env p.logdir) args)
  | .dataRoute => some (p, dataRoute (w.toWorld.env p.logdir) w args)
  | .hloModuleListRoute => some (p, hloModuleListRoute (w.toWorld.env p.logdir) args)
  | .captureRoute => some (captureRouteImpl w.tf p args)

/-! ### A TensorBoard server -/

/-- What TensorBoard asks of the plugin. -/
inductive Event where
  | isActive
  | request (path : String) (args : List (String × String))

/-- What the plugin answers. -/
inductive Answer where
  | active (b : Bool)
  | response (r : Except PyErr Response)
  /-- A path outside `get_plugin_apps()`, which TensorBoard answers itself. -/
  | notFound

/-- One event: the plugin after it, and its answer. -/
def Plugin.event (p : Plugin) (w : HttpWorld) : Event → Option (Plugin × Answer)
  | .isActive => (p.isActiveCall w.toWorld).map fun r => (r.1, .active r.2)
  | .request path args =>
      match pluginApps.lookup path with
      | some route => (p.handle w route path args).map fun r => (r.1, .response r.2)
      | none => some (p, .notFound)

/-- A sequence of events, each in its own world. -/
def Plugin.run (p : Plugin) : List (HttpWorld × Event) → Option Plugin
  | [] => some p
  | (w, ev) :: rest => (p.event w ev).bind fun r => r.1.run rest

/-! ### Every response carries the security headers -/

/-- A response, if any, with the two security headers and `Content-Encoding: gzip`, and a
compressed body. -/
def Secure (x : Except PyErr Response) : Prop :=
  ∀ r, x = .ok r → r.headers = securityHeaders ++ [("Content-Encoding", "gzip")] ∧ ∃ b, r.body = .gzip b

theorem secure_respond (body : Body) (contentType : String) (code : Nat) :
    Secure (respond body contentType code) := by
  intro r h
  rw [respond_gzip] at h
  cases hb : bodyBytes body contentType with
  | error err => rw [hb] at h; cases h
  | ok b => rw [hb] at h; cases h; exact ⟨rfl, b, rfl⟩

theorem secure_error (err : PyErr) : Secure (.error err) := fun _ h => nomatch h

theorem Secure.bind {α : Type} (x : Except PyErr α) {f : α → Except PyErr Response}
    (hf : ∀ a, Secure (f a)) : Secure (x.bind f) := by
  cases x with
  | error err => exact secure_error err
  | ok a => exact hf a

theorem secure_traceAndRespond (tf : TensorFlow) (call : TraceCall) :
    Secure (traceAndRespond tf call) := by
  unfold traceAndRespond
  split <;> exact secure_respond _ _ _

theorem secure_captureRouteImpl (tf : TensorFlow) (p : Plugin) (args : List (String × String)) :
    Secure (captureRouteImpl tf p args).2 := by
  rcases captureRouteImpl_cases tf p args with ⟨_, _, h⟩ | ⟨_, _, h⟩ | ⟨_, h⟩ | ⟨_, h⟩ |
    ⟨_, _, _, _, _, _, _, _, h⟩ <;> rw [h] <;> dsimp only
  · exact secure_error _
  · exact secure_error _
  · exact secure_respond _ _ _
  · exact secure_traceAndRespond _ _
  · exact secure_traceAndRespond _ _

theorem secure_staticFileRoute (w : HttpWorld) (path : String) :
    Secure (staticFileRoute w path) := by
  unfold staticFileRoute
  split
  · exact secure_respond _ _ _
  · split_ifs
    · exact secure_respond _ _ _
    · exact secure_error _

theorem secure_dataRoute (e : Env) (w : HttpWorld) (args : List (String × String)) :
    Secure (dataRoute e w args) := by
  unfold dataRoute
  split
  · exact secure_respond _ _ _
  · exact secure_respond _ _ _
  · split
    · exact secure_respond _ _ _
    · exact secure_error _

theorem secure_handle (p : Plugin) (w : HttpWorld) (route : Route) (path : String)
    (args : List (String × String)) {p' : Plugin} {x : Except PyErr Response}
    (h : p.handle w route path args = some (p', x)) : Secure x := by
  cases route <;> simp only [Plugin.handle, Option.some.injEq, Prod.mk.injEq] at h
  · exact h.2 ▸ Secure.bind _ fun _ => secure_respond _ _ _
  · exact h.2 ▸ secure_staticFileRoute w path
  · obtain ⟨r, -, hr⟩ := Option.map_eq_some'.1 h
    cases hr
    exact secure_respond _ _ _
  · rw [← h.2, Plugin.runToolsRoute]
    split
    · exact Secure.bind _ fun _ => secure_respond _ _ _
    · exact secure_error _
  · rw [← h.2, hostsRoute]
    split
    · exact Secure.bind _ fun _ => secure_respond _ _ _
    · exact secure_error _
  · exact h.2 ▸ secure_dataRoute _ w args
  · exact h.2 ▸ Secure.bind _ fun _ => secure_respond _ _ _
  · have hs := secure_captureRouteImpl w.tf p args
    rw [h] at hs
    exact hs

/-- **Every response of the plugin carries the content security policy and `nosniff`, and is
compressed with `Content-Encoding: gzip`**, whatever the route, the request, the state of the
plugin and the world. -/
theorem event_secure {p p' : Plugin} {w : HttpWorld} {path : String} {args : List (String × String)}
    {r : Response} (h : p.event w (.request path args) = some (p', .response (.ok r))) :
    r.headers = securityHeaders ++ [("Content-Encoding", "gzip")] ∧ ∃ b, r.body = .gzip b := by
  simp only [Plugin.event] at h
  split at h
  · obtain ⟨⟨q, x⟩, hx, he⟩ := Option.map_eq_some'.1 h
    cases he
    exact secure_handle p w _ path args hx r rfl
  · cases h

theorem event_secure_indexJs :
    (Plugin.init "/logs" "").event HttpWorld.sample (.request INDEX_JS_ROUTE []) =
        some (Plugin.init "/logs" "", .response (.ok ⟨200, "application/javascript",
          securityHeaders ++ [("Content-Encoding", "gzip")], .gzip []⟩)) ∧
      securityHeaders ++ [("Content-Encoding", "gzip")] =
        securityHeaders ++ [("Content-Encoding", "gzip")] ∧ ∃ b, Payload.gzip [] = .gzip b :=
  have h : (Plugin.init "/logs" "").event HttpWorld.sample (.request INDEX_JS_ROUTE []) =
      some (Plugin.init "/logs" "", .response (.ok ⟨200, "application/javascript",
        securityHeaders ++ [("Content-Encoding", "gzip")], .gzip []⟩)) := rfl
  ⟨h, event_secure h⟩

/-! ### The packaged files the plugin reads -/

/-- The files under `static/` that the routes name: the last components of the static routes, and
`index.html` of the default handler. -/
def packagedFiles : List String :=
  ["index.js", "index.html", "bundle.js", "styles.css", "materialicons.woff2",
    "trace_viewer_index.html", "trace_viewer_index.js", "zone.js"]

/-- The static routes name their files by the last component of their path. -/
theorem pluginApps_static {path : String} (h : pluginApps.lookup path = some .staticFileRoute) :
    basename path ∈ packagedFiles := by
  obtain ⟨l₁, l₂, he, -⟩ := List.lookup_eq_some_iff.1 h
  have hm : (path, Route.staticFileRoute) ∈ pluginApps := by
    rw [he]
    simp
  have hall : ∀ x ∈ pluginApps, x.2 = .staticFileRoute → basename x.1 ∈ packagedFiles := by
    decide
  exact hall _ hm rfl

/-- **The plugin reads no packaged file but its eight.**  Whatever the events, their paths and
arguments, what the plugin answers depends on the files under `static/` only through
`index.html`, `index.js`, `bundle.js`, `styles.css`, `materialicons.woff2`,
`trace_viewer_index.html`, `trace_viewer_index.js` and `zone.js`: `static_file_route` takes the
last component of a path of the route table, never one the request chooses. -/
theorem event_staticFiles (p : Plugin) (w : HttpWorld) (f : String → Except PyErr (List UInt8))
    (hf : ∀ name ∈ packagedFiles, f name = w.staticFiles name) (ev : Event) :
    p.event { w with staticFiles := f } ev = p.event w ev := by
  cases ev with
  | isActive => rfl
  | request path args =>
    simp only [Plugin.event]
    cases hl : pluginApps.lookup path with
    | none => rfl
    | some route =>
      cases route
      case defaultHandler => simp only [Plugin.handle, defaultHandler, hf "index.html" (by decide)]
      case staticFileRoute =>
        simp only [Plugin.handle, staticFileRoute, hf _ (pluginApps_static hl)]
      case dataRoute => simp only [Plugin.handle, dataRoute, dataImplArgs]
      all_goals rfl

theorem event_staticFiles_indexJs :
    (∀ name ∈ packagedFiles, (fun name => if name ∈ packagedFiles then
        HttpWorld.sample.staticFiles name else .error (.fileNotFound name)) name =
          HttpWorld.sample.staticFiles name) ∧
      (Plugin.init "/logs" "").event { HttpWorld.sample with staticFiles := (fun name =>
          if name ∈ packagedFiles then HttpWorld.sample.staticFiles name
          else .error (.fileNotFound name)) } (.request INDEX_JS_ROUTE []) =
        (Plugin.init "/logs" "").event HttpWorld.sample (.request INDEX_JS_ROUTE []) :=
  have hf : ∀ name ∈ packagedFiles, (fun name => if name ∈ packagedFiles then
      HttpWorld.sample.staticFiles name else .error (.fileNotFound name)) name =
        HttpWorld.sample.staticFiles name := fun _ h => if_pos h
  ⟨hf, event_staticFiles (Plugin.init "/logs" "") HttpWorld.sample _ hf
    (.request INDEX_JS_ROUTE [])⟩

/-! ### What a client reads -/

@[simp] theorem strList_sortKeys (l : List String) : (strList l).sortKeys = strList l := by
  simp only [strList, PyVal.sortKeys, sortKeysList_eq, List.map_map]
  rfl

@[simp] theorem hostList_sortKeys (hosts : List String) :
    (hostList hosts).sortKeys = hostList hosts := by
  simp only [hostList, PyVal.sortKeys, sortKeysList_eq, List.map_map]
  congr 1
  refine List.map_congr_left fun h _ => ?_
  simp only [Function.comp_apply, PyVal.sortKeys, sortKeysItems, List.mergeSort_singleton]

/-- A client reads the JSON of a method's `list` or `dict` result, and an exception of the method
escapes as it is. -/
theorem bind_respond_json {α : Type} (x : Except PyErr α) (v : α → PyVal)
    (hv : ∀ a s, v a ≠ .str s) (hs : ∀ a, (v a).sortKeys = v a) :
    (x.bind fun a => respond (.val (v a)) "application/json").map Response.json =
      x.map (some ∘ v) := by
  cases x with
  | error err => rfl
  | ok a =>
    show (respond (.val (v a)) "application/json" 200).map Response.json = .ok (some (v a))
    rw [respond_json _ (hv a), hs]

/-- **What a client reads from the routes that answer a method's result.**  The JSON of
`runs_route`, `run_tools_route` and `hosts_route` is the list of names or of `{'hostname': ...}`
dicts their method returns, and `runs_route` leaves the cache `runs_imp` leaves; an exception of
the method escapes these routes, and `hlo_module_list_route`, as it is. -/
theorem routes_read (p : Plugin) (w : HttpWorld) (args : List (String × String)) (run : String)
    (hrun : args.lookup "run" = some run) :
    (p.runsRoute w).map (fun r => (r.1, r.2.map Response.json)) =
        (runsImp (w.env p.logdir) (listAssets w.fs w.faults) w.arrange p.runToProfileRunDir).map
          (fun r => ({ p with runToProfileRunDir := r.2 }, .ok (some (strList r.1)))) ∧
      (p.runToolsRoute w args).map Response.json =
        (generateToolsOfRun w.fs w.faults w.xspaceToToolNames p.runToProfileRunDir run).map
          (some ∘ strList) ∧
      (hostsRoute (w.env p.logdir) args).map Response.json =
        (hostImpl (w.env p.logdir) run (argOr args "tag" "")).map (some ∘ hostList) ∧
      ∀ err, hloModuleListImpl (w.env p.logdir) (some run) = .error err →
        hloModuleListRoute (w.env p.logdir) args = .error err := by
  have hstr : ∀ l s, strList l ≠ .str s := fun _ _ h => PyVal.noConfusion h
  refine ⟨?_, ?_, ?_, ?_⟩
  · rw [Plugin.runsRoute, Option.map_map]
    congr 1
    funext r
    simp only [Function.comp_apply, Prod.mk.injEq, true_and]
    rw [respond_json _ (hstr r.1), strList_sortKeys]
  · rw [Plugin.runToolsRoute, hrun]
    exact bind_respond_json _ _ hstr strList_sortKeys
  · rw [hostsRoute, hrun]
    exact bind_respond_json _ _ (fun _ _ h => PyVal.noConfusion h) hostList_sortKeys
  · intro err h
    rw [hloModuleListRoute, hrun, h]
    rfl

theorem routes_read_run1 :
    [("run", "run1")].lookup "run" = some "run1" ∧
      ((Plugin.init "/logs" "").runsRoute HttpWorld.sample).map
          (fun r => (r.1, r.2.map Response.json)) =
        (runsImp (HttpWorld.sample.env "/logs") (listAssets HttpWorld.sample.fs
          HttpWorld.sample.faults) HttpWorld.sample.arrange []).map
          (fun r => ({ Plugin.init "/logs" "" with runToProfileRunDir := r.2 },
            .ok (some (strList r.1)))) ∧
      ((Plugin.init "/logs" "").runToolsRoute HttpWorld.sample [("run", "run1")]).map
          Response.json =
        (generateToolsOfRun HttpWorld.sample.fs HttpWorld.sample.faults
          HttpWorld.sample.xspaceToToolNames [] "run1").map (some ∘ strList) ∧
      (hostsRoute (HttpWorld.sample.env "/logs") [("run", "run1")]).map Response.json =
        (hostImpl (HttpWorld.sample.env "/logs") "run1" (argOr [("run", "run1")] "tag" "")).map
          (some ∘ hostList) ∧
      ∀ err, hloModuleListImpl (HttpWorld.sample.env "/logs") (some "run1") = .error err →
        hloModuleListRoute (HttpWorld.sample.env "/logs") [("run", "run1")] = .error err :=
  ⟨rfl, routes_read (Plugin.init "/logs" "") HttpWorld.sample [("run", "run1")] "run1" rfl⟩

/-! ### What escapes `data_route` -/

/-- A tool that passes the check of `data_impl` has a file name: the `KeyError` of `TOOLS[...]`
in `make_filename` is never raised there. -/
theorem makeFilename_isSome {host tool : String}
    (h : ¬(tool ∉ TOOLS.map Prod.fst ∧ ¬useXplane tool = true)) :
    (makeFilename host tool).isSome := by
  have hmem : tool ∈ TOOLS.map Prod.fst ++ XPLANE_TOOLS ++ HLO_TOOLS := by
    simp only [useXplane, decide_eq_true_eq, not_and, not_not] at h
    by_cases ht : tool ∈ TOOLS.map Prod.fst
    · exact List.mem_append_left _ (List.mem_append_left _ ht)
    · exact List.mem_append_left _ (List.mem_append_right _ (h ht))
  obtain ⟨_, _, hl, _⟩ := catalog_extension tool hmem
  simp only [makeFilename, hl, Option.map_some', Option.isSome_some]

/-- `data_route` catches every `OSError`. -/
theorem dataRouteCatch_isOSError {err : PyErr} (h : err.isOSError) :
    (dataRouteCatch err).isSome := by
  cases err <;> simp_all [PyErr.isOSError, dataRouteCatch]

theorem xplaneAssetPaths_error {fs : Fs} {faults : List String → Option Nat}
    {runDir host assetPath : String} {err : PyErr}
    (h : xplaneAssetPaths fs faults runDir host assetPath = .error err) : (dataRouteCatch err).isSome := by
  unfold xplaneAssetPaths at h
  split_ifs at h
  split at h
  · rename_i err' hglob
    cases h
    split_ifs with hos
    · rfl
    · rw [Fs.epathGlob_raisesOnly _ _ _ hglob]; rfl
  · cases h

theorem validateXplaneAssetPaths_error {fs : Fs} {assetPaths : List String} {err : PyErr}
    (h : validateXplaneAssetPaths fs assetPaths = .error err) : err.isOSError := by
  induction assetPaths with
  | nil => cases h
  | cons assetPath assetPaths ih =>
    rw [validateXplaneAssetPaths] at h
    split_ifs at h
    · cases h
      rfl
    · exact ih h

/-- `_get_graph_viewer_options` raises nothing but the `ValueError` of `int`. -/
theorem getGraphViewerOptions_onlyValueErrors (args : List (String × String)) :
    OnlyValueErrors (getGraphViewerOptions args) := by
  refine OnlyValueErrors.bind ?_ fun _ => onlyValueErrors_pure _
  split
  · exact pyInt_onlyValueErrors _
  · exact onlyValueErrors_pure _

theorem map_eq_error {α β : Type} {f : α → β} {x : Except PyErr α} {err : PyErr}
    (h : x.map f = .error err) : x = .error err := by
  cases x with
  | error e =>
    cases h
    rfl
  | ok a => cases h

/-- The exceptions of `data_impl`: one that `data_route` catches (the `ValueError` of
`_get_graph_viewer_options`, the `UnicodeDecodeError` of the version file, the `ValueError` of a
NUL character in the glob, an `OSError` of the asset paths), that of `_run_dir`, or one of the
converter, its `AttributeError` with a new text. -/
theorem dataImpl_error {e : Env} {version : String} {io : DataOracle}
    {versions : List String → Option String} {run : String} {args : List (String × String)}
    {err : PyErr} (h : (dataImpl e version io versions (dataRequest run args)).result = .error err) :
    (dataRouteCatch err).isSome ∨ runDir e run = .error err ∨
      ∃ assetPaths tool useSavedResult cerr,
        io.convert assetPaths tool useSavedResult = .error cerr ∧
          err = reraiseConvertError cerr := by
  unfold dataImpl at h
  split at h
  · cases h
    exact .inr (.inl ‹_›)
  dsimp only at h
  split at h
  · -- the version check raised
    cases h
    obtain ⟨msg, -, rfl⟩ := checkCacheVersion_error ‹_›
    exact .inl (by simp [dataRouteCatch, VALUEERROR_SUBCLASSES])
  · -- `_get_graph_viewer_options` raised
    cases h
    obtain ⟨msg, rfl⟩ := getGraphViewerOptions_onlyValueErrors args _ (map_eq_error ‹_›)
    exact .inl rfl
  split at h
  · cases h
  rename_i htool
  split at h
  · rename_i hf
    exact absurd hf (Option.ne_none_iff_isSome.2 (makeFilename_isSome htool))
  split at h
  · split at h
    · cases h
      exact .inl (xplaneAssetPaths_error ‹_›)
    split at h
    · cases h
      exact .inl (dataRouteCatch_isOSError (validateXplaneAssetPaths_error ‹_›))
    split at h
    · cases h
      exact .inr (.inr ⟨_, _, _, _, ‹_›, rfl⟩)
    split at h <;> cases h
  · cases h

theorem getGraphViewerOptions_error {args : List (String × String)} {err : PyErr}
    (hd : isdigit (argOr args "graph_width" "") = true)
    (h : pyInt (argOr args "graph_width" "") = .error err) :
    getGraphViewerOptions args = .error err := by
  simp only [getGraphViewerOptions, hd, if_true, h]
  rfl

/-- **A `graph_width` that `str.isdigit` accepts and `int` rejects fails every data request.**
For a run with a directory whose `cache_version.txt`, if there is one, decodes, whatever the tool
and the host, `data_route` answers 500 with the text of the `ValueError` of `int`: `str.isdigit`
accepts the digits that are not decimal, such as `²`, and a text of more than 4300 decimal digits,
and `_get_graph_viewer_options` runs before the tool is looked at. -/
theorem dataRoute_graphWidth (e : Env) (w : HttpWorld) (args : List (String × String)) (run : String)
    (hrun : args.lookup "run" = some run) (hdir : ∃ d, runDir e run = .ok d)
    (hdecode : w.dataIo.decodeError = none)
    (hdigit : isdigit (argOr args "graph_width" "") = true)
    (hbad : ¬ ((argOr args "graph_width" "").data.all isDecimal ∧
      (argOr args "graph_width" "").data.length ≤ MAX_STR_DIGITS)) :
    ∃ msg, pyInt (argOr args "graph_width" "") = .error (.valueError msg) ∧
      dataRoute e w args = respond (.val (.str msg)) "text/plain" 500 := by
  obtain ⟨d, hd⟩ := hdir
  obtain ⟨msg, hmsg⟩ := pyInt_isdigit_error hdigit hbad
  refine ⟨msg, hmsg, ?_⟩
  have hg := getGraphViewerOptions_error hdigit hmsg
  obtain ⟨b, hb⟩ := checkCacheVersion_ok e.fs w.version w.versions d
    (pyLower (argOr args "use_saved_result" "true") != "false") hdecode
  simp only [dataRoute, dataImplArgs, hrun, dataImpl, dataRequest, hd, hg, hb]
  rfl

theorem dataRoute_graphWidth_superscript :
    [("run", "run1"), ("graph_width", "²")].lookup "run" = some "run1" ∧
      (∃ d, runDir (HttpWorld.sample.env "/logs") "run1" = .ok d) ∧
      HttpWorld.sample.dataIo.decodeError = none ∧
      isdigit (argOr [("run", "run1"), ("graph_width", "²")] "graph_width" "") = true ∧
      ¬ ((argOr [("run", "run1"), ("graph_width", "²")] "graph_width" "").data.all isDecimal ∧
        (argOr [("run", "run1"), ("graph_width", "²")] "graph_width" "").data.length ≤
          MAX_STR_DIGITS) ∧
      ∃ msg, pyInt (argOr [("run", "run1"), ("graph_width", "²")] "graph_width" "") =
          .error (.valueError msg) ∧
        dataRoute (HttpWorld.sample.env "/logs") HttpWorld.sample
            [("run", "run1"), ("graph_width", "²")] =
          respond (.val (.str msg)) "text/plain" 500 :=
  have hdir : ∃ d, runDir (HttpWorld.sample.env "/logs") "run1" = .ok d := ⟨_, rfl⟩
  have hdigit :
      isdigit (argOr [("run", "run1"), ("graph_width", "²")] "graph_width" "") = true := by
    decide
  have hbad : ¬ ((argOr [("run", "run1"), ("graph_width", "²")] "graph_width" "").data.all
      isDecimal ∧ (argOr [("run", "run1"), ("graph_width", "²")] "graph_width" "").data.length ≤
        MAX_STR_DIGITS) := by
    decide
  ⟨rfl, hdir, rfl, hdigit, hbad, dataRoute_graphWidth (HttpWorld.sample.env "/logs")
    HttpWorld.sample [("run", "run1"), ("graph_width", "²")] "run1" rfl hdir rfl hdigit hbad⟩

/-! ### The routes change the plugin as the methods do -/

/-- The part of the plugin's state that the methods read and write: the logdir, `_is_active` and
the cache. -/
def Plugin.methodState (p : Plugin) : String × Bool × List (String × String) :=
  (p.logdir, p.isActive, p.runToProfileRunDir)

/-- The calls of `is_active` and `runs_imp` that an event makes. -/
def Event.stateCalls : Event → List Call
  | .isActive => [.isActive]
  | .request path _ => if pluginApps.lookup path = some .runsRoute then [.runs] else []

/-- The method calls a sequence of events makes that change the plugin. -/
def stateCallsOf (events : List (HttpWorld × Event)) : List (World × Call) :=
  events.flatMap fun e => e.2.stateCalls.map (e.1.toWorld, ·)

/-- The methods neither read nor write `master_tpu_unsecure_channel`. -/
theorem Plugin.call_channel (p : Plugin) (x : String) (w : World) (c : Call) :
    { p with masterTpuUnsecureChannel := x }.call w c =
      (p.call w c).map fun r => ({ r.1 with masterTpuUnsecureChannel := x }, r.2) := by
  cases c <;> simp only [Plugin.call, Plugin.isActiveCall, Option.map_some', Option.map_map]
  · split_ifs <;> simp [Function.comp_def]
  all_goals rfl

theorem Plugin.serve_channel (p : Plugin) (x : String) (steps : List (World × Call)) :
    { p with masterTpuUnsecureChannel := x }.serve steps =
      (p.serve steps).map fun q => { q with masterTpuUnsecureChannel := x } := by
  induction steps generalizing p with
  | nil => rfl
  | cons s steps ih =>
    rw [Plugin.serve, Plugin.serve, Plugin.call_channel]
    cases p.call s.1 s.2 with
    | none => rfl
    | some r => exact ih r.1

theorem Plugin.serve_methodState_congr {p q : Plugin} (h : p.methodState = q.methodState)
    (steps : List (World × Call)) :
    (p.serve steps).map Plugin.methodState = (q.serve steps).map Plugin.methodState := by
  obtain ⟨logdir, channel, isActive, cache⟩ := p
  obtain ⟨logdir', channel', isActive', cache'⟩ := q
  obtain ⟨rfl, rfl, rfl⟩ : logdir = logdir' ∧ isActive = isActive' ∧ cache = cache' := by
    simpa [Plugin.methodState] using h
  show _ = ({ (⟨logdir, channel, isActive, cache⟩ : Plugin) with
    masterTpuUnsecureChannel := channel' }.serve steps).map _
  rw [Plugin.serve_channel, Option.map_map]
  rfl

theorem Plugin.serve_append (p : Plugin) (s₁ s₂ : List (World × Call)) :
    p.serve (s₁ ++ s₂) = (p.serve s₁).bind fun q => q.serve s₂ := by
  induction s₁ generalizing p with
  | nil => rfl
  | cons s s₁ ih =>
    rw [List.cons_append, Plugin.serve, Plugin.serve, Option.bind_assoc]
    congr 1
    funext r
    exact ih r.1

/-- A route returns; `runs_route` changes the plugin as `runs_imp` does, and every other route
leaves the logdir, the flag and the cache as they are. -/
theorem Plugin.handle_methodState (p : Plugin) (w : HttpWorld) (route : Route) (path : String)
    (args : List (String × String)) :
    ∃ p₁ x, p.handle w route path args = some (p₁, x) ∧
      ((route = .runsRoute ∧ ∃ r, p.call w.toWorld .runs = some (p₁, r)) ∨
        (route ≠ .runsRoute ∧ p₁.methodState = p.methodState)) := by
  cases route
  case runsRoute =>
    cases hr : runsImp (w.toWorld.env p.logdir) (listAssets w.fs w.faults) w.arrange
      p.runToProfileRunDir with
    | none =>
      have h := p.call_isSome w.toWorld .runs
      simp only [Plugin.call, hr, Option.map_none', Option.isSome_none, Bool.false_eq_true] at h
    | some r =>
      refine ⟨{ p with runToProfileRunDir := r.2 }, respond (.val (strList r.1)) "application/json",
        by simp only [Plugin.handle, Plugin.runsRoute, hr, Option.map_some'],
        .inl ⟨rfl, .ok (.names r.1), ?_⟩⟩
      simp only [Plugin.call, hr, Option.map_some']
  case captureRoute =>
    refine ⟨(captureRouteImpl w.tf p args).1, (captureRouteImpl w.tf p args).2, rfl,
      .inr ⟨Route.noConfusion, ?_⟩⟩
    rcases captureRouteImpl_state w.tf p args with h | ⟨_, _, _, _, _, _, _, h⟩ <;>
      simp only [h, Plugin.methodState]
  all_goals exact ⟨p, _, rfl, .inr ⟨Route.noConfusion, rfl⟩⟩

/-- One event changes the logdir, the flag and the cache as the calls of `is_active` and
`runs_imp` it makes do. -/
theorem Plugin.event_methodState (p : Plugin) (w : HttpWorld) (ev : Event) :
    ∃ p₁ a q₁, p.event w ev = some (p₁, a) ∧
      p.serve (ev.stateCalls.map (w.toWorld, ·)) = some q₁ ∧ p₁.methodState = q₁.methodState := by
  cases ev with
  | isActive =>
    obtain ⟨⟨q, r⟩, h⟩ := Option.isSome_iff_exists.1 (p.call_isSome w.toWorld .isActive)
    simp only [Plugin.call, Option.map_eq_some'] at h
    obtain ⟨⟨q', b⟩, hq, he⟩ := h
    simp only [Prod.mk.injEq] at he
    obtain ⟨rfl, -⟩ := he
    refine ⟨q', .active b, q', by simp only [Plugin.event, hq, Option.map_some'], ?_, rfl⟩
    simp only [Event.stateCalls, List.map_cons, List.map_nil, Plugin.serve, Plugin.call, hq,
      Option.map_some', Option.some_bind]
  | request path args =>
    cases hl : pluginApps.lookup path with
    | none =>
      refine ⟨p, .notFound, p, by simp only [Plugin.event, hl], ?_, rfl⟩
      simp only [Event.stateCalls, hl, reduceCtorEq, if_false, List.map_nil, Plugin.serve]
    | some route =>
      obtain ⟨p₁, x, hh, ⟨rfl, r, hr⟩ | ⟨hne, hs⟩⟩ := p.handle_methodState w route path args
      · refine ⟨p₁, .response x, p₁, by simp only [Plugin.event, hl, hh, Option.map_some'], ?_, rfl⟩
        simp only [Event.stateCalls, hl, if_true, List.map_cons, List.map_nil, Plugin.serve, hr,
          Option.some_bind]
      · refine ⟨p₁, .response x, p, by simp only [Plugin.event, hl, hh, Option.map_some'], ?_, hs⟩
        simp only [Event.stateCalls, hl, Option.some.injEq, hne, if_false, List.map_nil,
          Plugin.serve]

/-- **The routes change the plugin only as the methods they call do.**  Over every sequence of
TensorBoard events, in any worlds, the plugin returns, and its logdir, `_is_active` flag and cache
are those after the calls of `is_active` and `runs_imp` the events make; every other route, the
capture included, leaves them as they are. -/
theorem Plugin.run_methodState (p : Plugin) (events : List (HttpWorld × Event)) :
    ∃ p' q', p.run events = some p' ∧ p.serve (stateCallsOf events) = some q' ∧
      p'.methodState = q'.methodState := by
  induction events generalizing p with
  | nil => exact ⟨p, p, rfl, rfl, rfl⟩
  | cons e events ih =>
    obtain ⟨w, ev⟩ := e
    obtain ⟨p₁, a, q₁, he, hs, hm⟩ := p.event_methodState w ev
    obtain ⟨p', q', hr, hs', hm'⟩ := ih p₁
    have hq := Plugin.serve_methodState_congr hm (stateCallsOf events)
    rw [hs'] at hq
    obtain ⟨q'', hq'', hm''⟩ := Option.map_eq_some'.1 hq.symm
    refine ⟨p', q'', by rw [Plugin.run, he, Option.some_bind, hr], ?_, hm'.trans hm''.symm⟩
    rw [stateCallsOf, List.flatMap_cons, Plugin.serve_append, hs, Option.some_bind, ← stateCallsOf,
      hq'']

end ProfilePlugin
