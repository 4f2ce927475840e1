import VirtualFactory.Industrial.Json
import VirtualFactory.Industrial.ProtocolDriver

/-!
# REST

The HTTP session over libcurl and the adapter that maps JSON resources into
equipment.
-/

namespace VirtualFactory

open Foundation

/-!
# Configuration
-/

inductive RestHttpMethod where
  | get
  | post
  | put
  | patch
  deriving DecidableEq

inductive RestAuthKind where
  | none
  | basic
  | bearer
  deriving DecidableEq

structure RestAuthConfig where
  kind : RestAuthKind := .none
  username : String := ""
  password : String := ""
  bearerToken : String := ""

structure RestCommandMapping where
  command : String
  method : RestHttpMethod := .post
  path : String
  bodyTemplate : String

structure RestTelemetryMapping where
  name : String
  jsonPointer : String
  unit : String

structure RestEquipmentMapping where
  id : String
  type : String
  capabilities : List String := []
  commands : List RestCommandMapping := []
  telemetryPath : String := ""
  telemetry : List RestTelemetryMapping := []
  statePointer : String := ""
  faultPointer : String := ""

structure RestAdapterConfig where
  scheme : String := "http"
  host : String := "127.0.0.1"
  port : UInt16 := 80
  basePath : String := ""
  timeoutMs : Int := 2000
  healthPath : String := ""
  auth : RestAuthConfig := {}
  tlsVerify : Bool := true
  equipment : List RestEquipmentMapping := []

instance : EquipmentMapping RestEquipmentMapping where
  id m := m.id
  type m := m.type
  capabilities m := m.capabilities
  commands m := m.commands.map RestCommandMapping.command

/-!
# The session
-/

structure HttpSessionConfig where
  scheme : String := "http"
  host : String := "127.0.0.1"
  port : UInt16 := 80
  basePath : String := ""
  timeoutMs : Int := 2000
  tlsVerify : Bool := true
  useBasicAuth : Bool := false
  username : String := ""
  password : String := ""
  useBearerAuth : Bool := false
  bearerToken : String := ""
  deriving DecidableEq

structure HttpResponse where
  transportOk : Bool := false
  status : Int := 0
  body : String := ""
  error : String := ""

def HttpResponse.success (r : HttpResponse) : Bool :=
  r.transportOk && decide (200 ≤ r.status) && decide (r.status < 300)

def methodName : RestHttpMethod -> String
  | .get => "GET"
  | .post => "POST"
  | .put => "PUT"
  | .patch => "PATCH"

/-- The options of a handle when a transfer is performed on it. -/
structure CurlTransfer where
  url : String
  connectOnly : Bool
  method : RestHttpMethod
  body : String
  headers : List String
  timeoutMs : Int
  tlsVerify : Bool
  userpwd : Option String
  deriving DecidableEq

/-- The libcurl calls of a session. -/
inductive CurlCall where
  | init
  | cleanup
  | perform (transfer : CurlTransfer)
  deriving DecidableEq

/-- The answers of libcurl to the last call of a history.  A failed transfer is given
by the text of its code. -/
structure Libcurl where
  init : List CurlCall -> Bool
  perform : List CurlCall -> Except String (Int × String)
  deriving Inhabited

structure HttpSession where
  easy : Bool := false
  config : HttpSessionConfig := {}
  lastError : String := ""
  calls : List CurlCall := []

/-- Drop the slashes at the end, except for a leading one, and lead with a slash. -/
def trimSlashes (value : String) (keepLeading : Bool) : String :=
  let dropped := value.toList.reverse.dropWhile (fun c => c == '/')
  let kept :=
    if dropped = [] then value.toList.take 1 else dropped.reverse
  match kept with
  | [] => ""
  | c :: rest =>
      if keepLeading && c != '/' then String.ofList ('/' :: c :: rest)
      else String.ofList (c :: rest)

namespace HttpSession

def call (s : HttpSession) (c : CurlCall) : HttpSession :=
  { s with calls := c :: s.calls }

def close (s : HttpSession) : HttpSession :=
  if s.easy then { s.call .cleanup with easy := false } else s

def recreateHandle (lib : Libcurl) (s : HttpSession) : Bool × HttpSession :=
  let s := s.close.call .init
  if lib.init s.calls then (true, { s with easy := true })
  else (false, { s with lastError := "curl_easy_init failed" })

def configure (lib : Libcurl) (config : HttpSessionConfig) (s : HttpSession) :
    HttpSession :=
  (recreateHandle lib { s with config := config }).2

def originUrl (s : HttpSession) : String :=
  s.config.scheme ++ "://" ++ s.config.host ++ ":" ++ toString s.config.port.toNat

def joinUrl (s : HttpSession) (path : String) : String :=
  s.originUrl ++ trimSlashes s.config.basePath true ++ trimSlashes path true

def commonTransfer (s : HttpSession) (url : String) : CurlTransfer where
  url := url
  connectOnly := false
  method := .get
  body := ""
  headers := []
  timeoutMs := s.config.timeoutMs
  tlsVerify := s.config.tlsVerify
  userpwd :=
    if s.config.useBasicAuth then
      some (s.config.username ++ ":" ++ s.config.password)
    else none

def makeHeaders (s : HttpSession) (write : Bool) : List String :=
  ["Accept: application/json", "Expect:"] ++
    ((if write then ["Content-Type: application/json"] else []) ++
      (if s.config.useBearerAuth && s.config.bearerToken != "" then
        ["Authorization: Bearer " ++ s.config.bearerToken]
      else []))

def probeConnect (lib : Libcurl) (s : HttpSession) : Bool × HttpSession :=
  match recreateHandle lib { s with lastError := "" } with
  | (false, s) => (false, s)
  | (true, s) =>
      let s :=
        s.call (.perform
          { s.commonTransfer (s.originUrl ++ "/") with connectOnly := true })
      match lib.perform s.calls with
      | .error text =>
          (false, { s with lastError := "connect failed: " ++ text }.close)
      | .ok _ => recreateHandle lib s

def request (lib : Libcurl) (method : RestHttpMethod) (path body : String)
    (s : HttpSession) : HttpResponse × HttpSession :=
  let s := { s with lastError := "" }
  let opened := if s.easy then (true, s) else recreateHandle lib s
  match opened with
  | (false, s) => ({ error := s.lastError }, s)
  | (true, s) =>
      let s :=
        s.call (.perform
          { s.commonTransfer (s.joinUrl path) with
            method := method
            body := if method = .get then "" else body
            headers := s.makeHeaders (decide (method ≠ .get)) })
      match lib.perform s.calls with
      | .error text =>
          let error := "HTTP request failed: " ++ text
          ({ error := error }, { s with lastError := error })
      | .ok (status, received) =>
          let response : HttpResponse :=
            { transportOk := true, status := status, body := received }
          if response.success then (response, s)
          else
            let error :=
              "HTTP " ++ toString status ++ " " ++ methodName method ++ " " ++ path
            ({ response with error := error }, { s with lastError := error })

end HttpSession

/-!
# The adapter
-/

abbrev RestLink := Link HttpSession

abbrev RestIndustrialAdapter :=
  ProtocolAdapter RestAdapterConfig RestEquipmentMapping HttpSession

namespace RestIndustrialAdapter

def new (id : String) (config : RestAdapterConfig) : RestIndustrialAdapter :=
  ProtocolAdapter.create id config {}

def protocol : String := "rest"

def isWriteMethod (method : RestHttpMethod) : Bool :=
  decide (method = .post ∨ method = .put ∨ method = .patch)

def substituteValue (text : TextLib) (bodyTemplate : String) (value : Double) :
    String :=
  substituteNumber text bodyTemplate value

def jsonAsDouble (text : TextLib) (node : Json) : Option Double :=
  node.asDouble text

def jsonAsBool (node : Json) : Option Bool :=
  node.asBool

def pointerValue (text : TextLib) (doc : Json) (pointer : String) : Option Json :=
  if pointer = "" then none else text.pointer pointer doc

/-- A request on behalf of the adapter: without success, the link is faulted. -/
def performRequest (lib : Libcurl) (method : RestHttpMethod) (path body : String)
    (link : RestLink) : Option String × RestLink :=
  let r := link.session.request lib method path body
  let link := { link with session := r.2 }
  if r.1.success then (some r.1.body, link)
  else
    (none, link.enterFault (if r.1.error = "" then r.2.lastError else r.1.error))

def performMappedGet (lib : Libcurl) (path : String) (link : RestLink) :
    Option String × RestLink :=
  if path = "" then (none, link.enterFault "REST GET failed: empty path")
  else performRequest lib .get path "" link

def performMappedWrite (lib : Libcurl) (method : RestHttpMethod)
    (path body : String) (link : RestLink) : Bool × RestLink :=
  if !isWriteMethod method || path == "" then
    (false, link.enterFault "REST write failed: invalid method or path")
  else
    let r := performRequest lib method path body link
    (r.1.isSome, r.2)

/-- Decode a value of the document; a missing or unusable value faults the link. -/
def decodeNode {value : Type} (text : TextLib) (decode : Json -> Option value)
    (doc : Json) (pointer error : String) (link : RestLink) :
    Option value × RestLink :=
  match (pointerValue text doc pointer).bind decode with
  | none => (none, link.enterFault error)
  | some v => (some v, link)

def decodeSteps (text : TextLib) (m : RestEquipmentMapping) (doc : Json) :
    List (ReadStep RestLink) :=
  ReadStep.signalSteps
    (m.telemetry.map
      (fun point =>
        ⟨point.name, point.unit,
          decodeNode text (jsonAsDouble text) doc point.jsonPointer
            ("missing or invalid telemetry pointer " ++ point.jsonPointer)⟩))
    (if m.statePointer ≠ "" then
      some (decodeNode text jsonAsBool doc m.statePointer
        "missing or invalid state pointer") else none)
    (if m.faultPointer ≠ "" then
      some (decodeNode text jsonAsBool doc m.faultPointer
        "missing or invalid fault pointer") else none)

/-- `BoundEquipment::refreshFromServer`: one request, then the values of its
document. -/
def refreshPlan (text : TextLib) (lib : Libcurl) (m : RestEquipmentMapping) :
    ReadPlan RestLink := fun link =>
  if m.telemetryPath = "" then
    if m.telemetry.isEmpty && m.statePointer == "" && m.faultPointer == "" then
      (some [], link)
    else (none, link)
  else
    match performMappedGet lib m.telemetryPath link with
    | (none, link) => (none, link)
    | (some body, link) =>
        match text.parse body with
        | none => (none, link.enterFault "invalid JSON in telemetry response")
        | some doc => (some (decodeSteps text m doc), link)

/-- `BoundEquipment::execute`. -/
def runCommand (text : TextLib) (lib : Libcurl) (command : String)
    (parameter : Double) (m : RestEquipmentMapping) (link : RestLink) :
    CommandResult × RestLink :=
  link.execute (m.commands.find? (fun entry => entry.command = command))
    fun mapped link =>
      if !isWriteMethod mapped.method then
        (⟨false, "command mapping must be POST, PUT, or PATCH"⟩, link)
      else
        let body := substituteValue text mapped.bodyTemplate parameter
        Link.written "http write failed"
          (performMappedWrite lib mapped.method mapped.path body link)

def sessionConfig (config : RestAdapterConfig) : HttpSessionConfig where
  scheme := config.scheme
  host := config.host
  port := config.port
  basePath := config.basePath
  timeoutMs := config.timeoutMs
  tlsVerify := config.tlsVerify
  useBasicAuth := decide (config.auth.kind = .basic)
  username := if config.auth.kind = .basic then config.auth.username else ""
  password := if config.auth.kind = .basic then config.auth.password else ""
  useBearerAuth := decide (config.auth.kind = .bearer)
  bearerToken := if config.auth.kind = .bearer then config.auth.bearerToken else ""

def connect (lib : Libcurl) (a : RestIndustrialAdapter) :
    Bool × RestIndustrialAdapter :=
  if a.link.connectionState = .connected then (true, a)
  else if a.config.host = "" ∨ a.config.port = 0 ∨ a.config.scheme = "" then
    (false, a.enterFault "missing REST origin scheme, host, or port")
  else
    let a :=
      a.withSession (a.link.session.close.configure lib (sessionConfig a.config))
    let bindAll := fun a : RestIndustrialAdapter =>
      (a.bindEquipment a.config.equipment).enterConnected
    if a.config.healthPath ≠ "" then
      match performMappedGet lib a.config.healthPath a.link with
      | (none, link) => (false, { a with link := link })
      | (some _, link) => (true, bindAll { a with link := link })
    else
      match a.link.session.probeConnect lib with
      | (false, s) =>
          (false,
            (a.withSession s).enterFault
              ("REST origin connect failed: " ++ s.lastError))
      | (true, s) => (true, bindAll (a.withSession s))

def disconnect (a : RestIndustrialAdapter) : RestIndustrialAdapter :=
  a.disconnectWith HttpSession.close

/-- Most failing refreshes have recorded their fault already. -/
def readFailed (link : RestLink) : RestLink :=
  if link.lastError = "" then
    link.enterFault ("REST read failed during poll: " ++ link.session.lastError)
  else link

def poll (text : TextLib) (lib : Libcurl) (a : RestIndustrialAdapter) :
    RestIndustrialAdapter :=
  a.pollWith (fun s => s) (refreshPlan text lib) readFailed

def execute (text : TextLib) (lib : Libcurl) (a : RestIndustrialAdapter)
    (equipmentId command : String) (parameter : Double) :
    Option (CommandResult × RestIndustrialAdapter) :=
  a.executeWith (runCommand text lib command parameter) equipmentId

/-!
# The promises of the driver
-/

/-- A request makes the handle it needs. -/
def IsOpen (_ : HttpSession) : Prop :=
  True

theorem recreateHandle_error (lib : Libcurl) (s : HttpSession)
    (h : (s.recreateHandle lib).1 = false) :
    (s.recreateHandle lib).2.lastError = "curl_easy_init failed" := by
  unfold HttpSession.recreateHandle at h ⊢
  dsimp only at h ⊢
  split at h
  · cases h
  · rename_i hinit
    rw [if_neg hinit]

theorem request_error (lib : Libcurl) (method : RestHttpMethod)
    (path body : String) (s : HttpSession)
    (h : (s.request lib method path body).1.success = false) :
    (s.request lib method path body).1.error ≠ "" := by
  have herror := recreateHandle_error lib { s with lastError := "" }
  revert h
  unfold HttpSession.request
  dsimp only
  split
  · rename_i s' hopened
    intro _
    have hs' : s'.lastError = "curl_easy_init failed" := by
      split at hopened
      · cases hopened
      · rw [hopened] at herror
        exact herror rfl
    show s'.lastError ≠ ""
    rw [hs']
    decide
  · split
    · intro _
      exact append_ne_empty (by decide) _
    · split
      · rename_i hsuccess
        intro h
        rw [h] at hsuccess
        cases hsuccess
      · intro _
        simp only [String.append_assoc]
        exact append_ne_empty (by decide) _

theorem performRequest_cases (lib : Libcurl) (method : RestHttpMethod)
    (path body : String) (link : RestLink) :
    ((performRequest lib method path body link).1.isSome = true ∧
        exists s : HttpSession,
          (performRequest lib method path body link).2 =
            { link with session := s }) ∨
      ((performRequest lib method path body link).1 = none ∧
        (performRequest lib method path body link).2.Down) := by
  have herror := request_error lib method path body link.session
  unfold performRequest
  dsimp only
  split
  · exact Or.inl ⟨rfl, _, rfl⟩
  · rename_i hsuccess
    have hne := herror (by simpa using hsuccess)
    rw [if_neg hne]
    exact Or.inr ⟨rfl, Link.down_enterFault _ hne⟩

theorem performMappedGet_cases (lib : Libcurl) (path : String) (link : RestLink) :
    ((performMappedGet lib path link).1.isSome = true ∧
        exists s : HttpSession,
          (performMappedGet lib path link).2 = { link with session := s }) ∨
      ((performMappedGet lib path link).1 = none ∧
        (performMappedGet lib path link).2.Down) := by
  unfold performMappedGet
  split
  · exact Or.inr ⟨rfl, Link.down_enterFault _ (by decide)⟩
  · exact performRequest_cases lib .get path "" link

theorem moves_session {before link : RestLink} (h : before.Moves IsOpen link)
    (s : HttpSession) : before.Moves IsOpen { link with session := s } :=
  ⟨h.sameState, h.sameError, fun _ => trivial⟩

theorem readFailed_cases (link : RestLink) :
    (readFailed link).Down ∨ (readFailed link = link ∧ link.lastError ≠ "") := by
  unfold readFailed
  split
  · exact Or.inl (Link.down_enterFault _ (append_ne_empty (by decide) _))
  · rename_i herror
    exact Or.inr ⟨rfl, herror⟩

theorem decodeNode_keeps {value : Type} (text : TextLib)
    (decode : Json -> Option value) (doc : Json) (pointer : String)
    {error : String} (herror : error ≠ "") (before : RestLink) :
    ReadStep.ReadKeeps (before.Moves IsOpen) (before.Ends IsOpen)
      (decodeNode text decode doc pointer error) := by
  intro link hlink
  unfold decodeNode
  split
  · exact ⟨fun h => Bool.noConfusion h,
      fun _ => Or.inr (link.down_enterFault herror)⟩
  · exact ⟨fun _ => hlink, fun h => Bool.noConfusion h⟩

theorem decodeSteps_keep (text : TextLib) (m : RestEquipmentMapping) (doc : Json)
    (before : RestLink) :
    forall step, step ∈ decodeSteps text m doc ->
      step.Keeps (before.Moves IsOpen) (before.Ends IsOpen) := by
  apply ReadStep.signalSteps_keep
  · intro p hp
    rcases List.mem_map.mp hp with ⟨point, _, rfl⟩
    exact decodeNode_keeps text _ doc point.jsonPointer
      (append_ne_empty (by decide) _) before
  · intro read hread
    split at hread <;> cases hread
    exact decodeNode_keeps text _ doc m.statePointer (by decide) before
  · intro read hread
    split at hread <;> cases hread
    exact decodeNode_keeps text _ doc m.faultPointer (by decide) before

theorem refreshPlan_keeps (text : TextLib) (lib : Libcurl)
    (m : RestEquipmentMapping) (before : RestLink) :
    (refreshPlan text lib m).Keeps (before.Moves IsOpen) (before.Ends IsOpen) := by
  intro link hlink
  unfold refreshPlan
  split
  · split
    · refine ⟨hlink, ?_⟩
      intro step hstep
      cases hstep
    · exact Or.inl hlink
  · have hget := performMappedGet_cases lib m.telemetryPath link
    split
    · rename_i link' hresult
      rw [hresult] at hget
      rcases hget with ⟨hsome, _⟩ | ⟨_, hdown⟩
      · cases hsome
      · exact Or.inr hdown
    · rename_i body link' hresult
      rw [hresult] at hget
      rcases hget with ⟨_, s, hs⟩ | ⟨hnone, _⟩
      · split
        · exact Or.inr (Link.down_enterFault _ (by decide))
        · rename_i doc _
          have hmoves : before.Moves IsOpen link' := by
            rw [show link' = { link with session := s } from hs]
            exact moves_session hlink s
          exact ⟨hmoves, decodeSteps_keep text m doc before⟩
      · cases hnone

theorem runCommand_ends (text : TextLib) (lib : Libcurl) (command : String)
    (parameter : Double) (m : RestEquipmentMapping) (link : RestLink) :
    link.Ends IsOpen (runCommand text lib command parameter m link).2 := by
  have hrefl := link.moves_refl IsOpen
  apply Link.execute_ends
  intro mapped
  dsimp only
  split
  · exact Or.inl hrefl
  · rw [Link.written_snd]
    unfold performMappedWrite
    split
    · exact Or.inr (Link.down_enterFault _ (by decide))
    · rcases performRequest_cases lib mapped.method mapped.path
          (substituteValue text mapped.bodyTemplate parameter) link with
        ⟨_, s, hs⟩ | ⟨_, hdown⟩
      · exact Or.inl (hs ▸ moves_session hrefl s)
      · exact Or.inr hdown

theorem connect_cases (lib : Libcurl) (a : RestIndustrialAdapter)
    (h : a.link.connectionState ≠ .connected) :
    ((connect lib a).1 = true ∧
        ProtocolAdapter.Opened RestAdapterConfig.equipment IsOpen a
          (connect lib a).2) ∨
      ((connect lib a).1 = false ∧
        ProtocolAdapter.Refused a (connect lib a).2) := by
  unfold connect
  rw [if_neg h]
  split
  · exact Or.inr
      ⟨rfl, ProtocolAdapter.refused_enterFault a a.link.session (by decide)⟩
  · dsimp only
    split
    · have hget := performMappedGet_cases lib a.config.healthPath
        (a.withSession
          (a.link.session.close.configure lib (sessionConfig a.config))).link
      split
      · rename_i link hresult
        rw [show performMappedGet lib a.config.healthPath _ = _ from hresult] at hget
        rcases hget with ⟨hsome, _⟩ | ⟨_, hdown⟩
        · cases hsome
        · exact Or.inr ⟨rfl, rfl, rfl, rfl, hdown⟩
      · exact Or.inl ⟨rfl, ProtocolAdapter.opened_enterConnected _ a trivial⟩
    · split
      · exact Or.inr
          ⟨rfl,
            ProtocolAdapter.refused_enterFault a _ (append_ne_empty (by decide) _)⟩
      · exact Or.inl ⟨rfl, ProtocolAdapter.opened_enterConnected _ a trivial⟩

end RestIndustrialAdapter

/-- The libraries behind a REST adapter. -/
structure RestLib where
  text : TextLib
  curl : Libcurl
  deriving Inhabited

instance : ProtocolDriver RestAdapterConfig RestEquipmentMapping HttpSession
    RestLib where
  protocol := RestIndustrialAdapter.protocol
  equipment := RestAdapterConfig.equipment
  isOpen := RestIndustrialAdapter.IsOpen
  connect lib := RestIndustrialAdapter.connect lib.curl
  disconnect := RestIndustrialAdapter.disconnect
  poll lib := RestIndustrialAdapter.poll lib.text lib.curl
  execute lib := RestIndustrialAdapter.execute lib.text lib.curl
  close := HttpSession.close
  prepare _ s := s
  plan lib := RestIndustrialAdapter.refreshPlan lib.text lib.curl
  fail := RestIndustrialAdapter.readFailed
  run lib _ := RestIndustrialAdapter.runCommand lib.text lib.curl
  disconnect_eq _ := rfl
  poll_eq _ _ := rfl
  execute_eq _ _ _ _ _ := rfl
  connect_of_connected _ _ h := if_pos h
  connect_cases lib := RestIndustrialAdapter.connect_cases lib.curl
  prepare_isOpen _ _ hs := hs
  plan_keeps lib := RestIndustrialAdapter.refreshPlan_keeps lib.text lib.curl
  fail_cases := RestIndustrialAdapter.readFailed_cases
  run_of_not_connected _ _ _ _ _ _ h := runMapped_of_not_connected h _ _ _
  run_ends lib _ := RestIndustrialAdapter.runCommand_ends lib.text lib.curl

end VirtualFactory
