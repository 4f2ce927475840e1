import VirtualFactory.Industrial.Rest
import VirtualFactory.Industrial.ProtocolWire

/-!
# The requests of REST

A request is the transfer that libcurl performs.  A transfer that only connects asks the
server for nothing.
-/

namespace VirtualFactory

open Foundation


namespace RestRequest

def isWrite (transfer : CurlTransfer) : Bool :=
  decide (transfer.method ≠ .get)

def ofCall : CurlCall -> Option CurlTransfer
  | .perform transfer => if transfer.connectOnly then none else some transfer
  | _ => none

def ofSession (s : HttpSession) : List CurlTransfer :=
  chronicle ofCall s.calls

/-- The transfer of a request, which depends on the configuration of its session only. -/
def transferOf (config : HttpSessionConfig) (method : RestHttpMethod)
    (path body : String) : CurlTransfer :=
  let s : HttpSession := { config := config }
  { s.commonTransfer (s.joinUrl path) with
    method := method
    body := if method = .get then "" else body
    headers := s.makeHeaders (decide (method ≠ .get)) }

def scan (config : HttpSessionConfig) (m : RestEquipmentMapping) : List CurlTransfer :=
  if m.telemetryPath = "" then [] else [transferOf config .get m.telemetryPath ""]

def ofCommand (text : TextLib) (config : HttpSessionConfig) (parameter : Double)
    (mapped : RestCommandMapping) : List CurlTransfer :=
  if !RestIndustrialAdapter.isWriteMethod mapped.method || mapped.path == "" then []
  else
    [transferOf config mapped.method mapped.path
      (RestIndustrialAdapter.substituteValue text mapped.bodyTemplate parameter)]

def greeting (config : RestAdapterConfig) : List CurlTransfer :=
  if config.healthPath = "" then []
  else
    [transferOf (RestIndustrialAdapter.sessionConfig config) .get config.healthPath ""]

theorem filter_ofCommand (text : TextLib) (config : HttpSessionConfig)
    (parameter : Double) (mapped : RestCommandMapping) :
    (ofCommand text config parameter mapped).filter isWrite =
      ofCommand text config parameter mapped := by
  unfold ofCommand
  split
  · rfl
  · rename_i hwrite
    have hmethod : mapped.method ≠ .get := by
      intro hget
      simp [hget, RestIndustrialAdapter.isWriteMethod] at hwrite
    rw [List.filter_eq_self]
    intro transfer htransfer
    rw [List.mem_singleton.mp htransfer]
    exact decide_eq_true hmethod

theorem length_ofCommand (text : TextLib) (config : HttpSessionConfig)
    (parameter : Double) (mapped : RestCommandMapping) :
    (ofCommand text config parameter mapped).length ≤ 1 := by
  unfold ofCommand
  split <;> simp

theorem session_readFailed (link : RestLink) :
    (RestIndustrialAdapter.readFailed link).session = link.session := by
  unfold RestIndustrialAdapter.readFailed
  split <;> rfl

theorem ofSession_call (s : HttpSession) (c : CurlCall) :
    ofSession (s.call c) = ofSession s ++ (ofCall c).toList :=
  chronicle_cons ofCall c s.calls

theorem ofSession_close (s : HttpSession) : ofSession s.close = ofSession s := by
  unfold HttpSession.close
  split
  · exact (ofSession_call s _).trans (List.append_nil _)
  · rfl

theorem recreateHandle_same (lib : Libcurl) (s : HttpSession) :
    ofSession (s.recreateHandle lib).2 = ofSession s ∧
      (s.recreateHandle lib).2.config = s.config := by
  have hclose : s.close.config = s.config := by
    unfold HttpSession.close
    split <;> rfl
  have hinit : ofSession (s.close.call .init) = ofSession s :=
    (ofSession_call _ _).trans ((List.append_nil _).trans (ofSession_close s))
  unfold HttpSession.recreateHandle
  dsimp only
  split <;> exact ⟨hinit, hclose⟩

theorem ofSession_probeConnect (lib : Libcurl) (s : HttpSession) :
    ofSession (s.probeConnect lib).2 = ofSession s := by
  have hopened := (recreateHandle_same lib { s with lastError := "" }).left
  have hprobe : forall u : HttpSession,
      ofSession (u.call (.perform
        { u.commonTransfer (u.originUrl ++ "/") with connectOnly := true })) =
          ofSession u :=
    fun u => (ofSession_call u _).trans (List.append_nil _)
  unfold HttpSession.probeConnect
  split
  · rename_i s' hs'
    rw [hs'] at hopened
    exact hopened
  · rename_i s' hs'
    rw [hs'] at hopened
    dsimp only
    split
    · exact (ofSession_close _).trans ((hprobe s').trans hopened)
    · exact (recreateHandle_same lib _).left.trans ((hprobe s').trans hopened)

theorem request_follows (lib : Libcurl) (method : RestHttpMethod) (path body : String)
    (s : HttpSession) :
    (s.request lib method path body).2.config = s.config ∧
      Follows ofSession [transferOf s.config method path body]
        (s.request lib method path body).1.success s
        (s.request lib method path body).2 := by
  have hopened : forall r : Bool × HttpSession,
      (if s.easy then (true, { s with lastError := "" })
        else HttpSession.recreateHandle lib { s with lastError := "" }) = r ->
      ofSession r.2 = ofSession s ∧ r.2.config = s.config := by
    intro r hr
    subst hr
    split
    · exact ⟨rfl, rfl⟩
    · exact recreateHandle_same lib { s with lastError := "" }
  unfold HttpSession.request
  dsimp only
  split
  · rename_i s' hs'
    have hsame := hopened _ hs'
    exact ⟨hsame.right, follows_failed hsame.left _⟩
  · rename_i s' hs'
    have hsame := hopened _ hs'
    have hsent : forall t : HttpSession, t.calls =
        (s'.call (.perform (transferOf s.config method path body))).calls ->
          ofSession t = ofSession s ++ [transferOf s.config method path body] := by
      intro t ht
      unfold ofSession
      rw [ht]
      exact (ofSession_call s' _).trans (congrArg (· ++ _) hsame.left)
    have hcalls : (s'.call (.perform
        { s'.commonTransfer (s'.joinUrl path) with
          method := method
          body := if method = .get then "" else body
          headers := s'.makeHeaders (decide (method ≠ .get)) })).calls =
        (s'.call (.perform (transferOf s.config method path body))).calls := by
      rw [← hsame.right]
      rfl
    split
    · exact ⟨hsame.right, follows_whole (hsent _ hcalls) _⟩
    · split
      · exact ⟨hsame.right, follows_whole (hsent _ hcalls) _⟩
      · exact ⟨hsame.right, follows_whole (hsent _ hcalls) _⟩

theorem performRequest_follows (lib : Libcurl) (method : RestHttpMethod)
    (path body : String) (link : RestLink) :
    (RestIndustrialAdapter.performRequest lib method path body link).2.session.config =
        link.session.config ∧
      Follows ofSession [transferOf link.session.config method path body]
        (RestIndustrialAdapter.performRequest lib method path body link).1.isSome
        link.session
        (RestIndustrialAdapter.performRequest lib method path body link).2.session := by
  have hrequest := request_follows lib method path body link.session
  unfold RestIndustrialAdapter.performRequest
  dsimp only
  split
  · rename_i hsuccess
    exact ⟨hrequest.left, hrequest.right.weaken (fun _ => hsuccess)⟩
  · exact ⟨hrequest.left, hrequest.right.weaken (fun h => Bool.noConfusion h)⟩

theorem performMappedGet_follows (lib : Libcurl) {path : String} (h : path ≠ "")
    (link : RestLink) :
    Follows ofSession [transferOf link.session.config .get path ""]
      (RestIndustrialAdapter.performMappedGet lib path link).1.isSome link.session
      (RestIndustrialAdapter.performMappedGet lib path link).2.session := by
  unfold RestIndustrialAdapter.performMappedGet
  rw [if_neg h]
  exact (performRequest_follows lib .get path "" link).right

theorem decodeSteps_say (text : TextLib) (m : RestEquipmentMapping) (doc : Json)
    (config : HttpSessionConfig) :
    ReadStep.RefreshSays (fun link : RestLink => ofSession link.session)
      (fun link => link.session.config = config) []
      (RestIndustrialAdapter.decodeSteps text m doc) := by
  have hdecode : forall {value : Type} (decode : Json -> Option value)
      (pointer error : String),
      ReadStep.ReadSays (fun link : RestLink => ofSession link.session)
        (fun link => link.session.config = config) []
        (RestIndustrialAdapter.decodeNode text decode doc pointer error) := by
    intro value decode pointer error link hlink
    unfold RestIndustrialAdapter.decodeNode
    split <;> exact ⟨hlink, follows_nil rfl _⟩
  have hsignal : forall (pointer error : String),
      ReadStep.SignalSays (fun link : RestLink => ofSession link.session)
        (fun link => link.session.config = config) []
        (if pointer ≠ "" then
          some (RestIndustrialAdapter.decodeNode text RestIndustrialAdapter.jsonAsBool
            doc pointer error) else none) := by
    intro pointer error
    split
    · exact hdecode _ pointer error
    · rfl
  have hnothing : m.telemetry.flatMap (fun _ => ([] : List CurlTransfer)) ++ ([] ++ []) =
      [] := by
    simp
  rw [← hnothing]
  exact ReadStep.signalSteps_says (fun point _ => hdecode _ _ _)
    (hsignal m.statePointer "missing or invalid state pointer")
    (hsignal m.faultPointer "missing or invalid fault pointer")

theorem plan_follows (text : TextLib) (lib : Libcurl) (m : RestEquipmentMapping)
    (e : GenericEquipment) (link : RestLink) :
    ((RestIndustrialAdapter.refreshPlan text lib m).refresh e link).2.2.session.config =
        link.session.config ∧
      Follows ofSession (scan link.session.config m)
        ((RestIndustrialAdapter.refreshPlan text lib m).refresh e link).1 link.session
        ((RestIndustrialAdapter.refreshPlan text lib m).refresh e link).2.2.session := by
  unfold ReadPlan.refresh RestIndustrialAdapter.refreshPlan scan
  by_cases hpath : m.telemetryPath = ""
  · rw [if_pos hpath, if_pos hpath]
    split
    · rename_i s' hplan
      split at hplan <;> cases hplan
      exact ⟨rfl, follows_nil rfl _⟩
    · rename_i steps s' hplan
      split at hplan <;> cases hplan
      exact ⟨rfl, follows_nil rfl _⟩
  · rw [if_neg hpath, if_neg hpath]
    have hget := performRequest_follows lib .get m.telemetryPath "" link
    unfold RestIndustrialAdapter.performMappedGet
    rw [if_neg hpath]
    rcases hperform : RestIndustrialAdapter.performRequest lib .get m.telemetryPath ""
      link with ⟨received, after⟩
    rw [hperform] at hget
    cases received with
    | none => exact hget
    | some body =>
        dsimp only
        cases text.parse body with
        | none => exact ⟨hget.left, hget.right.weaken (fun _ => rfl)⟩
        | some doc =>
            have hsteps := decodeSteps_say text m doc link.session.config e after hget.left
            refine ⟨hsteps.left, ?_⟩
            have hdecoded : Follows ofSession []
                (ReadStep.refresh (RestIndustrialAdapter.decodeSteps text m doc) e after).1
                after.session
                (ReadStep.refresh (RestIndustrialAdapter.decodeSteps text m doc) e
                  after).2.2.session := hsteps.right
            have hall := Follows.trans hget.right hdecoded
            rwa [List.append_nil] at hall

theorem runCommand_follows (text : TextLib) (lib : Libcurl) (command : String)
    (parameter : Double) (m : RestEquipmentMapping) (link : RestLink) :
    Follows ofSession
      ((m.commands.find? (fun entry => entry.command = command)).elim []
        (ofCommand text link.session.config parameter))
      (RestIndustrialAdapter.runCommand text lib command parameter m link).1.accepted
      link.session
      (RestIndustrialAdapter.runCommand text lib command parameter m link).2.session := by
  apply Link.execute_follows
  intro mapped
  dsimp only
  split
  · exact follows_failed rfl _
  · apply Link.written_follows
    unfold RestIndustrialAdapter.performMappedWrite ofCommand
    split
    · exact follows_failed rfl _
    · exact (performRequest_follows lib mapped.method mapped.path _ link).right

theorem connect_follows (lib : Libcurl) (a : RestIndustrialAdapter)
    (h : a.link.connectionState ≠ .connected) :
    Follows ofSession (greeting a.config) (RestIndustrialAdapter.connect lib a).1
      a.link.session (RestIndustrialAdapter.connect lib a).2.link.session := by
  have hconfigure : forall s : HttpSession,
      ofSession (s.configure lib (RestIndustrialAdapter.sessionConfig a.config)) =
          ofSession s ∧
        (s.configure lib (RestIndustrialAdapter.sessionConfig a.config)).config =
          RestIndustrialAdapter.sessionConfig a.config := fun s =>
    recreateHandle_same lib
      { s with config := RestIndustrialAdapter.sessionConfig a.config }
  have hconfigured := hconfigure a.link.session.close
  rw [ofSession_close] at hconfigured
  unfold RestIndustrialAdapter.connect
  rw [if_neg h]
  split
  · exact follows_failed rfl _
  · generalize a.link.session.close.configure lib
      (RestIndustrialAdapter.sessionConfig a.config) = s at hconfigured ⊢
    dsimp only
    split
    · rename_i hpath
      have hgreeting : greeting a.config = [transferOf
          (RestIndustrialAdapter.sessionConfig a.config) .get a.config.healthPath ""] :=
        if_neg hpath
      have hget := performMappedGet_follows lib hpath (a.withSession s).link
      have hsent := hget.congr hconfigured.left.symm rfl
      rw [hgreeting, ← hconfigured.right]
      split
      · rename_i link hresult
        rw [hresult] at hsent
        exact hsent
      · rename_i body link hresult
        rw [hresult] at hsent
        exact hsent
    · rename_i hpath
      have hgreeting : greeting a.config = [] := if_pos (not_not.mp hpath)
      have hprobe := (ofSession_probeConnect lib (a.withSession s).link.session).trans
        hconfigured.left
      rw [hgreeting]
      split
      · rename_i t hresult
        rw [hresult] at hprobe
        exact follows_nil hprobe _
      · rename_i t hresult
        rw [hresult] at hprobe
        exact follows_nil hprobe _

end RestRequest

instance : ProtocolWire RestAdapterConfig RestEquipmentMapping HttpSession RestLib
    CurlTransfer HttpSessionConfig where
  requests := RestRequest.ofSession
  isWrite := RestRequest.isWrite
  contextOf s := s.config
  scan := RestRequest.scan
  commanded lib config command parameter m :=
    (m.commands.find? (fun entry => entry.command = command)).elim []
      (RestRequest.ofCommand lib.text config parameter)
  greeting := RestRequest.greeting
  scan_reads config m := by
    unfold RestRequest.scan
    split <;> rfl
  greeting_reads config := by
    unfold RestRequest.greeting
    split <;> rfl
  commanded_writes lib config command parameter m := by
    cases m.commands.find? (fun entry => entry.command = command) with
    | none => rfl
    | some mapped => exact RestRequest.filter_ofCommand lib.text config parameter mapped
  commanded_once lib config command parameter m := by
    cases m.commands.find? (fun entry => entry.command = command) with
    | none => exact Nat.zero_le 1
    | some mapped => exact RestRequest.length_ofCommand lib.text config parameter mapped
  close_requests := RestRequest.ofSession_close
  prepare_requests _ _ := rfl
  prepare_context _ _ := rfl
  fail_session := RestRequest.session_readFailed
  connect_follows lib := RestRequest.connect_follows lib.curl
  plan_follows lib := RestRequest.plan_follows lib.text lib.curl
  run_follows lib _ := RestRequest.runCommand_follows lib.text lib.curl

end VirtualFactory
