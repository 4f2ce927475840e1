import VirtualFactory.Industrial.Answers
import VirtualFactory.Industrial.Requests.Rest

/-!
# What a REST server answers to a poll
-/

namespace VirtualFactory

open Foundation

/-- The body of a response with a 2xx status. -/
def Libcurl.received (lib : Libcurl) (calls : List CurlCall) : Option String :=
  match lib.perform calls with
  | .error _ => none
  | .ok (status, body) => if 200 ≤ status ∧ status < 300 then some body else none

theorem Libcurl.received_error {lib : Libcurl} {calls : List CurlCall} {text : String}
    (h : lib.perform calls = .error text) : lib.received calls = none := by
  unfold received
  rw [h]

theorem Libcurl.received_ok {lib : Libcurl} {calls : List CurlCall} {status : Int}
    {body : String} (h : lib.perform calls = .ok (status, body)) :
    lib.received calls = if 200 ≤ status ∧ status < 300 then some body else none := by
  unfold received
  rw [h]

/-- How a path is fetched: on the handle of the session, which may have to be made. -/
inductive PathAsked (lib : Libcurl) (config : HttpSessionConfig) (path : String)
    (before : List CurlCall) : Option String -> List CurlCall -> Prop
  | noHandle {earlier : List CurlCall} (h : before <:+ earlier)
      (hinit : lib.init (.init :: earlier) = false) :
      PathAsked lib config path before none (.init :: earlier)
  | performed {earlier : List CurlCall} (h : before <:+ earlier) :
      PathAsked lib config path before
        (lib.received (.perform (RestRequest.transferOf config .get path "") :: earlier))
        (.perform (RestRequest.transferOf config .get path "") :: earlier)

theorem PathAsked.suffix {lib : Libcurl} {config : HttpSessionConfig} {path : String}
    {before after : List CurlCall} {body : Option String}
    (h : PathAsked lib config path before body after) : before <:+ after := by
  cases h with
  | noHandle h => exact h.trans (List.suffix_cons _ _)
  | performed h => exact h.trans (List.suffix_cons _ _)

namespace RestIndustrialAdapter

/-- The pointers that a machine reads, with the signal that each is for. -/
def signalSources (m : RestEquipmentMapping) : List (SignalEntry × String) :=
  m.telemetry.map (fun point => (.telemetry point.name point.unit, point.jsonPointer)) ++
    ((if m.statePointer ≠ "" then [(.state, m.statePointer)] else []) ++
      (if m.faultPointer ≠ "" then [(.fault, m.faultPointer)] else []))

/-- What a document has at a pointer.  The empty pointer finds nothing. -/
def valueAt (text : TextLib) (doc : Json) (entry : SignalEntry) (pointer : String) :
    Option Reading :=
  (if pointer = "" then none else text.pointer pointer doc).bind
    (fun node => entry.reading (node.asDouble text) node.asBool)

/-- The signal at a position is what the document of the machine has at the pointer of
that signal.  Without a document there is no first signal. -/
inductive Answers (lib : RestLib) (config : HttpSessionConfig)
    (m : RestEquipmentMapping) : Nat -> Option Reading ->
      List CurlCall -> List CurlCall -> Prop
  | noPath {before : List CurlCall} (h : m.telemetryPath = "")
      (hmapped : signalSources m ≠ []) : Answers lib config m 0 none before before
  | noDocument {before after : List CurlCall} {body : Option String}
      (h : PathAsked lib.curl config m.telemetryPath before body after)
      (hparse : body.bind lib.text.parse = none) :
      Answers lib config m 0 none before after
  | decoded {before after : List CurlCall} {body : String} {doc : Json} {n : Nat}
      {entry : SignalEntry} {pointer : String}
      (h : PathAsked lib.curl config m.telemetryPath before (some body) after)
      (hparse : lib.text.parse body = some doc)
      (hsource : (signalSources m)[n]? = some (entry, pointer)) :
      Answers lib config m n (valueAt lib.text doc entry pointer) before after

theorem recreateHandle_calls (lib : Libcurl) (s : HttpSession) :
    exists earlier, s.calls <:+ earlier ∧
      (s.recreateHandle lib).2.calls = .init :: earlier ∧
        (s.recreateHandle lib).1 = lib.init (.init :: earlier) := by
  refine ⟨s.close.calls, ?_, ?_, ?_⟩
  · unfold HttpSession.close
    split
    · exact List.suffix_cons _ _
    · exact List.suffix_refl _
  · unfold HttpSession.recreateHandle
    dsimp only
    split <;> rfl
  · unfold HttpSession.recreateHandle
    dsimp only
    split
    · rename_i hinit
      exact hinit.symm
    · rename_i hinit
      exact (Bool.eq_false_iff.mpr hinit).symm

theorem request_asked (lib : Libcurl) (path : String) (s : HttpSession) :
    let r := s.request lib .get path ""
    exists body, PathAsked lib s.config path s.calls body r.2.calls ∧
      (if r.1.success then some r.1.body else none) = body := by
  have hopened : forall r : Bool × HttpSession,
      (if s.easy then (true, { s with lastError := "" })
        else HttpSession.recreateHandle lib { s with lastError := "" }) = r ->
      r.2.config = s.config ∧ s.calls <:+ r.2.calls ∧
        (r.1 = false -> PathAsked lib s.config path s.calls none r.2.calls) := by
    intro r hr
    subst hr
    split
    · exact ⟨rfl, List.suffix_refl _, fun h => Bool.noConfusion h⟩
    · rcases recreateHandle_calls lib { s with lastError := "" } with
        ⟨earlier, hmade, hcalls, hinit⟩
      have hconfig := (RestRequest.recreateHandle_same lib { s with lastError := "" }).right
      rw [hcalls, hinit]
      exact ⟨hconfig, hmade.trans (List.suffix_cons _ _), fun h => .noHandle hmade h⟩
  unfold HttpSession.request
  dsimp only
  split
  · rename_i s' hs'
    exact ⟨none, (hopened _ hs').2.2 rfl, rfl⟩
  · rename_i s' hs'
    have hsame := hopened _ hs'
    have htransfer : { s'.commonTransfer (s'.joinUrl path) with
          method := RestHttpMethod.get
          body := if RestHttpMethod.get = .get then "" else ""
          headers := s'.makeHeaders (decide (RestHttpMethod.get ≠ .get)) } =
        RestRequest.transferOf s.config .get path "" := by
      rw [← hsame.1]
      rfl
    have hasked : PathAsked lib s.config path s.calls _ _ := .performed hsame.2.1
    rw [← htransfer] at hasked
    split
    · rename_i text hperform
      exact ⟨none, Libcurl.received_error hperform ▸ hasked, rfl⟩
    · rename_i status received hperform
      have hbody := Libcurl.received_ok hperform
      split
      · rename_i hsuccess
        have hstatus : 200 ≤ status ∧ status < 300 := by
          simpa [HttpResponse.success] using hsuccess
        rw [if_pos hstatus] at hbody
        exact ⟨some received, hbody ▸ hasked, rfl⟩
      · rename_i hfailed
        have hstatus : ¬ (200 ≤ status ∧ status < 300) := by
          simpa [HttpResponse.success] using hfailed
        rw [if_neg hstatus] at hbody
        exact ⟨none, hbody ▸ hasked, if_neg hfailed⟩

theorem performMappedGet_asked (lib : Libcurl) {path : String} (h : path ≠ "")
    (link : RestLink) :
    let r := performMappedGet lib path link
    r.2.session.config = link.session.config ∧
      PathAsked lib link.session.config path link.session.calls r.1 r.2.session.calls := by
  have hconfig := (RestRequest.request_follows lib .get path "" link.session).left
  rcases request_asked lib path link.session with ⟨body, hasked, hbody⟩
  unfold performMappedGet performRequest
  rw [if_neg h]
  subst hbody
  dsimp only
  split
  · rename_i hsuccess
    rw [if_pos hsuccess] at hasked
    exact ⟨hconfig, hasked⟩
  · rename_i hfailed
    rw [if_neg hfailed] at hasked
    exact ⟨hconfig, hasked⟩

def pointerError (pointer : String) : SignalEntry -> String
  | .telemetry _ _ => "missing or invalid telemetry pointer " ++ pointer
  | .state => "missing or invalid state pointer"
  | .fault => "missing or invalid fault pointer"

def readSignal (text : TextLib) (doc : Json) (entry : SignalEntry) (pointer : String) :
    ReadStep RestLink :=
  match entry with
  | .telemetry name unit =>
      .telemetry name unit
        (decodeNode text (jsonAsDouble text) doc pointer (pointerError pointer entry))
  | .state => .state (decodeNode text jsonAsBool doc pointer (pointerError pointer entry))
  | .fault => .fault (decodeNode text jsonAsBool doc pointer (pointerError pointer entry))

theorem decodeSteps_eq (text : TextLib) (m : RestEquipmentMapping) (doc : Json) :
    decodeSteps text m doc =
      (signalSources m).map (fun p => readSignal text doc p.1 p.2) := by
  unfold decodeSteps signalSources ReadStep.signalSteps
  rw [List.map_append, List.map_append, List.map_map, List.map_map]
  congr 1
  split <;> split <;> rfl

theorem decodeNode_eq {value : Type} (text : TextLib) (decode : Json -> Option value)
    (doc : Json) (pointer error : String) (link : RestLink) :
    decodeNode text decode doc pointer error link =
      ((pointerValue text doc pointer).bind decode,
        if ((pointerValue text doc pointer).bind decode).isSome then link
        else link.enterFault error) := by
  unfold decodeNode
  rcases (pointerValue text doc pointer).bind decode with _ | v
  · rfl
  · rfl

theorem perform_readSignal (text : TextLib) (doc : Json) (entry : SignalEntry)
    (pointer : String) (link : RestLink) :
    (readSignal text doc entry pointer).perform link =
      (valueAt text doc entry pointer,
        if (valueAt text doc entry pointer).isSome then link
        else link.enterFault (pointerError pointer entry)) := by
  have hvalue : valueAt text doc entry pointer = (pointerValue text doc pointer).bind
      (fun node => entry.reading (node.asDouble text) node.asBool) := rfl
  have hdouble := decodeNode_eq text (jsonAsDouble text) doc pointer
    (pointerError pointer entry) link
  have hbool := decodeNode_eq text jsonAsBool doc pointer (pointerError pointer entry) link
  rw [hvalue]
  generalize pointerValue text doc pointer = node at hdouble hbool
  cases entry with
  | telemetry name unit =>
      show (Option.map _ (decodeNode ..).1, (decodeNode ..).2) = _
      rw [hdouble]
      rcases node with _ | node
      · rfl
      · cases hnode : node.asDouble text <;> simp [jsonAsDouble, SignalEntry.reading, hnode]
  | state =>
      show (Option.map _ (decodeNode ..).1, (decodeNode ..).2) = _
      rw [hbool]
      rcases node with _ | node
      · rfl
      · cases hnode : node.asBool <;> simp [jsonAsBool, SignalEntry.reading, hnode]
  | fault =>
      show (Option.map _ (decodeNode ..).1, (decodeNode ..).2) = _
      rw [hbool]
      rcases node with _ | node
      · rfl
      · cases hnode : node.asBool <;> simp [jsonAsBool, SignalEntry.reading, hnode]

theorem session_readSignal (text : TextLib) (doc : Json) (entry : SignalEntry)
    (pointer : String) (link : RestLink) :
    ((readSignal text doc entry pointer).perform link).2.session = link.session := by
  rw [perform_readSignal]
  dsimp only
  split <;> rfl

theorem signalSources_eq_nil {m : RestEquipmentMapping} :
    signalSources m = [] <-> m.telemetry = [] ∧ m.statePointer = "" ∧ m.faultPointer = "" := by
  unfold signalSources
  simp

theorem refreshPlan_answered (lib : RestLib) (config : HttpSessionConfig)
    (m : RestEquipmentMapping) :
    (refreshPlan lib.text lib.curl m).Answered (fun link => link.session.calls)
      (fun link => link.session.config = config) (Answers lib config m) := by
  intro link hconfig
  unfold refreshPlan
  by_cases hpath : m.telemetryPath = ""
  · rw [if_pos hpath]
    split
    · refine ⟨hconfig, List.suffix_refl _, ?_, ?_⟩
      · intro hnone
        cases hnone
      · intro steps n step hsteps hstep
        cases hsteps
        cases hstep
    · rename_i hmapped
      refine ⟨hconfig, List.suffix_refl _, fun _ => ?_, ?_⟩
      · refine ⟨_, _, List.suffix_refl _, List.suffix_refl _, List.suffix_refl _,
          .noPath hpath (fun hnone => hmapped ?_)⟩
        rw [signalSources_eq_nil] at hnone
        simp [hnone]
      · intro steps n step hsteps
        cases hsteps
  · rw [if_neg hpath]
    have hget := performMappedGet_asked lib.curl hpath link
    rcases hreceived : performMappedGet lib.curl m.telemetryPath link with ⟨body, after⟩
    rw [hreceived, hconfig] at hget
    cases body with
    | none =>
        refine ⟨hget.1, hget.2.suffix, fun _ => ?_, ?_⟩
        · exact ⟨_, _, List.suffix_refl _, hget.2.suffix, List.suffix_refl _,
            .noDocument hget.2 rfl⟩
        · intro steps n step hsteps
          cases hsteps
    | some body =>
        dsimp only
        cases hparse : lib.text.parse body with
        | none =>
            refine ⟨hget.1, hget.2.suffix, fun _ => ?_, ?_⟩
            · exact ⟨_, _, List.suffix_refl _, hget.2.suffix, List.suffix_refl _,
                .noDocument hget.2 hparse⟩
            · intro steps n step hsteps
              cases hsteps
        | some doc =>
            refine ⟨hget.1, hget.2.suffix, ?_, ?_⟩
            · intro hnone
              cases hnone
            · intro steps n step hsteps hstep t ht hreached
              cases hsteps
              rw [decodeSteps_eq, List.getElem?_map] at hstep
              rcases Option.map_eq_some_iff.mp hstep with ⟨p, hp, rfl⟩
              have hvalue := congrArg Prod.fst (perform_readSignal lib.text doc p.1 p.2 t)
              beta_reduce
              rw [session_readSignal, hvalue]
              exact ⟨ht, List.suffix_refl _, _, _, List.suffix_refl _, hget.2.suffix,
                hreached, .decoded hget.2 hparse hp⟩

instance : SignalAnswers RestAdapterConfig RestEquipmentMapping HttpSession CurlCall where
  calls s := s.calls
  Answers lib s := Answers lib s.config
  Serves start s := s.config = start.config
  serves_prepare _ _ _ := rfl
  calls_prepare _ _ := rfl
  calls_fail link := by
    show (readFailed link).session.calls = link.session.calls
    rw [RestRequest.session_readFailed]
  plan_answered lib s m := refreshPlan_answered lib s.config m

end RestIndustrialAdapter

end VirtualFactory
