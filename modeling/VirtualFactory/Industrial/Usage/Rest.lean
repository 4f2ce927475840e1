import VirtualFactory.Industrial.LibraryUse
import VirtualFactory.Industrial.Requests.Rest

/-!
# The use of libcurl

A session probes the configured origin, gets mapped paths and sends the requests of
commands, all with the options of its configuration.
-/

namespace VirtualFactory

open Foundation LibraryCalls

namespace RestAdapterConfig

/-- The paths that are read: the one for the health of the server, and those of the
machines. -/
def sources (cfg : RestAdapterConfig) : List String :=
  cfg.healthPath :: cfg.equipment.map RestEquipmentMapping.telemetryPath

/-- The requests that commands send. -/
def targets (cfg : RestAdapterConfig) : List RestCommandMapping :=
  cfg.equipment.flatMap RestEquipmentMapping.commands

end RestAdapterConfig

namespace CurlTransfer

/-- The transfer that probes the origin. -/
def probe (config : HttpSessionConfig) : CurlTransfer :=
  let s : HttpSession := { config := config }
  { s.commonTransfer (s.originUrl ++ "/") with connectOnly := true }

/-- The configuration asks for the transfer. -/
inductive Mapped (cfg : RestAdapterConfig) : CurlTransfer -> Prop
  | probe : Mapped cfg (probe (RestIndustrialAdapter.sessionConfig cfg))
  | get {path : String} (hpath : path ∈ cfg.sources) (hne : path ≠ "") :
      Mapped cfg
        (RestRequest.transferOf (RestIndustrialAdapter.sessionConfig cfg) .get path "")
  | send {command : RestCommandMapping} (hcommand : command ∈ cfg.targets)
      (hwrite : RestIndustrialAdapter.isWriteMethod command.method = true)
      (hne : command.path ≠ "") (body : String) :
      Mapped cfg
        (RestRequest.transferOf (RestIndustrialAdapter.sessionConfig cfg)
          command.method command.path body)

end CurlTransfer

/-- How libcurl is to be used.  Only a handle that could be created counts. -/
def CurlCall.usage (lib : RestLib) (cfg : RestAdapterConfig) : Usage CurlCall where
  custody earlier
    | .init => if lib.curl.init (.init :: earlier) then .acquire else .refuse
    | .cleanup => .release
    | .perform _ => .use
  permits _
    | .perform transfer => transfer.Mapped cfg
    | _ => True

instance : LibraryCalls RestAdapterConfig RestEquipmentMapping HttpSession RestLib
    CurlCall where
  usage := CurlCall.usage
  calls := HttpSession.calls
  holding := HttpSession.easy
  ready cfg s := s.config = RestIndustrialAdapter.sessionConfig cfg

namespace HttpSession

variable {lib : RestLib} {cfg : RestAdapterConfig} {s : HttpSession}

abbrev Kept (lib : RestLib) (cfg : RestAdapterConfig) (s : HttpSession) : Prop :=
  LibraryCalls.Kept RestEquipmentMapping lib cfg s

abbrev Ready (lib : RestLib) (cfg : RestAdapterConfig) (s : HttpSession) : Prop :=
  LibraryCalls.Ready RestEquipmentMapping lib cfg s

theorem kept_close (h : Kept lib cfg s) :
    Kept lib cfg s.close ∧ s.close.easy = false := by
  have hholds : (CurlCall.usage lib cfg).Holds s.calls s.easy := h
  unfold close
  split
  · rename_i heasy
    rw [heasy] at hholds
    exact ⟨hholds.release rfl trivial, rfl⟩
  · rename_i heasy
    exact ⟨h, Bool.eq_false_of_not_eq_true heasy⟩

theorem kept_recreateHandle (h : Kept lib cfg s) :
    Kept lib cfg (s.recreateHandle lib.curl).2 ∧
      ((s.recreateHandle lib.curl).1 = true ->
        (s.recreateHandle lib.curl).2.easy = true) := by
  rcases kept_close h with ⟨hclosed, hnone⟩
  have hholds : (CurlCall.usage lib cfg).Holds s.close.calls s.close.easy := hclosed
  rw [hnone] at hholds
  unfold recreateHandle
  dsimp only
  split
  · rename_i hinit
    have hacquired : (CurlCall.usage lib cfg).custody s.close.calls .init = .acquire :=
      if_pos hinit
    exact ⟨hholds.acquire hacquired trivial, fun _ => rfl⟩
  · rename_i hinit
    have hrefused : (CurlCall.usage lib cfg).custody s.close.calls .init = .refuse :=
      if_neg hinit
    have hafter := hholds.refuse hrefused trivial
    rw [← hnone] at hafter
    exact ⟨hafter, fun hok => Bool.noConfusion hok⟩

theorem ready_recreateHandle (h : Ready lib cfg s) :
    Ready lib cfg (s.recreateHandle lib.curl).2 :=
  ⟨(kept_recreateHandle h.1).1,
    (RestRequest.recreateHandle_same lib.curl s).right.trans h.2⟩

theorem Ready.perform (h : Ready lib cfg s) (heasy : s.easy = true)
    {transfer : CurlTransfer} (htransfer : transfer.Mapped cfg) :
    Ready lib cfg (s.call (.perform transfer)) := by
  have hholds : (CurlCall.usage lib cfg).Holds s.calls s.easy := h.1
  rw [heasy] at hholds
  have hcall := hholds.use (c := CurlCall.perform transfer) rfl htransfer
  rw [← heasy] at hcall
  exact ⟨hcall, h.2⟩

theorem ready_probeConnect (h : Ready lib cfg s) :
    Ready lib cfg (s.probeConnect lib.curl).2 := by
  have hcreated := ready_recreateHandle (s := { s with lastError := "" }) h
  have hopen := (kept_recreateHandle (s := { s with lastError := "" }) h.1).2
  unfold probeConnect
  split
  · rename_i t ht
    rw [ht] at hcreated
    exact hcreated
  · rename_i t ht
    rw [ht] at hcreated hopen
    have hprobe : Ready lib cfg (t.call (.perform
        { t.commonTransfer (t.originUrl ++ "/") with connectOnly := true })) := by
      refine hcreated.perform (hopen rfl) ?_
      have hconfig : t.config = RestIndustrialAdapter.sessionConfig cfg := hcreated.2
      have hmapped : CurlTransfer.Mapped cfg _ := .probe
      rw [← hconfig] at hmapped
      exact hmapped
    dsimp only
    split
    · refine ⟨(kept_close ?_).1, ?_⟩
      · exact hprobe.1
      · have hconfig : forall u : HttpSession, u.close.config = u.config := by
          intro u
          unfold close
          split <;> rfl
        exact (hconfig _).trans hprobe.2
    · exact ready_recreateHandle hprobe

theorem ready_request (h : Ready lib cfg s) {method : RestHttpMethod} {path body : String}
    (hmapped : (RestRequest.transferOf (RestIndustrialAdapter.sessionConfig cfg) method
      path body).Mapped cfg) : Ready lib cfg (s.request lib.curl method path body).2 := by
  have hcreated := ready_recreateHandle (s := { s with lastError := "" }) h
  have hopen := (kept_recreateHandle (s := { s with lastError := "" }) h.1).2
  unfold request
  dsimp only
  split
  · rename_i t ht
    split at ht
    · cases ht
    · rw [ht] at hcreated
      exact hcreated
  · rename_i t ht
    have hready : Ready lib cfg t ∧ t.easy = true := by
      split at ht
      · rename_i heasy
        cases ht
        exact ⟨h, heasy⟩
      · rw [ht] at hcreated hopen
        exact ⟨hcreated, hopen rfl⟩
    have hconfig : t.config = RestIndustrialAdapter.sessionConfig cfg := hready.1.2
    rw [← hconfig] at hmapped
    have hsent := hready.1.perform hready.2 hmapped
    split
    · exact hsent
    · split
      · exact hsent
      · exact hsent

end HttpSession

namespace RestIndustrialAdapter

open HttpSession

variable {lib : RestLib} {cfg : RestAdapterConfig}

theorem ready_performRequest {method : RestHttpMethod} {path body : String}
    (hmapped : (RestRequest.transferOf (sessionConfig cfg) method path body).Mapped cfg)
    {link : RestLink} (h : Ready lib cfg link.session) :
    Ready lib cfg (performRequest lib.curl method path body link).2.session := by
  have hsent := ready_request h hmapped
  unfold performRequest
  dsimp only
  split
  · exact hsent
  · exact hsent

theorem ready_performMappedGet {path : String} (hpath : path ∈ cfg.sources)
    {link : RestLink} (h : Ready lib cfg link.session) :
    Ready lib cfg (performMappedGet lib.curl path link).2.session := by
  unfold performMappedGet
  split
  · exact h
  · rename_i hne
    exact ready_performRequest (.get hpath hne) h

theorem ready_refreshPlan {m : RestEquipmentMapping} (hm : m ∈ cfg.equipment) :
    (refreshPlan lib.text lib.curl m).Keeps
      (fun link : RestLink => Ready lib cfg link.session)
      (fun link => Ready lib cfg link.session) := by
  intro link hlink
  have hpath : m.telemetryPath ∈ cfg.sources :=
    List.mem_cons_of_mem _ (List.mem_map_of_mem hm)
  have hget := ready_performMappedGet hpath hlink
  -- decoding the document makes no calls
  have hdecode : forall (doc : Json) (value : Type) (decode : Json -> Option value)
      (pointer error : String),
      ReadStep.ReadKeeps (fun link : RestLink => Ready lib cfg link.session)
        (fun link => Ready lib cfg link.session)
        (decodeNode lib.text decode doc pointer error) := by
    intro doc value decode pointer error
    refine ReadStep.readKeeps_self fun other hother => ?_
    unfold decodeNode
    split
    · exact hother
    · exact hother
  unfold refreshPlan
  split
  · split
    · refine ⟨hlink, ?_⟩
      intro step hstep
      cases hstep
    · exact hlink
  · split
    · rename_i other hresult
      rw [hresult] at hget
      exact hget
    · rename_i body other hresult
      rw [hresult] at hget
      split
      · exact hget
      · refine ⟨hget, ?_⟩
        apply ReadStep.signalSteps_keep
        · intro p hp
          rcases List.mem_map.mp hp with ⟨point, _, rfl⟩
          exact hdecode _ _ _ _ _
        · intro read hread
          split at hread <;> cases hread
          exact hdecode _ _ _ _ _
        · intro read hread
          split at hread <;> cases hread
          exact hdecode _ _ _ _ _

theorem ready_runCommand (command : String) (parameter : Double)
    {m : RestEquipmentMapping} (hm : m ∈ cfg.equipment) {link : RestLink}
    (h : Ready lib cfg link.session) :
    Ready lib cfg (runCommand lib.text lib.curl command parameter m link).2.session := by
  unfold runCommand Link.execute runMapped
  cases link.connectionState with
  | disconnected => exact h
  | faulted => exact h
  | connected =>
      cases hfind : m.commands.find? (fun entry => entry.command = command) with
      | none => exact h
      | some mapped =>
          have htarget : mapped ∈ cfg.targets :=
            List.mem_flatMap.mpr ⟨m, hm, List.mem_of_find?_eq_some hfind⟩
          dsimp only
          split
          · exact h
          · rename_i hmethod
            rw [Link.written_snd]
            unfold performMappedWrite
            split
            · exact h
            · rename_i hpath
              have hwrite : isWriteMethod mapped.method = true := by
                simpa using hmethod
              have hne : mapped.path ≠ "" := by
                intro hempty
                simp [hempty] at hpath
              exact ready_performRequest (.send htarget hwrite hne _) h

theorem kept_connect {a : RestIndustrialAdapter} (hstate : a.link.connectionState ≠ .connected)
    (h : Kept lib a.config a.link.session) :
    Kept lib a.config (connect lib.curl a).2.link.session ∧
      ((connect lib.curl a).1 = true ->
        (connect lib.curl a).2.link.session.config = sessionConfig a.config) := by
  have hconfigured : Ready lib a.config
      (a.link.session.close.configure lib.curl (sessionConfig a.config)) :=
    ready_recreateHandle (s := { a.link.session.close with config := _ })
      ⟨(kept_close h).1, rfl⟩
  have hget : Ready lib a.config (performMappedGet lib.curl a.config.healthPath
      (a.withSession
        (a.link.session.close.configure lib.curl (sessionConfig a.config))).link).2.session :=
    ready_performMappedGet List.mem_cons_self hconfigured
  have hprobe : Ready lib a.config (HttpSession.probeConnect lib.curl
      (a.withSession
        (a.link.session.close.configure lib.curl (sessionConfig a.config))).link.session).2 :=
    ready_probeConnect hconfigured
  unfold connect
  rw [if_neg hstate]
  split
  · exact ⟨h, fun hok => Bool.noConfusion hok⟩
  · dsimp only
    split
    · split
      · rename_i link hresult
        rw [show performMappedGet lib.curl a.config.healthPath _ = _ from hresult] at hget
        exact ⟨hget.1, fun _ => hget.2⟩
      · rename_i body link hresult
        rw [show performMappedGet lib.curl a.config.healthPath _ = _ from hresult] at hget
        exact ⟨hget.1, fun _ => hget.2⟩
    · split
      · rename_i t hresult
        rw [hresult] at hprobe
        exact ⟨hprobe.1, fun _ => hprobe.2⟩
      · rename_i t hresult
        rw [hresult] at hprobe
        exact ⟨hprobe.1, fun _ => hprobe.2⟩

end RestIndustrialAdapter

instance : LawfulUse RestAdapterConfig RestEquipmentMapping HttpSession where
  close_kept _ _ _ := HttpSession.kept_close
  prepare_ready _ _ _ h := h
  connect_kept _ _ := RestIndustrialAdapter.kept_connect
  plan_ready _ _ _ hm := RestIndustrialAdapter.ready_refreshPlan hm
  fail_session := RestRequest.session_readFailed
  run_ready _ _ command parameter _ _ hm h :=
    RestIndustrialAdapter.ready_runCommand command parameter hm h

end VirtualFactory
