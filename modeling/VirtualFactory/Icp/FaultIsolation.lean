import VirtualFactory.Icp.AdapterKinds
import VirtualFactory.Icp.TwoRuns

/-!
# Fault isolation

However the device of one adapter behaves, the other adapters of the runtime notice
nothing, as long as the adapters are configured apart.
-/

namespace VirtualFactory
namespace Icp

open Foundation IndustrialAdapter Zones

abbrev FactoryEvent := Event Adapter AdapterDevice AdapterStimulus

/-- Adapters that are configured apart: different ones have neither an equipment
identifier nor an MQTT client in common, and every MQTT adapter has a configured client
identifier. -/
structure ConfiguredApart (adds : Adapter -> Prop) : Prop where
  genuine : forall a, adds a -> Genuine a
  ids : forall a b, adds a -> adds b -> adapterId a ≠ adapterId b ->
    List.Disjoint a.configuredIds b.configuredIds
  named : forall m : MqttIndustrialAdapter, adds (.mqtt m) -> m.config.clientId ≠ ""
  clients : forall m n : MqttIndustrialAdapter, adds (.mqtt m) -> adds (.mqtt n) ->
    m.core.id ≠ n.core.id -> m.config.host = n.config.host ->
      m.config.port = n.config.port -> m.config.clientId ≠ n.config.clientId

/-- The keys of MQTT clients keep hosts apart that contain no newline. -/
def HostsOnOneLine (adds : Adapter -> Prop) : Prop :=
  forall m : MqttIndustrialAdapter, adds (.mqtt m) -> '\n' ∉ m.config.host.toList

namespace ConfiguredApart

variable {adds : Adapter -> Prop}

def zones (h : ConfiguredApart adds) (hhosts : HostsOnOneLine adds) :
    Zones Adapter where
  genuine := Adapter.Settled
  configuredIds := Adapter.configuredIds
  clientKeys := Adapter.clientKeys
  footprint := Adapter.footprint
  names k := { id | exists a, adds a ∧ adapterId a = k ∧ id ∈ a.configuredIds }
  keys k := { key | exists a, adds a ∧ adapterId a = k ∧ key ∈ a.clientKeys }
  namesApart := by
    rintro j k id ⟨a, ha, rfl, hid⟩ ⟨b, hb, rfl, hid'⟩
    by_contra hne
    exact h.ids a b ha hb hne hid hid'
  keysApart := by
    rintro j k key ⟨a, ha, rfl, hkey⟩ ⟨b, hb, rfl, hkey'⟩
    rcases Adapter.exists_of_mem_clientKeys hkey with ⟨m, rfl, rfl⟩
    rcases Adapter.exists_of_mem_clientKeys hkey' with ⟨n, rfl, heq⟩
    by_contra hne
    rcases clientKey_injective (hhosts m ha) (hhosts n hb) heq with
      ⟨hhost, hport, hclient⟩
    exact h.clients m n ha hb hne hhost hport hclient

theorem keeps (h : ConfiguredApart adds) (hhosts : HostsOnOneLine adds) {a : Adapter}
    (ha : adds a) : (h.zones hhosts).Keeps (adapterId a) a where
  genuine := Adapter.settled_of_genuine (h.genuine a ha)
    (fun m hm => h.named m (hm ▸ ha))
  sameId := rfl
  names _ hid := ⟨a, ha, rfl, hid⟩
  keys _ hkey := ⟨a, ha, rfl, hkey⟩

end ConfiguredApart

def Added (es : List FactoryEvent) (a : Adapter) : Prop :=
  exists event, event ∈ es ∧ event.operation = .addAdapter (some a)

/-- Two runs that differ only in how the device of one adapter behaves. -/
def DifferAt (key : String) (es ds : List FactoryEvent) : Prop :=
  List.Forall₂ (SameElsewhere key) (es.filter (fun event => !atDevice key event))
    (ds.filter (fun event => !atDevice key event))

theorem DifferAt.added {key : String} {es ds : List FactoryEvent}
    (h : DifferAt key es ds) {a : Adapter} (ha : Added ds a) : Added es a := by
  rcases ha with ⟨event, hevent, hadd⟩
  have hfilter : event ∈ ds.filter (fun event => !atDevice key event) := by
    rw [List.mem_filter]
    exact ⟨hevent, by simp [atDevice, hadd]⟩
  rcases List.mem_iff_getElem.mp hfilter with ⟨i, hi, rfl⟩
  have hi' : i < (es.filter (fun event => !atDevice key event)).length := by
    rw [h.length_eq]
    exact hi
  have hsame := h.get hi' hi
  exact ⟨_, (List.mem_filter.mp (List.getElem_mem hi')).1, hsame.1.trans hadd⟩

/-- Two runs of adapters that are configured apart, in which only the device of one of
them behaves differently, look the same from all others after every operation. -/
theorem faults_isolated (key : String) {es ds : List FactoryEvent}
    (hapart : ConfiguredApart (Added es)) (hhosts : HostsOnOneLine (Added es))
    (hdiffer : DifferAt key es ds) :
    (runtime Adapter).observed (atDevice key) (seeElsewhere key) es Runtime.empty =
      (runtime Adapter).observed (atDevice key) (seeElsewhere key) ds
        Runtime.empty := by
  have hes : forall event, event ∈ es -> (hapart.zones hhosts).AddsKeeping event :=
    fun event hevent a hadd => hapart.keeps hhosts ⟨event, hevent, hadd⟩
  have hds : forall event, event ∈ ds -> (hapart.zones hhosts).AddsKeeping event :=
    fun event hevent a hadd =>
      hapart.keeps hhosts (hdiffer.added ⟨event, hevent, hadd⟩)
  exact (unwinds (hapart.zones hhosts) key).observed_eq hdiffer hes hds
    (alike_empty (hapart.zones hhosts) key)

/-!
# Two clients
-/

/-- The devices of two MQTT adapters.  The library behind the first one is given. -/
def clientDevices (paho : Paho) (k : String) : AdapterDevice :=
  ((), default, default, default,
    { text := default, paho := if k = "mqtt-a" then paho else Paho.obliging },
    default, default, default)

def twoClients (first second : MqttAdapterConfig) (paho : Paho) : List FactoryEvent :=
  let devices := clientDevices paho
  [⟨.addAdapter (some (AdapterFactory.createMqtt "mqtt-a" first)), devices⟩,
    ⟨.addAdapter (some (AdapterFactory.createMqtt "mqtt-b" second)), devices⟩,
    ⟨.connectAdapter "mqtt-a", devices⟩, ⟨.connectAdapter "mqtt-b", devices⟩,
    ⟨.pollOnce, devices⟩]

theorem added_twoClients {first second : MqttAdapterConfig} {paho : Paho} {a : Adapter}
    (h : Added (twoClients first second paho) a) :
    a = AdapterFactory.createMqtt "mqtt-a" first ∨
      a = AdapterFactory.createMqtt "mqtt-b" second := by
  rcases h with ⟨event, hevent, hadd⟩
  simp only [twoClients, List.mem_cons, List.not_mem_nil, or_false] at hevent
  rcases hevent with rfl | rfl | rfl | rfl | rfl
  · cases hadd
    exact Or.inl rfl
  · cases hadd
    exact Or.inr rfl
  · cases hadd
  · cases hadd
  · cases hadd

theorem configuredApart_twoClients {first second : MqttAdapterConfig} (paho : Paho)
    (hids : List.Disjoint (first.equipment.map MqttEquipmentMapping.id)
      (second.equipment.map MqttEquipmentMapping.id))
    (hfirst : first.clientId ≠ "") (hsecond : second.clientId ≠ "")
    (hclients : first.host = second.host -> first.port = second.port ->
      first.clientId ≠ second.clientId) :
    ConfiguredApart (Added (twoClients first second paho)) where
  genuine a ha := by
    rcases added_twoClients ha with rfl | rfl
    · exact Operated.created (Created.mqtt _ _)
    · exact Operated.created (Created.mqtt _ _)
  ids a b ha hb hne := by
    rcases added_twoClients ha with rfl | rfl
    · rcases added_twoClients hb with rfl | rfl
      · exact absurd rfl hne
      · exact hids
    · rcases added_twoClients hb with rfl | rfl
      · exact hids.symm
      · exact absurd rfl hne
  named m hm := by
    rcases added_twoClients hm with h | h
    · cases h
      exact hfirst
    · cases h
      exact hsecond
  clients m n hm hn hne hhost hport := by
    rcases added_twoClients hm with h | h
    · cases h
      rcases added_twoClients hn with h | h
      · cases h
        exact absurd rfl hne
      · cases h
        exact hclients hhost hport
    · cases h
      rcases added_twoClients hn with h | h
      · cases h
        exact (hclients hhost.symm hport.symm).symm
      · cases h
        exact absurd rfl hne

theorem differAt_twoClients (first second : MqttAdapterConfig) (paho paho' : Paho) :
    DifferAt "mqtt-a" (twoClients first second paho)
      (twoClients first second paho') := by
  have hsame : forall operation : Operation Adapter AdapterStimulus,
      SameElsewhere "mqtt-a" (Event.mk operation (clientDevices paho))
        ⟨operation, clientDevices paho'⟩ := by
    intro operation
    refine ⟨rfl, fun k hk => ?_⟩
    show clientDevices paho k = clientDevices paho' k
    unfold clientDevices
    rw [if_neg hk, if_neg hk]
  exact List.Forall₂.cons (hsame _) (List.Forall₂.cons (hsame _)
    (List.Forall₂.cons (hsame _) (List.Forall₂.cons (hsame _)
      (List.Forall₂.cons (hsame _) List.Forall₂.nil))))

def linePress : MqttAdapterConfig where
  host := "broker"
  clientId := "press"
  equipment := [{ id := "PRESS-001", type := "Press" }]

def linePump : MqttAdapterConfig where
  host := "broker"
  clientId := "pump"
  equipment := [{ id := "PUMP-001", type := "Pump" }]

/-- A client whose broker refuses it does not matter to the other one. -/
theorem faults_isolated_refusedPress :
    (runtime Adapter).observed (atDevice "mqtt-a") (seeElsewhere "mqtt-a")
        (twoClients linePress linePump Paho.obliging) Runtime.empty =
      (runtime Adapter).observed (atDevice "mqtt-a") (seeElsewhere "mqtt-a")
        (twoClients linePress linePump default) Runtime.empty := by
  refine faults_isolated "mqtt-a"
    (configuredApart_twoClients Paho.obliging (by simp [linePress, linePump])
      (by decide) (by decide) (by decide))
    ?_ (differAt_twoClients linePress linePump Paho.obliging default)
  intro m hm
  rcases added_twoClients hm with h | h
  · cases h
    decide
  · cases h
    decide

/-- A host with a newline, and a client of another host that has the same key. -/
def foldedHost : MqttAdapterConfig where
  host := "a:1\nb"
  port := 2
  clientId := "c"

def foldedClient : MqttAdapterConfig where
  host := "a"
  port := 1
  clientId := "b:2\nc"

/-- The client that connects first keeps the other one from connecting. -/
theorem not_isolated_foldedHost :
    ConfiguredApart (Added (twoClients foldedHost foldedClient Paho.obliging)) ∧
      DifferAt "mqtt-a" (twoClients foldedHost foldedClient Paho.obliging)
        (twoClients foldedHost foldedClient default) ∧
      (runtime Adapter).observed (atDevice "mqtt-a") (seeElsewhere "mqtt-a")
          (twoClients foldedHost foldedClient Paho.obliging) Runtime.empty ≠
        (runtime Adapter).observed (atDevice "mqtt-a") (seeElsewhere "mqtt-a")
          (twoClients foldedHost foldedClient default) Runtime.empty := by
  refine ⟨configuredApart_twoClients Paho.obliging (List.disjoint_nil_left _) (by decide)
    (by decide) (by decide), differAt_twoClients foldedHost foldedClient Paho.obliging default, ?_⟩
  intro hobserved
  have hanswers := congrArg (List.map View.answer) hobserved
  revert hanswers
  decide

end Icp
end VirtualFactory
