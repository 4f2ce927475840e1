import VirtualFactory.Foundation.Mailbox
import VirtualFactory.Industrial.IndustrialAdapter

/-!
# The MQTT session

The client over the asynchronous Paho library.  The library runs its callbacks on a
thread of its own: it may run any number of them whenever the session makes a call,
waits, or is about to take its lock.
-/

namespace VirtualFactory

open Foundation

structure MqttSessionConfig where
  host : String := "127.0.0.1"
  port : UInt16 := 1883
  clientId : String := ""
  connectTimeoutSeconds : Int := 2
  keepaliveSeconds : Int := 20
  useTls : Bool := false
  tlsVerify : Bool := true
  username : String := ""
  password : String := ""

structure MqttMessage where
  topic : String
  payload : String
  deriving DecidableEq

inductive MqttIncoming where
  | error
  | nothing
  | received (message : MqttMessage)
  deriving DecidableEq

structure PahoConnectOptions where
  keepAliveInterval : Int
  connectTimeout : Int
  username : Option String
  password : Option String
  serverCertAuth : Option Bool
  deriving DecidableEq

/-- The Paho calls of a session.  `wait` and `lock` are no calls: they are the other
points at which callbacks may run. -/
inductive PahoCall where
  | createWithOptions (serverUri clientId : String)
  | setCallbacks
  | connect (options : PahoConnectOptions)
  | isConnected
  | disconnect
  | destroy
  | subscribe (topic : String) (qos : Int)
  | sendMessage (topic payload : String) (qos : Int) (retained : Bool)
  | waitForCompletion
  | wait (timeoutMs : Int)
  | lock
  deriving DecidableEq

/-- The callbacks of the library.  A failure may come with a code and a text. -/
inductive PahoCallback where
  | connectionLost (cause : Option String)
  | message (message : MqttMessage)
  | connectSuccess
  | connectFailure (response : Option (Int × Option String))
  | opSuccess
  | opFailure (response : Option (Int × Option String))

/-- The messages that a callback brings. -/
def PahoCallback.messages : PahoCallback -> List MqttMessage
  | .message m => [m]
  | _ => []

/-- The answers of Paho to the last call of a history, and the callbacks it runs
then. -/
structure Paho where
  create : List PahoCall -> Bool
  status : List PahoCall -> Int
  isConnected : List PahoCall -> Bool
  callbacks : List PahoCall -> List PahoCallback
  deriving Inhabited

/-- A library that does at once what it is asked, and delivers no messages. -/
def Paho.obliging : Paho where
  create _ := true
  status _ := 0
  isConnected _ := true
  callbacks
    | .connect _ :: _ => [.connectSuccess]
    | .subscribe _ _ :: _ => [.opSuccess]
    | _ => []

def mqttAsyncSuccess : Int := 0

def mqttAsyncFailure : Int := -1

abbrev kMaxQueued : Nat := 4096

instance : NeZero kMaxQueued := ⟨by decide⟩

def clampQos (qos : Int) : Int :=
  if qos < 0 then 0 else if 2 < qos then 2 else qos

/-- The session, and two records beside it: its calls, the newest first, and the messages
that callbacks brought while it was not being closed, the oldest first. -/
structure MqttSession where
  handle : Bool := false
  lastError : String := ""
  closing : Bool := false
  isConnected : Bool := false
  lost : Bool := false
  connectDone : Bool := false
  connectRc : Int := mqttAsyncFailure
  opDone : Bool := false
  opRc : Int := mqttAsyncFailure
  mailbox : Mailbox MqttMessage kMaxQueued := Mailbox.empty
  calls : List PahoCall := []
  heard : List MqttMessage := []

namespace MqttSession

/-!
# Callbacks
-/

def captureIfEmpty (s : MqttSession) (text : String) : MqttSession :=
  if s.lastError = "" then { s with lastError := text } else s

def onConnectionLost (s : MqttSession) (cause : Option String) : MqttSession :=
  if s.closing then s
  else
    { s with isConnected := false, lost := true }.captureIfEmpty
      (match cause with
      | some text => "MQTT connection lost: " ++ text
      | none => "MQTT connection lost")

def onMessage (s : MqttSession) (message : MqttMessage) : MqttSession :=
  if s.closing then s else { s with mailbox := s.mailbox.arrive message }

def onConnect (s : MqttSession) : MqttSession :=
  { s with
    connectRc := mqttAsyncSuccess
    connectDone := true
    isConnected := true
    lost := false }

def failureText (what : String) (response : Option (Int × Option String)) :
    String :=
  match response.bind Prod.snd with
  | some message => what ++ ": " ++ message
  | none => what

def failureCode (response : Option (Int × Option String)) : Int :=
  (response.map Prod.fst).getD mqttAsyncFailure

def onConnectFailure (s : MqttSession) (response : Option (Int × Option String)) :
    MqttSession :=
  { s with
    connectRc := failureCode response
    lastError := failureText "MQTT connect failed" response
    connectDone := true
    isConnected := false }

def onOpSuccess (s : MqttSession) : MqttSession :=
  { s with opRc := mqttAsyncSuccess, opDone := true }

def onOpFailure (s : MqttSession) (response : Option (Int × Option String)) :
    MqttSession :=
  { s with
    opRc := failureCode response
    lastError := failureText "MQTT operation failed" response
    opDone := true }

def onCallback (s : MqttSession) : PahoCallback -> MqttSession
  | .connectionLost cause => s.onConnectionLost cause
  | .message message => s.onMessage message
  | .connectSuccess => s.onConnect
  | .connectFailure response => s.onConnectFailure response
  | .opSuccess => s.onOpSuccess
  | .opFailure response => s.onOpFailure response

/-- Run a callback, and put on record what it brings. -/
def callback (s : MqttSession) (c : PahoCallback) : MqttSession :=
  { s.onCallback c with
    heard := if s.closing then s.heard else s.heard ++ c.messages }

/-- Make a call, and let the library run its callbacks. -/
def call (paho : Paho) (c : PahoCall) (s : MqttSession) : MqttSession :=
  (paho.callbacks (c :: s.calls)).foldl callback { s with calls := c :: s.calls }

/-!
# Operations
-/

def close (paho : Paho) (s : MqttSession) : MqttSession :=
  let s := { s with closing := true }
  let s :=
    if s.handle then
      let s := s.call paho .isConnected
      let s := if paho.isConnected s.calls then s.call paho .disconnect else s
      { s.call paho .destroy with handle := false }
    else s
  { s with
    isConnected := false
    lost := false
    mailbox := s.mailbox.discardAll
    closing := false }

def connectOptions (config : MqttSessionConfig) : PahoConnectOptions where
  keepAliveInterval :=
    if 0 < config.keepaliveSeconds then config.keepaliveSeconds else 20
  connectTimeout :=
    if 0 < config.connectTimeoutSeconds then config.connectTimeoutSeconds else 1
  username := if config.username ≠ "" then some config.username else none
  password := if config.password ≠ "" then some config.password else none
  serverCertAuth := if config.useTls then some config.tlsVerify else none

def serverUri (config : MqttSessionConfig) : String :=
  (if config.useTls then "ssl://" else "tcp://") ++ config.host ++ ":" ++
    toString config.port.toNat

/-- Ask the library to connect, and wait for its answer. -/
def awaitConnect (paho : Paho) (config : MqttSessionConfig) (s : MqttSession) :
    Bool × MqttSession :=
  let s := { s with connectDone := false, connectRc := mqttAsyncFailure }
  let s := s.call paho (.connect (connectOptions config))
  if paho.status s.calls ≠ mqttAsyncSuccess then
    (false, { s with lastError := "MQTT connect request failed" }.close paho)
  else
    let seconds :=
      (if 0 < config.connectTimeoutSeconds then config.connectTimeoutSeconds
        else 2) + 3
    let s := s.call paho (.wait (seconds * 1000))
    if !s.connectDone || s.connectRc != mqttAsyncSuccess then
      (false, (s.captureIfEmpty "MQTT connect timed out").close paho)
    else (true, s)

def connect (paho : Paho) (config : MqttSessionConfig) (s : MqttSession) :
    Bool × MqttSession :=
  let s :=
    { s.close paho with
      lastError := ""
      closing := false
      lost := false
      isConnected := false }
  if config.host = "" ∨ config.port = 0 ∨ config.clientId = "" then
    (false, { s with lastError := "missing MQTT host, port, or client id" })
  else
    let s :=
      s.call paho (.createWithOptions (serverUri config) config.clientId)
    if !paho.create s.calls then
      (false, { s with lastError := "MQTT create failed" })
    else
      let s := { s with handle := true }.call paho .setCallbacks
      if paho.status s.calls ≠ mqttAsyncSuccess then
        let s := { s with lastError := "MQTT setCallbacks failed" }
        (false, { s.call paho .destroy with handle := false })
      else awaitConnect paho config s

def connected (paho : Paho) (s : MqttSession) : Bool × MqttSession :=
  if !s.handle then (false, s)
  else
    let s := s.call paho .isConnected
    (s.isConnected && !s.lost && paho.isConnected s.calls, s)

def subscribe (paho : Paho) (topic : String) (qos : Int) (s : MqttSession) :
    Bool × MqttSession :=
  if !s.handle || topic == "" then
    (false, { s with lastError := "MQTT subscribe failed: no session or topic" })
  else
    let s := { s with opDone := false, opRc := mqttAsyncFailure }
    let s := s.call paho (.subscribe topic (clampQos qos))
    if paho.status s.calls ≠ mqttAsyncSuccess then
      (false, { s with lastError := "MQTT subscribe request failed" })
    else
      let s := s.call paho (.wait 2000)
      if !s.opDone || s.opRc != mqttAsyncSuccess then
        (false, s.captureIfEmpty "MQTT subscribe timed out")
      else (true, s)

def publish (paho : Paho) (topic payload : String) (qos : Int) (retain : Bool)
    (s : MqttSession) : Bool × MqttSession :=
  if !s.handle || topic == "" then
    (false, { s with lastError := "MQTT publish failed: no session or topic" })
  else
    let s := s.call paho (.sendMessage topic payload (clampQos qos) retain)
    if paho.status s.calls ≠ mqttAsyncSuccess then
      (false, { s with lastError := "MQTT publish request failed" })
    else
      let s := s.call paho .waitForCompletion
      if paho.status s.calls ≠ mqttAsyncSuccess then
        (false, { s with lastError := "MQTT publish wait failed" })
      else (true, s)

/-- The end of a receive, under the lock: a loss goes before the messages that
wait. -/
def takeMessage (s : MqttSession) : MqttIncoming × MqttSession :=
  if s.lost then (.error, s.captureIfEmpty "MQTT broker disconnected")
  else
    match s.mailbox.take with
    | (none, _) => (.nothing, s)
    | (some message, mailbox) => (.received message, { s with mailbox := mailbox })

def receive (paho : Paho) (timeoutMs : Nat) (s : MqttSession) :
    MqttIncoming × MqttSession :=
  let s := s.call paho .lock
  if s.lost then (.error, s.captureIfEmpty "MQTT broker disconnected")
  else if s.handle then
    let s := s.call paho .isConnected
    if !paho.isConnected s.calls && (s.isConnected || s.lost) then
      (.error,
        { s.captureIfEmpty "MQTT broker disconnected" with
          lost := true
          isConnected := false })
    else (s.call paho (.wait timeoutMs)).takeMessage
  else (s.call paho (.wait timeoutMs)).takeMessage

end MqttSession

end VirtualFactory
