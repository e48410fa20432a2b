/-
# The MQTT transport the engines drive

`src/transport.rs`: the messages, the connection options and the trait, as a class of state
transformers that may fail.  The `rumqttc` implementation is code over a third-party client and
is not modelled; `Recorder` is the in-memory transport the engines are observed through, and a
`Clock` is what they read from the two system clocks.
-/
import Mathlib.Data.Stream.Defs
import SparkplugB.Error
import SparkplugB.Lib.Fallible

namespace SparkplugB

/-- MQTT Quality of Service level. -/
inductive Qos where
  | atMostOnce
  | atLeastOnce
  | exactlyOnce
  deriving DecidableEq, Repr

/-- TLS configuration for a transport (PEM-encoded material). -/
structure TlsConfig where
  caPem : Option Bytes := none
  clientCertPem : Option Bytes := none
  clientKeyPem : Option Bytes := none
  deriving DecidableEq

/-- A message to publish. -/
structure OutboundMessage where
  topic : String
  qos : Qos
  retain : Bool
  payload : Bytes
  deriving DecidableEq

/-- A message received from the broker. -/
structure IncomingMessage where
  topic : String
  payload : Bytes
  deriving DecidableEq

/-- A message, as its receiver gets it. -/
def OutboundMessage.delivered (message : OutboundMessage) : IncomingMessage :=
  ⟨message.topic, message.payload⟩

/-- Connection options, including the Last-Will-and-Testament. -/
structure ConnectOptions where
  clientId : String
  host : String
  port : UInt16
  keepAliveSecs : UInt16
  cleanStart : Bool
  will : Option OutboundMessage
  tls : Option TlsConfig
  deriving DecidableEq

/-- The MQTT transport the edge/host engines drive. -/
class MqttTransport (T : Type) where
  connect : ConnectOptions → EStateM SparkplugError T Unit
  subscribe : String → Qos → EStateM SparkplugError T Unit
  publish : OutboundMessage → EStateM SparkplugError T Unit
  disconnect : EStateM SparkplugError T Unit
  recv : EStateM SparkplugError T (Option IncomingMessage)

/-! ## 1. A transport that keeps a journal -/

/-- What an engine was seen to do: a transport call, or the handling of a message. -/
inductive Entry where
  | connect (opts : ConnectOptions)
  | subscribe (filter : String) (qos : Qos)
  | publish (msg : OutboundMessage)
  | disconnect
  | handled (msg : IncomingMessage)
  deriving DecidableEq

/-- A transport on which every call succeeds and is written down, the latest first. -/
structure Recorder where
  log : List Entry := []
  inbox : List IncomingMessage := []

namespace Recorder

/-- Write down one entry. -/
def note (e : Entry) (r : Recorder) : Recorder := { r with log := e :: r.log }

instance : MqttTransport Recorder where
  connect opts := modify (note (.connect opts))
  subscribe filter qos := modify (note (.subscribe filter qos))
  publish msg := modify (note (.publish msg))
  disconnect := modify (note .disconnect)
  recv := modifyGet fun r => (r.inbox.head?, { r with inbox := r.inbox.tail })

@[simp] theorem note_log (e : Entry) (r : Recorder) : (r.note e).log = e :: r.log := rfl

end Recorder

/-! ## 2. Clocks -/

/-- One look at the clocks: the milliseconds since the Unix epoch, `none` when the system clock
stands before it, and the monotonic instant in nanoseconds. -/
structure Reading where
  sinceEpoch : Option Nat
  instant : Nat

/-- The readings still to come, in the order they will be taken. -/
abbrev Clock := Stream' Reading

/-- A `Duration`, and the distance of two `Instant`s, in nanoseconds. -/
abbrev Duration := Nat

/-- `Duration::from_secs`. -/
def Duration.fromSecs (secs : Nat) : Duration := secs * 1000000000

/-- An engine and the clock it reads. -/
structure Timed (σ : Type) where
  engine : σ
  clock : Clock

namespace Timed

variable {σ : Type}

/-- Take one reading. -/
def read : EStateM SparkplugError (Timed σ) Reading :=
  modifyGet fun s => (s.clock.head, { s with clock := s.clock.tail })

/-- `Instant::now()`. -/
def instant : EStateM SparkplugError (Timed σ) Nat := do return (← read).instant

@[simp] theorem run_read (s : Timed σ) :
    read.run s = .ok s.clock.head { s with clock := s.clock.tail } := rfl

@[simp] theorem run_instant (s : Timed σ) :
    instant.run s = .ok s.clock.head.instant { s with clock := s.clock.tail } := rfl

end Timed

end SparkplugB
