/-
# The receiving side of the Qt client

`TcpClient` owns a socket that is connected again and again, and one decoder for all of its
connections. `connectToHost` resets the decoder if it has to abort a connection first. A
connection that is over by then, because the server closed it or because its bytes were
refused, leaves the decoder as it is, and what it left there is put in front of the bytes of
the next connection.

So what a connection emits depends on its own bytes alone in every run where a connection that
ends by itself ends between two packets, and not in every run.
-/

import LiteIM.Foundation.Transition
import LiteIM.Protocol.FrameDecoder

namespace LiteIM.ClientQt

open Foundation FrameDecoder Packet Framing List

/-- The states of a `QTcpSocket` that is not listening. -/
inductive SocketState where
  | unconnected
  | hostLookup
  | connecting
  | connected
  | closing
  deriving DecidableEq, Repr

structure PacketCodec where
  decoder : FrameDecoder := {}

namespace PacketCodec

def feed (codec : PacketCodec) (bytes : Bytes) : FeedResult :=
  codec.decoder.feed (some bytes) bytes.length

def reset (codec : PacketCodec) : PacketCodec := ⟨codec.decoder.reset⟩

end PacketCodec

inductive Signal where
  | packetReceived (packet : Packet)
  | errorOccurred (message : String)

structure TcpClient where
  state : SocketState := .unconnected
  codec : PacketCodec := {}

namespace TcpClient

/-- `abort` leaves the socket unconnected, and `QTcpSocket::connectToHost` starts with the
lookup of the host. -/
def connectToHost (client : TcpClient) : TcpClient :=
  let client :=
    if client.state ≠ .unconnected then
      { client with state := .unconnected, codec := client.codec.reset }
    else client
  { client with state := .hostLookup }

/-- What `handleReadyRead` emits and keeps, and whether it disconnects. -/
structure ReadyRead where
  signals : List Signal
  codec : PacketCodec
  disconnects : Bool

def handleReadyRead (client : TcpClient) (bytes : Bytes) : ReadyRead :=
  let result := client.codec.feed bytes
  match result.status with
  | .error status => ⟨[.errorOccurred status.message], ⟨result.decoder⟩, true⟩
  | .ok () => ⟨result.output.map .packetReceived, ⟨result.decoder⟩, false⟩

/-- `QTcpSocket::disconnectFromHost` closes the socket at once, or lets it finish writing, or
even connecting, first. -/
def Disconnects (state next : SocketState) : Prop :=
  next = state ∨ next = .closing ∨ next = .unconnected

/-- What happens to the client, with the bytes read and the signals emitted. -/
inductive Label where
  | connectToHost
  | progress
  | readyRead (bytes : Bytes) (signals : List Signal)
  | disconnectFromHost
  | disconnected

inductive Step (client : TcpClient) : Label → TcpClient → Prop where
  | connectToHost : Step client .connectToHost client.connectToHost
  | hostFound (looked : client.state = .hostLookup) :
      Step client .progress { client with state := .connecting }
  | connected (connecting : client.state = .connecting) :
      Step client .progress { client with state := .connected }
  | readyRead (bytes : Bytes) (readable : client.state = .connected ∨ client.state = .closing)
      (accepted : (client.handleReadyRead bytes).disconnects = false) :
      Step client (.readyRead bytes (client.handleReadyRead bytes).signals)
        { client with codec := (client.handleReadyRead bytes).codec }
  | refused (bytes : Bytes) {next : SocketState}
      (readable : client.state = .connected ∨ client.state = .closing)
      (refused : (client.handleReadyRead bytes).disconnects = true)
      (disconnects : Disconnects client.state next) :
      Step client (.readyRead bytes (client.handleReadyRead bytes).signals)
        ⟨next, (client.handleReadyRead bytes).codec⟩
  | disconnectFromHost {next : SocketState} (started : client.state ≠ .unconnected)
      (disconnects : Disconnects client.state next) :
      Step client .disconnectFromHost { client with state := next }
  /-- The server closes the connection, or it cannot be made, or it has finished closing. -/
  | disconnected (started : client.state ≠ .unconnected) :
      Step client .disconnected { client with state := .unconnected }

/-! ## What is received on each connection -/

/-- What is read and what is emitted from one `connectToHost` to the next. -/
structure Connection where
  received : Bytes := []
  emitted : List Packet := []

def Signal.packet? : Signal → Option Packet
  | .packetReceived packet => some packet
  | .errorOccurred _ => none

/-- Add what happens to the connections made so far, the current one in front. -/
def record : List Connection → Label → List Connection
  | made, .connectToHost => {} :: made
  | current :: earlier, .readyRead bytes signals =>
    ⟨current.received ++ bytes, current.emitted ++ signals.filterMap Signal.packet?⟩ :: earlier
  | made, _ => made

def connections (labels : List Label) : List Connection := labels.foldl record []

theorem connections_snoc (labels : List Label) (label : Label) :
    connections (labels ++ [label]) = record (connections labels) label :=
  foldl_concat record [] label labels

/-- The packets emitted are a prefix of those a fresh decoder outputs for the bytes received,
and all of them if the decoder does not refuse the bytes. -/
structure Connection.Faithful (connection : Connection) : Prop where
  emits : connection.emitted <+: (feedBytes {} connection.received).output
  all : (feedBytes {} connection.received).decoder.hasError = false →
    connection.emitted = (feedBytes {} connection.received).output

/-- The decoder stands where the bytes of a connection alone lead it. -/
structure Follows (codec : PacketCodec) (connection : Connection) : Prop where
  decodes : Decodes packetFraming connection.received
    ((packetFraming.drain connection.received).items, codec.decoder.asDecoder)
  emits : connection.emitted <+: (packetFraming.drain connection.received).items
  all : codec.decoder.error = false →
    connection.emitted = (packetFraming.drain connection.received).items

theorem Follows.faithful {codec : PacketCodec} {connection : Connection}
    (hfollows : Follows codec connection) : connection.Faithful := by
  have hfresh : feedBytes {} connection.received = _ := feedBytes_of_open rfl connection.received
  rw [nil_append] at hfresh
  apply Connection.Faithful.mk
  · rw [hfresh]
    exact hfollows.emits
  · intro hopen
    rw [hasError_feedBytes_eq, ← hfollows.decodes.failed] at hopen
    rw [hfresh]
    exact hfollows.all hopen

theorem Follows.fresh : Follows {} {} := by
  have hdrain : packetFraming.drain [] = ⟨[], [], none⟩ :=
    drain_of_incomplete scanPacket_nil
  have hitems : ([] : List Packet) = (packetFraming.drain []).items := by rw [hdrain]
  refine ⟨?_, nil_prefix, fun _ => hitems⟩
  rw [← hitems]
  exact decodes_feedAll []

section Open

variable {client : TcpClient} {bytes rest : Bytes} {items : List Packet}
  (hopen : client.codec.decoder.error = false)

include hopen

theorem handleReadyRead_accepts
    (hdrain : packetFraming.drain (client.codec.decoder.buffer ++ bytes) = ⟨items, rest, none⟩) :
    client.handleReadyRead bytes =
      ⟨items.map .packetReceived, ⟨⟨rest, false⟩⟩, false⟩ := by
  have hfeed : client.codec.feed bytes = _ := feedBytes_of_open hopen bytes
  rw [handleReadyRead, hfeed, hdrain]
  rfl

theorem handleReadyRead_refuses {status : Error}
    (hdrain : packetFraming.drain (client.codec.decoder.buffer ++ bytes) =
      ⟨items, rest, some status⟩) :
    client.handleReadyRead bytes =
      ⟨[.errorOccurred status.message], ⟨⟨rest, true⟩⟩, true⟩ := by
  have hfeed : client.codec.feed bytes = _ := feedBytes_of_open hopen bytes
  rw [handleReadyRead, hfeed, hdrain]
  rfl

end Open

/-- One read: the packets of the feed are emitted, unless it refuses its bytes. -/
theorem handleReadyRead_cases (client : TcpClient) (bytes : Bytes) :
    (client.handleReadyRead bytes).codec.decoder =
        (client.codec.decoder.feedBytes bytes).decoder ∧
      ((client.handleReadyRead bytes).codec.decoder.error = false ∧
          (client.handleReadyRead bytes).signals.filterMap Signal.packet? =
            (client.codec.decoder.feedBytes bytes).output ∨
        (client.handleReadyRead bytes).codec.decoder.error = true ∧
          (client.handleReadyRead bytes).signals.filterMap Signal.packet? = []) := by
  cases herror : client.codec.decoder.error with
  | true =>
    have hfeed : client.codec.feed bytes = client.codec.decoder.feedBytes bytes := rfl
    rw [handleReadyRead, hfeed, feedBytes_of_error herror]
    exact ⟨rfl, Or.inr ⟨herror, rfl⟩⟩
  | false =>
    rw [feedBytes_of_open herror]
    cases hdrain : packetFraming.drain (client.codec.decoder.buffer ++ bytes) with
    | mk items rest failure =>
      cases failure with
      | none =>
        rw [handleReadyRead_accepts herror hdrain]
        refine ⟨rfl, Or.inl ⟨rfl, ?_⟩⟩
        rw [filterMap_map]
        exact filterMap_some
      | some =>
        rw [handleReadyRead_refuses herror hdrain]
        exact ⟨rfl, Or.inr ⟨rfl, rfl⟩⟩

variable {client : TcpClient}

/-- A connection that is read from stays one whose own bytes lead the decoder. -/
theorem Follows.readyRead {connection : Connection} (hfollows : Follows client.codec connection)
    (bytes : Bytes) : Follows (client.handleReadyRead bytes).codec
      ⟨connection.received ++ bytes, connection.emitted ++
        (client.handleReadyRead bytes).signals.filterMap Signal.packet?⟩ := by
  obtain ⟨hcodec, hcases⟩ := client.handleReadyRead_cases bytes
  have hpush := @Decodes.push _ _ _ _ _ bytes _ hfollows.decodes
  simp only [push_asDecoder] at hpush
  have hitems : (packetFraming.drain connection.received).items ++
      (client.codec.decoder.feedBytes bytes).output =
        (packetFraming.drain (connection.received ++ bytes)).items := hpush.items
  rw [hitems, ← hcodec] at hpush
  rcases hcases with ⟨hopen, hemits⟩ | ⟨herror, hemits⟩
  · have hbefore : client.codec.decoder.error = false := by
      cases herror : client.codec.decoder.error with
      | false => rfl
      | true =>
        rw [hcodec, feedBytes_of_error herror] at hopen
        exact absurd hopen (Bool.eq_false_iff.not_left.mpr herror)
    have hall := hfollows.all hbefore
    refine ⟨hpush, ?_, fun _ => ?_⟩
    · rw [hemits, hall]
      exact hitems ▸ prefix_rfl
    · rw [hemits, hall]
      exact hitems
  · refine ⟨hpush, ?_, fun hopen => ?_⟩
    · rw [hemits, append_nil, ← hitems]
      exact hfollows.emits.trans (prefix_append _ _)
    · rw [herror] at hopen
      cases hopen

/-! ## Runs -/

/-- A connection that ended by itself ended between two packets. -/
def Clean (client : TcpClient) : Prop :=
  client.state = .unconnected → client.codec = {}

/-- A step that makes no connection on top of the rest of another. -/
def CleanStep (client : TcpClient) (label : Label) (next : TcpClient) : Prop :=
  Step client label next ∧ (label = .connectToHost → client.Clean)

theorem codec_connectToHost (hclean : client.Clean) : client.connectToHost.codec = {} := by
  by_cases hstate : client.state = .unconnected
  · simp only [connectToHost, hstate, ne_eq, not_true_eq_false, if_false]
    exact hclean hstate
  · simp only [connectToHost, hstate, ne_eq, not_false_eq_true, if_true]
    rfl

/-- Where the client stands with the connections made so far. -/
def Stands (client : TcpClient) : List Connection → Prop
  | [] => client.state = .unconnected
  | current :: _ => Follows client.codec current

/-- Everything a step can do to the decoder: a new connection, nothing, or a read. -/
theorem Step.cases {next : TcpClient} {label : Label} (hstep : Step client label next) :
    (label = .connectToHost ∧ next = client.connectToHost) ∨
      client.state ≠ .unconnected ∧
        ((next.codec = client.codec ∧ ∀ made, record made label = made) ∨
          ∃ bytes, label = .readyRead bytes (client.handleReadyRead bytes).signals ∧
            next.codec = (client.handleReadyRead bytes).codec) := by
  cases hstep with
  | connectToHost => exact Or.inl ⟨rfl, rfl⟩
  | hostFound hlooked => exact Or.inr ⟨by simp [hlooked], Or.inl ⟨rfl, fun made => rfl⟩⟩
  | connected hconnecting => exact Or.inr ⟨by simp [hconnecting], Or.inl ⟨rfl, fun made => rfl⟩⟩
  | readyRead bytes hreadable | refused bytes hreadable =>
    refine Or.inr ⟨?_, Or.inr ⟨bytes, rfl, rfl⟩⟩
    rcases hreadable with hstate | hstate
    · simp [hstate]
    · simp [hstate]
  | disconnectFromHost hstarted | disconnected hstarted =>
    exact Or.inr ⟨hstarted, Or.inl ⟨rfl, fun made => rfl⟩⟩

/-- The connections are faithful, and the decoder follows the current one. -/
structure Serves (client : TcpClient) (made : List Connection) : Prop where
  faithful : ∀ connection ∈ made, connection.Faithful
  stands : client.Stands made

theorem Serves.of_follows {current : Connection} {earlier : List Connection}
    (hfollows : Follows client.codec current)
    (hearlier : ∀ connection ∈ earlier, connection.Faithful) : client.Serves (current :: earlier) :=
  ⟨forall_mem_cons.mpr ⟨hfollows.faithful, hearlier⟩, hfollows⟩

theorem Serves.step {next : TcpClient} {label : Label} {made : List Connection}
    (hserves : client.Serves made) (hstep : CleanStep client label next) :
    next.Serves (record made label) := by
  obtain ⟨htaken, hclean⟩ := hstep
  rcases htaken.cases with ⟨rfl, rfl⟩ | ⟨hstarted, heffect⟩
  · apply Serves.of_follows
    · rw [codec_connectToHost (hclean rfl)]
      exact Follows.fresh
    · exact hserves.faithful
  · cases made with
    | nil => exact absurd hserves.stands hstarted
    | cons =>
      have hearlier := (forall_mem_cons.mp hserves.faithful).2
      rcases heffect with ⟨hcodec, hrecord⟩ | ⟨bytes, rfl, hcodec⟩
      · rw [hrecord]
        apply Serves.of_follows _ hearlier
        rw [hcodec]
        exact hserves.stands
      · apply Serves.of_follows _ hearlier
        rw [hcodec]
        exact Follows.readyRead hserves.stands bytes

theorem serves_of_path {labels : List Label} (hpath : Path CleanStep {} labels client) :
    client.Serves (connections labels) := by
  apply hpath.invariant (fun labels client => client.Serves (connections labels))
  · exact ⟨forall_mem_nil _, rfl⟩
  · intro past before label after _ hbefore hstep
    rw [connections_snoc]
    exact hbefore.step hstep

/-- In every run where a connection that ended by itself ended between two packets when the
next one is made, every connection emits a prefix of the packets a fresh decoder outputs for
its own bytes, and all of them if these contain no bad header. -/
theorem packetReceived_per_connection {labels : List Label} {client : TcpClient}
    (hpath : Path CleanStep {} labels client) :
    ∀ connection ∈ connections labels, connection.Faithful :=
  (serves_of_path hpath).faithful

theorem drain_frame : packetFraming.drain (frame {}) = ⟨[{}], [], none⟩ := by
  have hframe : packetFraming.scan (frame {}) = .item {} 20 := rfl
  have hend : packetFraming.drain ((frame {}).drop 20) = ⟨[], [], none⟩ :=
    drain_of_incomplete scanPacket_nil
  rw [drain_of_item hframe, hend]

/-- A connection on which a whole frame arrives, and one after it. -/
theorem packetReceived_per_connection_reconnect :
    ∃ labels client, Path CleanStep {} labels client ∧
      connections labels = [⟨[], []⟩, ⟨frame {}, [{}]⟩] ∧
      ∀ connection ∈ connections labels, connection.Faithful := by
  have hread : handleReadyRead ⟨.connected, {}⟩ (frame {}) =
      ⟨[.packetReceived {}], {}, false⟩ :=
    @handleReadyRead_accepts _ _ [] [{}] rfl drain_frame
  have hreadyRead := Step.readyRead (frame {}) (Or.inl rfl) (by rw [hread])
  rw [hread] at hreadyRead
  have hpath : Path CleanStep {} [.connectToHost, .progress, .progress,
      .readyRead (frame {}) [.packetReceived {}], .disconnected, .connectToHost]
      ⟨.hostLookup, {}⟩ := by
    refine .cons ⟨.connectToHost, fun _ _ => rfl⟩ ?_
    refine .cons ⟨.hostFound rfl, nofun⟩ ?_
    refine .cons ⟨.connected rfl, nofun⟩ ?_
    refine .cons ⟨hreadyRead, nofun⟩ ?_
    refine .cons ⟨.disconnected nofun, nofun⟩ ?_
    exact .single ⟨.connectToHost, fun _ _ => rfl⟩
  exact ⟨_, _, hpath, rfl, packetReceived_per_connection hpath⟩

/-- The server closes a connection after the first byte of a header. The next connection
receives a whole frame, and the client refuses it. -/
theorem packetReceived_after_cut_header :
    ∃ labels client, Path Step {} labels client ∧
      connections labels = [⟨frame {}, []⟩, ⟨[0x4C], []⟩] ∧
      ¬ ∀ connection ∈ connections labels, connection.Faithful := by
  have hcut : packetFraming.drain [0x4C] = ⟨[], [0x4C], none⟩ :=
    drain_of_incomplete rfl
  have hshifted : packetFraming.drain ([0x4C] ++ frame {}) =
      ⟨[], [0x4C] ++ frame {}, some ⟨.parseError, "invalid packet magic"⟩⟩ :=
    drain_of_malformed rfl
  have hfirst : handleReadyRead ⟨.connected, {}⟩ [0x4C] = ⟨[], ⟨⟨[0x4C], false⟩⟩, false⟩ :=
    @handleReadyRead_accepts _ _ [0x4C] [] rfl hcut
  have hsecond : handleReadyRead ⟨.connected, ⟨⟨[0x4C], false⟩⟩⟩ (frame {}) = _ :=
    handleReadyRead_refuses rfl hshifted
  have hreadyRead := Step.readyRead [0x4C] (Or.inl rfl) (by rw [hfirst])
  have hrefused := Step.refused (frame {}) (Or.inl rfl) (by rw [hsecond])
    (Or.inr (Or.inr rfl))
  rw [hfirst] at hreadyRead
  rw [hsecond] at hrefused
  refine ⟨[.connectToHost, .progress, .progress, .readyRead [0x4C] [], .disconnected,
    .connectToHost, .progress, .progress,
    .readyRead (frame {}) [.errorOccurred "invalid packet magic"]],
    ⟨.unconnected, ⟨⟨[0x4C] ++ frame {}, true⟩⟩⟩, ?_, rfl, ?_⟩
  · refine .cons .connectToHost ?_
    refine .cons (.hostFound rfl) ?_
    refine .cons (.connected rfl) ?_
    refine .cons hreadyRead ?_
    refine .cons (.disconnected nofun) ?_
    refine .cons .connectToHost ?_
    refine .cons (.hostFound rfl) ?_
    refine .cons (.connected rfl) ?_
    exact .single hrefused
  · intro hfaithful
    have hlast : Connection.Faithful ⟨frame {}, []⟩ := hfaithful _ mem_cons_self
    have hfresh : feedBytes {} (frame {}) = _ := feedBytes_of_open rfl (frame {})
    rw [nil_append, drain_frame] at hfresh
    have hall := hlast.all (by rw [hfresh]; rfl)
    rw [hfresh] at hall
    cases hall

end TcpClient

end LiteIM.ClientQt
