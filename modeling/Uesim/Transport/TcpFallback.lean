import Uesim.Library.Tlv

/-!
# SCTP over TCP

Where there is no SCTP, a message goes through a TCP connection behind a header of its own. The connection is
a stream of bytes: a `send` accepts some of the bytes it is offered, and a `recv` gets some of the bytes that
are there. The two ends take turns in any order, one call of `send` or `recv` at a time.
-/

namespace Uesim

open Bytes Tlv

inductive SctpError where
  | send
  | recv
  | protocol
  deriving DecidableEq, Repr

structure TcpMessage where
  ppid : Word
  data : List Byte
  deriving DecidableEq, Repr

/-- A message whose length fits in its header. -/
abbrev OutgoingMessage := {message : TcpMessage // message.data.length < 2 ^ 32}

/-! ### The header -/

def tcpFallbackMagic : Word := 0x53545450

structure TcpFallbackHeader where
  magic : Word
  ppid : Word
  length : Word
  reserved : Word
  deriving DecidableEq, Repr

/-- The size of the header. -/
def tcpFallbackHeaderSize : Nat := 16

namespace TcpFallbackHeader

def toBytes (header : TcpFallbackHeader) : List Byte :=
  beBytes header.magic 4 ++ beBytes header.ppid 4 ++ beBytes header.length 4 ++ beBytes header.reserved 4

def ofBytes (bytes : List Byte) : TcpFallbackHeader where
  magic := beValue 32 (bytes.take 4)
  ppid := beValue 32 ((bytes.drop 4).take 4)
  length := beValue 32 ((bytes.drop 8).take 4)
  reserved := beValue 32 ((bytes.drop 12).take 4)

theorem length_toBytes (header : TcpFallbackHeader) : header.toBytes.length = tcpFallbackHeaderSize := by
  simp only [toBytes, List.length_append, length_beBytes]
  rfl

theorem ofBytes_toBytes (header : TcpFallbackHeader) : ofBytes header.toBytes = header := by
  have hvalue (v : Word) : beValue 32 (beBytes v 4) = v := beValue_beBytes v (by decide)
  simp [ofBytes, toBytes, List.drop_append, hvalue, List.take_of_length_le, List.drop_eq_nil_of_le]

end TcpFallbackHeader

def TcpMessage.header (message : TcpMessage) : TcpFallbackHeader where
  magic := tcpFallbackMagic
  ppid := message.ppid
  length := BitVec.ofNat 32 message.data.length
  reserved := 0

/-! ### The connection -/

/-- Where `sctp_tcp_fallback_send` is. -/
inductive SenderStage where
  | idle
  | data (message : OutgoingMessage)

/-- Where `sctp_tcp_fallback_recv` is, with what it has received of the header or the data. -/
inductive ReceiverStage where
  | idle
  | header (bufSize : Nat) (received : List Byte)
  | data (ppid : Word) (length : Nat) (received : List Byte)
  deriving DecidableEq, Repr

/-- A connection: the bytes under way, both ends, and what their calls have answered. -/
structure TcpLink where
  stream : List Byte
  sender : SenderStage
  receiver : ReceiverStage
  sends : List (OutgoingMessage × Except SctpError Unit)
  receives : List (Except SctpError TcpMessage)

def TcpLink.opened : TcpLink where
  stream := []
  sender := .idle
  receiver := .idle
  sends := []
  receives := []

inductive TcpEvent where
  /-- `sctp_tcp_fallback_send` is called, and `send` accepts so many bytes of the header. -/
  | send (message : OutgoingMessage) (accepted : Nat)
  /-- `send` accepts so many bytes of the data. -/
  | sendData (accepted : Nat)
  /-- `sctp_tcp_fallback_recv` is called. -/
  | recv (bufSize : Nat)
  /-- A `recv` gets so many bytes. -/
  | recvBytes (count : Nat)
  /-- A `recv` fails, or the connection is closed. -/
  | recvFailed

namespace TcpLink

/-! ### Sending -/

def sendReturns (link : TcpLink) (message : OutgoingMessage) (answer : Except SctpError Unit) : TcpLink :=
  { link with sender := .idle, sends := link.sends ++ [(message, answer)] }

def send (link : TcpLink) (message : OutgoingMessage) (accepted : Nat) : TcpLink :=
  match link.sender with
  | .data _ => link
  | .idle =>
      let sent := message.val.header.toBytes.take accepted
      let link := { link with stream := link.stream ++ sent }
      if sent.length ≠ tcpFallbackHeaderSize then link.sendReturns message (.error .send)
      else if message.val.data.length > 0 then { link with sender := .data message }
      else link.sendReturns message (.ok ())

def sendData (link : TcpLink) (accepted : Nat) : TcpLink :=
  match link.sender with
  | .idle => link
  | .data message =>
      let sent := message.val.data.take accepted
      let link := { link with stream := link.stream ++ sent }
      if sent.length ≠ message.val.data.length then link.sendReturns message (.error .send)
      else link.sendReturns message (.ok ())

/-! ### Receiving -/

def recvReturns (link : TcpLink) (answer : Except SctpError TcpMessage) : TcpLink :=
  { link with receiver := .idle, receives := link.receives ++ [answer] }

def recv (link : TcpLink) (bufSize : Nat) : TcpLink :=
  match link.receiver with
  | .idle => { link with receiver := .header bufSize [] }
  | _ => link

/-- What a `recv` gets that asks for what is missing. -/
def chunk (link : TcpLink) (count missing : Nat) : List Byte := link.stream.take (min count missing)

/-- The header is complete. -/
def recvHeader (link : TcpLink) (bufSize : Nat) (header : TcpFallbackHeader) : TcpLink :=
  if header.magic ≠ tcpFallbackMagic then link.recvReturns (.error .protocol)
  else if header.length.toNat > bufSize then link.recvReturns (.error .recv)
  else if header.length.toNat > 0 then { link with receiver := .data header.ppid header.length.toNat [] }
  else link.recvReturns (.ok ⟨header.ppid, []⟩)

/-- A turn of the loop for the header or the data. Without bytes in the stream it waits. -/
def recvBytes (link : TcpLink) (count : Nat) : TcpLink :=
  match link.receiver with
  | .idle => link
  | .header bufSize received =>
      let got := link.chunk count (tcpFallbackHeaderSize - received.length)
      let link := { link with stream := link.stream.drop got.length }
      if (received ++ got).length < tcpFallbackHeaderSize then
        { link with receiver := .header bufSize (received ++ got) }
      else link.recvHeader bufSize (.ofBytes (received ++ got))
  | .data ppid length received =>
      let got := link.chunk count (length - received.length)
      let link := { link with stream := link.stream.drop got.length }
      if (received ++ got).length < length then { link with receiver := .data ppid length (received ++ got) }
      else link.recvReturns (.ok ⟨ppid, received ++ got⟩)

def recvFailed (link : TcpLink) : TcpLink :=
  match link.receiver with
  | .idle => link
  | _ => link.recvReturns (.error .recv)

end TcpLink

/-- One call of `send` or `recv`; what cannot happen at a stage leaves everything as it is. -/
def tcpStep (link : TcpLink) : TcpEvent → TcpLink
  | .send message accepted => link.send message accepted
  | .sendData accepted => link.sendData accepted
  | .recv bufSize => link.recv bufSize
  | .recvBytes count => link.recvBytes count
  | .recvFailed => link.recvFailed

end Uesim
