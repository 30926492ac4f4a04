import Uesim.Library.Framing
import Uesim.Library.Runs
import Uesim.Transport.TcpFallback

/-!
# Message boundaries

Nothing in the stream tells where a message begins but the message before it. A message that has been sent in
part, and the data of a message that has been too large for a buffer, are read as headers.
-/

namespace Uesim

open Bytes

def tcpFraming : Framing OutgoingMessage Byte where
  size := tcpFallbackHeaderSize
  header message := message.val.header.toBytes
  data message := message.val.data
  IsHeader bytes := (TcpFallbackHeader.ofBytes bytes).magic = tcpFallbackMagic
  size_pos := by decide
  length_header message := message.val.header.length_toBytes
  isHeader_header message := by rw [TcpFallbackHeader.ofBytes_toBytes]; rfl

instance (bytes : List Byte) : Decidable (tcpFraming.IsHeader bytes) :=
  inferInstanceAs (Decidable (_ = tcpFallbackMagic))

theorem ofBytes_header (message : OutgoingMessage) :
    TcpFallbackHeader.ofBytes (tcpFraming.header message) = message.val.header :=
  TcpFallbackHeader.ofBytes_toBytes _

theorem toNat_length_header (message : OutgoingMessage) :
    message.val.header.length.toNat = message.val.data.length :=
  (BitVec.toNat_ofNat _ _).trans (Nat.mod_eq_of_lt message.property)

namespace TcpLink

/-- The messages whose `send` has returned `SCTP_SUCCESS`. -/
def sent (link : TcpLink) : List OutgoingMessage :=
  link.sends.filterMap fun call => call.2.toOption.map fun _ => call.1

/-- The message whose header has been sent. -/
def underWay (link : TcpLink) : List OutgoingMessage :=
  match link.sender with
  | .idle => []
  | .data message => [message]

/-- What the sender has yet to put in. -/
def outstanding (link : TcpLink) : List Byte :=
  match link.sender with
  | .idle => []
  | .data message => message.val.data

def offered (link : TcpLink) : List Byte := link.stream ++ link.outstanding

/-- What has been sent is received in order, and an error stands for every message that is not. Nothing is
left when the stream is empty and no receiver waits. -/
structure KeepsBoundaries (link : TcpLink) : Prop where
  accounted : ∃ done rest, link.sent = done ++ rest ∧ Accounted Subtype.val done link.receives
  drained : link.stream = [] → link.receiver = .idle → Accounted Subtype.val link.sent link.receives

/-- The step leaves nothing in the stream that is read as a header and is none: what is sent is accepted
wholly or not at all, a `recv` does not fail within a message, and the data of a message that is too large
for its buffer is refused block by block. -/
def Unbroken (link : TcpLink) : TcpEvent → Prop
  | .send _ accepted => link.sender = .idle → accepted = 0 ∨ tcpFallbackHeaderSize ≤ accepted
  | .sendData accepted => link.outstanding.length ≤ accepted
  | .recv _ => True
  | .recvBytes count =>
      match link.receiver with
      | .header bufSize received =>
          let got := link.chunk count (tcpFallbackHeaderSize - received.length)
          let header := TcpFallbackHeader.ofBytes (received ++ got)
          (received ++ got).length = tcpFallbackHeaderSize → header.magic = tcpFallbackMagic →
            bufSize < header.length.toNat →
            tcpFraming.Refused ((link.offered.drop got.length).take header.length.toNat)
      | _ => True
  | .recvFailed =>
      match link.receiver with
      | .idle => True
      | .header _ received => received = []
      | .data _ _ _ => False

/-! ### What the receiver expects -/

end TcpLink

/-- What is offered, with what the receiver has already, are blocks that are refused and then messages, or
the data of the message that is being received and then messages. -/
def ReceiverStage.Expects (receiver : ReceiverStage) (offered : List Byte) (rest : List OutgoingMessage) :
    Prop :=
  match receiver with
  | .idle => ∃ junk, tcpFraming.Refused junk ∧ offered = junk ++ tcpFraming.encodeAll rest
  | .header _ received =>
      received.length < tcpFallbackHeaderSize
        ∧ ∃ junk, tcpFraming.Refused junk ∧ received ++ offered = junk ++ tcpFraming.encodeAll rest
  | .data ppid length received =>
      received.length < length
        ∧ ∃ message later, rest = message :: later ∧ ppid = message.val.ppid
          ∧ length = message.val.data.length
          ∧ received ++ offered = message.val.data ++ tcpFraming.encodeAll later

theorem ReceiverStage.Expects.append {receiver : ReceiverStage} {offered : List Byte}
    {rest : List OutgoingMessage}
    (h : receiver.Expects offered rest) (message : OutgoingMessage) :
    receiver.Expects (offered ++ tcpFraming.encode message) (rest ++ [message]) := by
  cases receiver with
  | idle =>
      obtain ⟨junk, hjunk, hoffered⟩ := h
      exact ⟨junk, hjunk, by rw [hoffered, Framing.encodeAll_concat, List.append_assoc]⟩
  | header bufSize received =>
      obtain ⟨hlength, junk, hjunk, hoffered⟩ := h
      refine ⟨hlength, junk, hjunk, ?_⟩
      rw [← List.append_assoc, hoffered, Framing.encodeAll_concat, List.append_assoc]
  | data ppid length received =>
      obtain ⟨hlength, first, later, rfl, hppid, hdata, hoffered⟩ := h
      refine ⟨hlength, first, later ++ [message], rfl, hppid, hdata, ?_⟩
      rw [← List.append_assoc, hoffered, Framing.encodeAll_concat, List.append_assoc]

namespace TcpLink

/-- The invariant: the messages that have begun are those that are done with, and those that the receiver
expects. -/
structure Framed (link : TcpLink) (done rest : List OutgoingMessage) : Prop where
  begun : link.sent ++ link.underWay = done ++ rest
  accounted : Accounted Subtype.val done link.receives
  accounted_sent : Accounted Subtype.val (done.take link.sent.length) link.receives
  expects : link.receiver.Expects link.offered rest
  underWay_data : ∀ message ∈ link.underWay, message.val.data ≠ []

variable {link : TcpLink} {done rest : List OutgoingMessage}

theorem framed_opened : opened.Framed [] [] where
  begun := rfl
  accounted := .nil
  accounted_sent := .nil
  expects := ⟨[], .nil, rfl⟩
  underWay_data := fun _ hmem => absurd hmem List.not_mem_nil

theorem underWay_idle (h : link.sender = .idle) : link.underWay = [] := by
  rw [underWay, h]

theorem underWay_data {message : OutgoingMessage} (h : link.sender = .data message) :
    link.underWay = [message] := by
  rw [underWay, h]

theorem outstanding_idle (h : link.sender = .idle) : link.outstanding = [] := by
  rw [outstanding, h]

theorem outstanding_data {message : OutgoingMessage} (h : link.sender = .data message) :
    link.outstanding = message.val.data := by
  rw [outstanding, h]

theorem length_underWay_le (link : TcpLink) : link.underWay.length ≤ 1 := by
  unfold underWay
  split
  · exact Nat.zero_le 1
  · exact Nat.le_refl 1

theorem Framed.outstanding_ne_nil (h : link.Framed done rest) (hunder : link.underWay ≠ []) :
    link.outstanding ≠ [] := by
  cases hsender : link.sender with
  | idle => exact absurd (underWay_idle hsender) hunder
  | data message =>
      rw [outstanding_data hsender]
      exact h.underWay_data message (by rw [TcpLink.underWay_data hsender]; exact List.mem_singleton_self _)

/-- The receiver expects more than what is outstanding. -/
theorem Framed.length_outstanding_lt (h : link.Framed done rest) (hrest : rest ≠ []) :
    link.outstanding.length < (tcpFraming.encodeAll rest).length := by
  have hsuffix : link.underWay <:+ rest :=
    List.suffix_of_suffix_length_le ⟨link.sent, h.begun⟩ (List.suffix_append done rest)
      (Nat.le_trans link.length_underWay_le (List.length_pos_iff.mpr hrest))
  cases hsender : link.sender with
  | idle =>
      obtain ⟨first, hfirst⟩ := List.exists_mem_of_ne_nil rest hrest
      rw [outstanding_idle hsender]
      exact Nat.lt_of_le_of_lt (Nat.zero_le _) (Framing.length_data_lt_encodeAll hfirst)
  | data message =>
      rw [outstanding_data hsender]
      rw [TcpLink.underWay_data hsender] at hsuffix
      exact Framing.length_data_lt_encodeAll (F := tcpFraming) (hsuffix.mem (List.mem_singleton_self _))

/-- What is still expected has been sent, unless its data is outstanding. -/
theorem Framed.length_lt_sent (h : link.Framed done rest) {message : OutgoingMessage}
    {later : List OutgoingMessage} (hrest : rest = message :: later) {front : List Byte}
    (hoffered : front ++ link.outstanding = tcpFraming.encodeAll later) : done.length < link.sent.length := by
  have hlength := congrArg List.length h.begun
  rw [hrest, List.length_append, List.length_append, List.length_cons] at hlength
  have hle := link.length_underWay_le
  cases hlater : later with
  | cons next later =>
      rw [hlater, List.length_cons] at hlength
      omega
  | nil =>
      rw [hlater, Framing.encodeAll_nil, List.append_eq_nil_iff] at hoffered
      have hnone : link.underWay = [] := by
        by_contra hunder
        exact h.outstanding_ne_nil hunder hoffered.2
      rw [hnone, List.length_nil] at hlength
      omega

theorem Framed.keepsBoundaries (h : link.Framed done rest) : link.KeepsBoundaries where
  accounted := by
    have hprefix : done.take link.sent.length <+: link.sent := by
      have htake := (List.prefix_append done rest).take link.sent.length
      rw [← h.begun, List.take_left'  rfl] at htake
      exact htake
    obtain ⟨back, hback⟩ := hprefix
    exact ⟨_, back, hback.symm, h.accounted_sent⟩
  drained := by
    intro hstream hidle
    have hexpects := h.expects
    rw [hidle, offered, hstream] at hexpects
    obtain ⟨junk, -, hjunk⟩ := hexpects
    have hrest : rest = [] := by
      by_contra hne
      have hlength := congrArg List.length hjunk
      rw [List.nil_append, List.length_append] at hlength
      have hlt := h.length_outstanding_lt hne
      omega
    have hdone : done = link.sent ++ link.underWay := by
      rw [h.begun, hrest, List.append_nil]
    have haccounted := h.accounted_sent
    rw [hdone, List.take_left' rfl] at haccounted
    exact haccounted

/-! ### Sending -/

@[simp]
theorem sent_sendReturns_error (message : OutgoingMessage) (e : SctpError) :
    (link.sendReturns message (.error e)).sent = link.sent := by
  unfold sent sendReturns
  rw [List.filterMap_append]
  exact List.append_nil _

@[simp]
theorem sent_sendReturns_ok (message : OutgoingMessage) :
    (link.sendReturns message (.ok ())).sent = link.sent ++ [message] := by
  unfold sent sendReturns
  rw [List.filterMap_append]
  rfl

theorem send_zero (hidle : link.sender = .idle) (message : OutgoingMessage) :
    link.send message 0 = link.sendReturns message (.error .send) := by
  rw [send, hidle]
  dsimp only
  rw [List.take_zero, List.append_nil, if_pos (by decide)]
  rfl

theorem send_whole (hidle : link.sender = .idle) (message : OutgoingMessage) {accepted : Nat}
    (haccepted : tcpFallbackHeaderSize ≤ accepted) :
    link.send message accepted
      = if message.val.data.length > 0 then
          { link with stream := link.stream ++ tcpFraming.header message, sender := .data message }
        else
          { link with stream := link.stream ++ tcpFraming.header message }.sendReturns message (.ok ()) := by
  have hlength : (tcpFraming.header message).length = tcpFallbackHeaderSize :=
    tcpFraming.length_header message
  have htake : message.val.header.toBytes.take accepted = tcpFraming.header message :=
    List.take_of_length_le (hlength.trans_le haccepted)
  rw [send, hidle]
  dsimp only
  rw [htake, if_neg (not_not_intro hlength)]

theorem sendData_whole {message : OutgoingMessage} (hdata : link.sender = .data message) {accepted : Nat}
    (haccepted : message.val.data.length ≤ accepted) :
    link.sendData accepted
      = { link with stream := link.stream ++ message.val.data }.sendReturns message (.ok ()) := by
  rw [sendData, hdata]
  dsimp only
  rw [List.take_of_length_le haccepted, if_neg (not_not_intro rfl)]

/-- What is done with has begun. -/
theorem Framed.take_done (h : link.Framed done rest) {count : Nat}
    (hcount : link.sent.length + link.underWay.length ≤ count) : done.take count = done := by
  have hlength := congrArg List.length h.begun
  rw [List.length_append, List.length_append] at hlength
  exact List.take_of_length_le (by omega)

theorem Framed.sends (h : link.Framed done rest) {message : OutgoingMessage} {stream : List Byte}
    {rest' : List OutgoingMessage} (hbegun : link.sent ++ [message] = done ++ rest')
    (hexpects : link.receiver.Expects stream rest') :
    ({ link with stream := stream }.sendReturns message (.ok ())).Framed done rest' where
  begun := by
    rw [sent_sendReturns_ok]
    exact (List.append_nil _).trans hbegun
  accounted := h.accounted
  accounted_sent := by
    rw [sent_sendReturns_ok, List.length_append]
    have htake := h.take_done (Nat.add_le_add_left link.length_underWay_le link.sent.length)
    exact htake.symm ▸ h.accounted
  expects := by
    change link.receiver.Expects (stream ++ []) rest'
    rw [List.append_nil]
    exact hexpects
  underWay_data := fun _ hmem => absurd hmem List.not_mem_nil

theorem Framed.sendsNothing (h : link.Framed done rest) (hsender : link.sender = .idle)
    (message : OutgoingMessage) (e : SctpError) : (link.sendReturns message (.error e)).Framed done rest where
  begun := by
    rw [sent_sendReturns_error, ← h.begun, underWay_idle hsender]
    rfl
  accounted := h.accounted
  accounted_sent := by
    rw [sent_sendReturns_error]
    exact h.accounted_sent
  expects := by
    have hexpects := h.expects
    rw [offered, outstanding_idle hsender] at hexpects
    exact hexpects
  underWay_data := fun _ hmem => absurd hmem List.not_mem_nil

theorem Framed.sendsHeader (h : link.Framed done rest) (hsender : link.sender = .idle)
    {message : OutgoingMessage} (hdata : message.val.data ≠ []) :
    { link with stream := link.stream ++ tcpFraming.header message, sender := .data message }.Framed
      done (rest ++ [message]) where
  begun := by
    have hbegun := h.begun
    rw [underWay_idle hsender, List.append_nil] at hbegun
    change link.sent ++ [message] = done ++ (rest ++ [message])
    rw [hbegun, List.append_assoc]
  accounted := h.accounted
  accounted_sent := h.accounted_sent
  expects := by
    have hexpects := h.expects
    rw [offered, outstanding_idle hsender, List.append_nil] at hexpects
    change link.receiver.Expects (link.stream ++ tcpFraming.header message ++ message.val.data) _
    rw [List.append_assoc]
    exact hexpects.append message
  underWay_data := by
    intro other hmem
    rw [List.mem_singleton.mp hmem]
    exact hdata

theorem Framed.send (h : link.Framed done rest) (message : OutgoingMessage) {accepted : Nat}
    (hsafe : link.Unbroken (.send message accepted)) :
    ∃ rest, (link.send message accepted).Framed done rest := by
  cases hsender : link.sender with
  | data earlier =>
      refine ⟨rest, ?_⟩
      rw [TcpLink.send, hsender]
      exact h
  | idle =>
      rcases hsafe hsender with rfl | haccepted
      · refine ⟨rest, ?_⟩
        rw [send_zero hsender]
        exact h.sendsNothing hsender message .send
      · refine ⟨rest ++ [message], ?_⟩
        rw [send_whole hsender message haccepted]
        split
        · rename_i hdata
          exact h.sendsHeader hsender (List.length_pos_iff.mp hdata)
        · rename_i hempty
          have hdata : tcpFraming.data message = [] :=
            List.eq_nil_of_length_eq_zero (Nat.eq_zero_of_not_pos hempty)
          have hbegun := h.begun
          have hexpects := h.expects
          rw [underWay_idle hsender, List.append_nil] at hbegun
          rw [offered, outstanding_idle hsender, List.append_nil] at hexpects
          have happend := hexpects.append message
          rw [Framing.encode, hdata, List.append_nil] at happend
          exact h.sends (by rw [hbegun, List.append_assoc]) happend

theorem Framed.sendData (h : link.Framed done rest) {accepted : Nat}
    (hsafe : link.Unbroken (.sendData accepted)) : (link.sendData accepted).Framed done rest := by
  cases hsender : link.sender with
  | idle =>
      rw [TcpLink.sendData, hsender]
      exact h
  | data message =>
      have hbegun := h.begun
      have hexpects := h.expects
      have hwhole : link.outstanding.length ≤ accepted := hsafe
      rw [TcpLink.underWay_data hsender] at hbegun
      rw [offered, outstanding_data hsender] at hexpects
      rw [outstanding_data hsender] at hwhole
      rw [sendData_whole hsender hwhole]
      exact h.sends hbegun hexpects

/-! ### Receiving -/

section Receiving

variable {stream junk : List Byte} {message : OutgoingMessage}

theorem Framed.waits (h : link.Framed done rest) {receiver : ReceiverStage}
    (hexpects : receiver.Expects (stream ++ link.outstanding) rest) :
    { link with stream := stream, receiver := receiver }.Framed done rest where
  begun := h.begun
  accounted := h.accounted
  accounted_sent := h.accounted_sent
  expects := hexpects
  underWay_data := h.underWay_data

theorem Framed.error (h : link.Framed done rest) (e : SctpError) (hjunk : tcpFraming.Refused junk)
    (hoffered : stream ++ link.outstanding = junk ++ tcpFraming.encodeAll rest) :
    ({ link with stream := stream }.recvReturns (.error e)).Framed done rest where
  begun := h.begun
  accounted := h.accounted.error e
  accounted_sent := h.accounted_sent.error e
  expects := ⟨junk, hjunk, hoffered⟩
  underWay_data := h.underWay_data

theorem Framed.lost (h : link.Framed done (message :: rest)) (e : SctpError) (hjunk : tcpFraming.Refused junk)
    (hoffered : stream ++ link.outstanding = junk ++ tcpFraming.encodeAll rest) :
    ({ link with stream := stream }.recvReturns (.error e)).Framed (done ++ [message]) rest where
  begun := h.begun.trans (List.append_cons done message rest)
  accounted := h.accounted.lost message e
  accounted_sent := h.accounted.take_lost h.accounted_sent message e
  expects := ⟨junk, hjunk, hoffered⟩
  underWay_data := h.underWay_data

theorem Framed.received (h : link.Framed done (message :: rest))
    (hoffered : stream ++ link.outstanding = tcpFraming.encodeAll rest) :
    ({ link with stream := stream }.recvReturns (.ok message.val)).Framed (done ++ [message]) rest where
  begun := h.begun.trans (List.append_cons done message rest)
  accounted := h.accounted.received message
  accounted_sent := h.accounted.take_received (h.length_lt_sent rfl hoffered) message
  expects := ⟨[], .nil, hoffered⟩
  underWay_data := h.underWay_data

/-- **A complete header is that of the next message, or refused.** -/
theorem Framed.recvHeader (h : link.Framed done rest) {bufSize : Nat} {bytes : List Byte}
    (hlength : bytes.length = tcpFallbackHeaderSize) (hjunk : tcpFraming.Refused junk)
    (hoffered : bytes ++ (stream ++ link.outstanding) = junk ++ tcpFraming.encodeAll rest)
    (hsafe : (TcpFallbackHeader.ofBytes bytes).magic = tcpFallbackMagic →
      bufSize < (TcpFallbackHeader.ofBytes bytes).length.toNat →
      tcpFraming.Refused
        ((stream ++ link.outstanding).take (TcpFallbackHeader.ofBytes bytes).length.toNat)) :
    ∃ done rest, ({ link with stream := stream }.recvHeader bufSize (.ofBytes bytes)).Framed done rest := by
  unfold TcpLink.recvHeader
  rcases Framing.block_cases (F := tcpFraming) hjunk hlength hoffered with
    ⟨hmagic, later, hlater, hrest⟩ | ⟨message, later, rfl, rfl, hrest⟩
  · have hrefused : (TcpFallbackHeader.ofBytes bytes).magic ≠ tcpFallbackMagic := hmagic
    rw [if_pos hrefused]
    exact ⟨done, rest, h.error .protocol hlater hrest⟩
  · have hmagic : message.val.header.magic = tcpFallbackMagic := rfl
    rw [ofBytes_header, toNat_length_header] at hsafe ⊢
    rw [if_neg (not_not_intro hmagic)]
    have hdata : tcpFraming.data message = message.val.data := rfl
    split_ifs with hlarge hpos
    · have htake := hsafe rfl hlarge
      rw [hrest, hdata, List.take_left' rfl] at htake
      exact ⟨_, later, h.lost .recv htake hrest⟩
    · refine ⟨done, _, h.waits ?_⟩
      exact ⟨hpos, message, later, rfl, rfl, rfl, hrest⟩
    · have hempty : message.val.data = [] := List.eq_nil_of_length_eq_zero (Nat.eq_zero_of_not_pos hpos)
      rw [hdata, hempty, List.nil_append] at hrest
      have hmessage : (⟨message.val.header.ppid, []⟩ : TcpMessage) = message.val := by
        rw [← hempty]
        rfl
      rw [hmessage]
      exact ⟨_, later, h.received hrest⟩

end Receiving

theorem Framed.recv (h : link.Framed done rest) (bufSize : Nat) : (link.recv bufSize).Framed done rest := by
  unfold TcpLink.recv
  split
  · rename_i hidle
    have hexpects := h.expects
    rw [hidle] at hexpects
    exact h.waits ⟨by decide, hexpects⟩
  · exact h

theorem chunk_append (link : TcpLink) (count missing : Nat) :
    link.chunk count missing ++ link.stream.drop (link.chunk count missing).length = link.stream :=
  List.prefix_iff_eq_append.mp (List.take_prefix _ _)

theorem length_chunk_le (link : TcpLink) (count missing : Nat) :
    (link.chunk count missing).length ≤ missing := by
  rw [chunk, List.length_take]
  exact Nat.le_trans (Nat.min_le_left _ _) (Nat.min_le_right _ _)

theorem offered_eq (link : TcpLink) (count missing : Nat) :
    link.offered
      = link.chunk count missing
        ++ (link.stream.drop (link.chunk count missing).length ++ link.outstanding) := by
  rw [← List.append_assoc, chunk_append]
  rfl

theorem Framed.recvBytes (h : link.Framed done rest) (count : Nat)
    (hsafe : link.Unbroken (.recvBytes count)) :
    ∃ done rest, (link.recvBytes count).Framed done rest := by
  have hexpects := h.expects
  unfold TcpLink.recvBytes
  unfold Unbroken at hsafe
  cases hreceiver : link.receiver with
  | idle => exact ⟨done, rest, h⟩
  | header bufSize received =>
      rw [hreceiver] at hsafe hexpects
      dsimp only at hsafe ⊢
      obtain ⟨hlength, junk, hjunk, hoffered⟩ := hexpects
      have hle := link.length_chunk_le count (tcpFallbackHeaderSize - received.length)
      have hsplit := link.offered_eq count (tcpFallbackHeaderSize - received.length)
      generalize link.chunk count (tcpFallbackHeaderSize - received.length) = got at *
      rw [hsplit, ← List.append_assoc] at hoffered
      split
      · rename_i hshort
        exact ⟨done, rest, h.waits ⟨hshort, junk, hjunk, hoffered⟩⟩
      · rename_i hfull
        have hcomplete : (received ++ got).length = tcpFallbackHeaderSize := by
          rw [List.length_append] at hfull ⊢
          omega
        rw [hsplit, List.drop_left' rfl] at hsafe
        exact h.recvHeader hcomplete hjunk hoffered (hsafe hcomplete)
  | data ppid length received =>
      rw [hreceiver] at hexpects
      dsimp only
      obtain ⟨hlength, message, later, rfl, rfl, rfl, hoffered⟩ := hexpects
      have hle := link.length_chunk_le count (message.val.data.length - received.length)
      have hsplit := link.offered_eq count (message.val.data.length - received.length)
      generalize link.chunk count (message.val.data.length - received.length) = got at *
      rw [hsplit, ← List.append_assoc] at hoffered
      split
      · rename_i hshort
        exact ⟨done, _, h.waits ⟨hshort, message, later, rfl, rfl, rfl, hoffered⟩⟩
      · rename_i hfull
        have hcomplete : (received ++ got).length = message.val.data.length := by
          rw [List.length_append] at hfull ⊢
          omega
        obtain ⟨hdata, hrest⟩ := List.append_inj hoffered hcomplete
        rw [hdata]
        exact ⟨_, later, h.received hrest⟩

theorem Framed.recvFailed (h : link.Framed done rest) (hsafe : link.Unbroken .recvFailed) :
    link.recvFailed.Framed done rest := by
  unfold TcpLink.recvFailed
  unfold Unbroken at hsafe
  cases hreceiver : link.receiver with
  | idle => exact h
  | header bufSize received =>
      rw [hreceiver] at hsafe
      have hexpects := h.expects
      rw [hreceiver, hsafe] at hexpects
      obtain ⟨-, junk, hjunk, hoffered⟩ := hexpects
      exact h.error .recv hjunk hoffered
  | data ppid length received =>
      rw [hreceiver] at hsafe
      exact hsafe.elim

theorem Framed.step (h : link.Framed done rest) (event : TcpEvent) (hsafe : link.Unbroken event) :
    ∃ done rest, (tcpStep link event).Framed done rest := by
  cases event with
  | send message accepted => exact ⟨done, h.send message hsafe⟩
  | sendData accepted => exact ⟨done, rest, h.sendData hsafe⟩
  | recv bufSize => exact ⟨done, rest, h.recv bufSize⟩
  | recvBytes count => exact h.recvBytes count hsafe
  | recvFailed => exact ⟨done, rest, h.recvFailed hsafe⟩

end TcpLink

/-- **While nothing is left in the stream that is read as a header and is none, every message is received as
it has been sent, or answered by an error.** -/
theorem tcpRun_keepsBoundaries {events : List TcpEvent}
    (h : Runs.Always tcpStep TcpLink.Unbroken .opened events) :
    Runs.Throughout tcpStep TcpLink.KeepsBoundaries .opened events :=
  @Runs.Throughout.of_invariant _ _ tcpStep (fun link => ∃ done rest, link.Framed done rest) _ _
    (fun _ ⟨_, _, hframed⟩ => hframed.keepsBoundaries)
    (fun _ event ⟨_, _, hframed⟩ hsafe => hframed.step event hsafe) _ _ ⟨[], [], TcpLink.framed_opened⟩ h

/-- A message that is too large for its first buffer, and the next one. -/
theorem tcpRun_keepsBoundaries_two :
    Runs.Throughout tcpStep TcpLink.KeepsBoundaries .opened
      [.send ⟨⟨60, List.replicate 16 7⟩, by decide⟩ 16, .sendData 16, .send ⟨⟨60, [1, 2]⟩, by decide⟩ 20,
        .recv 8, .recvBytes 10, .recvBytes 6, .recv 8, .recvBytes 16, .sendData 2, .recv 8, .recvBytes 16,
        .recvBytes 1, .recvBytes 5] :=
  tcpRun_keepsBoundaries
    ⟨fun _ => .inr (by decide), Nat.le_refl 16, fun _ => .inr (by decide), trivial,
      fun hlength => absurd hlength (by decide +kernel),
      fun _ _ _ => @Framing.Refused.block _ _ _ (List.replicate 16 7) [] (by decide) (by decide +kernel) .nil,
      trivial, fun _ hmagic => absurd hmagic (by decide +kernel), Nat.le_refl 2, trivial,
      fun _ _ hlarge => absurd hlarge (by decide +kernel), trivial, trivial, trivial⟩

/-- The message that comes out of the data of another one. -/
def smuggled : TcpMessage := ⟨1, []⟩

/-- A message is received that has never been sent. -/
theorem tcpRun_not_keepsBoundaries :
    ¬∀ events, Runs.Throughout tcpStep TcpLink.KeepsBoundaries .opened events := by
  intro h
  have hrun := h [.send ⟨⟨0, smuggled.header.toBytes⟩, by decide⟩ 16, .sendData 16, .recv 8, .recvBytes 16,
    .recv 8, .recvBytes 16]
  obtain ⟨done, rest, hsent, haccounted⟩ := hrun.2.2.2.2.2.2.accounted
  have hsublist := haccounted.sublist.trans ((List.sublist_append_left done rest).map Subtype.val)
  rw [← hsent] at hsublist
  exact absurd hsublist (by decide +kernel)

end Uesim
