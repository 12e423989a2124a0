import Mathlib.Tactic.Common
import RecordLayer.KeyAgreement
import RecordLayer.Proofs.HonestSides

/-!
# Whole runs of a client

A client alone, against the bytes of a peer that it knows nothing about.  It
returns exactly on the bytes that `Client.Accepts` describes, and an honest
server's flight with any answer to the ping is among them
(`Client.accepts_of_conversation`).
-/

namespace RecordLayer

namespace Client

/-- What an honest server sends is accepted. -/
theorem accepts_of_conversation {config : Config} {suite : CipherSuite} {shared : Bytes}
    {talk : Conversation} (hkeys : talk.keys = config.keys suite shared)
    (hhello : talk.clientHello = config.hello) (hshares : config.Shares talk.serverHello shared)
    (hfits : (Epoch.stamp {} .handshake talk.serverHello).Fits) (rest : Bytes) :
    Accepts config suite (Record.stream (talk.serverFlight ++ [talk.pong]) ++ rest)
      { type := .applicationData, data := pingPayload ++ pongSuffix } rest := by
  have hpong : talk.pong.Leads (talk.pong.bytes ++ rest) rest :=
    Record.leads_iff.2 ⟨talk.fits_pong, rfl⟩
  have hverifies := verifies_of_conversation hkeys hhello hshares hfits (talk.pong.bytes ++ rest)
  have hbytes : Record.stream (talk.serverFlight ++ [talk.pong]) ++ rest =
      Record.stream talk.serverFlight ++ (talk.pong.bytes ++ rest) := by
    rw [Record.stream_append, Record.stream_cons, Record.stream_nil, List.append_nil,
      List.append_assoc]
  rw [hbytes]
  exact accepts_iff.2 ⟨talk.flight, _, hverifies, hpong⟩

/-- Where a client stands before its first operation. -/
def atStart (suite : CipherSuite) (bytes : Bytes) : Party.Place Stage :=
  { stage := .hello, view := { suite }, unread := bytes, sent := [] }

/-- A client before its first operation, whatever its server has sent. -/
theorem exists_start (config : Config) (suite : CipherSuite) {logs : Bool} (random : Bytes)
    {log : KeyLog} (husable : logs = true → log.fault = none) {port : Port} (steady : port.Steady)
    (hwrites : port.writeFault = none) :
    ∃ client, start { side := .client, logs, random } log suite.code = .ok client ∧
      ∀ bytes, Party.Stands (script config) true (atStart suite bytes) client
        { incoming := { queue := bytes, writerClosed := true }, port } := by
  refine ⟨_, ?_, Party.stands_at_start rfl suite .client random husable steady hwrites⟩
  rw [start, KeySchedule.start_code]
  rfl

/-- A client returns exactly when its peer's bytes start with what it needs,
whatever pieces they come in: then it reports the data of the record after
the flight and leaves the rest unread, and otherwise it fails and its end is
closed. -/
theorem run_to_end_of_stream (config : Config) (suite : CipherSuite) {count : Nat}
    (hcount : config.earlyData = count) (hhello : config.hello.length ≤ maxRecordLength)
    (hearly : ∀ index < count, suite.hash.size + (earlyPayload index).length ≤ maxRecordLength)
    {logs : Bool} (random : Bytes) {log : KeyLog} (husable : logs = true → log.fault = none)
    {port : Port} (steady : port.Steady) (hwrites : port.writeFault = none) (bytes : Bytes) :
    ∃ client, start { side := .client, logs, random } log suite.code = .ok client ∧
      let final := Party.run (script config) client
        { incoming := { queue := bytes, writerClosed := true }, port }
      ((∃ summary, final.1.result = .ok summary) ↔
        ∃ answer rest, Accepts config suite bytes answer rest) ∧
      (∀ answer rest, Accepts config suite bytes answer rest →
        final.1.result = .ok { earlyDataSent := count, applicationData := answer.data } ∧
        final.2.incoming.queue = rest) ∧
      ((¬∃ answer rest, Accepts config suite bytes answer rest) →
        (∃ e, final.1.status = .ended (.error e)) ∧
        final.2.incoming.readerClosed = true ∧ final.2.outgoing.writerClosed = true) := by
  obtain ⟨client, hstart, stands⟩ := exists_start config suite random husable steady hwrites
  refine ⟨client, hstart, ?_⟩
  have hdecided : Decided config (atStart suite bytes) (Accepts config suite bytes) := by
    refine Decided.of_goes (goes_hello hcount (Nat.lt_succ_of_le hhello)
      (fun index hindex => Nat.lt_succ_of_le (hearly index hindex))) ?_
    exact decided_serverHello rfl (helloView_earlyOr config suite) rfl rfl
  intro final
  rcases hdecided with ⟨answer, rest, view, sent, haccepts, hdone⟩ | ⟨hnone, hfails⟩
  · obtain ⟨party, wire, hreach, hend⟩ := hdone _ _ (stands bytes)
    have hstatus : party.status =
        .ended (.ok { earlyDataSent := count, applicationData := answer.data }) := by
      rw [hend.status, ← Int.toNat_natCast count, ← hcount]
      rfl
    have hfinal : final = (party, wire) :=
      (Party.run_eq_of_reaches hreach).trans (Party.run_of_ended hstatus)
    have hresult : final.1.result =
        .ok { earlyDataSent := count, applicationData := answer.data } := by
      rw [hfinal, Party.result, hstatus]
    have haccepted : Accepts config suite bytes answer rest := (haccepts answer rest).2 ⟨rfl, rfl⟩
    refine ⟨⟨fun _ => ⟨answer, rest, haccepted⟩, fun _ => ⟨_, hresult⟩⟩, ?_, ?_⟩
    · intro answer' rest' haccepts'
      obtain ⟨rfl, rfl⟩ := (haccepts answer' rest').1 haccepts'
      refine ⟨hresult, ?_⟩
      rw [hfinal]
      exact congrArg Channel.queue hend.wire.incoming
    · exact fun hnone => absurd ⟨answer, rest, haccepted⟩ hnone
  · obtain ⟨party, wire, e, hreach, hstatus, hclosed⟩ := hfails _ _ (stands bytes)
    have hfinal : final = (party, wire) :=
      (Party.run_eq_of_reaches hreach).trans (Party.run_of_ended hstatus)
    refine ⟨⟨?_, ?_⟩, ?_, ?_⟩
    · rintro ⟨summary, hresult⟩
      rw [hfinal, Party.result, hstatus] at hresult
      cases hresult
    · rintro ⟨answer, rest, haccepts⟩
      exact absurd haccepts (hnone answer rest)
    · exact fun answer rest haccepts => absurd haccepts (hnone answer rest)
    · intro _
      rw [hfinal]
      exact ⟨⟨e, hstatus⟩, hclosed rfl⟩

/-- A client of X25519 with one record of early data. -/
def eager : Config where
  agreement := x25519
  privateKey := List.replicate 32 1
  hello := [1, 2, 3]
  earlyData := 1

/-- An honest server's bytes, three at a time, and one byte more. -/
theorem run_to_end_of_stream_of_conversation :
    ∃ serverHello,
      Message.serverHello (x25519.publicKey (List.replicate 32 2))
        CipherSuite.chacha20Poly1305Sha256.code (List.replicate 32 3) = .ok serverHello ∧
      let talk : Conversation := {
        keys := eager.keys .chacha20Poly1305Sha256 (X25519.littleEndian
          37870191047867657583432095346284531764084119257177089722230817295622394795822)
        clientHello := eager.hello
        serverHello
        accepted := true }
      ∃ client,
        start { side := .client } {} CipherSuite.chacha20Poly1305Sha256.code = .ok client ∧
        let final := Party.run (script eager) client {
          incoming := {
            queue := Record.stream (talk.serverFlight ++ [talk.pong]) ++ [7]
            writerClosed := true }
          port := { limit := some 3 } }
        final.1.result =
          .ok { earlyDataSent := 1, applicationData := pingPayload ++ pongSuffix } ∧
        final.2.incoming.queue = [7] := by
  obtain ⟨serverHello, message, hhello, hshort, hopens, hcarries⟩ := Message.exists_serverHello
    (x25519.length_publicKey (List.replicate 32 2)) (List.length_replicate : _ = 32)
    .chacha20Poly1305Sha256
  refine ⟨serverHello, hhello, ?_⟩
  intro talk
  have hshares : eager.Shares serverHello (X25519.littleEndian
      37870191047867657583432095346284531764084119257177089722230817295622394795822) :=
    ⟨message, _, hopens, hcarries, by decide +kernel⟩
  have haccepts : Accepts eager .chacha20Poly1305Sha256
      (Record.stream (talk.serverFlight ++ [talk.pong]) ++ [7])
      { type := .applicationData, data := pingPayload ++ pongSuffix } [7] :=
    accepts_of_conversation rfl rfl hshares (Epoch.fits_stamp_default .handshake hshort) [7]
  have steady : Port.Steady { limit := some 3 } := ⟨rfl, by decide, by decide⟩
  have hcount : eager.earlyData = (1 : Nat) := rfl
  obtain ⟨client, hstart, -, haccepted, -⟩ :=
    run_to_end_of_stream eager .chacha20Poly1305Sha256 hcount (by decide)
      (fun index h => room_earlyPayload _ (by omega)) [] (Party.usable_of_silent {}) steady rfl
      (Record.stream (talk.serverFlight ++ [talk.pong]) ++ [7])
  exact ⟨client, hstart, haccepted _ _ haccepts⟩

end Client

end RecordLayer
