import Mathlib.Tactic.Common
import RecordLayer.KeyAgreement
import RecordLayer.Proofs.ServerAcceptance

/-!
# Whole runs of a server

A server alone, against the bytes of a client that it knows nothing about.  It
returns exactly on the bytes that `Server.Accepts` describes
(`Server.run_against_any_client`).  Those of an honest client are among them,
with any early data that the server takes (`Server.accepts_of_conversation`).
-/

namespace RecordLayer

namespace Server

variable {config : Config} {suite : CipherSuite} {talk : Conversation}

/-- What an honest client sends is accepted. -/
theorem accepts_of_conversation (answers : config.Answers suite talk)
    (hfits : (Epoch.stamp {} .handshake talk.clientHello).Fits) {early : List Record}
    (htakes : config.Takes talk early) (hearly : ∀ record ∈ early, record.Fits) (rest : Bytes) :
    Accepts config suite
      (Record.stream (Epoch.stamp {} .handshake talk.clientHello :: (early ++ talk.clientFlight)) ++
        rest)
      talk early { type := .applicationData, data := pingPayload } rest := by
  let finished : Record :=
    (talk.keys.suite.epoch .handshake talk.secrets.client).stamp .handshake talk.clientFinished
  let ping : Record :=
    (talk.keys.suite.epoch .application talk.application.client).stamp .applicationData pingPayload
  have hflight : ∀ record ∈ talk.clientFlight, record.Fits :=
    fun record h => talk.fits_of_mem_clientFlight h
  have hping : ping.Leads (ping.bytes ++ rest) rest :=
    Record.leads_iff.2 ⟨hflight ping (List.mem_cons_of_mem _ List.mem_cons_self), rfl⟩
  refine ⟨ping.bytes ++ rest, ⟨answers, htakes, talk.clientFinished, ?_, ?_⟩, hping, talk.fits_pong⟩
  · exact Conversation.opens_finished talk.keys talk.secrets.client talk.transcript
  · refine Record.leadAll_iff.2 ⟨?_, ?_⟩
    · refine List.forall_mem_cons.2 ⟨hfits, fun record hrecord => ?_⟩
      rcases List.mem_append.1 hrecord with h | h
      · exact hearly record h
      · obtain rfl := List.mem_singleton.1 h
        exact hflight _ List.mem_cons_self
    · have hsplit : talk.clientFlight = [finished, ping] := rfl
      simp only [hsplit, Record.stream_cons, Record.stream_append, Record.stream_nil,
        List.append_nil, List.append_assoc, finished]

/-- Where a server stands before its first operation. -/
def atStart (suite : CipherSuite) (bytes : Bytes) : Party.Place Stage :=
  { stage := .clientHello, view := { suite }, unread := bytes, sent := [] }

/-- A server before its first operation, whatever its client has sent. -/
theorem exists_start (config : Config) (suite : CipherSuite) {logs : Bool} (random : Bytes)
    {log : KeyLog} (husable : logs = true → log.fault = none) {port : Port} (steady : port.Steady)
    (hwrites : port.writeFault = none) :
    ∃ server, start { side := .server, logs, random } log suite.code = .ok server ∧
      ∀ bytes, Party.Stands (script config) true (atStart suite bytes) server
        { incoming := { queue := bytes, writerClosed := true }, port } := by
  refine ⟨_, ?_, Party.stands_at_start rfl suite .server random husable steady hwrites⟩
  rw [start, KeySchedule.start_code]
  rfl

/-- A server returns exactly when its client's bytes start with what it needs,
whatever pieces they come in: then it reports how many records of early data it
has read or dropped, leaves the rest unread, and has sent its flight and the
answer to the last record.  Otherwise it fails, and its end stays open. -/
theorem run_against_any_client (config : Config) (suite : CipherSuite)
    (hrandom : config.random.length = 32) {logs : Bool} (random : Bytes) {log : KeyLog}
    (husable : logs = true → log.fault = none) {port : Port} (steady : port.Steady)
    (hwrites : port.writeFault = none) (bytes : Bytes) :
    ∃ server, start { side := .server, logs, random } log suite.code = .ok server ∧
      let final := Party.run (script config) server
        { incoming := { queue := bytes, writerClosed := true }, port }
      ((∃ summary, final.1.result = .ok summary) ↔
        ∃ talk early request rest, Accepts config suite bytes talk early request rest) ∧
      (∀ talk early request rest, Accepts config suite bytes talk early request rest →
        final.1.result = .ok {
          earlyDataReceived := if config.acceptsEarlyData then config.earlyData.toNat else 0
          earlyDataSkipped := if config.acceptsEarlyData then 0 else early.length } ∧
        final.2.incoming.queue = rest ∧
        final.2.outgoing.queue =
          Record.stream (talk.serverFlight ++ [talk.reply request.data])) ∧
      ((¬∃ talk early request rest, Accepts config suite bytes talk early request rest) →
        (∃ e, final.1.status = .ended (.error e)) ∧
        final.2.incoming.readerClosed = false ∧ final.2.outgoing.writerClosed = false) := by
  obtain ⟨server, hstart, stands⟩ := exists_start config suite random husable steady hwrites
  refine ⟨server, hstart, ?_⟩
  intro final
  have haccepted : ∀ talk early request rest, Accepts config suite bytes talk early request rest →
      final.1.result = .ok {
        earlyDataReceived := if config.acceptsEarlyData then config.earlyData.toNat else 0
        earlyDataSkipped := config.skipped early } ∧
      final.2.incoming.queue = rest ∧
      final.2.outgoing.queue = Record.stream (talk.serverFlight ++ [talk.reply request.data]) := by
    intro talk early request rest haccepts
    obtain ⟨later, hverifies, hlead, hfits⟩ := haccepts
    obtain ⟨hresult, hunread, hsent⟩ := Party.run_of_goes (stands bytes)
      ((goes_of_verifies hrandom hverifies).trans (goes_done hlead hfits)) rfl
    refine ⟨hresult, hunread, hsent.trans ?_⟩
    rw [Record.stream_append, Record.stream_cons, Record.stream_nil, List.append_nil]
  have hrefused : (¬∃ talk early request rest, Accepts config suite bytes talk early request rest) →
      (∃ e, final.1.status = .ended (.error e)) ∧
      final.2.incoming.readerClosed = false ∧ final.2.outgoing.writerClosed = false := by
    intro hnone
    by_cases hverifies : ∃ talk early later, Verifies config suite bytes talk early later
    · obtain ⟨talk, early, later, hverifies⟩ := hverifies
      obtain ⟨hfailed, -, hopen⟩ := Party.run_of_stops (stands bytes)
        ((goes_of_verifies hrandom hverifies).stops
          (stops_request fun request rest hlead hfits =>
            hnone ⟨talk, early, request, rest, later, hverifies, hlead, hfits⟩))
      exact ⟨hfailed, hopen⟩
    · obtain ⟨records, -, hstops⟩ := stops_of_not_verifies false hrandom
        fun talk early later h => hverifies ⟨talk, early, later, h⟩
      obtain ⟨hfailed, -, hopen⟩ := Party.run_of_stops (stands bytes) hstops
      exact ⟨hfailed, hopen⟩
  refine ⟨⟨?_, ?_⟩, haccepted, hrefused⟩
  · intro hreturns
    obtain ⟨summary, hresult⟩ := hreturns
    by_contra hnone
    obtain ⟨e, hstatus⟩ := (hrefused hnone).1
    rw [Party.result, hstatus] at hresult
    cases hresult
  · intro haccepts
    obtain ⟨talk, early, request, rest, haccepts⟩ := haccepts
    exact ⟨_, (haccepted talk early request rest haccepts).1⟩

/-- A server of X25519 that rejects two records of early data. -/
def rejecting : Config where
  agreement := x25519
  privateKey := List.replicate 32 2
  random := List.replicate 32 3
  earlyData := 2
  rejectEarlyData := true

/-- Three records that are dropped as early data: of an unknown type and
another suite, an empty one, and an alert. -/
def strayRecords : List Record :=
  [{ tag := 7, level := 1, suite := 9, secret := [1], data := [2] },
    { tag := 65, level := 1, suite := 0, secret := [], data := [] },
    { tag := 76, level := 1, suite := 4865, secret := [], data := [2, 40] }]

/-- More records than there was early data, and one byte behind the ping, all
in pieces of five bytes. -/
theorem run_against_any_client_of_stray_records :
    ∃ clientHello serverHello,
      Message.clientHello (x25519.publicKey (List.replicate 32 1))
        [(CipherSuite.aes256GcmSha384.code : Int)] true (List.replicate 32 4) = .ok clientHello ∧
      Message.serverHello (x25519.publicKey (List.replicate 32 2))
        CipherSuite.aes256GcmSha384.code (List.replicate 32 3) = .ok serverHello ∧
      let talk : Conversation := {
        keys := rejecting.keys .aes256GcmSha384 (X25519.littleEndian
          37870191047867657583432095346284531764084119257177089722230817295622394795822)
        clientHello
        serverHello
        accepted := false }
      ∃ server,
        start { side := .server } {} CipherSuite.aes256GcmSha384.code = .ok server ∧
        let final := Party.run (script rejecting) server {
          incoming := {
            queue := Record.stream (Epoch.stamp {} .handshake clientHello ::
              (strayRecords ++ talk.clientFlight)) ++ [7]
            writerClosed := true }
          port := { limit := some 5 } }
        final.1.result = .ok { earlyDataReceived := 0, earlyDataSkipped := 3 } ∧
        final.2.incoming.queue = [7] ∧
        final.2.outgoing.queue = Record.stream (talk.serverFlight ++ [talk.pong]) := by
  obtain ⟨clientHello, message, hhello, hshort, hopens, hcarries⟩ := Message.exists_clientHello
    (x25519.length_publicKey (List.replicate 32 1)) (List.length_replicate : _ = 32)
    .aes256GcmSha384 true
  obtain ⟨serverHello, -, hanswer, -, -, -⟩ := Message.exists_serverHello
    (x25519.length_publicKey (List.replicate 32 2)) (List.length_replicate : _ = 32)
    .aes256GcmSha384
  refine ⟨clientHello, serverHello, hhello, hanswer, ?_⟩
  intro talk
  have hshared : x25519.Shares (List.replicate 32 2) clientHello (X25519.littleEndian
      37870191047867657583432095346284531764084119257177089722230817295622394795822) :=
    ⟨message, _, hopens, hcarries, by decide +kernel⟩
  have answers : rejecting.Answers .aes256GcmSha384 talk := ⟨⟨_, hshared, rfl⟩, hanswer, rfl⟩
  have htakes : rejecting.Takes talk strayRecords := by
    show ∀ record ∈ strayRecords, record.level = 1
    decide
  have hstray : ∀ record ∈ strayRecords, record.Fits := by
    simp only [strayRecords, List.forall_mem_cons]
    exact ⟨⟨by decide, by decide, by decide, by decide⟩, ⟨by decide, by decide, by decide, by decide⟩,
      ⟨by decide, by decide, by decide, by decide⟩, by simp⟩
  have haccepts := accepts_of_conversation answers (Epoch.fits_stamp_default .handshake hshort)
    htakes hstray [7]
  have steady : Port.Steady { limit := some 5 } := ⟨rfl, by decide, by decide⟩
  obtain ⟨server, hstart, -, haccepted, -⟩ := run_against_any_client rejecting .aes256GcmSha384
    rfl [] (Party.usable_of_silent {}) steady rfl
    (Record.stream (Epoch.stamp {} .handshake clientHello :: (strayRecords ++ talk.clientFlight)) ++
      [7])
  exact ⟨server, hstart, haccepted _ _ _ _ haccepts⟩

end Server

end RecordLayer
