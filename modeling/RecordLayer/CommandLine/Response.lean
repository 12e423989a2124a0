import RecordLayer.CommandLine.Arguments
import RecordLayer.CommandLine.Destination
import RecordLayer.Exchange.Basic

/-!
# The command line

What a call from the command line prints and how it ends.  A call shows help,
reports a usage error, or runs one exchange and shows its summary or its
failure.

A failure of the key-log file is not reported in the summary: it ends the call
as it is.
-/

namespace RecordLayer.CommandLine

/-! ## Texts -/

/-- How the program is called. -/
def usageText : String :=
  "usage: main.py [-h] [--cipher-suite CIPHER_SUITE] [--early-data N]\n" ++
  "               [--reject-early-data] [-k KEYLOG_FILE] [--debug]\n"

/-- What every option does. -/
def helpText : String :=
  usageText ++
  "\nRun a scripted TLS 1.3 exchange over a mock QUIC transport\n" ++
  "\noptions:\n" ++
  "  -h, --help            show this help message and exit\n" ++
  "  --cipher-suite CIPHER_SUITE\n" ++
  "                        TLS 1.3 cipher suite (default: 0x1301)\n" ++
  "  --early-data N        Number of 0-RTT records to send (default: 0)\n" ++
  "  --reject-early-data   Server rejects 0-RTT and skips early data records\n" ++
  "  -k KEYLOG_FILE, --keylog KEYLOG_FILE\n" ++
  "                        Write secrets to this file (SSLKEYLOGFILE format)\n" ++
  "  --debug               Enable debug output\n"

/-- The output for a usage error. -/
def usageErrorText (error : UsageError) : String :=
  usageText ++ "main.py: error: " ++ error.message ++ "\n"

/-- The path of the key-log file; an empty path stands for none. -/
def Options.keyLogPath? (options : Options) : Option String :=
  options.keyLog.filter (· ≠ "")

/-- A number as it is shown; nothing shows as empty brackets. -/
def numberText : Option Int → String
  | some n => s!"{n}"
  | none => "[]"

/-- What is printed before an exchange with a suite. -/
def bannerText (options : Options) (suite : Int) : String :=
  let rule := String.ofList (List.replicate 60 '=')
  let rejected := options.rejectEarlyData && options.earlyData.any (· ≠ 0)
  rule ++ "\nMock QUIC Transport Exchange\n" ++ rule ++ "\n" ++
    "    Cipher suite: " ++ CipherSuite.nameOf suite ++ "\n" ++
    "    Early data records: " ++ numberText options.earlyData ++
    (if rejected then " (rejected)" else "") ++ "\n" ++
    match options.keyLogPath? with
    | some path => "    Key log file: " ++ path ++ "\n"
    | none => ""

/-- What is printed after an exchange that came to its end. -/
def summaryText (summary : Exchange.Summary) : String :=
  "\n    === Exchange Summary ===\n" ++
    s!"    0-RTT sent: {summary.client.earlyDataSent}\n" ++
    s!"    0-RTT received: {summary.server.earlyDataReceived}\n" ++
    s!"    0-RTT skipped: {summary.server.earlyDataSkipped}\n" ++
    "    Application data: " ++ Text.quotedBytes summary.client.applicationData ++ "\n" ++
    "\n✅ Exchange complete\n"

/-- What is printed after an exchange that failed. -/
def failureText (error : Error) : String :=
  "\n❌ Exchange failed: " ++ error.message ++ "\n"

/-! ## Calls -/

/-- How a call ends. -/
inductive Ending where
  | code (n : Nat)
  /-- A failure that is not reported. -/
  | failure (error : Error)
deriving DecidableEq, Repr

/-- What a call leaves behind. -/
structure Response where
  ending : Ending
  /-- The output, with the debug output of the server's side. -/
  output : String := ""
  /-- The debug output of the client's side. -/
  clientOutput : String := ""
  errorOutput : String := ""
  log : KeyLog := {}

/-- The private keys and the randoms of both sides. -/
structure Secrets where
  clientKey : Bytes
  serverKey : Bytes
  clientRandom : Bytes
  serverRandom : Bytes

/-- The exchange that the options ask for, with the numbers among them. -/
def exchangeConfig (agreement : KeyAgreement) (secrets : Secrets) (options : Options)
    (suite earlyData : Int) : Exchange.Config :=
  { agreement
    suite
    earlyData
    rejectEarlyData := options.rejectEarlyData
    clientKey := secrets.clientKey
    serverKey := secrets.serverKey
    clientRandom := secrets.clientRandom
    serverRandom := secrets.serverRandom
    logs := options.keyLogPath?.isSome }

/-- Whether a failure is reported in the output. -/
def isReported (error : Error) : Bool :=
  match error.family, error with
  | .protocol, _ => true
  | .argument, _ => true
  | _, .stream error => error.losesConnection
  | _, _ => false

/-- The output and the ending of an exchange, after a banner. -/
def conclude (banner : String) (options : Options) (report : Exchange.Report) : Response :=
  let before := banner ++ Note.render options.debug report.serverNotes
  let (after, ending) :=
    match report.result with
    | .ok summary => (summaryText summary, Ending.code 0)
    | .error error =>
      if isReported error then (failureText error, .code 1) else ("", .failure error)
  { ending
    output := before ++ after
    clientOutput := Note.render options.debug report.clientNotes
    log := report.log }

/-- Run the exchange that the options ask for.  A call without a suite fails
before its banner, one without a number of early records after it. -/
def runExchange (agreement : KeyAgreement) (secrets : Secrets)
    (fault? : String → Option FileError) (options : Options) : Response :=
  match options.suite with
  | none => { ending := .failure .numberMissing }
  | some suite =>
    let banner := bannerText options suite
    match options.earlyData with
    | none => { ending := .failure .numberMissing, output := banner }
    | some earlyData =>
      let log : KeyLog := { fault := options.keyLogPath?.bind fault? }
      conclude banner options
        (Exchange.perform (exchangeConfig agreement secrets options suite earlyData) log)

/-- Answer a call.  `fault?` tells why a key-log file cannot be used. -/
def respond (agreement : KeyAgreement) (secrets : Secrets) (fault? : String → Option FileError)
    (arguments : List String) : Response :=
  match parse arguments with
  | .error .help => { ending := .code 0, output := helpText }
  | .error (.usage error) => { ending := .code 2, errorOutput := usageErrorText error }
  | .ok options => runExchange agreement secrets fault? options

/-- The files that a call leaves in an empty directory. -/
def filesLeft (arguments : List String) (response : Response) : List (String × String) :=
  match parse arguments with
  | .error _ => []
  | .ok options =>
    match options.keyLogPath?.map destination, response.log.text? with
    | some (.here name), some text => [(name, text)]
    | _, _ => []

end RecordLayer.CommandLine
