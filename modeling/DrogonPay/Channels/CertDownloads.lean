import DrogonPay.Channels.CallbackChecks
import DrogonPay.Channels.Exchange
import DrogonPay.Steps.Runs

/-!
Contract: the download of the platform certificates (`WechatChannel.cc`), by every
thread that calls it.

Owns:
- `downloadCertificates` in its two moments, the clock that is read and the window
  that is checked and stamped under the lock, and its answer, from which
  certificates are filed;
- the client as a system of such calls, answers and the clock.

Does not own: who calls, and the signature of the request.
-/

namespace DrogonPay.WechatChannel

/-! ## Filing certificates -/

/-- The configuration the downloads read; the interval is at least a second. -/
structure CertSettings where
  apiV3Key : Bytes
  certDownloadMinIntervalSeconds : Int
  floored : 1 ≤ certDownloadMinIntervalSeconds

/-- The interval the constructor keeps of a configured one. -/
def CertSettings.ofConfig (apiV3Key : Bytes) (configured : Int) : CertSettings :=
  if short : configured < 1 then ⟨apiV3Key, 1, by omega⟩ else ⟨apiV3Key, configured, by omega⟩

variable (crypto : Crypto) (settings : CertSettings)

/-- File the certificate of one node, and whether it was; `none` when reading the
node throws. -/
def fileCertificate (client : Client) (certNode : Json) (now : Int) : Option (Client × Bool) := do
  let serialNo ← certNode.stringAt "serial_no"
  let encNode ← certNode.at? (ascii "encrypt_certificate")
  if serialNo.isEmpty || encNode.isNull then return (client, false)
  else
    let ciphertext ← encNode.stringAt "ciphertext"
    let nonceStr ← encNode.stringAt "nonce"
    let associatedData ← encNode.stringAt "associated_data"
    match decryptResource crypto settings.apiV3Key ciphertext nonceStr associatedData with
    | .error _ => return (client, false)
    | .ok plaintext =>
        let (accepted, client) := client.setPlatformCert crypto.toHost serialNo plaintext now
        return (client, accepted)

/-- File what the nodes hold, up to the first that throws; how many were filed when
none does. -/
def fileCertificates (client : Client) (installed : Nat) (now : Int) :
    List Json → Client × Option Nat
  | [] => (client, some installed)
  | certNode :: rest =>
      match fileCertificate crypto settings client certNode now with
      | none => (client, none)
      | some (client, accepted) =>
          fileCertificates client (installed + accepted.toNat) now rest

/-- The answer to a download, with the text the caller hears; `none` when an
exception ends the callback. -/
def certificatesAnswered (client : Client) (answer : ChannelAnswer) (now : Int) :
    Client × Option Bytes :=
  if answer.error ≠ [] then (client, some answer.error)
  else
    match answer.result.at? (ascii "data") with
    | none => (client, none)
    | some (.arr nodes) =>
        let (client, installed) := fileCertificates crypto settings client 0 now nodes
        (client, installed.map fun n =>
          if n = 0 then ascii "no platform certificate passed validation" else [])
    | some _ => (client, some (ascii "invalid certificate response format"))

/-- A download is the one request whose answer is not verified. -/
def Exchange.unverified : Exchange → Exchange
  | .answered response => .answered { response with signatureError := none }
  | other => other

/-! ## The client as a system -/

/-- A client with the calls of `downloadCertificates` that are under way. Times are
readings of the steady clock, in nanoseconds. -/
structure Downloads where
  client : Client
  clock : Int
  lastCertDownloadAt : Int
  /-- Calls that have read the clock and not yet taken the lock. -/
  waiting : List Int
  /-- Calls that were turned away. -/
  throttled : List Int
  /-- Calls that sent their request, the first of them first. -/
  issued : List Int
  /-- Requests that are not answered yet. -/
  inFlight : Nat

inductive DownloadEvent where
  | tick (nanoseconds : Nat)
  /-- A call signs its request, or fails to, and reads the clock. -/
  | call (authorization : Except Bytes Bytes)
  /-- A call takes the lock. -/
  | lock (index : Nat)
  | answer (exchange : Exchange) (now : Int)

def nanosecondsPerSecond : Int := 1000000000

/-- `duration_cast<seconds>` rounds towards zero. -/
def elapsedSeconds (now before : Int) : Int := (now - before).tdiv nanosecondsPerSecond

/-- The window is still spent; a stamp of zero is none. -/
def isThrottled (lastCertDownloadAt now : Int) : Bool :=
  lastCertDownloadAt ≠ 0 &&
    elapsedSeconds now lastCertDownloadAt < settings.certDownloadMinIntervalSeconds

namespace Downloads

def initial (client : Client) (clock : Int) : Downloads := ⟨client, clock, 0, [], [], [], 0⟩

/-- One step; `none` when no such call waits, or no request is under way. -/
def step (timeoutMs : Nat) (s : Downloads) : DownloadEvent → Option Downloads
  | .tick nanoseconds => some { s with clock := s.clock + nanoseconds }
  | .call (.error _) => some s
  | .call (.ok _) => some { s with waiting := s.waiting ++ [s.clock] }
  | .lock index => do
      let now ← s.waiting[index]?
      if isThrottled settings s.lastCertDownloadAt now then
        return { s with waiting := s.waiting.eraseIdx index, throttled := s.throttled ++ [now] }
      else
        return { s with
          waiting := s.waiting.eraseIdx index
          lastCertDownloadAt := now
          issued := s.issued ++ [now]
          inFlight := s.inFlight + 1 }
  | .answer exchange now =>
      if s.inFlight = 0 then none
      else
        match sendWechatRequest timeoutMs (Exchange.unverified exchange) with
        | none => some { s with inFlight := s.inFlight - 1 }
        | some answer =>
            some { s with
              inFlight := s.inFlight - 1
              client := (certificatesAnswered crypto settings s.client answer now).1 }

end Downloads

/-- The states that the events of a client can lead to. -/
abbrev DownloadRun (timeoutMs : Nat) (client : Client) (clock : Int)
    (events : List DownloadEvent) (s : Downloads) : Prop :=
  Steps.Run (Downloads.step crypto settings timeoutMs) (Downloads.initial client clock) events s

end DrogonPay.WechatChannel
