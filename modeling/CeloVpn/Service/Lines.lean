import CeloVpn.Service.Launch

/-!
# The lines of the log file and of the management socket

Both parsers, from the bytes that arrive down to the branch for each word, and
the periodic `checkState`.
-/
namespace CeloVpn.Service.OpenvpnManager
variable (host : Host) (w : World)

/-- The position of the fourth comma, as `gotConnected` searches for it: a comma
that is not found sends the next search back to the beginning. -/
def fourthComma (s : QString) : ℤ :=
  let p := s.indexOf ',' (-1 + 1)
  let p := s.indexOf ',' (p + 1)
  let p := s.indexOf ',' (p + 1)
  s.indexOf ',' (p + 1)

def gotConnected (s : QString) (m : OpenvpnManager) : OpenvpnManager :=
  let p := fourthComma s
  let m := if p > -1 then
      let p1 := s.indexOf ',' (p + 1)
      let ip := if p1 > -1 then s.mid (p + 1) (p1 - p - 1) else s.mid (p + 1) (-1)
      m.emit (.gotNewIp ip)
    else m
  m.setState w .connected

def gotTunErr (m : OpenvpnManager) : OpenvpnManager :=
  if !m.mTunError && !m.mError then
    let m := { m with mTunError := true, mError := true }
    (m.serviceLog "Got TUN Allocation error, reconnecting".toList).startConnecting host w
  else m

/-- The backward walk over the digits before the first point, ending above `p0`. -/
def digitsStart (s : QString) (p0 : ℤ) : ℕ → ℤ → ℤ
  | 0, p2 => p2
  | n + 1, p2 =>
    if p2 > p0 then
      if QString.isDigit (s.getD p2.toNat ' ') then digitsStart s p0 n (p2 - 1) else p2
    else p2

def parseNewIp (s : QString) (m : OpenvpnManager) : OpenvpnManager :=
  let p0 := s.indexOfText "TCPv4_CLIENT link remote".toList 0
  let p0 := s.indexOf ':' (p0 + 1)
  if p0 > -1 then
    let p1 := s.indexOf ':' (p0 + 1)
    if p1 > -1 then
      let point := s.indexOf '.' p0
      let p2 := digitsStart s p0 (point - 1 - p0).toNat (point - 1)
      m.emit (.gotNewIp (s.mid (p2 + 1) (p1 - p2 - 1)))
    else m
  else m

/-- A failed bind moves on to the next port number and tries again. -/
def bindFailed (m : OpenvpnManager) : OpenvpnManager :=
  let port := QString.number (Int.bmod (m.mPort.toInt + 1) 4294967296)
  (({ m with mPort := port }).emit (.switchingPort port)).startConnecting host w

/-- The three lines that `parseOpenvpnLogLine` acts on besides a failed bind. -/
def parseLogNotice (s : QString) (m : OpenvpnManager) : OpenvpnManager :=
  if s.containsFolded "TCPv4_CLIENT link remote:".toList then m.parseNewIp s
  else if s.containsFolded "Initialization Sequence Completed:".toList then m.gotConnected w s
  else if s.containsFolded
      "Opening utun (connect(AF_SYS_CONTROL)): Operation not permitted".toList then
    m.gotTunErr host w
  else m

def parseOpenvpnLogLine (s : QString) (m : OpenvpnManager) : OpenvpnManager :=
  if s.containsFolded "MANAGEMENT: CMD 'state'".toList then m
  else
    let m := m.serviceLog ("OpenVPNlogfile: ".toList ++ s)
    let m := if QString.contains s "Socket bind failed on local address".toList then
        m.bindFailed host w
      else m
    m.parseLogNotice host w s

/-- The bytes of the log file that were not read yet, if it could be opened and
holds more than one of them; the position moves to the end of what is read. -/
def readLog (content : Option QByteArray) (m : OpenvpnManager) : QByteArray × OpenvpnManager :=
  match content with
  | none => ([], m)
  | some file =>
    let m := if m.mLogFilePosition > file.length then { m with mLogFilePosition := 0 } else m
    if m.mLogFilePosition + 1 < file.length then
      (file.drop m.mLogFilePosition.toNat, { m with mLogFilePosition := file.length })
    else ([], m)

def openvpnLogfileChanged (content : Option QByteArray) (m : OpenvpnManager) : OpenvpnManager :=
  if m.mProcessing || m.mError then m
  else
    let read := ({ m with mProcessing := true }).readLog content
    let lines := if read.1.isEmpty then [] else (QString.ofBytes read.1).splitSkipEmpty '\n'
    let m := lines.foldl (fun m s => m.parseOpenvpnLogLine host w s) read.2
    { m with mProcessing := false }

/-- The branches of `parseSocketStateWord`, one for each word it knows. -/
def actOnStateWord (isnew : Bool) (word s : QString) (m : OpenvpnManager) : OpenvpnManager :=
  if word.equalsFolded "CONNECTED".toList then
    if isnew then m.gotConnected w s else m
  else if word.equalsFolded "CONNECTING".toList || word.equalsFolded "TCP_CONNECT".toList then
    (m.setState w .connecting).emit (.stateWordChanged .connecting)
  else if word.equalsFolded "WAIT".toList then m.emit (.stateWordChanged .wait)
  else if word.equalsFolded "EXITING".toList then
    if m.mReconnect then (m.startReconnectTimer).setState w .connecting
    else m.setState w .disconnected
  else if word.equalsFolded "RECONNECTING".toList then
    (m.setState w .connecting).emit (.stateWordChanged .reconnecting)
  else if word.equalsFolded "AUTH".toList then
    (m.setState w .connecting).emit (.stateWordChanged .auth)
  else if word.equalsFolded "GET_CONFIG".toList then m.emit (.stateWordChanged .getConfig)
  else if word.equalsFolded "ASSIGN_IP".toList then
    (m.setState w .connecting).emit (.stateWordChanged .assignIP)
  else if word.equalsFolded "TCP_CONNECT'".toList then
    m.emit (.stateWordChanged .tcpConnecting)
  else if word.equalsFolded "RESOLVE".toList then
    let m := m.emit (.stateWordChanged .resolve)
    if m.mNetDown then
      (m.stop host w).emit
        (.sendError "Turn Internet connection on manually, please".toList)
    else m
  else
    (m.serviceLog ("Got unknown state word ".toList ++ word)).emit (.stateWordChanged .unknown)

/-- `parseSocketStateWord`: a word is remembered whatever became of it. -/
def parseSocketStateWord (word s : QString) (m : OpenvpnManager) : OpenvpnManager :=
  let isnew := word != m.mPreviousStateWord
  let m := if isnew then (m.serviceLog s).serviceLog
      ("processing state word '".toList ++ word ++ "'".toList) else m
  let m := m.actOnStateWord host w isnew word s
  ({ m with mPreviousStateWord := word }).note (.stateWord word)

def parseSocketPlainWord (word s : QString) (m : OpenvpnManager) : OpenvpnManager :=
  if word.equalsFolded "END".toList then m
  else
    let m := (m.serviceLog s).serviceLog
      ("processing plain word '".toList ++ word ++ "'".toList)
    if word.equalsFolded "SUCCESS".toList then m
    else if word.equalsFolded "ERROR".toList || word.equalsFolded "FATAL".toList then
      (m.disconnectFromOpenvpnSocket.emit .blockOnDisconnect).emit (.sendError s)
    else m

def parseSocketQueryWord (word s : QString) (m : OpenvpnManager) : OpenvpnManager :=
  let m := (m.serviceLog ("ProcessRtWord(): '".toList ++ s ++ "'".toList)).serviceLog
    ("processing RT word '".toList ++ word ++ "'".toList)
  if word.equalsFolded "INFO".toList then m
  else if word.equalsFolded "HOLD".toList then
    if s.indexOfText "hold release".toList 0 > -1 then
      let m := (m.serviceLog "hold off".toList).writeSocket "hold off\n".toList
      (m.serviceLog "hold release".toList).writeSocket "hold release\n".toList
    else m
  else if word.equalsFolded "PASSWORD".toList then
    if s.indexOfText "Need 'Auth' username/password".toList 0 > -1 then
      let m := m.serviceLog "sending vpn login+password".toList
      let u1 := "username \"Auth\" \"".toList ++ escapePsw m.mVPNUsername ++ "\"\n".toList
      let p1 := "password \"Auth\" \"".toList ++ escapePsw m.mVPNPassword ++ "\"\n".toList
      (m.writeSocket u1).writeSocket p1
    else
      let p := s.indexOf ':' 0
      if QString.indexOfText (s.map QString.foldCase)
          ("Verification Failed".toList.map QString.foldCase) p > -1 then
        ({ m with mError := true }).showErrorMessageCleanup w (s.mid (p + 1) (-1))
      else m
  else if word.equalsFolded "SUCCES".toList then m
  else if word.equalsFolded "FATAL".toList then
    let p := s.indexOf ':' 0
    let msg := s.mid (p + 1) (-1)
    if msg.equalsFolded "Cannot allocate TUN/TAP dev dynamically".toList then m.gotTunErr host w
    else ({ m with mError := true }).cancel host w msg
  else m

/-- What `parseSocketLine` makes of a line that begins with a digit. -/
def parseSocketDigitLine (s : QString) (m : OpenvpnManager) : OpenvpnManager :=
  let p0 := s.indexOf ',' 1
  let p1 := s.indexOf ',' (p0 + 1)
  if p1 > -1 then
    let word := s.mid (p0 + 1) (p1 - p0 - 1)
    let p3 := s.indexOf ',' (p1 + 1)
    let err := decide (p3 > -1 ∧ p3 > p1 + 1) &&
      (s.mid (p1 + 1) (p3 - p1 - 1)).containsFolded "ERROR".toList
    if !err then m.parseSocketStateWord host w word s else m
  else m.parseSocketPlainWord s s

def parseSocketLine (s : QString) (m : OpenvpnManager) : OpenvpnManager :=
  if s.head? = some '>' then
    let p := s.indexOf ':' 0
    if p > -1 then m.parseSocketQueryWord host w (s.mid 1 (p - 1)) s else m
  else if s.head?.any QString.isDigit then m.parseSocketDigitLine host w s
  else
    let p := s.indexOf ':' 0
    m.parseSocketPlainWord (if p > -1 then s.mid 0 p else s) s

/-- The lines of what has arrived, trimmed; none before the first line break. -/
def socketLines (buffer : QByteArray) : List QString :=
  if buffer.contains 10 then
    ((QString.ofBytes buffer).splitSkipEmpty '\n').map QString.trimmed
  else []

/-- The manager once the arrived bytes are read and before the first line of them
is parsed. -/
def readSocket (socket : QTcpSocket) (m : OpenvpnManager) : OpenvpnManager :=
  let m := m.serviceLog "socketReadyRead called()".toList
  if socket.buffer.contains 10 then { m with mSocket := some { socket with buffer := [] } }
  else m.serviceLog "socketReadyRead socket line not ready".toList

def socketReadyRead (socket : QTcpSocket) (m : OpenvpnManager) : OpenvpnManager :=
  (socketLines socket.buffer).foldl (fun m s => m.parseSocketLine host w s) (m.readSocket socket)

/-- `kTryNextPortSeconds`. -/
def kTryNextPortSeconds : ℤ := 60

/-- `uint d = mStartDateTime.secsTo(currentDateTimeUtc())`, clock readings being in
milliseconds. An invalid start gives zero; the conversion wraps. -/
def secondsSince (start : Option ℤ) (now : ℤ) : ℤ :=
  match start with
  | some t => (Int.tdiv (now - t) 1000) % 4294967296
  | none => 0

/-- The first half of `checkState`: poll a running openvpn, or notice its crash. -/
def pollOpenvpn (m : OpenvpnManager) : OpenvpnManager :=
  let running := m.openvpnRunning host w
  let m := running.2
  if running.1 then
    match m.mSocket with
    | none => m.connectToOpenvpnSocket w
    | some socket =>
      if socket.isValid && socket.connected then m.writeSocket "state\n".toList
      else m.serviceLog "Socket is not null, but not valid or connected".toList
  else if m.mState = .connected then
    if m.mReconnect then m.startConnecting host w else m.setState w .disconnected
  else m

/-- The second half of `checkState`: give up an attempt that lasts too long. -/
def checkTimeout (m : OpenvpnManager) : OpenvpnManager :=
  if m.mState = .connecting then
    let now := w.clock m.asked
    let d := secondsSince m.mStartDateTime now
    let m := m.ask
    if m.mTesting then
      if d > kTryNextPortSeconds then
        (m.note (.gaveUp now)).cancel host w
          ("Timeout at ".toList ++ QString.number kTryNextPortSeconds ++ " seconds".toList)
      else m
    else if d > kTryNextPortSeconds then
      let m := (({ m.ask with mStartDateTime := some (w.clock m.asked) }).note (.gaveUp now))
      (m.stop host w).emit .timedOut
    else m
  else m

def checkState (m : OpenvpnManager) : OpenvpnManager :=
  let m := (m.serviceLog "checkState called".toList).pollOpenvpn host w
  (m.checkTimeout host w).serviceLog "checkState done".toList

end CeloVpn.Service.OpenvpnManager
