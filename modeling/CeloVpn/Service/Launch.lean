import CeloVpn.Service.Operations

/-!
# From a template reply to a running openvpn

The config file and the arguments, `continueConnecting` on both branches, the
signals of the Windows process object, and the two slots of a template reply.
-/
namespace CeloVpn.Service.OpenvpnManager
variable (host : Host) (w : World)

/-- The lines of the template, each ended by a line break. -/
def filteredLines (bytes : QByteArray) : QString :=
  ((QString.ofBytes bytes).splitOn '\n').flatMap (· ++ ['\n'])

/-- Some line of the template mentions DNS. -/
def mentionsDNS (bytes : QByteArray) : Bool :=
  ((QString.ofBytes bytes).splitOn '\n').any (QString.contains · "DNS".toList)

/-- One pushed DNS option, if there is a server to push. -/
def pushDNS (dns : QString) : QByteArray :=
  if dns.isEmpty then []
  else QString.toLatin1 ("push \"dhcp-option DNS ".toList ++ dns ++ "\"\n".toList)

/-- What stands in the config file before the template. -/
def dnsLines (m : OpenvpnManager) : QByteArray :=
  (if m.mFixDNS ∧ host.platform = .windows ∧ w.windows10 then
    QString.toLatin1 "block-outside-dns\n".toList else []) ++ pushDNS m.mDNS1 ++ pushDNS m.mDNS2

/-- `writeConfigFile`; the file is truncated as soon as it opens. -/
def writeConfigFile (m : OpenvpnManager) : Bool × OpenvpnManager :=
  if !w.configOpens then
    let se := "Cannot write config file '".toList ++ host.openvpnConfigFilename ++ "'".toList
    (false, (m.serviceLog se).emit (.sendError se))
  else
    let m := { m with configFile := [] }
    match m.mOvpnTemplate m.currentKey with
    | none =>
      (false, (m.serviceLog "No template data to create ovpn file with".toList).emit
        (.sendError "No template ovpn found to connect".toList))
    | some template =>
      let m := { m with mTemplateHasDNSOptions := mentionsDNS template.bytes }
      (true, { m with
        configFile := (if m.mTemplateHasDNSOptions then [] else m.dnsLines host w) ++
          (filteredLines template.bytes).toLatin1 })

/-- `getOpenvpnArgs`. -/
def getOpenvpnArgs (m : OpenvpnManager) : List QString :=
  ["--config".toList, host.openvpnConfigFilename] ++
    (if host.platform = .windows then [] else ["--daemon".toList]) ++
    ["--management".toList, "127.0.0.1".toList, m.mLocalPort, "--management-hold".toList,
      "--management-query-passwords".toList, "--log".toList, host.openvpnLogFilename,
      "--script-security".toList, "3".toList] ++
    (match host.platform with
      | .windows => []
      | .linux => ["--up".toList, host.upScriptFilename, "--down".toList, host.downScriptFilename]
      | .darwin =>
        let escapeSpaces (path : QString) : QString :=
          path.flatMap fun c => if c = ' ' then ['\\', ' '] else [c]
        ["--up".toList, escapeSpaces host.upScriptFilename ++ " -d -f -m -o -w".toList,
          "--down".toList, escapeSpaces host.downScriptFilename ++ " -d -f -m -o -w".toList]) ++
    ["--up-restart".toList] ++
    (if m.mTemplateHasDNSOptions then [] else
      (if m.mDNS1.isEmpty then [] else ["--dhcp-option".toList, "DNS".toList, m.mDNS1]) ++
      (if m.mDNS2.isEmpty then [] else ["--dhcp-option".toList, "DNS".toList, m.mDNS2]))

-- The slots of the process signals, which only the Windows branch connects.

/-- `processError`: it reports a disconnect and leaves `mState` as it is. -/
def processError (error : ℤ) (m : OpenvpnManager) : OpenvpnManager :=
  let m := m.serviceLog ("OpenvpnManager::processError(): error = ".toList ++
    QString.number error)
  (m.note (.processErrored m.mState m.connections.length)).emit (.stateChanged .disconnected)

def processStarted (m : OpenvpnManager) : OpenvpnManager :=
  m.serviceLog "OpenvpnManager::ConnectStarted()".toList

def processStateChanged (st : ℤ) (m : OpenvpnManager) : OpenvpnManager :=
  (m.serviceLog ("OpenvpnManager::processStateChanged(): newState = ".toList ++
    QString.number st)).setupFileWatcher host w

def processFinished (exitCode exitStatus : ℤ) (m : OpenvpnManager) : OpenvpnManager :=
  let m := m.serviceLog ("OpenvpnManager::processFinished(): exitCode = ".toList ++
    QString.number exitCode ++ " exitStatus = ".toList ++ QString.number exitStatus)
  if exitCode ≠ 0 then
    let running := m.openvpnRunning host w
    if running.1 then running.2 else running.2.setState w .disconnected
  else (m.setupFileWatcher host w).connectToOpenvpnSocket w

/-- The signals of a process that died: a crash is reported first, then the state
change, then the end. -/
def processDied (exitCode : ℤ) (crashed : Bool) (m : OpenvpnManager) : OpenvpnManager :=
  let m := if crashed then m.processError 1 else m
  (m.processStateChanged host w 0).processFinished host w exitCode (if crashed then 1 else 0)

/-- `mProcess.reset(..)` deletes the old object first; a destructor that finds its
process alive kills it, and the slots run before the deletion is over. -/
def deleteProcess (m : OpenvpnManager) : OpenvpnManager :=
  if m.processLives then
    ({ m with mProcess := some .notRunning }).processDied host w w.killedExitCode w.killedCrashed
  else m

/-- Start the new process object; its signals come before `start` returns. -/
def startProcess (m : OpenvpnManager) : OpenvpnManager :=
  let m := ({ m with mProcess := some .starting }).processStateChanged host w 1
  if w.processStarts then
    (({ m with mProcess := some .running }).processStateChanged host w 2).processStarted
  else
    (({ m with mProcess := some .notRunning }).processStateChanged host w 0).processError 0

/-- Enter the launch of openvpn with the config file as it stands. -/
def noteLaunch (args : List QString) (m : OpenvpnManager) : OpenvpnManager :=
  m.note (.launched args m.configFile (m.mOvpnTemplate m.currentKey))

/-- The end of `continueConnecting` after openvpn was launched. -/
def stampAndStartTimer (m : OpenvpnManager) : OpenvpnManager :=
  let m := m.serviceLog "openvpn launched, starting timer".toList
  ({ m.ask with mStartDateTime := some (w.clock m.asked) }).startTimer

/-- The launch on the branch that is not Windows. -/
def launchDaemon (args : List QString) (m : OpenvpnManager) : OpenvpnManager :=
  match w.launchFailure with
  | some what => ((m.serviceLog what).emit (.sendError what)).setState w .disconnected
  | none =>
    let m := (m.serviceLog "######  before exec ####".toList).noteLaunch args
    let m := m.serviceLog ("Result of openvpn execution is ".toList ++
      QString.number w.execResult)
    let m := (m.serviceLog "before attaching to OpenVPN".toList).connectToOpenvpnSocket w
    let m := (m.setupFileWatcher host w).serviceLog "after attaching to OpenVPN".toList
    m.stampAndStartTimer w

/-- The launch on Windows. -/
def launchProcess (args : List QString) (m : OpenvpnManager) : OpenvpnManager :=
  let m := ((m.deleteProcess host w).noteLaunch args).startProcess host w
  let m := m.serviceLog ("Process ID is: ".toList ++ QString.number w.processId)
  m.stampAndStartTimer w

def continueConnecting (m : OpenvpnManager) : OpenvpnManager :=
  let written := m.writeConfigFile host w
  if !written.1 then written.2
  else
    let m := written.2
    let args := m.getOpenvpnArgs host
    let m := m.serviceLog ("Prog is: ".toList ++ host.openvpnFilename)
    let m := m.serviceLog ("Args are:".toList ++ QString.join " ".toList args)
    let m := match host.platform with
      | .windows => m.launchProcess host w args
      | _ => m.launchDaemon host w args
    m.serviceLog "launchopenvpn done".toList

/-- `getTemplateError`. -/
def getTemplateError (reply : TemplateRequest) (m : OpenvpnManager) : OpenvpnManager :=
  (m.emit (.sendError ("Unable to fetch configuration from ".toList ++ reply.url))).stop host w

/-- `getTemplateFinished` for a reply with an error. -/
def getTemplateFailed (m : OpenvpnManager) : OpenvpnManager :=
  (m.serviceLog ("Error fetching template:".toList ++ w.replyErrorString)).stop host w

/-- `mOvpnTemplate.insert`. -/
def insertTemplate (key : ℤ) (template : Template) (m : OpenvpnManager) : OpenvpnManager :=
  { m with mOvpnTemplate := fun k => if k = key then some template else m.mOvpnTemplate k }

/-- `getTemplateFinished`, with the bytes the reply delivered. -/
def getTemplateFinished (reply : TemplateRequest) (bytes : QByteArray) (m : OpenvpnManager) :
    OpenvpnManager :=
  if reply.failed then m.getTemplateFailed host w
  else
    (m.insertTemplate reply.serverKey ⟨bytes, reply⟩).continueConnecting host w

end CeloVpn.Service.OpenvpnManager
