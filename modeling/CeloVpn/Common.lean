import CeloVpn.Library.Text

/-!
# What the desktop client and the service share

The connection states, the state words of openvpn, the command and
notification numbers of `common.h`, and the JSON objects in which the two
programs speak to each other over the local socket.
-/
namespace CeloVpn

/-- `enum vpnState`. -/
inductive VpnState
  | disconnected
  | connecting
  | connected
  | total
  deriving DecidableEq, Repr

/-- The value an enumerator has as an `int`. -/
def VpnState.toInt : VpnState → ℤ
  | .disconnected => 0
  | .connecting => 1
  | .connected => 2
  | .total => 3

/-- `enum OpenVPNStateWord`. -/
inductive OpenVPNStateWord
  | connecting
  | tcpConnecting
  | wait
  | exiting
  | reconnecting
  | auth
  | getConfig
  | assignIP
  | resolve
  | unknown
  deriving DecidableEq, Repr

def OpenVPNStateWord.toInt : OpenVPNStateWord → ℤ
  | .connecting => 0
  | .tcpConnecting => 1
  | .wait => 2
  | .exiting => 3
  | .reconnecting => 4
  | .auth => 5
  | .getConfig => 6
  | .assignIP => 7
  | .resolve => 8
  | .unknown => 9

-- `enum commands`: the numbers of the commands and of the notifications.

def cmdGetStatus : ℤ := 0
def cmdStart : ℤ := 1
def cmdStop : ℤ := 2
def cmdKillRunningOpenvpn : ℤ := 3
def cmdSetCredentials : ℤ := 4
def cmdNetdown : ℤ := 5
def notifyStatusChange : ℤ := 6
def notifyStatusWord : ℤ := 7
def notifyTimeout : ℤ := 8
def notifyError : ℤ := 9
def notifyGotIP : ℤ := 10

/-- `QJsonValue`, as far as the two programs put values into their messages. -/
inductive QJsonValue
  | undefined
  | null
  | bool (b : Bool)
  | double (x : ℚ)
  | string (s : QString)
  deriving DecidableEq

namespace QJsonValue

/-- `QJsonValue::toInt()`: the number when it is integral and fits, else zero. -/
def toInt : QJsonValue → ℤ
  | .double x =>
    if x.den = 1 ∧ -2147483648 ≤ x.num ∧ x.num ≤ 2147483647 then x.num else 0
  | _ => 0

/-- `QJsonValue::toString()`. -/
def toString : QJsonValue → QString
  | .string s => s
  | _ => []

/-- `QJsonValue::toBool()`. -/
def toBool : QJsonValue → Bool
  | .bool b => b
  | _ => false

/-- The value an `int` becomes. -/
def ofInt (n : ℤ) : QJsonValue := .double n

end QJsonValue

/-- `QJsonObject`, as the list of its members. -/
abbrev QJsonObject := List (QString × QJsonValue)

/-- `QJsonObject::value`. -/
def QJsonObject.value (o : QJsonObject) (key : QString) : QJsonValue :=
  (o.lookup key).getD .undefined

/-- `EscapePsw`: a backslash before every backslash and every double quote. -/
def escapePsw (raw : QString) : QString :=
  raw.flatMap fun c => if c = '\\' then ['\\', '\\'] else if c = '"' then ['\\', '"'] else [c]

/-- The loop of `IsValidIp` over the parts, while `ok`. -/
def partsOk : List QString → Bool
  | [] => true
  | part :: ar =>
    match part.toInt? with
    | some v => if 0 ≤ v ∧ v ≤ 255 then partsOk ar else false
    | none => false

/-- `IsValidIp`: the dots are counted, and the parts between them read. -/
def isValidIp (ip : QString) : Bool :=
  let points := ip.count '.'
  if 3 = points then
    let ar := ip.splitSkipEmpty '.'
    if ar.length = 4 then partsOk ar else false
  else false

end CeloVpn
