import CeloVpn.Common

/-!
# The settings of the desktop client

Of `Setting` the protocol with its port, the location of the server, and the two
switches that the login window looks at. The preferences hold what earlier sessions have
stored, whether it fits this one or not. There is one encryption only.
-/
namespace CeloVpn

namespace QString

/-- `QString::toLongLong()`: white space around the number and a sign are accepted, zero
where the conversion fails. -/
def toLongLong (s : QString) : ℤ :=
  let signed : ℤ × QString := match trimmed s with
    | '-' :: t => (-1, t)
    | '+' :: t => (1, t)
    | t => (1, t)
  if signed.2.isEmpty then 0
  else match digitsValue signed.2 with
    | some n =>
      if -9223372036854775808 ≤ signed.1 * n ∧ signed.1 * n ≤ 9223372036854775807 then signed.1 * n
      else 0
    | none => 0

end QString

namespace Client

/-- A stored value: a number where it was set to one, a text where an earlier session
wrote it. -/
inductive QVariant
  | int (n : ℤ)
  | string (s : QString)
  deriving DecidableEq

namespace QVariant

/-- `QVariant::toInt()`; the number of a text is cut off to 32 bits. -/
def toInt : QVariant → ℤ
  | .int n => n
  | .string s => s.toLongLong.bmod 4294967296

def toString : QVariant → QString
  | .int n => .number n
  | .string s => s

end QVariant

structure Setting where
  dd_Protocol_ix : Option QVariant
  dd_Protocol_str : Option QVariant
  dd_Location_ix : Option QVariant
  dd_Location_str : Option QVariant
  cb_AutoConnect : Bool
  cb_InsecureWiFi : Bool
  /-- `mProtocols` and `mPorts` are filled. -/
  populated : Bool
  /-- `_loading_protocol`. -/
  loadingProtocol : Bool
  mTesting : Bool

namespace Setting

/-- Nothing is stored. -/
def fresh : Setting := ⟨none, none, none, none, false, false, false, false, false⟩

/-- `ENCRYPTION_RSA`, whatever is stored. -/
def encryption : ℤ := 0

def gs_protocols : List QString :=
  ["UDP 1194 (RSA)".toList, "UDP 53 (RSA)".toList, "TCP 443 (RSA)".toList]

def gs_ports : List ℤ := [1194, 53, 443]

def showNodes : Bool := true

/-- The first call fills the table, and that of the ports with it. -/
def currentEncryptionProtocols (s : Setting) : List QString × Setting :=
  (gs_protocols, { s with populated := true })

def mPorts (s : Setting) : List ℤ := if s.populated then gs_ports else []

/-- The name of a protocol; the table is asked for only where there is one selected. -/
def protocolName (ix : ℤ) (s : Setting) : QString × Setting :=
  if -1 < ix then
    let protocols := s.currentEncryptionProtocols
    if ix < protocols.1.length then (protocols.1.getD ix.toNat [], protocols.2) else ([], protocols.2)
  else ([], s)

/-- Minus one where none is selected. -/
def currentProtocol (s : Setting) : ℤ := (s.dd_Protocol_ix.map (·.toInt)).getD (-1)

/-- The port as a text, none where `at(0)` finds the vector empty and throws. -/
def port (s : Setting) : Option QString :=
  let ix := s.currentProtocol
  let v_ports := s.mPorts
  if -1 < ix ∧ ix < v_ports.length then v_ports[ix.toNat]?.map QString.number
  else v_ports[0]?.map QString.number

def determineNextPort (s : Setting) : ℤ :=
  let ix := s.currentProtocol + 1
  if s.mPorts.length ≤ ix then 0 else ix

def tcpOrUdp (s : Setting) : QString × Setting :=
  let description := s.protocolName s.currentProtocol
  (if description.1.containsFolded "udp".toList then "udp".toList else "tcp".toList, description.2)

/-- `setProtocol`, and whether it emits `protocolChanged`. -/
def setProtocol (ix : ℤ) (s : Setting) : Setting × Bool :=
  if s.loadingProtocol then (s, false)
  else
    let name := ({ s with dd_Protocol_ix := some (.int ix) }).protocolName ix
    ({ name.2 with dd_Protocol_str := some (.string name.1) }, true)

/-- `loadProtocol`, which calls `setProtocol` while `_loading_protocol` is set. -/
def loadProtocol (rand : ℕ) (s : Setting) : Setting × Bool :=
  let s := { s with loadingProtocol := true }
  let ix := s.currentProtocol
  let protocols := s.currentEncryptionProtocols
  let ix :=
    if -1 < ix then
      if protocols.1.length ≤ ix then -1
      else if ((s.dd_Protocol_str.map (·.toString)).getD []) ≠ protocols.1.getD ix.toNat [] then -1
      else ix
    else ix
  let ix := if ix < 0 then ((rand % protocols.1.length : ℕ) : ℤ) else ix
  let set := protocols.2.setProtocol ix
  ({ set.1 with loadingProtocol := false }, set.2)

/-- Zero where no location is stored. -/
def serverID (s : Setting) : ℤ := (s.dd_Location_ix.map (·.toInt)).getD 0

/-- What `loadServer` reads of the location and its name. -/
def savedServer (s : Setting) : ℤ := (s.dd_Location_ix.map (·.toInt)).getD (-1)

def savedName (s : Setting) : QString := (s.dd_Location_str.map (·.toString)).getD "undefined".toList

/-- What `setServer` stores. -/
def storeServer (ixsrv : ℤ) (newsrv : QString) (s : Setting) : Setting :=
  { s with dd_Location_ix := some (.int ixsrv), dd_Location_str := some (.string newsrv) }

@[simp] theorem serverID_protocolName (ix : ℤ) (s : Setting) :
    (s.protocolName ix).2.serverID = s.serverID := by
  unfold protocolName
  dsimp only
  split_ifs <;> rfl

@[simp] theorem serverID_tcpOrUdp (s : Setting) : s.tcpOrUdp.2.serverID = s.serverID :=
  serverID_protocolName s.currentProtocol s

@[simp] theorem serverID_setProtocol (ix : ℤ) (s : Setting) :
    (s.setProtocol ix).1.serverID = s.serverID := by
  unfold setProtocol
  split_ifs
  · rfl
  · exact serverID_protocolName ix { s with dd_Protocol_ix := some (.int ix) }

/-- While `_loading_protocol` is set nothing is stored. -/
@[simp] theorem loadProtocol_eq (rand : ℕ) (s : Setting) : s.loadProtocol rand =
    ({ s with loadingProtocol := false, populated := true }, false) := rfl

end Setting
end Client
end CeloVpn
