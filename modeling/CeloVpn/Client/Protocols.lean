import CeloVpn.Client.Setting
import CeloVpn.Library.Runs

/-!
# Whether the stored protocol is one of the table

The port falls back to that of the first row where the stored index fits no row, and is
not to be had before some other function has filled the table. The transport falls back
to TCP. `loadProtocol` looks for a row that fits, and `setProtocol` stores nothing while
`_loading_protocol` is set.
-/
namespace CeloVpn.Client.Setting
open Runs

/-- The transport that a name of the table tells. -/
def transport (description : QString) : QString :=
  if description.containsFolded "udp".toList then "udp".toList else "tcp".toList

/-- The port and the transport are those of one row, and the port is to be had. -/
def DescribesRow (s : Setting) : Prop :=
  ∃ (row : ℕ) (name : QString) (port : ℤ), gs_protocols[row]? = some name ∧
    gs_ports[row]? = some port ∧ s.port = some (.number port) ∧ s.tcpOrUdp.1 = transport name

/-- The stored index is that of a row. -/
def InTable (s : Setting) : Prop := -1 < s.currentProtocol ∧ s.currentProtocol < gs_protocols.length

instance (s : Setting) : Decidable s.InTable := inferInstanceAs (Decidable (_ ∧ _))

/-- What is called of the settings. -/
inductive Call
  | currentEncryptionProtocols
  | currentEncryptionPorts
  | protocolName (ix : ℤ)
  | currentProtocolName
  | currentProtocol
  | port
  | determineNextPort
  | tcpOrUdp
  | setProtocol (ix : ℤ)
  | loadProtocol (rand : ℕ)
  | switchToNextPort
  | serverID
  | setServer (ixsrv : ℤ) (newsrv : QString)

/-- The settings after a call. -/
def call (s : Setting) : Call → Setting
  | .currentEncryptionProtocols => s.currentEncryptionProtocols.2
  | .currentEncryptionPorts => s.currentEncryptionProtocols.2
  | .protocolName ix => (s.protocolName ix).2
  | .currentProtocolName => (s.protocolName s.currentProtocol).2
  | .currentProtocol => s
  | .port => s
  | .determineNextPort => s
  | .tcpOrUdp => s.tcpOrUdp.2
  | .setProtocol ix => (s.setProtocol ix).1
  | .loadProtocol rand => (s.loadProtocol rand).1
  | .switchToNextPort => (s.setProtocol s.determineNextPort).1
  | .serverID => s
  | .setServer ixsrv newsrv => s.storeServer ixsrv newsrv

/-- The settings just constructed, with what is stored. -/
def constructed (stored : Setting) : Setting :=
  { stored with populated := false, loadingProtocol := false }

/-- Where the index fits no row the port is that of the first one, if the table is filled. -/
theorem port_of_not_inTable {s : Setting} (h : ¬s.InTable) :
    s.port = if s.populated then some (.number 1194) else none := by
  unfold port mPorts
  dsimp only
  cases hpopulated : s.populated with
  | false => simp
  | true =>
    have hno : ¬(-1 < s.currentProtocol ∧ s.currentProtocol < gs_ports.length) := h
    rw [if_pos rfl, if_neg hno]
    rfl

theorem tcpOrUdp_fst (s : Setting) :
    s.tcpOrUdp.1 = transport (s.protocolName s.currentProtocol).1 := rfl

theorem tcpOrUdp_of_not_inTable {s : Setting} (h : ¬s.InTable) : s.tcpOrUdp.1 = "tcp".toList := by
  have hname : (s.protocolName s.currentProtocol).1 = [] := by
    unfold protocolName
    dsimp only
    split_ifs with hlower hupper
    · exact absurd ⟨hlower, hupper⟩ h
    · rfl
    · rfl
  rw [tcpOrUdp_fst, hname]
  decide

theorem describesRow_of_inTable {s : Setting} (hpopulated : s.populated = true) (h : s.InTable) :
    s.DescribesRow := by
  obtain ⟨row, hrow⟩ : ∃ row : ℕ, s.currentProtocol = row :=
    ⟨s.currentProtocol.toNat, by have := h.1; omega⟩
  have hports : row < gs_ports.length := by
    have hupper := h.2
    rw [hrow] at hupper
    exact_mod_cast hupper
  have hlower : -1 < s.currentProtocol := h.1
  refine ⟨row, gs_protocols[row], gs_ports[row], List.getElem?_eq_getElem _,
    List.getElem?_eq_getElem hports, ?_, ?_⟩
  · have hfits : -1 < s.currentProtocol ∧ s.currentProtocol < gs_ports.length := h
    unfold port mPorts
    dsimp only
    rw [if_pos hpopulated, if_pos hfits, hrow, Int.toNat_natCast, List.getElem?_eq_getElem hports]
    rfl
  · have hname : (s.protocolName s.currentProtocol).1 = gs_protocols[row] := by
      unfold protocolName
      dsimp only
      rw [if_pos hlower]
      have hupper : s.currentProtocol < (currentEncryptionProtocols s).1.length := h.2
      rw [if_pos hupper, hrow, Int.toNat_natCast]
      exact (List.getD_eq_getElem?_getD ..).trans
        (congrArg (·.getD []) (List.getElem?_eq_getElem (l := gs_protocols) hports))
    rw [tcpOrUdp_fst, hname]

/-- No row has the port of the first one and TCP. -/
theorem no_row_tcp_1194 {row : ℕ} {name : QString} {port : ℤ} (hname : gs_protocols[row]? = some name)
    (hport : gs_ports[row]? = some port) (hnumber : QString.number 1194 = QString.number port) :
    transport name ≠ "tcp".toList := by
  match row with
  | 0 =>
    obtain rfl := Option.some.inj hname
    decide
  | 1 =>
    obtain rfl := Option.some.inj hport
    exact absurd hnumber (by decide)
  | 2 =>
    obtain rfl := Option.some.inj hport
    exact absurd hnumber (by decide)
  | row + 3 => cases hname

theorem describesRow_iff (s : Setting) : s.DescribesRow ↔ s.populated = true ∧ s.InTable := by
  refine ⟨fun h => ?_, fun h => describesRow_of_inTable h.1 h.2⟩
  obtain ⟨row, name, port, hname, hport, hasPort, htransport⟩ := h
  have hpopulated : s.populated = true := by
    by_contra hempty
    have hnone : s.port = none := by
      unfold Setting.port mPorts
      simp [hempty]
    rw [hnone] at hasPort
    cases hasPort
  refine ⟨hpopulated, ?_⟩
  by_contra hout
  rw [port_of_not_inTable hout, if_pos hpopulated] at hasPort
  rw [tcpOrUdp_of_not_inTable hout] at htransport
  exact no_row_tcp_1194 hname hport (Option.some.inj hasPort) htransport.symm

/-- After any calls, the port and the transport describe one row exactly where some call
has filled the table and the stored index is that of a row. -/
theorem protocol_described_iff (stored : Setting) (calls : List Call) :
    (run call (constructed stored) calls).DescribesRow ↔
      (run call (constructed stored) calls).populated = true ∧
        (run call (constructed stored) calls).InTable :=
  describesRow_iff _

/-- The first start finds no index, and has the port of a UDP row and TCP. -/
theorem first_start_describes_no_row : ¬∀ (stored : Setting) (calls : List Call),
    (run call (constructed stored) calls).DescribesRow := by
  intro h
  have hfresh := (describesRow_iff _).mp (h fresh [.loadProtocol 2])
  exact absurd hfresh.2 (by decide)

/-- The stored name, empty where none is stored. -/
def protocolStr (s : Setting) : QString := (s.dd_Protocol_str.map (·.toString)).getD []

/-- The stored index is that of a row, and the stored name is that of the same row. -/
def Matches (s : Setting) : Prop :=
  ∃ (row : ℕ) (name : QString), gs_protocols[row]? = some name ∧ s.currentProtocol = row ∧
    s.protocolStr = name

/-- What `loadProtocol` is for: a row is selected, and one that was selected is kept. -/
def Establishes (rand : ℕ) (s : Setting) : Prop :=
  (s.loadProtocol rand).1.Matches ∧
    (s.Matches → (s.loadProtocol rand).1.currentProtocol = s.currentProtocol ∧
      (s.loadProtocol rand).1.protocolStr = s.protocolStr)

/-- It selects a row just where one was selected: what it looks up is never stored. -/
theorem loadProtocol_establishes_iff (rand : ℕ) (s : Setting) :
    s.Establishes rand ↔ s.Matches := by
  have hkept : (s.loadProtocol rand).1.Matches ↔ s.Matches := by
    rw [loadProtocol_eq]
    exact Iff.rfl
  refine ⟨fun h => hkept.mp h.1, fun h => ⟨hkept.mpr h, fun _ => ?_⟩⟩
  rw [loadProtocol_eq]
  exact ⟨rfl, rfl⟩

/-- Where nothing is stored, nothing is selected. -/
theorem loadProtocol_selects_nothing : ¬∀ (rand : ℕ) (s : Setting), s.Establishes rand := by
  intro h
  obtain ⟨row, name, -, hrow, -⟩ := (h 0 fresh).1
  have hnone : (fresh.loadProtocol 0).1.currentProtocol = -1 := rfl
  omega

end CeloVpn.Client.Setting
