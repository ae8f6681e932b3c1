import CeloVpn.Library.Framing
import CeloVpn.Library.Latin1
import CeloVpn.Service.LogLines
import CeloVpn.Service.Templates

/-!
# The DNS options of a launch

The servers for DNS come from a client. They stand in the config file in front of the
template, and in the arguments of openvpn, or in neither where the template mentions DNS
itself; and whatever the client sends, each of them is one line and one argument.
-/
namespace CeloVpn.Service
open Runs OpenvpnManager

/-- Some line of the template contains `DNS`. -/
def HasDNS (template : QByteArray) : Prop :=
  ∃ line ∈ template.splitOn 10, QString.toLatin1 "DNS".toList <:+: line

instance (template : QByteArray) : Decidable (HasDNS template) :=
  inferInstanceAs (Decidable (∃ line ∈ template.splitOn 10, QString.toLatin1 "DNS".toList <:+: line))

/-- The servers to push: those that are given, unless the template has its own. -/
def dnsValues (dns1 dns2 : QString) (template : QByteArray) : List QString :=
  if HasDNS template then [] else [dns1, dns2].filter fun v => v ≠ []

/-- The line of the config file that pushes a server. -/
def pushLine (v : QString) : QString := "push \"dhcp-option DNS ".toList ++ v ++ "\"".toList

/-- The servers in the arguments of openvpn. -/
def dhcpOptions : List QString → List QString
  | option :: type :: v :: args =>
    if option = "--dhcp-option".toList ∧ type = "DNS".toList then v :: dhcpOptions args
    else dhcpOptions (type :: v :: args)
  | _ => []

/-- The arguments have these servers, and the lines of the config file are one for each of
them and those of the template, all of them ended. -/
structure PushesDNS (values args : List QString) (config template : QByteArray) : Prop where
  arguments : dhcpOptions args = values
  lines : Framing.lines 10 config =
    (values.map fun v => QString.toLatin1 (pushLine v)) ++ template.splitOn 10
  ended : Framing.rest 10 config = []

/-- Only a server could break its line. -/
theorem newline_mem_pushLine {v : QString} (h : '\n' ∈ pushLine v) : '\n' ∈ v := by
  rcases List.mem_append.mp h with hfront | hend
  · rcases List.mem_append.mp hfront with hword | hv
    · exact absurd hword (by decide)
    · exact hv
  · exact absurd hend (by decide)

theorem dhcpOptions_cons_of_ne {option : QString} (h : option ≠ "--dhcp-option".toList)
    (args : List QString) : dhcpOptions (option :: args) = dhcpOptions args := by
  match args with
  | [] => rfl
  | [_] => rfl
  | type :: v :: args =>
    have hother : ¬(option = "--dhcp-option".toList ∧ type = "DNS".toList) := fun hand => h hand.1
    rw [dhcpOptions, if_neg hother]

theorem dhcpOptions_cons_of_next {option type : QString} (h : type ≠ "DNS".toList)
    (args : List QString) : dhcpOptions (option :: type :: args) = dhcpOptions (type :: args) := by
  match args with
  | [] => rfl
  | v :: args =>
    have hother : ¬(option = "--dhcp-option".toList ∧ type = "DNS".toList) := fun hand => h hand.2
    rw [dhcpOptions, if_neg hother]

theorem dhcpOptions_flatMap (values : List QString) :
    dhcpOptions (values.flatMap fun v => ["--dhcp-option".toList, "DNS".toList, v]) = values := by
  induction values with
  | nil => rfl
  | cons v values ih =>
    rw [List.flatMap_cons]
    change dhcpOptions ("--dhcp-option".toList :: "DNS".toList :: v :: values.flatMap _) = _
    rw [dhcpOptions, if_pos ⟨rfl, rfl⟩, ih]

namespace OpenvpnManager
variable (host : Host) (w : World) (m : OpenvpnManager)

/-- The servers the arguments are given. -/
def dnsGiven (m : OpenvpnManager) : List QString :=
  if m.mTemplateHasDNSOptions then [] else [m.mDNS1, m.mDNS2].filter fun v => v ≠ []

/-- No other argument is taken for one of them, whatever the paths and the port are. -/
theorem dhcpOptions_getOpenvpnArgs : dhcpOptions (m.getOpenvpnArgs host) = m.dnsGiven := by
  have hoptions : (if m.mTemplateHasDNSOptions then [] else
      (if m.mDNS1.isEmpty then [] else ["--dhcp-option".toList, "DNS".toList, m.mDNS1]) ++
      (if m.mDNS2.isEmpty then [] else ["--dhcp-option".toList, "DNS".toList, m.mDNS2])) =
        m.dnsGiven.flatMap fun v => ["--dhcp-option".toList, "DNS".toList, v] := by
    unfold dnsGiven
    cases m.mTemplateHasDNSOptions with
    | true => rfl
    | false => cases m.mDNS1 <;> cases m.mDNS2 <;> rfl
  unfold getOpenvpnArgs
  rw [hoptions]
  dsimp only
  -- each of the others is no `--dhcp-option`, or what follows it is not `DNS`
  cases host.platform <;>
    simp (disch := decide) only [List.cons_append, List.nil_append, if_true, if_false, reduceCtorEq,
      dhcpOptions_cons_of_ne, dhcpOptions_cons_of_next, dhcpOptions_flatMap]

/-- A template of ASCII mentions DNS where a line of it does. -/
theorem mentionsDNS_iff {bytes : QByteArray} (h : ∀ b ∈ bytes, 0 < b ∧ b < 0x80) :
    mentionsDNS bytes = true ↔ HasDNS bytes := by
  have hname : "DNS".toList = QString.ofLatin1 (QString.toLatin1 "DNS".toList) := rfl
  have hline : ∀ line, (QString.ofLatin1 line).contains "DNS".toList = true ↔
      QString.toLatin1 "DNS".toList <:+: line := by
    intro line
    rw [QString.contains_iff]
    constructor
    · intro hinfix
      obtain ⟨l, hl, heq⟩ := List.infix_map_iff.mp hinfix
      rw [hname] at heq
      rwa [QString.ofLatin1_injective heq]
    · intro hinfix
      have hmap := hinfix.map fun b : UInt8 => Char.ofNat b.toNat
      exact hmap
  rw [mentionsDNS, QString.ofBytes_of_ascii h, QString.splitOn_ofLatin1, List.any_map,
    List.any_eq_true, HasDNS]
  exact exists_congr fun line => and_congr_right fun _ => hline line

/-- A template of ASCII stands in the file line by line. -/
theorem toLatin1_filteredLines {bytes : QByteArray} (h : ∀ b ∈ bytes, 0 < b ∧ b < 0x80) :
    QString.toLatin1 (filteredLines bytes) = Framing.unlines 10 (bytes.splitOn 10) := by
  have htext : filteredLines bytes =
      QString.ofLatin1 (Framing.unlines 10 (bytes.splitOn 10)) := by
    rw [filteredLines, QString.ofBytes_of_ascii h, QString.splitOn_ofLatin1, List.flatMap_map,
      Framing.unlines, QString.ofLatin1, List.map_flatMap]
    refine congrArg (List.flatMap · _) (funext fun line => ?_)
    rw [List.map_append]
    rfl
  rw [htext, QString.toLatin1_ofLatin1]

/-- Elsewhere than on Windows only the servers stand in front of the template, a line
each. -/
theorem dnsLines_eq (h : host.platform ≠ .windows) : m.dnsLines host w =
    Framing.unlines 10 (([m.mDNS1, m.mDNS2].filter fun v => v ≠ []).map
      fun v => QString.toLatin1 (pushLine v)) := by
  have hpush : ∀ v, pushDNS v =
      Framing.unlines 10 (([v].filter fun v => v ≠ []).map
        fun v => QString.toLatin1 (pushLine v)) := by
    intro v
    cases v with
    | nil => rfl
    | cons c v =>
      have hline : "push \"dhcp-option DNS ".toList ++ (c :: v) ++ "\"\n".toList =
          pushLine (c :: v) ++ ['\n'] :=
        (List.append_assoc ("push \"dhcp-option DNS ".toList ++ (c :: v)) "\"".toList ['\n']).symm
      simp only [pushDNS, List.isEmpty_cons, Bool.false_eq_true, if_false, hline,
        QString.toLatin1_append, List.filter_cons, List.filter_nil, ne_eq, reduceCtorEq,
        not_false_eq_true, decide_true, if_true, List.map_singleton, Framing.unlines,
        List.flatMap_singleton]
      rfl
  have hboth : [m.mDNS1, m.mDNS2].filter (fun v => decide (v ≠ [])) =
      [m.mDNS1].filter (fun v => decide (v ≠ [])) ++
        [m.mDNS2].filter fun v => decide (v ≠ []) :=
    List.filter_append [m.mDNS1] [m.mDNS2]
  have hwindows : ¬(m.mFixDNS = true ∧ host.platform = .windows ∧ w.windows10 = true) :=
    fun hand => h hand.2.1
  rw [dnsLines, if_neg hwindows, List.nil_append, hpush, hpush, hboth, List.map_append,
    Framing.unlines, Framing.unlines, Framing.unlines, List.flatMap_append]

/-- What is written, where it is. -/
theorem writeConfigFile_eq (hopens : w.configOpens = true) {template : Template}
    (htemplate : m.mOvpnTemplate m.currentKey = some template) :
    (m.writeConfigFile host w).2 =
      { m with
        mTemplateHasDNSOptions := mentionsDNS template.bytes
        configFile := (if mentionsDNS template.bytes then [] else m.dnsLines host w) ++
          (filteredLines template.bytes).toLatin1 } := by
  have hkey : currentKey { m with configFile := [] } = m.currentKey := rfl
  unfold writeConfigFile
  simp only [hopens, hkey, htemplate, Bool.not_true, Bool.false_eq_true, if_false]
  rfl

/-- The file and the arguments agree, whatever was found in the template. -/
theorem pushesDNS_writeConfigFile (hplatform : host.platform ≠ .windows)
    (hopens : w.configOpens = true) {template : Template}
    (htemplate : m.mOvpnTemplate m.currentKey = some template)
    (hascii : ∀ b ∈ template.bytes, 0 < b ∧ b < 0x80) (h1 : '\n' ∉ m.mDNS1) (h2 : '\n' ∉ m.mDNS2) :
    PushesDNS (dnsValues m.mDNS1 m.mDNS2 template.bytes)
      ((m.writeConfigFile host w).2.getOpenvpnArgs host) (m.writeConfigFile host w).2.configFile
      template.bytes := by
  have hmentions := mentionsDNS_iff hascii
  have hfile : (m.writeConfigFile host w).2.configFile = Framing.unlines 10
      (((dnsValues m.mDNS1 m.mDNS2 template.bytes).map fun v => QString.toLatin1 (pushLine v)) ++
        template.bytes.splitOn 10) := by
    rw [writeConfigFile_eq host w m hopens htemplate, Framing.unlines, List.flatMap_append,
      dnsValues]
    dsimp only
    rw [toLatin1_filteredLines hascii]
    by_cases h : HasDNS template.bytes
    · rw [if_pos h, if_pos (hmentions.mpr h)]
      rfl
    · rw [if_neg h, if_neg (mt hmentions.mp h), dnsLines_eq host w m hplatform]
      rfl
  have hvalues : ∀ v ∈ dnsValues m.mDNS1 m.mDNS2 template.bytes, '\n' ∉ v := by
    intro v hv
    have hgiven : v ∈ [m.mDNS1, m.mDNS2] := by
      unfold dnsValues at hv
      split_ifs at hv
      · cases hv
      · exact List.mem_of_mem_filter hv
    rcases List.mem_pair.mp hgiven with rfl | rfl
    · exact h1
    · exact h2
  have hlines : ∀ line ∈ ((dnsValues m.mDNS1 m.mDNS2 template.bytes).map
      fun v => QString.toLatin1 (pushLine v)) ++ template.bytes.splitOn 10, 10 ∉ line := by
    intro line hline
    rcases List.mem_append.mp hline with hpushed | htemplate
    · obtain ⟨v, hv, rfl⟩ := List.mem_map.mp hpushed
      exact fun hmem => hvalues v hv (newline_mem_pushLine ((QString.newline_mem_toLatin1 _).mp hmem))
    · exact Framing.not_mem_of_mem_splitOn line htemplate
  refine ⟨?_, ?_, ?_⟩
  · rw [dhcpOptions_getOpenvpnArgs, writeConfigFile_eq host w m hopens htemplate, dnsGiven,
      dnsValues]
    by_cases h : HasDNS template.bytes
    · rw [if_pos h, if_pos (hmentions.mpr h)]
    · rw [if_neg h, if_neg (mt hmentions.mp h)]
  · rw [hfile, Framing.lines_unlines hlines]
  · rw [hfile, Framing.rest_unlines hlines]

/-- Elsewhere than on Windows nothing comes before the launch, and it takes what
`writeConfigFile` made up. -/
theorem moves_continueConnecting {A : Allowed} (hplatform : host.platform ≠ .windows)
    (h : m.CanLaunch host w) {template : Template}
    (htemplate : m.mOvpnTemplate m.currentKey = some template) :
    Moves A (m.control.note (.launched ((m.writeConfigFile host w).2.getOpenvpnArgs host)
      (m.writeConfigFile host w).2.configFile (some template)))
      (m.continueConnecting host w).control := by
  obtain ⟨hwritten, hexception⟩ := h
  have hfailure := hexception.resolve_left hplatform
  have hcontrol := (writeConfigFile_written host w m hwritten).1
  have hused : (m.writeConfigFile host w).2.launchData.2 = some template := by
    rw [writeConfigFile_fst, Bool.and_eq_true] at hwritten
    rw [writeConfigFile_eq host w m hwritten.1 htemplate]
    exact htemplate
  have hlogged : ∀ (m' : OpenvpnManager) s t args,
      Moves A (m'.control.note (.launched args m'.launchData.1 m'.launchData.2))
        (launchDaemon host w args ((m'.serviceLog s).serviceLog t)).control :=
    fun m' s t args =>
      moves_launchDaemon (A := A) host w ((m'.serviceLog s).serviceLog t) hfailure args
  rw [← hcontrol, ← hused]
  unfold continueConnecting
  dsimp only
  rw [hwritten, Bool.not_true, if_neg Bool.false_ne_true, control_serviceLog]
  cases hother : host.platform with
  | windows => exact absurd hother hplatform
  | linux => exact hlogged _ _ _ _
  | darwin => exact hlogged _ _ _ _

end OpenvpnManager

/-- The manager, and the object of the last `cmdStart`. -/
structure DnsSession where
  manager : OpenvpnManager
  object : QJsonObject

namespace DnsSession
variable (host : Host)

/-- The object an event starts an attempt with. -/
def startedWith (m : OpenvpnManager) : Callback → Option QJsonObject
  | .command client _ jObj =>
    if m.connections.any (·.id == client) then
      if (jObj.value "cmd".toList).toInt = cmdStart then some jObj else none
    else none
  | _ => none

def step (t : DnsSession) (e : Event) : DnsSession where
  manager := t.manager.step host e
  object := (startedWith t.manager e.callback).getD t.object

def initial (u : Indeterminate) : DnsSession := ⟨.initial u, []⟩

/-- A server of the last `cmdStart`, without its line breaks. -/
def given (t : DnsSession) (key : String) : QString :=
  (t.object.value key.toList).toString.removeLineBreaks

/-- Every launch that uses a template of ASCII pushes the servers of the last
`cmdStart`. -/
def Pushes (t : DnsSession) (e : Event) : Prop :=
  ∀ args config template, .launched args config template ∈ acts host t.manager e →
    ∃ used ∈ template, (∀ b ∈ used.bytes, 0 < b ∧ b < 0x80) →
      PushesDNS (dnsValues (t.given "dns1") (t.given "dns2") used.bytes) args config used.bytes

/-- The manager has the servers of the last `cmdStart`. -/
def Current (t : DnsSession) : Prop :=
  t.manager.mDNS1 = t.given "dns1" ∧ t.manager.mDNS2 = t.given "dns2"

theorem startCall_eq (m : OpenvpnManager) (callback : Callback) :
    m.startCall callback = (startedWith m callback).map attemptOf := by
  cases callback with
  | command client line jObj =>
    dsimp only [startCall, startedWith]
    split_ifs <;> rfl
  | _ => rfl

theorem step_current {t : DnsSession} (e : Event) (h : t.Current) : (t.step host e).Current := by
  have hcall := startCall_eq t.manager e.callback
  unfold Current step given
  dsimp only
  cases hobject : startedWith t.manager e.callback with
  | some jObj =>
    rw [hobject] at hcall
    have hsettings := congrArg Settings.attempt (settings_of_start host t.manager hcall)
    exact ⟨congrArg Attempt.dns1 hsettings, congrArg Attempt.dns2 hsettings⟩
  | none =>
    rw [hobject] at hcall
    have hsettings := (settings_of_no_start host t.manager hcall).1
    obtain ⟨port, hport⟩ :=
      Settings.foldl_readLine (t.manager.parses e.callback) t.manager.settings
    rw [hport] at hsettings
    exact ⟨(congrArg Attempt.dns1 hsettings).trans h.1, (congrArg Attempt.dns2 hsettings).trans h.2⟩

theorem newline_notMem_given (t : DnsSession) (key : String) : '\n' ∉ t.given key := by
  intro hmem
  exact absurd (List.of_mem_filter hmem) (by decide)

theorem pushes (hplatform : host.platform ≠ .windows) {t : DnsSession} (h : t.Current)
    (e : Event) : t.Pushes host e := by
  intro args config template hlaunch
  cases hreply : t.manager.finishing e.callback with
  | none =>
    have hnone := acts_of_no_success host (by rw [hreply]; exact nofun) _ hlaunch
    cases hnone
  | some r =>
    cases hfailed : r.failed with
    | true =>
      have hnone := acts_of_no_success host (by simpa [hreply] using hfailed) _ hlaunch
      cases hnone
    | false =>
      obtain ⟨request, bytes, hstep⟩ := step_of_success host hreply hfailed
      set m := t.manager.supplied r request bytes with hm
      by_cases hcan : m.CanLaunch host e.world
      · obtain ⟨hopens, hsome⟩ := Bool.and_eq_true_iff.mp
          ((writeConfigFile_fst host e.world m).symm.trans hcan.1)
        obtain ⟨used, hused⟩ := Option.isSome_iff_exists.mp hsome
        have hmoves := moves_continueConnecting (A := { Allowed.any with launch := False })
          host e.world m hplatform hcan hused
        rw [← hstep] at hmoves
        obtain ⟨new, hnew, hnone⟩ := Control.adds_none_of_moves id hmoves
        rw [acts_eq host (hnew.trans (List.append_cons _ _ _))] at hlaunch
        rcases List.mem_append.mp hlaunch with hother | hlaunch
        · cases hnone _ hother
        · obtain ⟨rfl, rfl, rfl⟩ := Act.launched.inj (List.mem_singleton.mp hlaunch)
          refine ⟨used, rfl, fun hascii => ?_⟩
          rw [← h.1, ← h.2]
          refine pushesDNS_writeConfigFile host e.world m hplatform hopens hused hascii ?_ ?_
          · exact h.1 ▸ t.newline_notMem_given "dns1"
          · exact h.2 ▸ t.newline_notMem_given "dns2"
      · have hnone := (quiet_of_fails host hstep rfl hcan _ hlaunch).1
        cases hnone

/-- In every run each launch on a platform other than Windows pushes the servers of the
last `cmdStart`, in the config file and in the arguments alike, and adds nothing else to
the template. -/
theorem launches_push (hplatform : host.platform ≠ .windows) (u : Indeterminate)
    (es : List Event) : Meets (step host) (Pushes host) (initial u) es := by
  have hcurrent : Throughout (step host) Current (initial u) es :=
    throughout_of_forall (C := fun _ => True) (fun t e _ h => step_current host e h) ⟨rfl, rfl⟩
      fun _ _ => trivial
  exact hcurrent.meets fun t e h => pushes host hplatform h e

/-- A start with a server that has a line of its own. -/
def startWithLine : List Event :=
  [⟨.quiet 0, .connectionOpened⟩,
    ⟨.quiet 0, .send 0 (("dns1".toList, .string "10.8.0.1\nup /tmp/x".toList) ::
      startObject 7 "443" "celo.example/7.ovpn")⟩,
    ⟨.quiet 1000, .templateFinished 0 (QString.toLatin1 "dev tun".toList)⟩]

/-- It stays one line of the config file. -/
theorem launches_push_one_line :
    (Runs.run (step (.on .linux)) (initial .zero) startWithLine).manager.history.filterMap
        (fun a => a.launch.map Prod.fst) =
      [QString.toLatin1 "push \"dhcp-option DNS 10.8.0.1up /tmp/x\"\ndev tun\n".toList] ∧
    Meets (step (.on .linux)) (Pushes (.on .linux)) (initial .zero) startWithLine :=
  ⟨by decide +kernel, launches_push (.on .linux) (by decide) .zero startWithLine⟩

end DnsSession
end CeloVpn.Service
