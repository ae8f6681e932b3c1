import CeloVpn.Client.Desktop
import CeloVpn.Library.Members
import CeloVpn.Service.Settings
import Mathlib.Data.List.Nodup

/-!
# What the service makes of a client's commands

The client gives an object to `sendCommand`, and the service looks its members up in what
it could parse of the bytes. As long as the strings are ASCII it finds what was given, so
that a command has the effect it was sent for, whatever portions the bytes arrive in.
-/
namespace CeloVpn
namespace QJsonValue

/-- The value is written as itself: it is there, and a number is whole. -/
def IsWritten (v : QJsonValue) : Prop := ofJson v.toJson = v

end QJsonValue

namespace QJsonObject
variable {o : QJsonObject}

/-- Each member is of another key, and its value is written as itself. -/
structure IsSendable (o : QJsonObject) : Prop where
  nodup : (o.map Prod.fst).Nodup
  written : ∀ m ∈ o, m.2.IsWritten

/-- Keys and strings are ASCII. -/
def IsAscii (o : QJsonObject) : Prop :=
  ∀ m ∈ o, (∀ c ∈ m.1, QString.isAscii c = true) ∧ ∀ c ∈ m.2.toString, QString.isAscii c = true

theorem lookup_eq_none {k : QString} (h : k ∉ o.map Prod.fst) : o.lookup k = none := by
  induction o with
  | nil => rfl
  | cons m o ih =>
    rw [List.map_cons, List.mem_cons, not_or] at h
    rw [List.lookup_cons, beq_eq_false_iff_ne.mpr h.1]
    exact ih h.2

theorem lookup_reverse (h : (o.map Prod.fst).Nodup) (k : QString) :
    o.reverse.lookup k = o.lookup k := by
  induction o with
  | nil => rfl
  | cons m o ih =>
    obtain ⟨hfresh, hrest⟩ := List.nodup_cons.mp h
    rw [List.reverse_cons, List.lookup_append, ih hrest]
    by_cases hk : k = m.1
    · rw [hk, lookup_eq_none hfresh]
      exact (List.lookup_cons_self.trans List.lookup_cons_self.symm)
    · have hother : ∀ rest : QJsonObject, (m :: rest).lookup k = rest.lookup k := by
        intro rest
        rw [List.lookup_cons, beq_eq_false_iff_ne.mpr hk]
      rw [hother, hother]
      exact Option.or_none

theorem lookup_map {α β : Type*} (f : α → β) (ms : List (QString × α)) (k : QString) :
    (ms.map fun m => (m.1, f m.2)).lookup k = (ms.lookup k).map f := by
  induction ms with
  | nil => rfl
  | cons m ms ih =>
    rw [List.map_cons, List.lookup_cons, List.lookup_cons]
    cases k == m.1
    · exact ih
    · rfl

/-- Where values are written as themselves, what was written is found again. -/
theorem value_ofMembers (h : o.IsSendable) (k : QString) :
    (ofMembers o.toMembers).value k = o.value k := by
  have hwritten : (o.lookup k).map (fun v => QJsonValue.ofJson v.toJson) = o.lookup k := by
    cases hlookup : o.lookup k with
    | none => rfl
    | some v =>
      have hmem : ∃ m ∈ o, m.2 = v := by
        obtain ⟨before, after, hsplit, -⟩ := List.lookup_eq_some_iff.mp hlookup
        exact ⟨(k, v), by rw [hsplit]; simp, rfl⟩
      obtain ⟨m, hm, rfl⟩ := hmem
      exact congrArg some (h.written m hm)
  have hreversed : (o.map fun m => (m.1, m.2.toJson)).reverse =
      o.reverse.map fun m => (m.1, m.2.toJson) := List.map_reverse.symm
  rw [value, value, ofMembers, lookup_map, toMembers, Json.lookup_collect, hreversed, lookup_map,
    lookup_reverse h.nodup, Option.map_map]
  exact congrArg (·.getD .undefined) hwritten

end QJsonObject

namespace Wire
variable {o : QJsonObject}

theorem normalize_toJson (v : QJsonValue) : v.toJson.normalize = v.toJson := by
  cases v <;> rfl

/-- The members of an object as they are written are in normal form. -/
theorem normalize_toMembers (o : QJsonObject) :
    (Json.object o.toMembers).normalize = .object o.toMembers := by
  have hvalues : ∀ m ∈ o.toMembers, m.2.normalize = m.2 := by
    intro m hm
    obtain ⟨m', -, rfl⟩ := List.mem_map.mp (Json.mem_collect hm)
    exact normalize_toJson m'.2
  have hmembers : Json.normalizeMembers o.toMembers = o.toMembers := by
    rw [Json.normalizeMembers_eq]
    refine (List.map_congr_left fun m hm => ?_).trans (List.map_id _)
    rw [hvalues m hm]
    rfl
  have hsorted : Json.Ascending o.toMembers := Json.ascending_collect _
  rw [Json.normalize, hmembers, Json.collect_of_ascending hsorted]

theorem mem_strings {s : QString} {ms : List (QString × Json ℤ)}
    (h : s ∈ Json.strings (.object ms)) : ∃ m ∈ ms, s = m.1 ∨ s ∈ Json.strings m.2 := by
  induction ms with
  | nil => cases h
  | cons m ms ih =>
    rcases List.mem_cons.mp h with rfl | h
    · exact ⟨m, List.mem_cons_self, .inl rfl⟩
    · rcases List.mem_append.mp h with hvalue | hrest
      · exact ⟨m, List.mem_cons_self, .inr hvalue⟩
      · obtain ⟨m', hm', hs⟩ := ih hrest
        exact ⟨m', List.mem_cons_of_mem _ hm', hs⟩

/-- An object of ASCII strings arrives as it was written. -/
theorem received_eq (h : o.IsAscii) : received o = .ofMembers o.toMembers := by
  have hascii : JsonObject.IsAscii ⟨o.toMembers, normalize_toMembers o⟩ := by
    intro s hs
    obtain ⟨m, hm, hin⟩ := mem_strings hs
    obtain ⟨m', hm', rfl⟩ := List.mem_map.mp (Json.mem_collect hm)
    rcases hin with rfl | hin
    · exact (h m' hm').1
    · obtain ⟨k, v⟩ := m'
      cases v with
      | string t =>
        obtain rfl := List.mem_singleton.mp hin
        exact (h (k, .string s) hm').2
      | _ => cases hin
  exact congrArg QJsonObject.ofMembers
    (((⟨o.toMembers, normalize_toMembers o⟩ : JsonObject ℤ).object_eq_iff Channel.latin1
      Json.decimal).mpr ⟨hascii, o.isShallow (normalize_toMembers o)⟩)

/-- Whatever is looked up in it is what was given. -/
theorem value_received (hsend : o.IsSendable) (hascii : o.IsAscii) (k : QString) :
    (received o).value k = o.value k := by
  rw [received_eq hascii, QJsonObject.value_ofMembers hsend]

end Wire

namespace Service
open Framing Runs

/-- What a client's commands leave in the manager for an attempt. -/
structure Held where
  credentials : Credentials
  attempt : OpenvpnManager.Attempt
  /-- How often `start()` was called. -/
  starts : ℕ

/-- What a command makes of it. -/
def Held.take (c : Held) (jObj : QJsonObject) : Held :=
  if (jObj.value "cmd".toList).toInt = cmdSetCredentials then
    { c with credentials :=
      ⟨(jObj.value "vpnusername".toList).toString, (jObj.value "vpnpassword".toList).toString⟩ }
  else if (jObj.value "cmd".toList).toInt = cmdStart then
    { c with attempt := OpenvpnManager.attemptOf jObj, starts := c.starts + 1 }
  else c

/-- All of it but the port, which a failed bind moves on. -/
def OpenvpnManager.Attempt.withoutPort (a : OpenvpnManager.Attempt) : OpenvpnManager.Attempt :=
  { a with port := [] }

def Held.withoutPort (c : Held) : Held := { c with attempt := c.attempt.withoutPort }

theorem Held.withoutPort_take (c : Held) (jObj : QJsonObject) :
    (c.take jObj).withoutPort = (c.withoutPort.take jObj).withoutPort := by
  unfold take
  split_ifs <;> rfl

/-- Only what is looked up in an object counts. -/
theorem Held.take_congr (c : Held) {o o' : QJsonObject} (h : ∀ k, o.value k = o'.value k) :
    c.take o = c.take o' := by
  simp only [take, OpenvpnManager.attemptOf, h]

/-- The attempt is that of the last start. -/
theorem Held.attempt_foldl (objects : List QJsonObject) (c : Held) :
    (objects.foldl take c).attempt =
      ((objects.filter fun o => (o.value "cmd".toList).toInt = cmdStart).getLast?.map
        OpenvpnManager.attemptOf).getD c.attempt := by
  induction objects using List.reverseRecOn with
  | nil => rfl
  | append_singleton objects o ih =>
    rw [List.foldl_append, List.filter_append]
    by_cases hstart : (o.value "cmd".toList).toInt = cmdStart
    · have hother : (o.value "cmd".toList).toInt ≠ cmdSetCredentials := by
        rw [hstart]
        decide
      rw [List.filter_singleton, decide_eq_true hstart, cond_true, List.getLast?_concat,
        List.foldl_cons, List.foldl_nil, take, if_neg hother, if_pos hstart]
      rfl
    · rw [List.filter_singleton, decide_eq_false hstart, cond_false, List.append_nil, ← ih,
        List.foldl_cons, List.foldl_nil, take, if_neg hstart]
      split_ifs <;> rfl

namespace OpenvpnManager

def held (m : OpenvpnManager) : Held := ⟨m.credentials, m.settings.attempt, m.starts⟩

theorem held_command (host : Host) (w : World) (m : OpenvpnManager) (client : ℕ)
    (line : QByteArray) (jObj : QJsonObject) :
    (m.command host w client line jObj).held = m.held.take jObj := by
  have hsettings := (keeps_command host w m client line jObj).1
  have hheld : ∀ m : OpenvpnManager, m.held =
      ⟨m.settings.credentials, m.settings.attempt, m.settings.starts⟩ := fun _ => rfl
  rw [hheld, hsettings, Settings.command, Held.take]
  split_ifs with hset hdown hstart hstart
  · rfl
  · exact absurd (hdown.symm.trans hstart) (by decide)
  · rfl
  · rfl
  · rfl

end OpenvpnManager

/-- The object of a line. -/
def parse (line : QByteArray) : QJsonObject :=
  .ofMembers (Wire.object (Wire.fromJson Json.decimal line))

namespace Receiving
variable (host : Host) (client : ℕ)

/-- A portion of the client's bytes arrives, or the service does something else. -/
def next (r : Receiving) : (World × QByteArray) ⊕ Event → Receiving
  | .inl d => r.deliver host parse client d
  | .inr e => { r with manager := r.manager.step host e }

/-- No other client has a command executed. -/
def Alone : (World × QByteArray) ⊕ Event → Prop
  | .inl _ => True
  | .inr e => ∀ other line jObj, e.callback ≠ .command other line jObj

/-- No bind fails, after which the manager itself takes another port. -/
def Bound (r : Receiving) : (World × QByteArray) ⊕ Event → Prop
  | .inl _ => True
  | .inr e => ∀ content, e.callback = .logFileChanged content →
      ∀ s ∈ r.manager.logLines content, bindFails s = false

/-- The portions among what happens. -/
def portions (es : List ((World × QByteArray) ⊕ Event)) : List QByteArray :=
  es.filterMap fun e => e.getLeft?.map Prod.snd

theorem run_next (r : Receiving) (es : List ((World × QByteArray) ⊕ Event)) :
    (run (next host client) r es).parsed =
      r.parsed ++ (receive 10 r.mReceiveBuffer (portions es)).1 := by
  induction es generalizing r with
  | nil => exact (List.append_nil _).symm
  | cons e es ih =>
    cases e with
    | inl d =>
      obtain ⟨hparsed, hbuffer⟩ := deliver_spec host parse client r d
      refine (ih (r.deliver host parse client d)).trans ?_
      rw [hparsed, hbuffer, List.append_assoc]
      rfl
    | inr e => exact ih { r with manager := r.manager.step host e }

/-- What else the service does moves the port on at most. -/
theorem held_step {r : Receiving} {e : Event} (h : Alone (.inr e)) :
    (r.manager.step host e).held.withoutPort = r.manager.held.withoutPort ∧
      (r.Bound (.inr e) → (r.manager.step host e).held = r.manager.held) := by
  have hheld : ∀ m : OpenvpnManager, m.held =
      ⟨m.settings.credentials, m.settings.attempt, m.settings.starts⟩ := fun _ => rfl
  rw [hheld, hheld, OpenvpnManager.step_settings host r.manager e]
  obtain ⟨w, callback⟩ := e
  cases callback with
  | command other line jObj => exact absurd rfl (h other line jObj)
  | logFileChanged content =>
    unfold OpenvpnManager.settingsAfter
    dsimp only
    split_ifs
    · refine ⟨?_, fun hbound => ?_⟩
      · obtain ⟨port, hport⟩ :=
          Settings.foldl_readLine (r.manager.logLines content) r.manager.settings
        rw [hport]
        rfl
      · rw [Settings.foldl_readLine_of_binds (hbound content rfl)]
    · exact ⟨rfl, fun _ => rfl⟩
  | _ => exact ⟨rfl, fun _ => rfl⟩

/-- Something that can be told of what is held: a command makes it of itself, and what else
the service does leaves it alone where the condition is met. -/
structure Told {α : Type*} (C : Receiving → (World × QByteArray) ⊕ Event → Prop)
    (f : Held → α) : Prop where
  take : ∀ {c c' : Held}, f c = f c' → ∀ jObj, f (c.take jObj) = f (c'.take jObj)
  step : ∀ {r e}, C r (.inr e) → f (r.manager.step host e).held = f r.manager.held

theorem told_withoutPort : Told host (fun _ => Alone) Held.withoutPort where
  take h jObj := by rw [Held.withoutPort_take, h, ← Held.withoutPort_take]
  step h := (held_step host h).1

theorem told_held : Told host (fun r e => Alone e ∧ r.Bound e) id where
  take h jObj := congrArg (fun c : Held => c.take jObj) h
  step h := (held_step host h.1).2 h.2

theorem Told.foldl {α β : Type*} {C : Receiving → (World × QByteArray) ⊕ Event → Prop}
    {f : Held → α} (h : Told host C f) (object : β → QJsonObject) (l : List β) {c c' : Held}
    (hc : f c = f c') :
    f (l.foldl (fun c b => c.take (object b)) c) =
      f (l.foldl (fun c b => c.take (object b)) c') := by
  induction l generalizing c c' with
  | nil => exact hc
  | cons b l ih => exact ih (h.take hc (object b))

/-- What is held is what the lines that were parsed leave of it. -/
theorem Told.run {α : Type*} {C : Receiving → (World × QByteArray) ⊕ Event → Prop} {f : Held → α}
    (h : Told host C f) {m : OpenvpnManager} {es : List ((World × QByteArray) ⊕ Event)}
    (hes : Meets (next host client) C (fresh m) es) :
    f (Runs.run (next host client) (fresh m) es).manager.held =
      f ((lines 10 (portions es).flatten).foldl (fun c line => c.take (parse line)) m.held) := by
  have hparsed : (Runs.run (next host client) (fresh m) es).parsed =
      lines 10 (portions es).flatten := by
    rw [run_next]
    change [] ++ (receive 10 [] (portions es)).1 = _
    rw [receive_eq 10 List.not_mem_nil]
    rfl
  have hlines : ∀ w (ls : List QByteArray) (m : OpenvpnManager),
      (ls.foldl (fun m l => m.command host w client l (parse l)) m).held =
        ls.foldl (fun c line => c.take (parse line)) m.held := by
    intro w ls
    induction ls with
    | nil => exact fun _ => rfl
    | cons l ls ih =>
      intro m
      rw [List.foldl_cons, List.foldl_cons, ih, OpenvpnManager.held_command]
  rw [← hparsed]
  refine run_of_meets (C := C) (P := fun r : Receiving => f r.manager.held =
    f (r.parsed.foldl (fun c line => c.take (parse line)) m.held)) (fun r e he hr => ?_) rfl hes
  cases e with
  | inl d =>
    rw [next, deliver, socketReadyRead, readCommands_eq host parse client d.1 _ _ rfl,
      List.foldl_append]
    exact (congrArg f (hlines _ _ _)).trans (h.foldl host parse _ hr)
  | inr e => exact (h.step he).trans hr

end Receiving

end Service

namespace Client
open Framing Runs
open Service (Held OpenvpnManager Host World Receiving)

/-- What the client has the service do, with what it finds in the settings. -/
inductive Order
  | connect (s : Surroundings)
  | disconnect
  | credentials (s : Surroundings)
  | netdown

namespace Order

/-- The object that is given to `sendCommand`. -/
def object : Order → QJsonObject
  | connect s => VPNServiceManager.startObject s
  | disconnect => [("cmd".toList, .ofInt cmdStop)]
  | credentials s => VPNServiceManager.credentialsObject s.vpnName s.vpnPassword
  | netdown => [("cmd".toList, .ofInt cmdNetdown)]

/-- What is sent of it. -/
def bytes (a : Order) : QByteArray := Wire.sendCommand Json.decimal a.object.toMembers

/-- The attempt that the settings describe. -/
def attempt (s : Surroundings) : OpenvpnManager.Attempt where
  encryption := s.encryption
  serverId := s.serverID
  server := s.serverAddress.removeLineBreaks
  port := s.port.removeLineBreaks
  templateUrl := s.template.removeLineBreaks
  localPort := s.localPort.removeLineBreaks
  tcpOrUdp := s.tcpOrUdp.removeLineBreaks
  fixDNS := s.fixDns
  dns1 := (if s.dns1.isEmpty then s.defaultDNS1 else s.dns1).removeLineBreaks
  dns2 := (if s.dns2.isEmpty then s.defaultDNS2 else s.dns2).removeLineBreaks

/-- What the order is meant to change. -/
def apply (c : Held) : Order → Held
  | connect s => { c with attempt := attempt s, starts := c.starts + 1 }
  | disconnect => c
  | credentials s => { c with credentials := ⟨s.vpnName, s.vpnPassword⟩ }
  | netdown => c

/-- The texts that the order hands over. -/
def texts : Order → List QString
  | connect s => [s.serverAddress, s.port, s.template, s.localPort, s.tcpOrUdp,
      if s.dns1.isEmpty then s.defaultDNS1 else s.dns1,
      if s.dns2.isEmpty then s.defaultDNS2 else s.dns2]
  | credentials s => [s.vpnName, s.vpnPassword]
  | _ => []

/-- The numbers that the order hands over. -/
def numbers : Order → List ℤ
  | connect s => [s.encryption, s.serverID]
  | _ => []

/-- The texts are ASCII, and the numbers have 32 bits. -/
structure IsPlain (a : Order) : Prop where
  ascii : ∀ s ∈ a.texts, ∀ c ∈ s, QString.isAscii c = true
  fits : ∀ n ∈ a.numbers, -2147483648 ≤ n ∧ n ≤ 2147483647

theorem isSendable (a : Order) : a.object.IsSendable := by
  cases a with
  | connect s =>
    have hkeys : (["cmd", "encryption", "serverid", "server", "port", "template", "localport",
        "tcporudp", "fixDNS", "dns1", "dns2"].map String.toList).Nodup := by decide
    refine ⟨hkeys, fun m hm => ?_⟩
    simp only [object, VPNServiceManager.startObject, List.mem_cons, List.not_mem_nil,
      or_false] at hm
    rcases hm with rfl | rfl | rfl | rfl | rfl | rfl | rfl | rfl | rfl | rfl | rfl <;> rfl
  | credentials s =>
    have hkeys : (["cmd", "vpnusername", "vpnpassword"].map String.toList).Nodup := by decide
    refine ⟨hkeys, fun m hm => ?_⟩
    simp only [object, VPNServiceManager.credentialsObject, List.mem_cons, List.not_mem_nil,
      or_false] at hm
    rcases hm with rfl | rfl | rfl <;> rfl
  | disconnect => exact ⟨List.nodup_singleton _, fun m hm => List.mem_singleton.mp hm ▸ rfl⟩
  | netdown => exact ⟨List.nodup_singleton _, fun m hm => List.mem_singleton.mp hm ▸ rfl⟩

/-- The members of the objects. -/
def keys : List QString :=
  ["cmd", "encryption", "serverid", "server", "port", "template", "localport", "tcporudp",
    "fixDNS", "dns1", "dns2", "vpnusername", "vpnpassword"].map String.toList

theorem isAscii_of_all {ss : List QString}
    (h : (ss.all fun s => s.all QString.isAscii) = true) :
    ∀ s ∈ ss, ∀ c ∈ s, QString.isAscii c = true :=
  fun s hs => List.all_eq_true.mp (List.all_eq_true.mp h s hs)

theorem isAscii_keys : ∀ k ∈ keys, ∀ c ∈ k, QString.isAscii c = true :=
  isAscii_of_all (by decide +kernel)

/-- An object holds the texts under these keys. -/
theorem mem_object {a : Order} {m : QString × QJsonValue} (h : m ∈ a.object) :
    m.1 ∈ keys ∧ (m.2.toString = [] ∨ m.2.toString ∈ a.texts) := by
  cases a with
  | connect s =>
    simp only [object, VPNServiceManager.startObject, List.mem_cons, List.not_mem_nil,
      or_false] at h
    rcases h with rfl | rfl | rfl | rfl | rfl | rfl | rfl | rfl | rfl | rfl | rfl <;>
      exact ⟨by simp [keys], by simp [texts, QJsonValue.toString, QJsonValue.ofInt]⟩
  | credentials s =>
    simp only [object, VPNServiceManager.credentialsObject, List.mem_cons, List.not_mem_nil,
      or_false] at h
    rcases h with rfl | rfl | rfl <;>
      exact ⟨by simp [keys], by simp [texts, QJsonValue.toString, QJsonValue.ofInt]⟩
  | disconnect => exact List.mem_singleton.mp h ▸ ⟨by simp [keys], .inl rfl⟩
  | netdown => exact List.mem_singleton.mp h ▸ ⟨by simp [keys], .inl rfl⟩

theorem IsPlain.isAscii {a : Order} (h : a.IsPlain) : a.object.IsAscii := by
  intro m hm
  obtain ⟨hkey, htext⟩ := mem_object hm
  refine ⟨isAscii_keys _ hkey, ?_⟩
  rcases htext with hnone | htext
  · rw [hnone]
    nofun
  · exact h.ascii _ htext

/-- The service reads the attempt that the settings describe. -/
theorem attemptOf_object {s : Surroundings}
    (h : ∀ n ∈ (connect s).numbers, -2147483648 ≤ n ∧ n ≤ 2147483647) :
    OpenvpnManager.attemptOf (connect s).object = attempt s := by
  have hint : ∀ n ∈ (connect s).numbers, (QJsonValue.ofInt n).toInt = n := fun n hn =>
    if_pos ⟨Rat.den_intCast n, by simpa using (h n hn).1, by simpa using (h n hn).2⟩
  have hencryption := hint s.encryption (by simp [numbers])
  have hserverID := hint s.serverID (by simp [numbers])
  have hread : OpenvpnManager.attemptOf (connect s).object =
      { attempt s with
        encryption := (QJsonValue.ofInt s.encryption).toInt
        serverId := (QJsonValue.ofInt s.serverID).toInt } := rfl
  rw [hread, hencryption, hserverID]
  rfl

/-- What the object makes of what is held is what the order is meant to. -/
theorem take_object {a : Order} (h : a.IsPlain) (c : Held) : c.take a.object = a.apply c := by
  cases a with
  | connect s =>
    change { c with
      attempt := OpenvpnManager.attemptOf (connect s).object
      starts := c.starts + 1 } = _
    rw [attemptOf_object h.fits]
    rfl
  | disconnect => rfl
  | credentials s => rfl
  | netdown => rfl

/-- What is sent is a line for each order. -/
theorem flatten_bytes (orders : List Order) :
    (orders.map bytes).flatten = unlines 10 (orders.map fun a => Wire.command a.object) := by
  have hbytes : ∀ a ∈ orders, a.bytes = Wire.command a.object ++ [10] :=
    fun a _ => Wire.written_eq Json.decimal a.object.toMembers
  rw [List.map_congr_left hbytes, unlines, List.flatMap_map, List.flatMap_def]

/-- They are read again, and what has arrived of another one is none. -/
theorem lines_flatten_bytes (orders : List Order) {cut : QByteArray} (h : 10 ∉ cut) :
    lines 10 ((orders.map bytes).flatten ++ cut) =
      orders.map fun a => Wire.command a.object := by
  have hlines : ∀ l ∈ orders.map fun a => Wire.command a.object, 10 ∉ l := by
    intro l hl
    obtain ⟨a, -, rfl⟩ := List.mem_map.mp hl
    exact Wire.newline_notMem_line Json.decimal a.object.toMembers
  rw [flatten_bytes, lines_append, lines_unlines hlines, rest_unlines hlines, List.nil_append,
    lines_of_not_mem h, List.append_nil]

/-- The lines that have arrived of what is sent. -/
theorem lines_of_arrived {orders : List Order} {stream : QByteArray}
    (h : stream <+: (orders.map bytes).flatten) : lines 10 stream =
      (orders.take (stream.count 10)).map fun a => Wire.command a.object := by
  obtain ⟨rest', hrest⟩ := h
  have hall := lines_flatten_bytes orders List.not_mem_nil
  rw [List.append_nil] at hall
  have hprefix : lines 10 stream <+: orders.map fun a => Wire.command a.object := by
    rw [← hall, ← hrest, lines_append]
    exact List.prefix_append _ _
  rw [List.map_take, ← length_lines]
  exact List.prefix_iff_eq_take.mp hprefix

/-- What is held is what the objects leave of it whose lines have arrived. -/
theorem held_of_lines {α : Type*} {host : Host}
    {C : Receiving → (World × QByteArray) ⊕ Service.Event → Prop} {f : Held → α}
    (h : Receiving.Told host C f) (client : ℕ) (m : OpenvpnManager) {orders : List Order}
    (hascii : ∀ a ∈ orders, a.object.IsAscii) {es : List ((World × QByteArray) ⊕ Service.Event)}
    (hlines : lines 10 (Receiving.portions es).flatten =
      orders.map fun a => Wire.command a.object)
    (hes : Meets (Receiving.next host client) C (.fresh m) es) :
    f (run (Receiving.next host client) (.fresh m) es).manager.held =
      f (orders.foldl (fun c a => c.take a.object) m.held) := by
  rw [h.run host client hes, hlines, List.foldl_map]
  refine congrArg f (List.foldl_ext _ _ _ fun c a ha => ?_)
  exact c.take_congr (Wire.value_received a.isSendable (hascii a ha))

/-- At every moment, whatever portions the bytes have arrived in and whatever else the
service does in between, as long as no other client commands it: it holds the credentials
that the last order with credentials gave, and the attempt that the last connect described,
among the orders that have arrived whole, and it was started once for each connect. The port
of the attempt is the one described unless a bind has failed. -/
theorem orders_taken (host : Host) (client : ℕ) (m : OpenvpnManager) {orders : List Order}
    (hplain : ∀ a ∈ orders, a.IsPlain) {es : List ((World × QByteArray) ⊕ Service.Event)}
    (hsent : (Receiving.portions es).flatten <+: (orders.map bytes).flatten)
    (halone : ∀ e ∈ es, Receiving.Alone e) :
    (run (Receiving.next host client) (.fresh m) es).manager.held.withoutPort =
        ((orders.take ((Receiving.portions es).flatten.count 10)).foldl apply m.held).withoutPort ∧
      (Meets (Receiving.next host client) Receiving.Bound (.fresh m) es →
        (run (Receiving.next host client) (.fresh m) es).manager.held =
          (orders.take ((Receiving.portions es).flatten.count 10)).foldl apply m.held) := by
  have harrived : ∀ a ∈ orders.take ((Receiving.portions es).flatten.count 10), a.IsPlain :=
    fun a ha => hplain a (List.mem_of_mem_take ha)
  have hascii : ∀ a ∈ orders.take ((Receiving.portions es).flatten.count 10), a.object.IsAscii :=
    fun a ha => (harrived a ha).isAscii
  have happly : (orders.take ((Receiving.portions es).flatten.count 10)).foldl
      (fun c a => c.take a.object) m.held =
        (orders.take ((Receiving.portions es).flatten.count 10)).foldl apply m.held :=
    List.foldl_ext _ _ _ fun c a ha => take_object (harrived a ha) c
  have hmeets : Meets (Receiving.next host client) (fun _ => Receiving.Alone) (.fresh m) es :=
    meets_iff_forall.mpr halone
  rw [← happly]
  exact ⟨held_of_lines (Receiving.told_withoutPort host) client m hascii
    (lines_of_arrived hsent) hmeets, fun hbound => held_of_lines (Receiving.told_held host) client m
      hascii (lines_of_arrived hsent) (hmeets.and hbound)⟩

/-- The credentials and the first connect of a user. -/
def firstOrders : List Order :=
  [.credentials (.server 7 "template 7"), .connect (.server 7 "template 7")]

/-- All bytes of both orders but the last one, and a tick of the state timer. -/
def ordersArriving : List ((World × QByteArray) ⊕ Service.Event) :=
  [.inl (.quiet 0, (firstOrders.map bytes).flatten.take 30), .inr ⟨.quiet 0, .stateTimer⟩,
    .inl (.quiet 0, ((firstOrders.map bytes).flatten.drop 30).dropLast)]

/-- The line break of the connect is still to come. -/
theorem connect_awaited :
    (run (Receiving.next (.on .linux) 0) (.fresh (.initial .zero)) ordersArriving).manager.held =
      { (OpenvpnManager.initial .zero).held with
        credentials := ⟨"user".toList, "secret".toList⟩ } := by
  have hplain : ∀ a ∈ firstOrders, a.IsPlain := by
    intro a ha
    simp only [firstOrders, List.mem_cons, List.not_mem_nil, or_false] at ha
    rcases ha with rfl | rfl <;> exact ⟨isAscii_of_all (by decide +kernel), by decide⟩
  have hsent : (Receiving.portions ordersArriving).flatten <+:
      (firstOrders.map bytes).flatten := by decide +kernel
  have hcount : (Receiving.portions ordersArriving).flatten.count 10 = 1 := by decide +kernel
  have halone : ∀ e ∈ ordersArriving, Receiving.Alone e := by
    intro e he
    simp only [ordersArriving, List.mem_cons, List.not_mem_nil, or_false] at he
    rcases he with rfl | rfl | rfl
    · trivial
    · exact nofun
    · trivial
  rw [(orders_taken (.on .linux) 0 (.initial .zero) hplain hsent halone).2
    ⟨trivial, nofun, trivial, trivial⟩, hcount]
  rfl

end Order
end Client
end CeloVpn
