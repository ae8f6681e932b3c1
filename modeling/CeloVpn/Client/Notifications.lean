import CeloVpn.Client.System
import CeloVpn.Library.Fragments
import CeloVpn.Library.Runs
import CeloVpn.Wire

/-!
# The notifications of the service

`VPNServiceManager::socket_readyRead` parses every delivery for itself, where the
service's `QVPNClientConnection::socket_readyRead` keeps what has no line break yet in
`mReceiveBuffer`. A notification that a delivery cuts is lost: no part of it is an
object.
-/
namespace CeloVpn.Client
open Framing

/-- What a connection of the service tells its client. -/
inductive Notice
  | status (state : VpnState)
  | stateWord (w : OpenVPNStateWord)
  | error (message : QString)
  | gotIp (ip : QString)
  | timeout

namespace Notice

/-- The notification of a signal of the service's manager. -/
def ofSignal : Service.Signal → Option Notice
  | .stateChanged state => some (.status state)
  | .stateWordChanged w => some (.stateWord w)
  | .sendError message => some (.error message)
  | .gotNewIp ip => some (.gotIp ip)
  | .timedOut => some .timeout
  | .blockOnDisconnect => none
  | .switchingPort _ => none

/-- The object given to `sendMessage`. -/
def object : Notice → QJsonObject
  | .status state =>
    [("code".toList, .ofInt notifyStatusChange), ("state".toList, .ofInt state.toInt)]
  | .stateWord w => [("code".toList, .ofInt notifyStatusWord), ("state".toList, .ofInt w.toInt)]
  | .error message => [("code".toList, .ofInt notifyError), ("message".toList, .string message)]
  | .gotIp ip => [("code".toList, .ofInt notifyGotIP), ("ip".toList, .string ip)]
  | .timeout => [("code".toList, .ofInt notifyTimeout)]

/-- A connection writes such objects and no others. -/
theorem sent_receive (c : Service.QVPNClientConnection) (signal : Service.Signal) :
    (c.receive signal).sent = c.sent ++ ((ofSignal signal).map object).toList := by
  cases signal <;> simp [ofSignal, object, Service.QVPNClientConnection.receive,
    Service.QVPNClientConnection.vpnStateChanged, Service.QVPNClientConnection.vpnStatus,
    Service.QVPNClientConnection.vpnStateWord, Service.QVPNClientConnection.vpnError,
    Service.QVPNClientConnection.gotNewIp, Service.QVPNClientConnection.timedOut,
    Service.QVPNClientConnection.sendMessage]

/-- The members of a notification. -/
def members (n : Notice) : List (QString × Json ℤ) := n.object.toMembers

/-- The state a notification reports. -/
def state? : Notice → Option VpnState
  | .status state => some state
  | _ => none

/-- The text in a notification is ASCII. -/
def IsAscii : Notice → Prop
  | .error message => ∀ c ∈ message, QString.isAscii c = true
  | .gotIp ip => ∀ c ∈ ip, QString.isAscii c = true
  | _ => True

end Notice

/-- The client's manager and the objects it has handled. -/
structure Reading where
  manager : VPNServiceManager
  handled : List (List (QString × Json ℤ))

namespace Reading

/-- One round of the loop of `socket_readyRead`, with the surroundings it finds. -/
def handle (s : ℕ → Surroundings) (r : Reading) (token : List (QString × Json ℤ) × ℕ) : Reading :=
  if token.1 = [] then r
  else
    { manager := r.manager.notified (s token.2) (QJsonObject.ofMembers token.1)
      handled := r.handled ++ [token.1] }

/-- `VPNServiceManager::socket_readyRead`. -/
def socketReadyRead (r : Reading) (d : (ℕ → Surroundings) × QByteArray) : Reading :=
  (Wire.notifications Json.decimal d.2).zipIdx.foldl (handle d.1) r

end Reading

namespace Notice

/-- The text of a notification. -/
def text (n : Notice) : QString := Json.render Json.decimal (.object n.members)

/-- The string at the end of a notification that has one. -/
def tail? : Notice → Option QString
  | .error message => some message
  | .gotIp ip => some ip
  | _ => none

/-- What stands before that string. -/
def head : Notice → QString
  | .error _ => Json.opening Json.decimal "code".toList (.number notifyError) "message".toList
  | .gotIp _ => Json.opening Json.decimal "code".toList (.number notifyGotIP) "ip".toList
  | _ => []

theorem text_eq {n : Notice} {s : QString} (h : n.tail? = some s) :
    n.text = n.head ++ (Json.escape s ++ ['"', '}']) := by
  cases n with
  | error message =>
    obtain rfl := Option.some.inj h
    exact Json.render_opening "code".toList (.number notifyError) "message".toList message
  | gotIp ip =>
    obtain rfl := Option.some.inj h
    exact Json.render_opening "code".toList (.number notifyGotIP) "ip".toList ip
  | _ => cases h

theorem isAscii_head (n : Notice) : ∀ c ∈ n.head, QString.isAscii c = true := by
  cases n with
  | error message =>
    exact show ∀ c ∈ Json.opening Json.decimal _ _ _, _ from
      List.all_eq_true.mp (by decide +kernel)
  | gotIp ip =>
    exact show ∀ c ∈ Json.opening Json.decimal _ _ _, _ from
      List.all_eq_true.mp (by decide +kernel)
  | _ => nofun

/-- The texts without a string, all of them. -/
theorem text_of_tail_none {n : Notice} (h : n.tail? = none) :
    (∀ c ∈ n.text, QString.isAscii c = true) ∧
      (∀ k < n.text.length, (Json.readDocument Json.decimal (n.text.take k)).isNone = true) ∧
      '{' ∉ n.text.tail := by
  cases n with
  | status state =>
    cases state <;> exact ⟨List.all_eq_true.mp (by decide +kernel), by decide +kernel⟩
  | stateWord w => cases w <;> exact ⟨List.all_eq_true.mp (by decide +kernel), by decide +kernel⟩
  | error message => cases h
  | gotIp ip => cases h
  | timeout => exact ⟨List.all_eq_true.mp (by decide +kernel), by decide +kernel⟩

theorem head_of_tail {n : Notice} {s : QString} (h : n.tail? = some s) :
    (∀ k ≤ n.head.length, (Json.readDocument Json.decimal (n.head.take k)).isNone = true) ∧
      n.head = '{' :: n.head.tail ∧ '{' ∉ n.head.tail := by
  have herror : (∀ k ≤ (error []).head.length,
      (Json.readDocument Json.decimal ((error []).head.take k)).isNone = true) ∧
      (error []).head = '{' :: (error []).head.tail ∧ '{' ∉ (error []).head.tail := by
    decide +kernel
  have hgotIp : (∀ k ≤ (gotIp []).head.length,
      (Json.readDocument Json.decimal ((gotIp []).head.take k)).isNone = true) ∧
      (gotIp []).head = '{' :: (gotIp []).head.tail ∧ '{' ∉ (gotIp []).head.tail := by
    decide +kernel
  cases n with
  | error message => exact herror
  | gotIp ip => exact hgotIp
  | _ => cases h

/-- The text as it stands in the bytes. -/
theorem latinized_text {n : Notice} {s : QString} (h : n.tail? = some s) :
    QString.latinized n.text = n.head ++ (Json.escape (QString.latinized s) ++ ['"', '}']) := by
  rw [text_eq h, QString.latinized_append, QString.latinized_append,
    QString.latinized_ascii n.isAscii_head, Json.escape_latinized,
    QString.latinized_ascii (s := ['"', '}']) (List.all_eq_true.mp rfl)]

/-- Behind the head of a notification has to stand a complete string, and more. -/
theorem readDocument_head {n : Notice} {s x : QString} (h : n.tail? = some s)
    (hx : ∀ a r, Json.readString x = some (a, r) → r = []) :
    Json.readDocument Json.decimal (n.head ++ x) = none := by
  cases n with
  | error message => exact Json.readDocument_opening _ rfl _ hx
  | gotIp ip => exact Json.readDocument_opening _ rfl _ hx
  | _ => cases h

section Parts
variable {carry : QString → Option QString} {n : Notice} {y t : QString}

/-- A notification that is cut off cannot be read. -/
theorem readDocument_of_prefix (hc : Channel carry) (hy : y <+: QString.latinized n.text)
    (hne : y ≠ QString.latinized n.text) (ht : carry y = some t) :
    Json.readDocument Json.decimal t = none := by
  obtain ⟨z, hz⟩ := hy
  have hzne : z ≠ [] := by
    rintro rfl
    rw [List.append_nil] at hz
    exact hne hz
  cases htail : n.tail? with
  | none =>
    obtain ⟨hascii, hprefixes, -⟩ := text_of_tail_none htail
    rw [QString.latinized_ascii hascii] at hz
    have hyascii : ∀ c ∈ y, QString.isAscii c = true := fun c hcy =>
      hascii c (hz ▸ List.mem_append_left z hcy)
    obtain rfl := Option.some.inj ((hc.ascii_eq hyascii).symm.trans ht)
    have hnone := hprefixes y.length (by
      rw [← hz, List.length_append]
      have hpos := List.length_pos_iff.mpr hzne
      omega)
    rwa [← hz, List.take_left, Option.isNone_iff_eq_none] at hnone
  | some s =>
    obtain ⟨hprefixes, -, -⟩ := head_of_tail htail
    rw [latinized_text htail] at hz
    rcases List.append_eq_append_iff.mp hz with ⟨x, hx, -⟩ | ⟨x, rfl, hx⟩
    · have hyascii : ∀ c ∈ y, QString.isAscii c = true := fun c hcy =>
        n.isAscii_head c (hx ▸ List.mem_append_left x hcy)
      obtain rfl := Option.some.inj ((hc.ascii_eq hyascii).symm.trans ht)
      have hnone := hprefixes y.length (by simp [hx])
      rwa [hx, List.take_left, Option.isNone_iff_eq_none] at hnone
    · rw [hc.prefix_ascii n.isAscii_head] at ht
      obtain ⟨t', ht', rfl⟩ := Option.map_eq_some_iff.mp ht
      exact readDocument_head htail (Json.readString_cut hc hx hzne ht')

/-- No later part of a notification is an object with members. -/
theorem readDocument_of_infix (hc : Channel carry) (hy : y <:+: (QString.latinized n.text).tail)
    (ht : carry y = some t) {ms : List (QString × Json ℤ)}
    (hread : Json.readDocument Json.decimal t = some (.object ms)) : ms = [] := by
  cases htail : n.tail? with
  | none =>
    obtain ⟨hascii, -, hbrace⟩ := text_of_tail_none htail
    rw [QString.latinized_ascii hascii] at hy
    have hyascii : ∀ c ∈ y, QString.isAscii c = true := fun c hcy =>
      hascii c (List.mem_of_mem_tail (hy.subset hcy))
    obtain rfl := Option.some.inj ((hc.ascii_eq hyascii).symm.trans ht)
    by_contra hne
    obtain ⟨a, b, r, rfl, -, -⟩ := Json.exists_of_readDocument hread hne
    exact hbrace (hy.subset (by simp))
  | some s =>
    obtain ⟨-, hhead, hbrace⟩ := head_of_tail htail
    rw [latinized_text htail, hhead, List.cons_append, List.tail_cons] at hy
    exact Json.readDocument_inside hc hbrace hy ht hread

end Parts

/-- The line of a notification, without its line break. -/
def line (n : Notice) : QByteArray := Wire.line Json.decimal n.members

theorem ofLatin1_line (n : Notice) : QString.ofLatin1 n.line = QString.latinized n.text := rfl

theorem line_cons (n : Notice) : ∃ bs, n.line = 0x7B :: bs := Wire.line_cons Json.decimal n.members

/-- In a part of a notification that is not all of it nothing is found. -/
theorem found_part {n : Notice} {a x b : QByteArray} (h : n.line = a ++ (x ++ b))
    (hcut : a ≠ [] ∨ b ≠ []) : Wire.found Json.decimal x = [] := by
  have hsplit : QString.latinized n.text =
      QString.ofLatin1 a ++ (QString.ofLatin1 x ++ QString.ofLatin1 b) := by
    rw [← ofLatin1_line, h, QString.ofLatin1, List.map_append, List.map_append]
    rfl
  refine Wire.found_eq_nil Json.decimal fun t ms ht hread => ?_
  cases a with
  | nil =>
    have hb : b ≠ [] := hcut.resolve_left (fun hne => hne rfl)
    have hnone := readDocument_of_prefix (n := n) Channel.latin1.garbled
      ⟨QString.ofLatin1 b, hsplit.symm⟩ (fun heq => ?_) ht
    · rw [hnone] at hread
      cases hread
    · have hlength := congrArg List.length (heq.trans hsplit)
      have hpos := List.length_pos_iff.mpr hb
      simp only [QString.ofLatin1, List.length_append, List.length_map, List.length_nil] at hlength
      omega
  | cons c a =>
    refine readDocument_of_infix (n := n) Channel.latin1.garbled ?_ ht hread
    rw [hsplit]
    exact ⟨QString.ofLatin1 a, QString.ofLatin1 b, List.append_assoc _ _ _⟩

/-- What is written for a list of notifications. -/
def stream (ns : List Notice) : QByteArray :=
  (ns.map fun n => Wire.sendMessage Json.decimal n.members).flatten

theorem stream_eq (ns : List Notice) : stream ns = unlines 10 (ns.map line) := by
  have hline : ∀ n ∈ ns, Wire.sendMessage Json.decimal n.members = n.line ++ [10] :=
    fun n _ => Wire.written_eq Json.decimal n.members
  rw [stream, List.map_congr_left hline, unlines, List.flatMap_map, List.flatMap_def]

theorem newline_notMem_line (n : Notice) : 10 ∉ n.line :=
  Wire.newline_notMem_line Json.decimal n.members

theorem pieces_stream (ns : List Notice) : pieces 10 (stream ns) = ns.map line := by
  have hlines : ∀ l ∈ ns.map line, 10 ∉ l := by
    intro l hl
    obtain ⟨n, -, rfl⟩ := List.mem_map.mp hl
    exact n.newline_notMem_line
  rw [stream_eq, pieces_unlines hlines, List.filter_eq_self]
  intro l hl
  obtain ⟨n, -, rfl⟩ := List.mem_map.mp hl
  obtain ⟨bs, hbs⟩ := n.line_cons
  simp [hbs]

theorem null_notMem_stream (ns : List Notice) : 0 ∉ stream ns := by
  intro hmem
  obtain ⟨l, hl, hzero⟩ := List.mem_flatten.mp hmem
  obtain ⟨n, -, rfl⟩ := List.mem_map.mp hl
  rw [Wire.sendMessage, Wire.written_eq, List.mem_append] at hzero
  rcases hzero with hline | hbreak
  · exact absurd (Wire.printable_line Json.decimal n.members 0 hline) (by decide)
  · exact absurd hbreak (by decide)

section Deliveries
variable {ns : List Notice} {bs : List QByteArray}

theorem exists_of_mem_parts (hbs : bs.flatten = stream ns) {p : List QByteArray}
    (hp : p ∈ parts 10 bs) : ∃ n ∈ ns, p.flatten = n.line := by
  have hmem : p.flatten ∈ (parts 10 bs).map List.flatten := List.mem_map_of_mem hp
  rw [map_flatten_parts, hbs, pieces_stream] at hmem
  obtain ⟨n, hn, hline⟩ := List.mem_map.mp hmem
  exact ⟨n, hn, hline.symm⟩

theorem ne_nil_of_mem_parts {p : List QByteArray} (hp : p ∈ parts 10 bs) {x : QByteArray}
    (hx : x ∈ p) : x ≠ [] := by
  have hmem : x ∈ (parts 10 bs).flatten := List.mem_flatten.mpr ⟨p, hp, hx⟩
  rw [flatten_parts] at hmem
  obtain ⟨b, -, hb⟩ := List.mem_flatMap.mp hmem
  simpa using (List.mem_filter.mp hb).2

/-- In the parts of a notification that is cut nothing is found. -/
theorem found_of_cut (hbs : bs.flatten = stream ns) {p : List QByteArray} (hp : p ∈ parts 10 bs)
    (hcut : p.length ≠ 1) {x u v : QByteArray} (hx : x ∈ p) (huv : x = u ++ v) :
    Wire.found Json.decimal v = [] := by
  obtain ⟨n, -, hn⟩ := exists_of_mem_parts hbs hp
  obtain ⟨before, after, rfl⟩ := List.append_of_mem hx
  refine found_part (n := n) (a := before.flatten ++ u) (b := after.flatten) ?_ ?_
  · rw [← hn, huv]
    simp
  · have hne : ∀ ys : List QByteArray, (∀ y ∈ ys, y ∈ before ++ x :: after) → ys ≠ [] →
        ys.flatten ≠ [] := by
      intro ys hys hnil hflatten
      obtain ⟨y, ys, rfl⟩ := List.exists_cons_of_ne_nil hnil
      have hy := ne_nil_of_mem_parts hp (hys y List.mem_cons_self)
      exact hy (List.append_eq_nil_iff.mp hflatten).1
    by_cases hbefore : before = []
    · refine .inr (hne after (fun y hy => by simp [hy]) ?_)
      rintro rfl
      simp [hbefore] at hcut
    · refine .inl fun hnil => ?_
      exact hne before (fun y hy => by simp [hy]) hbefore (List.append_eq_nil_iff.mp hnil).1

/-- What is found in a delivery, a byte order mark or not. -/
theorem filter_notifications (hbs : bs.flatten = stream ns) {d : QByteArray} (hd : d ∈ bs) :
    (Wire.notifications Json.decimal d).filter (· ≠ []) =
      ((pieces 10 d).map (Wire.found Json.decimal)).filter (· ≠ []) := by
  by_cases hplain : QString.Plain d
  · rw [Wire.notifications_of_plain Json.decimal hplain]
  have hnull : 0 ∉ d := fun hmem =>
    null_notMem_stream ns (hbs ▸ List.mem_flatten.mpr ⟨d, hd, hmem⟩)
  obtain ⟨us, rfl⟩ : [0xEF, 0xBB, 0xBF] <+: d := by
    by_contra hmark
    exact hplain ⟨hnull, hmark⟩
  have hus : 0 ∉ us := fun hmem => hnull (List.mem_append_right _ hmem)
  obtain ⟨l, ps, hpieces, hread⟩ := Wire.notifications_of_mark Json.decimal hus
  -- the piece with the mark is a part of a notification, whose line begins with a brace
  obtain ⟨p, hp, hmem⟩ : ∃ p ∈ parts 10 bs, 0xEF :: 0xBB :: 0xBF :: l ∈ p := by
    rw [← List.mem_flatten, flatten_parts]
    refine List.mem_flatMap.mpr ⟨_, hd, ?_⟩
    simp only [List.cons_append, List.nil_append]
    rw [hpieces]
    exact List.mem_cons_self
  have hcut : p.length ≠ 1 := by
    intro hone
    obtain ⟨x, rfl⟩ := List.length_eq_one_iff.mp hone
    obtain ⟨n, -, hn⟩ := exists_of_mem_parts hbs hp
    obtain ⟨t, ht⟩ := n.line_cons
    rw [List.flatten_singleton, ← List.mem_singleton.mp hmem, ht] at hn
    exact absurd (List.cons.inj hn).1 (by decide)
  have hfirst := found_of_cut hbs hp hcut hmem (u := []) rfl
  have hrest := found_of_cut hbs hp hcut hmem (u := [0xEF, 0xBB, 0xBF]) (v := l) rfl
  simp only [List.cons_append, List.nil_append]
  rw [hread, hpieces, List.map_cons, List.map_cons, hfirst, hrest]

theorem flatMap_notifications (hbs : bs.flatten = stream ns) :
    bs.flatMap (fun d => (Wire.notifications Json.decimal d).filter (· ≠ [])) =
      ((bs.flatMap (pieces 10)).map (Wire.found Json.decimal)).filter (· ≠ []) := by
  rw [List.map_flatMap, List.filter_flatMap]
  exact List.flatMap_congr fun d hd => filter_notifications hbs hd

/-- A notification that is not cut is found once at most, one that is cut is not. -/
theorem length_found_le (hbs : bs.flatten = stream ns) {p : List QByteArray}
    (hp : p ∈ parts 10 bs) : ((p.map (Wire.found Json.decimal)).filter (· ≠ [])).length ≤
      if p.length = 1 then 1 else 0 := by
  split_ifs with hone
  · exact (List.length_filter_le _ _).trans (by rw [List.length_map, hone])
  · rw [Nat.le_zero, List.length_eq_zero_iff, List.filter_eq_nil_iff]
    intro o ho
    obtain ⟨x, hx, rfl⟩ := List.mem_map.mp ho
    rw [found_of_cut hbs hp hone hx (u := []) rfl]
    simp

omit ns bs in
/-- Where as many objects are found as there are notifications, none is cut. -/
theorem whole_of_sum {ps : List (List QByteArray)} {f : List QByteArray → ℕ}
    (hf : ∀ p ∈ ps, f p ≤ if p.length = 1 then 1 else 0) (hsum : ps.length ≤ (ps.map f).sum) :
    ∀ p ∈ ps, p.length = 1 := by
  have hle : ∀ qs : List (List QByteArray), (∀ p ∈ qs, f p ≤ if p.length = 1 then 1 else 0) →
      (qs.map f).sum ≤ qs.length := by
    intro qs hqs
    induction qs with
    | nil => exact le_rfl
    | cons q qs ih =>
      obtain ⟨hq, hlater⟩ := List.forall_mem_cons.mp hqs
      have hrest := ih hlater
      rw [List.map_cons, List.sum_cons, List.length_cons]
      split_ifs at hq <;> omega
  induction ps with
  | nil => nofun
  | cons p ps ih =>
    obtain ⟨hp, hlater⟩ := List.forall_mem_cons.mp hf
    have hrest := hle ps hlater
    rw [List.map_cons, List.sum_cons, List.length_cons] at hsum
    split_ifs at hp with hone
    · exact List.forall_mem_cons.mpr ⟨hone, ih hlater (by omega)⟩
    · omega

theorem whole_of_found (hbs : bs.flatten = stream ns)
    (h : bs.flatMap (fun d => (Wire.notifications Json.decimal d).filter (· ≠ [])) =
      ns.map members) : Whole 10 bs := by
  have hlength := congrArg List.length (map_flatten_parts (c := (10 : UInt8)) bs)
  rw [hbs, pieces_stream, List.length_map, List.length_map] at hlength
  have hparts : ∀ ps : List (List QByteArray),
      ((ps.flatten.map (Wire.found Json.decimal)).filter (· ≠ [])).length =
        (ps.map fun p => ((p.map (Wire.found Json.decimal)).filter (· ≠ [])).length).sum := by
    intro ps
    induction ps with
    | nil => rfl
    | cons p ps ih =>
      rw [List.flatten_cons, List.map_append, List.filter_append, List.length_append, ih,
        List.map_cons, List.sum_cons]
  rw [whole_iff]
  refine whole_of_sum (fun p hp => length_found_le hbs hp) (le_of_eq ?_)
  rw [← hparts, flatten_parts, ← flatMap_notifications hbs, h, List.length_map, hlength]

theorem normal_members (n : Notice) :
    (Json.object n.members).normalize = .object n.members := by
  cases n <;> rfl

theorem isAscii_members_iff (n : Notice) :
    (JsonObject.mk n.members n.normal_members).IsAscii ↔ n.IsAscii := by
  have hstrings : ∃ keys, Json.strings (.object n.members) = keys ++ n.tail?.toList ∧
      (keys.all fun k => k.all QString.isAscii) = true := by
    cases n with
    | status state => exact ⟨["code".toList, "state".toList], rfl, rfl⟩
    | stateWord w => exact ⟨["code".toList, "state".toList], rfl, rfl⟩
    | error message => exact ⟨["code".toList, "message".toList], rfl, rfl⟩
    | gotIp ip => exact ⟨["code".toList, "ip".toList], rfl, rfl⟩
    | timeout => exact ⟨["code".toList], rfl, rfl⟩
  obtain ⟨keys, heq, hkeys⟩ := hstrings
  simp only [List.all_eq_true] at hkeys
  have hiff : (JsonObject.mk n.members n.normal_members).IsAscii ↔
      ∀ s ∈ n.tail?.toList, ∀ c ∈ s, QString.isAscii c = true := by
    rw [JsonObject.IsAscii, heq, List.forall_mem_append]
    exact and_iff_right hkeys
  rw [hiff]
  cases n <;> simp [tail?, IsAscii]

/-- A notification is found as it was sent exactly when it is ASCII. -/
theorem found_line_iff (n : Notice) :
    Wire.found Json.decimal n.line = n.members ↔ n.IsAscii := by
  have hshallow : (JsonObject.mk n.members n.normal_members).IsShallow :=
    n.object.isShallow n.normal_members
  have hfound := JsonObject.object_eq_iff Channel.latin1.garbled Json.decimal
    (JsonObject.mk n.members n.normal_members)
  exact hfound.trans ((and_iff_left hshallow).trans n.isAscii_members_iff)

theorem members_ne_nil (n : Notice) : n.members ≠ [] := by
  cases n <;> exact List.cons_ne_nil _ _

/-- The objects found in the deliveries are those that were sent exactly when no
notification is cut and all are ASCII. -/
theorem flatMap_notifications_iff (hbs : bs.flatten = stream ns) :
    bs.flatMap (fun d => (Wire.notifications Json.decimal d).filter (· ≠ [])) =
      ns.map members ↔ Whole 10 bs ∧ ∀ n ∈ ns, n.IsAscii := by
  have hfound : Whole 10 bs →
      bs.flatMap (fun d => (Wire.notifications Json.decimal d).filter (· ≠ [])) =
        ((ns.map line).map (Wire.found Json.decimal)).filter (· ≠ []) := by
    intro hwhole
    rw [flatMap_notifications hbs, (flatMap_pieces_eq_iff bs).mpr hwhole, hbs, pieces_stream]
  constructor
  · intro h
    have hwhole := whole_of_found hbs h
    rw [hfound hwhole] at h
    have hall := congrArg List.length h
    have hself := List.length_filter_eq_length_iff.mp (hall.trans (by simp))
    rw [List.filter_eq_self.mpr hself, List.map_map, List.map_inj_left] at h
    exact ⟨hwhole, fun n hn => (found_line_iff n).mp (h n hn)⟩
  · rintro ⟨hwhole, hascii⟩
    have hmap : (ns.map line).map (Wire.found Json.decimal) = ns.map members := by
      rw [List.map_map]
      exact List.map_congr_left fun n hn => (found_line_iff n).mpr (hascii n hn)
    rw [hfound hwhole, hmap, List.filter_eq_self]
    intro o ho
    obtain ⟨n, -, rfl⟩ := List.mem_map.mp ho
    simpa using n.members_ne_nil

end Deliveries
end Notice

namespace VPNServiceManager
variable (s : Surroundings) (m : VPNServiceManager)

@[simp] theorem mState_connectToCore (reaches : Bool) :
    (m.connectToCore reaches).2.mState = m.mState := by
  unfold connectToCore
  split_ifs <;> rfl

@[simp] theorem mState_send (object : QJsonObject) : (m.send s object).mState = m.mState := by
  unfold send ensureConnected
  dsimp only
  split_ifs
  all_goals simp [sendCommand, note]

@[simp] theorem mState_emit (signal : Signal) : (m.emit s signal).mState = m.mState := by
  cases signal with
  | stateChanged state =>
    change (runSlot s (.stateChanged state) (m.note (.emitted (.stateChanged state)))
      .wndManagerStateChanged).mState = _
    unfold runSlot
    split_ifs <;> rfl
  | _ => rfl

theorem mState_statusChanged (state : ℤ) : (m.statusChanged s state).mState = state := by
  unfold statusChanged
  dsimp only
  split_ifs <;> simp

theorem mState_timedOut : (m.timedOut s).mState = m.mState := by
  unfold timedOut
  split_ifs
  · exact mState_send s _ _
  · rfl
  · exact mState_emit s _ _

end VPNServiceManager

namespace Notice

/-- The state after a notification was handled. -/
def stateAfter (state : ℤ) (n : Notice) : ℤ := (n.state?.map VpnState.toInt).getD state

theorem ofMembers_members (n : Notice) : QJsonObject.ofMembers n.members = n.object := by
  cases n <;> rfl

theorem mState_notified (s : Surroundings) (m : VPNServiceManager) (n : Notice) :
    (m.notified s n.object).mState = stateAfter m.mState n := by
  cases n with
  | status state => cases state <;> exact VPNServiceManager.mState_statusChanged s m _
  | stateWord w => exact VPNServiceManager.mState_emit s m _
  | error message => exact VPNServiceManager.mState_emit s m _
  | gotIp ip => exact VPNServiceManager.mState_emit s m _
  | timeout => exact VPNServiceManager.mState_timedOut s m

end Notice

namespace Reading

theorem handled_foldl (s : ℕ → Surroundings) (r : Reading)
    (tokens : List (List (QString × Json ℤ) × ℕ)) :
    (tokens.foldl (handle s) r).handled = r.handled ++ (tokens.map (·.1)).filter (· ≠ []) := by
  induction tokens generalizing r with
  | nil => simp
  | cons token tokens ih =>
    rw [List.foldl_cons, ih, List.map_cons, handle]
    split_ifs with hempty
    · rw [List.filter_cons_of_neg (by simp [hempty])]
    · rw [List.filter_cons_of_pos (by simp [hempty]), List.append_assoc, List.singleton_append]

/-- What a delivery adds to what was handled. -/
theorem handled_socketReadyRead (r : Reading) (d : (ℕ → Surroundings) × QByteArray) :
    (r.socketReadyRead d).handled =
      r.handled ++ (Wire.notifications Json.decimal d.2).filter (· ≠ []) := by
  rw [socketReadyRead, handled_foldl, List.zipIdx_map_fst]

theorem handled_run (r : Reading) (ds : List ((ℕ → Surroundings) × QByteArray)) :
    (Runs.run socketReadyRead r ds).handled = r.handled ++
      (ds.map (·.2)).flatMap fun d => (Wire.notifications Json.decimal d).filter (· ≠ []) := by
  induction ds generalizing r with
  | nil => simp [Runs.run]
  | cons d ds ih =>
    have hstep := ih (r.socketReadyRead d)
    rw [handled_socketReadyRead] at hstep
    rw [List.map_cons, List.flatMap_cons, ← List.append_assoc]
    exact hstep

/-- Where notifications were handled, the client shows the last state among them. -/
def Shows (state : ℤ) (r : Reading) : Prop :=
  ∀ ns : List Notice, r.handled = ns.map Notice.members →
    r.manager.mState = ns.foldl Notice.stateAfter state

theorem Shows.handle {state : ℤ} {r : Reading} (h : r.Shows state) (s : ℕ → Surroundings)
    (token : List (QString × Json ℤ) × ℕ) : (r.handle s token).Shows state := by
  unfold Reading.handle
  split_ifs
  · exact h
  · intro ns hns
    cases ns using List.reverseRecOn with
    | nil => simp at hns
    | append_singleton ns n =>
      rw [List.map_append, List.map_singleton] at hns
      obtain ⟨hbefore, hlast⟩ := List.append_inj' hns rfl
      have htoken : token.1 = n.members := List.singleton_inj.mp hlast
      simp only [htoken, Notice.ofMembers_members, Notice.mState_notified, List.foldl_append,
        List.foldl_cons, List.foldl_nil, h ns hbefore]

theorem Shows.socketReadyRead {state : ℤ} {r : Reading} (h : r.Shows state)
    (d : (ℕ → Surroundings) × QByteArray) : (r.socketReadyRead d).Shows state := by
  unfold Reading.socketReadyRead
  generalize (Wire.notifications Json.decimal d.2).zipIdx = tokens
  induction tokens generalizing r with
  | nil => exact h
  | cons token tokens ih => exact ih (h.handle d.1 token)

end Reading

/-- A list of notifications the service writes and the deliveries in which its bytes
reach the client. -/
structure NotificationSession where
  manager : VPNServiceManager
  notices : List Notice
  deliveries : List ((ℕ → Surroundings) × QByteArray)
  delivered : (deliveries.map (·.2)).flatten = Notice.stream notices

namespace NotificationSession

def outcome (s : NotificationSession) : Reading :=
  Runs.run Reading.socketReadyRead ⟨s.manager, []⟩ s.deliveries

/-- The client handles exactly the notifications that were sent, each once and in
order, and shows the last state among them, exactly when every delivery ends between
two notifications and all of these are ASCII. The service writes no others
(`Notice.sent_receive`). -/
theorem notifications_framed_iff (s : NotificationSession) :
    (s.outcome.handled = s.notices.map Notice.members ∧
      s.outcome.manager.mState = s.notices.foldl Notice.stateAfter s.manager.mState) ↔
    Whole 10 (s.deliveries.map (·.2)) ∧ ∀ n ∈ s.notices, n.IsAscii := by
  have hhandled := Reading.handled_run ⟨s.manager, []⟩ s.deliveries
  have hinitial : Reading.Shows s.manager.mState ⟨s.manager, []⟩ := by
    intro ns hns
    cases ns with
    | nil => rfl
    | cons n ns => simp at hns
  have hshows : s.outcome.Shows s.manager.mState :=
    Runs.run_invariant (P := Reading.Shows s.manager.mState) (fun r d h => h.socketReadyRead d)
      hinitial s.deliveries
  rw [List.nil_append] at hhandled
  rw [← Notice.flatMap_notifications_iff s.delivered, ← hhandled]
  exact and_iff_left_of_imp fun h => hshows s.notices h

/-- The news that openvpn is connected, in two deliveries. -/
def cut : NotificationSession where
  manager := (System.initial .zero .blocking).manager
  notices := [.status .connected]
  deliveries :=
    [(fun _ => .server 7 "", (Notice.stream [.status .connected]).take 10),
      (fun _ => .server 7 "", (Notice.stream [.status .connected]).drop 10)]
  delivered := by simp

/-- A notification that a delivery cuts is lost, and the state with it. -/
theorem notification_lost_when_cut : ¬ ∀ s : NotificationSession,
    s.outcome.handled = s.notices.map Notice.members ∧
      s.outcome.manager.mState = s.notices.foldl Notice.stateAfter s.manager.mState := by
  intro h
  have hstate := (h cut).2
  have hshown : cut.outcome.manager.mState = 0 := by decide +kernel
  rw [hshown] at hstate
  cases hstate

end NotificationSession
end CeloVpn.Client
