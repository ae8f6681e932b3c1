import CeloVpn.Client.AuthManager
import CeloVpn.Client.Setting
import Mathlib.Data.List.Sort

/-!
# Looking servers up and choosing one

What `AuthManager` answers about its servers: a server by its index, an index by the
name, the indices for the encryption and protocol of the moment, and the server to jump
to.
-/
namespace CeloVpn.Client

/-- `AServer()`. -/
def AServer.unknown : AServer := ⟨[], [], [], [], false, false, []⟩

/-- `configUrls.value(port)`. -/
def AServer.configUrl (port : ℤ) (s : AServer) : QString :=
  ((s.configUrls.find? (·.1 == port)).map (·.2)).getD []

/-- What `std::sort` makes of pings and their servers. It leaves open how equal pings
are ordered. -/
structure PingSort where
  sort : List (ℤ × ℕ) → List (ℤ × ℕ)
  perm : ∀ l, (sort l).Perm l
  sorted : ∀ l, (sort l).Pairwise fun a b => a.1 ≤ b.1

/-- A sort that leaves equal pings in their order. -/
def PingSort.insertion : PingSort where
  sort := List.insertionSort fun a b => a.1 ≤ b.1
  perm l := List.perm_insertionSort _ l
  sorted l := List.pairwise_insertionSort _ l

namespace AuthManager

def getServer (id : ℤ) (m : AuthManager) : AServer :=
  if -1 < id ∧ id < m.mServers.length then m.mServers.getD id.toNat .unknown else .unknown

/-- `currentEncryptionServers`; the protocol is asked for, which may fill its table. -/
def currentEncryptionServers (s : Setting) (m : AuthManager) : List ℕ × Setting :=
  let tcpOrUdp := s.tcpOrUdp
  (if tcpOrUdp.1 = "tcp".toList then m.mTcpServerIds else m.mUdpServerIds, tcpOrUdp.2)

/-- `std::map::insert` leaves a name that is there with its index. -/
def insertName (map : List (QString × ℕ)) (entry : QString × ℕ) : List (QString × ℕ) :=
  if map.any (·.1 == entry.1) then map else map ++ [entry]

/-- The map is filled at a lookup that finds it empty. -/
def serverIxFromName (srv : QString) (m : AuthManager) : ℤ × AuthManager :=
  let m :=
    if m.mServerNameToId.isEmpty && !m.mServers.isEmpty then
      { m with mServerNameToId :=
          (m.mServers.zipIdx.map fun s => (s.1.name, s.2)).foldl insertName [] }
    else m
  ((m.mServerNameToId.find? (·.1 == srv)).elim (-1) fun entry => (entry.2 : ℤ), m)

def getPings (toping : List ℕ) (m : AuthManager) : List ℤ :=
  if m.mPings.isEmpty then toping.map fun _ => -1
  else toping.map fun id => if m.mPings.length ≤ id then -1 else m.mPings.getD id (-1)

/-- `getServerToJump`, with the server of the moment and what `rand()` returns. -/
def getServerToJump (order : PingSort) (rand : ℕ) (prev : ℤ) (m : AuthManager) : ℤ :=
  if m.mServers.isEmpty then -1
  else
    let toping := m.mServerIds.filter fun id : ℕ => (id : ℤ) ≠ prev
    let ping_ix := ((m.getPings toping).zip toping).filter fun p => decide (-1 < p.1)
    let srv : ℤ :=
      if ping_ix.isEmpty then -1
      else
        let num := if Setting.showNodes then 20 else 6
        let num := if ping_ix.length ≤ num then ping_ix.length else num
        ((order.sort ping_ix)[rand % num]?.map fun p => (p.2 : ℤ)).getD (-1)
    if srv < 0 then
      if toping.isEmpty then ((rand % m.mServers.length : ℕ) : ℤ)
      else (toping[rand % toping.length]?.map fun id : ℕ => (id : ℤ)).getD (-1)
    else srv

end AuthManager
end CeloVpn.Client
