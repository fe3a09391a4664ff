/-
The registry of the peers that results have named.

A handle is the next of a counter and stays in the registry, so what was registered
is found again whatever is registered after it.  What grammers says about peers is a
parameter: `π` is its resolved peer and `ρ` its reference to one.
-/

import Kotlogramme.Foundation.Stateful
import Kotlogramme.Foundation.LinkedMap
import Kotlogramme.Protocol.Document
import Kotlogramme.Protocol.Layer

namespace Kotlogramme.Client

open Protocol

structure Grammers (π ρ : Type) where
  resolvePeer : InputPeer → Except String π
  resolveUsername : String → Except String (Option π)
  isSelf : π → Bool
  toRef : π → Except String (Option ρ)
  selfPeerRef : ρ
  inputPeer : ρ → InputPeer

/-- `poisoned` is the state of the lock. -/
structure PeerRegistry (π : Type) where
  peers : List (Int × π)
  nextPeerHandle : Int
  poisoned : Bool
  issued : ∀ entry ∈ peers, entry.1 < nextPeerHandle

variable {π ρ : Type}

namespace PeerRegistry

def get? (registry : PeerRegistry π) (handle : Int) : Option π := registry.peers.lookup handle

/-- The registry after its counter has issued a handle. -/
def issue (registry : PeerRegistry π) : PeerRegistry π where
  peers := registry.peers
  nextPeerHandle := registry.nextPeerHandle + 1
  poisoned := registry.poisoned
  issued entry member := by
    have before := registry.issued entry member
    omega

/-- The registry with the peer at the handle its counter issues. -/
def insertNext (registry : PeerRegistry π) (peer : π) : PeerRegistry π where
  peers := (registry.nextPeerHandle, peer) :: registry.peers
  nextPeerHandle := registry.nextPeerHandle + 1
  poisoned := registry.poisoned
  issued entry member := by
    rcases List.mem_cons.mp member with rfl | held
    · exact Int.lt_succ _
    · have before := registry.issued entry held
      omega

/-- What the earlier registry has is in the later one. -/
def Extends (before later : PeerRegistry π) : Prop :=
  ∀ handle peer, before.get? handle = some peer → later.get? handle = some peer

theorem Extends.refl (registry : PeerRegistry π) : registry.Extends registry :=
  fun _ _ found => found

theorem Extends.trans {first second third : PeerRegistry π} (earlier : first.Extends second)
    (later : second.Extends third) : first.Extends third :=
  fun handle peer found => later handle peer (earlier handle peer found)

theorem insertNext_get?_self (registry : PeerRegistry π) (peer : π) :
    (registry.insertNext peer).get? registry.nextPeerHandle = some peer :=
  List.lookup_cons_self

theorem insertNext_extends (registry : PeerRegistry π) (peer : π) :
    registry.Extends (registry.insertNext peer) := by
  intro handle held found
  have known : handle < registry.nextPeerHandle := by
    obtain ⟨front, back, split, -⟩ := List.lookup_eq_some_iff.mp found
    exact registry.issued (handle, held) (by simp [split])
  have other : ¬ registry.nextPeerHandle = handle := by omega
  simpa [get?, insertNext, LinkedMap.lookup_cons, other] using found

end PeerRegistry

def registerPeer (peer : π) : Stateful (PeerRegistry π) Int := do
  let registry ← get
  set registry.issue
  if registry.poisoned then throw "peer registry is poisoned"
  set (registry.insertNext peer)
  return registry.nextPeerHandle

theorem registerPeer_runOn (registry : PeerRegistry π) (peer : π) :
    (registerPeer peer).runOn registry =
      if registry.poisoned then (.error "peer registry is poisoned", registry.issue)
      else (.ok registry.nextPeerHandle, registry.insertNext peer) := by
  unfold registerPeer
  cases lock : registry.poisoned <;> simp [Fallible.runOn_bind, Fallible.runOn_map, lock]

/-- A username without the at signs in front. -/
def trimAt (username : String) : String :=
  String.ofList (username.toList.dropWhile (· == '@'))

def resolvePeerProjected (grammers : Grammers π ρ) (registry : PeerRegistry π)
    (target : PeerTarget) : Except String π :=
  match target.peerHandle with
  | some handle =>
      if registry.poisoned then .error "peer registry is poisoned"
      else
        match registry.get? handle with
        | some peer => .ok peer
        | none => .error ("unknown peer handle: " ++ toString handle)
  | none =>
      match target.username with
      | none => .error "a peerHandle or username is required"
      | some username => do
          match ← grammers.resolveUsername (trimAt username) with
          | some peer => return peer
          | none => throw ("username not found: " ++ trimAt username)

/-- The reference under which a resolved peer is addressed. -/
def peerRef (grammers : Grammers π ρ) (peer : π) : Except String ρ :=
  if grammers.isSelf peer then .ok grammers.selfPeerRef
  else do
    match ← grammers.toRef peer with
    | some reference => return reference
    | none => throw "the resolved peer is not usable on its own"

def resolvePeer (grammers : Grammers π ρ) (registry : PeerRegistry π) (target : PeerTarget) :
    Except String ρ := do
  peerRef grammers (← resolvePeerProjected grammers registry target)

theorem resolvePeer_of_get? {grammers : Grammers π ρ} {registry : PeerRegistry π} {handle : Int}
    {peer : π} (found : registry.get? handle = some peer) :
    resolvePeer grammers registry ⟨some handle, none⟩ =
      if registry.poisoned then .error "peer registry is poisoned" else peerRef grammers peer := by
  unfold resolvePeer resolvePeerProjected
  cases lock : registry.poisoned with
  | true => rfl
  | false =>
      simp only [found]
      rfl

/-! ### A client that knows one username -/

def onlyAda : Grammers InputPeer InputPeer where
  resolvePeer peer := .ok peer
  resolveUsername username := .ok (if username = "ada" then some (.user 7 0) else none)
  isSelf _ := false
  toRef peer := .ok (some peer)
  selfPeerRef := .self
  inputPeer := id

theorem nothing_issued : ∀ entry ∈ ([] : List (Int × InputPeer)), entry.1 < 1 := nofun

def noPeers : PeerRegistry InputPeer := ⟨[], 1, false, nothing_issued⟩

end Kotlogramme.Client
