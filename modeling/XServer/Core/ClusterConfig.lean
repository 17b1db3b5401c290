import XServer.Net.Register

/-!
# Cluster configuration

What `core/Config.cpp` guarantees about node ids: the keys of the gate and game
collections are unique and each has the form its collection requires.
-/

namespace XServer.Core
open XServer.Lib.Wire XServer.Net

inductive ParsedNodeKind where
  | gm
  | gate
  | game
  deriving DecidableEq, Repr

/-- `HasDigitsSuffix`: at least one character after the first `n`, all digits. -/
def hasDigitsSuffix (value : Bytes) (n : Nat) : Bool :=
  decide (n < value.length) && (value.drop n).all fun ch => decide (48 ≤ ch) && decide (ch ≤ 57)

/-- `ParseNodeId`. -/
def parseNodeId (nodeId : Bytes) : Option ParsedNodeKind :=
  if nodeId = text "GM" then some .gm
  else if nodeId.take 4 = text "Gate" && hasDigitsSuffix nodeId 4 then some .gate
  else if nodeId.take 4 = text "Game" && hasDigitsSuffix nodeId 4 then some .game
  else none

/-- One entry of the gate or game collection. -/
structure NodeEntry where
  nodeId : Bytes
  innerNetworkListenEndpoint : Endpoint
  deriving DecidableEq, Repr

/-- The parts of `ClusterConfig` the inner network reads, in key order. -/
structure ClusterConfig where
  gmEndpoint : Endpoint
  gates : List NodeEntry
  games : List NodeEntry
  gateIds : ∀ gate ∈ gates, parseNodeId gate.nodeId = some .gate
  gameIds : ∀ game ∈ games, parseNodeId game.nodeId = some .game
  gatesDistinct : (gates.map (·.nodeId)).Nodup
  gamesDistinct : (games.map (·.nodeId)).Nodup

namespace ClusterConfig

variable (config : ClusterConfig)

def gateNodeIds : List Bytes := config.gates.map (·.nodeId)

def gameNodeIds : List Bytes := config.games.map (·.nodeId)

theorem parse_gate {nodeId : Bytes} (mem : nodeId ∈ config.gateNodeIds) : parseNodeId nodeId = some .gate := by
  obtain ⟨gate, listed, rfl⟩ := List.mem_map.mp mem
  exact config.gateIds gate listed

theorem parse_game {nodeId : Bytes} (mem : nodeId ∈ config.gameNodeIds) : parseNodeId nodeId = some .game := by
  obtain ⟨game, listed, rfl⟩ := List.mem_map.mp mem
  exact config.gameIds game listed

end ClusterConfig

/-! ## A small cluster -/

def sampleEndpoint (port : UInt16) : Endpoint := { host := text "127.0.0.1", port }

def sampleGateEntry : NodeEntry := ⟨text "Gate0", sampleEndpoint 5100⟩

def sampleGameEntry : NodeEntry := ⟨text "Game0", sampleEndpoint 5200⟩

/-- One Gate and one Game. -/
def sampleConfig : ClusterConfig where
  gmEndpoint := sampleEndpoint 5000
  gates := [sampleGateEntry]
  games := [sampleGameEntry]
  gateIds := by decide +kernel
  gameIds := by decide +kernel
  gatesDistinct := by decide +kernel
  gamesDistinct := by decide +kernel

end XServer.Core
