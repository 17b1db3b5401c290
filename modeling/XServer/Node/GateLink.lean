import XServer.Node.GateAct

/-!
# The Gate's link to the GM

What the GM and a Gate learn of each other: only register requests and heartbeats
go to the GM, and only a cluster-ready notify that came from it makes the Gate
ready (`step_link`).
-/

namespace XServer.Node.GateNode
open XServer.Lib XServer.Lib.Wire XServer.Net XServer.Core

/-- What one step can do to the link and to the readiness of a Gate. -/
structure LinkStep (gate : GateNode) (input : Input) (result : GateNode × List GateEvent) : Prop where
  sends : ∀ packet, .toGm packet ∈ result.2 → LinkPacket gate.nodeId packet
  ready : result.1.clusterReady = true → gate.clusterReady = true ∨
    ∃ env payload, input = .connectorMessage env gmRemoteNodeId payload ∧ HasMsgId payload innerClusterReadyNotifyMsgId

variable {input : Input}

theorem GmOp.packet {request : RegisterRequest} {session session' : InnerNetworkSession} {packet : Bytes}
    (op : GmOp request session session' (some packet)) : LinkPacket request.nodeId packet := by
  generalize sent : some packet = result at op
  cases op with
  | ask env => exact InnerNetworkSession.sendRegisterRequest_some sent.symm
  | tick env => exact .inr (InnerNetworkSession.heartbeatTick_some sent.symm)
  | registerResponse env response => cases sent
  | heartbeatResponse env response => cases sent
  | state state => cases sent
  | reset => cases sent

/-- No answer to a Game goes to the GM. -/
theorem Replies.toGm {routingId : Bytes} {events : List GateEvent} (replies : Replies routingId events) (packet : Bytes) :
    .toGm packet ∉ events := by
  intro mem
  obtain ⟨_, impossible⟩ := replies _ mem
  cases impossible

/-- An act in a step that kept the link's terms so far. -/
theorem LinkStep.act {gate s u : GateNode} {events more : List GateEvent} (name : s.nodeId = gate.nodeId)
    (h : LinkStep gate input (s, events)) (act : Act input s more u) : LinkStep gate input (u, events ++ more) := by
  -- an act that leaves the readiness alone and sends nothing to the GM
  have apart : u.clusterReady = s.clusterReady → (∀ packet, .toGm packet ∉ more) →
      LinkStep gate input (u, events ++ more) := by
    intro same quiet
    refine ⟨fun packet mem => ?_, fun ready => h.ready (same ▸ ready)⟩
    exact h.sends packet ((List.mem_append.mp mem).resolve_right (quiet packet))
  cases act with
  | clients result => exact apart rfl (by simp)
  | @notify env payload _ _ arrived kind =>
    refine ⟨fun packet mem => h.sends packet (by simpa using mem), fun _ => .inr ⟨env, payload, arrived, kind⟩⟩
  | gm found op =>
    refine ⟨fun packet mem => ?_, h.ready⟩
    rcases List.mem_append.mp mem with before | now
    · exact h.sends packet before
    · simp only [List.mem_map, Option.mem_toList] at now
      obtain ⟨_, rfl, same⟩ := now
      cases same
      exact name ▸ op.packet
  | refused replies => exact apart rfl replies.toGm
  | registered arrived found isGame channel replies => exact apart rfl replies.toGm
  | beat arrived read found isGame registered replies => exact apart rfl replies.toGm

theorem Act.nodeId {gate gate' : GateNode} {events : List GateEvent} (act : Act input gate events gate') :
    gate'.nodeId = gate.nodeId := by
  cases act with
  | @notify env payload session packet arrived kind => exact (@handleClusterReadyNotify_step .all gate env session packet).1
  | _ => rfl

/-- **Every step keeps the link's terms.** -/
theorem step_link (gate : GateNode) (input : Input) : LinkStep gate input (gate.step input) := by
  have both : (gate.step input).1.nodeId = gate.nodeId ∧ LinkStep gate input (gate.step input) :=
    @Steps.trace _ _ _ (fun s t => s.nodeId = gate.nodeId ∧ LinkStep gate input (s, t))
      (fun _ _ _ _ h act => ⟨act.nodeId.trans h.1, h.2.act h.1 act⟩) _ _ [] _ (step_acts gate input)
      ⟨rfl, ⟨by simp, .inl⟩⟩
  exact both.2

/-- A Gate keeps its node id. -/
theorem step_nodeId (gate : GateNode) (input : Input) : (gate.step input).1.nodeId = gate.nodeId :=
  (step_clients (admits_all gate input)).1

/-- A Gate starts with its configured name, closed to clients. -/
theorem onInit_some {config : ClusterConfig} {self : NodeEntry} {boot : GateBoot} {gate : GateNode}
    (init : onInit config self boot = some gate) : gate.nodeId = self.nodeId ∧ gate.clusterReady = false := by
  simp only [onInit, Option.bind_eq_bind, Option.bind_eq_some_iff] at init
  obtain ⟨_, -, _, -, _, -, _, -, _, -, _, -, _, -, eq⟩ := init
  cases eq
  exact ⟨rfl, rfl⟩

end XServer.Node.GateNode
