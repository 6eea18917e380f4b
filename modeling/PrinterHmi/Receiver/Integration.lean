import PrinterHmi.Configuration.Enroll
import PrinterHmi.Receiver.Meeting
import PrinterHmi.Receiver.Site

/-!
# From the first offer to the first snapshot

The integration check of the repository enrolls an agent at a relay, enables the receiver, starts it
on the configuration the manager has written, and lets the agent send a snapshot. This module does so
for every relay and every agent, whatever they have been through: what the enrollment leaves is what
the receiver needs to let the agent in, and what the agent needs to answer its challenge
(`enrolled_agent_publishes`).
-/

namespace PrinterHmi

/-- The two ends of a session, the agent's being its enrollment store. -/
def sessionOf (i : Identity) (k : Bytes32) (h : Host) (store : Supply) (signed : Time)
    (handler : HandlerSupply) (snapshot filtered : Json) : Meeting :=
  ⟨i, k, ⟨store, h, h, signed⟩, handler, snapshot, filtered⟩

/-- **Nothing is in the way of a session**: the clocks are near one another, the snapshot passes the
filter, and the state file is written. -/
structure Meeting.Undisturbed (P : Platform) (m : Meeting) : Prop where
  early : m.handler.now ≤ m.agent.now + clockSkew
  live : m.agent.now < m.handler.now + seconds sessionLifetime
  normal : m.snapshot.ordered = true
  filters : sanitizeSnapshot P m.snapshot = .ok m.filtered
  stored : m.handler.faults = fun _ => false
  short : ∀ t ∈ [m.handler.now, m.handler.now + seconds sessionLifetime, m.agent.now,
    m.handler.accepted], (P.timestamp t).toList.length ≤ 64

namespace Manager

section Integration

variable {P : Platform} {resolve : String → String} {env : Founding} {relayId peerId : String}
  {d : Directory} {h h₁ : Host} {i : Identity} {k : Bytes32} {supply : EnrollSupply} {output : String}

/-- The two ends of a session agree, when the agent is enrolled under its key. -/
theorem agreed_of_enrolled {config : ReceiverConfig} {store : Supply} {signed : Time}
    {handler : HandlerSupply} {snapshot filtered : Json} (hchecked : checkIdentity P i = .ok k)
    (hidentity : h.identity = some i)
    (henrolled : config.devices.get? i.deviceId = some i.publicKey)
    (hrelay : relayIdPattern config.relayId = true)
    (hclear : (sessionOf i k h store signed handler snapshot filtered).Undisturbed P) :
    (sessionOf i k h store signed handler snapshot filtered).Agreed P config where
  shown := congrArg Prod.fst (FileProg.exec_bind_ok (Identified.stored hidentity hchecked).exec _)
  signs payload := congrArg Prod.fst (exec_sign_identified (.stored hidentity hchecked) payload)
  checked := hchecked
  enrolled := henrolled
  relay := hrelay
  early := hclear.early
  live := hclear.live
  normal := hclear.normal
  filters := hclear.filters
  stored := hclear.stored
  short := hclear.short

/-- **An agent that is enrolled can publish.** Take a relay in any state its manager reaches, with
room for a device, and an agent whose identity checks out, if it has one, which is not listed with
another text of its key, of which the relay is no active peer, and which has not used the challenge
that is drawn; and enroll the one at the other, in time and with a free path for the request. Then
the receiver can be enabled, and started on the configuration there is; and whatever agents and
others do at it, a call of this agent on a connection nobody has used returns, if nothing is in its
way, with its snapshot, filtered, as the record of its device. -/
theorem enrolled_agent_publishes {port : Json} {d₀ : Directory} {events : List ManagerEvent}
    (hinit : Initialized P resolve env (.str relayId) (.str peerId) port d₀)
    (hrun : ManagerRun P resolve d₀ events d)
    (hid : Identified P supply.offer.initial h i k h₁) (hinactive : h.loaded.isActive peerId = false)
    (hunused : h.loaded.usedChallenges.get? supply.request.challengeId.1 = none)
    (htime : supply.InTime) (hparent : supply.request.parentExists = true)
    (hfree : supply.request.occupied = false) (hcount : d.devices.length < 10000)
    (htexts : ∀ other ∈ d.devices, other.deviceId = i.deviceId → other.publicKey = i.publicKey)
    {call : ManagerCall} (hcall : call.Faultless)
    (haction : call.action = .setEnabled (.bool true) true) :
    ∃ d₁ h₂ reply d₂ config,
      enroll P resolve supply output (d, h) = (.ok (.str i.deviceId), d₁, h₂) ∧
      managerStep P resolve d₁ call = (.ok reply, d₂) ∧ serveConfig P resolve d₂ = .ok config ∧
      (∀ other ∈ d.devices, config.devices.get? other.deviceId = some other.publicKey) ∧
      ∀ {store : Supply} {signed : Time} {handler : HandlerSupply} {snapshot filtered : Json}
        {es : List ExchangeEvent} {x : Exchange} {c : ℕ},
        (sessionOf i k h₂ store signed handler snapshot filtered).Undisturbed P →
        ExchangeRun P config es x → x.lines c = none → x.receiver.connections c = .hello →
        ∃ es' x' l result, ExchangeRun P config (es ++ es') x' ∧ x'.lines c = some l ∧
          l.connector.snapshot = snapshot ∧ l.connector.phase = .returned result ∧
          x'.receiver.registry.records.get? i.deviceId =
            some (newRecord P i.deviceId 1 filtered handler.published) := by
  obtain ⟨relay, peer, listenPort, hrelay, hpeer, -, hstart⟩ := founded_of_initialized hinit
  obtain rfl := Json.str.inj hrelay
  obtain rfl := Json.str.inj hpeer
  obtain ⟨s, c, hfounded⟩ := founded_of_run ⟨_, _, hstart⟩ hrun
  have hdevices : d.devices = c.devices := by rw [Directory.devices, hfounded.loads.config]
  rw [hdevices] at hcount htexts
  obtain ⟨d₁, s₁, c₁, h₂, henroll, hfounded₁, ⟨-, hmem⟩, -, hidentity⟩ :=
    enroll_returns output hfounded hid hinactive hunused htime hparent hfree hcount htexts
  have hdevice : i.device ∈ c₁.devices := (hmem _).mpr (.inr rfl)
  obtain ⟨reply, henable, hfounded₂⟩ :=
    hfounded₁.enables call hcall haction (List.ne_nil_of_mem hdevice)
  obtain ⟨config, hserve, hrelay', hlisted⟩ := hfounded₂.serves rfl
  have hpattern : relayIdPattern config.relayId = true :=
    hrelay' ▸ hfounded.relayId ▸ (checkRelayState_json.mp hfounded.loads.stateOk).1
  refine ⟨d₁, h₂, reply, _, config, henroll, henable, hserve, fun other hother =>
    hlisted other ((hmem other).mpr (.inl (hdevices ▸ hother))), fun hclear hexchange hnone hhello => ?_⟩
  have hagreed := agreed_of_enrolled hid.checked hidentity (hlisted _ hdevice) hpattern hclear
  obtain ⟨es', x', hrun', ⟨l, hl, hsnapshot, hphase⟩, hrecord⟩ :=
    meeting_returns hagreed hexchange hnone hhello
  exact ⟨es', x', l, _, hrun', hl, hsnapshot, hphase, hrecord⟩

end Integration

end Manager

namespace Sample

theorem undisturbed_sample (h : Host) :
    (sessionOf agentIdentity agentKey h (supply (moment 4) pairingId) (moment 4)
      (handlerSupply sessionNonce (moment 3)) snapshot snapshot).Undisturbed platform where
  early := (by decide : moment 3 ≤ moment 4 + clockSkew)
  live := (by decide : moment 4 < moment 3 + seconds sessionLifetime)
  normal := (by decide : snapshot.ordered = true)
  filters := sanitizeSnapshot_sample
  stored := rfl
  short := (by decide : ∀ t ∈ [moment 3, moment 3 + seconds sessionLifetime, moment 4, moment 3],
    (platform.timestamp t).toList.length ≤ 64)

end Sample

open Sample in
/-- The sample agent is enrolled at the sample relay, and publishes its snapshot. -/
theorem Manager.enrolled_agent_publishes_sample : ∃ d₁ h d₂ config es x,
    enroll platform relayPath (errand (supply (moment 0) pairingId).initial) requestPath
        (relayDirectory, .fresh) = (.ok (.str agentIdentity.deviceId), d₁, h) ∧
      serveConfig platform relayPath d₂ = .ok config ∧ ExchangeRun platform config es x ∧
      x.receiver.registry.records.get? agentIdentity.deviceId =
        some (newRecord platform agentIdentity.deviceId 1 snapshot (moment 3)) := by
  have hid : Identified platform (errand (supply (moment 0) pairingId).initial).offer.initial .fresh
      agentIdentity agentKey _ := .generated rfl
  have hempty : relayDirectory.devices = [] := by
    rw [Directory.devices, founded_relayDirectory.loads.config]
    rfl
  obtain ⟨d₁, h, reply, d₂, config, henroll, -, hserve, -, hpublishes⟩ :=
    enrolled_agent_publishes initialized_relayDirectory .start hid rfl rfl (inTime_errand _) rfl rfl
      (by rw [hempty]; decide) (fun _ hother => (List.not_mem_nil (hempty ▸ hother)).elim)
      (fun _ => rfl : enabling.Faultless) rfl
  obtain ⟨es, x, -, -, hexchange, -, -, -, hrecord⟩ :=
    hpublishes (c := 0) (undisturbed_sample h) .start rfl rfl
  exact ⟨d₁, h, d₂, config, _, x, henroll, hserve, hexchange, hrecord⟩

end PrinterHmi
