import SoleKey.Service
import SoleKey.Proofs.RunningAgent.Consistency

set_option autoImplicit false

namespace SoleKey

namespace RunningAgent

variable {session : Session} {agent later : RunningAgent}

theorem leads_of_step? {event : Event} {effects : List Effect} {next : RunningAgent}
    (moved : agent.step? session event = some (effects, next)) : Leads session agent next :=
  .single ⟨event, effects, moved⟩

theorem leads_of_steps? {events : List SharedConnections.Event}
    (inside : ∀ event ∈ events, ∀ number connection, event ≠ .opened number connection)
    {effects : List Effect} {shared : SharedConnections}
    (moved : agent.shared.steps? session events = some (effects, shared)) :
    Leads session agent { agent with shared := shared } := by
  induction events generalizing agent effects with
  | nil =>
    obtain ⟨_, rfl⟩ := Prod.mk.inj (Option.some.inj moved)
    exact .refl
  | cons event rest ih =>
    simp only [SharedConnections.steps?, Option.bind_eq_bind, Option.bind_eq_some_iff] at moved
    obtain ⟨⟨early, middle⟩, moves, ⟨late, last⟩, moved, same⟩ := moved
    obtain ⟨_, rfl⟩ := Prod.mk.inj (Option.some.inj same)
    have serves : agent.step? session (.serves event) =
        some (early, { agent with shared := middle }) := by
      cases event with
      -- A new connection would be a task too, which only the agent can start.
      | opened number connection => exact absurd rfl (inside _ (by simp) number connection)
      | client | polls | works => simp [step?, moves]
    have onward : Leads session { agent with shared := middle } { agent with shared := last } :=
      ih (fun other there => inside other (List.mem_cons_of_mem _ there)) moved
    exact (leads_of_step? serves).trans onward

theorem not_opened_of_ownEvents {load : Load} {tpm : Tpm} {shared : SharedConnections}
    {events : List SharedConnections.Event} (own : events ∈ shared.ownEvents load tpm) :
    ∀ event ∈ events, ∀ number connection, event ≠ .opened number connection := by
  intro event there number connection opens
  subst opens
  simp only [SharedConnections.ownEvents, SharedConnections.workOn, List.mem_append,
    List.mem_map, List.mem_singleton] at own
  obtain (⟨entry, _, rfl⟩ | rfl) | ⟨work, _, rfl⟩ := own
  · simp at there
  · simp at there
  · simp at there

theorem leads_of_serving (agent : RunningAgent) (load : Load) (tpm : Tpm) (fuel : Nat)
    (earlier : List (List Effect)) :
    Leads session agent { agent with
      shared := (agent.shared.settleGo session load tpm fuel earlier).2 } := by
  induction fuel generalizing agent earlier with
  | zero => exact .refl
  | succ fuel ih =>
    unfold SharedConnections.settleGo
    split
    · rename_i effects next found
      obtain ⟨events, own, moved⟩ := List.exists_of_findSome?_eq_some found
      have first : Leads session agent { agent with shared := next } :=
        leads_of_steps? (not_opened_of_ownEvents own) moved
      exact first.trans (ih _ _)
    · exact .refl

theorem leads_of_ownEvent {event : Lifecycle.Event} {step : Lifecycle.Step}
    (own : event ∈ agent.life.ownEvents) (moved : agent.life.step? event = some step) :
    Leads session agent { agent with life := step.next } := by
  -- Neither accepting a stream nor ending a connection is among these events.
  have same : agent.step? session (.agent event) =
      some (step.effects, { agent with life := step.next }) := by
    simp only [Lifecycle.ownEvents, List.mem_append, List.mem_cons, List.mem_map,
      List.not_mem_nil, or_false] at own
    obtain (rfl | rfl | rfl) | ⟨caller, _, rfl⟩ := own <;> simp [step?, moved]
  exact leads_of_step? same

theorem leads_of_windingUp (agent : RunningAgent) (fuel : Nat) (earlier : List Effect) :
    Leads session agent { agent with
      life := (Lifecycle.settleGo fuel earlier agent.life).2 } := by
  induction fuel generalizing agent earlier with
  | zero => exact .refl
  | succ fuel ih =>
    unfold Lifecycle.settleGo
    split
    · rename_i step found
      obtain ⟨event, own, moved⟩ := List.exists_of_findSome?_eq_some found
      have first : Leads session agent { agent with life := step.next } :=
        leads_of_ownEvent own moved
      exact first.trans (ih _ _)
    · exact .refl

end RunningAgent

namespace Service

open RunningAgent (Leads leads_of_step? leads_of_serving leads_of_windingUp)

variable {session : Session} {service : Service}

theorem apply_leads (service : Service) (session : Session) (event : RunningAgent.Event) :
    Leads session service.toRunningAgent (service.apply session event).2.toRunningAgent := by
  unfold apply
  split
  · rename_i effects next moved
    exact leads_of_step? moved
  · exact .refl

theorem loopStep_leads (service : Service) (session : Session) (now : Nat)
    (event : RunningAgent.Event) :
    Leads session service.toRunningAgent (service.loopStep session now event).2.toRunningAgent :=
  service.apply_leads session event

theorem acceptGo_leads (session : Session) (now : Nat)
    (items : List (Except SystemError (Nat × Connection))) (earlier : List Effect)
    (service : Service) :
    Leads session service.toRunningAgent
      (acceptGo session now items earlier service).2.toRunningAgent := by
  induction items generalizing earlier service with
  | nil => exact .refl
  | cons item rest ih =>
    unfold acceptGo
    split
    · exact (service.loopStep_leads session now (taking item)).trans (ih _ _)
    · split <;> exact .refl

theorem accept_leads (service : Service) (session : Session) (now : Nat) :
    Leads session service.toRunningAgent (service.accept session now).2.toRunningAgent :=
  (service.apply_leads session (.agent (.loop .notice))).trans (acceptGo_leads ..)

theorem serve_leads (service : Service) (session : Session) (load : Load) (tpm : Tpm) :
    Leads session service.toRunningAgent (service.serve session load tpm).2.toRunningAgent :=
  leads_of_serving service.toRunningAgent load tpm _ _

theorem reapOne_leads (session : Session) (state : Step) (number : Nat) :
    Leads session state.2.toRunningAgent (reapOne session state number).2.toRunningAgent :=
  state.2.apply_leads session (.ends number)

theorem reap_leads (service : Service) (session : Session) :
    Leads session service.toRunningAgent (service.reap session).2.toRunningAgent := by
  have reaps (numbers : List Nat) (state : Step) : Leads session state.2.toRunningAgent
      (numbers.foldl (reapOne session) state).2.toRunningAgent := by
    induction numbers generalizing state with
    | nil => exact .refl
    | cons number rest ih => exact (reapOne_leads session state number).trans (ih _)
  exact reaps service.unfinished ([], service)

theorem windUp_leads (service : Service) (session : Session) :
    Leads session service.toRunningAgent service.windUp.2.toRunningAgent :=
  leads_of_windingUp service.toRunningAgent (service.life.callers.length + 3) []

theorem settle_leads (service : Service) (session : Session) (load : Load) (tpm : Tpm)
    (now : Nat) :
    Leads session service.toRunningAgent (service.settle session load tpm now).2.toRunningAgent := by
  have accepts := service.accept_leads session now
  have serves := (service.accept session now).2.serve_leads session load tpm
  have reaps := ((service.accept session now).2.serve session load tpm).2.reap_leads session
  have windsUp :=
    (((service.accept session now).2.serve session load tpm).2.reap session).2.windUp_leads session
  unfold settle
  dsimp only
  exact ((accepts.trans serves).trans reaps).trans windsUp

theorem elapse_leads (session : Session) (load : Load) (tpm : Tpm) (limit fuel : Nat)
    (earlier : List Effect) (service : Service) :
    Leads session service.toRunningAgent
      (elapse session load tpm limit fuel earlier service).2.toRunningAgent := by
  induction fuel generalizing earlier service with
  | zero => exact .refl
  | succ fuel ih =>
    unfold elapse
    split
    · exact .refl
    · split
      · exact .refl
      · rename_i due _ _
        have woken := loopStep_leads { service with pauseEnds := none } session due
          (.agent (.loop .pauseOver))
        have settled := settle_leads (loopStep { service with pauseEnds := none } session due
          (.agent (.loop .pauseOver))).2 session load tpm due
        dsimp only
        exact (woken.trans settled).trans (ih _ _)

theorem deliver_leads (service : Service) (session : Session) (number : Nat)
    (act : Connection.ClientAct) :
    Leads session service.toRunningAgent (service.deliver number act).toRunningAgent := by
  unfold deliver
  dsimp only
  split
  · rename_i connection found
    have acts : service.toRunningAgent.step? session (.serves (.client number act)) =
        some ([], { service.toRunningAgent with
          shared := service.shared.update number (connection.after act) }) := by
      simp [RunningAgent.step?, SharedConnections.step?, found]
    exact leads_of_step? acts
  · exact .refl

theorem queue_toRunningAgent (service : Service) (item : Except SystemError (Nat × Connection)) :
    (service.queue item).toRunningAgent = service.toRunningAgent := by
  unfold queue
  split <;> rfl

inductive Reaches (session : Session) (socketPath : Option String) : Service → Prop where
  | start : Reaches session socketPath (.start socketPath)
  | settles {service : Service} (load : Load) (tpm : Tpm) (now : Nat)
      (reached : Reaches session socketPath service) :
      Reaches session socketPath (service.settle session load tpm now).2
  | elapses {service : Service} (load : Load) (tpm : Tpm) (limit fuel : Nat)
      (reached : Reaches session socketPath service) :
      Reaches session socketPath (elapse session load tpm limit fuel [] service).2
  | delivers {service : Service} (number : Nat) (act : Connection.ClientAct)
      (reached : Reaches session socketPath service) :
      Reaches session socketPath (service.deliver number act)
  | queues {service : Service} (item : Except SystemError (Nat × Connection))
      (reached : Reaches session socketPath service) :
      Reaches session socketPath (service.queue item)
  | applies {service : Service} (event : Lifecycle.Event)
      (reached : Reaches session socketPath service) :
      Reaches session socketPath (service.apply session (.agent event)).2

theorem Reaches.agent {socketPath : Option String} (reached : Reaches session socketPath service) :
    ∃ history, RunningAgent.Reaches session socketPath history service.toRunningAgent := by
  induction reached with
  | start => exact ⟨.empty, .start⟩
  | settles load tpm now _ ih =>
    obtain ⟨history, agent⟩ := ih
    exact agent.leads (settle_leads _ session load tpm now)
  | elapses load tpm limit fuel _ ih =>
    obtain ⟨history, agent⟩ := ih
    exact agent.leads (elapse_leads session load tpm limit fuel [] _)
  | delivers number act _ ih =>
    obtain ⟨history, agent⟩ := ih
    exact agent.leads (deliver_leads _ session number act)
  | queues item _ ih =>
    rw [queue_toRunningAgent]
    exact ih
  | applies event _ ih =>
    obtain ⟨history, agent⟩ := ih
    exact agent.leads (apply_leads _ session (.agent event))

end Service

end SoleKey
