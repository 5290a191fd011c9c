import SoleKey.Proofs.Connection.Arrival
import SoleKey.Proofs.Connection.Shared
import SoleKey.Proofs.Effect
import SoleKey.Proofs.Request

set_option autoImplicit false

namespace SoleKey

def Reply.Ordinary (body : Bytes) : Prop :=
  body.head? ∈ [some 5, some 6, some 12, some 14]

namespace Plan

variable {α β : Type}

/-- However its key operation ends, the plan comes to a good value. -/
def Gives (good : α → Prop) : Plan α → Prop
  | .done _ value => good value
  | .keyed _ finish => ∀ outcome, good (finish outcome).2

theorem Gives.andThen {plan : Plan α} {fits : α → Prop} {good : β → Prop} (gives : plan.Gives fits)
    {next : α → List Effect × β} (continues : ∀ value, fits value → good (next value).2) :
    (plan.andThen next).Gives good := by
  cases plan with
  | done effects value => exact continues value gives
  | keyed operation finish => exact fun outcome => continues _ (gives outcome)

end Plan

namespace Session

def refusal (body : Bytes) : Reply :=
  if body.head? = some 19 then .success else .failure

theorem decode_removeAll {body : Bytes} (first : body.head? = some 19) :
    Request.decode body = .ok .removeAll := by
  obtain ⟨rest, rfl⟩ := List.head?_eq_some_iff.1 first
  rfl

theorem plan_of_other {body : Bytes} (list : body.head? ≠ some 11) (sign : body.head? ≠ some 13) :
    ∃ effects, (∀ effect ∈ effects, effect.isLog = true) ∧
      ofAgent Agent.overStoredKey body = .done effects (refusal body) := by
  by_cases first : body.head? = some 19
  · have plan : ofAgent Agent.overStoredKey body = .done [] .success := by
      simp [ofAgent, ofRequests, decode_removeAll first, Request.call?, Agent.overStoredKey,
        Plan.andThen, conclude, Answer.reply]
    exact ⟨[], by simp, by simp [plan, refusal, first]⟩
  · have failure : refusal body = .failure := by simp [refusal, first]
    rw [failure]
    cases decoded : Request.decode body with
    | error problem =>
      simp only [ofAgent, ofRequests, decoded]
      refine ⟨_, ?_, rfl⟩
      simp
    | ok request =>
      obtain ⟨command, known, starts⟩ := Request.command_of_decode decoded
      cases request with
      | list | sign | removeAll => simp_all [Request.commands]
      | add | addConstrained | remove | smartcard | lock | unlock | extension =>
        simp only [ofAgent, ofRequests, decoded, Request.call?, Agent.overStoredKey, Agent.refuse,
          Plan.andThen, conclude]
        refine ⟨_, ?_, rfl⟩
        simp

theorem encode_refusal (body : Bytes) :
    (refusal body).encode = if body.head? = some 19 then [6] else [5] := by
  by_cases first : body.head? = some 19 <;> simp [refusal, first, Reply.encode]

theorem ordinary_conclude {answered : Except SigningError Answer}
    (known : ∀ given, answered ≠ .ok (.extension given)) :
    Reply.Ordinary (conclude answered).2.encode := by
  cases answered with
  | error problem => simp [conclude, Reply.encode, Reply.Ordinary]
  | ok answer =>
    cases answer with
    | extension given => exact absurd rfl (known given)
    | identities | signature | done =>
      simp [conclude, Answer.reply, Reply.encode, Reply.Ordinary]

theorem gives_ordinary (body : Bytes) :
    (ofAgent Agent.overStoredKey body).Gives fun reply => Reply.Ordinary reply.encode := by
  -- No call of the agent comes to an answer that is an extension.
  have answers (call : Call) : (Agent.overStoredKey call).Gives
      fun answered => ∀ given, answered ≠ .ok (.extension given) := by
    have keyed (operation : KeyOperation) : (Agent.keyed operation).Gives
        fun answered => ∀ given, answered ≠ .ok (.extension given) := by
      intro outcome given
      cases outcome with
      | error problem => simp [Except.map]
      | ok result => cases result <;> simp [Except.map, KeyResult.answer]
    cases call with
    | list => exact keyed .list
    | sign key data flags => exact keyed (.sign key data flags)
    | add | remove | removeAll | lock | unlock | extension | close =>
      intro given
      simp
  unfold ofAgent ofRequests
  cases Request.decode body with
  | error problem => simp [Plan.Gives, Reply.encode, Reply.Ordinary]
  | ok request =>
    cases asked : request.call? with
    | none => simp [asked, Plan.Gives, Reply.encode, Reply.Ordinary]
    | some call =>
      simp only [asked]
      exact (answers call).andThen fun answered known => ordinary_conclude known

end Session

namespace Sink

variable (sink : Sink) (bytes : Bytes)

theorem taken_isPrefix : (sink.write bytes).2.1 <+: bytes := by
  unfold write
  split
  · exact List.prefix_refl bytes
  · dsimp only
    split <;> exact List.take_prefix ..

theorem taken_of_ok (written : (sink.write bytes).2.2 = .ok ()) :
    (sink.write bytes).2.1 = bytes := by
  cases limit : sink.room with
  | none => simp [write, limit]
  | some room =>
    by_cases fits : (bytes.take room).length = bytes.length
    · have whole : bytes.take room = bytes := (List.take_prefix ..).eq_of_length fits
      simp [write, limit, whole]
    · simp only [write, limit, if_neg fits, reduceCtorEq] at written

end Sink

namespace Connection

variable {connection : Connection}

/-- What was written are whole replies, and part of one more if its write has failed. -/
structure Speaks (connection : Connection) : Prop where
  written : ∃ (replies : List Bytes) (left : Bytes), connection.written = replies.flatMap Wire.putBytes ++ left ∧
    (∀ reply ∈ replies, Reply.Ordinary reply) ∧
    (left ≠ [] → connection.result?.isSome = true ∧
      ∃ reply, Reply.Ordinary reply ∧ left <+: Wire.putBytes reply)
  pending : ∀ operation finish, connection.phase = .waiting operation finish →
    ∀ outcome, Reply.Ordinary (finish outcome).2.encode

inductive Sends (connection : Connection) (body : Bytes) : Connection → Prop where
  | tooLong : Sends connection body (connection.close (.error (.io Frame.tooBig)))
  | whole (sink : Sink) :
      Sends connection body { connection with
        phase := .reading
        sink := sink
        pieces := Wire.putBytes body :: connection.pieces }
  | partly (sink : Sink) (taken : Bytes) (problem : SystemError)
      (part : taken <+: Wire.putBytes body) :
      Sends connection body ({ connection with
        sink := sink
        pieces := taken :: connection.pieces }.close (.error (.io problem)))

theorem sends (connection : Connection) (reply : Reply) :
    Sends connection reply.encode (connection.send reply) := by
  unfold send
  cases framed : Frame.encode? reply.encode with
  | none => exact .tooLong
  | some frame =>
    obtain rfl : Wire.putBytes reply.encode = frame := by
      unfold Frame.encode? at framed
      split at framed <;> simp_all
    have part := connection.sink.taken_isPrefix (Wire.putBytes reply.encode)
    have whole := connection.sink.taken_of_ok (Wire.putBytes reply.encode)
    dsimp only
    cases written : (connection.sink.write (Wire.putBytes reply.encode)).2.2 with
    | ok =>
      rw [whole written]
      exact .whole _
    | error problem => exact .partly _ _ problem part

theorem buffer_send (connection : Connection) (reply : Reply) :
    (connection.send reply).buffer = connection.buffer := by
  have sent := sends connection reply
  generalize connection.send reply = next at sent
  cases sent <;> rfl

theorem speaks_send {replies : List Bytes}
    (written : connection.written = replies.flatMap Wire.putBytes)
    (ordinary : ∀ reply ∈ replies, Reply.Ordinary reply) {reply : Reply}
    (more : Reply.Ordinary reply.encode) : (connection.send reply).Speaks := by
  have sent := sends connection reply
  generalize connection.send reply = next at sent
  cases sent with
  | tooLong =>
    have same : (connection.close (.error (.io Frame.tooBig))).written = connection.written := rfl
    exact
      { written := ⟨replies, [], by simp [same, written], ordinary, by simp⟩
        pending := by simp [close] }
  | whole sink =>
    have all : ∀ sent ∈ replies ++ [reply.encode], Reply.Ordinary sent := by
      simpa [or_imp, forall_and] using ⟨ordinary, more⟩
    exact
      { written := by
          refine ⟨replies ++ [reply.encode], [], ?_, all, by simp⟩
          simpa [Connection.written] using written
        pending := by simp }
  | partly sink taken problem part =>
    exact
      { written := by
          refine ⟨replies, taken, ?_, ordinary, fun _ => ⟨rfl, reply.encode, more, part⟩⟩
          simpa [Connection.written, close] using written
        pending := by simp [close] }

theorem Speaks.whole (speaks : connection.Speaks) (live : connection.result? = none) :
    ∃ replies : List Bytes, connection.written = replies.flatMap Wire.putBytes ∧
      ∀ reply ∈ replies, Reply.Ordinary reply := by
  obtain ⟨replies, left, written, ordinary, partly⟩ := speaks.written
  have nothing : left = [] := by
    by_cases empty : left = []
    · exact empty
    · have ended := (partly empty).1
      simp [live] at ended
  exact ⟨replies, by simpa [nothing] using written, ordinary⟩

theorem speaks_new (new : connection.isNew = true) : connection.Speaks := by
  cases phase : connection.phase with
  | waiting | ended => simp [isNew, phase] at new
  | reading =>
    have silent : connection.pieces = [] := by simpa [isNew, phase] using new
    exact
      { written := ⟨[], [], by simp [Connection.written, silent], by simp, by simp⟩
        pending := by simp [phase] }

theorem Speaks.after (speaks : connection.Speaks) (act : ClientAct) :
    (connection.after act).Speaks := by
  cases act with
  | sends arrival =>
    show (connection.receive arrival).Speaks
    unfold receive
    split <;> exact ⟨speaks.written, speaks.pending⟩
  | takes sink => exact ⟨speaks.written, speaks.pending⟩
  | collects => exact ⟨⟨[], [], rfl, by simp, by simp⟩, speaks.pending⟩

theorem Speaks.resume (speaks : connection.Speaks) (outcome : Except SigningError KeyResult) :
    (connection.resume outcome).2.Speaks := by
  cases phase : connection.phase with
  | reading | ended => simpa [Connection.resume, phase] using speaks
  | waiting operation finish =>
    have live : connection.result? = none := by simp [result?, phase]
    obtain ⟨replies, written, ordinary⟩ := speaks.whole live
    simpa [Connection.resume, phase] using
      speaks_send written ordinary (speaks.pending operation finish phase outcome)

theorem Speaks.poll (speaks : connection.Speaks) {effects : List Effect} {polled : Connection}
    (turn : connection.poll? (Session.ofAgent Agent.overStoredKey) = some (effects, polled)) :
    polled.Speaks := by
  have reading := phase_of_poll? turn
  obtain ⟨replies, written, ordinary⟩ := speaks.whole (by simp [result?, reading])
  obtain ⟨taken, takes, answers⟩ := Option.map_eq_some_iff.1 turn
  cases taken with
  | ended closed =>
    obtain ⟨result, rfl⟩ := close_of_take? takes
    obtain ⟨_, rfl⟩ := Prod.mk.inj answers
    exact
      { written := ⟨replies, [], by rw [List.append_nil]; exact written, ordinary, by simp⟩
        pending := by simp [close] }
  | request body opened =>
    obtain ⟨rest, _, rfl⟩ := frame_of_take? takes
    -- The reply is ordinary however the operation ends that it may have to wait for.
    have gives := Session.gives_ordinary body
    cases planned : Session.ofAgent Agent.overStoredKey body with
    | done logged reply =>
      simp only [planned] at answers gives
      obtain ⟨_, rfl⟩ := Prod.mk.inj answers
      have opened : { connection with buffer := rest }.written = replies.flatMap Wire.putBytes :=
        written
      exact speaks_send opened ordinary gives
    | keyed operation finish =>
      simp only [planned] at answers gives
      obtain ⟨_, rfl⟩ := Prod.mk.inj answers
      exact
        { written := ⟨replies, [], by rw [List.append_nil]; exact written, ordinary, by simp⟩
          pending := by
            intro _ other waits
            obtain ⟨_, rfl⟩ := Phase.waiting.inj waits
            exact gives }

end Connection

namespace SharedConnections

variable {shared : SharedConnections}

/-- What connections of an agent over the stored key do with other bodies, and what they write. -/
structure ReadOnly (shared : SharedConnections) : Prop where
  -- Nothing but log lines comes of the turn, and it leaves the lock as it is.
  refuses : ∀ number connection body rest, shared.find? number = some connection →
    connection.phase = .reading → connection.buffer = Wire.putBytes body ++ rest →
    body.length ≤ Frame.maxBody → body.head? ≠ some 11 → body.head? ≠ some 13 →
    ∃ effects answered,
      shared.step? (.ofAgent Agent.overStoredKey) (.polls number) =
        some (effects, shared.update number answered) ∧
      (∀ effect ∈ effects, effect.isLog = true) ∧ answered.buffer = rest ∧
      (connection.sink = .unlimited → answered = { connection with
        buffer := rest
        pieces :=
          Wire.putBytes (if body.head? = some 19 then [6] else [5]) :: connection.pieces })
  ordinary : ∀ number connection, shared.find? number = some connection →
    ∃ (replies : List Bytes) (left : Bytes),
      connection.written = replies.flatMap Wire.putBytes ++ left ∧
      (∀ reply ∈ replies, Reply.Ordinary reply) ∧
      (left ≠ [] → connection.result?.isSome = true ∧
        ∃ reply, Reply.Ordinary reply ∧ left <+: Wire.putBytes reply)

theorem step?_refuses {number : Nat} {connection : Connection} {body rest : Bytes}
    (found : shared.find? number = some connection) (reading : connection.phase = .reading)
    (arrived : connection.buffer = Wire.putBytes body ++ rest)
    (short : body.length ≤ Frame.maxBody) (list : body.head? ≠ some 11)
    (sign : body.head? ≠ some 13) :
    ∃ effects, (∀ effect ∈ effects, effect.isLog = true) ∧
      shared.step? (.ofAgent Agent.overStoredKey) (.polls number) = some (effects,
        shared.update number
          ({ connection with buffer := rest }.send (Session.refusal body))) := by
  obtain ⟨effects, logs, planned⟩ := Session.plan_of_other list sign
  have framed : Frame.next connection.buffer = .frame body rest := by
    rw [arrived, Frame.next_frame short]
  have turn : connection.poll? (.ofAgent Agent.overStoredKey) =
      some (effects, { connection with buffer := rest }.send (Session.refusal body)) := by
    simp [Connection.poll?, Connection.take?, reading, framed, planned]
  exact ⟨effects, logs, step?_answers found turn (Connection.isWaiting_send ..)⟩

theorem refuses_beside_list_and_sign
    (reached : Reaches (.ofAgent Agent.overStoredKey) shared) : ReadOnly shared where
  refuses := by
    intro number connection body rest found reading arrived short list sign
    obtain ⟨effects, logs, moved⟩ := step?_refuses found reading arrived short list sign
    have bounded : ¬(Session.refusal body).encode.length > Frame.maxBody := by
      rw [Session.encode_refusal]
      split <;> decide
    refine ⟨effects, _, moved, logs, ?_, ?_⟩
    · exact Connection.buffer_send ..
    · intro unlimited
      have opened : { connection with buffer := rest }.sink = .unlimited := unlimited
      rw [Connection.send_short opened bounded, Session.encode_refusal]
      simp [reading]
  ordinary := by
    intro number connection found
    have speaks : ∀ other placed, shared.find? other = some placed → placed.Speaks := reached.each
      (fun _ new => Connection.speaks_new new)
      (fun _ act speaks => speaks.after act)
      (fun _ _ _ speaks turn => speaks.poll turn)
      (fun _ outcome speaks => speaks.resume outcome)
    exact (speaks number connection found).written

-- Two requests that cannot be read, and one to remove all keys.
theorem refuses_unreadable_requests :
    ∃ shared, Reaches (.ofAgent Agent.overStoredKey) shared ∧
      (shared.find? 1).map Connection.written =
        some ([[5], [5], [6]].flatMap Wire.putBytes) ∧ ReadOnly shared := by
  have reached : Reaches (.ofAgent Agent.overStoredKey) _ := Reaches.start.steps
    [.opened 1 (.start .unlimited),
      .client 1 (.sends (.bytes ([[], [99, 1], [19, 7]].flatMap Wire.putBytes))),
      .polls 1, .polls 1, .polls 1] rfl
  exact ⟨_, reached, rfl, refuses_beside_list_and_sign reached⟩

end SharedConnections

end SoleKey
