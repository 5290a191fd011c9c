import SoleKey.Proofs.Connection.Arrival
import SoleKey.Proofs.Connection.Refusal
import SoleKey.Proofs.KeyOperation

set_option autoImplicit false

namespace SoleKey

namespace Frame

variable {bytes body rest : Bytes}

theorem next_frame_append (found : next bytes = .frame body rest) (more : Bytes) :
    next (bytes ++ more) = .frame body (rest ++ more) := by
  obtain ⟨bounded, rfl⟩ := next_eq_frame_iff.1 found
  exact next_eq_frame_iff.2 ⟨bounded, List.append_assoc ..⟩

theorem next_oversized_append (found : next bytes = .oversized) (more : Bytes) :
    next (bytes ++ more) = .oversized := by
  rcases frame_or_rest bytes with ⟨body, rest, bounded, rfl⟩ | oversized | unfinished
  · simp [next_frame bounded] at found
  · exact next_oversized (oversized.append more)
  · simp [next_incomplete unfinished] at found

end Frame

namespace Connection

variable {σ : Type} {handler : Handler σ} {state later : σ} {connection next : Connection}
  {effects : List Effect}

theorem send_of_input (connection : Connection) (buffer : Bytes)
    (ending : Option (Except SystemError Unit)) (reply : Reply) :
    { connection with buffer := buffer, ending := ending }.send reply =
      { connection.send reply with buffer := buffer, ending := ending } := by
  unfold send
  split
  · rfl
  · dsimp only
    split <;> rfl

theorem ending_send (connection : Connection) (reply : Reply) :
    (connection.send reply).ending = connection.ending := by
  unfold send
  split
  · rfl
  · dsimp only
    split <;> rfl

theorem receive_ended {ending : Except SystemError Unit} (ends : connection.ending = some ending)
    (arrival : Arrival) : connection.receive arrival = connection := by
  simp [receive, ends]

theorem receive_send (connection : Connection) (reply : Reply) (arrival : Arrival) :
    (connection.send reply).receive arrival = (connection.receive arrival).send reply := by
  have same := ending_send connection reply
  cases input : connection.ending with
  | some ending => rw [receive_ended (same.trans input), receive_ended input]
  | none =>
    rw [receive_open (same.trans input), receive_open input, buffer_send]
    exact (send_of_input connection _ _ reply).symm

theorem receive_close (connection : Connection) (result : Except ConnectionError Unit)
    (arrival : Arrival) :
    (connection.close result).receive arrival = (connection.receive arrival).close result := by
  cases input : connection.ending with
  | some ending => simp [receive, close, input]
  | none => cases arrival <;> simp [receive, close, input]

theorem phase_receive (connection : Connection) (arrival : Arrival) :
    (connection.receive arrival).phase = connection.phase :=
  phase_after connection (.sends arrival)

def Taken.receive (arrival : Arrival) : Taken → Taken
  | .request body opened => .request body (opened.receive arrival)
  | .ended closed => .ended (closed.receive arrival)

theorem take?_receive {taken : Taken} (takes : connection.take? = some taken) (arrival : Arrival) :
    (connection.receive arrival).take? = some (taken.receive arrival) := by
  cases input : connection.ending with
  | some ending =>
    -- The input is over, and what was taken is the connection with less of it.
    have same : taken.receive arrival = taken := by
      cases taken with
      | ended closed =>
        obtain ⟨result, rfl⟩ := close_of_take? takes
        rw [Taken.receive, receive_close, receive_ended input]
      | request body opened =>
        obtain ⟨rest, _, rfl⟩ := frame_of_take? takes
        have left : { connection with buffer := rest }.ending = some ending := input
        rw [Taken.receive, receive_ended left]
    rw [receive_ended input, same, takes]
  | none =>
    have reading := reading_of_take? takes
    simp only [take?, phase_receive, reading] at takes ⊢
    split at takes
    · simp [input] at takes
    · rename_i oversized
      obtain rfl := Option.some.inj takes
      rw [Taken.receive, receive_close, receive_open input]
      simp [Frame.next_oversized_append oversized]
    · rename_i body rest framed
      obtain rfl := Option.some.inj takes
      rw [receive_open input]
      simp [Taken.receive, receive_open, input, Frame.next_frame_append framed]

theorem answer?_receive (turn : connection.answer? handler state = some (effects, later, next))
    (arrival : Arrival) :
    (connection.receive arrival).answer? handler state =
      some (effects, later, next.receive arrival) := by
  obtain ⟨taken, takes, answers⟩ := Option.map_eq_some_iff.1 turn
  rw [answer?, take?_receive takes arrival, Option.map_some]
  cases taken with
  | ended closed =>
    obtain ⟨rfl, rfl, rfl⟩ := answers
    rfl
  | request body opened =>
    obtain ⟨rfl, rfl, rfl⟩ := answers
    simp only [Taken.receive, receive_send]

/-- More than the turns that are left, and than those after a key operation. -/
def ahead (connection : Connection) : Nat :=
  match connection.phase with
  | .reading => connection.buffer.length + 1
  | .waiting .. => connection.buffer.length + 2
  | .ended _ => 0

theorem ahead_of_not_waiting (answered : connection.isWaiting = false) :
    connection.ahead ≤ connection.buffer.length + 1 := by
  cases phase : connection.phase <;> simp_all [isWaiting, ahead]

theorem ahead_send (connection : Connection) (reply : Reply) :
    (connection.send reply).ahead ≤ connection.buffer.length + 1 := by
  have bound := ahead_of_not_waiting (isWaiting_send connection reply)
  rwa [buffer_send] at bound

theorem ahead_of_ended {closed : Connection} (takes : connection.take? = some (.ended closed)) :
    closed.ahead < connection.ahead := by
  obtain ⟨result, rfl⟩ := close_of_take? takes
  simp [ahead, close, reading_of_take? takes]

theorem ahead_of_request {body : Bytes} {opened : Connection}
    (takes : connection.take? = some (.request body opened)) :
    opened.buffer.length + 2 < connection.ahead := by
  obtain ⟨rest, framed, rfl⟩ := frame_of_take? takes
  obtain ⟨_, whole⟩ := Frame.next_eq_frame_iff.1 framed
  simp only [ahead, reading_of_take? takes, whole, List.length_append, Wire.length_putBytes]
  omega

theorem ahead_of_answer? (turn : connection.answer? handler state = some (effects, later, next)) :
    next.ahead < connection.ahead := by
  obtain ⟨taken, takes, answers⟩ := Option.map_eq_some_iff.1 turn
  cases taken with
  | ended closed =>
    obtain ⟨_, _, rfl⟩ := answers
    exact ahead_of_ended takes
  | request body opened =>
    obtain ⟨_, _, rfl⟩ := answers
    have shorter := ahead_of_request takes
    exact Nat.lt_of_le_of_lt (ahead_send opened _) (by omega)

theorem ahead_of_poll? {session : Session} {polled : Connection}
    (turn : connection.poll? session = some (effects, polled)) :
    polled.ahead < connection.ahead := by
  obtain ⟨taken, takes, answers⟩ := Option.map_eq_some_iff.1 turn
  cases taken with
  | ended closed =>
    obtain ⟨_, rfl⟩ := answers
    exact ahead_of_ended takes
  | request body opened =>
    have shorter := ahead_of_request takes
    cases planned : session body with
    | done logged reply =>
      simp only [planned] at answers
      obtain ⟨_, rfl⟩ := answers
      have sent := ahead_send opened reply
      omega
    | keyed operation finish =>
      simp only [planned] at answers
      obtain ⟨_, rfl⟩ := answers
      exact shorter

theorem ahead_resume (waits : connection.isWaiting = true)
    (outcome : Except SigningError KeyResult) :
    (connection.resume outcome).2.ahead < connection.ahead := by
  cases phase : connection.phase with
  | reading | ended => simp [isWaiting, phase] at waits
  | waiting operation finish =>
    have sent := ahead_send connection (finish outcome).2
    simp only [resume, phase, ahead] at sent ⊢
    omega

theorem turns_induction (handler : Handler σ) {motive : σ → Connection → Prop}
    (rests : ∀ state connection, connection.answer? handler state = none → motive state connection)
    (turns : ∀ state connection effects later next,
      connection.answer? handler state = some (effects, later, next) → motive later next →
        motive state connection)
    (state : σ) (connection : Connection) : motive state connection := by
  cases turn : connection.answer? handler state with
  | none => exact rests state connection turn
  | some taken =>
    obtain ⟨effects, later, next⟩ := taken
    have fewer := ahead_of_answer? turn
    exact turns state connection effects later next turn
      (turns_induction handler rests turns later next)
termination_by connection.ahead

theorem answers_enough {fuel more : Nat} (enough : connection.ahead ≤ fuel)
    (enoughToo : connection.ahead ≤ more) (earlier : List (List Effect)) :
    answers handler fuel earlier state connection =
      answers handler more earlier state connection := by
  induction fuel generalizing more earlier state connection with
  | zero =>
    have rests : connection.answer? handler state = none := by
      by_contra taken
      obtain ⟨turn, takes⟩ := Option.ne_none_iff_exists'.1 taken
      have fewer := ahead_of_answer? takes
      omega
    cases more <;> simp [answers, rests]
  | succ fuel ih =>
    cases turn : connection.answer? handler state with
    | none => cases more <;> simp [answers, turn]
    | some taken =>
      obtain ⟨effects, later, next⟩ := taken
      have fewer := ahead_of_answer? turn
      obtain ⟨rest, rfl⟩ : ∃ rest, more = rest + 1 := ⟨more - 1, by omega⟩
      simp only [answers, turn]
      exact ih (by omega) (by omega) (effects :: earlier)

theorem ahead_le (connection : Connection) : connection.ahead ≤ connection.buffer.length + 2 := by
  cases phase : connection.phase <;> simp [ahead, phase]

theorem settle_turn (turn : connection.answer? handler state = some (effects, later, next)) :
    connection.settle handler state =
      (effects ++ (next.settle handler later).1, (next.settle handler later).2) := by
  have fewer := ahead_of_answer? turn
  have enough := connection.ahead_le
  have onwards := answers_turn handler (connection.buffer.length + 1) turn
  rw [answers_enough (by omega) next.ahead_le []] at onwards
  exact Prod.ext onwards.1 onwards.2

theorem settle_rest (rests : connection.answer? handler state = none) :
    connection.settle handler state = ([], state, connection) := by
  simp [settle, answers, rests]

theorem settle_receive (handler : Handler σ) (state : σ) (connection : Connection)
    (arrival : Arrival) :
    (connection.receive arrival).settle handler state =
      let (effects, later, settled) := connection.settle handler state
      (effects ++ ((settled.receive arrival).settle handler later).1,
        ((settled.receive arrival).settle handler later).2) := by
  induction state, connection using turns_induction handler with
  | rests state connection rests => simp [settle_rest rests]
  | turns state connection effects later next turn ih =>
    -- The turn is there before and after the arrival, and both orders lead to the same place.
    rw [settle_turn turn, settle_turn (answer?_receive turn arrival), ih]
    simp only [List.append_assoc]

theorem settle_receive_all (handler : Handler σ) (state : σ) (connection : Connection)
    (arrivals : List Arrival) :
    (arrivals.foldl receive connection).settle handler state =
      let (effects, later, settled) := connection.settle handler state
      (effects ++ (settled.serve handler later arrivals).1,
        (settled.serve handler later arrivals).2) := by
  induction arrivals generalizing connection with
  | nil => simp [serve]
  | cons arrival rest ih =>
    rw [List.foldl_cons, ih, settle_receive]
    simp only [serve, List.append_assoc]

theorem serve_start (handler : Handler σ) (state : σ) (sink : Sink) (arrivals : List Arrival) :
    (start sink).serve handler state arrivals =
      (arrivals.foldl receive (start sink)).settle handler state := by
  have rests : (start sink).answer? handler state = none := rfl
  simp [settle_receive_all, settle_rest rests]

theorem written_send (connection : Connection) (reply : Reply) :
    connection.written <+: (connection.send reply).written := by
  have sent := sends connection reply
  generalize connection.send reply = next at sent
  cases sent with
  | tooLong => exact List.prefix_refl _
  | whole | partly => simp [written, close]

theorem written_answer? (turn : connection.answer? handler state = some (effects, later, next)) :
    connection.written <+: next.written := by
  obtain ⟨taken, takes, answers⟩ := Option.map_eq_some_iff.1 turn
  cases taken with
  | ended closed =>
    obtain ⟨_, _, rfl⟩ := answers
    obtain ⟨result, rfl⟩ := close_of_take? takes
    exact List.prefix_refl _
  | request body opened =>
    obtain ⟨_, _, rfl⟩ := answers
    obtain ⟨rest, _, rfl⟩ := frame_of_take? takes
    exact written_send { connection with buffer := rest } _

theorem written_settle (handler : Handler σ) (state : σ) (connection : Connection) :
    connection.written <+: (connection.settle handler state).2.2.written := by
  induction state, connection using turns_induction handler with
  | rests state connection rests => simp [settle_rest rests]
  | turns state connection effects later next turn ih =>
    rw [settle_turn turn]
    exact (written_answer? turn).trans ih

variable {session : Session} {load : Load} {tpm : Tpm}

/-- The connection after the key operation it waits for and all turns that are left. -/
def caughtUp (session : Session) (load : Load) (tpm : Tpm) (connection : Connection) : Connection :=
  ((connection.operate load tpm).2.settle (session.handler load tpm) ()).2.2

def AtRest (connection : Connection) : Prop :=
  connection.isWaiting = false ∧ connection.take? = none

theorem caughtUp_of_poll? {polled : Connection}
    (turn : connection.poll? session = some (effects, polled)) :
    polled.caughtUp session load tpm = connection.caughtUp session load tpm := by
  have reading : connection.isWaiting = false := by simp [isWaiting, phase_of_poll? turn]
  have answered := answer?_eq_poll? session load tpm connection
  rw [turn, Option.map_some] at answered
  rw [caughtUp, caughtUp, operate_of_not_waiting load tpm reading, settle_turn answered]

theorem caughtUp_of_resume {operation : KeyOperation} {finish : KeyContinuation}
    (waits : connection.phase = .waiting operation finish) :
    (connection.resume (operation.conclude load tpm).2).2.caughtUp session load tpm =
      connection.caughtUp session load tpm := by
  have operated : (connection.operate load tpm).2 =
      (connection.resume (operation.conclude load tpm).2).2 := by
    simp [operate, waits, KeyOperation.run_eq]
  rw [caughtUp, caughtUp, operated, operate_of_not_waiting load tpm (isWaiting_resume waits _)]

theorem operate_receive (connection : Connection) (arrival : Arrival) :
    ((connection.receive arrival).operate load tpm).2 =
      (connection.operate load tpm).2.receive arrival := by
  have same := phase_receive connection arrival
  cases phase : connection.phase with
  | reading | ended => simp [operate, same, phase]
  | waiting operation finish => simp [operate, resume, same, phase, receive_send]

theorem caughtUp_receive (connection : Connection) (arrival : Arrival) :
    (connection.receive arrival).caughtUp session load tpm =
      (((connection.caughtUp session load tpm).receive arrival).settle
        (session.handler load tpm) ()).2.2 := by
  rw [caughtUp, operate_receive, settle_receive]
  rfl

theorem caughtUp_of_atRest (rests : connection.AtRest) :
    connection.caughtUp session load tpm = connection := by
  have still : connection.answer? (session.handler load tpm) () = none := by
    simp [answer?, rests.2]
  rw [caughtUp, operate_of_not_waiting load tpm rests.1, settle_rest still]

theorem atRest_of_result? {result : Except ConnectionError Unit}
    (ended : connection.result? = some result) : connection.AtRest := by
  refine ⟨?_, take?_ended ended⟩
  cases phase : connection.phase <;> simp_all [isWaiting, result?]

theorem written_caughtUp (connection : Connection) :
    connection.written <+: (connection.caughtUp session load tpm).written := by
  have operated : connection.written <+: (connection.operate load tpm).2.written := by
    cases phase : connection.phase with
    | reading | ended => simp [operate, phase]
    | waiting operation finish =>
      simpa [operate, resume, phase] using written_send connection _
  exact operated.trans (written_settle _ _ _)

end Connection

end SoleKey
