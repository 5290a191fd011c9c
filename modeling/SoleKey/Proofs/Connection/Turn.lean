import SoleKey.Connection.Basic

set_option autoImplicit false

namespace SoleKey.Connection

def isWaiting (connection : Connection) : Bool :=
  match connection.phase with
  | .waiting .. => true
  | _ => false

theorem isWaiting_send (connection : Connection) (reply : Reply) :
    (connection.send reply).isWaiting = false := by
  unfold send
  split
  · rfl
  · dsimp only
    split <;> rfl

theorem send_of_phase (connection : Connection) (phase : Phase) (reply : Reply) :
    { connection with phase := phase }.send reply = connection.send reply := by
  unfold send
  split <;> rfl

theorem reading_of_take? {connection : Connection} {taken : Taken}
    (takes : connection.take? = some taken) : connection.phase = .reading := by
  unfold take? at takes
  split at takes
  · simp at takes
  · simp at takes
  · assumption

theorem close_of_take? {connection closed : Connection}
    (taken : connection.take? = some (.ended closed)) :
    ∃ result, closed = connection.close result := by
  unfold take? at taken
  split at taken
  · simp at taken
  · simp at taken
  · split at taken
    · obtain ⟨ending, _, closes⟩ := Option.map_eq_some_iff.1 taken
      obtain rfl := Taken.ended.inj closes
      exact ⟨_, rfl⟩
    · obtain rfl := Taken.ended.inj (Option.some.inj taken)
      exact ⟨_, rfl⟩
    · simp at taken

theorem frame_of_take? {connection opened : Connection} {body : Bytes}
    (taken : connection.take? = some (.request body opened)) :
    ∃ rest, Frame.next connection.buffer = .frame body rest ∧
      opened = { connection with buffer := rest } := by
  unfold take? at taken
  split at taken
  · simp at taken
  · simp at taken
  · split at taken
    · simp at taken
    · simp at taken
    · rename_i found rest framed
      obtain ⟨rfl, rfl⟩ := Taken.request.inj (Option.some.inj taken)
      exact ⟨rest, framed, rfl⟩

theorem isWaiting_ended {connection closed : Connection}
    (taken : connection.take? = some (.ended closed)) : closed.isWaiting = false := by
  obtain ⟨result, rfl⟩ := close_of_take? taken
  rfl

def operate (connection : Connection) (load : Load) (tpm : Tpm) : List Effect × Connection :=
  match connection.phase with
  | .waiting operation _ =>
    let (during, outcome) := operation.run load tpm
    let (after, resumed) := connection.resume outcome
    (during ++ after, resumed)
  | _ => ([], connection)

theorem operate_of_not_waiting {connection : Connection} (load : Load) (tpm : Tpm)
    (there : connection.isWaiting = false) : connection.operate load tpm = ([], connection) := by
  cases phase : connection.phase <;> simp_all [isWaiting, operate]

theorem answer?_eq_poll? (session : Session) (load : Load) (tpm : Tpm) (connection : Connection) :
    connection.answer? (session.handler load tpm) () =
      (connection.poll? session).map fun (effects, polled) =>
        (effects ++ (polled.operate load tpm).1, (), (polled.operate load tpm).2) := by
  cases taken : connection.take? with
  | none => simp [answer?, poll?, taken]
  | some next =>
    cases next with
    | ended closed =>
      simp [answer?, poll?, taken, operate_of_not_waiting load tpm (isWaiting_ended taken)]
    | request body opened =>
      cases planned : session body with
      | done effects reply =>
        have there := isWaiting_send opened reply
        simp [answer?, poll?, taken, Session.handler, planned, Plan.run,
          operate_of_not_waiting load tpm there]
      | keyed operation finish =>
        simp [answer?, poll?, taken, Session.handler, planned, Plan.run, operate, resume,
          send_of_phase]

end SoleKey.Connection
