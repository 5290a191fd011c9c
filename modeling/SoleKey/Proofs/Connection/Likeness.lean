import SoleKey.Proofs.Connection.Settling

set_option autoImplicit false

namespace SoleKey

structure SeenAlike {α : Type} (seen : Effect → Bool) (first second : List Effect × α) : Prop where
  effects : first.1.filter seen = second.1.filter seen
  value : first.2 = second.2

theorem SeenAlike.refl {α : Type} (seen : Effect → Bool) (run : List Effect × α) :
    SeenAlike seen run run :=
  ⟨rfl, rfl⟩

namespace Frame

inductive RestsAlike : Bytes → Bytes → Prop where
  | oversized {tail other : Bytes} (last : Oversized tail) (lastToo : Oversized other) :
      RestsAlike tail other
  | unfinished {tail other : Bytes} (last : Unfinished tail) (lastToo : Unfinished other)
      (ends : mayEnd tail = mayEnd other) : RestsAlike tail other

theorem RestsAlike.refl {tail : Bytes} (last : Oversized tail ∨ Unfinished tail) :
    RestsAlike tail tail := by
  rcases last with oversized | unfinished
  · exact .oversized oversized oversized
  · exact .unfinished unfinished unfinished rfl

end Frame

namespace Session

/-- Each body finds the key and the TPM of its own turn. -/
def handlerOver (session : Session) (loads : Nat → Load) (tpms : Nat → Tpm) : Handler Nat :=
  fun turn body =>
    let (effects, reply, _) := session.handler (loads turn) (tpms turn) () body
    (effects, reply, turn + 1)

end Session

namespace Connection

open SoleKey.Frame

variable {σ τ : Type} {seen : Effect → Bool} {handler : Handler σ} {other : Handler τ}
  {state : σ} {second : τ} {connection : Connection} {buffer : Bytes}

/-- Two inputs that are frames, answered alike one for one, and then rests that are alike. -/
inductive InputsAlike (seen : Effect → Bool) (handler : Handler σ) (other : Handler τ) :
    σ → Bytes → τ → Bytes → Prop where
  | rest (state : σ) (second : τ) {tail left : Bytes} (alike : RestsAlike tail left) :
      InputsAlike seen handler other state tail second left
  | frame {state : σ} {second : τ} {body another bytes more : Bytes}
      (bounded : body.length ≤ maxBody) (boundedToo : another.length ≤ maxBody)
      (effects : (handler state body).1.filter seen = (other second another).1.filter seen)
      (reply : (handler state body).2.1 = (other second another).2.1)
      (later : InputsAlike seen handler other (handler state body).2.2 bytes
        (other second another).2.2 more) :
      InputsAlike seen handler other state (Wire.putBytes body ++ bytes) second
        (Wire.putBytes another ++ more)

theorem inputsAlike_framed {session : Session} {loads loadsToo : Nat → Load}
    {tpms tpmsToo : Nat → Tpm} {bytes more : Bytes} {bodies others : List Bytes} {tail left : Bytes}
    (framed : Framed bytes bodies tail) (framedToo : Framed more others left)
    (rests : RestsAlike tail left) (length : bodies.length = others.length) (count : Nat)
    (answered : ∀ turn body another, bodies[turn]? = some body → others[turn]? = some another →
      SeenAlike seen ((session body).run (loads (count + turn)) (tpms (count + turn)))
        ((session another).run (loadsToo (count + turn)) (tpmsToo (count + turn)))) :
    InputsAlike seen (session.handlerOver loads tpms) (session.handlerOver loadsToo tpmsToo)
      count bytes count more := by
  induction bodies generalizing others bytes more count with
  | nil =>
    obtain rfl : others = [] := List.length_eq_zero_iff.1 length.symm
    rw [framed.whole, framedToo.whole]
    exact .rest count count rests
  | cons body bodies ih =>
    obtain ⟨another, others, rfl⟩ := List.exists_cons_of_length_eq_add_one length.symm
    have now := answered 0 body another rfl rfl
    rw [framed.whole, framedToo.whole]
    simp only [List.flatMap_cons, List.append_assoc]
    refine .frame (framed.bounded body (by simp)) (framedToo.bounded another (by simp)) now.effects
      now.value (ih framed.next_cons.2 framedToo.next_cons.2 (Nat.succ.inj length) (count + 1) ?_)
    intro turn next following found foundToo
    rw [Nat.add_right_comm count 1 turn]
    exact answered (turn + 1) next following found foundToo

def holding (connection : Connection) (buffer : Bytes) : Connection :=
  { connection with buffer := buffer }

theorem send_holding (connection : Connection) (buffer : Bytes) (reply : Reply) :
    (connection.holding buffer).send reply = (connection.send reply).holding buffer := by
  have sent := send_of_input connection buffer connection.ending reply
  rw [holding, holding, sent, ← ending_send connection reply]

@[simp] theorem written_holding (connection : Connection) (buffer : Bytes) :
    (connection.holding buffer).written = connection.written := rfl

@[simp] theorem result?_holding (connection : Connection) (buffer : Bytes) :
    (connection.holding buffer).result? = connection.result? := rfl

theorem answer?_holding (handler : Handler σ) (state : σ) (reading : connection.phase = .reading)
    {body rest : Bytes} (found : Frame.next buffer = .frame body rest) :
    (connection.holding buffer).answer? handler state =
      some ((handler state body).1, (handler state body).2.2,
        (connection.send (handler state body).2.1).holding rest) := by
  have readingToo : (connection.holding buffer).phase = .reading := reading
  rw [answer?_frame handler state readingToo found, ← send_holding]
  rfl

inductive TurnsAlike (seen : Effect → Bool) (handler : Handler σ) (other : Handler τ) (state : σ)
    (connection : Connection) (second : τ) (buffer : Bytes) : Prop where
  | rests (rests : connection.answer? handler state = none)
      (restsToo : (connection.holding buffer).answer? other second = none)
  | turns {effects effectsToo : List Effect} {later : σ} {laterToo : τ} {next : Connection}
      {left : Bytes} (turn : connection.answer? handler state = some (effects, later, next))
      (turnToo : (connection.holding buffer).answer? other second =
        some (effectsToo, laterToo, next.holding left))
      (same : effects.filter seen = effectsToo.filter seen)
      (onwards : InputsAlike seen handler other later next.buffer laterToo left)

theorem turnsAlike_closed (alike : RestsAlike connection.buffer buffer)
    (result : Except ConnectionError Unit)
    (takes : connection.take? = some (.ended (connection.close result)))
    (takesToo : (connection.holding buffer).take? =
      some (.ended ((connection.holding buffer).close result))) :
    TurnsAlike seen handler other state connection second buffer := by
  have turn : connection.answer? handler state = some ([], state, connection.close result) := by
    simp [answer?, takes]
  have turnToo : (connection.holding buffer).answer? other second =
      some ([], second, (connection.close result).holding buffer) := by
    rw [answer?, takesToo]
    rfl
  exact .turns turn turnToo rfl (.rest state second alike)

theorem turnsAlike_rest (reading : connection.phase = .reading)
    (alike : RestsAlike connection.buffer buffer) :
    TurnsAlike seen handler other state connection second buffer := by
  cases alike with
  | oversized last lastToo =>
    exact turnsAlike_closed (.oversized last lastToo) (.error .oversized)
      (by simp [take?, reading, next_oversized last])
      (by simp [holding, take?, reading, next_oversized lastToo])
  | unfinished last lastToo ends =>
    have waits := next_incomplete last
    have waitsToo := next_incomplete lastToo
    cases ending : connection.ending with
    | none =>
      exact .rests (by simp [answer?, take?, reading, waits, ending])
        (by simp [holding, answer?, take?, reading, waitsToo, ending])
    | some how =>
      have same : finalResult buffer how = finalResult connection.buffer how := by
        cases how <;> simp [finalResult, ends]
      exact turnsAlike_closed (.unfinished last lastToo ends)
        (finalResult connection.buffer how)
        (by simp [take?, reading, waits, ending])
        (by simp [holding, take?, reading, waitsToo, ending, same])

theorem InputsAlike.turns
    (alike : InputsAlike seen handler other state connection.buffer second buffer) :
    TurnsAlike seen handler other state connection second buffer := by
  cases phase : connection.phase with
  | waiting | ended =>
    exact .rests (by simp [answer?, take?, phase]) (by simp [holding, answer?, take?, phase])
  | reading =>
    generalize input : connection.buffer = bytes at alike
    cases alike with
    | rest _ _ rests => exact turnsAlike_rest phase (input ▸ rests)
    | @frame _ _ body another bytes more bounded boundedToo effects reply later =>
      have turn := answer?_holding handler state phase (next_frame bounded bytes)
      have turnToo := answer?_holding other second phase (next_frame boundedToo more)
      rw [← input] at turn
      rw [← reply] at turnToo
      exact .turns turn turnToo effects later

theorem settle_alike (handler : Handler σ) (other : Handler τ) (state : σ) (connection : Connection)
    (alike : InputsAlike seen handler other state connection.buffer second buffer) :
    (connection.settle handler state).1.filter seen =
        ((connection.holding buffer).settle other second).1.filter seen ∧
      ∃ left, ((connection.holding buffer).settle other second).2.2 =
        (connection.settle handler state).2.2.holding left := by
  induction state, connection using turns_induction handler generalizing second buffer with
  | rests state connection rests =>
    cases alike.turns with
    | rests _ restsToo =>
      rw [settle_rest rests, settle_rest restsToo]
      exact ⟨rfl, buffer, rfl⟩
    | turns turn => simp [rests] at turn
  | turns state connection effects later next turn ih =>
    cases alike.turns with
    | rests rests => simp [turn] at rests
    | turns turnAgain turnToo same onwards =>
      obtain ⟨rfl, rfl, rfl⟩ : effects = _ ∧ later = _ ∧ next = _ := by simpa [turn] using turnAgain
      obtain ⟨effectsAfter, after⟩ := ih onwards
      rw [settle_turn turn, settle_turn turnToo, List.filter_append, List.filter_append, same,
        effectsAfter]
      exact ⟨rfl, after⟩

theorem receive_all {connection : Connection} (more : connection.ending = none)
    (pieces : List Bytes) (close : Option (Except SystemError Unit)) :
    (arrivals pieces close).foldl receive connection =
      { connection with buffer := connection.buffer ++ pieces.flatten, ending := close } := by
  induction pieces generalizing connection with
  | nil =>
    obtain ⟨phase, buffer, ending, sink, sent⟩ := connection
    obtain rfl : ending = none := more
    rcases close with _ | _ | _ <;> simp [arrivals, Arrival.ofClose, receive]
  | cons piece rest ih =>
    have received : connection.receive (.bytes piece) =
        connection.holding (connection.buffer ++ piece) := by
      simp [receive, more, holding]
    have moreThen : (connection.holding (connection.buffer ++ piece)).ending = none := more
    simpa [arrivals, received, holding] using ih moreThen

/-- How two connections were served that nobody can tell apart by what is seen. -/
structure ServedAlike (seen : Effect → Bool) (served : List Effect × σ × Connection)
    (again : List Effect × τ × Connection) : Prop where
  effects : served.1.filter seen = again.1.filter seen
  written : served.2.2.written = again.2.2.written
  result : served.2.2.result? = again.2.2.result?

theorem served_alike (sink : Sink) (close : Option (Except SystemError Unit))
    {pieces others : List Bytes}
    (alike : InputsAlike seen handler other state pieces.flatten second others.flatten) :
    ServedAlike seen ((start sink).serve handler state (arrivals pieces close))
      ((start sink).serve other second (arrivals others close)) := by
  let whole : Connection := { start sink with buffer := pieces.flatten, ending := close }
  have arrived : (arrivals pieces close).foldl receive (start sink) = whole := receive_all rfl ..
  have arrivedToo : (arrivals others close).foldl receive (start sink) =
      whole.holding others.flatten := receive_all rfl ..
  rw [serve_start, serve_start, arrived, arrivedToo]
  obtain ⟨effects, left, same⟩ := settle_alike handler other state whole alike
  exact
    { effects := effects
      written := by rw [same, written_holding]
      result := by rw [same, result?_holding] }

end Connection

end SoleKey
