import SoleKey.Connection.Basic
import SoleKey.Proofs.Connection.Frame

set_option autoImplicit false

namespace SoleKey.Connection

open SoleKey.Frame

variable {σ : Type}

structure Conversation (σ : Type) where
  effects : List Effect
  replies : List Bytes
  state : σ
  -- The last body was answered by a reply that is too long to be sent.
  stopped : Bool

def converse (handler : Handler σ) (state : σ) : List Bytes -> Conversation σ
  | [] => ⟨[], [], state, false⟩
  | body :: rest =>
    let (effects, reply, next) := handler state body
    if reply.encode.length > maxBody then ⟨effects, [], next, true⟩
    else
      let later := converse handler next rest
      ⟨effects ++ later.effects, reply.encode :: later.replies, later.state, later.stopped⟩

/-- How a connection stands once all that arrived is dealt with; without a result it goes on. -/
inductive Ends (stopped : Bool) (tail : Bytes) (ending : Option (Except SystemError Unit)) :
    Option (Except ConnectionError Unit) → Prop where
  | replyTooLong (long : stopped = true) : Ends stopped tail ending (some (.error (.io tooBig)))
  | oversized (answered : stopped = false) (last : Oversized tail) :
      Ends stopped tail ending (some (.error .oversized))
  | failed (problem : SystemError) (answered : stopped = false) (last : Unfinished tail)
      (broken : ending = some (.error problem)) :
      Ends stopped tail ending (some (.error (.io problem)))
  | clean (answered : stopped = false) (last : Unfinished tail) (finished : ending = some (.ok ()))
      (between : tail.length = 0 ∨ tail.length = headerSize) :
      Ends stopped tail ending (some (.ok ()))
  | cutShort (answered : stopped = false) (last : Unfinished tail) (finished : ending = some (.ok ()))
      (within : tail.length ≠ 0 ∧ tail.length ≠ headerSize) :
      Ends stopped tail ending (some (.error (.io Frame.cutShort)))
  | goesOn (answered : stopped = false) (last : Unfinished tail) (more : ending = none) :
      Ends stopped tail ending none

theorem not_oversized_of_unfinished {tail : Bytes} (last : Unfinished tail) : ¬Oversized tail := by
  intro oversized
  have incomplete := next_incomplete last
  simp [next_oversized oversized] at incomplete

theorem Ends.unique {stopped : Bool} {tail : Bytes} {ending : Option (Except SystemError Unit)}
    {result other : Option (Except ConnectionError Unit)} (ends : Ends stopped tail ending result)
    (again : Ends stopped tail ending other) : result = other := by
  cases ends <;> cases again <;>
    simp_all [not_oversized_of_unfinished]

structure Settled (handler : Handler σ) (first : σ) (sent : Bytes)
    (close : Option (Except SystemError Unit)) (bodies : List Bytes) (tail : Bytes)
    (served : List Effect × σ × Connection) : Prop where
  effects : served.1 = (converse handler first bodies).effects
  state : served.2.1 = (converse handler first bodies).state
  written : served.2.2.written =
    sent ++ (converse handler first bodies).replies.flatMap Wire.putBytes
  sink : served.2.2.sink = .unlimited
  ending : served.2.2.ending = close
  ends : Ends (converse handler first bodies).stopped tail close served.2.2.result?
  waits : served.2.2.result? = none → served.2.2.phase = .reading ∧ served.2.2.buffer = tail

theorem answers_append (handler : Handler σ) (fuel : Nat) (earlier : List (List Effect)) (state : σ)
    (connection : Connection) :
    answers handler fuel earlier state connection =
      ((answers handler fuel [] state connection).1 ++ earlier,
        (answers handler fuel [] state connection).2) := by
  induction fuel generalizing earlier state connection with
  | zero => rfl
  | succ fuel ih =>
    cases answered : connection.answer? handler state with
    | none => simp [answers, answered]
    | some turn =>
      obtain ⟨more, next, taken⟩ := turn
      simp only [answers, answered]
      rw [ih (more :: earlier), ih [more], List.append_assoc, List.singleton_append]

theorem answer?_frame (handler : Handler σ) (state : σ) {connection : Connection}
    (reading : connection.phase = .reading) {body rest : Bytes}
    (found : next connection.buffer = .frame body rest) :
    connection.answer? handler state =
      some ((handler state body).1, (handler state body).2.2,
        { connection with buffer := rest }.send (handler state body).2.1) := by
  simp [answer?, take?, reading, found]

theorem take?_ended {connection : Connection} {result : Except ConnectionError Unit}
    (ended : connection.result? = some result) : connection.take? = none := by
  cases phase : connection.phase <;> simp_all [result?, take?]

theorem send_long {connection : Connection} {reply : Reply}
    (long : reply.encode.length > maxBody) :
    connection.send reply = connection.close (.error (.io tooBig)) := by
  simp [send, Frame.encode?, long]

theorem send_short {connection : Connection} {reply : Reply}
    (unlimited : connection.sink = .unlimited) (short : ¬reply.encode.length > maxBody) :
    connection.send reply = { connection with
      phase := .reading
      pieces := Wire.putBytes reply.encode :: connection.pieces } := by
  simp [send, Frame.encode?, short, unlimited, Sink.write, Sink.unlimited, Sink.flush]

theorem answers_ended (handler : Handler σ) (fuel : Nat) (earlier : List (List Effect)) (state : σ)
    {connection : Connection} {result : Except ConnectionError Unit}
    (ended : connection.result? = some result) :
    answers handler fuel earlier state connection = (earlier, state, connection) := by
  cases fuel <;> simp [answers, answer?, take?_ended ended]

theorem answers_turn (handler : Handler σ) (fuel : Nat) {state later : σ}
    {connection next : Connection} {effects : List Effect}
    (turn : connection.answer? handler state = some (effects, later, next)) :
    (answers handler (fuel + 1) [] state connection).1.reverse.flatten =
        effects ++ (answers handler fuel [] later next).1.reverse.flatten ∧
      (answers handler (fuel + 1) [] state connection).2 =
        (answers handler fuel [] later next).2 := by
  simp only [answers, turn]
  rw [answers_append handler fuel [effects]]
  simp

theorem ends_finalResult {tail : Bytes} (last : Unfinished tail)
    (ending : Except SystemError Unit) :
    Ends false tail (some ending) (some (finalResult tail ending)) := by
  cases ending with
  | error problem => exact .failed problem rfl last rfl
  | ok _ =>
    by_cases between : tail.length = 0 ∨ tail.length = headerSize
    · have may : mayEnd tail = true := by simpa [mayEnd] using between
      simpa [finalResult, may] using Ends.clean rfl last rfl between
    · have not : mayEnd tail = false := by simpa [mayEnd] using between
      simpa [finalResult, not] using Ends.cutShort rfl last rfl (not_or.1 between)

theorem settled_closed (handler : Handler σ) (state : σ) {connection : Connection} {tail : Bytes}
    {result : Except ConnectionError Unit} (unlimited : connection.sink = .unlimited)
    (ends : Ends false tail connection.ending (some result)) :
    Settled handler state connection.written connection.ending [] tail
      ([], state, connection.close result) where
  effects := rfl
  state := rfl
  written := by simp [converse, written, close]
  sink := unlimited
  ending := rfl
  ends := ends
  waits ended := by simp [result?, close] at ended

theorem answers_rest (handler : Handler σ) (fuel : Nat) (state : σ) {connection : Connection}
    (reading : connection.phase = .reading) (unlimited : connection.sink = .unlimited)
    (last : Oversized connection.buffer ∨ Unfinished connection.buffer) :
    Settled handler state connection.written connection.ending [] connection.buffer
      ((answers handler (fuel + 1) [] state connection).1.reverse.flatten,
        (answers handler (fuel + 1) [] state connection).2) := by
  -- A closed connection takes no further turn, so the rest of the fuel changes nothing.
  have closes (result : Except ConnectionError Unit)
      (taken : connection.take? = some (.ended (connection.close result)))
      (ends : Ends false connection.buffer connection.ending (some result)) :
      Settled handler state connection.written connection.ending [] connection.buffer
        ((answers handler (fuel + 1) [] state connection).1.reverse.flatten,
          (answers handler (fuel + 1) [] state connection).2) := by
    have turn : connection.answer? handler state = some ([], state, connection.close result) := by
      simp [answer?, taken]
    have ended : (connection.close result).result? = some result := rfl
    have later := answers_turn handler fuel turn
    rw [answers_ended handler fuel [] state ended] at later
    rw [later.1, later.2]
    exact settled_closed handler state unlimited ends
  rcases last with oversized | unfinished
  · exact closes _ (by simp [take?, reading, next_oversized oversized]) (.oversized rfl oversized)
  · cases ending : connection.ending with
    | some problem =>
      refine ending ▸ closes (finalResult connection.buffer problem) ?_ ?_
      · simp [take?, reading, next_incomplete unfinished, ending]
      · exact ending ▸ ends_finalResult unfinished problem
    | none =>
      have waits : connection.take? = none := by
        simp [take?, reading, next_incomplete unfinished, ending]
      have same : answers handler (fuel + 1) [] state connection = ([], state, connection) := by
        simp [answers, answer?, waits]
      have open_ : connection.result? = none := by simp [result?, reading]
      rw [same]
      exact
        { effects := rfl
          state := rfl
          written := by simp [converse]
          sink := unlimited
          ending := ending
          ends := open_ ▸ .goesOn rfl unfinished rfl
          waits := fun _ => ⟨reading, rfl⟩ }

theorem answers_framed (handler : Handler σ) {bodies : List Bytes} {tail : Bytes} {fuel : Nat}
    (enough : bodies.length < fuel) (state : σ) {connection : Connection}
    (reading : connection.phase = .reading) (unlimited : connection.sink = .unlimited)
    (framed : Framed connection.buffer bodies tail) :
    Settled handler state connection.written connection.ending bodies tail
      ((answers handler fuel [] state connection).1.reverse.flatten,
        (answers handler fuel [] state connection).2) := by
  -- One turn takes one body, and one more may close the connection.
  induction bodies generalizing fuel state connection with
  | nil =>
    obtain rfl : connection.buffer = tail := framed.whole
    cases fuel with
    | zero => simp at enough
    | succ fuel => exact answers_rest handler fuel state reading unlimited framed.last
  | cons body rest ih =>
    obtain ⟨found, framedRest⟩ := framed.next_cons
    rcases answered : handler state body with ⟨effects, reply, later⟩
    cases fuel with
    | zero => simp at enough
    | succ fuel =>
      have turn := answer?_frame handler state reading found
      rw [answered] at turn
      by_cases long : reply.encode.length > maxBody
      · rw [send_long long] at turn
        obtain ⟨effectsAfter, after⟩ := answers_turn handler fuel turn
        rw [answers_ended handler fuel [] later rfl] at effectsAfter after
        rw [effectsAfter, after]
        exact
          { effects := by simp [converse, answered, long]
            state := by simp [converse, answered, long]
            written := by simp [converse, answered, long, written, close]
            sink := unlimited
            ending := rfl
            ends := by simpa [converse, answered, long, close, result?] using Ends.replyTooLong rfl
            waits := fun ended => by simp [result?, close] at ended }
      · let sent : Connection :=
          { connection with
            phase := .reading
            buffer := rest.flatMap Wire.putBytes ++ tail
            pieces := Wire.putBytes reply.encode :: connection.pieces }
        have opened : { connection with
            buffer := rest.flatMap Wire.putBytes ++ tail }.sink = .unlimited := unlimited
        rw [send_short opened long] at turn
        obtain ⟨effectsAfter, after⟩ := answers_turn handler fuel turn
        have settled := ih (Nat.lt_of_succ_lt_succ enough) later (rfl : sent.phase = .reading)
          unlimited framedRest
        rw [effectsAfter, after]
        exact
          { effects := by simpa [converse, answered, long] using settled.effects
            state := by simpa [converse, answered, long] using settled.state
            written := by simpa [converse, answered, long, written, sent] using settled.written
            sink := settled.sink
            ending := settled.ending
            ends := by simpa [converse, answered, long] using settled.ends
            waits := settled.waits }

theorem settle_framed (handler : Handler σ) (state : σ) {connection : Connection}
    {bodies : List Bytes} {tail : Bytes} (reading : connection.phase = .reading)
    (unlimited : connection.sink = .unlimited) (framed : Framed connection.buffer bodies tail) :
    Settled handler state connection.written connection.ending bodies tail
      (connection.settle handler state) := by
  have enough : bodies.length < connection.buffer.length + 2 := by
    have fewer := framed.length_le
    omega
  exact answers_framed handler enough state reading unlimited framed

theorem settle_ended (handler : Handler σ) (state : σ) {connection : Connection}
    {result : Except ConnectionError Unit} (ended : connection.result? = some result) :
    connection.settle handler state = ([], state, connection) := by
  simp [settle, answers_ended handler _ [] state ended]

theorem converse_append (handler : Handler σ) (state : σ) (bodies others : List Bytes) :
    converse handler state (bodies ++ others) =
      let early := converse handler state bodies
      if early.stopped then early
      else
        let late := converse handler early.state others
        ⟨early.effects ++ late.effects, early.replies ++ late.replies, late.state, late.stopped⟩ := by
  induction bodies generalizing state with
  | nil => simp [converse]
  | cons body rest ih =>
    by_cases long : (handler state body).2.1.encode.length > maxBody
    · simp [converse, long]
    · by_cases stopped : (converse handler (handler state body).2.2 rest).stopped
      · simp [converse, long, ih, stopped]
      · simp [converse, long, ih, stopped]

def Arrival.content : Arrival → Bytes
  | .bytes content => content
  | .failure _ | .finished => []

def Arrival.close : Arrival → Option (Except SystemError Unit)
  | .bytes _ => none
  | .failure problem => some (.error problem)
  | .finished => some (.ok ())

theorem receive_open {connection : Connection} (more : connection.ending = none)
    (arrival : Arrival) :
    connection.receive arrival = { connection with
      buffer := connection.buffer ++ arrival.content
      ending := arrival.close } := by
  cases arrival <;> simp [receive, more, Arrival.content, Arrival.close]

/-- The bytes so far have a parting into frames by which the connection has settled. -/
def SettledBy (handler : Handler σ) (first : σ) (bytes : Bytes)
    (close : Option (Except SystemError Unit)) (served : List Effect × σ × Connection) : Prop :=
  ∃ bodies tail, Framed bytes bodies tail ∧ Settled handler first [] close bodies tail served

theorem settledBy_start (handler : Handler σ) (first : σ) :
    SettledBy handler first [] none ([], first, start .unlimited) := by
  have last : Unfinished [] := .inl (by decide)
  refine ⟨[], [], framed_of_rest (.inr last), ?_⟩
  exact
    { effects := rfl
      state := rfl
      written := rfl
      sink := rfl
      ending := rfl
      ends := .goesOn rfl last rfl
      waits := fun _ => ⟨rfl, rfl⟩ }

theorem Ends.of_open {stopped : Bool} {tail : Bytes} (ends : Ends stopped tail none none) :
    stopped = false := by
  cases ends with
  | goesOn answered => exact answered

theorem Settled.trans {handler : Handler σ} {first state later : σ} {sent : Bytes}
    {close closeNow : Option (Except SystemError Unit)} {bodies others : List Bytes}
    {tail left : Bytes} {effects more : List Effect} {connection next : Connection}
    (settled : Settled handler first sent close bodies tail (effects, state, connection))
    (goesOn : (converse handler first bodies).stopped = false)
    (again : Settled handler state connection.written closeNow others left (more, later, next)) :
    Settled handler first sent closeNow (bodies ++ others) left (effects ++ more, later, next) := by
  obtain rfl : effects = _ := settled.effects
  obtain rfl : state = _ := settled.state
  have joined := converse_append handler first bodies others
  simp only [goesOn, Bool.false_eq_true, if_false] at joined
  exact
    { effects := by simpa [joined] using again.effects
      state := by simpa [joined] using again.state
      written := by simpa [joined, settled.written] using again.written
      sink := again.sink
      ending := again.ending
      ends := by simpa [joined] using again.ends
      waits := again.waits }

variable {handler : Handler σ} {first state later : σ} {effects more : List Effect}
  {connection next : Connection} {arrival : Arrival}

theorem Settled.receive_waiting {bytes : Bytes} {bodies : List Bytes} {tail : Bytes}
    (framed : Framed bytes bodies tail)
    (settled : Settled handler first [] none bodies tail (effects, state, connection))
    (waits : connection.result? = none)
    (settles : (connection.receive arrival).settle handler state = (more, later, next)) :
    SettledBy handler first (bytes ++ arrival.content) arrival.close
      (effects ++ more, later, next) := by
  obtain ⟨reading, same⟩ := settled.waits waits
  have goesOn : (converse handler first bodies).stopped = false := (waits ▸ settled.ends).of_open
  obtain ⟨others, left, framedMore⟩ := Framed.exists (tail ++ arrival.content)
  let received : Connection :=
    { connection with
      buffer := connection.buffer ++ arrival.content
      ending := arrival.close }
  rw [receive_open settled.ending arrival] at settles
  have framedNow : Framed received.buffer others left := by
    have buffered : received.buffer = tail ++ arrival.content := by simp [received, ← same]
    exact buffered ▸ framedMore
  have readingNow : received.phase = .reading := reading
  have unlimited : received.sink = .unlimited := settled.sink
  have again := settle_framed handler state readingNow unlimited framedNow
  rw [settles] at again
  exact ⟨bodies ++ others, left, framed.append framedMore, settled.trans goesOn again⟩

-- An end that the bytes alone have brought about stays the end, whatever comes after them.
theorem Ends.lasts {bytes : Bytes} {bodies : List Bytes} {tail : Bytes}
    {result : Except ConnectionError Unit} (framed : Framed bytes bodies tail)
    (ends : Ends (converse handler first bodies).stopped tail none (some result))
    (more : Bytes) :
    ∃ others left, Framed (bytes ++ more) others left ∧
      converse handler first others = converse handler first bodies ∧
      ∀ close, Ends (converse handler first bodies).stopped left close (some result) := by
  cases ends with
  | replyTooLong long =>
    obtain ⟨others, left, framedMore⟩ := Framed.exists (tail ++ more)
    refine ⟨bodies ++ others, left, framed.append framedMore, ?_, fun _ => .replyTooLong long⟩
    simp [converse_append, long]
  | oversized answered last =>
    have longer := last.append more
    refine ⟨bodies, tail ++ more, ?_, rfl, fun _ => .oversized answered longer⟩
    simpa using framed.append (framed_of_rest (.inl longer))
  | failed _ _ _ broken => cases broken
  | clean _ _ finished => cases finished
  | cutShort _ _ finished => cases finished

theorem Settled.receive_ended {bytes : Bytes} {bodies : List Bytes} {tail : Bytes}
    {result : Except ConnectionError Unit} (framed : Framed bytes bodies tail)
    (settled : Settled handler first [] none bodies tail (effects, state, connection))
    (ended : connection.result? = some result)
    (settles : (connection.receive arrival).settle handler state = (more, later, next)) :
    SettledBy handler first (bytes ++ arrival.content) arrival.close
      (effects ++ more, later, next) := by
  have received := receive_open settled.ending arrival
  have stillOver : (connection.receive arrival).result? = some result := by
    rw [received]
    exact ended
  have ends : Ends (converse handler first bodies).stopped tail none (some result) :=
    ended ▸ settled.ends
  obtain ⟨others, left, framedMore, same, lasts⟩ := ends.lasts framed arrival.content
  rw [settle_ended handler state stillOver, received] at settles
  obtain ⟨rfl, rfl, rfl⟩ : [] = more ∧ state = later ∧ _ = next := by simpa using settles
  -- The bytes are parted anew, but their conversation is the one that was held.
  refine ⟨others, left, framedMore, ?_⟩
  exact
    { effects := by simpa [same] using settled.effects
      state := by simpa [same] using settled.state
      written := by
        rw [same]
        exact settled.written
      sink := settled.sink
      ending := rfl
      ends := by
        rw [same]
        exact ended ▸ lasts arrival.close
      waits := fun open_ => by simp_all [result?] }

theorem SettledBy.receive {bytes : Bytes}
    (settled : SettledBy handler first bytes none (effects, state, connection))
    (settles : (connection.receive arrival).settle handler state = (more, later, next)) :
    SettledBy handler first (bytes ++ arrival.content) arrival.close
      (effects ++ more, later, next) := by
  obtain ⟨bodies, tail, framed, settled⟩ := settled
  cases ended : connection.result? with
  | none => exact settled.receive_waiting framed ended settles
  | some result => exact settled.receive_ended framed ended settles

def Arrival.ofClose : Except SystemError Unit → Arrival
  | .error problem => .failure problem
  | .ok () => .finished

def arrivals (pieces : List Bytes) (close : Option (Except SystemError Unit)) : List Arrival :=
  pieces.map .bytes ++ (close.map Arrival.ofClose).toList

theorem serve_cons {rest : List Arrival}
    (settles : (connection.receive arrival).settle handler state = (more, later, next)) :
    connection.serve handler state (arrival :: rest) =
      (more ++ (next.serve handler later rest).1, (next.serve handler later rest).2) := by
  simp only [serve, settles]

theorem SettledBy.serve {bytes : Bytes}
    (settled : SettledBy handler first bytes none (effects, state, connection))
    (pieces : List Bytes) (close : Option (Except SystemError Unit)) :
    SettledBy handler first (bytes ++ pieces.flatten) close
      (effects ++ (connection.serve handler state (arrivals pieces close)).1,
        (connection.serve handler state (arrivals pieces close)).2) := by
  induction pieces generalizing bytes effects state connection with
  | nil =>
    cases close with
    | none => simpa [arrivals, Connection.serve] using settled
    | some ending =>
      rcases settles : (connection.receive (.ofClose ending)).settle handler state with
        ⟨more, later, next⟩
      have last := settled.receive settles
      have served : connection.serve handler state (arrivals [] (some ending)) =
          (more, later, next) := by
        simp [arrivals, serve_cons settles, Connection.serve]
      rw [served]
      cases ending <;> simpa [Arrival.ofClose, Arrival.content, Arrival.close] using last
  | cons piece rest ih =>
    rcases settles : (connection.receive (.bytes piece)).settle handler state with
      ⟨more, later, next⟩
    have onwards := ih (settled.receive settles)
    have served : connection.serve handler state (arrivals (piece :: rest) close) =
        (more ++ (next.serve handler later (arrivals rest close)).1,
          (next.serve handler later (arrivals rest close)).2) := serve_cons settles
    rw [served]
    simpa [Arrival.content] using onwards

theorem converse_bounded (handler : Handler σ) (state : σ) (bodies : List Bytes) :
    ∀ reply ∈ (converse handler state bodies).replies, reply.length ≤ maxBody := by
  induction bodies generalizing state with
  | nil => simp [converse]
  | cons body rest ih =>
    by_cases long : (handler state body).2.1.encode.length > maxBody
    · simp [converse, long]
    · simpa [converse, long] using ⟨Nat.not_lt.1 long, ih (handler state body).2.2⟩

theorem converse_length (handler : Handler σ) (state : σ) (bodies : List Bytes)
    (answered : (converse handler state bodies).stopped = false) :
    (converse handler state bodies).replies.length = bodies.length := by
  induction bodies generalizing state with
  | nil => rfl
  | cons body rest ih =>
    by_cases long : (handler state body).2.1.encode.length > maxBody
    · simp [converse, long] at answered
    · simp only [converse, long, if_false] at answered
      simp [converse, long, ih _ answered]

theorem framed_replies (handler : Handler σ) (state : σ) (bodies : List Bytes) :
    Framed ((converse handler state bodies).replies.flatMap Wire.putBytes)
      (converse handler state bodies).replies [] :=
  framed_flatMap (converse_bounded handler state bodies)

/-- What a client sees of its connection, told from the frames that its bytes hold. -/
structure Conducted (handler : Handler σ) (first : σ) (bodies : List Bytes) (tail : Bytes)
    (close : Option (Except SystemError Unit)) (served : List Effect × σ × Connection) : Prop where
  effects : served.1 = (converse handler first bodies).effects
  state : served.2.1 = (converse handler first bodies).state
  written : served.2.2.written = (converse handler first bodies).replies.flatMap Wire.putBytes
  answered : (converse handler first bodies).stopped = false →
    (converse handler first bodies).replies.length = bodies.length
  ends : Ends (converse handler first bodies).stopped tail close served.2.2.result?
  decoded : splitAll (served.2.2.written.length + 1) served.2.2.written =
    ((converse handler first bodies).replies, [])

theorem Settled.conducted {close : Option (Except SystemError Unit)} {bodies : List Bytes}
    {tail : Bytes} {served : List Effect × σ × Connection}
    (settled : Settled handler first [] close bodies tail served) :
    Conducted handler first bodies tail close served where
  effects := settled.effects
  state := settled.state
  written := settled.written
  answered := converse_length handler first bodies
  ends := settled.ends
  decoded := by
    rw [settled.written, List.nil_append]
    exact splitAll_framed (framed_replies handler first bodies)

theorem Conducted.unique {close : Option (Except SystemError Unit)} {bodies : List Bytes}
    {tail : Bytes} {served again : List Effect × σ × Connection}
    (conducted : Conducted handler first bodies tail close served)
    (other : Conducted handler first bodies tail close again) :
    served.1 = again.1 ∧ served.2.1 = again.2.1 ∧ served.2.2.written = again.2.2.written ∧
      served.2.2.result? = again.2.2.result? :=
  ⟨conducted.effects.trans other.effects.symm, conducted.state.trans other.state.symm,
    conducted.written.trans other.written.symm, conducted.ends.unique other.ends⟩

theorem conducted_by_bytes (handler : Handler σ) (first : σ) (pieces : List Bytes)
    (close : Option (Except SystemError Unit)) :
    let served (pieces : List Bytes) :=
      (start .unlimited).serve handler first (arrivals pieces close)
    ∃ bodies tail, Framed pieces.flatten bodies tail ∧
      Conducted handler first bodies tail close (served pieces) ∧
      ∀ others : List Bytes, others.flatten = pieces.flatten →
        (served others).1 = (served pieces).1 ∧
        (served others).2.1 = (served pieces).2.1 ∧
        (served others).2.2.written = (served pieces).2.2.written ∧
        (served others).2.2.result? = (served pieces).2.2.result? := by
  intro served
  have settles (pieces : List Bytes) : SettledBy handler first pieces.flatten close (served pieces) := by
    simpa using (settledBy_start handler first).serve pieces close
  obtain ⟨bodies, tail, framed, settled⟩ := settles pieces
  refine ⟨bodies, tail, framed, settled.conducted, ?_⟩
  intro others same
  obtain ⟨otherBodies, otherTail, otherFramed, otherSettled⟩ := settles others
  rw [same] at otherFramed
  obtain ⟨rfl, rfl⟩ := otherFramed.unique framed
  exact otherSettled.conducted.unique settled.conducted

end SoleKey.Connection
