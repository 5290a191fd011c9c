import SoleKey.Proofs.KeyOperation.Transport
import SoleKey.Proofs.SigningLock.History

set_option autoImplicit false

namespace SoleKey

variable {ι : Type}

inductive Tpm.IsBlock (tpm : Tpm) : List TpmCall → Prop where
  | failedOpen (problem : TpmError) (fails : tpm.opens = .error problem) : IsBlock tpm [.opened]
  | whole (key : StoredKey) (algorithm : Algorithm) (data : Bytes) (opens : tpm.opens = .ok ()) :
      IsBlock tpm [.opened, .signed key algorithm data, .closed]

theorem Tpm.isBlock (tpm : Tpm) (order : SignOrder) : tpm.IsBlock (tpm.block order) := by
  cases opens : tpm.opens with
  | error problem => simpa [block, calls, opens] using IsBlock.failedOpen problem opens
  | ok _ =>
    simpa [block, calls, opens] using IsBlock.whole order.key order.algorithm order.data opens

theorem Tpm.IsBlock.ne_nil {tpm : Tpm} {calls : List TpmCall} (block : tpm.IsBlock calls) :
    calls ≠ [] := by
  cases block <;> simp

theorem Tpm.warnings_eq (tpm : Tpm) (order : SignOrder) : tpm.warnings =
    match tpm.closes with
    | .error problem => if .closed ∈ tpm.block order then [⟨.warn, problem.message⟩] else []
    | .ok _ => [] := by
  cases opens : tpm.opens <;> cases closes : tpm.closes <;>
    simp [warnings, block, calls, opens, closes]

namespace Turn

def order? (turn : Turn ι) : Option SignOrder :=
  turn.ticket.operation.order? turn.found

def block (turn : Turn ι) : List TpmCall :=
  turn.ticket.operation.block turn.found turn.tpm

def warnings (turn : Turn ι) : List LogLine :=
  turn.ticket.operation.warnings turn.found turn.tpm

theorem tpmCalls_alone {turn : Turn ι} (returned : turn.panickedAfter = none) :
    Effect.tpmCalls turn.alone.1 = turn.block := by
  have calls := turn.ticket.operation.tpmCalls_of_conclude turn.found turn.tpm
  simpa [alone, returned, block, KeyOperation.run_eq, Effect.tpmCalls] using calls

theorem warnings_alone {turn : Turn ι} (returned : turn.panickedAfter = none) :
    Effect.warnings turn.alone.1 = turn.warnings := by
  have lines := turn.ticket.operation.warnings_of_conclude turn.found turn.tpm
  simpa [alone, returned, warnings, KeyOperation.run_eq, Effect.warnings, Effect.logLines]
    using lines

theorem tpmCalls_inSequence {turns : List (Turn ι)}
    (returned : ∀ turn ∈ turns, turn.panickedAfter = none) :
    Effect.tpmCalls (inSequence turns).1 = turns.flatMap block := by
  induction turns with
  | nil => rfl
  | cons turn rest ih =>
    have now := tpmCalls_alone (returned turn List.mem_cons_self)
    have later := ih fun other there => returned other (List.mem_cons_of_mem _ there)
    simp [inSequence, Effect.tpmCalls_append, now, later]

theorem warnings_inSequence {turns : List (Turn ι)}
    (returned : ∀ turn ∈ turns, turn.panickedAfter = none) :
    Effect.warnings (inSequence turns).1 = turns.flatMap warnings := by
  induction turns with
  | nil => rfl
  | cons turn rest ih =>
    have now := warnings_alone (returned turn List.mem_cons_self)
    have later := ih fun other there => returned other (List.mem_cons_of_mem _ there)
    simp [inSequence, Effect.warnings_append, now, later]

theorem told_inSequence (turns : List (Turn ι)) :
    (inSequence turns).2 = turns.flatMap told := by
  induction turns with
  | nil => rfl
  | cons turn rest ih => simp [inSequence, ih]

theorem block_eq (turn : Turn ι) : turn.block = turn.order?.elim [] turn.tpm.block := rfl

theorem warnings_eq_elim (turn : Turn ι) :
    turn.warnings = turn.order?.elim [] fun _ => turn.tpm.warnings := rfl

theorem block_of_order {turn : Turn ι} {order : SignOrder} (asked : turn.order? = some order) :
    turn.block = turn.tpm.block order := by
  rw [block_eq, asked, Option.elim_some]

theorem block_of_no_order {turn : Turn ι} (unasked : turn.order? = none) : turn.block = [] := by
  rw [block_eq, unasked, Option.elim_none]

theorem isBlock (turn : Turn ι) : turn.block = [] ∨ turn.tpm.IsBlock turn.block := by
  cases asked : turn.order? with
  | none => exact .inl (block_of_no_order asked)
  | some order => exact .inr (block_of_order asked ▸ turn.tpm.isBlock order)

theorem block_ne_nil_iff (turn : Turn ι) : turn.block ≠ [] ↔
    ∃ requested data flags key, turn.ticket.operation = .sign requested data flags ∧
      turn.found = .loaded key ∧ key.publicKey.encode = requested.encode ∧
      key.publicKey.algorithm.sameFamily (requested.signatureAlgorithm flags) = true := by
  constructor
  · intro opened
    cases asked : turn.order? with
    | none => exact absurd (block_of_no_order asked) opened
    | some order =>
      obtain ⟨requested, flags, signs, loaded, same, chosen, family⟩ :=
        KeyOperation.order?_eq_some_iff.1 asked
      exact ⟨requested, order.data, flags, order.key, signs, loaded, same, chosen ▸ family⟩
  · intro ⟨requested, data, flags, key, signs, loaded, same, family⟩
    have asked : turn.order? = some ⟨key, requested.signatureAlgorithm flags, data⟩ :=
      KeyOperation.order?_eq_some_iff.2 ⟨requested, flags, signs, loaded, same, rfl, family⟩
    rw [block_of_order asked]
    exact (turn.tpm.isBlock _).ne_nil

theorem result_of_order {turn : Turn ι} (returned : turn.panickedAfter = none)
    (order : SignOrder) (asked : turn.order? = some order) :
    turn.alone.2 = ((turn.tpm.answer order).map .signature).mapError .tpm := by
  have concludes := KeyOperation.conclude_of_order asked turn.tpm
  simp [alone, returned, KeyOperation.run_eq, concludes]

theorem warnings_eq (turn : Turn ι) : turn.warnings =
    match turn.tpm.closes with
    | .error problem => if .closed ∈ turn.block then [⟨.warn, problem.message⟩] else []
    | .ok _ => [] := by
  cases asked : turn.order? with
  | some order =>
    rw [block_of_order asked, ← turn.tpm.warnings_eq order, warnings_eq_elim, asked,
      Option.elim_some]
  | none =>
    rw [block_of_no_order asked, warnings_eq_elim, asked, Option.elim_none]
    cases turn.tpm.closes <;> simp

end Turn

namespace Work

def block (work : Work ι) : List TpmCall :=
  match work.progress with
  | .loading => []
  | .acting found tpm _ => work.ticket.operation.block found tpm

theorem tpmCalls_made (work : Work ι) : Effect.tpmCalls work.made <+: work.block := by
  obtain ⟨ticket, progress, present⟩ := work
  cases progress with
  | loading => exact List.nil_prefix
  | acting found tpm made =>
    have begun := List.take_prefix made (ticket.operation.conclude found tpm).1
    have calls := ticket.operation.tpmCalls_of_conclude found tpm
    have inside := Effect.tpmCalls_of_begun begun
    rw [calls] at inside
    simpa [Work.made, block, KeyOperation.run_eq, Effect.tpmCalls] using inside

def OnTrack (work : Work ι) : Prop :=
  match work.progress with
  | .loading => True
  | .acting found tpm made => made ≤ (work.ticket.operation.conclude found tpm).1.length

end Work

namespace SigningLock

variable [DecidableEq ι]

theorem Transition.onTrack_next {lock : SigningLock ι} {event : Event ι} {step : Step ι}
    (transition : Transition lock event step) (onTrack : ∀ work ∈ lock.working, work.OnTrack) :
    ∀ work ∈ step.next.working, work.OnTrack := by
  cases transition with
  | arrive => exact onTrack
  | grant | load => simp [Work.OnTrack]
  | act waiting ticket present found tpm made effect ahead =>
    have further : made + 1 ≤ (ticket.operation.conclude found tpm).1.length :=
      (List.getElem?_eq_some_iff.1 ahead).1
    simpa [Work.OnTrack] using further
  | finish | panic => simp
  | leave _ caller =>
    intro work there
    obtain ⟨before, member, rfl⟩ := List.mem_map.1 there
    have same := onTrack before member
    by_cases own : before.ticket.caller = caller <;> simpa [own, Work.OnTrack] using same

theorem Reaches.onTrack {history : History ι} {lock : SigningLock ι}
    (reached : Reaches history lock) : ∀ work ∈ lock.working, work.OnTrack := by
  induction reached with
  | start => simp [free]
  | next reached moved onTrack =>
    exact (transition_of_step? reached.consistent.exclusive moved).onTrack_next onTrack

structure InBlocks (history : History ι) (lock : SigningLock ι) : Prop where
  trace : Effect.tpmCalls history.effects =
    history.turns.flatMap Turn.block ++ lock.working.flatMap fun work => Effect.tpmCalls work.made
  begun : ∀ work ∈ lock.working, Effect.tpmCalls work.made <+: work.block
  blocks : ∀ turn ∈ history.turns, turn.block = [] ∨ turn.tpm.IsBlock turn.block
  oneEach : history.granted = history.turns.map (·.ticket) ++ lock.working.map (·.ticket)
  onlyOrders : ∀ turn ∈ history.turns, turn.block ≠ [] ↔
    ∃ requested data flags key, turn.ticket.operation = .sign requested data flags ∧
      turn.found = .loaded key ∧ key.publicKey.encode = requested.encode ∧
      key.publicKey.algorithm.sameFamily (requested.signatureAlgorithm flags) = true
  results : ∀ turn ∈ history.turns, ∀ order, turn.order? = some order →
    turn.alone.2 = ((turn.tpm.answer order).map .signature).mapError .tpm
  delivered : history.delivered = history.turns.flatMap Turn.told
  warnings : Effect.warnings history.effects =
    history.turns.flatMap Turn.warnings ++
      lock.working.flatMap fun work => Effect.warnings work.made
  warnsOnce : ∀ turn ∈ history.turns, turn.warnings =
    match turn.tpm.closes with
    | .error problem => if .closed ∈ turn.block then [⟨.warn, problem.message⟩] else []
    | .ok _ => []
  goesOn : ∀ work found tpm made, work ∈ lock.working → work.progress = .acting found tpm made →
    (∃ step, lock.step? (.act work.ticket.caller) = some step) ∨
      ∃ step, lock.step? (.finish work.ticket.caller) = some step
  finishesWhole : ∀ work step, work ∈ lock.working →
    lock.step? (.finish work.ticket.caller) = some step →
      Effect.tpmCalls work.made = work.block

section

variable {history : History ι} {lock : SigningLock ι}

theorem Exclusive.goesOn (exclusive : lock.Exclusive)
    (onTrack : ∀ work ∈ lock.working, work.OnTrack) (work : Work ι) (found : Load) (tpm : Tpm)
    (made : Nat) (there : work ∈ lock.working) (acts : work.progress = .acting found tpm made) :
    (∃ step, lock.step? (.act work.ticket.caller) = some step) ∨
      ∃ step, lock.step? (.finish work.ticket.caller) = some step := by
  obtain ⟨ticket, progress, present⟩ := work
  obtain rfl : progress = .acting found tpm made := acts
  have within := onTrack _ there
  cases exclusive with
  | idle => cases there
  | busy waiting other =>
    obtain rfl := List.mem_singleton.1 there
    by_cases done : made = (ticket.operation.conclude found tpm).1.length
    · exact .inr ⟨_, step?_of_transition (.finish waiting ticket present found tpm made done)⟩
    · have before : made < (ticket.operation.conclude found tpm).1.length := by
        simp only [Work.OnTrack] at within
        omega
      have ahead := List.getElem?_eq_getElem before
      exact .inl ⟨_, step?_of_transition (.act waiting ticket present found tpm made _ ahead)⟩

theorem Exclusive.finishesWhole (exclusive : lock.Exclusive) (work : Work ι) (step : Step ι)
    (there : work ∈ lock.working) (ends : lock.step? (.finish work.ticket.caller) = some step) :
    Effect.tpmCalls work.made = work.block := by
  generalize same : Event.finish work.ticket.caller = event at ends
  cases transition_of_step? exclusive ends with
  | finish waiting ticket present found tpm made complete =>
    obtain rfl := List.mem_singleton.1 there
    have calls := ticket.operation.tpmCalls_of_conclude found tpm
    simpa [Work.made, Work.block, KeyOperation.run_eq, Effect.tpmCalls, complete] using calls
  | arrive | grant | load | act | panic | leave => cases same

theorem transports_used_in_blocks (reached : Reaches history lock)
    (returned : ∀ turn ∈ history.turns, turn.panickedAfter = none) : InBlocks history lock where
  trace := by
    rw [reached.consistent.effects, Effect.tpmCalls_append, Turn.tpmCalls_inSequence returned]
    cases reached.consistent.exclusive <;> simp [Effect.tpmCalls]
  begun work _ := work.tpmCalls_made
  blocks turn _ := turn.isBlock
  oneEach := reached.consistent.granted
  onlyOrders turn _ := turn.block_ne_nil_iff
  results turn there := Turn.result_of_order (returned turn there)
  delivered := reached.consistent.delivered.trans (Turn.told_inSequence _)
  warnings := by
    rw [reached.consistent.effects, Effect.warnings_append, Turn.warnings_inSequence returned]
    cases reached.consistent.exclusive <;> simp [Effect.warnings, Effect.logLines]
  warnsOnce turn _ := turn.warnings_eq
  goesOn := reached.consistent.exclusive.goesOn reached.onTrack
  finishesWhole := reached.consistent.exclusive.finishesWhole

end

theorem closes_for_departed_caller : ∃ (history : History Nat) (lock : SigningLock Nat),
    Reaches history lock ∧ (∀ turn ∈ history.turns, turn.panickedAfter = none) ∧
      history.turns.map (·.callerPresent) = [false] ∧
      (Effect.tpmCalls history.effects).length = 3 ∧
      Effect.warnings history.effects = [⟨.warn, (TpmError.closeFailed "").message⟩] ∧
      InBlocks history lock := by
  let key : StoredKey := ⟨.ed25519 (List.replicate 32 7), "", []⟩
  let ticket : Ticket Nat := ⟨1, .sign key.publicKey [] .empty⟩
  let stubborn : Tpm := ⟨.ok (), fun _ _ _ => .ok ⟨.ed25519, []⟩, .error (.closeFailed "")⟩
  let order : SignOrder := ⟨key, .ed25519, []⟩
  have asked : ticket.operation.order? (.loaded key) = some order :=
    KeyOperation.order?_eq_some_iff.2 ⟨key.publicKey, .empty, rfl, rfl, rfl, rfl, rfl⟩
  have concludes := KeyOperation.conclude_of_order asked
  have acts (made : Nat) (effect : Effect) (present : Bool)
      (ahead : (KeyOperation.signLine .ed25519 [] ::
        ((stubborn.block order).map Effect.tpm ++ stubborn.warnings.map Effect.log))[made]? =
          some effect) :
      step? ⟨true, [], [⟨ticket, .acting (.loaded key) stubborn made, present⟩]⟩ (.act 1) =
        some ⟨[effect], [],
          ⟨true, [], [⟨ticket, .acting (.loaded key) stubborn (made + 1), present⟩]⟩⟩ :=
    step?_of_transition (.act [] ticket present (.loaded key) stubborn made effect
      (by rw [concludes]; exact ahead))
  have arrived : Reaches _ ⟨false, [ticket], []⟩ :=
    Reaches.start.next (rfl : step? free (.arrive ticket) = some _)
  have granted : Reaches _ ⟨true, [], [⟨ticket, .loading, true⟩]⟩ :=
    arrived.next (rfl : step? _ .grant = some _)
  have loaded : Reaches _ ⟨true, [], [⟨ticket, .acting (.loaded key) stubborn 0, true⟩]⟩ :=
    granted.next (rfl : step? _ (.load 1 (.loaded key) stubborn) = some _)
  have opened := (loaded.next (acts 0 _ _ rfl)).next (acts 1 _ _ rfl)
  have forsaken : Reaches _ ⟨true, [], [⟨ticket, .acting (.loaded key) stubborn 2, false⟩]⟩ :=
    opened.next (rfl : step? _ (.leave 1) = some _)
  have warned := ((forsaken.next (acts 2 _ _ rfl)).next (acts 3 _ _ rfl)).next (acts 4 _ _ rfl)
  have finished := warned.next (step?_of_transition
    (.finish [] ticket false (.loaded key) stubborn 5 (by rw [concludes]; rfl)))
  have returned : ∀ turn ∈ [(⟨ticket, .loaded key, stubborn, none, false⟩ : Turn Nat)],
      turn.panickedAfter = none := by
    simp
  exact ⟨_, _, finished, returned, rfl, rfl, rfl, transports_used_in_blocks finished returned⟩

end SigningLock

end SoleKey
