import SoleKey.Proofs.Connection.Likeness
import SoleKey.Proofs.Effect
import SoleKey.Proofs.Request

set_option autoImplicit false

namespace SoleKey

namespace Request

variable {body : Bytes} {request : Request}

theorem SignBody.append {key : PublicKey} {data : Bytes} {flags : SignatureFlags}
    (asks : SignBody key data flags body) (more : Bytes) :
    SignBody key data flags (body ++ more) := by
  obtain ⟨count, form, bits, rest, reads, inside, fits, short, small, same, rfl⟩ := asks
  exact ⟨count, form, bits, rest ++ more, reads, inside, fits, short, small, same, by simp⟩

theorem decode_list (first : body.head? = some 11) : decode body = .ok .list := by
  obtain ⟨rest, rfl⟩ := List.head?_eq_some_iff.1 first
  rfl

def IsKeyed : Request → Prop
  | .list | .sign .. => True
  | _ => False

theorem isKeyed_of_head (found : decode body = .ok request)
    (first : body.head? = some 11 ∨ body.head? = some 13) : request.IsKeyed := by
  rcases first with list | sign
  · obtain rfl : request = .list := Except.ok.inj (found.symm.trans (decode_list list))
    trivial
  · obtain ⟨key, data, flags, rfl⟩ := (isSign_of_head found sign).eq_sign
    trivial

theorem IsKeyed.decode_append (keyed : request.IsKeyed) (found : decode body = .ok request)
    (more : Bytes) : decode (body ++ more) = .ok request := by
  cases request with
  | list =>
    obtain ⟨command, known, first⟩ := command_of_decode found
    obtain rfl : command = 11 := by simpa [commands] using known
    exact decode_list (by simp [first])
  | sign key data flags =>
    obtain ⟨wellFormed, asks⟩ := decode_eq_sign_iff.1 found
    exact decode_eq_sign_iff.2 ⟨wellFormed, asks.append more⟩
  | add | addConstrained | remove | removeAll | smartcard | lock | unlock | extension =>
    exact keyed.elim

end Request

namespace Session

variable {body more : Bytes} {request : Request}

inductive PlansAlike : Plan Reply → Plan Reply → Prop where
  | keyed (operation : KeyOperation) (finish : KeyContinuation) :
      PlansAlike (.keyed operation finish) (.keyed operation finish)
  | done (reply : Reply) {lines linesToo : List Effect}
      (logs : ∀ effect ∈ lines, effect.isLog = true)
      (logsToo : ∀ effect ∈ linesToo, effect.isLog = true) :
      PlansAlike (.done lines reply) (.done linesToo reply)

theorem PlansAlike.run {plan other : Plan Reply} (alike : PlansAlike plan other) (load : Load)
    (tpm : Tpm) : SeenAlike (!·.isLog) (plan.run load tpm) (other.run load tpm) := by
  cases alike with
  | keyed operation finish => exact .refl ..
  | done reply logs logsToo =>
    exact
      { effects := by
          simp only [Plan.run, Effect.unlogged_of_isLog logs, Effect.unlogged_of_isLog logsToo]
        value := rfl }

theorem plan_of_keyed (keyed : request.IsKeyed) (found : Request.decode body = .ok request) :
    ∃ operation finish, ofAgent Agent.overStoredKey body = .keyed operation finish := by
  cases request with
  | list | sign =>
    simp only [ofAgent, ofRequests, found, Request.call?, Agent.overStoredKey, Agent.keyed,
      Plan.andThen]
    exact ⟨_, _, rfl⟩
  | add | addConstrained | remove | removeAll | smartcard | lock | unlock | extension =>
    exact keyed.elim

theorem plans_alike (found : Request.decode body = .ok request) (more : Bytes) :
    PlansAlike (ofAgent Agent.overStoredKey body) (ofAgent Agent.overStoredKey (body ++ more)) := by
  by_cases keyed : request.IsKeyed
  · have same : ofAgent Agent.overStoredKey (body ++ more) = ofAgent Agent.overStoredKey body := by
      simp only [ofAgent, ofRequests, found, keyed.decode_append found more]
    obtain ⟨operation, finish, planned⟩ := plan_of_keyed keyed found
    rw [same, planned]
    exact .keyed operation finish
  · -- Only the first byte of the body decides how it is refused, and it has one.
    obtain ⟨command, _, first⟩ := Request.command_of_decode found
    have firstToo : (body ++ more).head? = body.head? := by simp [first]
    have other := not_or.1 (mt (Request.isKeyed_of_head found) keyed)
    obtain ⟨lines, logs, planned⟩ := plan_of_other other.1 other.2
    obtain ⟨linesToo, logsToo, plannedToo⟩ :=
      plan_of_other (firstToo ▸ other.1) (firstToo ▸ other.2)
    have refused : refusal (body ++ more) = refusal body := by simp only [refusal, firstToo]
    rw [planned, plannedToo, refused]
    exact .done (refusal body) logs logsToo

end Session

namespace Connection

variable {body more : Bytes} {request : Request}

theorem poll?_alike {session : Session} {connection : Connection} {body other rest : Bytes}
    (alike : Session.PlansAlike (session body) (session other))
    (reading : connection.phase = .reading) (bounded : body.length ≤ Frame.maxBody)
    (boundedToo : other.length ≤ Frame.maxBody) :
    ∃ lines linesToo next,
      (connection.holding (Wire.putBytes body ++ rest)).poll? session = some (lines, next) ∧
      (connection.holding (Wire.putBytes other ++ rest)).poll? session = some (linesToo, next) ∧
      ∀ effect ∈ lines ++ linesToo, effect.isLog = true := by
  have takes (body : Bytes) (bounded : body.length ≤ Frame.maxBody) :
      (connection.holding (Wire.putBytes body ++ rest)).take? =
        some (.request body (connection.holding rest)) := by
    simp [take?, holding, reading, Frame.next_frame bounded]
  simp only [poll?, takes body bounded, takes other boundedToo, Option.map_some]
  generalize session body = plan at alike
  generalize session other = planToo at alike
  cases alike with
  | keyed operation finish => exact ⟨[], [], _, rfl, rfl, by simp⟩
  | done reply logs logsToo =>
    exact ⟨_, _, _, rfl, rfl, by simpa [or_imp, forall_and] using ⟨logs, logsToo⟩⟩

theorem replaced_at {before after : List Bytes} {body other found foundToo : Bytes} {turn : Nat}
    (there : (before ++ body :: after)[turn]? = some found)
    (thereToo : (before ++ other :: after)[turn]? = some foundToo) :
    found = foundToo ∨ found = body ∧ foundToo = other := by
  induction before generalizing turn with
  | nil => cases turn <;> simp_all
  | cons first rest ih =>
    cases turn with
    | zero => simp_all
    | succ turn => exact ih there thereToo

/-- A body is answered in the same way with more bytes behind it, wherever it comes. -/
structure IgnoresSurplus (body more : Bytes) : Prop where
  answer : ∀ load tpm,
    let answered (body : Bytes) := (Session.ofAgent Agent.overStoredKey body).run load tpm
    (answered (body ++ more)).2 = (answered body).2 ∧
      Effect.loads (answered (body ++ more)).1 = Effect.loads (answered body).1 ∧
      Effect.tpmCalls (answered (body ++ more)).1 = Effect.tpmCalls (answered body).1
  -- Both leave the same connection behind, or the same one that waits for its key operation.
  turn : ∀ (connection : Connection) rest, connection.phase = .reading →
    (body ++ more).length ≤ Frame.maxBody →
    ∃ lines linesToo next,
      (connection.holding (Wire.putBytes body ++ rest)).poll?
        (.ofAgent Agent.overStoredKey) = some (lines, next) ∧
      (connection.holding (Wire.putBytes (body ++ more) ++ rest)).poll?
        (.ofAgent Agent.overStoredKey) = some (linesToo, next) ∧
      ∀ effect ∈ lines ++ linesToo, effect.isLog = true
  stream : ∀ loads tpms sink close before after tail pieces others,
    Frame.Framed pieces.flatten (before ++ body :: after) tail →
    Frame.Framed others.flatten (before ++ (body ++ more) :: after) tail →
    let served (pieces : List Bytes) := (start sink).serve
      (Session.handlerOver (.ofAgent Agent.overStoredKey) loads tpms) 0 (arrivals pieces close)
    ServedAlike (!·.isLog) (served pieces) (served others)

theorem surplus_is_ignored (found : Request.decode body = .ok request) (more : Bytes) :
    IgnoresSurplus body more where
  answer := by
    intro load tpm answered
    have alike := (Session.plans_alike found more).run load tpm
    have calls := congrArg Effect.tpmCalls alike.effects
    have loads := congrArg Effect.loads alike.effects
    rw [Effect.tpmCalls_unlogged, Effect.tpmCalls_unlogged] at calls
    rw [Effect.loads_unlogged, Effect.loads_unlogged] at loads
    exact ⟨alike.value.symm, loads.symm, calls.symm⟩
  turn := by
    intro connection rest reading bounded
    have shorter : body.length ≤ (body ++ more).length := by simp
    have boundedToo := Nat.le_trans shorter bounded
    exact poll?_alike (Session.plans_alike found more) reading boundedToo bounded
  stream := by
    intro loads tpms sink close before after tail pieces others framed framedToo served
    refine served_alike sink close (inputsAlike_framed framed framedToo (.refl framed.last)
      (by simp) 0 fun turn taken takenToo there thereToo => ?_)
    rcases replaced_at there thereToo with rfl | ⟨rfl, rfl⟩
    · exact .refl ..
    · exact (Session.plans_alike found more).run _ _

-- The byte behind this request is read as one more constraint, of an unknown kind.
theorem surplus_constraint_is_ignored :
    let body : Bytes := 26 :: List.replicate 8 0 ++ [2]
    Request.decode body = .ok (.smartcard "" "") ∧
      Request.decode (body ++ [7]) = .error (.key .unknownAlgorithm) ∧ IgnoresSurplus body [7] := by
  have found : Request.decode (26 :: List.replicate 8 0 ++ [2]) = .ok (.smartcard "" "") := by
    decide +kernel
  exact ⟨found, by decide +kernel, surplus_is_ignored found [7]⟩

end Connection

end SoleKey
