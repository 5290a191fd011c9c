import SoleKey.Proofs.Connection.Likeness
import SoleKey.Proofs.Effect
import SoleKey.Proofs.KeyOperation.SealedPart

set_option autoImplicit false

namespace SoleKey

namespace KeyOperation

variable {operation another : KeyOperation} {load : Load} {tpm other : Tpm}

inductive DataApart : KeyOperation → KeyOperation → Prop where
  | list : DataApart .list .list
  | sign (key : PublicKey) (flags : SignatureFlags) {data second : Bytes}
      (length : data.length = second.length) :
      DataApart (.sign key data flags) (.sign key second flags)

theorem DataApart.refl (operation : KeyOperation) : DataApart operation operation := by
  cases operation with
  | list => exact .list
  | sign key data flags => exact .sign key flags rfl

theorem seen_of_order {order : SignOrder} (asked : operation.order? load = some order) (tpm : Tpm) :
    (operation.conclude load tpm).1.filter Effect.isLog =
      signLine order.algorithm order.data :: tpm.warnings.map Effect.log := by
  have calls : ((tpm.block order).map Effect.tpm).filter Effect.isLog = [] := by
    simp [List.filter_eq_nil_iff, Effect.isLog]
  have warns : (tpm.warnings.map Effect.log).filter Effect.isLog = tpm.warnings.map Effect.log := by
    simp [List.filter_eq_self, Effect.isLog]
  rw [conclude_of_order asked, List.filter_cons_of_pos rfl, List.filter_append, calls, warns,
    List.nil_append]

theorem order?_of_sign {key : PublicKey} {data : Bytes} {flags : SignatureFlags}
    {order : SignOrder} (asked : (sign key data flags).order? load = some order) (other : Bytes) :
    (sign key other flags).order? load = some { order with data := other } := by
  obtain ⟨_, _, signs, loaded, same, chosen, family⟩ := order?_eq_some_iff.1 asked
  obtain ⟨rfl, _, rfl⟩ := KeyOperation.sign.inj signs
  exact order?_eq_some_iff.2 ⟨key, flags, rfl, loaded, same, chosen, family⟩

theorem data_of_order {key : PublicKey} {data : Bytes} {flags : SignatureFlags}
    {order : SignOrder} (asked : (sign key data flags).order? load = some order) :
    order.data = data := by
  obtain ⟨_, _, signs, _⟩ := order?_eq_some_iff.1 asked
  exact (KeyOperation.sign.inj signs).2.1.symm

/-- Without an order neither the TPM nor the data makes a difference, but for its length. -/
theorem sign_unasked {key : PublicKey} {data second : Bytes} {flags : SignatureFlags}
    (length : data.length = second.length) (unasked : (sign key data flags).order? load = none) :
    (sign key data flags).conclude load tpm = (sign key second flags).conclude load other := by
  cases load with
  | crashed | failed => rfl
  | loaded stored =>
    by_cases same : stored.publicKey.encode = key.encode
    · have foreign := foreign_of_no_order same unasked
      rw [conclude_of_foreign same foreign, conclude_of_foreign same foreign, signLine, signLine,
        length]
    · rw [conclude_of_different same, conclude_of_different same]

theorem conclude_apart (apart : DataApart operation another)
    (answers : ∀ order second, operation.order? load = some order →
      another.order? load = some second → tpm.SameAnswers order other second) :
    SeenAlike Effect.isLog (operation.conclude load tpm) (another.conclude load other) := by
  cases apart with
  | list => cases load <;> exact .refl ..
  | @sign key flags data second length =>
    cases asked : (sign key data flags).order? load with
    | none =>
      rw [sign_unasked length asked]
      exact .refl ..
    | some order =>
      have askedToo := order?_of_sign asked second
      have same := answers order _ asked askedToo
      have lengthToo : order.data.length = second.length := data_of_order asked ▸ length
      exact
        { effects := by
            rw [seen_of_order asked, seen_of_order askedToo, same.warnings, signLine, signLine,
              lengthToo]
          value := by rw [conclude_of_order asked, conclude_of_order askedToo, same.answer] }

theorem run_apart (apart : DataApart operation another)
    (answers : ∀ order second, operation.order? load = some order →
      another.order? load = some second → tpm.SameAnswers order other second) :
    SeenAlike Effect.isLog (operation.run load tpm) (another.run load other) := by
  have concluded := conclude_apart apart answers
  exact
    { effects := by simpa [run_eq, List.filter_cons, Effect.isLog] using concluded.effects
      value := concluded.value }

end KeyOperation

namespace Request

/-- Two requests of one kind that may differ in a passphrase, in what is offered, or in the data. -/
inductive SecretsApart : Request → Request → Prop where
  | lock (passphrase other : String) : SecretsApart (.lock passphrase) (.lock other)
  | unlock (passphrase other : String) : SecretsApart (.unlock passphrase) (.unlock other)
  | add (offer other : Offer) : SecretsApart (.add offer) (.add other)
  | addConstrained (offer other : Offer) :
      SecretsApart (.addConstrained offer) (.addConstrained other)
  | sign (key : PublicKey) (flags : SignatureFlags) {data other : Bytes}
      (length : data.length = other.length) :
      SecretsApart (.sign key data flags) (.sign key other flags)

inductive BodiesApart : Bytes → Bytes → Prop where
  | same (body : Bytes) : BodiesApart body body
  | secrets {body other : Bytes} {request second : Request} (found : decode body = .ok request)
      (foundToo : decode other = .ok second) (apart : SecretsApart request second) :
      BodiesApart body other

end Request

namespace Session

variable {body other : Bytes} {load : Load} {tpm second : Tpm}

/-- What the TPM is asked to sign for a body, if it is asked at all. -/
def order? (body : Bytes) (load : Load) : Option SignOrder :=
  (ofAgent Agent.overStoredKey body).operation?.bind fun operation => operation.order? load

inductive PlansApart : Plan Reply → Plan Reply → Prop where
  | done (effects : List Effect) (reply : Reply) :
      PlansApart (.done effects reply) (.done effects reply)
  | keyed {operation another : KeyOperation} (apart : operation.DataApart another)
      (finish : KeyContinuation) :
      PlansApart (.keyed operation finish) (.keyed another finish)

theorem PlansApart.refl (plan : Plan Reply) : PlansApart plan plan := by
  cases plan with
  | done effects reply => exact .done effects reply
  | keyed operation finish => exact .keyed (.refl operation) finish

theorem plans_apart (apart : Request.BodiesApart body other) :
    PlansApart (ofAgent Agent.overStoredKey body) (ofAgent Agent.overStoredKey other) := by
  cases apart with
  | same => exact .refl _
  | secrets found foundToo apart =>
    cases apart <;>
      simp only [ofAgent, ofRequests, found, foundToo, Request.call?, Agent.overStoredKey,
        Agent.refuse, Agent.keyed, Plan.andThen]
    case sign key flags data other length => exact .keyed (.sign key flags length) _
    all_goals exact .done _ _

theorem run_apart (apart : Request.BodiesApart body other)
    (answers : ∀ order another, order? body load = some order → order? other load = some another →
      tpm.SameAnswers order second another) :
    SeenAlike Effect.isLog ((ofAgent Agent.overStoredKey body).run load tpm)
      ((ofAgent Agent.overStoredKey other).run load second) := by
  have plans := plans_apart apart
  unfold order? at answers
  generalize ofAgent Agent.overStoredKey body = plan at plans answers
  generalize ofAgent Agent.overStoredKey other = planToo at plans answers
  cases plans with
  | done effects reply => exact .refl ..
  | keyed apart finish =>
    have ran := KeyOperation.run_apart apart answers
    exact
      { effects := by simp only [Plan.run, List.filter_append, ran.effects, ran.value]
        value := by simp only [Plan.run, ran.value] }

end Session

namespace Connection

open SoleKey.Frame

variable {loads : Nat → Load} {tpms tpmsToo : Nat → Tpm}
  {bodies others pieces piecesToo : List Bytes} {tail left : Bytes}

def linesOf {σ : Type} (served : List Effect × σ × Connection) : List LogLine :=
  Effect.logLines (served.1 ++ (served.2.2.result?.map endLine).toList)

theorem linesOf_alike {σ τ : Type} {served : List Effect × σ × Connection}
    {again : List Effect × τ × Connection} (alike : ServedAlike Effect.isLog served again) :
    linesOf served = linesOf again := by
  rw [linesOf, linesOf, ← Effect.logLines_logged, ← Effect.logLines_logged (again.1 ++ _),
    List.filter_append, List.filter_append, alike.effects, alike.result]

structure ClientsApart (loads : Nat → Load) (tpms tpmsToo : Nat → Tpm)
    (bodies others : List Bytes) : Prop where
  length : bodies.length = others.length
  apart : ∀ (turn : Nat) (body other : Bytes), bodies[turn]? = some body →
    others[turn]? = some other → Request.BodiesApart body other
  answers : ∀ (turn : Nat) (body other : Bytes) order second, bodies[turn]? = some body →
    others[turn]? = some other → Session.order? body (loads turn) = some order →
    Session.order? other (loads turn) = some second →
    (tpms turn).SameAnswers order (tpmsToo turn) second

theorem secrets_stay_out_of_the_log (apart : ClientsApart loads tpms tpmsToo bodies others)
    (rests : RestsAlike tail left) (framed : Framed pieces.flatten bodies tail)
    (framedToo : Framed piecesToo.flatten others left) (sink : Sink)
    (close : Option (Except SystemError Unit)) :
    let served (tpms : Nat → Tpm) (pieces : List Bytes) := (start sink).serve
      (Session.handlerOver (.ofAgent Agent.overStoredKey) loads tpms) 0 (arrivals pieces close)
    linesOf (served tpms pieces) = linesOf (served tpmsToo piecesToo) ∧
      (served tpms pieces).2.2.written = (served tpmsToo piecesToo).2.2.written ∧
      (served tpms pieces).2.2.result? = (served tpmsToo piecesToo).2.2.result? := by
  intro served
  have alike : ServedAlike Effect.isLog (served tpms pieces) (served tpmsToo piecesToo) := by
    refine served_alike sink close (inputsAlike_framed framed framedToo rests apart.length 0 ?_)
    intro turn body other there thereToo
    rw [Nat.zero_add]
    exact Session.run_apart (apart.apart turn body other there thereToo)
      fun order second => apart.answers turn body other order second there thereToo
  exact ⟨linesOf_alike alike, alike.written, alike.result⟩

-- Two passphrases, and two messages of five bytes, that leave the same lines behind.
theorem passphrases_and_messages_stay_out_of_the_log :
    let stored : StoredKey := ⟨.ed25519 (List.replicate 32 7), "", []⟩
    let made : Signature := ⟨.ed25519, List.replicate 64 1⟩
    let tpm : Tpm := ⟨.ok (), fun _ _ _ => .ok made, .ok ()⟩
    let sent (passphrase : String) (data : Bytes) : List Bytes :=
      [22 :: Wire.putText passphrase,
        13 :: (Wire.putBytes stored.publicKey.encode ++ Wire.putBytes data ++ Wire.putWord32 0)]
    let served (passphrase : String) (data : Bytes) := (start .unlimited).serve
      (Session.handlerOver (.ofAgent Agent.overStoredKey) (fun _ => .loaded stored) fun _ => tpm) 0
      (arrivals [(sent passphrase data).flatMap Wire.putBytes] (some (.ok ())))
    linesOf (served "hunter2" [1, 2, 3, 4, 5]) = linesOf (served "swordfish" [9, 8, 7, 6, 5]) ∧
      linesOf (served "swordfish" [9, 8, 7, 6, 5]) =
        [⟨.debug, "Agent request failed: operation unsupported"⟩,
          ⟨.debug, "Signing 5 bytes with ssh-ed25519"⟩, ⟨.debug, "Agent client disconnected"⟩] := by
  intro stored made tpm sent served
  have passphrases : Request.SecretsApart (.lock "hunter2") (.lock "swordfish") := .lock ..
  have messages : Request.SecretsApart (.sign stored.publicKey [1, 2, 3, 4, 5] ⟨0⟩)
      (.sign stored.publicKey [9, 8, 7, 6, 5] ⟨0⟩) := .sign _ _ rfl
  have apart : ClientsApart (fun _ => .loaded stored) (fun _ => tpm) (fun _ => tpm)
      (sent "hunter2" [1, 2, 3, 4, 5]) (sent "swordfish" [9, 8, 7, 6, 5]) :=
    { length := rfl
      apart := by
        intro turn body other there thereToo
        match turn with
        | 0 =>
          obtain rfl := Option.some.inj there
          obtain rfl := Option.some.inj thereToo
          exact .secrets (by decide +kernel) (by decide +kernel) passphrases
        | 1 =>
          obtain rfl := Option.some.inj there
          obtain rfl := Option.some.inj thereToo
          exact .secrets (by decide +kernel) (by decide +kernel) messages
        | turn + 2 => cases there
      answers := fun _ _ _ _ _ _ _ _ _ => ⟨⟨rfl, fun _ => rfl⟩, fun _ => rfl⟩ }
  have framed (passphrase : String) (data : Bytes)
      (bounded : ∀ body ∈ sent passphrase data, body.length ≤ maxBody) :
      Framed [(sent passphrase data).flatMap Wire.putBytes].flatten (sent passphrase data) [] := by
    simpa only [List.flatten_singleton] using framed_flatMap bounded
  have alike := secrets_stay_out_of_the_log apart (.refl (.inr (.inl (by decide))))
    (framed "hunter2" [1, 2, 3, 4, 5] (by decide +kernel))
    (framed "swordfish" [9, 8, 7, 6, 5] (by decide +kernel)) .unlimited (some (.ok ()))
  exact ⟨alike.1, by decide +kernel⟩

end Connection

end SoleKey
