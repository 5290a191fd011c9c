import SoleKey.Proofs.Connection.Arrival
import SoleKey.Proofs.Session

set_option autoImplicit false

namespace SoleKey

namespace Connection

variable {σ : Type}

def Answers (handler : Handler σ) (state : σ) (body : Bytes) (effects : List Effect)
    (reply : Bytes) (next : σ) : Prop :=
  ∀ (connection : Connection) (rest : Bytes), connection.phase = .reading → connection.sink = .unlimited →
    connection.buffer = Wire.putBytes body ++ rest →
    connection.answer? handler state = some (effects, next, { connection with
      buffer := rest
      pieces := Wire.putBytes reply :: connection.pieces })

theorem answers_of_handler {handler : Handler σ} {state next : σ} {body : Bytes}
    {effects : List Effect} {reply : Reply} (short : body.length ≤ Frame.maxBody)
    (handled : handler state body = (effects, reply, next))
    (fits : reply.encode.length ≤ Frame.maxBody) :
    Answers handler state body effects reply.encode next := by
  intro connection rest reading unlimited arrived
  have framed : Frame.next connection.buffer = .frame body rest := by
    rw [arrived, Frame.next_frame short]
  have opened : { connection with buffer := rest }.sink = .unlimited := unlimited
  rw [answer?_frame handler state reading framed, handled, send_short opened (Nat.not_lt.2 fits)]
  simp [reading]

end Connection

namespace Session

variable {body : Bytes} {load : Load} {path : String} {content : Bytes} {key : StoredKey}

theorem answers_of_run {session : Session} {tpm : Tpm} {reply : Reply}
    (short : body.length ≤ Frame.maxBody) (told : ((session body).run load tpm).2 = reply)
    (fits : reply.encode.length ≤ Frame.maxBody) :
    Connection.Answers (session.handler load tpm) () body ((session body).run load tpm).1
      reply.encode () :=
  Connection.answers_of_handler short (by simp [handler, told]) fits

theorem run_of_list (tpm : Tpm) (rest : Bytes) :
    (ofAgent Agent.overStoredKey (11 :: rest)).run (.loaded key) tpm =
      ([.loaded], .identities [key.identity]) := rfl

theorem encode_listing (key : StoredKey) :
    (Reply.identities [key.identity]).encode =
      12 :: (Wire.putWord32 1 ++
        (Wire.putBytes key.publicKey.encode ++ Wire.putText key.comment)) := by
  simp [Reply.encode, Reply.encodeIdentity, StoredKey.identity, Identity.blob]

def signBody (blob data : Bytes) (flags : SignatureFlags) : Bytes :=
  13 :: (Wire.putBytes blob ++ (Wire.putBytes data ++ Wire.putWord32 flags.bits.toNat))

theorem signBody_asks (wellFormed : key.publicKey.WellFormed) {data : Bytes}
    {flags : SignatureFlags}
    (short : (signBody key.publicKey.encode data flags).length ≤ Frame.maxBody) :
    Request.SignBody key.publicKey data flags (signBody key.publicKey.encode data flags) := by
  have within : Frame.maxBody ≤ Wire.maxLength := by decide
  have lengths : key.publicKey.encode.length + data.length ≤ Frame.maxBody := by
    simp [signBody] at short
    omega
  refine ⟨key.publicKey.encode.length, key.publicKey.encode, flags.bits.toNat, [],
    wellFormed.wireForm_encode, Nat.le_refl _, by omega, by omega, flags.bits.toNat_lt, ?_, ?_⟩
  · simp
  · simp [signBody, Wire.putBytes]

theorem run_of_unloaded (unloaded : ∀ key, load ≠ .loaded key)
    (asks : body.head? = some 11 ∨ body.head? = some 13) (tpm : Tpm) :
    Effect.tpmCalls ((ofAgent Agent.overStoredKey body).run load tpm).1 = [] ∧
      ((ofAgent Agent.overStoredKey body).run load tpm).2 = .failure := by
  cases asks with
  | inl list =>
    obtain ⟨rest, rfl⟩ := List.head?_eq_some_iff.1 list
    cases load with
    | loaded key => exact absurd rfl (unloaded key)
    | failed problem => exact ⟨rfl, rfl⟩
    | crashed => exact ⟨rfl, rfl⟩
  | inr sign =>
    cases decoded : Request.decode body with
    | error problem =>
      rw [run_of_undecodable decoded]
      exact ⟨rfl, rfl⟩
    | ok request =>
      obtain ⟨requested, data, flags, rfl⟩ := (Request.isSign_of_head decoded sign).eq_sign
      exact run_of_mismatch decoded (fun key loaded => absurd loaded (unloaded key)) tpm

structure SignsWhatItLists (path : String) (tpm : Tpm) : Prop where
  lists : ∀ content key rest, StoredKey.decode content = .ok key →
    (11 :: rest).length ≤ Frame.maxBody →
    let listing := 12 :: (Wire.putWord32 1 ++
      (Wire.putBytes key.publicKey.encode ++ Wire.putText key.comment))
    listing.length ≤ Frame.maxBody →
    Connection.Answers ((ofAgent Agent.overStoredKey).handler
      ((KeySource.file path).load (.file content)) tpm) () (11 :: rest) [.loaded] listing ()
  signs : ∀ content key data flags, StoredKey.decode content = .ok key →
    let body := signBody key.publicKey.encode data flags
    let algorithm := key.publicKey.signatureAlgorithm flags
    body.length ≤ Frame.maxBody →
    let load := (KeySource.file path).load (.file content)
    let answered := (ofAgent Agent.overStoredKey body).run load tpm
    Effect.tpmCalls answered.1 = tpm.calls key algorithm data ∧
    ∀ made, tpm.opens = .ok () → tpm.signs key algorithm data = .ok made →
      answered.2 = .signature made ∧
      ((14 :: Wire.putBytes made.encode).length ≤ Frame.maxBody →
        Connection.Answers ((ofAgent Agent.overStoredKey).handler load tpm) () body answered.1
          (14 :: Wire.putBytes made.encode) ())
  refuses : ∀ load body, (∀ key, load ≠ .loaded key) → body.length ≤ Frame.maxBody →
    body.head? = some 11 ∨ body.head? = some 13 →
    ∃ effects, Effect.tpmCalls effects = [] ∧
      Connection.Answers ((ofAgent Agent.overStoredKey).handler load tpm) () body effects [5] ()

theorem lists_loaded {tpm : Tpm} {rest : Bytes} (short : (11 :: rest).length ≤ Frame.maxBody)
    (fits : (Reply.identities [key.identity]).encode.length ≤ Frame.maxBody) :
    Connection.Answers ((ofAgent Agent.overStoredKey).handler (.loaded key) tpm) () (11 :: rest)
      [.loaded] (Reply.identities [key.identity]).encode () := by
  have told : ((ofAgent Agent.overStoredKey (11 :: rest)).run (.loaded key) tpm).2 =
      .identities [key.identity] := by rw [run_of_list]
  have answers := answers_of_run short told fits
  rwa [run_of_list] at answers

theorem refuses_unloaded (unloaded : ∀ key, load ≠ .loaded key)
    (short : body.length ≤ Frame.maxBody) (asks : body.head? = some 11 ∨ body.head? = some 13)
    (tpm : Tpm) :
    ∃ effects, Effect.tpmCalls effects = [] ∧
      Connection.Answers ((ofAgent Agent.overStoredKey).handler load tpm) () body effects [5] () := by
  obtain ⟨calls, told⟩ := run_of_unloaded unloaded asks tpm
  have encoded : Reply.failure.encode = [5] := rfl
  have answers := answers_of_run short told (by simp [encoded, Frame.maxBody])
  rw [encoded] at answers
  exact ⟨_, calls, answers⟩

theorem signs_what_it_lists (path : String) (tpm : Tpm) : SignsWhatItLists path tpm where
  lists := by
    intro content key rest decoded short listing fits
    have holds : (KeyFile.file content).Holds key := ⟨content, rfl, decoded⟩
    have encoded : (Reply.identities [key.identity]).encode = listing := encode_listing key
    rw [KeySource.load_eq_loaded_iff.2 holds]
    rw [← encoded] at fits ⊢
    exact lists_loaded short fits
  signs := by
    intro content key data flags decoded body algorithm short load answered
    have holds : (KeyFile.file content).Holds key := ⟨content, rfl, decoded⟩
    have asks := signBody_asks holds.wellFormed short
    obtain ⟨calls, told⟩ : Effect.tpmCalls answered.1 = tpm.calls key algorithm data ∧
        answered.2 = ((tpm.made? key algorithm data).map Reply.signature).getD .failure :=
      run_of_asked holds asks tpm
    refine ⟨calls, fun made opens signs => ?_⟩
    have signed : answered.2 = .signature made := by
      simp [told, Tpm.made?, opens, signs]
    have encoded : (Reply.signature made).encode = 14 :: Wire.putBytes made.encode := rfl
    rw [← encoded]
    exact ⟨signed, answers_of_run short signed⟩
  refuses := by
    intro load body unloaded short asks
    exact refuses_unloaded unloaded short asks tpm

-- The blob in this file is labelled with a signature name, and bytes follow the key inside it.
example :
    let key : StoredKey := ⟨.rsa [1, 0, 1] [0x55], "spare", []⟩
    let made : Signature := ⟨.rsa (some .sha256), [1, 2, 3]⟩
    let tpm : Tpm := ⟨.ok (), fun _ _ _ => .ok made, .ok ()⟩
    let blob := (Algorithm.rsa (some .sha256)).encode ++ key.publicKey.encodeFields ++ [7, 7]
    let content := Wire.putText StoredKey.header ++ Wire.putBytes blob ++ Wire.putText "spare" ++
      Wire.putBytes []
    let answer (body : Bytes) := ((ofAgent Agent.overStoredKey body).run
      ((KeySource.file "ssh.key").load (.file content)) tpm).2
    blob ≠ key.publicKey.encode ∧ answer [11] = .identities [key.identity] ∧
      answer (signBody key.publicKey.encode [9] .rsaSha256) = .signature made := by
  decide +kernel

end Session

end SoleKey
