import SoleKey.Proofs.Connection.Arrival
import SoleKey.Proofs.Connection.Listing
import SoleKey.Proofs.Connection.Refusal
import SoleKey.Proofs.SoftwareTpm.SignatureSize

set_option autoImplicit false

namespace SoleKey

theorem Request.SignBody.length_encode_lt {key : PublicKey} {data body : Bytes}
    {flags : SignatureFlags} (asks : SignBody key data flags body) :
    key.encode.length + 13 ≤ body.length := by
  obtain ⟨count, form, bits, rest, wire, _, _, _, _, _, rfl⟩ := asks
  have fits := wire.length_encode_le
  simp only [List.length_cons, List.length_append, Wire.length_putWord32, Wire.length_putBytes]
  omega

def StoredKey.listingLength (key : StoredKey) : Nat :=
  13 + key.publicKey.encode.length + (Text.encode key.comment).length

theorem StoredKey.length_listing (key : StoredKey) :
    (Reply.identities [key.identity]).encode.length = key.listingLength := by
  simp only [Session.encode_listing, List.length_cons, List.length_append, Wire.putText,
    Wire.length_putWord32, Wire.length_putBytes, listingLength]
  omega

namespace Session

def replyTo (path : String) (found : KeyFile) (body : Bytes) : Bytes :=
  ((ofAgent Agent.overStoredKey body).run ((KeySource.file path).load found) softwareTpm).2.encode

variable {path : String} {found : KeyFile} {body : Bytes} {key : StoredKey}

theorem length_failure : Reply.failure.encode.length ≤ Frame.maxBody := by decide

theorem length_signature_le {data : Bytes} {flags : SignatureFlags} {made : Signature}
    (asks : Request.SignBody key.publicKey data flags body) (short : body.length ≤ Frame.maxBody)
    (signed : SoftwareTpm.sign key (key.publicKey.signatureAlgorithm flags) data = .ok made) :
    (Reply.signature made).encode.length ≤ Frame.maxBody := by
  -- The pair that signs has the blob that the request names, so the request bounds it.
  obtain ⟨pair, recovered, signs, _⟩ := SoftwareTpm.sign_eq_ok_iff.1 signed
  have own := (SoftwareTpm.recover_eq_ok_iff.1 recovered).2
  have bound := Keypair.length_of_sign signs
  have names := asks.length_encode_lt
  rw [own] at bound
  simp only [Reply.encode, List.length_cons, Wire.length_putBytes, Frame.maxBody] at short ⊢
  omega

theorem length_of_outcome {calls : List TpmCall} {reply : Reply}
    (outcome : Outcome found softwareTpm body calls reply) (sign : body.head? = some 13)
    (short : body.length ≤ Frame.maxBody) : reply.encode.length ≤ Frame.maxBody := by
  cases outcome with
  | turnedDown _ _ failed => exact failed sign ▸ length_failure
  | carriedOut stored data flags holds asks =>
    cases made : softwareTpm.made? stored (stored.publicKey.signatureAlgorithm flags) data with
    | none => exact length_failure
    | some signature =>
      exact length_signature_le asks short (SoftwareTpm.made?_eq_some_iff.1 made)

theorem length_replyTo_le (short : body.length ≤ Frame.maxBody) (noList : body.head? ≠ some 11) :
    (replyTo path found body).length ≤ Frame.maxBody := by
  by_cases sign : body.head? = some 13
  · exact length_of_outcome (outcome path found softwareTpm body) sign short
  · obtain ⟨effects, _, planned⟩ := plan_of_other noList sign
    rw [replyTo, planned]
    simp only [Plan.run, encode_refusal]
    split <;> decide

theorem replyTo_list (holds : found.Holds key) (rest : Bytes) :
    (replyTo path found (11 :: rest)).length = key.listingLength := by
  rw [replyTo, KeySource.load_eq_loaded_iff.2 holds, run_of_list]
  exact key.length_listing

theorem length_replyTo_of_listings (listings : ∀ key, found.Holds key →
      key.listingLength ≤ Frame.maxBody) (short : body.length ≤ Frame.maxBody) :
    (replyTo path found body).length ≤ Frame.maxBody := by
  by_cases list : body.head? = some 11
  · obtain ⟨rest, rfl⟩ := List.head?_eq_some_iff.1 list
    by_cases loaded : ∃ key, found.Holds key
    · obtain ⟨key, holds⟩ := loaded
      rw [replyTo_list holds]
      exact listings key holds
    · have unloaded (key : StoredKey) : (KeySource.file path).load found ≠ .loaded key :=
        fun loads => loaded ⟨key, KeySource.load_eq_loaded_iff.1 loads⟩
      rw [replyTo, (run_of_unloaded unloaded (.inl rfl) softwareTpm).2]
      exact length_failure
  · exact length_replyTo_le short list

end Session

namespace Connection

variable {session : Session} {load : Load} {tpm : Tpm}

theorem converse_all {bodies : List Bytes}
    (fits : ∀ body ∈ bodies, ((session body).run load tpm).2.encode.length ≤ Frame.maxBody) :
    (converse (session.handler load tpm) () bodies).replies =
        bodies.map (fun body => ((session body).run load tpm).2.encode) ∧
      (converse (session.handler load tpm) () bodies).stopped = false := by
  induction bodies with
  | nil => exact ⟨rfl, rfl⟩
  | cons body rest ih =>
    have first := fits body (by simp)
    obtain ⟨replies, stopped⟩ := ih fun other member => fits other (by simp [member])
    simp [converse, Session.handler, Nat.not_lt.2 first] at replies stopped ⊢
    exact ⟨replies, stopped⟩

theorem converse_long {before : List Bytes} (after : List Bytes) {body : Bytes}
    (fits : ∀ body ∈ before, ((session body).run load tpm).2.encode.length ≤ Frame.maxBody)
    (long : Frame.maxBody < ((session body).run load tpm).2.encode.length) :
    (converse (session.handler load tpm) () (before ++ body :: after)).replies =
        before.map (fun body => ((session body).run load tpm).2.encode) ∧
      (converse (session.handler load tpm) () (before ++ body :: after)).stopped = true := by
  obtain ⟨replies, goesOn⟩ := converse_all fits
  have last : converse (session.handler load tpm) () (body :: after) =
      ⟨((session body).run load tpm).1, [], (), true⟩ := by
    simp [converse, Session.handler, long]
  rw [converse_append]
  simp [goesOn, replies, last]

theorem Ends.ok_of_boundary {result : Option (Except ConnectionError Unit)}
    (ends : Ends false [] (some (.ok ())) result) : result = some (.ok ()) := by
  cases ends with
  | replyTooLong long => cases long
  | oversized _ last => exact absurd last (not_oversized_of_unfinished (.inl (by decide)))
  | failed _ _ _ broken => simp at broken
  | clean => rfl
  | cutShort _ _ _ within => exact absurd rfl within.1
  | goesOn _ _ more => simp at more

theorem Ends.tooBig_of_stopped {tail : Bytes} {ending : Option (Except SystemError Unit)}
    {result : Option (Except ConnectionError Unit)} (ends : Ends true tail ending result) :
    result = some (.error (.io Frame.tooBig)) := by
  cases ends with
  | replyTooLong => rfl
  | oversized answered | failed _ answered | clean answered | cutShort answered | goesOn answered =>
    cases answered

def servedAlone (path : String) (found : KeyFile) (pieces : List Bytes) : Connection :=
  ((start .unlimited).serve
    ((Session.ofAgent Agent.overStoredKey).handler ((KeySource.file path).load found) softwareTpm)
    () (arrivals pieces (some (.ok ())))).2.2

variable {path : String} {found : KeyFile} {pieces bodies : List Bytes}

theorem conducted_servedAlone (path : String) (found : KeyFile)
    (bounded : ∀ body ∈ bodies, body.length ≤ Frame.maxBody)
    (whole : pieces.flatten = bodies.flatMap Wire.putBytes) :
    let told := converse ((Session.ofAgent Agent.overStoredKey).handler
      ((KeySource.file path).load found) softwareTpm) () bodies
    Frame.Framed (servedAlone path found pieces).written told.replies [] ∧
      Ends told.stopped [] (some (.ok ())) (servedAlone path found pieces).result? := by
  intro told
  have framed : Frame.Framed pieces.flatten bodies [] := whole ▸ Frame.framed_flatMap bounded
  obtain ⟨others, tail, again, settled⟩ :=
    (settledBy_start ((Session.ofAgent Agent.overStoredKey).handler
      ((KeySource.file path).load found) softwareTpm) ()).serve pieces (some (.ok ()))
  obtain ⟨rfl, rfl⟩ := framed.unique again
  have written := settled.conducted.written
  exact ⟨written ▸ framed_replies _ _ bodies, settled.conducted.ends⟩

theorem servedAlone_of_fits (bounded : ∀ body ∈ bodies, body.length ≤ Frame.maxBody)
    (whole : pieces.flatten = bodies.flatMap Wire.putBytes)
    (fits : ∀ body ∈ bodies, (Session.replyTo path found body).length ≤ Frame.maxBody) :
    (servedAlone path found pieces).result? = some (.ok ()) ∧
      Frame.Framed (servedAlone path found pieces).written
        (bodies.map (Session.replyTo path found)) [] := by
  obtain ⟨framed, ends⟩ := conducted_servedAlone path found bounded whole
  obtain ⟨replies, goesOn⟩ := converse_all fits
  rw [goesOn] at ends
  rw [replies] at framed
  exact ⟨ends.ok_of_boundary, framed⟩

theorem servedAlone_of_long {before after : List Bytes} {body : Bytes}
    (bounded : ∀ other ∈ before ++ body :: after, other.length ≤ Frame.maxBody)
    (whole : pieces.flatten = (before ++ body :: after).flatMap Wire.putBytes)
    (fits : ∀ other ∈ before, (Session.replyTo path found other).length ≤ Frame.maxBody)
    (long : Frame.maxBody < (Session.replyTo path found body).length) :
    (servedAlone path found pieces).result? = some (.error (.io Frame.tooBig)) ∧
      Frame.Framed (servedAlone path found pieces).written
        (before.map (Session.replyTo path found)) [] := by
  obtain ⟨framed, ends⟩ := conducted_servedAlone path found bounded whole
  obtain ⟨replies, stopped⟩ := converse_long after fits long
  rw [stopped] at ends
  rw [replies] at framed
  exact ⟨ends.tooBig_of_stopped, framed⟩

/-- What the client of an agent over the software TPM gets for its bodies. -/
structure HangsUpOnlyOnLongListing (path : String) (found : KeyFile) (bodies : List Bytes)
    (served : Connection) : Prop where
  answered : (∀ key, found.Holds key → key.listingLength ≤ Frame.maxBody) ∨
      (∀ body ∈ bodies, body.head? ≠ some 11) →
    served.result? = some (.ok ()) ∧
      Frame.Framed served.written (bodies.map (Session.replyTo path found)) []
  hungUp : ∀ key before rest after, found.Holds key → Frame.maxBody < key.listingLength →
    bodies = before ++ (11 :: rest) :: after → (∀ body ∈ before, body.head? ≠ some 11) →
    served.result? = some (.error (.io Frame.tooBig)) ∧
      Frame.Framed served.written (before.map (Session.replyTo path found)) []

theorem hangs_up_only_on_long_listing (path : String) (found : KeyFile)
    (pieces bodies : List Bytes) (bounded : ∀ body ∈ bodies, body.length ≤ Frame.maxBody)
    (whole : pieces.flatten = bodies.flatMap Wire.putBytes) :
    HangsUpOnlyOnLongListing path found bodies (servedAlone path found pieces) where
  answered := by
    intro harmless
    refine servedAlone_of_fits bounded whole fun body member => ?_
    rcases harmless with listings | noList
    · exact Session.length_replyTo_of_listings listings (bounded body member)
    · exact Session.length_replyTo_le (bounded body member) (noList body member)
  hungUp := by
    rintro key before rest after holds long rfl noList
    have fits (body : Bytes) (member : body ∈ before) :
        (Session.replyTo path found body).length ≤ Frame.maxBody :=
      Session.length_replyTo_le (bounded body (by simp [member])) (noList body member)
    refine servedAlone_of_long bounded whole fits ?_
    rwa [Session.replyTo_list holds]

theorem short_listing_is_answered :
    let key : StoredKey := ⟨.ed25519 (List.replicate 32 7), "spare", []⟩
    let bodies : List Bytes := [[11], [19]]
    let pieces : List Bytes := [[0, 0], [0, 1, 11, 0, 0, 0], [1, 19]]
    HangsUpOnlyOnLongListing "ssh.key" (.file key.encode) bodies
        (servedAlone "ssh.key" (.file key.encode) pieces) ∧
      (servedAlone "ssh.key" (.file key.encode) pieces).result? = some (.ok ()) := by
  intro key bodies pieces
  have holds : (KeyFile.file key.encode).Holds key := ⟨_, rfl, by decide +kernel⟩
  have conduct := hangs_up_only_on_long_listing "ssh.key" (.file key.encode) pieces bodies
    (by decide) (by decide)
  refine ⟨conduct, (conduct.answered (.inl fun other again => ?_)).1⟩
  rw [Session.holds_unique again holds]
  decide

-- A key whose listing is one byte longer than what may be sent.
def longComment : StoredKey :=
  ⟨.ed25519 (List.replicate 32 7), String.ofList (List.replicate 262081 'c'), []⟩

theorem length_longComment : (Text.encode longComment.comment).length = 262081 :=
  Text.length_encode_replicate 262081

theorem length_blob_longComment : longComment.publicKey.encode.length = 51 := by decide

theorem holds_longComment : (KeyFile.file longComment.encode).Holds longComment := by
  refine ⟨_, rfl, StoredKey.decode_encode rfl ?_ ?_ (Nat.zero_le _)⟩
  · rw [length_blob_longComment]
    decide
  · rw [length_longComment]
    decide

theorem hangs_up_on_long_comment :
    let bodies : List Bytes := [[11], [19]]
    let served := servedAlone "ssh.key" (.file longComment.encode) [bodies.flatMap Wire.putBytes]
    (∀ body ∈ bodies, body.length ≤ Frame.maxBody) ∧
      served.result? = some (.error (.io Frame.tooBig)) ∧ served.written = [] := by
  intro bodies served
  have bounded : ∀ body ∈ bodies, body.length ≤ Frame.maxBody := by decide
  have whole : [bodies.flatMap Wire.putBytes].flatten =
      ([] ++ [11] :: [[19]] : List Bytes).flatMap Wire.putBytes := by simp [bodies]
  have long : Frame.maxBody <
      (Session.replyTo "ssh.key" (.file longComment.encode) [11]).length := by
    rw [Session.replyTo_list holds_longComment, StoredKey.listingLength, length_blob_longComment,
      length_longComment]
    decide
  obtain ⟨result, framed⟩ := servedAlone_of_long bounded whole nofun long
  exact ⟨bounded, result, framed.whole⟩

end Connection

end SoleKey
