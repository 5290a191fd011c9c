import SoleKey.Proofs.KeyOperation.SealedPart
import SoleKey.Proofs.SigningLock.Transition
import SoleKey.Summary
import Mathlib.Data.List.Forall2

set_option autoImplicit false

namespace SoleKey

variable {ι : Type}

namespace SigningLock

inductive EventsAlike (first second : StoredKey) : Event ι → Event ι → Prop where
  | same (event : Event ι) : EventsAlike first second event event
  | load (caller : ι) (tpm other : Tpm)
      (answered : ∀ operation : KeyOperation,
        operation.AnsweredAlike (.loaded first) tpm (.loaded second) other) :
      EventsAlike first second (.load caller (.loaded first) tpm)
        (.load caller (.loaded second) other)

inductive ProgressAlike : Progress → Progress → Prop where
  | loading : ProgressAlike .loading .loading
  | acting {found another : Load} {tpm other : Tpm} (loads : LoadsAlike found tpm another other)
      (made : Nat) : ProgressAlike (.acting found tpm made) (.acting another other made)

inductive Alike : SigningLock ι → SigningLock ι → Prop where
  | idle (waiting : List (Ticket ι)) : Alike ⟨false, waiting, []⟩ ⟨false, waiting, []⟩
  | busy (waiting : List (Ticket ι)) (ticket : Ticket ι) (present : Bool) {first second : Progress}
      (progress : ProgressAlike first second) :
      Alike ⟨true, waiting, [⟨ticket, first, present⟩]⟩ ⟨true, waiting, [⟨ticket, second, present⟩]⟩

structure StepsAlike (first second : Step ι) : Prop where
  effects : first.effects.map Effect.redacted = second.effects.map Effect.redacted
  delivered : first.delivered = second.delivered
  next : first.next.Alike second.next

theorem Alike.exclusive {lock other : SigningLock ι} (alike : lock.Alike other) :
    lock.Exclusive := by
  cases alike with
  | idle => exact .idle _
  | busy => exact .busy ..

theorem Alike.arrive {lock other : SigningLock ι} (alike : lock.Alike other) (ticket : Ticket ι) :
    Alike { lock with waiting := lock.waiting ++ [ticket] }
      { other with waiting := other.waiting ++ [ticket] } := by
  cases alike with
  | idle => exact .idle _
  | busy _ _ _ progress => exact .busy _ _ _ progress

variable [DecidableEq ι]

theorem Alike.leave {lock other : SigningLock ι} (alike : lock.Alike other) (caller : ι) :
    (lock.leave caller).Alike (other.leave caller) := by
  cases alike with
  | idle => exact .idle _
  | busy waiting ticket present progress =>
    by_cases own : ticket.caller = caller
    · simpa [SigningLock.leave, own] using Alike.busy _ ticket false progress
    · simpa [SigningLock.leave, own] using Alike.busy _ ticket present progress

variable {first second : StoredKey} {lock other : SigningLock ι} {step : Step ι}

theorem Alike.step? {event another : Event ι} (alike : lock.Alike other)
    (keys : first.redacted = second.redacted) (events : EventsAlike first second event another)
    (moved : lock.step? event = some step) :
    ∃ next, other.step? another = some next ∧ StepsAlike step next := by
  cases transition_of_step? alike.exclusive moved with
  | arrive _ ticket =>
    cases events
    exact ⟨_, rfl, rfl, rfl, alike.arrive ticket⟩
  | leave _ caller =>
    cases events
    exact ⟨_, rfl, rfl, rfl, alike.leave caller⟩
  | grant oldest rest =>
    cases events
    cases alike
    exact ⟨_, rfl, rfl, rfl, .busy _ _ _ .loading⟩
  | load waiting ticket present found tpm =>
    cases alike with
    | busy _ _ _ progress =>
      cases progress
      cases events with
      | same =>
        have loads := LoadsAlike.refl found tpm
        exact ⟨_, step?_of_transition (.load ..), rfl, rfl, .busy _ _ _ (.acting loads 0)⟩
      | load _ _ other answered =>
        have loads : LoadsAlike (.loaded first) tpm (.loaded second) other :=
          ⟨Load.redacted_loaded keys, answered⟩
        exact ⟨_, step?_of_transition (.load ..), rfl, rfl, .busy _ _ _ (.acting loads 0)⟩
  | act waiting ticket present found tpm made effect ahead =>
    cases events
    cases alike with
    | busy _ _ _ progress =>
      cases progress with
      | acting loads =>
        have runs := congrArg (·[made]?) (loads.conclude ticket.operation).effects
        simp only [List.getElem?_map, ahead, Option.map_some] at runs
        obtain ⟨effectToo, aheadToo, same⟩ := Option.map_eq_some_iff.1 runs.symm
        exact ⟨_, step?_of_transition (.act _ _ _ _ _ _ _ aheadToo), by simp [same], rfl,
          .busy _ _ _ (.acting loads (made + 1))⟩
  | finish waiting ticket present found tpm made complete =>
    cases events
    cases alike with
    | busy _ _ _ progress =>
      cases progress with
      | acting loads =>
        have runs := loads.conclude ticket.operation
        have lengths := congrArg List.length runs.effects
        simp only [List.length_map] at lengths
        exact ⟨_, step?_of_transition (.finish _ _ _ _ _ _ (complete.trans lengths)), rfl,
          by rw [runs.value]; rfl, .idle _⟩
  | panic waiting ticket present found tpm made =>
    cases events
    cases alike with
    | busy _ _ _ progress =>
      cases progress
      exact ⟨_, step?_of_transition (.panic ..), rfl, rfl, .idle _⟩

theorem steps?_cons {event : Event ι} {rest : List (Event ι)} {now later : Step ι}
    (moves : lock.step? event = some now) (goesOn : now.next.steps? rest = some later) :
    lock.steps? (event :: rest) =
      some ⟨now.effects ++ later.effects, now.delivered ++ later.delivered, later.next⟩ := by
  simp [SigningLock.steps?, moves, goesOn]

theorem Alike.steps? {events others : List (Event ι)} (keys : first.redacted = second.redacted)
    (same : List.Forall₂ (EventsAlike first second) events others) (alike : lock.Alike other)
    (moved : lock.steps? events = some step) :
    ∃ next, other.steps? others = some next ∧ StepsAlike step next := by
  induction same generalizing lock other step with
  | nil =>
    obtain rfl := Option.some.inj moved
    exact ⟨_, rfl, rfl, rfl, alike⟩
  | cons event _ ih =>
    simp only [SigningLock.steps?, Option.bind_eq_bind, Option.bind_eq_some_iff] at moved
    obtain ⟨now, movedNow, later, movedLater, same⟩ := moved
    obtain ⟨nowToo, movesNow, alikeNow⟩ := alike.step? keys event movedNow
    obtain ⟨laterToo, movesLater, alikeLater⟩ := ih alikeNow.next movedLater
    obtain rfl := Option.some.inj same
    exact ⟨_, steps?_cons movesNow movesLater,
      { effects := Effect.redacted_append alikeNow.effects alikeLater.effects
        delivered := by rw [alikeNow.delivered, alikeLater.delivered]
        next := alikeLater.next }⟩

end SigningLock

/-- All that can be told of two keys that differ in their sealed parts. -/
structure SealedPartUnseen (first second : StoredKey) : Prop where
  lists : ∀ tpm other,
    KeyOperation.list.run (.loaded first) tpm = KeyOperation.list.run (.loaded second) other
  orders : ∀ operation : KeyOperation,
    (operation.order? (.loaded first)).map SignOrder.redacted =
      (operation.order? (.loaded second)).map SignOrder.redacted
  refuses : ∀ operation tpm other, KeyOperation.order? operation (.loaded first) = none →
    operation.run (.loaded first) tpm = operation.run (.loaded second) other
  plainLines : ∀ operation tpm other,
    KeyOperation.plainLines (KeyOperation.run operation (.loaded first) tpm).1 =
      KeyOperation.plainLines (operation.run (.loaded second) other).1
  calls : ∀ operation tpm other, tpm.opens = other.opens →
    (Effect.tpmCalls (KeyOperation.run operation (.loaded first) tpm).1).map TpmCall.redacted =
      (Effect.tpmCalls (operation.run (.loaded second) other).1).map TpmCall.redacted
  -- One transport opens and closes in the same manner as itself.
  lines : ∀ operation tpm other, tpm.SameManner other →
    Effect.logLines (KeyOperation.run operation (.loaded first) tpm).1 =
      Effect.logLines (operation.run (.loaded second) other).1
  results : ∀ operation tpm other,
    KeyOperation.AnsweredAlike operation (.loaded first) tpm (.loaded second) other →
      RunsAlike (operation.run (.loaded first) tpm) (operation.run (.loaded second) other)
  plans : ∀ (α : Type) (plan : Plan α) tpm other,
    (∀ operation, KeyOperation.AnsweredAlike operation (.loaded first) tpm (.loaded second) other) →
      RunsAlike (plan.run (.loaded first) tpm) (plan.run (.loaded second) other)
  runs : ∀ (ι : Type) [DecidableEq ι] (events others : List (SigningLock.Event ι)) step,
    List.Forall₂ (SigningLock.EventsAlike first second) events others →
      SigningLock.free.steps? events = some step →
        ∃ another, SigningLock.free.steps? others = some another ∧
          SigningLock.StepsAlike step another
  summaries : first.sealedPart.length = second.sealedPart.length →
    first.summary = second.summary ∧ first.signerSummary = second.signerSummary

variable {first second : StoredKey}

theorem StoredKey.summary_congr (same : first.identity = second.identity)
    (lengths : first.sealedPart.length = second.sealedPart.length) :
    first.summary = second.summary := by
  simp only [identity, Identity.mk.injEq] at same
  simp only [summary, same, lengths]

theorem StoredKey.sealed_part_unseen (same : first.identity = second.identity) :
    SealedPartUnseen first second := by
  have keys := StoredKey.redacted_eq_iff.2 same
  have loads := Load.redacted_loaded keys
  exact
    { lists := fun tpm other => KeyOperation.run_unasked loads rfl
      orders := fun operation => operation.orders_alike loads
      refuses := fun operation tpm other unasked => KeyOperation.run_unasked loads unasked
      plainLines := fun operation => operation.plainLines_alike loads
      calls := fun operation _ _ opens => operation.tpmCalls_alike loads opens
      lines := fun operation _ _ manner => by
        have concluded := Effect.logLines_congr (operation.effects_alike loads manner)
        -- Loading the key, the one effect before these, writes no line.
        exact concluded
      results := fun operation _ _ answers => operation.run_alike loads answers
      plans := fun _ plan _ _ answers => LoadsAlike.plan ⟨loads, answers⟩ plan
      runs := fun ι _ events others step events moved =>
        SigningLock.Alike.steps? keys events (.idle []) moved
      summaries := fun lengths => by
        have alike := StoredKey.summary_congr same lengths
        exact ⟨alike, by simp only [StoredKey.signerSummary, alike]⟩ }

theorem StoredKey.resealed_key_unseen : ∃ first second : StoredKey,
    first.sealedPart ≠ second.sealedPart ∧ first.identity = second.identity ∧
      (∃ operation order, KeyOperation.order? operation (.loaded first) = some order) ∧
      SealedPartUnseen first second := by
  let publicKey : PublicKey := .ed25519 (List.replicate 32 7)
  let first : StoredKey := ⟨publicKey, "", [1]⟩
  let second : StoredKey := ⟨publicKey, "", [2]⟩
  have asked : (KeyOperation.sign publicKey [] .empty).order? (.loaded first) =
      some ⟨first, .ed25519, []⟩ :=
    KeyOperation.order?_eq_some_iff.2 ⟨publicKey, .empty, rfl, rfl, rfl, rfl, rfl⟩
  exact ⟨first, second, by decide, rfl, ⟨_, _, asked⟩, sealed_part_unseen rfl⟩

end SoleKey
