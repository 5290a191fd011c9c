import SoleKey.Proofs.Except
import SoleKey.Wire
import Mathlib.Data.List.Induction

set_option autoImplicit false

namespace SoleKey

namespace Bytes

theorem toNat_lt (bytes : Bytes) : toNat bytes < Nat.pow 256 bytes.length := by
  induction bytes using List.reverseRecOn with
  | nil => simp [toNat]
  | append_singleton front last ih =>
    have small := last.toNat_lt
    have wider : Nat.pow 256 (front.length + 1) = Nat.pow 256 front.length * 256 := rfl
    rw [toNat_append_singleton, List.length_append, List.length_singleton, wider]
    omega

theorem ofNat_toNat (bytes : Bytes) : ofNat bytes.length (toNat bytes) = bytes := by
  induction bytes using List.reverseRecOn with
  | nil => rfl
  | append_singleton front last ih =>
    have small := last.toNat_lt
    have high : (toNat front * 256 + last.toNat) / 256 = toNat front := by omega
    have low : UInt8.ofNat (toNat front * 256 + last.toNat) = last := by
      apply UInt8.toNat_inj.1
      simp only [UInt8.toNat_ofNat']
      omega
    rw [toNat_append_singleton, List.length_append, List.length_singleton, ofNat, high, low, ih]

theorem split?_eq_some_iff {count : Nat} {bytes front rest : Bytes} :
    split? count bytes = some (front, rest) ↔ front.length = count ∧ bytes = front ++ rest := by
  constructor
  · intro found
    obtain ⟨same, size⟩ := eq_append_of_split? found
    exact ⟨size, same⟩
  · rintro ⟨rfl, rfl⟩
    exact split?_append front rest

end Bytes

theorem Text.length_encode_replicate (count : Nat) :
    (Text.encode (String.ofList (List.replicate count 'c'))).length = count := by
  have bytes : (List.replicate count 'c').flatMap String.utf8EncodeChar =
      List.replicate count 0x63 := by
    induction count with
    | zero => rfl
    | succ count ih =>
      rw [List.replicate_succ, List.flatMap_cons, ih]
      rfl
  simp [Text.encode, List.utf8Encode, bytes]

namespace Decoder

variable {ε δ α β : Type}

-- The form says which byte strings stand for which value. A value is read off the front of an input
-- exactly if the input starts with a string of its form.
def Reads (decoder : Decoder ε α) (form : α → Bytes → Prop) : Prop :=
  ∀ input value rest,
    decoder.run input = .ok (value, rest) ↔ ∃ taken, form value taken ∧ input = taken ++ rest

theorem Reads.congr {decoder : Decoder ε α} {form other : α → Bytes → Prop}
    (reads : Reads decoder form) (same : ∀ value taken, form value taken ↔ other value taken) :
    Reads decoder other := by
  intro input value rest
  simp only [reads input value rest, same]

theorem reads_pure (given : α) :
    Reads (pure given : Decoder ε α) fun value taken => value = given ∧ taken = [] := by
  intro input value rest
  have ran : (pure given : Decoder ε α).run input = .ok (given, input) := rfl
  rw [ran, Except.ok.injEq, Prod.mk.injEq]
  constructor
  · rintro ⟨rfl, rfl⟩
    exact ⟨[], ⟨rfl, rfl⟩, rfl⟩
  · rintro ⟨_, ⟨rfl, rfl⟩, rfl⟩
    exact ⟨rfl, rfl⟩

theorem reads_throw (problem : ε) :
    Reads (throw problem : Decoder ε α) fun _ _ => False := by
  intro input value rest
  simp [throw, throwThe, MonadExceptOf.throw, StateT.run, StateT.lift, bind, Except.bind]

-- What follows has to be described only for what the first decoder can have found.
theorem Reads.bindFound {first : Decoder ε α} {next : α → Decoder ε β} {form : α → Bytes → Prop}
    {forms : α → β → Bytes → Prop} (reads : Reads first form)
    (continues : ∀ found front, form found front → Reads (next found) (forms found)) :
    Reads (first >>= next) fun value taken =>
      ∃ found front back, form found front ∧ forms found value back ∧ taken = front ++ back := by
  intro input value rest
  simp only [StateT.run_bind]
  constructor
  · intro result
    cases ran : first.run input with
    | error problem => simp [ran, Bind.bind, Except.bind] at result
    | ok pair =>
      obtain ⟨found, left⟩ := pair
      obtain ⟨front, fits, rfl⟩ := (reads input found left).1 ran
      simp only [ran, Bind.bind, Except.bind] at result
      obtain ⟨back, later, rfl⟩ := (continues found front fits left value rest).1 result
      exact ⟨front ++ back, ⟨found, front, back, fits, later, rfl⟩, by simp⟩
  · rintro ⟨_, ⟨found, front, back, fits, later, rfl⟩, rfl⟩
    have ran := (reads (front ++ (back ++ rest)) found (back ++ rest)).2 ⟨front, fits, rfl⟩
    rw [List.append_assoc, ran]
    exact (continues found front fits _ value rest).2 ⟨back, later, rfl⟩

theorem Reads.bind {first : Decoder ε α} {next : α → Decoder ε β} {form : α → Bytes → Prop}
    {forms : α → β → Bytes → Prop} (reads : Reads first form)
    (continues : ∀ found, Reads (next found) (forms found)) :
    Reads (first >>= next) fun value taken =>
      ∃ found front back, form found front ∧ forms found value back ∧ taken = front ++ back :=
  reads.bindFound fun found _ _ => continues found

theorem Reads.mapError {decoder : Decoder ε α} {form : α → Bytes → Prop}
    (reads : Reads decoder form) (change : ε → δ) : Reads (decoder.mapError change) form := by
  intro input value rest
  rw [← reads input value rest]
  exact mapError_eq_ok_iff

theorem reads_ofExcept (result : Except ε α) :
    Reads (ofExcept result) fun value taken => result = .ok value ∧ taken = [] := by
  intro input value rest
  cases result with
  | error problem => simp [ofExcept, StateT.run, Except.map]
  | ok found =>
    simp only [ofExcept, StateT.run, Except.map, Except.ok.injEq, Prod.mk.injEq]
    constructor
    · rintro ⟨rfl, rfl⟩
      exact ⟨[], ⟨rfl, rfl⟩, rfl⟩
    · rintro ⟨_, ⟨rfl, rfl⟩, rfl⟩
      exact ⟨rfl, rfl⟩

theorem Reads.guard {decoder refusal : Decoder ε α} {form : α → Bytes → Prop}
    (reads : Reads decoder form) (bad : Prop) [Decidable bad]
    (refuses : Reads refusal fun _ _ => False) :
    Reads (if bad then refusal else decoder) fun value taken => ¬bad ∧ form value taken := by
  by_cases holds : bad
  · simpa [holds] using refuses
  · simpa [holds] using reads

theorem reads_throw_bind (problem : ε) (next : β → Decoder ε α) :
    Reads (throw problem >>= next) fun _ _ => False := by
  intro input value rest
  have ran : (throw problem >>= next : Decoder ε α).run input = .error problem := rfl
  simp [ran]

theorem reads_check (given : α) (good : Prop) [Decidable good] (problem : ε) :
    Reads (if good then pure given else throw problem : Decoder ε α) fun value taken =>
      good ∧ value = given ∧ taken = [] := by
  by_cases holds : good
  · simpa [holds] using reads_pure given
  · simpa [holds] using reads_throw problem

theorem run_bind_ok {first : Decoder ε α} {input rest : Bytes} {found : α}
    (ran : first.run input = .ok (found, rest)) (next : α → Decoder ε β) :
    (first >>= next).run input = (next found).run rest := by
  rw [StateT.run_bind, ran]
  rfl

theorem Reads.run_bind {first : Decoder ε α} {form : α → Bytes → Prop} (reads : Reads first form)
    {found : α} {front : Bytes} (fits : form found front) (next : α → Decoder ε β) (rest : Bytes) :
    (first >>= next).run (front ++ rest) = (next found).run rest :=
  run_bind_ok ((reads _ _ _).2 ⟨front, fits, rfl⟩) next

theorem mapError_run_error {decoder : Decoder ε α} {input : Bytes} {problem : ε}
    (ran : decoder.run input = .error problem) (change : ε → δ) :
    (decoder.mapError change).run input = .error (change problem) :=
  congrArg (Except.mapError change) ran

theorem run_bind_error {first : Decoder ε α} {input : Bytes} {problem : ε}
    (ran : first.run input = .error problem) (next : α → Decoder ε β) :
    (first >>= next).run input = .error problem := by
  rw [StateT.run_bind, ran]
  rfl

theorem within_eq_ok_iff {decoder : Decoder ε α} {count : Nat} {input rest : Bytes} {value : α} :
    (decoder.within count).run input = .ok (value, rest) ↔
      ∃ unread, decoder.run (input.take count) = .ok (value, unread) ∧
        rest = unread ++ input.drop count := by
  show decoder.within count input = _ ↔ _
  unfold within
  split
  · rename_i found unread ran
    simp only [ran, Except.ok.injEq, Prod.mk.injEq]
    constructor
    · rintro ⟨rfl, rfl⟩
      exact ⟨unread, ⟨rfl, rfl⟩, rfl⟩
    · rintro ⟨_, ⟨rfl, rfl⟩, rfl⟩
      exact ⟨rfl, rfl⟩
  · rename_i problem ran
    simp [ran]

theorem Reads.value {decoder : Decoder ε α} {form : α → Bytes → Prop} (reads : Reads decoder form)
    {input : Bytes} {found : α} :
    decoder.value input = .ok found ↔ ∃ taken rest, form found taken ∧ input = taken ++ rest := by
  constructor
  · intro result
    cases ran : decoder.run input with
    | error problem => simp [Decoder.value, ran, Except.map] at result
    | ok pair =>
      obtain ⟨value, rest⟩ := pair
      simp only [Decoder.value, ran, Except.map, Except.ok.injEq] at result
      subst result
      obtain ⟨taken, fits, same⟩ := (reads input value rest).1 ran
      exact ⟨taken, rest, fits, same⟩
  · rintro ⟨taken, rest, fits, same⟩
    simp [Decoder.value, (reads input found rest).2 ⟨taken, fits, same⟩, Except.map]

theorem Reads.whole {decoder : Decoder ε α} {form : α → Bytes → Prop} (reads : Reads decoder form)
    (problem : Bytes → ε) {input : Bytes} {found : α} :
    (do
      let (value, rest) ← decoder.run input
      if rest.isEmpty then return value else throw (problem rest)) = .ok found ↔
        form found input := by
  rw [bind_eq_ok_iff]
  constructor
  · rintro ⟨⟨value, rest⟩, ran, ends⟩
    obtain ⟨nothing, same⟩ := guard_eq_ok_iff.1 ends
    obtain rfl : value = found := Except.ok.inj same
    obtain rfl : rest = [] := by simpa using nothing
    obtain ⟨taken, fits, rfl⟩ := (reads input value []).1 ran
    simpa using fits
  · intro fits
    have ran := (reads input found []).2 ⟨input, fits, (List.append_nil input).symm⟩
    exact ⟨(found, []), ran, rfl⟩

def Yields (decoder : Decoder ε α) (good : α → Prop) : Prop :=
  ∀ input value rest, decoder.run input = .ok (value, rest) → good value

theorem yields_pure {given : α} {good : α → Prop} (holds : good given) :
    Yields (pure given : Decoder ε α) good := by
  intro input value rest result
  obtain ⟨_, ⟨rfl, _⟩, _⟩ := (reads_pure given input value rest).1 result
  exact holds

theorem yields_throw (problem : ε) (good : α → Prop) :
    Yields (throw problem : Decoder ε α) good := by
  intro input value rest result
  obtain ⟨_, impossible, _⟩ := (reads_throw problem input value rest).1 result
  exact impossible.elim

theorem Yields.bind {first : Decoder ε α} {next : α → Decoder ε β} {fits : α → Prop}
    {good : β → Prop} (yields : Yields first fits)
    (continues : ∀ found, fits found → Yields (next found) good) : Yields (first >>= next) good := by
  intro input value rest result
  rw [StateT.run_bind] at result
  cases ran : first.run input with
  | error problem => simp [ran, Bind.bind, Except.bind] at result
  | ok pair =>
    obtain ⟨found, left⟩ := pair
    simp only [ran, Bind.bind, Except.bind] at result
    exact continues found (yields _ _ _ ran) left value rest result

theorem yields_true (decoder : Decoder ε α) : Yields decoder fun _ => True :=
  fun _ _ _ _ => trivial

theorem Reads.yields {decoder : Decoder ε α} {form : α → Bytes → Prop} (reads : Reads decoder form) :
    Yields decoder fun value => ∃ taken, form value taken := by
  intro input value rest ran
  obtain ⟨taken, fits, _⟩ := (reads input value rest).1 ran
  exact ⟨taken, fits⟩

theorem Yields.guard {decoder refusal : Decoder ε α} {good : α → Prop}
    (yields : Yields decoder good) (bad : Prop) [Decidable bad]
    (refuses : Reads refusal fun _ _ => False) : Yields (if bad then refusal else decoder) good := by
  intro input value rest ran
  split at ran
  · obtain ⟨_, impossible, _⟩ := (refuses input value rest).1 ran
    exact impossible.elim
  · exact yields input value rest ran

theorem Yields.weaken {decoder : Decoder ε α} {fits good : α → Prop} (yields : Yields decoder fits)
    (weaker : ∀ value, fits value → good value) : Yields decoder good :=
  fun _ _ _ ran => weaker _ (yields _ _ _ ran)

theorem Yields.value {decoder : Decoder ε α} {good : α → Prop} (yields : Yields decoder good)
    {input : Bytes} {found : α} (result : decoder.value input = .ok found) : good found := by
  cases ran : decoder.run input with
  | error problem => simp [Decoder.value, ran, Except.map] at result
  | ok pair =>
    obtain ⟨value, rest⟩ := pair
    simp only [Decoder.value, ran, Except.map, Except.ok.injEq] at result
    exact result ▸ yields _ _ _ ran

end Decoder

namespace Wire

open Decoder

variable {α ε : Type}

@[simp] theorem length_putWord32 (count : Nat) : (putWord32 count).length = 4 :=
  Bytes.length_ofNat 4 count

@[simp] theorem length_putBytes (content : Bytes) :
    (putBytes content).length = 4 + content.length := by
  simp [putBytes]

theorem toNat_putWord32 {count : Nat} (small : count < UInt32.size) :
    Bytes.toNat (putWord32 count) = count := by
  rw [putWord32, Bytes.toNat_ofNat]
  exact Nat.mod_eq_of_lt small

theorem putWord32_toNat {field : Bytes} (size : field.length = 4) :
    putWord32 (Bytes.toNat field) = field := by
  rw [putWord32, ← size, Bytes.ofNat_toNat]

theorem maxLength_lt : maxLength < UInt32.size := by decide

theorem word32_run_of_length_lt {input : Bytes} (short : input.length < 4) :
    word32.run input = .error .length := by
  match input with
  | [] | [_] | [_, _] | [_, _, _] => rfl
  | _ :: _ :: _ :: _ :: _ => simp at short; omega

theorem word32_run_append {field : Bytes} (size : field.length = 4) (rest : Bytes) :
    word32.run (field ++ rest) = .ok (Bytes.toNat field, rest) := by
  match field with
  | [_, _, _, _] => rfl
  | [] | [_] | [_, _] | [_, _, _] => simp at size
  | _ :: _ :: _ :: _ :: _ :: _ => simp at size

theorem reads_word32 : Reads word32 fun value taken => value < UInt32.size ∧ taken = putWord32 value := by
  intro input value rest
  constructor
  · intro result
    by_cases short : input.length < 4
    · simp [word32_run_of_length_lt short] at result
    · have size : (input.take 4).length = 4 := by simp; omega
      rw [← List.take_append_drop 4 input, word32_run_append size] at result
      simp only [Except.ok.injEq, Prod.mk.injEq] at result
      obtain ⟨rfl, rfl⟩ := result
      have bound := Bytes.toNat_lt (input.take 4)
      rw [size] at bound
      exact ⟨input.take 4, ⟨bound, (putWord32_toNat size).symm⟩,
        (List.take_append_drop 4 input).symm⟩
  · rintro ⟨_, ⟨small, rfl⟩, rfl⟩
    rw [word32_run_append (length_putWord32 value), toNat_putWord32 small]

theorem reads_byte : Reads byte fun value taken => taken = [value] := by
  intro input value rest
  cases input with
  | nil => simp [byte, StateT.run]
  | cons first left =>
    simp only [byte, StateT.run, Except.ok.injEq, Prod.mk.injEq]
    constructor
    · rintro ⟨rfl, rfl⟩
      exact ⟨[first], rfl, rfl⟩
    · rintro ⟨_, rfl, same⟩
      exact List.cons.inj same

theorem reads_length : Reads length fun value taken =>
    value ≤ maxLength ∧ taken = putWord32 value := by
  refine (reads_word32.bind fun count => (reads_pure count).guard (count > maxLength) (reads_throw .overflow)).congr ?_
  intro value taken
  constructor
  · rintro ⟨_, _, _, ⟨_, rfl⟩, ⟨fits, rfl, rfl⟩, rfl⟩
    exact ⟨Nat.not_lt.1 fits, by simp⟩
  · rintro ⟨fits, rfl⟩
    exact ⟨value, _, [], ⟨Nat.lt_of_le_of_lt fits maxLength_lt, rfl⟩,
      ⟨Nat.not_lt.2 fits, rfl, rfl⟩, by simp⟩

theorem length_run_overflow {count : Nat} (long : maxLength < count) (small : count < UInt32.size)
    (rest : Bytes) : length.run (putWord32 count ++ rest) = .error .overflow := by
  refine (reads_word32.run_bind ⟨small, rfl⟩ _ _).trans ?_
  simp only [gt_iff_lt, if_pos long]
  rfl

theorem bytes_run_overflow {content : Bytes} (long : maxLength < content.length)
    (small : content.length < UInt32.size) (rest : Bytes) :
    bytes.run (putBytes content ++ rest) = .error .overflow := by
  rw [putBytes, List.append_assoc]
  exact run_bind_error (length_run_overflow long small _) _

theorem text_run_overflow {content : String} (long : maxLength < (Text.encode content).length)
    (small : (Text.encode content).length < UInt32.size) (rest : Bytes) :
    text.run (putText content ++ rest) = .error .overflow :=
  run_bind_error (bytes_run_overflow long small rest) _

theorem reads_raw (count : Nat) : Reads (raw count) fun value taken =>
    value.length = count ∧ taken = value := by
  intro input value rest
  cases parts : Bytes.split? count input with
  | none =>
    simp only [raw, StateT.run, parts, reduceCtorEq, false_iff]
    rintro ⟨_, ⟨size, rfl⟩, rfl⟩
    rw [Bytes.split?_eq_some_iff.2 ⟨size, rfl⟩] at parts
    cases parts
  | some pair =>
    obtain ⟨front, back⟩ := pair
    simp only [raw, StateT.run, parts, Except.ok.injEq, Prod.mk.injEq]
    obtain ⟨size, rfl⟩ := Bytes.split?_eq_some_iff.1 parts
    constructor
    · rintro ⟨rfl, rfl⟩
      exact ⟨front, ⟨size, rfl⟩, rfl⟩
    · rintro ⟨_, ⟨other, rfl⟩, same⟩
      exact List.append_inj same (size.trans other.symm)

theorem reads_bytes : Reads bytes fun value taken =>
    value.length ≤ maxLength ∧ taken = putBytes value := by
  refine (reads_length.bind fun count => reads_raw count).congr ?_
  intro value taken
  constructor
  · rintro ⟨_, _, _, ⟨fits, rfl⟩, ⟨rfl, rfl⟩, rfl⟩
    exact ⟨fits, rfl⟩
  · rintro ⟨fits, rfl⟩
    exact ⟨value.length, _, value, ⟨fits, rfl⟩, ⟨rfl, rfl⟩, rfl⟩

theorem ofUtf8_eq_ok_iff {found : Bytes} {text : String} :
    ofUtf8 found = .ok text ↔ found = Text.encode text := by
  rw [← Text.decode?_eq_some_iff, ofUtf8]
  cases Text.decode? found <;> simp

theorem reads_text : Reads text fun value taken =>
    (Text.encode value).length ≤ maxLength ∧ taken = putText value := by
  refine (reads_bytes.bind fun found => reads_ofExcept (ofUtf8 found)).congr ?_
  intro value taken
  simp only [ofUtf8_eq_ok_iff]
  constructor
  · rintro ⟨_, _, _, ⟨fits, rfl⟩, ⟨rfl, rfl⟩, rfl⟩
    exact ⟨fits, by simp [putText]⟩
  · rintro ⟨fits, rfl⟩
    exact ⟨_, _, [], ⟨fits, rfl⟩, ⟨rfl, rfl⟩, by simp [putText]⟩

theorem reads_bounded (limit : Nat) : Reads (bounded limit) fun value taken =>
    value.length ≤ limit ∧ value.length ≤ maxLength ∧ taken = putBytes value := by
  refine (reads_length.bind fun count => (reads_raw count).guard (count > limit) (reads_throw .length)).congr ?_
  intro value taken
  constructor
  · rintro ⟨_, _, _, ⟨fits, rfl⟩, ⟨within, rfl, rfl⟩, rfl⟩
    exact ⟨Nat.not_lt.1 within, fits, rfl⟩
  · rintro ⟨within, fits, rfl⟩
    exact ⟨value.length, _, value, ⟨fits, rfl⟩, ⟨Nat.not_lt.2 within, rfl, rfl⟩, rfl⟩

theorem Reads.within {decoder : Decoder ε α} {form : α → Bytes → Prop} (reads : Reads decoder form)
    (count : Nat) :
    Reads (decoder.within count) fun value taken => taken.length ≤ count ∧ form value taken := by
  intro input value rest
  rw [within_eq_ok_iff]
  constructor
  · rintro ⟨unread, ran, rfl⟩
    obtain ⟨taken, fits, same⟩ := (reads _ _ _).1 ran
    -- The inner decoder sees no more than the bytes that are counted.
    have inside := congrArg List.length same
    simp only [List.length_take, List.length_append] at inside
    refine ⟨taken, ⟨by omega, fits⟩, ?_⟩
    rw [← List.append_assoc, ← same, List.take_append_drop]
  · rintro ⟨taken, ⟨inside, fits⟩, rfl⟩
    have front : (taken ++ rest).take count = taken ++ rest.take (count - taken.length) := by
      rw [List.take_append, List.take_of_length_le inside]
    have back : (taken ++ rest).drop count = rest.drop (count - taken.length) := by
      rw [List.drop_append, List.drop_of_length_le inside, List.nil_append]
    exact ⟨_, (reads _ _ _).2 ⟨taken, fits, front⟩, by rw [back, List.take_append_drop]⟩

-- Bytes that the length counts and the value does not take stay where they are.
theorem Reads.prefixed {decoder : Decoder ε α} {form : α → Bytes → Prop}
    (reads : Reads decoder form) (lift : WireError → ε) :
    Reads (prefixed lift decoder) fun value taken => ∃ count content,
      content.length ≤ count ∧ count ≤ maxLength ∧ form value content ∧
        taken = putWord32 count ++ content := by
  refine ((reads_length.mapError lift).bind fun count => Reads.within reads count).congr ?_
  intro value taken
  constructor
  · rintro ⟨count, _, content, ⟨fits, rfl⟩, ⟨inside, found⟩, rfl⟩
    exact ⟨count, content, inside, fits, found, rfl⟩
  · rintro ⟨count, content, inside, fits, found, rfl⟩
    exact ⟨count, _, content, ⟨fits, rfl⟩, ⟨inside, found⟩, rfl⟩

theorem reads_array (size : Nat) : Reads (array size) fun value taken => ∃ count,
    value.length = size ∧ size ≤ count ∧ count ≤ maxLength ∧ taken = putWord32 count ++ value := by
  refine (Reads.prefixed (reads_raw size) id).congr ?_
  intro value taken
  constructor
  · rintro ⟨count, content, inside, fits, ⟨rfl, rfl⟩, rfl⟩
    exact ⟨count, rfl, inside, fits, rfl⟩
  · rintro ⟨count, rfl, inside, fits, rfl⟩
    exact ⟨count, value, inside, fits, ⟨rfl, rfl⟩, rfl⟩

theorem length_le_of_mem {content : Bytes} {strings : List Bytes} (there : content ∈ strings) :
    content.length ≤ (strings.flatMap putBytes).length := by
  induction strings with
  | nil => cases there
  | cons first rest ih =>
    rw [List.flatMap_cons, List.length_append, length_putBytes]
    cases there with
    | head => omega
    | tail _ later =>
      have bound := ih later
      omega

theorem putStrings_eq_ok {strings : List Bytes}
    (small : ∀ content ∈ strings, content.length < UInt32.size) :
    putStrings strings = .ok (strings.flatMap putBytes) := by
  induction strings with
  | nil => rfl
  | cons first rest ih =>
    have fits := small first List.mem_cons_self
    have onward := ih fun content later => small content (List.mem_cons_of_mem _ later)
    simp [putStrings, fits, onward, Bind.bind, Except.bind, pure, Except.pure]

theorem reads_label (ofName? : String → Option α) : Reads (label ofName?) fun value taken =>
    ∃ name, ofName? name = some value ∧ (Text.encode name).length ≤ maxLabel ∧
      taken = putText name := by
  have short : maxLabel ≤ maxLength := by decide
  refine ((reads_bounded maxLabel).bind fun found =>
    (reads_ofExcept (ofUtf8 found)).bind fun name =>
      (show Reads _ fun value taken => ofName? name = some value ∧ taken = [] from ?named)).congr ?_
  case named =>
    cases found : ofName? name with
    | none => exact (reads_throw _).congr (by simp)
    | some meant => exact (reads_pure meant).congr (by simp [eq_comm])
  intro value taken
  simp only [ofUtf8_eq_ok_iff]
  constructor
  · rintro ⟨_, _, _, ⟨size, _, rfl⟩, ⟨name, _, _, ⟨rfl, rfl⟩, ⟨meant, rfl⟩, rfl⟩, rfl⟩
    exact ⟨name, meant, size, by simp [putText]⟩
  · rintro ⟨name, meant, size, rfl⟩
    exact ⟨_, _, [], ⟨size, Nat.le_trans size short, rfl⟩, ⟨name, [], [], ⟨rfl, rfl⟩, ⟨meant, rfl⟩, rfl⟩,
      by simp [putText]⟩

end Wire

end SoleKey
