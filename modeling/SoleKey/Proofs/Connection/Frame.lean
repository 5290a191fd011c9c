import SoleKey.Connection.Frame
import SoleKey.Proofs.Wire

set_option autoImplicit false

namespace SoleKey.Frame

def Oversized (bytes : Bytes) : Prop :=
  ∃ count payload, maxBody < count ∧ count < UInt32.size ∧ bytes = Wire.putWord32 count ++ payload

def Unfinished (bytes : Bytes) : Prop :=
  bytes.length < headerSize ∨
    ∃ count payload, count ≤ maxBody ∧ payload.length < count ∧
      bytes = Wire.putWord32 count ++ payload

structure Framed (bytes : Bytes) (bodies : List Bytes) (tail : Bytes) : Prop where
  whole : bytes = bodies.flatMap Wire.putBytes ++ tail
  bounded : ∀ body ∈ bodies, body.length ≤ maxBody
  last : Oversized tail ∨ Unfinished tail

theorem maxBody_lt : maxBody < UInt32.size := by decide

theorem word32_run_putWord32 {count : Nat} (small : count < UInt32.size) (rest : Bytes) :
    Wire.word32.run (Wire.putWord32 count ++ rest) = .ok (count, rest) :=
  (Wire.reads_word32 _ _ _).2 ⟨_, ⟨small, rfl⟩, rfl⟩

theorem next_frame {body : Bytes} (bounded : body.length ≤ maxBody) (rest : Bytes) :
    next (Wire.putBytes body ++ rest) = .frame body rest := by
  have small := Nat.lt_of_le_of_lt bounded maxBody_lt
  simp [next, Wire.putBytes, List.append_assoc, word32_run_putWord32 small, Nat.not_lt.2 bounded,
    Bytes.split?_append]

theorem next_oversized {bytes : Bytes} (oversized : Oversized bytes) : next bytes = .oversized := by
  obtain ⟨count, payload, long, small, rfl⟩ := oversized
  simp [next, word32_run_putWord32 small, long]

theorem next_incomplete {bytes : Bytes} (unfinished : Unfinished bytes) :
    next bytes = .incomplete := by
  rcases unfinished with short | ⟨count, payload, bounded, missing, rfl⟩
  · simp [next, Wire.word32_run_of_length_lt short]
  · have small := Nat.lt_of_le_of_lt bounded maxBody_lt
    have fewer : Bytes.split? count payload = none := by
      simp [Bytes.split?]
      omega
    simp [next, word32_run_putWord32 small, Nat.not_lt.2 bounded, fewer]

theorem frame_or_rest (bytes : Bytes) :
    (∃ body rest, body.length ≤ maxBody ∧ bytes = Wire.putBytes body ++ rest) ∨
      Oversized bytes ∨ Unfinished bytes := by
  by_cases short : bytes.length < headerSize
  · exact .inr (.inr (.inl short))
  · have size : (bytes.take 4).length = 4 := by simp [headerSize] at short ⊢; omega
    have bound := Bytes.toNat_lt (bytes.take 4)
    rw [size] at bound
    have split : bytes = Wire.putWord32 (Bytes.toNat (bytes.take 4)) ++ bytes.drop 4 := by
      rw [Wire.putWord32_toNat size, List.take_append_drop]
    generalize Bytes.toNat (bytes.take 4) = count at bound split
    generalize bytes.drop 4 = payload at split
    subst split
    by_cases long : maxBody < count
    · exact .inr (.inl ⟨count, payload, long, bound, rfl⟩)
    · by_cases missing : payload.length < count
      · exact .inr (.inr (.inr ⟨count, payload, Nat.not_lt.1 long, missing, rfl⟩))
      · have body : (payload.take count).length = count := by simp; omega
        refine .inl ⟨payload.take count, payload.drop count, by omega, ?_⟩
        rw [Wire.putBytes, body, List.append_assoc, List.take_append_drop]

theorem next_eq_frame_iff {bytes body rest : Bytes} :
    next bytes = .frame body rest ↔
      body.length ≤ maxBody ∧ bytes = Wire.putBytes body ++ rest := by
  constructor
  · intro found
    rcases frame_or_rest bytes with ⟨other, left, bounded, rfl⟩ | oversized | unfinished
    · rw [next_frame bounded, Next.frame.injEq] at found
      obtain ⟨rfl, rfl⟩ := found
      exact ⟨bounded, rfl⟩
    · simp [next_oversized oversized] at found
    · simp [next_incomplete unfinished] at found
  · rintro ⟨bounded, rfl⟩
    exact next_frame bounded rest

theorem framed_of_rest {tail : Bytes} (last : Oversized tail ∨ Unfinished tail) :
    Framed tail [] tail :=
  ⟨rfl, by simp, last⟩

theorem Framed.cons {body bytes : Bytes} {bodies : List Bytes} {tail : Bytes}
    (framed : Framed bytes bodies tail) (bounded : body.length ≤ maxBody) :
    Framed (Wire.putBytes body ++ bytes) (body :: bodies) tail where
  whole := by simp [framed.whole]
  bounded := by simpa using ⟨bounded, framed.bounded⟩
  last := framed.last

theorem framed_flatMap {bodies : List Bytes} (bounded : ∀ body ∈ bodies, body.length ≤ maxBody) :
    Framed (bodies.flatMap Wire.putBytes) bodies [] where
  whole := (List.append_nil _).symm
  bounded := bounded
  last := .inr (.inl (by decide))

theorem Framed.exists (bytes : Bytes) : ∃ bodies tail, Framed bytes bodies tail := by
  rcases frame_or_rest bytes with ⟨body, rest, bounded, rfl⟩ | last
  · have shorter : rest.length < (Wire.putBytes body ++ rest).length := by
      rw [List.length_append, Wire.length_putBytes]
      omega
    obtain ⟨bodies, tail, framed⟩ := Framed.exists rest
    exact ⟨body :: bodies, tail, framed.cons bounded⟩
  · exact ⟨[], bytes, framed_of_rest last⟩
termination_by bytes.length

theorem next_rest {tail : Bytes} (last : Oversized tail ∨ Unfinished tail) (body rest : Bytes) :
    next tail ≠ .frame body rest := by
  rcases last with oversized | unfinished
  · simp [next_oversized oversized]
  · simp [next_incomplete unfinished]

theorem Framed.next_cons {bytes body : Bytes} {bodies : List Bytes} {tail : Bytes}
    (framed : Framed bytes (body :: bodies) tail) :
    next bytes = .frame body (bodies.flatMap Wire.putBytes ++ tail) ∧
      Framed (bodies.flatMap Wire.putBytes ++ tail) bodies tail := by
  have bounded := framed.bounded body (by simp)
  refine ⟨?_, rfl, fun other member => framed.bounded other (by simp [member]), framed.last⟩
  rw [framed.whole, List.flatMap_cons, List.append_assoc]
  exact next_frame bounded _

theorem Framed.unique {bytes : Bytes} {bodies others : List Bytes} {tail left : Bytes}
    (framed : Framed bytes bodies tail) (again : Framed bytes others left) :
    bodies = others ∧ tail = left := by
  -- Both partings give the next frame of the same bytes, if they have one at all.
  induction bodies generalizing bytes others with
  | nil =>
    obtain rfl : bytes = tail := framed.whole
    cases others with
    | nil => exact ⟨rfl, again.whole⟩
    | cons other rest => exact absurd again.next_cons.1 (next_rest framed.last _ _)
  | cons body rest ih =>
    obtain ⟨found, framedRest⟩ := framed.next_cons
    cases others with
    | nil =>
      obtain rfl : bytes = left := again.whole
      exact absurd found (next_rest again.last _ _)
    | cons other others =>
      obtain ⟨foundAgain, framedAgain⟩ := again.next_cons
      rw [found, Next.frame.injEq] at foundAgain
      obtain ⟨rfl, same⟩ := foundAgain
      rw [← same] at framedAgain
      obtain ⟨rfl, rfl⟩ := ih framedRest framedAgain
      exact ⟨rfl, rfl⟩

theorem Framed.append {bytes more : Bytes} {bodies others : List Bytes} {tail left : Bytes}
    (framed : Framed bytes bodies tail) (continued : Framed (tail ++ more) others left) :
    Framed (bytes ++ more) (bodies ++ others) left where
  whole := by
    rw [framed.whole, List.append_assoc, continued.whole, List.flatMap_append, List.append_assoc]
  bounded body member := by
    rcases List.mem_append.1 member with early | late
    · exact framed.bounded body early
    · exact continued.bounded body late
  last := continued.last

theorem Oversized.append {bytes : Bytes} (oversized : Oversized bytes) (more : Bytes) :
    Oversized (bytes ++ more) := by
  obtain ⟨count, payload, long, small, rfl⟩ := oversized
  exact ⟨count, payload ++ more, long, small, by simp⟩

theorem splitAll_go_flatMap {bodies : List Bytes} {bytes tail : Bytes}
    (framed : Framed bytes bodies tail) {fuel : Nat} (enough : bodies.length ≤ fuel)
    (found : List Bytes) :
    splitAll.go fuel found bytes = (found.reverse ++ bodies, tail) := by
  induction bodies generalizing bytes fuel found with
  | nil =>
    obtain rfl : bytes = tail := framed.whole
    cases fuel with
    | zero => simp [splitAll.go]
    | succ fuel =>
      rcases framed.last with oversized | unfinished
      · simp [splitAll.go, next_oversized oversized]
      · simp [splitAll.go, next_incomplete unfinished]
  | cons body rest ih =>
    obtain ⟨taken, framedRest⟩ := framed.next_cons
    cases fuel with
    | zero => simp at enough
    | succ fuel =>
      have later := ih framedRest (Nat.le_of_succ_le_succ enough) (body :: found)
      simp [splitAll.go, taken, later]

theorem Framed.length_le {bytes : Bytes} {bodies : List Bytes} {tail : Bytes}
    (framed : Framed bytes bodies tail) : bodies.length ≤ bytes.length := by
  induction bodies generalizing bytes with
  | nil => simp
  | cons body rest ih =>
    have shorter := ih framed.next_cons.2
    rw [framed.whole, List.flatMap_cons, List.append_assoc, List.length_append,
      Wire.length_putBytes, List.length_cons]
    omega

theorem splitAll_framed {bytes : Bytes} {bodies : List Bytes} {tail : Bytes}
    (framed : Framed bytes bodies tail) :
    splitAll (bytes.length + 1) bytes = (bodies, tail) := by
  have enough : bodies.length ≤ bytes.length + 1 := Nat.le_succ_of_le framed.length_le
  simpa [splitAll] using splitAll_go_flatMap framed enough []

end SoleKey.Frame
