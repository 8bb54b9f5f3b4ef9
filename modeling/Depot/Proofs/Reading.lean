import Depot.Stream

/-!
What reading a stream gives does not depend on the pieces that the stream hands out. A reader has
some bytes before it; reading takes as many of them as are wanted, and reaches the end of the stream,
or its failure, only if more are wanted than are left.
-/

namespace Depot.Reader

/-- The next bytes of a stream. -/
def upcoming (reader : Reader) (count : Nat) : ByteArray :=
  reader.bytes.extract reader.position (reader.position + count)

/-- The reader behind the next bytes. -/
def advance (reader : Reader) (count : Nat) : Reader :=
  { reader with position := reader.position + count }

@[simp] theorem failure_advance (reader : Reader) (count : Nat) :
    (reader.advance count).failure = reader.failure := rfl

@[simp] theorem advance_zero (reader : Reader) : reader.advance 0 = reader := rfl

theorem advance_advance (reader : Reader) (first second : Nat) :
    (reader.advance first).advance second = reader.advance (first + second) := by
  simp [advance, Nat.add_assoc]

@[simp] theorem remaining_advance (reader : Reader) (count : Nat) :
    (reader.advance count).remaining = reader.remaining - count := by
  simp only [remaining, advance]
  omega

theorem size_upcoming {reader : Reader} {count : Nat} (there : count ≤ reader.remaining) :
    (reader.upcoming count).size = count := by
  simp only [upcoming, ByteArray.size_extract]
  simp only [remaining] at there
  omega

@[simp] theorem upcoming_zero (reader : Reader) : reader.upcoming 0 = .empty := by
  simp [upcoming]

theorem upcoming_append (reader : Reader) (first second : Nat) :
    reader.upcoming first ++ (reader.advance first).upcoming second =
      reader.upcoming (first + second) := by
  simp only [upcoming, advance]
  rw [ByteArray.extract_append_extract]
  congr 1 <;> omega

/-- A single read hands out between one byte and all that are wanted, unless none are left. -/
theorem read_eq {reader : Reader} {wanted : Nat} (left : reader.remaining ≠ 0) :
    reader.read wanted = .ok (reader.upcoming (reader.pieceSize wanted),
      reader.advance (reader.pieceSize wanted)) := by
  simp [read, left, upcoming, advance]

/-- Filling reads on over all pieces: it gives the wanted bytes if they are left, and else those
that are, unless the stream fails behind them. -/
theorem fill_eq (reader : Reader) (wanted : Nat) (filled : ByteArray) :
    reader.fill wanted filled =
      if wanted ≤ reader.remaining then
        .ok (filled ++ reader.upcoming wanted, reader.advance wanted)
      else
        match reader.failure with
        | some cause => .error cause
        | none =>
            .ok (filled ++ reader.upcoming reader.remaining, reader.advance reader.remaining) := by
  induction wanted using Nat.strongRecOn generalizing reader filled with
  | ind wanted induction =>
      rw [fill]
      by_cases nothing : wanted = 0
      · simp [nothing]
      rw [if_neg nothing]
      by_cases ended : reader.remaining = 0
      · have more : ¬wanted ≤ reader.remaining := by omega
        rw [if_neg more]
        cases failure : reader.failure <;> simp [read, ended, failure]
      · have positive : 0 < reader.pieceSize wanted := by
          simp only [pieceSize]
          omega
        have notMore : reader.pieceSize wanted ≤ reader.remaining := by
          simp only [pieceSize]
          omega
        have fits : reader.pieceSize wanted ≤ wanted := by
          simp only [pieceSize]
          omega
        rw [read_eq ended]
        simp only [size_upcoming notMore]
        rw [if_neg (by omega), induction _ (by omega)]
        simp only [remaining_advance, failure_advance, ByteArray.append_assoc, upcoming_append,
          advance_advance]
        have shifted : wanted - reader.pieceSize wanted ≤
            reader.remaining - reader.pieceSize wanted ↔ wanted ≤ reader.remaining := by omega
        simp only [shifted, Nat.add_sub_cancel' fits, Nat.add_sub_cancel' notMore]

/-- Reading an exact number of bytes gives these bytes if they are left. -/
theorem readExactly_of_le {reader : Reader} {wanted : Nat} (there : wanted ≤ reader.remaining) :
    reader.readExactly wanted = .ok (reader.upcoming wanted, reader.advance wanted) := by
  simp [readExactly, fill_eq, there, size_upcoming there]

/-- If fewer bytes are left than wanted, reading fails. -/
theorem readExactly_of_lt {reader : Reader} {wanted : Nat} (short : reader.remaining < wanted) :
    reader.readExactly wanted = .error (reader.failure.getD .earlyEnd) := by
  have notThere : ¬wanted ≤ reader.remaining := by omega
  cases failure : reader.failure <;>
    simp [readExactly, fill_eq, notThere, failure, size_upcoming (Nat.le_refl _), short]

theorem readExactly_eq_ok {reader next : Reader} {wanted : Nat} {bytes : ByteArray}
    (read : reader.readExactly wanted = .ok (bytes, next)) :
    wanted ≤ reader.remaining ∧ bytes = reader.upcoming wanted ∧ next = reader.advance wanted := by
  rcases Nat.lt_or_ge reader.remaining wanted with short | there
  · rw [readExactly_of_lt short] at read
    cases read
  · rw [readExactly_of_le there] at read
    cases read
    exact ⟨there, rfl, rfl⟩

end Depot.Reader
