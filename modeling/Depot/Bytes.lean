/-!
Walks over byte arrays. A fold over part of an array visits its bytes in order; `Bytes.fold` of
two arrays put together is the fold of the second started where the first ended.
-/

namespace Depot.Bytes

def foldFrom {Result : Type} (step : Result → UInt8 → Result) (data : ByteArray)
    (position : Nat) (result : Result) : Result :=
  if inside : position < data.size then
    foldFrom step data (position + 1) (step result data[position])
  else result
termination_by data.size - position

def fold {Result : Type} (step : Result → UInt8 → Result) (start : Result) (data : ByteArray) :
    Result :=
  foldFrom step data 0 start

theorem foldFrom_eq_foldl {Result : Type} (step : Result → UInt8 → Result) (data : ByteArray)
    (position : Nat) (result : Result) :
    foldFrom step data position result = (data.data.toList.drop position).foldl step result := by
  fun_induction foldFrom step data position result with
  | case1 position result inside induction =>
      have bound : position < data.data.toList.length := by simpa using inside
      rw [induction, List.drop_eq_getElem_cons bound, List.foldl_cons]
      rfl
  | case2 position result outside =>
      have bound : data.data.toList.length ≤ position := by simpa using outside
      simp [List.drop_eq_nil_of_le bound]

theorem fold_eq_foldl {Result : Type} (step : Result → UInt8 → Result) (start : Result)
    (data : ByteArray) : fold step start data = data.data.toList.foldl step start := by
  simp [fold, foldFrom_eq_foldl]

theorem fold_append {Result : Type} (step : Result → UInt8 → Result) (start : Result)
    (first second : ByteArray) :
    fold step start (first ++ second) = fold step (fold step start first) second := by
  simp [fold_eq_foldl, ByteArray.data_append]

def ofList (bytes : List UInt8) : ByteArray := ⟨bytes.toArray⟩

theorem size_ofList (bytes : List UInt8) : (ofList bytes).size = bytes.length := by
  simp [ofList, ByteArray.size]

theorem toList_ofList (bytes : List UInt8) : (ofList bytes).data.toList = bytes := by
  simp [ofList]

theorem ofList_toList (bytes : ByteArray) : ofList bytes.data.toList = bytes := by
  simp [ofList]

/-- The bytes of a word, the most significant first. -/
def ofWord (word : UInt32) : ByteArray :=
  ofList [(word >>> 24).toUInt8, (word >>> 16).toUInt8, (word >>> 8).toUInt8, word.toUInt8]

/-- The bytes of a double word, the most significant first. -/
def ofDoubleWord (word : UInt64) : ByteArray :=
  ofWord (word >>> 32).toUInt32 ++ ofWord word.toUInt32

/-- The number that bytes stand for, the most significant first. -/
def toNat (data : ByteArray) : Nat := fold (fun value byte => value * 256 + byte.toNat) 0 data

end Depot.Bytes
