import Mathlib.Tactic

/-!
Byte-level reading with a sticky error and an offset into a fixed span.
A field reader returns an optional value and the advanced reader. Fields of
one record are all read before any of them is checked, so `both` runs its
second reader even after the first has failed. `Exact` is the whole contract
of a field: it succeeds on a value precisely when the bytes of that value come
next. Host byte order is little endian.
-/

namespace Brawololo.ByteReader

def natBytes : Nat → Nat → List UInt8
  | 0, _ => []
  | width + 1, value => UInt8.ofNat value :: natBytes width (value / 256)

def bytesNat : List UInt8 → Nat
  | [] => 0
  | byte :: rest => byte.toNat + 256 * bytesNat rest

theorem natBytes_length (width value : Nat) : (natBytes width value).length = width := by
  induction width generalizing value with
  | zero => rfl
  | succ width ih => simp [natBytes, ih]

theorem bytesNat_natBytes (width value : Nat) (bound : value < 256 ^ width) :
    bytesNat (natBytes width value) = value := by
  induction width generalizing value with
  | zero => simp at bound; simp [natBytes, bytesNat, bound]
  | succ width ih =>
      have quotient : value / 256 < 256 ^ width := by
        rw [Nat.div_lt_iff_lt_mul (by decide)]
        simpa [Nat.pow_succ] using bound
      have low : (UInt8.ofNat value).toNat = value % 256 := by simp
      rw [natBytes, bytesNat, ih _ quotient, low]
      exact Nat.mod_add_div value 256

theorem natBytes_bytesNat (bytes : List UInt8) :
    natBytes bytes.length (bytesNat bytes) = bytes := by
  induction bytes with
  | nil => rfl
  | cons byte rest ih =>
      have bound := byte.toNat_lt
      have quotient : (byte.toNat + 256 * bytesNat rest) / 256 = bytesNat rest := by omega
      have low : UInt8.ofNat (byte.toNat + 256 * bytesNat rest) = byte := by
        apply UInt8.toNat_inj.mp
        rw [UInt8.toNat_ofNat']
        omega
      simp only [List.length_cons, bytesNat, natBytes, quotient, low, ih]

theorem bytesNat_lt (bytes : List UInt8) : bytesNat bytes < 256 ^ bytes.length := by
  induction bytes with
  | nil => simp [bytesNat]
  | cons byte rest ih =>
      have bound := byte.toNat_lt
      simp only [bytesNat, List.length_cons, Nat.pow_succ]
      omega

/-- A trivially copyable value and its object representation, as the unsigned
number its `size` bytes spell. -/
class Pod (α : Type) where
  size : Nat
  toNat : α → Nat
  ofNat : Nat → α
  size_pos : 0 < size
  toNat_lt : ∀ value, toNat value < 256 ^ size
  ofNat_toNat : ∀ value, ofNat (toNat value) = value
  toNat_ofNat : ∀ number, number < 256 ^ size → toNat (ofNat number) = number

instance : Pod UInt8 where
  size := 1
  toNat value := value.toNat
  ofNat := UInt8.ofNat
  size_pos := by decide
  toNat_lt value := value.toNat_lt
  ofNat_toNat _ := UInt8.ofNat_toNat
  toNat_ofNat number bound := by rw [UInt8.toNat_ofNat']; exact Nat.mod_eq_of_lt bound

instance : Pod UInt16 where
  size := 2
  toNat value := value.toNat
  ofNat := UInt16.ofNat
  size_pos := by decide
  toNat_lt value := value.toNat_lt
  ofNat_toNat _ := UInt16.ofNat_toNat
  toNat_ofNat number bound := by rw [UInt16.toNat_ofNat']; exact Nat.mod_eq_of_lt bound

instance : Pod UInt32 where
  size := 4
  toNat value := value.toNat
  ofNat := UInt32.ofNat
  size_pos := by decide
  toNat_lt value := value.toNat_lt
  ofNat_toNat _ := UInt32.ofNat_toNat
  toNat_ofNat number bound := by rw [UInt32.toNat_ofNat']; exact Nat.mod_eq_of_lt bound

instance : Pod UInt64 where
  size := 8
  toNat value := value.toNat
  ofNat := UInt64.ofNat
  size_pos := by decide
  toNat_lt value := value.toNat_lt
  ofNat_toNat _ := UInt64.ofNat_toNat
  toNat_ofNat number bound := by rw [UInt64.toNat_ofNat']; exact Nat.mod_eq_of_lt bound

instance : Pod Int8 where
  size := 1
  toNat value := value.toUInt8.toNat
  ofNat number := (UInt8.ofNat number).toInt8
  size_pos := by decide
  toNat_lt value := value.toUInt8.toNat_lt
  ofNat_toNat value := by rw [UInt8.ofNat_toNat]; rfl
  toNat_ofNat number bound := Pod.toNat_ofNat (α := UInt8) number bound

instance : Pod Int16 where
  size := 2
  toNat value := value.toUInt16.toNat
  ofNat number := (UInt16.ofNat number).toInt16
  size_pos := by decide
  toNat_lt value := value.toUInt16.toNat_lt
  ofNat_toNat value := by rw [UInt16.ofNat_toNat]; rfl
  toNat_ofNat number bound := Pod.toNat_ofNat (α := UInt16) number bound

instance : Pod Int32 where
  size := 4
  toNat value := value.toUInt32.toNat
  ofNat number := (UInt32.ofNat number).toInt32
  size_pos := by decide
  toNat_lt value := value.toUInt32.toNat_lt
  ofNat_toNat value := by rw [UInt32.ofNat_toNat]; rfl
  toNat_ofNat number bound := Pod.toNat_ofNat (α := UInt32) number bound

def podBytes {α : Type} [Pod α] (value : α) : List UInt8 :=
  natBytes (Pod.size α) (Pod.toNat value)

theorem podBytes_length {α : Type} [Pod α] (value : α) :
    (podBytes value).length = Pod.size α :=
  natBytes_length _ _

theorem podBytes_eq_iff {α : Type} [Pod α] (bytes : List UInt8) (value : α)
    (width : bytes.length = Pod.size α) :
    Pod.ofNat (bytesNat bytes) = value ↔ bytes = podBytes value := by
  constructor
  · intro decoded
    have bound : bytesNat bytes < 256 ^ Pod.size α := width ▸ bytesNat_lt bytes
    rw [podBytes, ← decoded, Pod.toNat_ofNat _ bound, ← width, natBytes_bytesNat]
  · intro encoded
    rw [encoded, podBytes, bytesNat_natBytes _ _ (Pod.toNat_lt value), Pod.ofNat_toNat]

/-- The reader of one span. `rest` is what has not been read yet. -/
structure Reader (ε : Type) where
  bytes : List UInt8
  offset : Nat
  error : ε

namespace Reader
variable {ε : Type}

def rest (reader : Reader ε) : List UInt8 := reader.bytes.drop reader.offset

def skip (reader : Reader ε) (count : Nat) : Reader ε :=
  { reader with offset := reader.offset + count }

def remainingBytes (reader : Reader ε) : Nat := reader.bytes.length - reader.offset

theorem rest_length (reader : Reader ε) : reader.rest.length = reader.remainingBytes := by
  simp [rest, remainingBytes]

theorem rest_skip (reader : Reader ε) (count : Nat) :
    (reader.skip count).rest = reader.rest.drop count := by
  simp [rest, skip, List.drop_drop]

/-- `bytes` come next, and `after` stands just behind them. -/
def Consumes (reader : Reader ε) (bytes : List UInt8) (after : Reader ε) : Prop :=
  bytes <+: reader.rest ∧ after = reader.skip bytes.length

theorem consumes_nil (reader after : Reader ε) :
    reader.Consumes [] after ↔ after = reader := by
  simp [Consumes, skip]

theorem consumes_append (reader after : Reader ε) (first second : List UInt8) :
    reader.Consumes (first ++ second) after ↔
      ∃ middle, reader.Consumes first middle ∧ middle.Consumes second after := by
  constructor
  · rintro ⟨⟨tail, split⟩, rfl⟩
    refine ⟨reader.skip first.length, ⟨⟨second ++ tail, by simp [← split]⟩, rfl⟩, ⟨tail, ?_⟩, ?_⟩
    · rw [rest_skip, ← split, List.append_assoc, List.drop_left]
    · simp [skip, Nat.add_assoc]
  · rintro ⟨_, ⟨⟨tail, split⟩, rfl⟩, ⟨⟨final, later⟩, rfl⟩⟩
    rw [rest_skip, ← split, List.drop_left] at later
    exact ⟨⟨final, by rw [← split, ← later, List.append_assoc]⟩, by simp [skip, Nat.add_assoc]⟩

theorem Consumes.remaining_ge {reader after : Reader ε} {bytes : List UInt8}
    (consumed : reader.Consumes bytes after) : bytes.length ≤ reader.remainingBytes := by
  rw [← rest_length]
  exact consumed.1.length_le

end Reader

/-- A field reader: an optional value and the reader after the attempt. -/
def Read (ε α : Type) := Reader ε → Option α × Reader ε

namespace Read
variable {ε α β γ : Type}

def value (result : α) : Read ε α := fun reader => (some result, reader)

def map (convert : α → β) (read : Read ε α) : Read ε β := fun reader =>
  ((read reader).1.map convert, (read reader).2)

/-- Two fields of one record: both are attempted, then both are checked. -/
def both (first : Read ε α) (second : Read ε β) : Read ε (α × β) := fun reader =>
  let left := first reader
  let right := second left.2
  (left.1.bind fun a => right.1.map fun b => (a, b), right.2)

/-- An early return: nothing more is read once `first` has failed. -/
def andThen (first : Read ε α) (next : α → Read ε β) : Read ε β := fun reader =>
  match first reader with
  | (some a, after) => next a after
  | (none, after) => (none, after)

/-- Reject a value that was read, recording why. -/
def check (read : Read ε α) (valid : α → Bool) (fail : ε → ε) : Read ε α := fun reader =>
  match read reader with
  | (some a, after) =>
      if valid a then (some a, after) else (none, { after with error := fail after.error })
  | (none, after) => (none, after)

def pod (α : Type) [Pod α] (fail : ε → ε) : Read ε α := fun reader =>
  if reader.offset + Pod.size α > reader.bytes.length then
    (none, { reader with error := fail reader.error })
  else
    (some (Pod.ofNat (bytesNat (reader.rest.take (Pod.size α)))), reader.skip (Pod.size α))

def times (count : Nat) (read : Read ε α) : Read ε (List α) :=
  match count with
  | 0 => value []
  | count + 1 => read.andThen fun head => (times count read).map (head :: ·)

/-- The field succeeds on `a` exactly where the bytes of `a` come next. -/
def Exact (read : Read ε α) (write : α → List UInt8) : Prop :=
  ∀ reader a after, read reader = (some a, after) ↔ reader.Consumes (write a) after

theorem map_some_iff (convert : α → β) (read : Read ε α) (reader after : Reader ε) (b : β) :
    read.map convert reader = (some b, after) ↔
      ∃ a, read reader = (some a, after) ∧ convert a = b := by
  simp only [map, Prod.ext_iff, Option.map_eq_some_iff]
  constructor
  · rintro ⟨⟨a, found, same⟩, rfl⟩
    exact ⟨a, ⟨found, rfl⟩, same⟩
  · rintro ⟨a, ⟨found, rfl⟩, same⟩
    exact ⟨⟨a, found, same⟩, rfl⟩

theorem both_some_iff (first : Read ε α) (second : Read ε β) (reader after : Reader ε)
    (a : α) (b : β) :
    first.both second reader = (some (a, b), after) ↔
      ∃ middle, first reader = (some a, middle) ∧ second middle = (some b, after) := by
  cases left : first reader with
  | mk found middle =>
      cases right : second middle with
      | mk other final => cases found <;> cases other <;> simp [both, left, right, and_assoc]

theorem andThen_some_iff (first : Read ε α) (next : α → Read ε β) (reader after : Reader ε)
    (b : β) :
    first.andThen next reader = (some b, after) ↔
      ∃ a middle, first reader = (some a, middle) ∧ next a middle = (some b, after) := by
  cases left : first reader with
  | mk found middle => cases found <;> simp [andThen, left]

theorem check_some_iff (read : Read ε α) (valid : α → Bool) (fail : ε → ε)
    (reader after : Reader ε) (a : α) :
    read.check valid fail reader = (some a, after) ↔
      read reader = (some a, after) ∧ valid a = true := by
  cases attempt : read reader with
  | mk found middle =>
      cases found with
      | none => simp [check, attempt]
      | some candidate =>
          by_cases admitted : valid candidate = true
          · simp [check, attempt, admitted]
            rintro rfl _
            exact admitted
          · simp [check, attempt, admitted]
            rintro rfl _
            simpa using admitted

theorem pod_exact [Pod α] (fail : ε → ε) : Exact (pod (ε := ε) α fail) podBytes := by
  intro reader a after
  have positive := Pod.size_pos (α := α)
  by_cases short : reader.offset + Pod.size α > reader.bytes.length
  · constructor
    · simp [pod, short]
    · intro consumed
      have enough := consumed.remaining_ge
      rw [podBytes_length, Reader.remainingBytes] at enough
      omega
  · have width : (reader.rest.take (Pod.size α)).length = Pod.size α := by
      rw [List.length_take, Reader.rest_length, Reader.remainingBytes]
      omega
    simp only [pod, short, ↓reduceIte, Prod.mk.injEq, Option.some.injEq, Reader.Consumes,
      podBytes_length, podBytes_eq_iff _ a width, eq_comm (a := reader.skip _)]
    refine and_congr_left fun _ => ?_
    rw [List.prefix_iff_eq_take, podBytes_length, eq_comm]

/-- Renaming the value along a bijection keeps exactness. -/
theorem Exact.map {read : Read ε α} {write : α → List UInt8} {write' : β → List UInt8}
    (exact : Exact read write) (convert : α → β) (back : β → α)
    (left : ∀ a, back (convert a) = a) (right : ∀ b, convert (back b) = b)
    (same : ∀ b, write' b = write (back b)) : Exact (read.map convert) write' := by
  intro reader b after
  rw [map_some_iff, same]
  constructor
  · rintro ⟨a, found, rfl⟩
    rw [left]
    exact (exact reader a after).mp found
  · intro consumed
    exact ⟨back b, (exact reader (back b) after).mpr consumed, right b⟩

theorem Exact.both {first : Read ε α} {second : Read ε β} {write : α → List UInt8}
    {write' : β → List UInt8} (left : Exact first write) (right : Exact second write') :
    Exact (first.both second) (fun pair => write pair.1 ++ write' pair.2) := by
  rintro reader ⟨a, b⟩ after
  rw [both_some_iff, Reader.consumes_append]
  exact exists_congr fun middle => and_congr (left reader a middle) (right middle b after)

/-- The field succeeds on `a` exactly where the bytes of `a` come next and the
reader admits it. -/
def ExactOn (read : Read ε α) (admits : α → Prop) (write : α → List UInt8) : Prop :=
  ∀ reader a after,
    read reader = (some a, after) ↔ admits a ∧ reader.Consumes (write a) after

theorem Exact.on {read : Read ε α} {write : α → List UInt8} (exact : Exact read write) :
    ExactOn read (fun _ => True) write := by
  intro reader a after
  rw [exact reader a after, true_and]

theorem ExactOn.both {first : Read ε α} {second : Read ε β} {admits : α → Prop}
    {admits' : β → Prop} {write : α → List UInt8} {write' : β → List UInt8}
    (left : ExactOn first admits write) (right : ExactOn second admits' write') :
    ExactOn (first.both second) (fun pair => admits pair.1 ∧ admits' pair.2)
      (fun pair => write pair.1 ++ write' pair.2) := by
  rintro reader ⟨a, b⟩ after
  rw [both_some_iff, Reader.consumes_append]
  constructor
  · rintro ⟨middle, first, second⟩
    obtain ⟨admitted, consumed⟩ := (left reader a middle).mp first
    obtain ⟨admitted', consumed'⟩ := (right middle b after).mp second
    exact ⟨⟨admitted, admitted'⟩, middle, consumed, consumed'⟩
  · rintro ⟨⟨admitted, admitted'⟩, middle, consumed, consumed'⟩
    exact ⟨middle, (left reader a middle).mpr ⟨admitted, consumed⟩,
      (right middle b after).mpr ⟨admitted', consumed'⟩⟩

theorem Exact.times {read : Read ε α} {write : α → List UInt8} (exact : Exact read write)
    (count : Nat) (reader : Reader ε) (items : List α) (after : Reader ε) :
    Read.times count read reader = (some items, after) ↔
      items.length = count ∧ reader.Consumes (items.flatMap write) after := by
  induction count generalizing reader items with
  | zero =>
      cases items <;> simp [Read.times, value, Reader.consumes_nil, eq_comm]
  | succ count ih =>
      rw [Read.times, andThen_some_iff]
      constructor
      · rintro ⟨head, middle, first, later⟩
        obtain ⟨tail, loop, rfl⟩ := (map_some_iff _ _ _ _ _).mp later
        obtain ⟨size, consumed⟩ := (ih middle tail).mp loop
        refine ⟨by simp [size], ?_⟩
        rw [List.flatMap_cons, Reader.consumes_append]
        exact ⟨middle, (exact reader head middle).mp first, consumed⟩
      · rintro ⟨size, consumed⟩
        cases items with
        | nil => simp at size
        | cons head tail =>
            rw [List.flatMap_cons, Reader.consumes_append] at consumed
            obtain ⟨middle, first, later⟩ := consumed
            refine ⟨head, middle, (exact reader head middle).mpr first, ?_⟩
            exact (map_some_iff _ _ _ _ _).mpr
              ⟨tail, (ih middle tail).mpr ⟨by simpa using size, later⟩, rfl⟩

/-- Failure leaves a `bad` error behind, and a `bad` error is never cleared. -/
def Marks (read : Read ε α) (bad : ε → Prop) : Prop :=
  ∀ reader, ((read reader).1 = none → bad (read reader).2.error) ∧
    (bad reader.error → bad (read reader).2.error)

theorem pod_marks [Pod α] (fail : ε → ε) (bad : ε → Prop) (marked : ∀ error, bad (fail error)) :
    (pod α fail).Marks bad := by
  intro reader
  unfold pod
  split
  · exact ⟨fun _ => marked _, fun _ => marked _⟩
  · exact ⟨by simp, fun kept => kept⟩

theorem Marks.both {first : Read ε α} {second : Read ε β} {bad : ε → Prop}
    (left : first.Marks bad) (right : second.Marks bad) : (first.both second).Marks bad := by
  intro reader
  constructor
  · intro failed
    cases found : (first reader).1 with
    | none => exact (right _).2 ((left reader).1 found)
    | some a =>
        have missing : (second (first reader).2).1 = none := by simpa [Read.both, found] using failed
        exact (right _).1 missing
  · intro already
    exact (right _).2 ((left reader).2 already)

end Read

/-- An enumeration with a `uint8_t` underlying type whose enumerators are
`0 .. count - 1`. -/
class WireEnum (α : Type) where
  count : Nat
  toByte : α → UInt8
  ofByte : UInt8 → α
  toByte_lt : ∀ value, (toByte value).toNat < count
  ofByte_toByte : ∀ value, ofByte (toByte value) = value
  toByte_ofByte : ∀ byte : UInt8, byte.toNat < count → toByte (ofByte byte) = byte

/-- What the bytes below `count` have, one by one, every byte has that is below it. -/
theorem forall_bytes_below {count : Nat} {holds : UInt8 → Prop}
    (each : ∀ number < count, holds (UInt8.ofNat number)) (byte : UInt8)
    (bound : byte.toNat < count) : holds byte := by
  have its := each byte.toNat bound
  rwa [UInt8.ofNat_toNat] at its

theorem byte_exact {ε : Type} (fail : ε → ε) :
    Read.Exact (Read.pod (ε := ε) UInt8 fail) (fun byte => [byte]) := by
  have exact := Read.pod_exact (ε := ε) (α := UInt8) fail
  have same : (podBytes : UInt8 → List UInt8) = fun byte => [byte] := by
    funext byte
    simp [podBytes, Pod.size, Pod.toNat, natBytes]
  rwa [same] at exact

/-- A byte whose admitted values are the images of `toByte`, read back by `ofByte`. -/
theorem checked_byte_exact {ε α : Type} (toByte : α → UInt8) (ofByte : UInt8 → α)
    (valid : UInt8 → Bool) (eof bad : ε → ε)
    (admitted : ∀ a, valid (toByte a) = true) (back : ∀ a, ofByte (toByte a) = a)
    (onto : ∀ byte, valid byte = true → toByte (ofByte byte) = byte) :
    Read.Exact (((Read.pod UInt8 eof).check valid bad).map ofByte)
      (fun a => [toByte a]) := by
  intro reader a after
  rw [Read.map_some_iff]
  constructor
  · rintro ⟨byte, found, rfl⟩
    obtain ⟨raw, good⟩ := (Read.check_some_iff _ _ _ _ _ _).mp found
    show reader.Consumes [toByte (ofByte byte)] after
    rw [onto byte good]
    exact (byte_exact eof reader byte after).mp raw
  · intro consumed
    refine ⟨toByte a, (Read.check_some_iff _ _ _ _ _ _).mpr ⟨?_, admitted a⟩, back a⟩
    exact (byte_exact eof reader (toByte a) after).mpr consumed

end Brawololo.ByteReader
