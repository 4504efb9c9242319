import Mathlib.Data.Nat.Digits.Defs
/-!
# ByteOrder — fixed-width integers as bytes

The value of a byte string in either byte order, and the bytes of a given width that carry a value.  Reading what was
written gives the value back below the width (`ByteOrder.read_write`), and writing what was read gives the bytes back
(`ByteOrder.write_read`).  A byte string of whole words is the list of its chunks (`chunksExact_flatten`).
-/
namespace Machine

inductive ByteOrder where
  | little
  | big
  deriving DecidableEq, Repr

/-- The value of bytes, least significant first. -/
def leValue (bs : List UInt8) : Nat := Nat.ofDigits 256 (bs.map UInt8.toNat)

/-- The `k` low bytes of `n`, least significant first. -/
def leBytes : Nat → Nat → List UInt8
  | 0, _ => []
  | k + 1, n => UInt8.ofNat n :: leBytes k (n / 256)

theorem leValue_cons (b : UInt8) (bs : List UInt8) : leValue (b :: bs) = b.toNat + 256 * leValue bs := by
  simp [leValue, Nat.ofDigits_cons]

@[simp] theorem length_leBytes : ∀ (k n : Nat), (leBytes k n).length = k
  | 0, _ => rfl
  | k + 1, n => by simp [leBytes, length_leBytes k]

theorem leValue_leBytes : ∀ (k n : Nat), leValue (leBytes k n) = n % 256 ^ k
  | 0, n => by simp [leBytes, leValue, Nat.mod_one]
  | k + 1, n => by
    rw [leBytes, leValue_cons, leValue_leBytes k, Nat.pow_succ', Nat.mod_mul]
    simp

theorem leBytes_leValue : ∀ (bs : List UInt8), leBytes bs.length (leValue bs) = bs
  | [] => rfl
  | b :: bs => by
    have hb := b.toNat_lt
    have hlow : UInt8.ofNat (b.toNat + 256 * leValue bs) = b := by
      rw [← UInt8.toNat_inj, UInt8.toNat_ofNat']
      omega
    have hhigh : (b.toNat + 256 * leValue bs) / 256 = leValue bs := by omega
    rw [leValue_cons, List.length_cons, leBytes, hlow, hhigh, leBytes_leValue bs]

theorem leValue_lt : ∀ (bs : List UInt8), leValue bs < 256 ^ bs.length
  | [] => by simp [leValue]
  | b :: bs => by
    have hb := b.toNat_lt
    have ih := leValue_lt bs
    rw [leValue_cons, List.length_cons, Nat.pow_succ']
    omega

def ByteOrder.read : ByteOrder → List UInt8 → Nat
  | .little, bs => leValue bs
  | .big, bs => leValue bs.reverse

def ByteOrder.write : ByteOrder → Nat → Nat → List UInt8
  | .little, k, n => leBytes k n
  | .big, k, n => (leBytes k n).reverse

@[simp] theorem ByteOrder.length_write (o : ByteOrder) (k n : Nat) : (o.write k n).length = k := by
  cases o <;> simp [ByteOrder.write]

/-- **Reading what was written** gives the value back, cut to the width. -/
theorem ByteOrder.read_write (o : ByteOrder) (k n : Nat) : o.read (o.write k n) = n % 256 ^ k := by
  cases o <;> simp [ByteOrder.read, ByteOrder.write, leValue_leBytes]

theorem ByteOrder.read_write_of_lt (o : ByteOrder) {k n : Nat} (h : n < 256 ^ k) : o.read (o.write k n) = n := by
  rw [o.read_write, Nat.mod_eq_of_lt h]

theorem ByteOrder.read_lt (o : ByteOrder) {k : Nat} {bs : List UInt8} (h : bs.length = k) : o.read bs < 256 ^ k := by
  subst h
  cases o with
  | little => exact leValue_lt bs
  | big => simpa [ByteOrder.read] using leValue_lt bs.reverse

theorem ByteOrder.read_big_cons (b : UInt8) (bs : List UInt8) :
    ByteOrder.big.read (b :: bs) = b.toNat * 256 ^ bs.length + ByteOrder.big.read bs := by
  show Nat.ofDigits 256 ((b :: bs).reverse.map UInt8.toNat) = _
  rw [List.reverse_cons, List.map_append, Nat.ofDigits_append, List.length_map, List.length_reverse]
  simp [ByteOrder.read, leValue, Nat.add_comm, Nat.mul_comm]

/-- **Writing what was read** gives the bytes back. -/
theorem ByteOrder.write_read (o : ByteOrder) {k : Nat} {bs : List UInt8} (h : bs.length = k) :
    o.write k (o.read bs) = bs := by
  subst h
  cases o with
  | little => exact leBytes_leValue bs
  | big =>
    have hrev := leBytes_leValue bs.reverse
    rw [List.length_reverse] at hrev
    simp [ByteOrder.write, ByteOrder.read, hrev]

def bytesAt (bs : List UInt8) (offset k : Nat) : List UInt8 := (bs.drop offset).take k

def u8At (bs : List UInt8) (offset : Nat) : UInt8 := bs.getD offset 0

def ByteOrder.u16At (o : ByteOrder) (bs : List UInt8) (offset : Nat) : UInt16 :=
  UInt16.ofNat (o.read (bytesAt bs offset 2))

def ByteOrder.u32At (o : ByteOrder) (bs : List UInt8) (offset : Nat) : UInt32 :=
  UInt32.ofNat (o.read (bytesAt bs offset 4))

def ByteOrder.i32At (o : ByteOrder) (bs : List UInt8) (offset : Nat) : Int32 := (o.u32At bs offset).toInt32

def ByteOrder.u16Bytes (o : ByteOrder) (n : UInt16) : List UInt8 := o.write 2 n.toNat

def ByteOrder.u32Bytes (o : ByteOrder) (n : UInt32) : List UInt8 := o.write 4 n.toNat

@[simp] theorem ByteOrder.length_u16Bytes (o : ByteOrder) (n : UInt16) : (o.u16Bytes n).length = 2 := by
  simp [ByteOrder.u16Bytes]

@[simp] theorem ByteOrder.length_u32Bytes (o : ByteOrder) (n : UInt32) : (o.u32Bytes n).length = 4 := by
  simp [ByteOrder.u32Bytes]

theorem bytesAt_append (pre mid post : List UInt8) : bytesAt (pre ++ (mid ++ post)) pre.length mid.length = mid := by
  simp [bytesAt]

/-- A field is read where it was written. -/
theorem ByteOrder.u16At_append (o : ByteOrder) (pre post : List UInt8) (n : UInt16) {k : Nat} (hk : pre.length = k) :
    o.u16At (pre ++ (o.u16Bytes n ++ post)) k = n := by
  have h := bytesAt_append pre (o.u16Bytes n) post
  rw [o.length_u16Bytes, hk] at h
  rw [ByteOrder.u16At, h, ByteOrder.u16Bytes, o.read_write_of_lt n.toNat_lt]
  simp

theorem ByteOrder.u32At_append (o : ByteOrder) (pre post : List UInt8) (n : UInt32) {k : Nat} (hk : pre.length = k) :
    o.u32At (pre ++ (o.u32Bytes n ++ post)) k = n := by
  have h := bytesAt_append pre (o.u32Bytes n) post
  rw [o.length_u32Bytes, hk] at h
  rw [ByteOrder.u32At, h, ByteOrder.u32Bytes, o.read_write_of_lt n.toNat_lt]
  simp

/-- A field lies within the bytes it is read from: bytes past it do not matter. -/
theorem bytesAt_take (bs : List UInt8) {n offset k : Nat} (h : offset + k ≤ n) :
    bytesAt (bs.take n) offset k = bytesAt bs offset k := by
  unfold bytesAt
  rw [List.drop_take, List.take_take, Nat.min_eq_left (by omega)]

theorem ByteOrder.u16At_take (o : ByteOrder) (bs : List UInt8) {n offset : Nat} (h : offset + 2 ≤ n) :
    o.u16At (bs.take n) offset = o.u16At bs offset := by
  rw [ByteOrder.u16At, ByteOrder.u16At, bytesAt_take bs h]

theorem ByteOrder.u32At_take (o : ByteOrder) (bs : List UInt8) {n offset : Nat} (h : offset + 4 ≤ n) :
    o.u32At (bs.take n) offset = o.u32At bs offset := by
  rw [ByteOrder.u32At, ByteOrder.u32At, bytesAt_take bs h]

theorem bytesAt_append_left {bs : List UInt8} {offset k : Nat} (h : offset + k ≤ bs.length) (rest : List UInt8) :
    bytesAt (bs ++ rest) offset k = bytesAt bs offset k := by
  rw [← bytesAt_take (bs ++ rest) h, List.take_left]

theorem u8At_append_left {bs : List UInt8} {offset : Nat} (h : offset < bs.length) (rest : List UInt8) :
    u8At (bs ++ rest) offset = u8At bs offset := by
  unfold u8At
  rw [List.getD_eq_getElem?_getD, List.getD_eq_getElem?_getD, List.getElem?_append_left h]

theorem ByteOrder.u16At_append_left (o : ByteOrder) {bs : List UInt8} {offset : Nat} (h : offset + 2 ≤ bs.length)
    (rest : List UInt8) : o.u16At (bs ++ rest) offset = o.u16At bs offset := by
  rw [ByteOrder.u16At, ByteOrder.u16At, bytesAt_append_left h]

theorem ByteOrder.u32At_append_left (o : ByteOrder) {bs : List UInt8} {offset : Nat} (h : offset + 4 ≤ bs.length)
    (rest : List UInt8) : o.u32At (bs ++ rest) offset = o.u32At bs offset := by
  rw [ByteOrder.u32At, ByteOrder.u32At, bytesAt_append_left h]

/-! ### Fields of a concatenation -/

theorem bytesAt_skip {pre : List UInt8} {offset : Nat} (h : pre.length ≤ offset) (rest : List UInt8) (k : Nat) :
    bytesAt (pre ++ rest) offset k = bytesAt rest (offset - pre.length) k := by
  unfold bytesAt
  rw [List.drop_append, List.drop_eq_nil_of_le h, List.nil_append]

theorem u8At_skip {pre : List UInt8} {offset : Nat} (h : pre.length ≤ offset) (rest : List UInt8) :
    u8At (pre ++ rest) offset = u8At rest (offset - pre.length) := by
  unfold u8At
  rw [List.getD_eq_getElem?_getD, List.getD_eq_getElem?_getD, List.getElem?_append_right h]

theorem ByteOrder.u16At_skip (o : ByteOrder) {pre : List UInt8} {offset : Nat} (h : pre.length ≤ offset)
    (rest : List UInt8) : o.u16At (pre ++ rest) offset = o.u16At rest (offset - pre.length) := by
  rw [ByteOrder.u16At, ByteOrder.u16At, bytesAt_skip h]

theorem ByteOrder.u32At_skip (o : ByteOrder) {pre : List UInt8} {offset : Nat} (h : pre.length ≤ offset)
    (rest : List UInt8) : o.u32At (pre ++ rest) offset = o.u32At rest (offset - pre.length) := by
  rw [ByteOrder.u32At, ByteOrder.u32At, bytesAt_skip h]

/-- The field a concatenation begins with. -/
theorem ByteOrder.u16At_front (o : ByteOrder) (n : UInt16) (rest : List UInt8) :
    o.u16At (o.u16Bytes n ++ rest) 0 = n :=
  o.u16At_append [] rest n rfl

theorem ByteOrder.u32At_front (o : ByteOrder) (n : UInt32) (rest : List UInt8) :
    o.u32At (o.u32Bytes n ++ rest) 0 = n :=
  o.u32At_append [] rest n rfl

@[simp] theorem ByteOrder.u32At_u32Bytes (o : ByteOrder) (n : UInt32) : o.u32At (o.u32Bytes n) 0 = n := by
  have hfront := o.u32At_front n []
  rwa [List.append_nil] at hfront

/-- A word of a list of words. -/
theorem ByteOrder.u32At_words (o : ByteOrder) (rest : List UInt8) : ∀ (words : List UInt32) (i : Nat)
    (h : i < words.length), o.u32At (words.flatMap o.u32Bytes ++ rest) (4 * i) = words[i]
  | word :: words, 0, _ => by
    rw [List.flatMap_cons, List.append_assoc, Nat.mul_zero, o.u32At_front]
    rfl
  | word :: words, i + 1, h => by
    have ih := o.u32At_words rest words i (Nat.lt_of_succ_lt_succ h)
    have hskip : 4 * (i + 1) - (o.u32Bytes word).length = 4 * i := by
      rw [o.length_u32Bytes]
      omega
    rw [List.flatMap_cons, List.append_assoc, o.u32At_skip (by rw [o.length_u32Bytes]; omega), hskip, ih]
    rfl

theorem ByteOrder.length_words (o : ByteOrder) : ∀ (words : List UInt32),
    (words.flatMap o.u32Bytes).length = 4 * words.length
  | [] => rfl
  | word :: words => by
    rw [List.flatMap_cons, List.length_append, o.length_u32Bytes, o.length_words words, List.length_cons]
    omega

/-- A field of zeros. -/
theorem bytesAt_zeros {n offset k : Nat} (h : offset + k ≤ n) (rest : List UInt8) :
    bytesAt (List.replicate n 0 ++ rest) offset k = List.replicate k 0 := by
  rw [bytesAt_append_left (by rwa [List.length_replicate]), bytesAt, List.drop_replicate, List.take_replicate,
    Nat.min_eq_left (by omega)]

theorem ByteOrder.u16At_zeros (o : ByteOrder) {n offset : Nat} (h : offset + 2 ≤ n) (rest : List UInt8) :
    o.u16At (List.replicate n 0 ++ rest) offset = 0 := by
  rw [ByteOrder.u16At, bytesAt_zeros h]
  cases o <;> rfl

theorem ByteOrder.u32At_zeros (o : ByteOrder) {n offset : Nat} (h : offset + 4 ≤ n) (rest : List UInt8) :
    o.u32At (List.replicate n 0 ++ rest) offset = 0 := by
  rw [ByteOrder.u32At, bytesAt_zeros h]
  cases o <;> rfl

theorem take_append_bytesAt (bs : List UInt8) (offset k : Nat) :
    bs.take offset ++ bytesAt bs offset k = bs.take (offset + k) :=
  List.take_add.symm

/-- **A field loaded and stored again** is the bytes it was loaded from. -/
theorem ByteOrder.u16Bytes_u16At (o : ByteOrder) (bs : List UInt8) {offset : Nat} (h : offset + 2 ≤ bs.length) :
    o.u16Bytes (o.u16At bs offset) = bytesAt bs offset 2 := by
  have hlength : (bytesAt bs offset 2).length = 2 := by
    simp only [bytesAt, List.length_take, List.length_drop]
    omega
  have hlt : o.read (bytesAt bs offset 2) < 2 ^ 16 := o.read_lt hlength
  rw [ByteOrder.u16Bytes, ByteOrder.u16At, UInt16.toNat_ofNat_of_lt' hlt, o.write_read hlength]

theorem ByteOrder.u32Bytes_u32At (o : ByteOrder) (bs : List UInt8) {offset : Nat} (h : offset + 4 ≤ bs.length) :
    o.u32Bytes (o.u32At bs offset) = bytesAt bs offset 4 := by
  have hlength : (bytesAt bs offset 4).length = 4 := by
    simp only [bytesAt, List.length_take, List.length_drop]
    omega
  have hlt : o.read (bytesAt bs offset 4) < 2 ^ 32 := o.read_lt hlength
  rw [ByteOrder.u32Bytes, ByteOrder.u32At, UInt32.toNat_ofNat_of_lt' hlt, o.write_read hlength]

/-! ## Chunks -/

/-- `chunks_exact`: the whole chunks of `k` elements; what is left over is dropped. -/
def chunksExact {α : Type} (k : Nat) (l : List α) : List (List α) :=
  (List.range (l.length / k)).map (fun i => (l.drop (i * k)).take k)

theorem chunksExact_append {α : Type} {k : Nat} (hk : 0 < k) {chunk : List α} (h : chunk.length = k) (rest : List α) :
    chunksExact k (chunk ++ rest) = chunk :: chunksExact k rest := by
  have hcount : (chunk ++ rest).length / k = rest.length / k + 1 := by
    rw [List.length_append, h, Nat.add_div_left _ hk]
  unfold chunksExact
  rw [hcount, List.range_succ_eq_map, List.map_cons, List.map_map, Nat.zero_mul, List.drop_zero,
    List.take_append_of_le_length (by omega), List.take_of_length_le (by omega)]
  refine congrArg (chunk :: ·) (List.map_congr_left (fun i _ => ?_))
  have hpos : (i + 1) * k = chunk.length + i * k := by rw [h, Nat.add_mul]; omega
  rw [Function.comp_apply, Nat.succ_eq_add_one, hpos, ← List.drop_drop, List.drop_left]

/-- **A list made of chunks has them back.** -/
theorem chunksExact_flatten {α : Type} {k : Nat} (hk : 0 < k) : ∀ (chunks : List (List α)),
    (∀ chunk ∈ chunks, chunk.length = k) → chunksExact k chunks.flatten = chunks
  | [], _ => by simp [chunksExact]
  | chunk :: chunks, h => by
    rw [List.flatten_cons, chunksExact_append hk (h chunk List.mem_cons_self),
      chunksExact_flatten hk chunks (fun c hc => h c (List.mem_cons_of_mem _ hc))]

theorem length_flatten_chunks {α : Type} {k : Nat} : ∀ {chunks : List (List α)}, (∀ chunk ∈ chunks, chunk.length = k) →
    chunks.flatten.length = chunks.length * k
  | [], _ => by simp
  | chunk :: chunks, h => by
    rw [List.flatten_cons, List.length_append, h chunk List.mem_cons_self,
      length_flatten_chunks (fun c hc => h c (List.mem_cons_of_mem _ hc)), List.length_cons, Nat.add_mul]
    omega

theorem length_of_mem_chunksExact {α : Type} {k : Nat} {l chunk : List α} (h : chunk ∈ chunksExact k l) :
    chunk.length = k := by
  obtain ⟨i, hi, rfl⟩ := List.mem_map.1 h
  have hle : (i + 1) * k ≤ l.length :=
    Nat.le_trans (Nat.mul_le_mul_right k (List.mem_range.1 hi)) (Nat.div_mul_le_self l.length k)
  rw [Nat.add_mul] at hle
  simp only [List.length_take, List.length_drop]
  omega

/-- **A list of whole chunks is their concatenation.** -/
theorem flatten_chunksExact {α : Type} {k : Nat} (hk : 0 < k) : ∀ (n : Nat) (l : List α), l.length = n * k →
    (chunksExact k l).flatten = l
  | 0, l, h => by
    rw [Nat.zero_mul] at h
    rw [List.eq_nil_of_length_eq_zero h]
    simp [chunksExact]
  | n + 1, l, h => by
    rw [Nat.add_mul] at h
    have hfirst : (l.take k).length = k := by simp only [List.length_take]; omega
    have hrest : (l.drop k).length = n * k := by simp only [List.length_drop]; omega
    have hsplit := chunksExact_append hk hfirst (l.drop k)
    rw [List.take_append_drop] at hsplit
    rw [hsplit, List.flatten_cons, flatten_chunksExact hk n _ hrest, List.take_append_drop]

/-- A part of a concatenation of parts of one length lies within one of them. -/
theorem getElem?_flatMap_chunks {α β : Type} {f : α → List β} {k r : Nat} (hk : ∀ a, (f a).length = k) (hr : r < k) :
    ∀ (l : List α) (q : Nat), (l.flatMap f)[k * q + r]? = l[q]?.bind (fun a => (f a)[r]?)
  | [], q => by simp
  | a :: l, 0 => by
    rw [List.flatMap_cons, Nat.mul_zero, Nat.zero_add, List.getElem?_append_left (by rw [hk]; exact hr)]
    rfl
  | a :: l, q + 1 => by
    have hle : (f a).length ≤ k * (q + 1) + r := by rw [hk, Nat.mul_succ]; omega
    have hsub : k * (q + 1) + r - k = k * q + r := by rw [Nat.mul_succ]; omega
    rw [List.flatMap_cons, List.getElem?_append_right hle, hk, hsub, getElem?_flatMap_chunks hk hr l q,
      List.getElem?_cons_succ]

/-! ## Bits -/

theorem getElem?_leBytes : ∀ (k n i : Nat), i < k → (leBytes k n)[i]? = some (UInt8.ofNat (n / 256 ^ i))
  | k + 1, n, 0, _ => by simp [leBytes]
  | k + 1, n, i + 1, h => by
    rw [leBytes, List.getElem?_cons_succ, getElem?_leBytes k (n / 256) i (by omega), Nat.div_div_eq_div_mul,
      ← Nat.pow_succ']

theorem and_two_pow_ne_zero_iff (n j : Nat) : n &&& 2 ^ j ≠ 0 ↔ n.testBit j = true := by
  rw [ne_eq, ← Bool.not_eq_false, not_iff_not]
  constructor
  · intro h
    have hbit := congrArg (fun m => m.testBit j) h
    simpa using hbit
  · intro h
    apply Nat.eq_of_testBit_eq
    intro i
    rw [Nat.testBit_and, Nat.testBit_two_pow, Nat.zero_testBit]
    by_cases hij : j = i
    · subst hij
      rw [h, Bool.false_and]
    · rw [decide_eq_false hij, Bool.and_false]

/-- A mask of one bit tests that bit. -/
theorem mask_ne_zero (byte : UInt8) {j : Nat} (hj : j < 8) :
    (byte &&& (1 <<< UInt8.ofNat j) != 0) = byte.toNat.testBit j := by
  have hshift : (UInt8.ofNat j).toNat % 8 = j := by
    rw [UInt8.toNat_ofNat']
    omega
  have hmask : (1 : UInt8).toNat <<< j % 2 ^ 8 = 2 ^ j := by
    rw [show (1 : UInt8).toNat = 1 from rfl, Nat.one_shiftLeft, Nat.mod_eq_of_lt (Nat.pow_lt_pow_right (by decide) hj)]
  rw [Bool.eq_iff_iff, bne_iff_ne, ne_eq, ← UInt8.toNat_inj, UInt8.toNat_and, UInt8.toNat_shiftLeft, hshift, hmask]
  exact and_two_pow_ne_zero_iff byte.toNat j

/-- **A bit of a little-endian word** is a bit of the byte that holds it. -/
theorem testBit_leByte (n i j : Nat) (hj : j < 8) :
    (UInt8.ofNat (n / 256 ^ i)).toNat.testBit j = n.testBit (8 * i + j) := by
  rw [UInt8.toNat_ofNat', Nat.testBit_mod_two_pow, decide_eq_true hj, Bool.true_and,
    show (256 : Nat) = 2 ^ 8 from rfl, ← Nat.pow_mul, Nat.testBit_div_two_pow, Nat.add_comm]

end Machine
