import Mathlib.Algebra.Group.Nat.Defs
import Mathlib.Data.List.InsertIdx
import Spawny.Lib.FlatArray
import Spawny.Lib.Runs

/-! # array.c: the arrays of the daemon

An `Array` is one block of memory with `len` elements of `size` bytes each. All registries are kept
in such arrays. The sizes are computed in `unsigned int` and `size_t`, and what `realloc` leaves in
new memory is arbitrary; `none` is undefined behaviour.

* `Holds.add`, `Holds.del`: what the block holds after one operation;
* `array_refines`: **the array is a list** under append and erase, in every state of every run in
  which the length fits into an `unsigned int` and there is memory. -/

namespace Spawny.Daemon.Arrays

open Spawny.Lib.FlatArray Spawny.Lib.Runs

/-! ### The functions of array.c -/

/-- `struct _Array`: the block that `ptr` points to, if it is not `NULL`. -/
structure CArray where
  ptr : Option (List UInt8)
  size : UInt64
  len : UInt32

/-- What `realloc` is answered: whether there is memory, and what is in the new bytes. -/
structure Memory where
  room : Bool
  junk : ℕ → UInt8

/-- No object is larger. -/
def PTRDIFF_MAX : ℕ := 2 ^ 63 - 1

/-- `realloc`: the old bytes stay, as far as they fit. For 0 bytes it may return `NULL` too. -/
def realloc (mem : Memory) (ptr : Option (List UInt8)) (n : UInt64) : Option (List UInt8) :=
  if mem.room = true ∧ n.toNat ≤ PTRDIFF_MAX then
    let old := (ptr.getD []).take n.toNat
    some (old ++ (List.range (n.toNat - old.length)).map mem.junk)
  else none

/-- `ACCESS`: the offset of the pointer in the block. There is none behind `NULL`. -/
def CArray.access (arr : CArray) (i : UInt32) : Option ℕ :=
  arr.ptr.map fun _ => (i.toUInt64 * arr.size).toNat

def arrayNew (size : UInt64) : CArray := ⟨none, size, 0⟩

def arrayAdd (mem : Memory) (arr : CArray) : Option ℕ × CArray :=
  let arr := { arr with len := arr.len + 1 }
  let arr := { arr with ptr := realloc mem arr.ptr (arr.len.toUInt64 * arr.size) }
  (arr.access (arr.len - 1), arr)

def arrayGet (arr : CArray) (i : UInt32) : Option ℕ :=
  if i ≥ arr.len then none else arr.access i

/-- The arguments of `memmove` in `array_del`: two pointers and the number of bytes. -/
def delMove (arr : CArray) (i : UInt32) : Option ℕ × Option ℕ × ℕ :=
  (arr.access i, arr.access (i + 1), ((arr.len - i - 1).toUInt64 * arr.size).toNat)

def arrayDel (mem : Memory) (arr : CArray) (i : UInt32) : Option CArray :=
  if i ≥ arr.len then some arr
  else
    match arr.ptr, delMove arr i with
    | some block, (some dst, some src, s) =>
      (move dst src s block).map fun block =>
        let arr := { arr with ptr := some block, len := arr.len - 1 }
        { arr with ptr := realloc mem arr.ptr (arr.len.toUInt64 * arr.size) }
    | _, _ => none

def arrayLenGet (arr : CArray) : UInt32 := arr.len

/-- The caller writes an element through a pointer into the array. -/
def CArray.write (arr : CArray) (p : ℕ) (bytes : List UInt8) : Option CArray :=
  (arr.ptr.bind fun block => store p bytes block).map fun block => { arr with ptr := some block }

/-- The caller reads one. -/
def CArray.read (arr : CArray) (p : ℕ) : Option (List UInt8) :=
  arr.ptr.bind fun block => load p arr.size.toNat block

/-! ### Runs -/

/-- The bytes of an element. -/
abbrev Element (size : UInt64) := { bytes : List UInt8 // bytes.length = size.toNat }

/-- What callers do: a new element is written at once. -/
inductive Op (size : UInt64)
  | add (e : Element size) (mem : Memory)
  | get (i : UInt32)
  | del (i : UInt32) (mem : Memory)

variable {size : UInt64}

def CArray.step (arr : CArray) : Op size → Option CArray
  | .add e mem => (arrayAdd mem arr).1.bind fun p => (arrayAdd mem arr).2.write p e.1
  | .get _ => some arr
  | .del i mem => arrayDel mem arr i

/-- The same on a list. -/
def listStep (l : List (Element size)) : Op size → List (Element size)
  | .add e _ => l ++ [e]
  | .get _ => l
  | .del i _ => l.eraseIdx i.toNat

/-- The array, and the list it stands for. -/
structure System (size : UInt64) where
  arr : Option CArray
  list : List (Element size)

def System.new (size : UInt64) : System size := ⟨some (arrayNew size), []⟩

def step (s : System size) (op : Op size) : System size :=
  ⟨s.arr.bind fun arr => arr.step op, listStep s.list op⟩

/-- The length fits into an `unsigned int`, and `realloc` returns a block, unless no element is
left. -/
def Room (s : System size) : Op size → Prop
  | .add _ mem =>
    s.list.length + 1 < 2 ^ 32 ∧ ∀ arr ∈ s.arr, (arrayAdd mem arr).2.ptr.isSome = true
  | .get _ => True
  | .del i mem =>
    i.toNat < s.list.length → 1 < s.list.length →
      ∀ arr ∈ s.arr, ∀ arr' ∈ arrayDel mem arr i, arr'.ptr.isSome = true

instance (s : System size) : ∀ op, Decidable (Room s op)
  | .add _ mem =>
    inferInstanceAs (Decidable (_ ∧ ∀ arr ∈ s.arr, (arrayAdd mem arr).2.ptr.isSome = true))
  | .get _ => isTrue trivial
  | .del i mem => inferInstanceAs (Decidable (i.toNat < s.list.length → 1 < s.list.length →
      ∀ arr ∈ s.arr, ∀ arr' ∈ arrayDel mem arr i, arr'.ptr.isSome = true))

/-- **The array is the list.** -/
structure Refines (arr : CArray) (l : List (Element size)) : Prop where
  /-- the block holds the bytes of the elements, in order -/
  bytes : arr.ptr.getD [] = (l.map Subtype.val).flatten
  len : (arrayLenGet arr).toNat = l.length
  get : ∀ (i : UInt32) (e : Element size), l[i.toNat]? = some e →
    ∃ p, arrayGet arr i = some p ∧ arr.read p = some e.1
  getNone : ∀ i : UInt32, l.length ≤ i.toNat → arrayGet arr i = none

/-- What an operation does besides: the pointer of `array_add` is to the new element, an index out
of range changes nothing, and what `array_del` moves lies in the block. -/
def Sound (s : System size) : Op size → Prop
  | .add e mem => ∀ arr ∈ s.arr, ∃ p arr', (arrayAdd mem arr).1 = some p ∧
      (arrayAdd mem arr).2.write p e.1 = some arr' ∧ arr'.read p = some e.1 ∧
      arrayGet arr' arr.len = some p
  | .get i => (step s (.get i)).arr = s.arr
  | .del i mem => ∀ arr ∈ s.arr, (s.list.length ≤ i.toNat → arrayDel mem arr i = some arr) ∧
      (i.toNat < s.list.length → ∃ block dst src, arr.ptr = some block ∧
        delMove arr i = (some dst, some src, (s.list.length - i.toNat - 1) * size.toNat) ∧
        dst + (s.list.length - i.toNat - 1) * size.toNat ≤ block.length ∧
        src + (s.list.length - i.toNat - 1) * size.toNat ≤ block.length)

/-! ### What the operations keep -/

/-- **The invariant.** The last part comes from the allocations: no size is ever cut off. -/
structure Holds (arr : CArray) (l : List (Element size)) : Prop where
  width : arr.size = size
  bytes : arr.ptr.getD [] = (l.map Subtype.val).flatten
  len : arr.len.toNat = l.length
  block : l ≠ [] → arr.ptr.isSome = true
  fits : l.length * size.toNat ≤ PTRDIFF_MAX

theorem length_of_mem_bytes {l : List (Element size)} {c : List UInt8}
    (h : c ∈ l.map Subtype.val) : c.length = size.toNat := by
  obtain ⟨e, -, rfl⟩ := List.mem_map.mp h
  exact e.2

theorem length_bytes (l : List (Element size)) :
    (l.map Subtype.val).flatten.length = l.length * size.toNat := by
  rw [length_flatten_mul fun c => length_of_mem_bytes, List.length_map]

theorem toNat_mul {i : UInt32} (h : i.toNat * size.toNat < 2 ^ 64) :
    (i.toUInt64 * size).toNat = i.toNat * size.toNat := by
  rw [UInt64.toNat_mul, UInt32.toNat_toUInt64, Nat.mod_eq_of_lt h]

/-- One more element does not wrap either, as each of the elements before fits into memory. -/
theorem succ_mul_lt {n : ℕ} (h : n * size.toNat ≤ PTRDIFF_MAX) : (n + 1) * size.toNat < 2 ^ 64 := by
  have hsize : size.toNat < 2 ^ 64 := size.toNat_lt
  unfold PTRDIFF_MAX at h
  rcases Nat.eq_zero_or_pos n with rfl | hn
  · omega
  · have hle : 1 * size.toNat ≤ n * size.toNat := Nat.mul_le_mul_right _ hn
    rw [Nat.succ_mul]
    omega

/-- A block that `realloc` returns. -/
theorem exists_realloc {mem : Memory} {ptr : Option (List UInt8)} {n : UInt64}
    (h : (realloc mem ptr n).isSome = true) :
    ∃ junk : List UInt8, junk.length = n.toNat - (ptr.getD []).length ∧ n.toNat ≤ PTRDIFF_MAX ∧
      realloc mem ptr n = some ((ptr.getD []).take n.toNat ++ junk) := by
  unfold realloc at h ⊢
  split_ifs at h ⊢ with hroom
  · refine ⟨_, ?_, hroom.2, rfl⟩
    rw [List.length_map, List.length_range, List.length_take]
    omega
  · simp at h

section Holds

variable {arr : CArray} {l : List (Element size)} (h : Holds arr l)
include h

/-- A pointer to an element, or to the end of the block. -/
theorem Holds.access {block : List UInt8} (hblock : arr.ptr = some block) {i : UInt32}
    (hi : i.toNat ≤ l.length) : arr.access i = some (i.toNat * size.toNat) := by
  have hle : i.toNat * size.toNat ≤ l.length * size.toNat := Nat.mul_le_mul_right _ hi
  have hfits := h.fits
  unfold PTRDIFF_MAX at hfits
  rw [CArray.access, hblock, Option.map_some, h.width, toNat_mul (by omega)]

/-- The block of an array with elements. -/
theorem Holds.exists_block {i : ℕ} (hi : i < l.length) :
    arr.ptr = some (l.map Subtype.val).flatten := by
  have hne : l ≠ [] := List.ne_nil_of_length_pos (by omega)
  obtain ⟨block, hblock⟩ := Option.isSome_iff_exists.mp (h.block hne)
  have hbytes := h.bytes
  rw [hblock, Option.getD_some] at hbytes
  rw [hblock, hbytes]

theorem Holds.arrayGet_of_lt {i : UInt32} (hi : i.toNat < l.length) :
    arrayGet arr i = some (i.toNat * size.toNat) := by
  have hlt : ¬i ≥ arr.len := by
    rw [ge_iff_le, UInt32.le_iff_toNat_le, h.len]
    omega
  rw [arrayGet, if_neg hlt, h.access (h.exists_block hi) (Nat.le_of_lt hi)]

/-- **What is moved.** -/
theorem Holds.delMove_eq {i : UInt32} (hi : i.toNat < l.length) :
    delMove arr i = (some (i.toNat * size.toNat), some ((i.toNat + 1) * size.toNat),
      (l.length - i.toNat - 1) * size.toNat) := by
  have hlen := h.len
  have hbound := arr.len.toNat_lt
  have hsucc : (i + 1).toNat = i.toNat + 1 := by
    rw [UInt32.toNat_add]
    exact Nat.mod_eq_of_lt (by rw [UInt32.toNat_one]; omega)
  have hi' : i ≤ arr.len := by
    rw [UInt32.le_iff_toNat_le]
    omega
  have hone : (1 : UInt32) ≤ arr.len - i := by
    rw [UInt32.le_iff_toNat_le, UInt32.toNat_sub_of_le _ _ hi', UInt32.toNat_one]
    omega
  have hrest : (arr.len - i - 1).toNat = l.length - i.toNat - 1 := by
    rw [UInt32.toNat_sub_of_le _ _ hone, UInt32.toNat_sub_of_le _ _ hi', hlen, UInt32.toNat_one]
  have hle : (l.length - i.toNat - 1) * size.toNat ≤ l.length * size.toNat :=
    Nat.mul_le_mul_right _ (by omega)
  have hfits := h.fits
  unfold PTRDIFF_MAX at hfits
  rw [delMove, h.access (h.exists_block hi) (Nat.le_of_lt hi),
    h.access (h.exists_block hi) (by omega), hsucc, h.width, toNat_mul (by rw [hrest]; omega),
    hrest]

theorem Holds.refines : Refines arr l where
  bytes := h.bytes
  len := h.len
  get := by
    intro i e he
    have hi : i.toNat < l.length := (List.getElem?_eq_some_iff.mp he).1
    refine ⟨_, h.arrayGet_of_lt hi, ?_⟩
    have hbytes : (l.map Subtype.val)[i.toNat]? = some e.1 := by rw [List.getElem?_map, he]; rfl
    rw [CArray.read, h.exists_block hi, Option.bind_some, h.width,
      load_flatten (fun c => length_of_mem_bytes) hbytes]
  getNone := by
    intro i hi
    refine if_pos ?_
    rw [ge_iff_le, UInt32.le_iff_toNat_le, h.len]
    exact hi

/-- **A new element.** -/
theorem Holds.add {mem : Memory} (e : Element size) (hlen : l.length + 1 < 2 ^ 32)
    (hmem : (arrayAdd mem arr).2.ptr.isSome = true) :
    ∃ arr', (arrayAdd mem arr).1 = some (l.length * size.toNat) ∧
      (arrayAdd mem arr).2.write (l.length * size.toNat) e.1 = some arr' ∧
      Holds arr' (l ++ [e]) := by
  have hsucc : (arr.len + 1).toNat = l.length + 1 := by
    rw [UInt32.toNat_add, h.len]
    exact Nat.mod_eq_of_lt hlen
  have hmul : ((arr.len + 1).toUInt64 * arr.size).toNat = (l.length + 1) * size.toNat := by
    have hlt := succ_mul_lt h.fits
    rw [h.width, toNat_mul (by rw [hsucc]; exact hlt), hsucc]
  -- the old bytes, with room for one element behind them
  obtain ⟨junk, hjunk, hfits, hptr⟩ := exists_realloc hmem
  have hold := length_bytes l
  rw [hmul, h.bytes, hold, Nat.succ_mul, Nat.add_sub_cancel_left] at hjunk
  rw [hmul] at hfits
  have hptr : (arrayAdd mem arr).2.ptr = some ((l.map Subtype.val).flatten ++ junk) := by
    have htake : ((l.map Subtype.val).flatten).take ((l.length + 1) * size.toNat) =
        (l.map Subtype.val).flatten :=
      List.take_of_length_le (by rw [hold, Nat.succ_mul]; omega)
    rw [hmul, h.bytes, htake] at hptr
    exact hptr
  have hlast : (arr.len + 1 - 1 : UInt32).toNat = l.length := by
    rw [UInt32.add_sub_cancel, h.len]
  have haccess : (arrayAdd mem arr).1 = some (l.length * size.toNat) := by
    have hlt := succ_mul_lt h.fits
    rw [Nat.succ_mul] at hlt
    show ((arrayAdd mem arr).2.ptr.map fun _ =>
      ((arr.len + 1 - 1).toUInt64 * arr.size).toNat) = _
    rw [hptr, Option.map_some, h.width, toNat_mul (by rw [hlast]; omega), hlast]
  have hstore := store_flatten (fun c => length_of_mem_bytes (l := l)) e.2 hjunk
  rw [List.length_map] at hstore
  refine ⟨⟨some ((l ++ [e]).map Subtype.val).flatten, arr.size, arr.len + 1⟩, haccess, ?_,
    ⟨h.width, rfl, ?_, fun _ => rfl, ?_⟩⟩
  · rw [CArray.write, hptr, Option.bind_some, hstore, List.map_append, List.map_singleton]
    rfl
  · rw [List.length_append]
    exact hsucc
  · rw [List.length_append]
    exact hfits

theorem Holds.arrayDel_of_ge {mem : Memory} {i : UInt32} (hi : l.length ≤ i.toNat) :
    arrayDel mem arr i = some arr := by
  refine if_pos ?_
  rw [ge_iff_le, UInt32.le_iff_toNat_le, h.len]
  exact hi

/-- **An element is deleted.** -/
theorem Holds.del (mem : Memory) {i : UInt32} (hi : i.toNat < l.length) :
    ∃ arr', arrayDel mem arr i = some arr' ∧
      ((1 < l.length → arr'.ptr.isSome = true) → Holds arr' (l.eraseIdx i.toNat)) := by
  have hblock := h.exists_block hi
  have hlt : ¬i ≥ arr.len := by
    rw [ge_iff_le, UInt32.le_iff_toNat_le, h.len]
    omega
  have hmove := h.delMove_eq hi
  obtain ⟨mem', hmem', htake⟩ := move_flatten (fun c => length_of_mem_bytes (l := l))
    (i := i.toNat) (by rw [List.length_map]; exact hi)
  rw [List.length_map] at hmem' htake
  have hpred : (arr.len - 1).toNat = l.length - 1 := by
    have hone : (1 : UInt32) ≤ arr.len := by
      rw [UInt32.le_iff_toNat_le, h.len]
      exact Nat.lt_of_le_of_lt (Nat.zero_le _) hi
    rw [UInt32.toNat_sub_of_le _ _ hone, h.len]
    rfl
  have hless : (l.length - 1) * size.toNat ≤ l.length * size.toNat :=
    Nat.mul_le_mul_right _ (by omega)
  have hfits := h.fits
  have hmul : ((arr.len - 1).toUInt64 * arr.size).toNat = (l.length - 1) * size.toNat := by
    unfold PTRDIFF_MAX at hfits
    rw [h.width, toNat_mul (by rw [hpred]; omega), hpred]
  have herase : (l.eraseIdx i.toNat).length = l.length - 1 := List.length_eraseIdx_of_lt hi
  refine ⟨⟨realloc mem (some mem') ((arr.len - 1).toUInt64 * arr.size), arr.size, arr.len - 1⟩,
    ?_, fun hsome => ?_⟩
  · rw [arrayDel, if_neg hlt, hblock, hmove]
    dsimp only
    rw [hmem']
    rfl
  dsimp only at hsome
  refine ⟨h.width, ?_, hpred.trans herase.symm, fun hne => hsome ?_,
    by rw [herase]; omega⟩
  · by_cases hptr : (realloc mem (some mem') ((arr.len - 1).toUInt64 * arr.size)).isSome = true
    · obtain ⟨junk, hjunk, -, hptr⟩ := exists_realloc hptr
      have hlength := length_move hmem'
      have hbytes := length_bytes l
      -- nothing is left behind the elements
      have hnil : junk = [] := by
        refine List.length_eq_zero_iff.mp ?_
        rw [hjunk, hmul, Option.getD_some]
        omega
      rw [hptr, hmul, Option.getD_some, Option.getD_some, hnil, List.append_nil, htake,
        List.eraseIdx_map]
    · have hone : ¬1 < l.length := fun hmore => hptr (hsome hmore)
      have hnil : l.eraseIdx i.toNat = [] := List.length_eq_zero_iff.mp (by omega)
      rw [Option.not_isSome_iff_eq_none.mp hptr, hnil]
      rfl
  · have hpos := List.length_pos_of_ne_nil hne
    omega

end Holds

/-- What holds of the array and the list in all states. -/
def Agrees (s : System size) : Prop := ∃ arr, s.arr = some arr ∧ Holds arr s.list

theorem agrees_new (size : UInt64) : Agrees (System.new size) :=
  ⟨arrayNew size, rfl, rfl, rfl, rfl, fun hne => absurd rfl hne, by simp [System.new]⟩

/-- **One operation.** -/
theorem Agrees.step {s : System size} (h : Agrees s) {op : Op size} (hroom : Room s op) :
    Agrees (step s op) := by
  obtain ⟨arr, harr, h⟩ := h
  rcases op with ⟨e, mem⟩ | i | ⟨i, mem⟩
  · obtain ⟨arr', hadd, hwrite, hnext⟩ := h.add e hroom.1 (hroom.2 arr harr)
    refine ⟨arr', ?_, hnext⟩
    show (s.arr.bind fun arr => arr.step (.add e mem)) = some arr'
    rw [harr, Option.bind_some, CArray.step, hadd, Option.bind_some, hwrite]
  · refine ⟨arr, ?_, h⟩
    show (s.arr.bind fun arr => arr.step (.get i)) = some arr
    rw [harr]
    rfl
  · have hstep : (Arrays.step s (.del i mem)).arr = arrayDel mem arr i := by
      show (s.arr.bind fun arr => arr.step (.del i mem)) = _
      rw [harr]
      rfl
    by_cases hi : i.toNat < s.list.length
    · obtain ⟨arr', hdel, hnext⟩ := h.del mem hi
      exact ⟨arr', hstep.trans hdel, hnext fun hmore => hroom hi hmore arr harr arr' hdel⟩
    · have hlist : listStep s.list (.del i mem) = s.list := List.eraseIdx_of_length_le (by omega)
      refine ⟨arr, hstep.trans (h.arrayDel_of_ge (by omega)), ?_⟩
      show Holds arr (listStep s.list (.del i mem))
      rw [hlist]
      exact h

theorem Agrees.sound {s : System size} (h : Agrees s) {op : Op size} (hroom : Room s op) :
    Sound s op := by
  obtain ⟨arr, harr, h⟩ := h
  rcases op with ⟨e, mem⟩ | i | ⟨i, mem⟩
  · intro arr₁ harr₁
    obtain rfl : arr = arr₁ := Option.some.inj (harr.symm.trans harr₁)
    obtain ⟨arr', hadd, hwrite, hnext⟩ := h.add e hroom.1 (hroom.2 arr harr)
    have hi : arr.len.toNat < (s.list ++ [e]).length := by
      rw [h.len]
      simp
    have hget := hnext.arrayGet_of_lt hi
    rw [h.len] at hget
    have hlast : (s.list ++ [e])[arr.len.toNat]? = some e := by
      rw [h.len]
      simp
    obtain ⟨p, hp, hread⟩ := hnext.refines.get arr.len e hlast
    obtain rfl : s.list.length * size.toNat = p := Option.some.inj (hget.symm.trans hp)
    exact ⟨_, arr', hadd, hwrite, hread, hp⟩
  · show (s.arr.bind fun arr => arr.step (.get i)) = s.arr
    rw [harr]
    rfl
  · intro arr₁ harr₁
    obtain rfl : arr = arr₁ := Option.some.inj (harr.symm.trans harr₁)
    refine ⟨fun hi => h.arrayDel_of_ge hi, fun hi => ?_⟩
    have hdst : i.toNat * size.toNat + (s.list.length - i.toNat - 1) * size.toNat ≤
        s.list.length * size.toNat := by
      rw [← Nat.add_mul]
      exact Nat.mul_le_mul_right _ (by omega)
    have hsrc : (i.toNat + 1) * size.toNat + (s.list.length - i.toNat - 1) * size.toNat ≤
        s.list.length * size.toNat := by
      rw [← Nat.add_mul]
      exact Nat.mul_le_mul_right _ (by omega)
    refine ⟨_, _, _, h.exists_block hi, h.delMove_eq hi, ?_, ?_⟩
    · rw [length_bytes]
      exact hdst
    · rw [length_bytes]
      exact hsrc

/-- **The array refines the list**, over whole runs: the block holds the elements, a pointer of
`array_get` is to the element of the index, and nothing outside the block is touched. -/
theorem array_refines (size : UInt64) (ops : List (Op size))
    (hroom : Meets step Room (System.new size) ops) :
    Throughout step (fun s => ∃ arr, s.arr = some arr ∧ Refines arr s.list) (System.new size) ops ∧
      Meets step Sound (System.new size) ops := by
  refine ⟨Meets.throughout (I := Agrees) (fun s op h hop => h.step hop) ?_ ops _ hroom
    (agrees_new size), hroom.of_invariant (I := Agrees) (fun s op h hop => h.step hop)
    (fun s op h hop => h.sound hop) (agrees_new size)⟩
  rintro s ⟨arr, harr, h⟩
  exact ⟨arr, harr, h.refines⟩

/-- There is memory, and it is filled with zeros. -/
def zeroed : Memory := ⟨true, fun _ => 0⟩

/-- An `unsigned int` is added and deleted again, and two more follow. -/
def fourBytes : List (Op 4) :=
  [.add ⟨[20, 0, 0, 0], rfl⟩ zeroed, .get 0, .del 0 ⟨false, fun _ => 0⟩,
    .add ⟨[1, 0, 0, 0], rfl⟩ zeroed, .add ⟨[2, 0, 0, 0], rfl⟩ zeroed, .del 0 zeroed, .del 7 zeroed]

theorem array_refines_fourBytes :
    Throughout step (fun s => ∃ arr, s.arr = some arr ∧ Refines arr s.list) (System.new 4)
        fourBytes ∧
      (run step (System.new 4) fourBytes).arr.map (fun arr => (arr.ptr, arr.len)) =
        some (some [2, 0, 0, 0], 1) :=
  ⟨(array_refines 4 fourBytes (by decide)).1, by decide⟩

end Spawny.Daemon.Arrays
