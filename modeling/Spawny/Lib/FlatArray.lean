import Mathlib.Data.List.Basic
import Mathlib.Tactic.Common

/-! # Arrays in flat memory

A C array of structs is a list of words in which the element `i` begins at `i * size`. A function
that is given a pointer sees the words from there on (`through`), and a loop over the elements hands
it one pointer after the other (`loop`). `none` is undefined behaviour.

* `loop_flatten`: a loop that rewrites every element rewrites the array;
* `getElem?_flatten_mul`: a field of an element;
* `exists_chunks`: memory of the right size is an array, whatever is in it;
* `load_flatten`, `store_flatten`: an element is read, and one is written behind the others;
* `move_flatten`: **moving the elements behind `i` down by one** deletes the element `i`. -/

namespace Spawny.Lib.FlatArray

variable {α : Type*}

/-- `f` gets a pointer to the word `off`. -/
def through (off : ℕ) (f : List α → Option (List α)) (mem : List α) : Option (List α) :=
  if off ≤ mem.length then (f (mem.drop off)).map (mem.take off ++ ·) else none

/-- `f i` gets a pointer to the element `i`, for the next `n` elements. -/
def loop (size : ℕ) (f : ℕ → List α → Option (List α)) : ℕ → ℕ → List α → Option (List α)
  | 0, _, mem => some mem
  | n + 1, i, mem => (through (i * size) (f i) mem).bind (loop size f n (i + 1))

/-- `realloc`: new words hold `junk`. -/
def resize (junk : α) (n : ℕ) (mem : List α) : List α :=
  mem.take n ++ List.replicate (n - mem.length) junk

/-- `memset` of `n` words. -/
def fill (off n : ℕ) (a : α) (mem : List α) : Option (List α) :=
  if off + n ≤ mem.length then some (mem.take off ++ List.replicate n a ++ mem.drop (off + n))
  else none

/-- The `n` words from `off` on. -/
def load (off n : ℕ) (mem : List α) : Option (List α) :=
  if off + n ≤ mem.length then some ((mem.drop off).take n) else none

/-- The words `ws` are written from `off` on. -/
def store (off : ℕ) (ws mem : List α) : Option (List α) :=
  if off + ws.length ≤ mem.length then
    some (mem.take off ++ ws ++ mem.drop (off + ws.length))
  else none

/-- `memmove` of `n` words. -/
def move (dst src n : ℕ) (mem : List α) : Option (List α) :=
  if dst + n ≤ mem.length ∧ src + n ≤ mem.length then
    some (mem.take dst ++ (mem.drop src).take n ++ mem.drop (dst + n))
  else none

theorem length_resize (junk : α) (n : ℕ) (mem : List α) : (resize junk n mem).length = n := by
  rw [resize, List.length_append, List.length_take, List.length_replicate]
  omega

theorem exists_fill {off n : ℕ} {mem : List α} (h : off + n ≤ mem.length) (a : α) :
    ∃ mem', fill off n a mem = some mem' ∧ mem'.length = mem.length := by
  refine ⟨_, if_pos h, ?_⟩
  simp only [List.length_append, List.length_take, List.length_replicate, List.length_drop]
  omega

theorem length_move {dst src n : ℕ} {mem mem' : List α} (h : move dst src n mem = some mem') :
    mem'.length = mem.length := by
  unfold move at h
  split_ifs at h with hin
  obtain rfl := Option.some.inj h
  simp only [List.length_append, List.length_take, List.length_drop]
  omega

theorem through_append {off : ℕ} {f : List α → Option (List α)} {pre mem mem' : List α}
    (hoff : pre.length = off) (hf : f mem = some mem') :
    through off f (pre ++ mem) = some (pre ++ mem') := by
  subst hoff
  rw [through, if_pos (by simp), List.drop_left, List.take_left, hf]
  rfl

/-- **A loop over the elements.** -/
theorem loop_flatten {size : ℕ} {f : ℕ → List α → Option (List α)} :
    ∀ (cs outs : List (List α)) (i : ℕ) (pre : List α), pre.length = i * size →
      cs.length = outs.length →
      (∀ j c o, cs[j]? = some c → outs[j]? = some o →
        o.length = size ∧ ∀ rest, f (i + j) (c ++ rest) = some (o ++ rest)) →
      loop size f cs.length i (pre ++ cs.flatten) = some (pre ++ outs.flatten)
  | [], [], _, _, _, _, _ => by simp [loop]
  | [], _ :: _, _, _, _, hlen, _ => by simp at hlen
  | _ :: _, [], _, _, _, hlen, _ => by simp at hlen
  | c :: cs, o :: outs, i, pre, hpre, hlen, h => by
    obtain ⟨ho, hf⟩ := h 0 c o rfl rfl
    simp only [Nat.add_zero] at hf
    have hnext : ∀ j c' o', cs[j]? = some c' → outs[j]? = some o' →
        o'.length = size ∧ ∀ rest, f (i + 1 + j) (c' ++ rest) = some (o' ++ rest) := by
      intro j c' o' hc' ho'
      rw [Nat.add_assoc, Nat.add_comm 1 j]
      exact h (j + 1) c' o' hc' ho'
    have ih := loop_flatten cs outs (i + 1) (pre ++ o)
      (by rw [List.length_append, hpre, ho, Nat.succ_mul]) (by simpa using hlen) hnext
    rw [List.length_cons, loop, List.flatten_cons, List.flatten_cons,
      through_append hpre (hf cs.flatten), Option.bind_some, ← List.append_assoc, ih,
      List.append_assoc]

/-- **A field of an element.** -/
theorem getElem?_flatten_mul {size k : ℕ} (hk : k < size) : ∀ (cs : List (List α)) (i : ℕ),
    (∀ c ∈ cs, c.length = size) → cs.flatten[i * size + k]? = (cs[i]?).bind (·[k]?)
  | [], _, _ => by simp
  | c :: cs, 0, h => by
    have hc := h c List.mem_cons_self
    rw [List.flatten_cons, Nat.zero_mul, Nat.zero_add, List.getElem?_append_left (by omega)]
    rfl
  | c :: cs, i + 1, h => by
    have hc := h c List.mem_cons_self
    rw [List.flatten_cons, List.getElem?_append_right (by rw [hc, Nat.succ_mul]; omega), hc,
      show (i + 1) * size + k - size = i * size + k by rw [Nat.succ_mul]; omega,
      getElem?_flatten_mul hk cs i fun c' hc' => h c' (List.mem_cons_of_mem _ hc')]
    rfl

/-- Memory of the right size is an array. -/
theorem exists_chunks (size : ℕ) : ∀ (n : ℕ) (mem : List α), mem.length = n * size →
    ∃ cs : List (List α), cs.length = n ∧ (∀ c ∈ cs, c.length = size) ∧ mem = cs.flatten
  | 0, mem, h => ⟨[], rfl, nofun, List.length_eq_zero_iff.mp (by omega)⟩
  | n + 1, mem, h => by
    rw [Nat.succ_mul] at h
    obtain ⟨cs, hlen, hcs, hmem⟩ := exists_chunks size n (mem.drop size)
      (by rw [List.length_drop]; omega)
    refine ⟨mem.take size :: cs, by rw [List.length_cons, hlen], ?_, ?_⟩
    · intro c hc
      rcases List.mem_cons.mp hc with rfl | hc
      · rw [List.length_take]
        omega
      · exact hcs c hc
    · rw [List.flatten_cons, ← hmem, List.take_append_drop]

/-! ### Single elements -/

section elements

variable {size : ℕ} {cs : List (List α)} (h : ∀ c ∈ cs, c.length = size)
include h

theorem length_flatten_mul : cs.flatten.length = cs.length * size := by
  induction cs with
  | nil => simp
  | cons c cs ih =>
    have hc := h c List.mem_cons_self
    have hrest := ih fun c' hc' => h c' (List.mem_cons_of_mem c hc')
    rw [List.flatten_cons, List.length_append, hc, hrest, List.length_cons, Nat.succ_mul]
    omega

theorem take_flatten_mul (i : ℕ) : cs.flatten.take (i * size) = (cs.take i).flatten := by
  have htake : (cs.take i).flatten.length = (cs.take i).length * size :=
    length_flatten_mul fun c hc => h c (List.mem_of_mem_take hc)
  have hsplit : cs.flatten = (cs.take i).flatten ++ (cs.drop i).flatten := by
    rw [← List.flatten_append, List.take_append_drop]
  rcases Nat.lt_or_ge i cs.length with hi | hi
  · rw [List.length_take, Nat.min_eq_left (Nat.le_of_lt hi)] at htake
    rw [hsplit, List.take_left' htake]
  · have hlen := length_flatten_mul h
    have hle : cs.length * size ≤ i * size := Nat.mul_le_mul_right size hi
    rw [List.take_of_length_le (by omega), List.take_of_length_le hi]

theorem drop_flatten_mul (i : ℕ) : cs.flatten.drop (i * size) = (cs.drop i).flatten := by
  have hsplit : cs.flatten = (cs.take i).flatten ++ (cs.drop i).flatten := by
    rw [← List.flatten_append, List.take_append_drop]
  have hback := List.take_append_drop (i * size) cs.flatten
  rw [take_flatten_mul h i] at hback
  exact List.append_cancel_left (hback.trans hsplit)

/-- **An element is read.** -/
theorem load_flatten {i : ℕ} {c : List α} (hc : cs[i]? = some c) :
    load (i * size) size cs.flatten = some c := by
  obtain ⟨hi, rfl⟩ := List.getElem?_eq_some_iff.mp hc
  have hlen := length_flatten_mul h
  have hle : (i + 1) * size ≤ cs.length * size := Nat.mul_le_mul_right size hi
  rw [Nat.succ_mul] at hle
  have hsize : cs[i].length = size := h _ (List.getElem_mem hi)
  rw [load, if_pos (by omega), drop_flatten_mul h, List.drop_eq_getElem_cons hi, List.flatten_cons,
    List.take_left' hsize]

/-- **An element is written** behind the others. -/
theorem store_flatten {c junk : List α} (hc : c.length = size) (hjunk : junk.length = size) :
    store (cs.length * size) c (cs.flatten ++ junk) = some (cs ++ [c]).flatten := by
  have hlen := length_flatten_mul h
  have hfit : cs.length * size + c.length ≤ (cs.flatten ++ junk).length := by
    rw [List.length_append]
    omega
  have htake : (cs.flatten ++ junk).take (cs.length * size) = cs.flatten := List.take_left' hlen
  have hdrop : (cs.flatten ++ junk).drop (cs.length * size + c.length) = [] := by
    rw [List.drop_eq_nil_iff, List.length_append]
    omega
  rw [store, if_pos hfit, htake, hdrop, List.append_nil, List.flatten_append]
  simp

/-- **The elements behind `i` are moved down by one**: without the last place, it is deleted. -/
theorem move_flatten {i : ℕ} (hi : i < cs.length) :
    ∃ mem, move (i * size) ((i + 1) * size) ((cs.length - i - 1) * size) cs.flatten = some mem ∧
      mem.take ((cs.length - 1) * size) = (cs.eraseIdx i).flatten := by
  have hlen := length_flatten_mul h
  have hsrc : (i + 1) * size + (cs.length - i - 1) * size = cs.length * size := by
    rw [← Nat.add_mul]
    congr 1
    omega
  have hdst : i * size + (cs.length - i - 1) * size = (cs.length - 1) * size := by
    rw [← Nat.add_mul]
    congr 1
    omega
  have hless : (cs.length - 1) * size ≤ cs.length * size := Nat.mul_le_mul_right size (by omega)
  have htail : (cs.drop (i + 1)).flatten.length = (cs.length - i - 1) * size := by
    rw [length_flatten_mul fun c hc => h c (List.mem_of_mem_drop hc), List.length_drop,
      Nat.sub_sub]
  have herase : (cs.eraseIdx i).flatten = (cs.take i).flatten ++ (cs.drop (i + 1)).flatten := by
    rw [List.eraseIdx_eq_take_drop_succ, List.flatten_append]
  have hhead : (cs.take i).flatten.length = i * size := by
    rw [length_flatten_mul fun c hc => h c (List.mem_of_mem_take hc), List.length_take,
      Nat.min_eq_left (Nat.le_of_lt hi)]
  refine ⟨_, if_pos ⟨by omega, by omega⟩, ?_⟩
  rw [take_flatten_mul h, drop_flatten_mul h, List.take_of_length_le (Nat.le_of_eq htail), herase]
  exact List.take_left' (by rw [List.length_append]; omega)

end elements

end Spawny.Lib.FlatArray
