import Mathlib.Data.List.Induction
import Mathlib.Data.List.TakeWhile
import Mathlib.Algebra.Order.Ring.Int
import Mathlib.Tactic.Ring
import Spawny.Lib.Words

/-! # Reading from a stream

What `scanf`, `fgets` and `getchar` of the C library take from an input that ends somewhere, and the
number that `atoi` reads from a text. A text in memory is the list of its bytes in front of the NUL.

* `pieces`: what `fgets` returns one after the other; `fgets_line`: a line that fits, and one that
  does not;
* `atoi_number`: **a numeral is read as its number**, in the range of an `int`;
* `number_lt`, `number_append`: the numbers of pieces of a numeral. -/

namespace Spawny.Lib.Stdio

open Spawny.Lib.Words

abbrev newline : UInt8 := 10

/-- `isspace`: the blank, the newline and their like. -/
def isSpace (c : UInt8) : Bool := c = 32 ∨ 9 ≤ c ∧ c ≤ 13

def isDigit (c : UInt8) : Bool := 48 ≤ c ∧ c ≤ 57

/-- The text in front of the first NUL. -/
def cstring (s : List UInt8) : List UInt8 := s.takeWhile (· ≠ 0)

/-! ### Words -/

/-- `scanf` with `%s`: the next word and what is behind it, if the input does not end before. -/
def scanWord (input : List UInt8) : Option (List UInt8 × List UInt8) := nextWord isSpace input

/-- The words one after the other, each with what is behind it. -/
def typedWords (input : List UInt8) : List (List UInt8 × List UInt8) := wordTails isSpace input

/-! ### Pieces of lines -/

/-- At most `n` characters, and none behind a newline. -/
def splitLine : ℕ → List UInt8 → List UInt8 × List UInt8
  | 0, input => ([], input)
  | _ + 1, [] => ([], [])
  | n + 1, c :: input =>
    if c = newline then ([c], input)
    else (c :: (splitLine n input).1, (splitLine n input).2)

/-- `fgets` into a buffer with room for `n` characters and the NUL: nothing is written at the end of
the input. -/
def fgets (n : ℕ) (input : List UInt8) : Option (List UInt8 × List UInt8) :=
  if input.isEmpty then none else some (splitLine n input)

theorem append_splitLine : ∀ (n : ℕ) (input : List UInt8),
    (splitLine n input).1 ++ (splitLine n input).2 = input
  | 0, _ => rfl
  | _ + 1, [] => rfl
  | n + 1, c :: input => by
    rw [splitLine]
    split_ifs
    · rfl
    · rw [List.cons_append, append_splitLine n input]

theorem length_splitLine_le : ∀ (n : ℕ) (input : List UInt8), (splitLine n input).1.length ≤ n
  | 0, _ => Nat.le_refl 0
  | n + 1, [] => Nat.zero_le (n + 1)
  | n + 1, c :: input => by
    have ih := length_splitLine_le n input
    rw [splitLine]
    split_ifs
    · exact Nat.succ_le_succ (Nat.zero_le n)
    · exact Nat.succ_le_succ ih

theorem splitLine_lt {n : ℕ} (hn : 0 < n) {input : List UInt8} (h : input ≠ []) :
    (splitLine n input).2.length < input.length := by
  obtain ⟨n, rfl⟩ : ∃ k, n = k + 1 := ⟨n - 1, by omega⟩
  obtain ⟨c, input, rfl⟩ := List.exists_cons_of_ne_nil h
  have happ := congrArg List.length (append_splitLine n input)
  rw [List.length_append] at happ
  rw [splitLine, List.length_cons]
  split_ifs <;> simp only <;> omega

theorem fgets_nil (n : ℕ) : fgets n [] = none := rfl

theorem fgets_some {n : ℕ} {input : List UInt8} (h : input ≠ []) :
    fgets n input = some (splitLine n input) := by
  rw [fgets, if_neg (by rwa [List.isEmpty_iff])]

/-- A line without its newline, with something behind it. -/
theorem splitLine_line : ∀ {n : ℕ} {line : List UInt8}, newline ∉ line → ∀ rest : List UInt8,
    splitLine n (line ++ newline :: rest) =
      if line.length < n then (line ++ [newline], rest)
      else (line.take n, line.drop n ++ newline :: rest)
  | 0, line, _, rest => by rw [splitLine, if_neg (Nat.not_lt_zero _)]; rfl
  | n + 1, [], _, rest => by
    rw [List.nil_append, splitLine, if_pos rfl, if_pos (by simp)]
    rfl
  | n + 1, c :: line, h, rest => by
    have hc : c ≠ newline := fun heq => h (heq ▸ List.mem_cons_self)
    have ih := splitLine_line (n := n) (fun hm => h (List.mem_cons_of_mem c hm)) rest
    rw [List.cons_append, splitLine, if_neg hc, ih]
    by_cases hlt : line.length < n
    · rw [if_pos hlt, if_pos (by rw [List.length_cons]; omega)]
      rfl
    · rw [if_neg hlt, if_neg (by rw [List.length_cons]; omega)]
      rfl

/-- What `fgets` returns, one piece after the other. -/
def pieces (n : ℕ) (input : List UInt8) : List (List UInt8) :=
  if h : input ≠ [] ∧ 0 < n then
    have := splitLine_lt h.2 h.1
    (splitLine n input).1 :: pieces n (splitLine n input).2
  else []
  termination_by input.length

theorem pieces_nil (n : ℕ) : pieces n [] = [] := by
  rw [pieces, dif_neg (fun h => h.1 rfl)]

theorem pieces_of_ne {n : ℕ} (hn : 0 < n) {input : List UInt8} (h : input ≠ []) :
    pieces n input = (splitLine n input).1 :: pieces n (splitLine n input).2 := by
  rw [pieces, dif_pos ⟨h, hn⟩]

/-! ### Numbers -/

/-- The number of a list of digits. -/
def number (ds : List UInt8) : ℕ := ds.foldl (fun n c => 10 * n + (c.toNat - 48)) 0

/-- The conversion of a `long` to an `int`. -/
def toInt (v : ℤ) : ℤ := if v % 2 ^ 32 < 2 ^ 31 then v % 2 ^ 32 else v % 2 ^ 32 - 2 ^ 32

/-- `strtol` with base 10. -/
def strtol (s : List UInt8) : ℤ :=
  match s.dropWhile isSpace with
  | 45 :: s => max (-2 ^ 63) (-(number (s.takeWhile isDigit)))
  | 43 :: s => min (2 ^ 63 - 1) (number (s.takeWhile isDigit))
  | s => min (2 ^ 63 - 1) (number (s.takeWhile isDigit))

/-- `atoi`. -/
def atoi (s : List UInt8) : ℤ := toInt (strtol s)

theorem toInt_of_lt {v : ℤ} (h0 : -2 ^ 31 ≤ v) (h1 : v < 2 ^ 31) : toInt v = v := by
  unfold toInt
  split_ifs <;> omega

theorem foldl_number (ds : List UInt8) (n : ℕ) :
    ds.foldl (fun n c => 10 * n + (c.toNat - 48)) n = n * 10 ^ ds.length + number ds := by
  unfold number
  induction ds using List.reverseRecOn with
  | nil => simp
  | append_singleton ds d ih =>
    rw [List.foldl_append, List.foldl_append, List.foldl_cons, List.foldl_cons, List.foldl_nil,
      List.foldl_nil, ih, List.length_append, List.length_singleton, pow_succ]
    ring

theorem number_append (ds es : List UInt8) :
    number (ds ++ es) = number ds * 10 ^ es.length + number es := by
  rw [number, List.foldl_append, foldl_number es]
  rfl

theorem number_take_le (k : ℕ) (ds : List UInt8) : number (ds.take k) ≤ number ds := by
  conv_rhs => rw [← List.take_append_drop k ds, number_append]
  have hpow : 1 ≤ 10 ^ (ds.drop k).length := Nat.one_le_pow _ _ (by decide)
  have hmul := Nat.le_mul_of_pos_right (number (ds.take k)) hpow
  omega

/-- Fewer digits make a smaller number. -/
theorem number_take_lt {k : ℕ} {ds : List UInt8} (hk : k < ds.length)
    (hpos : 0 < number (ds.take k)) : number (ds.take k) < number ds := by
  conv_rhs => rw [← List.take_append_drop k ds, number_append]
  have hpow : 2 ≤ 10 ^ (ds.drop k).length := by
    obtain ⟨j, hj⟩ : ∃ j, (ds.drop k).length = j + 1 :=
      ⟨(ds.drop k).length - 1, by rw [List.length_drop]; omega⟩
    have hone : 1 ≤ 10 ^ j := Nat.one_le_pow _ _ (by decide)
    rw [hj, pow_succ]
    omega
  have hmul := Nat.mul_le_mul_left (number (ds.take k)) hpow
  omega

theorem number_pos {c : UInt8} {ds : List UInt8} (hc : isDigit c = true) (h48 : c ≠ 48) :
    0 < number (c :: ds) := by
  have hone : 0 < number [c] := by
    simp only [isDigit, decide_eq_true_eq] at hc
    have hge : 48 ≤ c.toNat := hc.1
    have hne : c.toNat ≠ 48 := fun h => h48 (UInt8.toNat_inj.mp h)
    simp only [number, List.foldl_cons, List.foldl_nil]
    omega
  have htake := number_take_le 1 (c :: ds)
  simp only [List.take_succ_cons, List.take_zero] at htake
  omega

theorem number_lt {ds : List UInt8} (h : ∀ c ∈ ds, isDigit c = true) :
    number ds < 10 ^ ds.length := by
  induction ds using List.reverseRecOn with
  | nil => simp [number]
  | append_singleton ds d ih =>
    have hd := h d (by simp)
    have ih' := ih fun c hc => h c (List.mem_append_left [d] hc)
    have hval : number [d] < 10 := by
      simp only [isDigit, decide_eq_true_eq] at hd
      have hle : d.toNat ≤ 57 := hd.2
      simp only [number, List.foldl_cons, List.foldl_nil]
      omega
    rw [number_append, List.length_append, List.length_singleton, pow_one, pow_succ]
    omega

theorem number_zeros (z : ℕ) (ds : List UInt8) :
    number (List.replicate z 48 ++ ds) = number ds := by
  have hz : number (List.replicate z 48) = 0 := by
    induction z with
    | zero => rfl
    | succ z ih => rw [List.replicate_succ', number_append, ih]; rfl
  rw [number_append, hz, Nat.zero_mul, Nat.zero_add]

theorem takeWhile_digits {ds tail : List UInt8} (hds : ∀ c ∈ ds, isDigit c = true)
    (htail : ∀ c ∈ tail.head?, isDigit c = false) :
    (ds ++ tail).takeWhile isDigit = ds := by
  rw [List.takeWhile_append_of_pos hds]
  cases tail with
  | nil => simp
  | cons c tail => rw [List.takeWhile_cons_of_neg (by simp [htail c rfl]), List.append_nil]

/-- **A numeral is read as its number.** -/
theorem atoi_number {ds tail : List UInt8} (hne : ds ≠ []) (hds : ∀ c ∈ ds, isDigit c = true)
    (htail : ∀ c ∈ tail.head?, isDigit c = false) (hsize : number ds < 2 ^ 63) :
    atoi (ds ++ tail) = toInt (number ds) := by
  obtain ⟨d, ds', rfl⟩ := List.exists_cons_of_ne_nil hne
  have hd := hds d List.mem_cons_self
  simp only [isDigit, decide_eq_true_eq] at hd
  have hspace : isSpace d = false := by
    simp only [isSpace, decide_eq_false_iff_not]
    rintro (rfl | ⟨-, h13⟩)
    · exact absurd hd.1 (by decide)
    · exact absurd (UInt8.le_trans hd.1 h13) (by decide)
  have hdrop : (d :: ds' ++ tail).dropWhile isSpace = d :: ds' ++ tail := by
    rw [List.cons_append, List.dropWhile_cons_of_neg (by simp [hspace])]
  unfold atoi strtol
  rw [hdrop]
  have htake := takeWhile_digits hds htail
  split
  · next h => obtain rfl : d = 45 := (List.cons.inj h).1; exact absurd hd.1 (by decide)
  · next h => obtain rfl : d = 43 := (List.cons.inj h).1; exact absurd hd.1 (by decide)
  · rw [htake]
    congr 1
    omega

/-- The number of a short text is small. -/
theorem atoi_of_length_le {s : List UInt8} (h : s.length ≤ 9) :
    -2 ^ 31 < atoi s ∧ atoi s < 2 ^ 31 := by
  have hnumber : ∀ t : List UInt8, t.length ≤ 9 → number (t.takeWhile isDigit) < 10 ^ 9 := by
    intro t ht
    have hlt : number (t.takeWhile isDigit) < 10 ^ (t.takeWhile isDigit).length :=
      number_lt fun c hc => List.mem_takeWhile_imp hc
    have hle := (List.takeWhile_sublist isDigit (l := t)).length_le
    exact hlt.trans_le (Nat.pow_le_pow_right (by decide) (by omega))
  have hlen : (s.dropWhile isSpace).length ≤ 9 :=
    (List.dropWhile_sublist isSpace).length_le.trans h
  have hsmall : -10 ^ 9 < strtol s ∧ strtol s < 10 ^ 9 := by
    unfold strtol
    split
    · next t heq =>
      rw [heq, List.length_cons] at hlen
      have ht := hnumber t (by omega)
      omega
    · next t heq =>
      rw [heq, List.length_cons] at hlen
      have ht := hnumber t (by omega)
      omega
    · have ht := hnumber _ hlen
      omega
  rw [atoi, toInt_of_lt (by omega) (by omega)]
  omega

end Spawny.Lib.Stdio
