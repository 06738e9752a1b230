import Spawny.Lib.IniPairs

/-! # The beginning of an .ini file

What is read of a file that is written up to some byte. A line that is cut has no newline, and it is
the last one.

* `lines_take`: where the lines of the beginning end;
* `entriesFrom_cutPair`: a pair that is cut is read as its name with the beginning of its value, once
  the separator is there;
* `entriesFrom_cutPairs`: **the beginning of a list of plain pairs**. -/

namespace Spawny.Lib.Ini

/-! ### Lines -/

/-- The last line, without its newline. -/
theorem lines_end : ∀ {s : List UInt8} (room : ℕ), newline ∉ s → s.length ≤ room + 1 → s ≠ [] →
    lines room s = [s]
  | [], _, _, _, hne => absurd rfl hne
  | c :: s, room, hnl, hlen, _ => by
    obtain ⟨hc, hs⟩ := not_or.mp (mt List.mem_cons.mpr hnl)
    rw [List.length_cons] at hlen
    rw [lines]
    cases s with
    | nil =>
      split_ifs
      · rfl
      · rfl
    | cons d s =>
      rw [List.length_cons] at hlen
      have hrest := lines_end (room - 1) hs (by rw [List.length_cons]; omega)
        (List.cons_ne_nil d s)
      rw [if_neg (not_or.mpr ⟨Ne.symm hc, by omega⟩), hrest]

/-- The beginning of a text with a newline: a part of the first line, or this line and the beginning
of the rest. -/
theorem lines_take (room : ℕ) (s rest : List UInt8) (n : ℕ) :
    lines room ((s ++ newline :: rest).take n) =
      if n ≤ s.length then lines room (s.take n)
      else lines room (s ++ [newline]) ++ lines (MAX_CHUNK - 1) (rest.take (n - (s.length + 1))) := by
  split_ifs with hn
  · rw [List.take_append_of_le_length hn]
  · obtain ⟨k, hk⟩ := Nat.exists_eq_add_of_lt (not_le.mp hn)
    obtain rfl : n = s.length + (k + 1) := by omega
    rw [List.take_length_add_append, List.take_succ_cons, lines_append_newline,
      Nat.add_sub_add_left, Nat.add_sub_cancel]

/-! ### A pair -/

theorem PlainValue.rstrip_of_isPrefix {v w : List UInt8} (hv : PlainValue v) (hpre : w <+: v) :
    PlainValue (rstrip w) where
  head := fun c hc => hv.head c (head?_of_isPrefix ((rstrip_isPrefix w).trans hpre) c hc)
  last := last_rstrip w
  comment := (free_iff.mp (hv.free.of_isPrefix ((rstrip_isPrefix w).trans hpre))).2
  newline := fun h => hv.newline (((rstrip_isPrefix w).trans hpre).mem h)
  nul := fun h => hv.nul (((rstrip_isPrefix w).trans hpre).mem h)

/-- A line that is cut in its value. -/
theorem Reader.parseLine_cutValue (r : Reader) {n v w : List UInt8} (hn : PlainName n)
    (hv : PlainValue v) (hpre : w <+: v) :
    r.parseLine (n ++ equals :: w) =
      ({ r with prevName := n.take (MAX_NAME - 1) }, some ⟨r.sect, n, rstrip w⟩) := by
  rw [r.parseLine_name hn.toCleanName fun h => hv.nul (hpre.mem h), hn.rstrip_eq,
    (hv.rstrip_of_isPrefix hpre).valueOf_eq]

/-- A line that is cut in front of its separator is an error. -/
theorem Reader.parseLine_cutName (r : Reader) {n m : List UInt8} (hn : CleanName n)
    (hpre : m <+: n) : r.parseLine m = (r, none) := by
  have hm : CleanName (rstrip m) := hn.of_isPrefix ((rstrip_isPrefix m).trans hpre)
  have htext : rstrip (cstr m) = rstrip m := by
    rw [cstr_of_notMem fun h => hn.nul (hpre.mem h)]
  have hskip : lskip (rstrip m) = rstrip m := lskip_of_head fun c hc => (hm.head c hc).1
  have hpair : r.pairLine (rstrip m) = (r, none) := by
    rw [pairLine, hm.free.findCharsOrComment_eq]
  unfold parseLine
  dsimp only
  rw [htext, hskip]
  have hhead := hm.head
  generalize rstrip m = text at hhead hpair ⊢
  cases text with
  | nil => rfl
  | cons c cs =>
    obtain ⟨-, hsemi, hhash, hopen⟩ := hhead c rfl
    simp only [hsemi, hhash, hopen, or_self, if_false, lt_irrefl, and_false]
    exact hpair

/-- What is read of the first `k` bytes of a pair: nothing, until the separator is there. -/
def cutPair (p : List UInt8 × List UInt8) (k : ℕ) : Option (List UInt8 × List UInt8) :=
  if p.1.length < k then some (p.1, rstrip (p.2.take (k - (p.1.length + 1)))) else none

theorem cutPair_full {p : List UInt8 × List UInt8} (hv : PlainValue p.2) {k : ℕ}
    (hk : p.1.length + 1 + p.2.length ≤ k) : cutPair p k = some p := by
  rw [cutPair, if_pos (by omega), List.take_of_length_le (by omega), rstrip_of_last hv.last]

theorem fst_of_cutPair {p q : List UInt8 × List UInt8} {k : ℕ} (h : cutPair p k = some q) :
    q.1 = p.1 ∧ q.2 = rstrip (p.2.take (k - (p.1.length + 1))) := by
  rw [cutPair, Option.ite_none_right_eq_some] at h
  rw [← Option.some.inj h.2]
  exact ⟨rfl, rfl⟩

/-- **A pair that is cut.** -/
theorem Reader.entriesFrom_cutPair (r : Reader) {p : List UInt8 × List UInt8} (hn : PlainName p.1)
    (hv : PlainValue p.2) (hlen : p.1.length + 1 + p.2.length ≤ MAX_CHUNK) (k : ℕ) :
    r.entriesFrom (lines (MAX_CHUNK - 1) ((p.1 ++ equals :: p.2).take k)) =
      (cutPair p k).toList.map fun q => ⟨r.sect, q.1, q.2⟩ := by
  obtain ⟨n, v⟩ := p
  dsimp only at hn hv hlen ⊢
  have hmax : MAX_CHUNK - 1 + 1 = MAX_CHUNK := rfl
  by_cases hk : n.length < k
  · -- the separator is there
    obtain ⟨j, rfl⟩ : ∃ j, k = n.length + (j + 1) := ⟨k - n.length - 1, by omega⟩
    have htake : (n ++ equals :: v).take (n.length + (j + 1)) = n ++ equals :: v.take j := by
      rw [List.take_length_add_append, List.take_succ_cons]
    have hpre := List.take_prefix j v
    have hnl : newline ∉ n ++ equals :: v.take j := by
      rw [List.mem_append, List.mem_cons]
      exact not_or.mpr ⟨hn.newline, not_or.mpr ⟨by decide, fun h => hv.newline (hpre.mem h)⟩⟩
    have hfits : (n ++ equals :: v.take j).length ≤ MAX_CHUNK - 1 + 1 := by
      have := hpre.length_le
      rw [List.length_append, List.length_cons, hmax]
      omega
    have hcut : cutPair (n, v) (n.length + (j + 1)) = some (n, rstrip (v.take j)) := by
      rw [cutPair, if_pos hk, Nat.add_sub_add_left, Nat.add_sub_cancel]
    rw [htake, lines_end _ hnl hfits (by simp), entriesFrom, r.parseLine_cutValue hn hv hpre, hcut]
    rfl
  · have hpre := List.take_prefix k n
    rw [cutPair, if_neg hk, List.take_append_of_le_length (not_lt.mp hk)]
    rcases eq_or_ne (n.take k) [] with hnil | hne
    · rw [hnil]
      rfl
    · have hfits : (n.take k).length ≤ MAX_CHUNK - 1 + 1 := by
        have := hpre.length_le
        rw [hmax]
        omega
      rw [lines_end _ (fun h => hn.newline (hpre.mem h)) hfits hne, entriesFrom,
        r.parseLine_cutName hn.toCleanName hpre]
      rfl

/-! ### A list of pairs -/

/-- What is read of the first `k` bytes of the pairs. -/
def cutPairs : List (List UInt8 × List UInt8) → ℕ → List (List UInt8 × List UInt8)
  | [], _ => []
  | p :: ps, k => (cutPair p k).toList ++ cutPairs ps (k - (pairText p.1 p.2).length)

theorem length_pairText (n v : List UInt8) : (pairText n v).length = n.length + 1 + v.length + 1 := by
  simp only [pairText, List.length_append, List.length_cons, List.length_nil]
  omega

theorem cutPairs_zero : ∀ ps : List (List UInt8 × List UInt8), cutPairs ps 0 = []
  | [] => rfl
  | p :: ps => by
    rw [cutPairs, cutPair, if_neg (Nat.not_lt_zero _), Nat.zero_sub, cutPairs_zero ps]
    rfl

/-- **The beginning of plain pairs.** -/
theorem Reader.entriesFrom_cutPairs : ∀ {ps : List (List UInt8 × List UInt8)} (r : Reader),
    (∀ p ∈ ps, PlainName p.1 ∧ PlainValue p.2 ∧ p.1.length + 1 + p.2.length ≤ MAX_CHUNK) → ∀ k,
      r.entriesFrom (lines (MAX_CHUNK - 1) ((ps.flatMap fun p => pairText p.1 p.2).take k)) =
        (cutPairs ps k).map fun q => ⟨r.sect, q.1, q.2⟩
  | [], r, _, k => by
    rw [List.flatMap_nil, List.take_nil]
    rfl
  | p :: ps, r, h, k => by
    obtain ⟨hn, hv, hlen⟩ := h p List.mem_cons_self
    have hrest := fun q hq => h q (List.mem_cons_of_mem _ hq)
    have hsplit : (p :: ps).flatMap (fun p => pairText p.1 p.2) =
        (p.1 ++ equals :: p.2) ++ newline :: ps.flatMap fun p => pairText p.1 p.2 := by
      simp [pairText]
    have hcount : (p.1 ++ equals :: p.2).length = p.1.length + 1 + p.2.length := by
      rw [List.length_append, List.length_cons]
      omega
    rw [hsplit, lines_take, hcount, cutPairs, length_pairText]
    split_ifs with hk
    · -- the pair is cut
      have hzero : k - (p.1.length + 1 + p.2.length + 1) = 0 := by omega
      rw [hzero, cutPairs_zero, List.append_nil, r.entriesFrom_cutPair hn hv hlen]
    · have hline : (p.1 ++ equals :: p.2) ++ [newline] = pairText p.1 p.2 := by simp [pairText]
      obtain ⟨hfirst, hnext⟩ := r.entriesFrom_plain hn hv hlen
      rw [hline, entriesFrom_append, hfirst, hnext, entriesFrom_cutPairs _ hrest,
        cutPair_full hv (by omega)]
      rfl

theorem cutPairs_full : ∀ {ps : List (List UInt8 × List UInt8)} {k : ℕ},
    (∀ p ∈ ps, PlainValue p.2) → (ps.flatMap fun p => pairText p.1 p.2).length ≤ k + 1 →
      cutPairs ps k = ps
  | [], _, _, _ => rfl
  | p :: ps, k, h, hk => by
    rw [List.flatMap_cons, List.length_append, length_pairText] at hk
    rw [cutPairs, length_pairText, cutPair_full (h p List.mem_cons_self) (by omega)]
    cases ps with
    | nil => rfl
    | cons q ps =>
      have hpos : 0 < ((q :: ps).flatMap fun p => pairText p.1 p.2).length := by
        rw [List.flatMap_cons, List.length_append, length_pairText]
        omega
      rw [cutPairs_full (fun p hp => h p (List.mem_cons_of_mem _ hp)) (by omega)]
      rfl

/-- What is read is a beginning: the first pairs, and perhaps one more, whose value is cut. -/
theorem cutPairs_eq : ∀ {ps : List (List UInt8 × List UInt8)} (k : ℕ),
    (∀ p ∈ ps, PlainValue p.2) → ∃ whole cut, cutPairs ps k = whole ++ cut ∧ whole <+: ps ∧
      ∀ q ∈ cut, cut = [q] ∧ ∃ p ∈ ps[whole.length]?, q.1 = p.1 ∧ q.2 <+: p.2
  | [], k, _ => ⟨[], [], rfl, List.prefix_refl _, fun _ hq => (List.not_mem_nil hq).elim⟩
  | p :: ps, k, h => by
    rw [cutPairs, length_pairText]
    rcases Nat.lt_or_ge k (p.1.length + 1 + p.2.length) with hk | hk
    · have hzero : k - (p.1.length + 1 + p.2.length + 1) = 0 := by omega
      rw [hzero, cutPairs_zero, List.append_nil]
      refine ⟨[], (cutPair p k).toList, rfl, List.nil_prefix, fun q hq => ?_⟩
      have hcut := Option.mem_toList.mp hq
      rw [cutPair, Option.ite_none_right_eq_some] at hcut
      refine ⟨?_, p, rfl, ?_⟩
      · rw [cutPair, if_pos hcut.1, hcut.2]
        rfl
      · rw [← Option.some.inj hcut.2]
        exact ⟨rfl, (rstrip_isPrefix _).trans (List.take_prefix _ _)⟩
    · obtain ⟨whole, cut, hps, hwhole, hcut⟩ :=
        cutPairs_eq (k - (p.1.length + 1 + p.2.length + 1)) fun q hq => h q (List.mem_cons_of_mem _ hq)
      refine ⟨p :: whole, cut, ?_, ?_, hcut⟩
      · rw [cutPair_full (h p List.mem_cons_self) hk, hps]
        rfl
      · exact List.prefix_cons_inj p |>.mpr hwhole

end Spawny.Lib.Ini
