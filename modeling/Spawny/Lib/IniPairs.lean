import Spawny.Lib.Ini

/-! # Names and values in an .ini file

Which `name=value` lines are read back as they were written, and what the names and values that are
read look like.

* `parseLine_name`: a line that begins with a name and `=` is read as this name with some value;
* `parseLine_pair`: **a plain name and a plain value are read back**;
* `entries_clean`: **every entry that is read, from whatever file, has a clean name, a plain value
  and a size that fits.** -/

namespace Spawny.Lib.Ini

/-! ### Clean names, plain values -/

/-- What can stand in front of the separator; it may still end with a blank. -/
structure CleanName (n : List UInt8) : Prop where
  head : ∀ c ∈ n.head?, isspace c = false ∧ c ≠ semicolon ∧ c ≠ hash ∧ c ≠ opening
  separator : equals ∉ n ∧ colon ∉ n
  comment : NoInlineComment n
  newline : newline ∉ n
  nul : 0 ∉ n

/-- A name that is read back. -/
structure PlainName (n : List UInt8) : Prop extends CleanName n where
  last : ∀ c ∈ n.getLast?, isspace c = false

/-- A value that is read back. -/
structure PlainValue (v : List UInt8) : Prop extends Trimmed v where
  comment : NoInlineComment v
  newline : newline ∉ v
  nul : 0 ∉ v

instance (n : List UInt8) : Decidable (PlainName n) :=
  have (o : Option UInt8) : Decidable (∀ c ∈ o, isspace c = false) := Option.decidableForallMem o
  have (o : Option UInt8) : Decidable (∀ c ∈ o, isspace c = false ∧ c ≠ semicolon ∧ c ≠ hash ∧
      c ≠ opening) := Option.decidableForallMem o
  decidable_of_iff ((∀ c ∈ n.head?, isspace c = false ∧ c ≠ semicolon ∧ c ≠ hash ∧ c ≠ opening) ∧
      (equals ∉ n ∧ colon ∉ n) ∧ NoInlineComment n ∧ newline ∉ n ∧ 0 ∉ n ∧
      ∀ c ∈ n.getLast?, isspace c = false)
    ⟨fun ⟨h₁, h₂, h₃, h₄, h₅, h₆⟩ => ⟨⟨h₁, h₂, h₃, h₄, h₅⟩, h₆⟩,
      fun ⟨⟨h₁, h₂, h₃, h₄, h₅⟩, h₆⟩ => ⟨h₁, h₂, h₃, h₄, h₅, h₆⟩⟩

instance (v : List UInt8) : Decidable (PlainValue v) :=
  decidable_of_iff (Trimmed v ∧ NoInlineComment v ∧ newline ∉ v ∧ 0 ∉ v)
    ⟨fun ⟨h₁, h₂, h₃, h₄⟩ => ⟨h₁, h₂, h₃, h₄⟩, fun ⟨h₁, h₂, h₃, h₄⟩ => ⟨h₁, h₂, h₃, h₄⟩⟩

theorem CleanName.free {n : List UInt8} (h : CleanName n) : Free [equals, colon] false n := by
  refine free_iff.mpr ⟨fun c hc hmem => ?_, h.comment⟩
  rcases List.mem_pair.mp hmem with rfl | rfl
  · exact h.separator.1 hc
  · exact h.separator.2 hc

theorem PlainValue.free {v : List UInt8} (h : PlainValue v) : Free [] false v :=
  free_iff.mpr ⟨fun _ _ => List.not_mem_nil, h.comment⟩

theorem CleanName.of_isPrefix {m n : List UInt8} (h : CleanName n) (hpre : m <+: n) :
    CleanName m where
  head := fun c hc => h.head c (head?_of_isPrefix hpre c hc)
  separator := ⟨fun hm => h.separator.1 (hpre.mem hm), fun hm => h.separator.2 (hpre.mem hm)⟩
  comment := (free_iff.mp (h.free.of_isPrefix hpre)).2
  newline := fun hm => h.newline (hpre.mem hm)
  nul := fun hm => h.nul (hpre.mem hm)

theorem CleanName.plain_rstrip {n : List UInt8} (h : CleanName n) : PlainName (rstrip n) where
  toCleanName := h.of_isPrefix (rstrip_isPrefix n)
  last := last_rstrip n

theorem PlainName.rstrip_eq {n : List UInt8} (h : PlainName n) : rstrip n = n :=
  rstrip_of_last h.last

theorem PlainValue.valueOf_eq {v : List UInt8} (h : PlainValue v) : valueOf v = v := by
  rw [valueOf, h.free.findCharsOrComment_eq, h.toTrimmed.eq]

/-- What is cut out of a clean text is a plain value. -/
theorem plainValue_valueOf {raw : List UInt8} (hnl : newline ∉ raw) (hnul : 0 ∉ raw) :
    PlainValue (valueOf raw) where
  toTrimmed := trimmed_rstrip_lskip _
  comment := by
    have hfree := findCharsOrComment_free [] false raw
    exact (free_iff.mp ((hfree.of_suffix (lskip_suffix _)).of_isPrefix (rstrip_isPrefix _))).2
  newline := fun h => hnl (mem_of_mem_valueOf h)
  nul := fun h => hnul (mem_of_mem_valueOf h)
where
  mem_of_mem_valueOf {c : UInt8} (h : c ∈ valueOf raw) : c ∈ raw := by
    have hmem := (lskip_suffix _).mem ((rstrip_isPrefix _).mem h)
    rw [← findCharsOrComment_eq [] false raw]
    exact List.mem_append_left _ hmem

theorem length_valueOf_le (raw : List UInt8) : (valueOf raw).length ≤ raw.length := by
  have hsplit := congrArg List.length (findCharsOrComment_eq [] false raw)
  rw [List.length_append] at hsplit
  have h₁ := (rstrip_isPrefix (lskip (findCharsOrComment [] false raw).1)).length_le
  have h₂ := (lskip_suffix (findCharsOrComment [] false raw).1).length_le
  rw [valueOf]
  omega

/-! ### Writing and reading -/

theorem cstr_of_notMem {s : List UInt8} (h : 0 ∉ s) : cstr s = s :=
  List.takeWhile_eq_self_iff.mpr fun c hc => by
    have hc0 : c ≠ 0 := fun hc0 => h (by rwa [hc0] at hc)
    simpa using hc0

/-- **A line that begins with a name.** -/
theorem Reader.parseLine_name (r : Reader) {n raw : List UInt8} (hn : CleanName n)
    (hraw : 0 ∉ raw) :
    r.parseLine (n ++ equals :: raw) =
      ({ r with prevName := (rstrip n).take (MAX_NAME - 1) },
        some ⟨r.sect, rstrip n, valueOf (rstrip raw)⟩) := by
  have hnul : 0 ∉ n ++ equals :: raw := by
    rw [List.mem_append, List.mem_cons]
    exact not_or.mpr ⟨hn.nul, not_or.mpr ⟨by decide, hraw⟩⟩
  have htext : rstrip (cstr (n ++ equals :: raw)) = n ++ equals :: rstrip raw := by
    rw [cstr_of_notMem hnul, rstrip_append_cons n (by decide)]
  have hpair : r.pairLine (n ++ equals :: rstrip raw) =
      ({ r with prevName := (rstrip n).take (MAX_NAME - 1) },
        some ⟨r.sect, rstrip n, valueOf (rstrip raw)⟩) := by
    rw [pairLine, findCharsOrComment_append (by decide) _ hn.free]
    rfl
  have hhead : ∀ c ∈ (n ++ equals :: rstrip raw).head?,
      isspace c = false ∧ c ≠ semicolon ∧ c ≠ hash ∧ c ≠ opening := by
    intro c hc
    cases n with
    | nil =>
      obtain rfl : equals = c := Option.some.inj hc
      decide
    | cons d n => exact hn.head c hc
  have hskip := lskip_of_head fun c hc => (hhead c hc).1
  unfold parseLine
  dsimp only
  rw [htext, hskip]
  obtain ⟨c, cs, hcs⟩ := List.exists_cons_of_ne_nil
    (List.append_ne_nil_of_right_ne_nil n (List.cons_ne_nil equals (rstrip raw)))
  rw [hcs] at hhead hpair ⊢
  obtain ⟨-, hsemi, hhash, hopen⟩ := hhead c rfl
  simp only [hsemi, hhash, hopen, or_self, if_false, lt_irrefl, and_false]
  exact hpair

/-- **A plain pair is read back.** -/
theorem Reader.parseLine_pair (r : Reader) {n v : List UInt8} (hn : PlainName n)
    (hv : PlainValue v) :
    r.parseLine (n ++ equals :: v) =
        ({ r with prevName := n.take (MAX_NAME - 1) }, some ⟨r.sect, n, v⟩) ∧
      r.parseLine (n ++ equals :: (v ++ [newline])) =
        ({ r with prevName := n.take (MAX_NAME - 1) }, some ⟨r.sect, n, v⟩) := by
  have hv' : 0 ∉ v ++ [Ini.newline] := by
    rw [List.mem_append]
    exact not_or.mpr ⟨hv.nul, by decide⟩
  refine ⟨?_, ?_⟩
  · rw [r.parseLine_name hn.toCleanName hv.nul, hn.rstrip_eq, rstrip_of_last hv.last, hv.valueOf_eq]
  · rw [r.parseLine_name hn.toCleanName hv', rstrip_concat_newline, hn.rstrip_eq,
      rstrip_of_last hv.last, hv.valueOf_eq]

/-! ### What is read -/

/-- What is true of the text in the buffer, without the newline. -/
structure CleanText (text : List UInt8) : Prop where
  newline : newline ∉ text
  nul : 0 ∉ text

theorem cleanText_rstrip_cstr {l s : List UInt8} (hnl : newline ∉ s)
    (hl : l = s ∨ l = s ++ [newline]) : CleanText (rstrip (cstr l)) where
  newline := by
    intro h
    rcases hl with rfl | rfl
    · exact hnl ((List.takeWhile_prefix _).mem ((rstrip_isPrefix _).mem h))
    · by_cases hnul : 0 ∈ s
      · rw [cstr, List.takeWhile_append, if_neg] at h
        · exact hnl ((List.takeWhile_prefix _).mem ((rstrip_isPrefix _).mem h))
        · intro hlen
          have hall := List.takeWhile_eq_self_iff.mp
            ((List.takeWhile_prefix (· ≠ (0 : UInt8))).eq_of_length hlen)
          exact absurd (hall 0 hnul) (by simp)
      · have hnul' : 0 ∉ s ++ [Ini.newline] := by
          rw [List.mem_append]
          exact not_or.mpr ⟨hnul, by decide⟩
        rw [cstr_of_notMem hnul', rstrip_concat_newline] at h
        exact hnl ((rstrip_isPrefix _).mem h)
  nul := fun h => absurd (List.mem_takeWhile_imp ((rstrip_isPrefix _).mem h)) (by simp)

theorem CleanText.of_mem {s t : List UInt8} (h : CleanText t) (hmem : ∀ c ∈ s, c ∈ t) :
    CleanText s :=
  ⟨fun hs => h.newline (hmem _ hs), fun hs => h.nul (hmem _ hs)⟩

/-- An entry with the bytes of a line of at most `len` bytes, or of a continuation of at most
`len`. -/
structure CleanEntry (len : ℕ) (e : Entry) : Prop where
  name : CleanName e.name
  value : PlainValue e.value
  size : e.name.length + 1 + e.value.length ≤ len ∨
    e.name.length < MAX_NAME ∧ e.value.length < len

/-- The last name is one that has been read, cut to the size of the array. -/
structure CleanReader (r : Reader) : Prop where
  name : CleanName r.prevName
  size : r.prevName.length < MAX_NAME

theorem CleanName.nil : CleanName [] where
  head := fun _ h => (Option.not_mem_none _ h).elim
  separator := ⟨List.not_mem_nil, List.not_mem_nil⟩
  comment := List.IsChain.nil
  newline := List.not_mem_nil
  nul := List.not_mem_nil

theorem Reader.pairLine_clean {r : Reader} {start : List UInt8} (hr : CleanReader r)
    (htext : CleanText start)
    (hhead : ∀ c ∈ start.head?, isspace c = false ∧ c ≠ semicolon ∧ c ≠ hash ∧ c ≠ opening) :
    CleanReader (r.pairLine start).1 ∧ ∀ e ∈ (r.pairLine start).2, CleanEntry start.length e := by
  have hsplit := findCharsOrComment_eq [equals, colon] false start
  have hfree := findCharsOrComment_free [equals, colon] false start
  unfold pairLine
  dsimp only
  generalize findCharsOrComment [equals, colon] false start = found at *
  have hname : CleanName found.1 := by
    have hpre : found.1 <+: start := ⟨found.2, hsplit⟩
    have hall := (free_iff.mp hfree).1
    exact ⟨fun c hc => hhead c (head?_of_isPrefix hpre c hc),
      ⟨fun h => hall _ h (by decide), fun h => hall _ h (by decide)⟩, (free_iff.mp hfree).2,
      fun h => htext.newline (hpre.mem h), fun h => htext.nul (hpre.mem h)⟩
  obtain ⟨n, rest⟩ := found
  cases rest with
  | nil => exact ⟨hr, fun _ h => (Option.not_mem_none _ h).elim⟩
  | cons sep raw =>
    dsimp only at hsplit hname ⊢
    split_ifs
    · have hlast := hname.plain_rstrip.toCleanName
      have hraw : CleanText raw := htext.of_mem fun c hc => by
        rw [← hsplit]
        exact List.mem_append_right _ (List.mem_cons_of_mem _ hc)
      refine ⟨⟨hlast.of_isPrefix (List.take_prefix _ _), ?_⟩, fun e he => ?_⟩
      · exact (List.length_take_le _ _).trans_lt (by decide)
      · obtain rfl := Option.some.inj he
        refine ⟨hlast, plainValue_valueOf hraw.newline hraw.nul, Or.inl ?_⟩
        have h₁ := (rstrip_isPrefix n).length_le
        have h₂ := length_valueOf_le raw
        rw [← hsplit, List.length_append, List.length_cons]
        dsimp only
        omega
    · exact ⟨hr, fun _ h => (Option.not_mem_none _ h).elim⟩

theorem Reader.parseLine_clean {r : Reader} {l s : List UInt8} (hr : CleanReader r)
    (hnl : newline ∉ s) (hl : l = s ∨ l = s ++ [newline]) :
    CleanReader (r.parseLine l).1 ∧ ∀ e ∈ (r.parseLine l).2, CleanEntry l.length e := by
  have htext := cleanText_rstrip_cstr hnl hl
  have hlen : (rstrip (cstr l)).length ≤ l.length :=
    (rstrip_isPrefix _).length_le.trans (List.takeWhile_prefix _).length_le
  have hstart := htext.of_mem fun c hc => (lskip_suffix (rstrip (cstr l))).mem hc
  have hskip := (lskip_suffix (rstrip (cstr l))).length_le
  have hblank := head_lskip (rstrip (cstr l))
  have hnone : ∀ {r' : Reader}, CleanReader r' →
      CleanReader r' ∧ ∀ e ∈ (none : Option Entry), CleanEntry l.length e :=
    fun h => ⟨h, fun _ he => (Option.not_mem_none _ he).elim⟩
  unfold parseLine
  dsimp only
  generalize lskip (rstrip (cstr l)) = start at *
  cases start with
  | nil => exact hnone hr
  | cons c cs =>
    dsimp only
    split_ifs with hcomment hcont hopen
    · exact hnone hr
    · refine ⟨hr, fun e he => ?_⟩
      obtain rfl := Option.some.inj he
      have hvalue : rstrip (findCharsOrComment [] false (c :: cs)).1 = valueOf (c :: cs) := by
        rw [valueOf, lskip_of_head]
        have hpre : (findCharsOrComment [] false (c :: cs)).1 <+: c :: cs :=
          ⟨_, findCharsOrComment_eq [] false (c :: cs)⟩
        exact fun d hd => hblank d (head?_of_isPrefix hpre d hd)
      rw [hvalue]
      refine ⟨hr.name, plainValue_valueOf hstart.newline hstart.nul, Or.inr ⟨hr.size, ?_⟩⟩
      have := length_valueOf_le (c :: cs)
      dsimp only
      omega
    · unfold sectionLine
      split_ifs
      · exact hnone ⟨CleanName.nil, Nat.zero_lt_succ _⟩
      · exact hnone hr
    · have hhead : ∀ d ∈ (c :: cs).head?,
          isspace d = false ∧ d ≠ semicolon ∧ d ≠ hash ∧ d ≠ opening := by
        intro d hd
        obtain rfl : c = d := Option.some.inj hd
        exact ⟨hblank c rfl, (not_or.mp hcomment).1, (not_or.mp hcomment).2, hopen⟩
      obtain ⟨hr', he⟩ := r.pairLine_clean hr hstart hhead
      refine ⟨hr', fun e hmem => ⟨(he e hmem).name, (he e hmem).value, ?_⟩⟩
      have := (he e hmem).size
      omega

/-- Lines as `fgets` returns them, of at most `len` bytes. -/
def CleanLines (len : ℕ) (ls : List (List UInt8)) : Prop :=
  ∀ l ∈ ls, l.length ≤ len ∧ ∃ s, newline ∉ s ∧ (l = s ∨ l = s ++ [newline])

/-- **What is read is clean.** -/
theorem Reader.entriesFrom_clean {len : ℕ} : ∀ {ls : List (List UInt8)} {r : Reader},
    CleanReader r → CleanLines len ls → ∀ e ∈ r.entriesFrom ls, CleanEntry len e
  | [], _, _, _, _, he => (List.not_mem_nil he).elim
  | l :: ls, r, hr, hls, e, he => by
    obtain ⟨hlen, s, hnl, hl⟩ := hls l List.mem_cons_self
    obtain ⟨hr', hentry⟩ := r.parseLine_clean hr hnl hl
    rcases List.mem_append.mp he with he | he
    · have hclean := hentry e (Option.mem_toList.mp he)
      refine ⟨hclean.name, hclean.value, ?_⟩
      have := hclean.size
      omega
    · exact entriesFrom_clean hr' (fun l' hl' => hls l' (List.mem_cons_of_mem _ hl')) e he

theorem cleanLines_lines (bs : List UInt8) : CleanLines MAX_CHUNK (lines (MAX_CHUNK - 1) bs) :=
  fun l hl => mem_lines bs _ l hl (by decide)

theorem cleanLines_length (bs : List UInt8) : CleanLines bs.length (lines (MAX_CHUNK - 1) bs) := by
  intro l hl
  refine ⟨?_, (cleanLines_lines bs l hl).2⟩
  conv_rhs => rw [← flatten_lines bs (MAX_CHUNK - 1)]
  exact (List.sublist_flatten_of_mem hl).length_le

theorem CleanLines.skipBom {len : ℕ} {ls : List (List UInt8)} (h : CleanLines len ls) :
    CleanLines len (skipBom ls) := by
  unfold Ini.skipBom
  split
  · rename_i l ls
    intro l' hl'
    rcases List.mem_cons.mp hl' with rfl | hl'
    · obtain ⟨hlen, s, hnl, hs⟩ := h _ List.mem_cons_self
      refine ⟨by simp only [List.length_cons] at hlen; omega, ?_⟩
      rcases hs with rfl | hs
      · exact ⟨l', fun hmem => hnl (by simp [hmem]), Or.inl rfl⟩
      · match s, hs with
        | a :: b :: c :: s, hs =>
          simp only [List.cons_append, List.cons.injEq] at hs
          exact ⟨s, fun hmem => hnl (by simp [hmem]), Or.inr hs.2.2.2⟩
    · exact h l' (List.mem_cons_of_mem _ hl')
  · exact h

theorem entries_clean (file : List UInt8) : ∀ e ∈ entries file, CleanEntry MAX_CHUNK e :=
  Reader.entriesFrom_clean ⟨CleanName.nil, by decide⟩ (cleanLines_lines file).skipBom

theorem Reader.after_clean {len : ℕ} : ∀ {ls : List (List UInt8)} {r : Reader},
    CleanReader r → CleanLines len ls → CleanReader (r.after ls)
  | [], _, hr, _ => hr
  | l :: ls, r, hr, hls => by
    obtain ⟨-, s, hnl, hl⟩ := hls l List.mem_cons_self
    exact after_clean (r := (r.parseLine l).1) (r.parseLine_clean hr hnl hl).1
      fun l' hl' => hls l' (List.mem_cons_of_mem _ hl')

/-! ### A pair in a file -/

/-- The line of a pair. -/
def pairText (n v : List UInt8) : List UInt8 := n ++ equals :: (v ++ [newline])

/-- The first part of the line of a pair has the name and the separator. -/
theorem lines_pairText {n v : List UInt8} (hn : newline ∉ n) (hv : newline ∉ v)
    (hlen : n.length < MAX_CHUNK) :
    ∃ raw ls, lines (MAX_CHUNK - 1) (pairText n v) = (n ++ equals :: raw) :: ls ∧
      raw <+: v ++ [newline] ∧ n.length + 1 + raw.length ≤ MAX_CHUNK ∧
      CleanLines (n.length + 1 + v.length + 1 - MAX_CHUNK) ls := by
  have hmax : MAX_CHUNK = 199 := rfl
  have hnl : newline ∉ n ++ equals :: v := by
    rw [List.mem_append, List.mem_cons]
    exact not_or.mpr ⟨hn, not_or.mpr ⟨by decide, hv⟩⟩
  have htext : pairText n v = (n ++ equals :: v) ++ newline :: [] := by simp [pairText]
  have hcount : (n ++ equals :: v).length = n.length + 1 + v.length := by
    rw [List.length_append, List.length_cons]
    omega
  rw [htext]
  by_cases hfits : (n ++ equals :: v).length ≤ MAX_CHUNK - 1
  · refine ⟨v ++ [newline], [], ?_, List.prefix_rfl, ?_, fun l hl => (List.not_mem_nil hl).elim⟩
    · rw [lines_short _ _ _ hnl hfits, lines]
      simp
    · rw [List.length_append, List.length_singleton]
      omega
  · have hcut := lines_long _ (MAX_CHUNK - 1) [] hnl (not_le.mp hfits)
    have htake : (n ++ equals :: v).take (MAX_CHUNK - 1 + 1) =
        n ++ equals :: v.take (MAX_CHUNK - 1 - n.length) := by
      rw [List.take_append, List.take_of_length_le (by omega)]
      obtain ⟨k, hk⟩ := Nat.exists_eq_add_of_lt hlen
      rw [show MAX_CHUNK - 1 + 1 - n.length = k + 1 by omega,
        show MAX_CHUNK - 1 - n.length = k by omega, List.take_succ_cons]
    refine ⟨v.take (MAX_CHUNK - 1 - n.length), _, hcut.trans (congrArg (· :: _) htake),
      (List.take_prefix _ v).trans (List.prefix_append v _), ?_, ?_⟩
    · have := List.length_take_le (MAX_CHUNK - 1 - n.length) v
      omega
    · have hclean := cleanLines_length ((n ++ equals :: v).drop (MAX_CHUNK - 1 + 1) ++ [newline])
      rw [List.length_append, List.length_drop, List.length_singleton, hcount] at hclean
      intro l hl
      obtain ⟨hlen', hs⟩ := hclean l hl
      exact ⟨by omega, hs⟩

/-- **What is read in the line of a pair**: first the name with some value, and then only short
values. -/
theorem Reader.entriesFrom_pairText {r : Reader} (hr : CleanReader r) {n v : List UInt8}
    (hn : CleanName n) (hv : PlainValue v) (hlen : n.length < MAX_CHUNK) :
    ∃ w es, r.entriesFrom (lines (MAX_CHUNK - 1) (pairText n v)) = ⟨r.sect, rstrip n, w⟩ :: es ∧
      n.length + 1 + w.length ≤ MAX_CHUNK ∧
      ∀ e ∈ es, e.value.length + MAX_CHUNK ≤ n.length + 1 + v.length := by
  obtain ⟨raw, ls, hlines, hpre, hraw, hls⟩ := lines_pairText hn.newline hv.newline hlen
  have hnul : 0 ∉ raw := by
    intro h
    rcases List.mem_append.mp (hpre.mem h) with h | h
    · exact hv.nul h
    · exact absurd (List.mem_singleton.mp h) (by decide)
  have hnl : ∃ s, Ini.newline ∉ s ∧
      (n ++ equals :: raw = s ∨ n ++ equals :: raw = s ++ [Ini.newline]) :=
    (cleanLines_lines (pairText n v) _ (hlines ▸ List.mem_cons_self)).2
  obtain ⟨s, hs, hsplit⟩ := hnl
  have hnext := (r.parseLine_clean hr hs hsplit).1
  rw [hlines, entriesFrom, r.parseLine_name hn hnul] at *
  refine ⟨valueOf (rstrip raw), _, rfl, ?_, fun e he => ?_⟩
  · have h₁ := length_valueOf_le (rstrip raw)
    have h₂ := (rstrip_isPrefix raw).length_le
    omega
  · have hsize := (entriesFrom_clean hnext hls e he).size
    omega

/-- **A plain pair in a file.** -/
theorem Reader.entriesFrom_plain (r : Reader) {n v : List UInt8} (hn : PlainName n)
    (hv : PlainValue v) (hlen : n.length + 1 + v.length ≤ MAX_CHUNK) :
    r.entriesFrom (lines (MAX_CHUNK - 1) (pairText n v)) = [⟨r.sect, n, v⟩] ∧
      r.after (lines (MAX_CHUNK - 1) (pairText n v)) =
        { r with prevName := n.take (MAX_NAME - 1) } := by
  have hnl : Ini.newline ∉ n ++ equals :: v := by
    rw [List.mem_append, List.mem_cons]
    exact not_or.mpr ⟨hn.newline, not_or.mpr ⟨by decide, hv.newline⟩⟩
  have htext : pairText n v = (n ++ equals :: v) ++ Ini.newline :: [] := by simp [pairText]
  have hcount : (n ++ equals :: v).length = n.length + 1 + v.length := by
    rw [List.length_append, List.length_cons]
    omega
  obtain ⟨hwhole, hline⟩ := r.parseLine_pair hn hv
  rw [htext]
  by_cases hfits : (n ++ equals :: v).length ≤ MAX_CHUNK - 1
  · have hone : lines (MAX_CHUNK - 1) ((n ++ equals :: v) ++ Ini.newline :: []) =
        [n ++ equals :: (v ++ [Ini.newline])] := by
      rw [lines_short _ _ _ hnl hfits, lines]
      simp
    rw [hone, entriesFrom, hline, after, List.foldl_cons, hline]
    exact ⟨rfl, rfl⟩
  · -- the newline alone does not fit any more
    have htwo : lines (MAX_CHUNK - 1) ((n ++ equals :: v) ++ Ini.newline :: []) =
        [n ++ equals :: v, [Ini.newline]] := by
      rw [lines_long _ _ _ hnl (not_le.mp hfits), List.take_of_length_le (by omega),
        List.drop_of_length_le (by omega)]
      rfl
    rw [htwo, entriesFrom, hwhole, after, List.foldl_cons, hwhole]
    exact ⟨rfl, rfl⟩

/-- A `[section]` line. -/
theorem Reader.entriesFrom_section (r : Reader) {s : List UInt8} (hs : Free [closing] false s)
    (hnul : 0 ∉ s) (hnl : newline ∉ s) (hlen : s.length + 2 < MAX_CHUNK) :
    r.entriesFrom (lines (MAX_CHUNK - 1) (opening :: (s ++ [closing]) ++ [newline])) = [] ∧
      r.after (lines (MAX_CHUNK - 1) (opening :: (s ++ [closing]) ++ [newline])) =
        ⟨s.take (MAX_SECTION - 1), []⟩ := by
  have hnl' : Ini.newline ∉ opening :: (s ++ [closing]) := by
    rw [List.mem_cons, List.mem_append]
    exact not_or.mpr ⟨by decide, not_or.mpr ⟨hnl, by decide⟩⟩
  have hone : lines (MAX_CHUNK - 1) (opening :: (s ++ [closing]) ++ [newline]) =
      [opening :: (s ++ [closing]) ++ [newline]] := by
    refine (lines_short _ _ [] hnl' ?_).trans rfl
    rw [List.length_cons, List.length_append, List.length_singleton]
    omega
  have hcstr : 0 ∉ opening :: (s ++ [closing]) ++ [newline] := by
    rw [List.mem_append, List.mem_cons, List.mem_append]
    exact not_or.mpr ⟨not_or.mpr ⟨by decide, not_or.mpr ⟨hnul, by decide⟩⟩, by decide⟩
  have htext : rstrip (cstr (opening :: (s ++ [closing]) ++ [newline])) =
      opening :: (s ++ [closing]) := by
    rw [cstr_of_notMem hcstr, rstrip_concat_newline]
    exact rstrip_append_cons (opening :: s) (c := closing) (by decide) []
  have hline : r.parseLine (opening :: (s ++ [closing]) ++ [newline]) =
      (⟨s.take (MAX_SECTION - 1), []⟩, none) := by
    have hskip : lskip (opening :: (s ++ [closing])) = opening :: (s ++ [closing]) := rfl
    have hsection : r.sectionLine (s ++ [closing]) = (⟨s.take (MAX_SECTION - 1), []⟩, none) := by
      rw [sectionLine, findCharsOrComment_append (by decide) [] hs]
      rfl
    have hcomment : ¬(opening = semicolon ∨ opening = hash) := by decide
    unfold parseLine
    dsimp only
    rw [htext, hskip]
    simp only [hcomment, lt_irrefl, and_false, if_false, if_true]
    exact hsection
  rw [hone, entriesFrom, hline, after, List.foldl_cons, hline]
  exact ⟨rfl, rfl⟩

end Spawny.Lib.Ini
