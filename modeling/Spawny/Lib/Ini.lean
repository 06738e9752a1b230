import Mathlib.Data.List.DropRight
import Mathlib.Data.List.Chain
import Mathlib.Tactic.Common

/-! # Reading an .ini file

The reader of inih r40 with its default options, over bytes: `fgets` into a buffer of `INI_MAX_LINE`
bytes, `[section]` lines, names that end at the first `=` or `:`, `#` and `;` at the start of a
line, `;` behind a blank for an inline comment, and lines that begin with a blank, which continue
the last name. An error in a line does not stop the reader.

* `flatten_lines`, `lines_short`, `lines_long`: `fgets` reads everything, and how it cuts a line;
* `findCharsOrComment_append`, `findCharsOrComment_free`: where the scan for a separator ends;
* `entriesFrom_append`: the lines are read one after the other. -/

namespace Spawny.Lib.Ini

/-! ### Bytes -/

def newline : UInt8 := 10
def hash : UInt8 := 35
def colon : UInt8 := 58
def semicolon : UInt8 := 59
def equals : UInt8 := 61
def opening : UInt8 := 91
def closing : UInt8 := 93

def isspace (c : UInt8) : Bool := c == 32 || (9 ≤ c && c ≤ 13)

def rstrip (s : List UInt8) : List UInt8 := s.rdropWhile isspace

def lskip (s : List UInt8) : List UInt8 := s.dropWhile isspace

/-- The string in a buffer ends at the first NUL. -/
def cstr (s : List UInt8) : List UInt8 := s.takeWhile (· ≠ 0)

theorem rstrip_append_cons (s : List UInt8) {c : UInt8} (hc : isspace c = false)
    (t : List UInt8) : rstrip (s ++ c :: t) = s ++ c :: rstrip t := by
  induction t using List.reverseRecOn with
  | nil => exact List.rdropWhile_concat_neg isspace s c (by simp [hc])
  | append_singleton t d ih =>
    have hsplit : s ++ c :: (t ++ [d]) = (s ++ c :: t) ++ [d] := by simp
    unfold rstrip at *
    rw [hsplit, List.rdropWhile_concat, List.rdropWhile_concat]
    split_ifs
    · exact ih
    · rw [hsplit]

theorem rstrip_concat_newline (s : List UInt8) : rstrip (s ++ [newline]) = rstrip s :=
  List.rdropWhile_concat_pos isspace s newline rfl

theorem rstrip_isPrefix (s : List UInt8) : rstrip s <+: s := List.rdropWhile_prefix isspace s

theorem lskip_suffix (s : List UInt8) : lskip s <:+ s := List.dropWhile_suffix isspace

/-- No blank at the ends. -/
structure Trimmed (s : List UInt8) : Prop where
  head : ∀ c ∈ s.head?, isspace c = false
  last : ∀ c ∈ s.getLast?, isspace c = false

-- only the bytes at the ends are looked at, not all 256
instance (s : List UInt8) : Decidable (Trimmed s) :=
  have (o : Option UInt8) : Decidable (∀ c ∈ o, isspace c = false) := Option.decidableForallMem o
  decidable_of_iff ((∀ c ∈ s.head?, isspace c = false) ∧ ∀ c ∈ s.getLast?, isspace c = false)
    ⟨fun h => ⟨h.1, h.2⟩, fun h => ⟨h.head, h.last⟩⟩

theorem rstrip_of_last {s : List UInt8} (h : ∀ c ∈ s.getLast?, isspace c = false) :
    rstrip s = s := by
  refine List.rdropWhile_eq_self_iff.mpr fun hne => ?_
  rw [h _ (List.getLast?_eq_some_getLast hne)]
  decide

theorem lskip_of_head {s : List UInt8} (h : ∀ c ∈ s.head?, isspace c = false) : lskip s = s := by
  cases s with
  | nil => rfl
  | cons c s => exact List.dropWhile_cons_of_neg (by simp [h c rfl])

theorem last_rstrip (s : List UInt8) : ∀ c ∈ (rstrip s).getLast?, isspace c = false := by
  intro c hc
  have hne : rstrip s ≠ [] := by
    intro h
    rw [h] at hc
    cases hc
  rw [List.getLast?_eq_some_getLast hne, Option.mem_some_iff] at hc
  have hlast : ¬isspace ((rstrip s).getLast hne) = true := List.rdropWhile_last_not isspace s hne
  rw [← hc]
  exact Bool.eq_false_iff.mpr hlast

theorem head_lskip (s : List UInt8) : ∀ c ∈ (lskip s).head?, isspace c = false := by
  intro c hc
  have h := List.head?_dropWhile_not isspace s
  rw [lskip, Option.mem_def] at hc
  rw [hc] at h
  exact h

theorem head?_of_isPrefix {α : Type*} {s t : List α} (h : s <+: t) : ∀ c ∈ s.head?, c ∈ t.head? := by
  obtain ⟨u, rfl⟩ := h
  cases s with
  | nil => exact fun _ hc => absurd hc (by simp)
  | cons _ _ => exact fun _ hc => hc

theorem trimmed_rstrip_lskip (s : List UInt8) : Trimmed (rstrip (lskip s)) where
  head := fun c hc => head_lskip s c (head?_of_isPrefix (rstrip_isPrefix _) c hc)
  last := last_rstrip _

theorem Trimmed.eq {s : List UInt8} (h : Trimmed s) : rstrip (lskip s) = s := by
  rw [lskip_of_head h.head, rstrip_of_last h.last]

/-! ### fgets -/

def INI_MAX_LINE : ℕ := 200

/-- The longest run of bytes that `fgets` puts into the buffer. -/
def MAX_CHUNK : ℕ := INI_MAX_LINE - 1

/-- What the calls of `fgets` return; `room` is what still fits behind the next byte. -/
def lines : ℕ → List UInt8 → List (List UInt8)
  | _, [] => []
  | room, c :: cs =>
    if c = newline ∨ room = 0 then [c] :: lines (MAX_CHUNK - 1) cs
    else
      match lines (room - 1) cs with
      | [] => [[c]]
      | l :: ls => (c :: l) :: ls

theorem lines_ne_nil (room : ℕ) {s : List UInt8} (h : s ≠ []) : lines room s ≠ [] := by
  cases s with
  | nil => exact absurd rfl h
  | cons c cs =>
    rw [lines]
    split_ifs
    · exact List.cons_ne_nil _ _
    · split <;> exact List.cons_ne_nil _ _

theorem flatten_lines : ∀ (bs : List UInt8) (room : ℕ), (lines room bs).flatten = bs
  | [], _ => rfl
  | c :: cs, room => by
    rw [lines]
    split_ifs
    · rw [List.flatten_cons, flatten_lines cs, List.singleton_append]
    · have ih := flatten_lines cs (room - 1)
      cases hls : lines (room - 1) cs with
      | nil =>
        rw [hls] at ih
        rw [← ih]
        rfl
      | cons l ls =>
        rw [hls, List.flatten_cons] at ih
        rw [List.flatten_cons, List.cons_append, ih]

/-- A line that fits is read in one go. -/
theorem lines_short : ∀ (s : List UInt8) (room : ℕ) (rest : List UInt8), newline ∉ s →
    s.length ≤ room →
      lines room (s ++ newline :: rest) = (s ++ [newline]) :: lines (MAX_CHUNK - 1) rest
  | [], _, rest, _, _ => by rw [List.nil_append, lines, if_pos (Or.inl rfl)]; rfl
  | c :: s, room, rest, hnl, hlen => by
    obtain ⟨hc, hs⟩ := not_or.mp (mt List.mem_cons.mpr hnl)
    rw [List.length_cons] at hlen
    rw [List.cons_append, lines, if_neg (not_or.mpr ⟨Ne.symm hc, by omega⟩),
      lines_short s (room - 1) rest hs (by omega)]
    rfl

/-- A line that does not fit is cut where the buffer ends. -/
theorem lines_long : ∀ (s : List UInt8) (room : ℕ) (rest : List UInt8), newline ∉ s →
    room < s.length →
      lines room (s ++ newline :: rest) =
        s.take (room + 1) :: lines (MAX_CHUNK - 1) (s.drop (room + 1) ++ newline :: rest)
  | [], _, _, _, hlen => absurd hlen (Nat.not_lt_zero _)
  | c :: s, 0, rest, _, _ => by rw [List.cons_append, lines, if_pos (Or.inr rfl)]; rfl
  | c :: s, room + 1, rest, hnl, hlen => by
    obtain ⟨hc, hs⟩ := not_or.mp (mt List.mem_cons.mpr hnl)
    rw [List.length_cons] at hlen
    rw [List.cons_append, lines, if_neg (not_or.mpr ⟨Ne.symm hc, by omega⟩), Nat.add_sub_cancel,
      lines_long s room rest hs (by omega)]
    rfl

theorem lines_append_newline : ∀ (s : List UInt8) (room : ℕ) (rest : List UInt8),
    lines room (s ++ newline :: rest) =
      lines room (s ++ [newline]) ++ lines (MAX_CHUNK - 1) rest
  | [], _, rest => by
    rw [List.nil_append, List.nil_append, lines, lines, if_pos (Or.inl rfl), if_pos (Or.inl rfl)]
    rfl
  | c :: s, room, rest => by
    rw [List.cons_append, List.cons_append, lines, lines]
    split_ifs
    · rw [lines_append_newline s _ rest, List.cons_append]
    · rw [lines_append_newline s _ rest]
      obtain ⟨l, ls, h⟩ := List.exists_cons_of_ne_nil
        (lines_ne_nil (room - 1) (s := s ++ [newline]) (by simp))
      rw [h]
      rfl

/-- What is in the buffer is a part of a line, with its newline or not. -/
theorem mem_lines : ∀ (bs : List UInt8) (room : ℕ), ∀ l ∈ lines room bs, room < MAX_CHUNK →
    l.length ≤ MAX_CHUNK ∧ ∃ s, newline ∉ s ∧ (l = s ∨ l = s ++ [newline]) := by
  -- the first line has no more than `room + 1` bytes
  suffices h : ∀ (bs : List UInt8) (room : ℕ), room < MAX_CHUNK →
      (∀ l ∈ (lines room bs).head?, l.length ≤ room + 1) ∧ ∀ l ∈ lines room bs,
        l.length ≤ MAX_CHUNK ∧ ∃ s, newline ∉ s ∧ (l = s ∨ l = s ++ [newline]) from
    fun bs room l hl hroom => (h bs room hroom).2 l hl
  intro bs
  induction bs with
  | nil => exact fun _ _ => ⟨fun _ h => (Option.not_mem_none _ h).elim,
      fun _ h => (List.not_mem_nil h).elim⟩
  | cons c bs ih =>
    intro room hroom
    have hmax : MAX_CHUNK - 1 < MAX_CHUNK := by decide
    have hone : ([c] : List UInt8).length ≤ room + 1 := by simp
    have honeMax : ([c] : List UInt8).length ≤ MAX_CHUNK := by
      rw [List.length_singleton]
      decide
    have hc : ∃ s, newline ∉ s ∧ ([c] = s ∨ [c] = s ++ [newline]) := by
      by_cases h : c = newline
      · exact ⟨[], by simp, Or.inr (by rw [h]; rfl)⟩
      · exact ⟨[c], by simpa using Ne.symm h, Or.inl rfl⟩
    rw [lines]
    split_ifs with hend
    · refine ⟨fun l hl => ?_, fun l hl => ?_⟩
      · obtain rfl : [c] = l := Option.some.inj hl
        exact hone
      · rcases List.mem_cons.mp hl with rfl | hl
        · exact ⟨honeMax, hc⟩
        · exact (ih _ hmax).2 l hl
    · obtain ⟨hnl, hpos⟩ := not_or.mp hend
      have hrest := ih (room - 1) (by omega)
      cases hls : lines (room - 1) bs with
      | nil =>
        refine ⟨fun l hl => ?_, fun l hl => ?_⟩
        · obtain rfl : [c] = l := Option.some.inj hl
          exact hone
        · obtain rfl := List.mem_singleton.mp hl
          exact ⟨honeMax, hc⟩
      | cons l₀ ls =>
        rw [hls] at hrest
        have hlen : (c :: l₀).length ≤ room + 1 := by
          have := hrest.1 l₀ rfl
          rw [List.length_cons]
          omega
        refine ⟨fun l hl => ?_, fun l hl => ?_⟩
        · obtain rfl : c :: l₀ = l := Option.some.inj hl
          exact hlen
        · rcases List.mem_cons.mp hl with rfl | hl
          · refine ⟨by omega, ?_⟩
            obtain ⟨s, hs, hl₀⟩ := (hrest.2 l₀ List.mem_cons_self).2
            have hcs : newline ∉ c :: s := by
              rw [List.mem_cons]
              exact not_or.mpr ⟨Ne.symm hnl, hs⟩
            rcases hl₀ with rfl | rfl
            · exact ⟨c :: l₀, hcs, Or.inl rfl⟩
            · exact ⟨c :: s, hcs, Or.inr rfl⟩
          · exact hrest.2 l (List.mem_cons_of_mem _ hl)

/-! ### Separators and inline comments -/

/-- `find_chars_or_comment`: what is in front of the first of `chars` or of an inline comment, and
the rest. `wasSpace` tells about the byte before. -/
def findCharsOrComment (chars : List UInt8) : Bool → List UInt8 → List UInt8 × List UInt8
  | _, [] => ([], [])
  | wasSpace, c :: cs =>
    if c ∈ chars ∨ wasSpace = true ∧ c = semicolon then ([], c :: cs)
    else (c :: (findCharsOrComment chars (isspace c) cs).1,
      (findCharsOrComment chars (isspace c) cs).2)

/-- The scan finds nothing in the text. -/
def Free (chars : List UInt8) : Bool → List UInt8 → Prop
  | _, [] => True
  | wasSpace, c :: cs =>
    (c ∉ chars ∧ ¬(wasSpace = true ∧ c = semicolon)) ∧ Free chars (isspace c) cs

instance Free.decidable (chars : List UInt8) :
    ∀ (wasSpace : Bool) (s : List UInt8), Decidable (Free chars wasSpace s)
  | _, [] => isTrue trivial
  | wasSpace, c :: cs =>
    have := Free.decidable chars (isspace c) cs
    inferInstanceAs (Decidable ((c ∉ chars ∧ ¬(wasSpace = true ∧ c = semicolon)) ∧
      Free chars (isspace c) cs))

theorem findCharsOrComment_eq (chars : List UInt8) : ∀ (wasSpace : Bool) (s : List UInt8),
    (findCharsOrComment chars wasSpace s).1 ++ (findCharsOrComment chars wasSpace s).2 = s
  | _, [] => rfl
  | wasSpace, c :: cs => by
    rw [findCharsOrComment]
    split_ifs
    · rfl
    · exact congrArg (c :: ·) (findCharsOrComment_eq chars (isspace c) cs)

theorem findCharsOrComment_free (chars : List UInt8) : ∀ (wasSpace : Bool) (s : List UInt8),
    Free chars wasSpace (findCharsOrComment chars wasSpace s).1
  | _, [] => trivial
  | wasSpace, c :: cs => by
    rw [findCharsOrComment]
    split_ifs with h
    · trivial
    · exact ⟨not_or.mp h, findCharsOrComment_free chars (isspace c) cs⟩

/-- **The scan stops at the separator** behind a text in which it finds nothing. -/
theorem findCharsOrComment_append {chars : List UInt8} {x : UInt8} (hx : x ∈ chars) :
    ∀ {wasSpace : Bool} {s : List UInt8} (rest : List UInt8), Free chars wasSpace s →
      findCharsOrComment chars wasSpace (s ++ x :: rest) = (s, x :: rest)
  | _, [], rest, _ => by rw [List.nil_append, findCharsOrComment, if_pos (Or.inl hx)]
  | _, c :: s, rest, h => by
    rw [List.cons_append, findCharsOrComment, if_neg (not_or.mpr h.1),
      findCharsOrComment_append hx rest h.2]

theorem Free.findCharsOrComment_eq {chars : List UInt8} :
    ∀ {wasSpace : Bool} {s : List UInt8}, Free chars wasSpace s →
      findCharsOrComment chars wasSpace s = (s, [])
  | _, [], _ => rfl
  | _, _ :: _, h => by
    rw [findCharsOrComment, if_neg (not_or.mpr h.1), Free.findCharsOrComment_eq h.2]

theorem Free.of_isPrefix {chars : List UInt8} : ∀ {wasSpace : Bool} {s t : List UInt8},
    Free chars wasSpace t → s <+: t → Free chars wasSpace s
  | _, [], _, _, _ => trivial
  | _, c :: s, t, h, hpre => by
    obtain ⟨u, rfl⟩ := hpre
    exact ⟨h.1, Free.of_isPrefix h.2 (List.prefix_append s u)⟩

theorem Free.of_true {chars : List UInt8} {wasSpace : Bool} {s : List UInt8}
    (h : Free chars wasSpace s) : Free chars false s := by
  cases s with
  | nil => trivial
  | cons c s => exact ⟨⟨h.1.1, fun hc => absurd hc.1 Bool.false_ne_true⟩, h.2⟩

theorem Free.of_suffix {chars : List UInt8} {wasSpace : Bool} {s t : List UInt8}
    (h : Free chars wasSpace t) (hsuf : s <:+ t) : Free chars false s := by
  obtain ⟨u, rfl⟩ := hsuf
  induction u generalizing wasSpace with
  | nil => exact h.of_true
  | cons c u ih => exact ih h.2

/-- No `;` behind a blank. -/
def NoInlineComment (s : List UInt8) : Prop :=
  s.IsChain fun a b => ¬(isspace a = true ∧ b = semicolon)

instance (s : List UInt8) : Decidable (NoInlineComment s) := by
  unfold NoInlineComment
  infer_instance

theorem free_iff {chars : List UInt8} {s : List UInt8} :
    Free chars false s ↔ (∀ c ∈ s, c ∉ chars) ∧ NoInlineComment s := by
  -- the byte before the text only matters for its first byte
  suffices h : ∀ (s : List UInt8) (a : UInt8), Free chars (isspace a) s ↔
      (∀ c ∈ s, c ∉ chars) ∧ (a :: s).IsChain fun a b => ¬(isspace a = true ∧ b = semicolon) by
    cases s with
    | nil => simp [Free, NoInlineComment]
    | cons c s => simp [Free, NoInlineComment, h s c, and_assoc]
  intro s
  induction s with
  | nil => simp [Free]
  | cons c s ih =>
    intro a
    rw [Free, ih c, List.isChain_cons_cons, List.forall_mem_cons]
    tauto

/-! ### The reader -/

def MAX_SECTION : ℕ := 50
def MAX_NAME : ℕ := 50

/-- What the reader keeps from line to line. -/
structure Reader where
  sect : List UInt8
  prevName : List UInt8
  deriving DecidableEq, Repr

/-- One call of the handler. -/
structure Entry where
  sect : List UInt8
  name : List UInt8
  value : List UInt8
  deriving DecidableEq, Repr

/-- A `[section]` line, behind the bracket. -/
def Reader.sectionLine (r : Reader) (text : List UInt8) : Reader × Option Entry :=
  if (findCharsOrComment [closing] false text).2.head? = some closing then
    (⟨(findCharsOrComment [closing] false text).1.take (MAX_SECTION - 1), []⟩, none)
  else (r, none)

/-- The value behind the separator. -/
def valueOf (raw : List UInt8) : List UInt8 :=
  rstrip (lskip (findCharsOrComment [] false raw).1)

/-- A `name=value` line; one without a separator is an error. -/
def Reader.pairLine (r : Reader) (start : List UInt8) : Reader × Option Entry :=
  let found := findCharsOrComment [equals, colon] false start
  match found.2 with
  | [] => (r, none)
  | sep :: raw =>
    if sep = equals ∨ sep = colon then
      ({ r with prevName := (rstrip found.1).take (MAX_NAME - 1) },
        some ⟨r.sect, rstrip found.1, valueOf raw⟩)
    else (r, none)

/-- One line in the buffer. -/
def Reader.parseLine (r : Reader) (line : List UInt8) : Reader × Option Entry :=
  let text := rstrip (cstr line)
  match lskip text with
  | [] => (r, none)
  | c :: cs =>
    if c = semicolon ∨ c = hash then (r, none)
    else if r.prevName ≠ [] ∧ (c :: cs).length < text.length then
      (r, some ⟨r.sect, r.prevName, rstrip (findCharsOrComment [] false (c :: cs)).1⟩)
    else if c = opening then r.sectionLine cs
    else r.pairLine (c :: cs)

def Reader.after (r : Reader) (ls : List (List UInt8)) : Reader :=
  ls.foldl (fun r l => (r.parseLine l).1) r

def Reader.entriesFrom : Reader → List (List UInt8) → List Entry
  | _, [] => []
  | r, l :: ls => (r.parseLine l).2.toList ++ Reader.entriesFrom (r.parseLine l).1 ls

/-- A byte order mark at the start of the file is skipped. -/
def skipBom : List (List UInt8) → List (List UInt8)
  | (0xEF :: 0xBB :: 0xBF :: l) :: ls => l :: ls
  | ls => ls

/-- `ini_parse_file`: the calls of the handler. -/
def entries (file : List UInt8) : List Entry :=
  Reader.entriesFrom ⟨[], []⟩ (skipBom (lines (MAX_CHUNK - 1) file))

theorem Reader.entriesFrom_append : ∀ (r : Reader) (ls ls' : List (List UInt8)),
    r.entriesFrom (ls ++ ls') = r.entriesFrom ls ++ (r.after ls).entriesFrom ls'
  | _, [], _ => rfl
  | r, l :: ls, ls' => by
    rw [List.cons_append, entriesFrom, entriesFrom, entriesFrom_append, List.append_assoc]
    rfl

end Spawny.Lib.Ini
