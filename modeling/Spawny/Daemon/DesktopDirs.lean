import Mathlib.Data.List.Infix
import Spawny.Daemon.DesktopFiles
import Spawny.UserDb.Files

/-! # desktop_common.c: which files of a directory are parsed

`parse_dir` compares the end of each name with the extension. The comparison begins at an offset that
is computed from the length, so for a short name it begins in front of the name, in the other bytes
of the `struct dirent`. `_load_from_fs` has the same filter, with a guard.

* `strcmp_iff`: a comparison that begins in the name compares its end;
* `exact_iff`: **when `parse_dir` decides as it should and reads nothing else**;
* `parsed_eq_false`: a short name is not parsed, if the byte in front of it is none of the
  extension. -/

namespace Spawny.Daemon.DesktopDirs

open Spawny.Daemon.DesktopFiles Spawny.Daemon.TemplateRegistry Spawny.UserDb.Records
open Spawny.UserDb.Files (isIni)

/-! ### parse_dir -/

/-- `struct dirent`: the name, and the bytes in front of it, the nearest one first. -/
structure Dirent where
  before : ℕ → UInt8
  name : Str
  noNul : 0 ∉ name

/-- The byte at an offset from the beginning of the name; behind the name there is the NUL. -/
def Dirent.byte (d : Dirent) (off : ℤ) : UInt8 :=
  if off < 0 then d.before (-off - 1).toNat else (d.name[off.toNat]?).getD 0

/-- `strcmp` of the bytes from `off` on with a text: whether they are equal, and the offsets that are
read. -/
def strcmp (byte : ℤ → UInt8) : ℤ → Str → Bool × List ℤ
  | off, [] => (byte off == 0, [off])
  | off, c :: cs =>
    if byte off = c then ((strcmp byte (off + 1) cs).1, off :: (strcmp byte (off + 1) cs).2)
    else (false, [off])

def EXT : Str := ascii ".desktop"

/-- `sizeof(EXT)`. -/
def sizeofExt : ℕ := EXT.length + 1

/-- `int len`, from `strlen`. -/
def Dirent.len (d : Dirent) : ℤ := asInt (d.name.length % 2 ^ 32)

/-- The test of `parse_dir`. -/
def Dirent.test (d : Dirent) : Bool × List ℤ := strcmp d.byte (d.len - sizeofExt + 1) EXT

/-- The file is handed to `_parse_file`. -/
def Dirent.parsed (d : Dirent) : Bool := d.test.1

variable {κ : Type*}

/-- The path that is printed for an entry. -/
def path (directoryPath : Str) (d : Dirent) : Str := directoryPath ++ ascii "/" ++ d.name

/-- `parse_dir`; `ini_parse` is a parameter, and there are no entries if `opendir` fails. -/
def parseDir (iniParse : Str → IniRun) (directoryPath : Str) (entries : Option (List Dirent))
    (type : String) (fireUp : Option κ) (s : TemplateReg κ (Option String)) :
    TemplateReg κ (Option String) :=
  match entries with
  | none => s
  | some entries => entries.foldl (fun s d =>
      if d.parsed then parseFile (iniParse (path directoryPath d)) type fireUp s else s) s

/-- The test of `_load_from_fs`, for any extension: `unsigned int len`, and `strncmp`. -/
def guarded (ext name : Str) : Bool :=
  let len := name.length % 2 ^ 32
  ext.length < len && (name.drop (len - ext.length)).take ext.length == ext

/-! ### What it has to do -/

/-- **The entries whose name ends in the extension are parsed**, nothing is read outside of the names
(with their NUL), and the guarded test says the same. -/
structure Exact (entries : List Dirent) : Prop where
  parses : ∀ d ∈ entries, d.parsed = true ↔ EXT <:+ d.name
  reads : ∀ d ∈ entries, ∀ off ∈ d.test.2, 0 ≤ off ∧ off ≤ d.name.length
  guard : ∀ d ∈ entries, d.parsed = guarded EXT d.name

/-- The name is not too short, not the extension itself, and if it is too long for an `int`, it does
not look as if it ended in the extension. -/
def Regular (d : Dirent) : Prop :=
  EXT.length ≤ d.len ∧ d.name ≠ EXT ∧
    (2 ^ 31 ≤ d.name.length → ¬EXT <:+ d.name ∧ guarded EXT d.name = false)

/-! ### The comparison -/

theorem Dirent.byte_nat (d : Dirent) (n : ℕ) : d.byte n = (d.name[n]?).getD 0 := by
  rw [Dirent.byte, if_neg (by omega), Int.toNat_natCast]

/-- **A comparison inside the name** compares its end. -/
theorem strcmp_iff (d : Dirent) {ext : Str} (hext : 0 ∉ ext) : ∀ n : ℕ,
    (strcmp d.byte n ext).1 = true ↔ d.name.drop n = ext := by
  induction ext with
  | nil =>
    intro n
    rw [strcmp, d.byte_nat, beq_iff_eq, List.drop_eq_nil_iff]
    constructor
    · intro h
      by_contra hlt
      rw [List.getElem?_eq_getElem (by omega), Option.getD_some] at h
      exact d.noNul (h ▸ List.getElem_mem _)
    · intro h
      rw [List.getElem?_eq_none h]
      rfl
  | cons c ext ih =>
    intro n
    have hc : c ≠ 0 := fun h => hext (h ▸ List.mem_cons_self)
    have ih := ih (fun h => hext (List.mem_cons_of_mem c h)) (n + 1)
    rw [strcmp, d.byte_nat]
    rcases Nat.lt_or_ge n d.name.length with hn | hn
    · rw [List.getElem?_eq_getElem hn, Option.getD_some, List.drop_eq_getElem_cons hn,
        List.cons.injEq]
      by_cases heq : d.name[n] = c
      · rw [if_pos heq, and_iff_right heq, ← ih]
        rfl
      · rw [if_neg heq]
        exact iff_of_false Bool.false_ne_true fun h => heq h.1
    · rw [List.getElem?_eq_none hn, Option.getD_none, if_neg (Ne.symm hc),
        List.drop_of_length_le hn]
      exact iff_of_false Bool.false_ne_true (by simp)

/-- Where a comparison reads. -/
theorem strcmp_reads (byte : ℤ → UInt8) : ∀ (ext : Str) (off : ℤ),
    off ∈ (strcmp byte off ext).2 ∧
      ∀ o ∈ (strcmp byte off ext).2, off ≤ o ∧ o ≤ off + ext.length
  | [], off => by simp [strcmp]
  | c :: ext, off => by
    obtain ⟨-, ih⟩ := strcmp_reads byte ext (off + 1)
    rw [strcmp]
    split_ifs
    · refine ⟨List.mem_cons_self, fun o ho => ?_⟩
      rw [List.length_cons]
      rcases List.mem_cons.mp ho with rfl | ho
      · omega
      · have := ih o ho
        omega
    · refine ⟨List.mem_singleton.mpr rfl, fun o ho => ?_⟩
      obtain rfl := List.mem_singleton.mp ho
      omega

/-- The bytes of an equal text. -/
theorem byte_of_strcmp {byte : ℤ → UInt8} : ∀ {ext : Str} {off : ℤ},
    (strcmp byte off ext).1 = true → ∀ k : ℕ, k < ext.length → byte (off + k) ∈ ext := by
  intro ext
  induction ext with
  | nil => exact fun _ k hk => absurd hk (Nat.not_lt_zero k)
  | cons c ext ih =>
    intro off h k hk
    rw [strcmp] at h
    split_ifs at h with hc
    rcases k with _ | k
    · rw [Nat.cast_zero, add_zero, hc]
      exact List.mem_cons_self
    · have hk' := ih h k (by simpa using hk)
      have hoff : off + 1 + (k : ℤ) = off + ((k + 1 : ℕ) : ℤ) := by push_cast; ring
      rw [hoff] at hk'
      exact List.mem_cons_of_mem c hk'

/-! ### The lengths -/

theorem len_eq {d : Dirent} (h : d.name.length < 2 ^ 31) : d.len = d.name.length := by
  have hmod : d.name.length % 2 ^ 32 = d.name.length := Nat.mod_eq_of_lt (by omega)
  rw [Dirent.len, hmod, asInt, if_pos h]

/-- What is left of a length that is too long for an `int`. -/
theorem len_of_le {d : Dirent} (h : 2 ^ 31 ≤ d.name.length) (hlen : 0 ≤ d.len) :
    d.len + 2 ^ 32 ≤ d.name.length := by
  unfold Dirent.len asInt at *
  split_ifs at * with hmod <;> omega

/-- **The test**, if the comparison begins in the name. -/
theorem parsed_iff {d : Dirent} (h : EXT.length ≤ d.len) :
    d.parsed = true ↔ d.name.drop (d.len.toNat - EXT.length) = EXT := by
  have hoff : ∀ l : ℤ, EXT.length ≤ l →
      l - sizeofExt + 1 = ((l.toNat - EXT.length : ℕ) : ℤ) := by
    intro l hl
    unfold sizeofExt
    omega
  have h0 : 0 ∉ EXT := by decide
  rw [Dirent.parsed, Dirent.test, hoff d.len h, strcmp_iff d h0]

theorem length_EXT : EXT.length = 8 := by decide

/-- The first byte that is compared is in the name, if the length is right. -/
theorem reads_iff (d : Dirent) :
    (∀ off ∈ d.test.2, 0 ≤ off ∧ off ≤ d.name.length) ↔ (EXT.length : ℤ) ≤ d.len := by
  obtain ⟨hfirst, hreads⟩ := strcmp_reads d.byte EXT (d.len - sizeofExt + 1)
  have hsize : (sizeofExt : ℤ) = 9 := by decide
  rw [length_EXT] at hreads ⊢
  constructor
  · intro h
    have := (h _ hfirst).1
    omega
  · intro h off hoff
    have hoff := hreads off hoff
    rcases Nat.lt_or_ge d.name.length (2 ^ 31) with hlt | hge
    · have := len_eq hlt
      omega
    · have := len_of_le hge (by omega)
      omega

/-- **The tests of a name that fits into an `int`**: they differ for the extension itself. -/
theorem parsed_of_lt {d : Dirent} (hlt : d.name.length < 2 ^ 31) (h : EXT.length ≤ d.len) :
    (d.parsed = true ↔ EXT <:+ d.name) ∧
      (d.parsed = guarded EXT d.name ↔ d.name ≠ EXT) := by
  have hlen := len_eq hlt
  have hmod : d.name.length % 2 ^ 32 = d.name.length := Nat.mod_eq_of_lt (by omega)
  have hparsed := parsed_iff h
  rw [hlen, Int.toNat_natCast] at hparsed
  have hdrop : (d.name.drop (d.name.length - EXT.length)).length = EXT.length := by
    rw [List.length_drop]
    omega
  have hguarded : guarded EXT d.name = true ↔ EXT.length < d.name.length ∧ d.parsed = true := by
    rw [hparsed, guarded, hmod, List.take_of_length_le (Nat.le_of_eq hdrop), Bool.and_eq_true,
      decide_eq_true_iff, beq_iff_eq]
  have hsuffix : d.parsed = true ↔ EXT <:+ d.name := by
    rw [hparsed, List.suffix_iff_eq_drop, eq_comm]
  refine ⟨hsuffix, ?_⟩
  constructor
  · intro heq hname
    have hself : guarded EXT EXT = false := by decide
    rw [hname, hself] at heq
    rw [heq, hname] at hsuffix
    exact Bool.false_ne_true (hsuffix.mpr (List.suffix_refl EXT))
  · intro hne
    rw [Bool.eq_iff_iff, hguarded]
    refine ⟨fun hp => ⟨?_, hp⟩, fun hp => hp.2⟩
    -- a longer name, as the name is not the extension alone
    obtain ⟨r, hr⟩ := hsuffix.mp hp
    have hpos : r ≠ [] := by
      rintro rfl
      exact hne hr.symm
    have hrlen := List.length_pos_of_ne_nil hpos
    rw [← hr, List.length_append]
    omega

/-- The tests of a name that does not: nothing is parsed. -/
theorem parsed_of_le {d : Dirent} (hge : 2 ^ 31 ≤ d.name.length) (h : EXT.length ≤ d.len) :
    d.parsed = false := by
  have hless := len_of_le hge (by omega)
  have hparsed := parsed_iff h
  rw [← Bool.not_eq_true, hparsed]
  intro heq
  have hlen := congrArg List.length heq
  rw [List.length_drop] at hlen
  omega

/-- The test for one entry is as it should be. -/
theorem regular_iff (d : Dirent) : Regular d ↔
    (d.parsed = true ↔ EXT <:+ d.name) ∧
      (∀ off ∈ d.test.2, 0 ≤ off ∧ off ≤ d.name.length) ∧ d.parsed = guarded EXT d.name := by
  rw [reads_iff]
  rcases Nat.lt_or_ge d.name.length (2 ^ 31) with hlt | hge
  · constructor
    · rintro ⟨hlen, hne, -⟩
      obtain ⟨hsuffix, hguard⟩ := parsed_of_lt hlt hlen
      exact ⟨hsuffix, hlen, hguard.mpr hne⟩
    · rintro ⟨-, hlen, heq⟩
      exact ⟨hlen, (parsed_of_lt hlt hlen).2.mp heq, fun hge => absurd hlt (by omega)⟩
  · have hne : d.name ≠ EXT := by
      intro heq
      have hlength := congrArg List.length heq
      rw [length_EXT] at hlength
      omega
    constructor
    · rintro ⟨hlen, -, hlong⟩
      have hparsed := parsed_of_le hge hlen
      obtain ⟨hsuffix, hguard⟩ := hlong hge
      rw [hparsed, hguard]
      exact ⟨iff_of_false Bool.false_ne_true hsuffix, hlen, rfl⟩
    · rintro ⟨hsuffix, hlen, hguard⟩
      have hparsed := parsed_of_le hge hlen
      rw [hparsed] at hsuffix hguard
      exact ⟨hlen, hne, fun _ => ⟨fun h => Bool.false_ne_true (hsuffix.mpr h), hguard.symm⟩⟩

/-- **When `parse_dir` takes the right files** and reads nothing but their names. -/
theorem exact_iff (entries : List Dirent) : Exact entries ↔ ∀ d ∈ entries, Regular d := by
  constructor
  · intro h d hd
    exact (regular_iff d).mpr ⟨h.parses d hd, h.reads d hd, h.guard d hd⟩
  · intro h
    exact ⟨fun d hd => ((regular_iff d).mp (h d hd)).1,
      fun d hd => ((regular_iff d).mp (h d hd)).2.1,
      fun d hd => ((regular_iff d).mp (h d hd)).2.2⟩

/-- What `parse_dir` hands to `_parse_file`, if it decides as it should. -/
theorem parseDir_of_exact {entries : List Dirent} (h : Exact entries) (iniParse : Str → IniRun)
    (directoryPath : Str) (type : String) (fireUp : Option κ) (s : TemplateReg κ (Option String)) :
    parseDir iniParse directoryPath (some entries) type fireUp s =
      (entries.filter fun d => EXT <:+ d.name).foldl
        (fun s d => parseFile (iniParse (path directoryPath d)) type fireUp s) s := by
  have hfilter : entries.filter (fun d => EXT <:+ d.name) = entries.filter Dirent.parsed := by
    refine List.filter_congr fun d hd => ?_
    rw [Bool.eq_iff_iff, decide_eq_true_iff, h.parses d hd]
  rw [hfilter, List.foldl_filter, parseDir]

/-- **A short name** is not parsed, whatever is read: the byte in front of it is `d_type`. -/
theorem parsed_eq_false {d : Dirent} (hshort : d.name.length < EXT.length)
    (hbefore : d.before 0 ∉ EXT) : d.parsed = false := by
  rw [length_EXT] at hshort
  have hlen := len_eq (d := d) (by omega)
  have hsize : (sizeofExt : ℤ) = 9 := by decide
  rw [← Bool.not_eq_true]
  intro h
  have hbyte := byte_of_strcmp h (7 - d.name.length) (by rw [length_EXT]; omega)
  have hoff : d.len - sizeofExt + 1 + ((7 - d.name.length : ℕ) : ℤ) = -1 := by omega
  rw [hoff] at hbyte
  exact hbefore hbyte

/-- The test of `_load_from_fs` is the guarded one. -/
theorem guarded_ini {name : Str} (h : name.length < 2 ^ 32) :
    guarded (ascii ".ini") name = isIni name := by
  have hfour : (ascii ".ini").length = 4 := by decide
  rw [guarded, isIni, Nat.mod_eq_of_lt h, hfour]
  by_cases hlt : 4 < name.length
  · have hdrop : (name.drop (name.length - 4)).length = 4 := by
      rw [List.length_drop]
      omega
    rw [List.take_of_length_le (Nat.le_of_eq hdrop)]
  · simp [hlt]

/-- The directory itself: `readdir` gives a `d_type` of 4. -/
def dot : Dirent := ⟨fun _ => 4, ascii ".", by decide⟩

def gnomeDesktop : Dirent := ⟨fun _ => 8, ascii "gnome.desktop", by decide⟩

/-- **Every directory has an entry for which something else is read.** -/
theorem dot_read : dot.test.2 = [-7] ∧ ¬Exact [dot, gnomeDesktop] := by
  refine ⟨by decide, fun h => ?_⟩
  have hread := h.reads dot List.mem_cons_self (-7) (by decide)
  exact absurd hread.1 (by decide)

end Spawny.Daemon.DesktopDirs
