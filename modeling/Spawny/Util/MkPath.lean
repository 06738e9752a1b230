import Mathlib.Data.List.Infix
import Mathlib.Logic.Function.Basic
import Spawny.Lib.Paths

/-! # mkpath.c: a directory with all its parents

The tree is seen by the components of a path. Whether the system lets a call of `mkdir` through that
has a place for the new directory is a parameter.

* `access_iff`: when the readable ancestors of a path are there;
* `mkpath_creates`: **`mkpath` makes what is missing and nothing else**, and returns 0 exactly then;
  the recursion is as deep as the path at most. -/

namespace Spawny.Util.MkPath

open Spawny.Lib.Paths

/-! ### Directory trees -/

/-- An entry; `readable` means that it can be searched, too. -/
structure Node where
  isDir : Bool
  readable : Bool
  deriving DecidableEq, Repr

/-- A tree has a root, and every other entry is in a directory. -/
structure Tree where
  node : List Path → Option Node
  root : (node []).any Node.isDir = true
  parent : ∀ cs c, (node (cs ++ [c])).isSome = true → (node cs).any Node.isDir = true

def Tree.isDir (t : Tree) (cs : List Path) : Prop := (t.node cs).any Node.isDir = true

instance (t : Tree) (cs : List Path) : Decidable (t.isDir cs) := by
  unfold Tree.isDir
  infer_instance

/-- There is a place for a new entry. -/
def Tree.Place (t : Tree) (cs : List Path) : Prop :=
  t.node cs = none ∧ t.isDir cs.dropLast

instance (t : Tree) (cs : List Path) : Decidable (t.Place cs) := by
  unfold Tree.Place
  infer_instance

/-- The tree with a new entry. -/
def Tree.insert (t : Tree) (cs : List Path) (n : Node) (h : t.Place cs) : Tree where
  node := Function.update t.node cs (some n)
  root := by
    have hne : [] ≠ cs := by
      rintro rfl
      have hroot := t.root
      rw [h.1] at hroot
      simp at hroot
    rw [Function.update_of_ne hne]
    exact t.root
  parent := by
    intro ds d hsome
    have hold : (t.node ds).any Node.isDir = true := by
      by_cases hcs : ds ++ [d] = cs
      · have hdir := h.2
        rw [← hcs, List.dropLast_concat] at hdir
        exact hdir
      · rw [Function.update_of_ne hcs] at hsome
        exact t.parent ds d hsome
    have hne : ds ≠ cs := by
      rintro rfl
      rw [h.1] at hold
      simp at hold
    rw [Function.update_of_ne hne]
    exact hold

/-! ### The calls of the system -/

/-- `access(path, R_OK) >= 0`. -/
def access (t : Tree) (path : Path) : Bool :=
  (components path).inits.all fun q => (t.node q).any Node.readable

/-- `S_IRUSR`. -/
def readableMode (mode : ℕ) : Bool := mode.testBit 8

variable (permits : Tree → Path → Bool)

/-- `mkdir`. -/
def mkdir (path : Path) (mode : ℕ) (t : Tree) : ℤ × Tree :=
  if h : t.Place (components path) then
    if permits t path = true then
      (0, t.insert (components path) ⟨true, readableMode mode⟩ h)
    else (-1, t)
  else (-1, t)

/-- `mkpath`; there is no result if the calls go deeper than `fuel`. -/
def mkpath : ℕ → Path → ℕ → Tree → Option (ℤ × Tree)
  | 0, _, _, _ => none
  | fuel + 1, path, mode, t =>
    let dir := dirname path
    (if access t dir = false then mkpath fuel dir mode t else some (0, t)).map fun r =>
      if r.1 = -1 then (-1, r.2)
      else
        let made := mkdir permits path mode r.2
        if made.1 = -1 then (-1, made.2) else (0, made.2)

variable {permits}

/-! ### What is there -/

/-- Above an entry there are directories. -/
theorem isDir_above {t : Tree} {q : List Path} : ∀ (r : List Path) (c : Path),
    (t.node (q ++ r ++ [c])).isSome = true → t.isDir q := by
  intro r
  induction r using List.reverseRecOn with
  | nil =>
    intro c h
    rw [List.append_nil] at h
    exact t.parent q c h
  | append_singleton r d ih =>
    intro c h
    have hdir := t.parent _ c h
    rw [← List.append_assoc] at hdir
    exact ih d (Option.isSome_of_any hdir)

theorem isDir_of_isPrefix {t : Tree} {q cs : List Path} (hq : q <+: cs) (hne : q ≠ cs)
    (h : (t.node cs).isSome = true) : t.isDir q := by
  obtain ⟨r, rfl⟩ := hq
  have hr : r ≠ [] := by
    rintro rfl
    exact hne (List.append_nil q).symm
  rw [← List.dropLast_concat_getLast hr, ← List.append_assoc] at h
  exact isDir_above _ _ h

theorem isSome_of_isPrefix {t : Tree} {q cs : List Path} (hq : q <+: cs)
    (h : (t.node cs).isSome = true) : (t.node q).isSome = true := by
  rcases eq_or_ne q cs with rfl | hne
  · exact h
  · exact Option.isSome_of_any (isDir_of_isPrefix hq hne h)

/-- **The ancestors that exist are readable directories.** The root is its own ancestor. -/
def Ancestors (t : Tree) (p : AbsPath) : Prop :=
  ∀ q, q <+: (components p.text).dropLast → ∀ n, t.node q = some n →
    n.isDir = true ∧ n.readable = true

theorem Ancestors.dirname {t : Tree} {p : AbsPath} (h : Ancestors t p) :
    Ancestors t p.dirname := by
  intro q hq
  refine h q (hq.trans ?_)
  have hdir := components_dirname p.absolute
  show (components (Lib.Paths.dirname p.text)).dropLast <+: _
  rw [hdir]
  exact List.dropLast_prefix _

theorem Tree.ne_nil_of_missing {t : Tree} {cs : List Path} (h : t.node cs = none) : cs ≠ [] := by
  rintro rfl
  have hroot := Option.isSome_of_any t.root
  rw [h] at hroot
  simp at hroot

/-- An ancestor that is there is a directory, so it has a place for the entry. -/
theorem Ancestors.place {t : Tree} {p : AbsPath} (h : Ancestors t p)
    (hmissing : t.node (components p.text) = none)
    (hdir : (t.node (components p.text).dropLast).isSome = true) :
    t.Place (components p.text) := by
  obtain ⟨n, hn⟩ := Option.isSome_iff_exists.mp hdir
  refine ⟨hmissing, ?_⟩
  rw [Tree.isDir, hn]
  exact (h _ (List.prefix_refl _) n hn).1

theorem access_iff {t : Tree} {p : AbsPath} (h : Ancestors t p) :
    access t (dirname p.text) = true ↔ (t.node (components p.text).dropLast).isSome = true := by
  rw [access, components_dirname p.absolute, List.all_eq_true]
  constructor
  · intro hall
    exact Option.isSome_of_any (hall _ (List.mem_inits _ _ |>.mpr (List.prefix_refl _)))
  · intro hsome q hq
    have hpre := (List.mem_inits _ _).mp hq
    obtain ⟨n, hn⟩ := Option.isSome_iff_exists.mp (isSome_of_isPrefix hpre hsome)
    rw [hn]
    exact (h q hpre n hn).2

/-! ### mkpath -/

/-- **What `mkpath` promises**: it returns 0 if and only if there was no such entry. Then all
prefixes are directories, and nothing else has changed; otherwise nothing has changed at all. -/
structure Made (t : Tree) (cs : List Path) (ret : ℤ) (t' : Tree) : Prop where
  result : ret = 0 ∨ ret = -1
  zero : ret = 0 ↔ t.node cs = none
  dirs : ret = 0 → ∀ q, q <+: cs → t'.isDir q
  others : ret = 0 → ∀ q, t'.node q ≠ t.node q → q <+: cs ∧ t.node q = none
  same : ret = -1 → t' = t

theorem Made.of_isSome {t : Tree} {cs : List Path} (h : (t.node cs).isSome = true) :
    Made t cs (-1) t where
  result := Or.inr rfl
  zero := by
    have hne : t.node cs ≠ none := Option.isSome_iff_ne_none.mp h
    exact iff_of_false (by decide) hne
  dirs := fun h0 => absurd h0 (by decide)
  others := fun h0 => absurd h0 (by decide)
  same := fun _ => rfl

/-- **A missing entry** in `t`, whose directory is there in `t₁`. -/
theorem Made.insert {t t₁ : Tree} {cs : List Path} (n : Node) (hn : n.isDir = true)
    (hmissing : t.node cs = none) (hplace : t₁.Place cs)
    (hothers : ∀ q, t₁.node q ≠ t.node q → q <+: cs.dropLast ∧ t.node q = none) :
    Made t cs 0 (t₁.insert cs n hplace) where
  result := Or.inl rfl
  zero := iff_of_true rfl hmissing
  dirs := by
    intro _ q hq
    have hself : (t₁.insert cs n hplace).node cs = some n := Function.update_self ..
    rcases eq_or_ne q cs with rfl | hne
    · rw [Tree.isDir, hself]
      exact hn
    · exact isDir_of_isPrefix hq hne (by rw [hself]; rfl)
  others := by
    intro _ q hq
    rcases eq_or_ne q cs with rfl | hne
    · exact ⟨List.prefix_refl q, hmissing⟩
    · have hsame : (t₁.insert cs n hplace).node q = t₁.node q := Function.update_of_ne hne ..
      rw [hsame] at hq
      obtain ⟨hpre, hnone⟩ := hothers q hq
      exact ⟨hpre.trans (List.dropLast_prefix cs), hnone⟩
  same := fun h => absurd h (by decide)

/-- The directory of a missing entry has been made, and there is still no such entry in it. -/
theorem Made.place {t t₁ : Tree} {cs : List Path} (h : Made t cs.dropLast 0 t₁)
    (hmissing : t.node cs = none) : t₁.Place cs := by
  refine ⟨?_, h.dirs rfl _ (List.prefix_refl _)⟩
  by_contra hnode
  have hpre := (h.others rfl cs fun heq => hnode (heq.trans hmissing)).1
  have hlen := hpre.length_le
  have hpos := List.length_pos_of_ne_nil (Tree.ne_nil_of_missing hmissing)
  rw [List.length_dropLast] at hlen
  omega

/-- A call of `mkdir` that is let through makes the directory. -/
theorem mkdir_of_place (hpermits : ∀ t path, permits t path = true) {t : Tree} {path : Path}
    (mode : ℕ) (h : t.Place (components path)) :
    mkdir permits path mode t = (0, t.insert (components path) ⟨true, readableMode mode⟩ h) := by
  rw [mkdir, dif_pos h, if_pos (hpermits t path)]

theorem mkpath_of_access {t : Tree} {path : Path} (h : access t (dirname path) = true)
    (fuel mode : ℕ) : mkpath permits (fuel + 1) path mode t =
      some (if (mkdir permits path mode t).1 = -1 then (-1, (mkdir permits path mode t).2)
        else (0, (mkdir permits path mode t).2)) := by
  have hno : ¬access t (dirname path) = false := by simp [h]
  rw [mkpath, if_neg hno]
  rfl

/-- The call after a recursive call that has returned 0. -/
theorem mkpath_of_dirname {t t₁ : Tree} {path : Path} (h : access t (dirname path) = false)
    {fuel mode : ℕ} (hrec : mkpath permits fuel (dirname path) mode t = some (0, t₁)) :
    mkpath permits (fuel + 1) path mode t =
      some (if (mkdir permits path mode t₁).1 = -1 then (-1, (mkdir permits path mode t₁).2)
        else (0, (mkdir permits path mode t₁).2)) := by
  rw [mkpath, if_pos h, hrec]
  rfl

/-- **The recursion**, over the components that are left. -/
theorem exists_made (hpermits : ∀ t path, permits t path = true) (mode : ℕ) :
    ∀ (n : ℕ) (p : AbsPath) (t : Tree), (components p.text).length < n → Ancestors t p →
      ∃ ret t', (∀ fuel, n ≤ fuel → mkpath permits fuel p.text mode t = some (ret, t')) ∧
        Made t (components p.text) ret t' := by
  intro n
  induction n with
  | zero => exact fun p t hn => absurd hn (Nat.not_lt_zero _)
  | succ n ih =>
    intro p t hn hanc
    have haccess := access_iff hanc
    have hfuel : ∀ fuel, n + 1 ≤ fuel → ∃ k, fuel = k + 1 ∧ n ≤ k := by
      intro fuel hle
      exact ⟨fuel - 1, by omega, by omega⟩
    by_cases hsome : (t.node (components p.text)).isSome = true
    · -- the entry is there, and so is its directory
      have hthere := haccess.mpr (isSome_of_isPrefix (List.dropLast_prefix _) hsome)
      have hno : ¬t.Place (components p.text) := by
        rintro ⟨hnone, -⟩
        rw [hnone] at hsome
        simp at hsome
      refine ⟨-1, t, fun fuel hle => ?_, Made.of_isSome hsome⟩
      obtain ⟨k, rfl, -⟩ := hfuel fuel hle
      rw [mkpath_of_access hthere, mkdir, dif_neg hno]
      rfl
    have hmissing := Option.not_isSome_iff_eq_none.mp hsome
    by_cases hdir : (t.node (components p.text).dropLast).isSome = true
    · have hplace := hanc.place hmissing hdir
      refine ⟨0, _, fun fuel hle => ?_,
        Made.insert ⟨true, readableMode mode⟩ rfl hmissing hplace fun q hq => absurd rfl hq⟩
      obtain ⟨k, rfl, -⟩ := hfuel fuel hle
      rw [mkpath_of_access (haccess.mpr hdir), mkdir_of_place hpermits mode hplace]
      rfl
    · -- the directory is missing, too, so there is a component to take away
      have hpos := List.length_pos_of_ne_nil (Tree.ne_nil_of_missing hmissing)
      have hcomponents : components p.dirname.text = (components p.text).dropLast :=
        components_dirname p.absolute
      have hless : (components p.dirname.text).length < n := by
        rw [hcomponents, List.length_dropLast]
        omega
      obtain ⟨ret, t₁, hrun, hmade⟩ := ih p.dirname t hless hanc.dirname
      rw [hcomponents] at hmade
      obtain rfl : ret = 0 := hmade.zero.mpr (Option.not_isSome_iff_eq_none.mp hdir)
      have hplace := hmade.place hmissing
      refine ⟨0, _, fun fuel hle => ?_,
        Made.insert ⟨true, readableMode mode⟩ rfl hmissing hplace (hmade.others rfl)⟩
      obtain ⟨k, rfl, hk⟩ := hfuel fuel hle
      have hnot : access t (dirname p.text) = false := by
        rw [← Bool.not_eq_true, haccess]
        exact hdir
      rw [mkpath_of_dirname hnot (hrun k hk), mkdir_of_place hpermits mode hplace]
      rfl

/-- **`mkpath` makes a directory with its parents.** -/
theorem mkpath_creates (permits : Tree → Path → Bool)
    (hpermits : ∀ t path, permits t path = true) (p : AbsPath) (mode : ℕ) (t : Tree)
    (hanc : Ancestors t p) :
    ∃ ret t', (∀ fuel, (components p.text).length < fuel →
        mkpath permits fuel p.text mode t = some (ret, t')) ∧
      Made t (components p.text) ret t' :=
  exists_made hpermits mode _ p t (Nat.lt_succ_self _) hanc

/-- A tree with an empty root. -/
def bare : Tree where
  node := fun cs => if cs = [] then some ⟨true, true⟩ else none
  root := rfl
  parent := by
    intro cs c h
    rw [if_neg (by simp)] at h
    simp at h

def testdir : AbsPath where
  text := "/tmp//spawny-recursive-test/test/".toList
  absolute := rfl
  plain := by decide

theorem mkpath_creates_testdir : ∃ t',
    mkpath (fun _ _ => true) 4 testdir.text 0o700 bare = some (0, t') ∧
      t'.isDir ["tmp".toList, "spawny-recursive-test".toList, "test".toList] ∧
      t'.isDir ["tmp".toList] := by
  have hanc : Ancestors bare testdir := by
    intro q _ n hn
    have hq : q = [] := by
      by_contra hne
      simp [bare, hne] at hn
    subst hq
    obtain rfl := Option.some.inj hn
    exact ⟨rfl, rfl⟩
  have hcomponents : components testdir.text =
      ["tmp".toList, "spawny-recursive-test".toList, "test".toList] := by decide
  obtain ⟨ret, t', hrun, hmade⟩ :=
    mkpath_creates (fun _ _ => true) (fun _ _ => rfl) testdir 0o700 bare hanc
  obtain rfl : ret = 0 := hmade.zero.mpr (by rw [hcomponents]; rfl)
  have hdirs := hmade.dirs rfl
  rw [hcomponents] at hdirs
  exact ⟨t', hrun 4 (by rw [hcomponents]; decide), hdirs _ (List.prefix_refl _),
    hdirs _ ⟨_, rfl⟩⟩

end Spawny.Util.MkPath
