import Mathlib.Data.List.DropRight
import Spawny.Lib.Words

/-! # Absolute paths

A path is the list of its characters; its components are the words between the slashes. `dirname` is
the function of libc on strings.

* `components_dirname`: **`dirname` takes away the last component**, whatever slashes there are. -/

namespace Spawny.Lib.Paths

open Spawny.Lib.Words

abbrev Path := List Char

def isSlash (c : Char) : Bool := c == '/'

def components (p : Path) : List Path := words isSlash p

/-- What `dirname` returns if nothing is left: the root, if there was a slash; two slashes at the
front stay. -/
def rootOf (front : Path) : Path :=
  if front.isEmpty then ['.'] else if front = ['/', '/'] then front else ['/']

/-- `dirname`: slashes at the end, the last component and the slashes in front of it are taken
away. -/
def dirname (p : Path) : Path :=
  let a := p.rdropWhile isSlash
  let b := a.rdropWhile fun c => !isSlash c
  let c := b.rdropWhile isSlash
  if c.isEmpty then rootOf (if a.isEmpty then p else b) else c

/-- A path from the root without `.` and `..`. -/
structure AbsPath where
  text : Path
  absolute : text.head? = some '/'
  plain : ∀ c ∈ components text, c ≠ ['.'] ∧ c ≠ ['.', '.']

theorem rootOf_cases {front : Path} (h : front ≠ []) :
    rootOf front = ['/'] ∨ rootOf front = ['/', '/'] := by
  have hempty : ¬front.isEmpty = true := by simpa using h
  rw [rootOf, if_neg hempty]
  split_ifs with hfront
  · exact Or.inr hfront
  · exact Or.inl rfl

theorem components_rootOf {front : Path} (h : front ≠ []) : components (rootOf front) = [] := by
  rcases rootOf_cases h with hroot | hroot
  · rw [hroot]
    decide
  · rw [hroot]
    decide

/-- The run at the end of a list, if the last element is in it. -/
theorem rtakeWhile_ne_nil {q : Char → Bool} {l : Path} (hne : l ≠ [])
    (h : q (l.getLast hne) = true) : l.rtakeWhile q ≠ [] := by
  intro hnil
  exact List.rtakeWhile_eq_nil_iff.mp hnil hne h

/-- Slashes at the end say nothing. -/
theorem components_rdropWhile (p : Path) : components (p.rdropWhile isSlash) = components p := by
  have hp := List.rdropWhile_append_rtakeWhile (p := isSlash) (l := p)
  have hslashes : ∀ c ∈ p.rtakeWhile isSlash, isSlash c = true := fun _ => List.mem_rtakeWhile_imp
  calc components (p.rdropWhile isSlash)
      = components (p.rdropWhile isSlash ++ p.rtakeWhile isSlash) :=
        (words_append_seps _ _ hslashes).symm
    _ = components p := by rw [hp]

/-- In front of the last component of an absolute path there is a slash. -/
theorem front_ne_nil {a : Path} (h : a.head? = some '/') :
    a.rdropWhile (fun c => !isSlash c) ≠ [] := by
  intro hnil
  have hnot := List.rdropWhile_eq_nil_iff.mp hnil '/' (List.mem_of_mem_head? h)
  simp [isSlash] at hnot

/-- **The last component** of a path that has no slash at its end. -/
theorem components_last {a : Path} (ha : a ≠ []) (hlast : ¬isSlash (a.getLast ha) = true)
    (hfront : a.rdropWhile (fun c => !isSlash c) ≠ []) :
    components a = components ((a.rdropWhile fun c => !isSlash c).rdropWhile isSlash) ++
      [a.rtakeWhile fun c => !isSlash c] := by
  have hw : ∀ c ∈ a.rtakeWhile (fun c => !isSlash c), isSlash c = false := by
    intro c hc
    simpa using List.mem_rtakeWhile_imp hc
  have hwne : a.rtakeWhile (fun c => !isSlash c) ≠ [] := rtakeWhile_ne_nil ha (by simpa using hlast)
  have hsplit := List.rdropWhile_append_rtakeWhile (p := fun c => !isSlash c) (l := a)
  have hslash := List.rdropWhile_last_not (fun c => !isSlash c) a hfront
  set b := a.rdropWhile (fun c => !isSlash c) with hb
  have hs : ∀ c ∈ b.rtakeWhile isSlash, isSlash c = true := fun _ => List.mem_rtakeWhile_imp
  have hsne : b.rtakeWhile isSlash ≠ [] := rtakeWhile_ne_nil hfront (by simpa using hslash)
  have hword := words_append_word (l := b.rdropWhile isSlash) hs hsne hw hwne
  rw [List.rdropWhile_append_rtakeWhile, hsplit] at hword
  exact hword

/-- **The parts of an absolute path**: what `dirname` leaves, slashes, the last component, slashes;
the first and the last component may be missing. -/
theorem dirname_cases {p : Path} (h : p.head? = some '/') :
    (components p = [] ∧ ∃ front, front ≠ [] ∧ dirname p = rootOf front) ∨
      ∃ c w, components p = components c ++ [w] ∧
        ((c ≠ [] ∧ c <+: p ∧ dirname p = c) ∨
          c = [] ∧ ∃ front, front ≠ [] ∧ dirname p = rootOf front) := by
  have hne : p ≠ [] := by
    rintro rfl
    simp at h
  have htrim := components_rdropWhile p
  by_cases ha : p.rdropWhile isSlash = []
  · -- there are only slashes
    rw [ha] at htrim
    refine Or.inl ⟨htrim.symm, p, hne, ?_⟩
    unfold dirname
    rw [ha]
    rfl
  have hlast := List.rdropWhile_last_not isSlash p ha
  have hpre := List.rdropWhile_prefix isSlash p
  set a := p.rdropWhile isSlash with hadef
  have hhead : a.head? = some '/' := by
    obtain ⟨r, hr⟩ := hpre
    rwa [← hr, List.head?_append_of_ne_nil _ ha] at h
  have hb := front_ne_nil hhead
  have hcomponents := components_last ha hlast hb
  have hbpre := List.rdropWhile_prefix (fun c => !isSlash c) a
  set b := a.rdropWhile (fun c => !isSlash c) with hbdef
  have haempty : ¬a.isEmpty = true := by simpa using ha
  refine Or.inr ⟨_, _, htrim.symm.trans hcomponents, ?_⟩
  by_cases hc : b.rdropWhile isSlash = []
  · refine Or.inr ⟨hc, b, hb, ?_⟩
    show (if (b.rdropWhile isSlash).isEmpty then rootOf (if a.isEmpty then p else b)
      else b.rdropWhile isSlash) = rootOf b
    rw [if_pos (List.isEmpty_iff.mpr hc), if_neg haempty]
  · refine Or.inl ⟨hc, ?_, ?_⟩
    · exact ((List.rdropWhile_prefix isSlash b).trans hbpre).trans hpre
    · show (if (b.rdropWhile isSlash).isEmpty then rootOf (if a.isEmpty then p else b)
        else b.rdropWhile isSlash) = b.rdropWhile isSlash
      rw [if_neg (by simpa using hc)]

/-- **`dirname` takes away the last component.** -/
theorem components_dirname {p : Path} (h : p.head? = some '/') :
    components (dirname p) = (components p).dropLast := by
  rcases dirname_cases h with ⟨hp, front, hfront, hdir⟩ | ⟨c, w, hp, hdir⟩
  · rw [hdir, components_rootOf hfront, hp, List.dropLast_nil]
  · rw [hp, List.dropLast_concat]
    rcases hdir with ⟨-, -, hdir⟩ | ⟨rfl, front, hfront, hdir⟩
    · rw [hdir]
    · rw [hdir, components_rootOf hfront]
      exact words_nil.symm

theorem head?_dirname {p : Path} (h : p.head? = some '/') : (dirname p).head? = some '/' := by
  have hroot : ∀ {front : Path}, front ≠ [] → (rootOf front).head? = some '/' := by
    intro front hfront
    rcases rootOf_cases hfront with hroot | hroot
    · rw [hroot]
      rfl
    · rw [hroot]
      rfl
  rcases dirname_cases h with ⟨-, front, hfront, hdir⟩ | ⟨c, w, -, hdir⟩
  · rw [hdir, hroot hfront]
  · rcases hdir with ⟨hne, ⟨r, rfl⟩, hdir⟩ | ⟨-, front, hfront, hdir⟩
    · rw [List.head?_append_of_ne_nil _ hne] at h
      rw [hdir, h]
    · rw [hdir, hroot hfront]

/-- `dirname` of an absolute path is one. -/
def AbsPath.dirname (p : AbsPath) : AbsPath where
  text := Paths.dirname p.text
  absolute := head?_dirname p.absolute
  plain := by
    intro c hc
    rw [components_dirname p.absolute] at hc
    exact p.plain c (List.dropLast_subset _ hc)

end Spawny.Lib.Paths
