import Spawny.UserDb.RoundTrip

/-! # Whose file a record comes from

The owner of a file in the database directory is the account of its name, but `_load_file` takes the
name of the record from the section `identify`, and the first file that names an account wins.

* `ownFileDecides_iff`: the law about two directories, as a property of one;
* `determined_iff`: **the fields of an account come from its own file, in whatever order the
  directory is listed, if and only if no other file names the account** (or only with the same
  fields). -/

namespace Spawny.UserDb.Owners

open Spawny.Lib.Ini Spawny.UserDb.Records Spawny.UserDb.Files

/-- The database before it is loaded. -/
def fresh (uid : ℕ) : Context := ⟨uid, [], false⟩

/-- The directory with the file of one account only. -/
def Dir.only (d : Dir) (name : Str) : Dir where
  files := d.files.filter fun f => f.filename = iniFile name
  nodup := (d.nodup.sublist ((List.filter_sublist (l := d.files)).map _))

variable (parse : Str → List Entry) (getpwnam : Str → Option Passwd)

/-- What `user_db_field_get` returns for the account is what its file alone gives. -/
def Determined (fopen : Str → Bool) (d : Dir) (name : Str) : Prop :=
  ∀ env : LoadEnv, env.opendir = true → env.fopen = fopen → ∀ uid field,
    userDbFieldGet (loadFromFs parse getpwnam env d (fresh uid)).2 name field =
      userDbFieldGet (loadFromFs parse getpwnam env (Dir.only d name) (fresh uid)).2 name field

/-- A record that another file offers for the account has the fields that the account's file
offers. -/
def Unclaimed (fopen : Str → Bool) (d : Dir) (name : Str) : Prop :=
  ∀ f ∈ d.files, f.filename ≠ iniFile name → ∀ u, offer parse getpwnam fopen f = some u →
    u.name = name → ∃ g ∈ d.files, g.filename = iniFile name ∧
      ∃ v, offer parse getpwnam fopen g = some v ∧ v.name = name ∧
        ∀ field, (u.fieldGet field).map Pair.value = (v.fieldGet field).map Pair.value

/-- **The fields of an account depend on its own file alone**: two directories with the same file
for the account, in two listings. -/
def OwnFileDecides : Prop :=
  ∀ (d d' : Dir) (name : Str), d.find (iniFile name) = d'.find (iniFile name) →
    ∀ env env' : LoadEnv, env.opendir = true → env'.opendir = true →
      env.fopen (iniFile name) = env'.fopen (iniFile name) → ∀ uid field,
        userDbFieldGet (loadFromFs parse getpwnam env d (fresh uid)).2 name field =
          userDbFieldGet (loadFromFs parse getpwnam env' d' (fresh uid)).2 name field

variable {parse getpwnam}

/-! ### The first offer -/

theorem userDbFieldGet_loadFromFs {env : LoadEnv} (h : env.opendir = true) (d : Dir) (uid : ℕ)
    (name field : Str) :
    userDbFieldGet (loadFromFs parse getpwnam env d (fresh uid)).2 name field =
      (userFind ((env.readdir d).filterMap (offer parse getpwnam env.fopen)) name).map
        fun u => (u.fieldGet field).map Pair.value := by
  rw [userDbFieldGet, userFind_loadFromFs h d rfl]

theorem exists_of_userFind_offers {fopen : Str → Bool} {l : List DbFile} {name : Str} {u : User}
    (h : userFind (l.filterMap (offer parse getpwnam fopen)) name = some u) :
    ∃ f ∈ l, offer parse getpwnam fopen f = some u ∧ u.name = name := by
  obtain ⟨f, hf, hoffer⟩ := List.mem_filterMap.mp (List.mem_of_find?_eq_some h)
  exact ⟨f, hf, hoffer, by simpa using List.find?_some h⟩

theorem isSome_userFind_offers {fopen : Str → Bool} {l : List DbFile} {f : DbFile} {u : User}
    (hf : f ∈ l) (h : offer parse getpwnam fopen f = some u) :
    (userFind (l.filterMap (offer parse getpwnam fopen)) u.name).isSome :=
  List.find?_isSome.mpr ⟨u, List.mem_filterMap.mpr ⟨f, hf, h⟩, by simp⟩

theorem mem_only {d : Dir} {name : Str} {f : DbFile} :
    f ∈ (Dir.only d name).files ↔ f ∈ d.files ∧ f.filename = iniFile name := by
  simp [Dir.only]

/-- There is one file of a name. -/
theorem Dir.eq_of_filename {d : Dir} {f g : DbFile} (hf : f ∈ d.files) (hg : g ∈ d.files)
    (h : f.filename = g.filename) : f = g := by
  have hfind := Dir.find_of_mem hf
  rw [h, Dir.find_of_mem hg] at hfind
  exact (Option.some.inj hfind).symm

/-- The record of an account whose file is alone in the directory. -/
theorem userFind_only {env : LoadEnv} {d : Dir} {name : Str} {g : DbFile} {v : User}
    (hg : g ∈ d.files) (hname : g.filename = iniFile name)
    (hoffer : offer parse getpwnam env.fopen g = some v) (hv : v.name = name) :
    userFind ((env.readdir (Dir.only d name)).filterMap (offer parse getpwnam env.fopen)) name =
      some v := by
  have hperm := env.readdir_perm (Dir.only d name)
  have hmem : g ∈ env.readdir (Dir.only d name) := hperm.mem_iff.mpr (mem_only.mpr ⟨hg, hname⟩)
  have hsome := isSome_userFind_offers hmem hoffer
  rw [hv] at hsome
  obtain ⟨w, hw⟩ := Option.isSome_iff_exists.mp hsome
  obtain ⟨f, hf, hfoffer, -⟩ := exists_of_userFind_offers hw
  obtain ⟨hfd, hfname⟩ := mem_only.mp (hperm.mem_iff.mp hf)
  obtain rfl := Dir.eq_of_filename hfd hg (hfname.trans hname.symm)
  rw [hw, ← hfoffer, hoffer]

/-! ### Who decides -/

/-- The listing that begins with a file. -/
def listedFirst (fopen : Str → Bool) (f : DbFile) : LoadEnv where
  opendir := true
  readdir := fun d => if f ∈ d.files then f :: d.files.erase f else d.files
  readdir_perm := fun d => by
    split_ifs with h
    · exact (List.perm_cons_erase h).symm
    · exact List.Perm.refl _
  fopen := fopen

/-- **Who decides about the fields of an account.** -/
theorem determined_iff (parse : Str → List Entry) (getpwnam : Str → Option Passwd)
    (fopen : Str → Bool) (d : Dir) (name : Str) :
    Determined parse getpwnam fopen d name ↔ Unclaimed parse getpwnam fopen d name := by
  constructor
  · -- the file that is listed first decides
    intro h f hf _ u hoffer hu
    have hlookup := h (listedFirst fopen f) rfl rfl 0
    have hfirst : userFind (((listedFirst fopen f).readdir d).filterMap
        (offer parse getpwnam fopen)) name = some u := by
      unfold listedFirst
      dsimp only
      rw [if_pos hf, List.filterMap_cons_some hoffer]
      exact List.find?_cons_of_pos (by simpa using hu)
    have hworks : (listedFirst fopen f).opendir = true := rfl
    simp only [userDbFieldGet_loadFromFs hworks] at hlookup
    have hopen : (listedFirst fopen f).fopen = fopen := rfl
    rw [hopen, hfirst] at hlookup
    cases hown : userFind (((listedFirst fopen f).readdir (Dir.only d name)).filterMap
        (offer parse getpwnam fopen)) name with
    | none =>
      have hnone := hlookup []
      rw [hown] at hnone
      cases hnone
    | some v =>
      obtain ⟨g, hg, hgoffer, hv⟩ := exists_of_userFind_offers hown
      obtain ⟨hgd, hgname⟩ := mem_only.mp
        (((listedFirst fopen f).readdir_perm (Dir.only d name)).mem_iff.mp hg)
      refine ⟨g, hgd, hgname, v, hgoffer, hv, fun field => ?_⟩
      have hfield := hlookup field
      rw [hown] at hfield
      exact Option.some.inj hfield
  · intro h env hopendir hfopen uid field
    rw [userDbFieldGet_loadFromFs hopendir, userDbFieldGet_loadFromFs hopendir]
    cases hfind : userFind ((env.readdir d).filterMap (offer parse getpwnam env.fopen)) name with
    | none =>
      -- nobody names the account, its own file included
      cases hown : userFind ((env.readdir (Dir.only d name)).filterMap
          (offer parse getpwnam env.fopen)) name with
      | none => rfl
      | some v =>
        obtain ⟨g, hg, hgoffer, hv⟩ := exists_of_userFind_offers hown
        have hgd := (mem_only.mp ((env.readdir_perm _).mem_iff.mp hg)).1
        have hsome := isSome_userFind_offers ((env.readdir_perm d).mem_iff.mpr hgd) hgoffer
        rw [hv, hfind] at hsome
        cases hsome
    | some u =>
      obtain ⟨f, hf, hoffer, hu⟩ := exists_of_userFind_offers hfind
      have hfd := (env.readdir_perm d).mem_iff.mp hf
      by_cases hname : f.filename = iniFile name
      · rw [userFind_only hfd hname hoffer hu]
      · rw [← hfopen] at h
        obtain ⟨g, hgd, hgname, v, hgoffer, hv, hfields⟩ := h f hfd hname u hoffer hu
        rw [userFind_only hgd hgname hgoffer hv, Option.map_some, Option.map_some, hfields field]

/-! ### Two directories -/

theorem only_files (d : Dir) (name : Str) :
    (Dir.only d name).files = (d.find (iniFile name)).toList := by
  obtain ⟨files, hnodup⟩ := d
  change files.filter _ = (files.find? _).toList
  induction files with
  | nil => rfl
  | cons f files ih =>
    rw [List.map_cons, List.nodup_cons] at hnodup
    by_cases hf : f.filename = iniFile name
    · have hrest : files.filter (fun g => g.filename = iniFile name) = [] := by
        rw [List.filter_eq_nil_iff]
        intro g hg hname
        have hname : g.filename = iniFile name := by simpa using hname
        exact hnodup.1 (hf.trans hname.symm ▸ List.mem_map_of_mem hg)
      rw [List.filter_cons_of_pos (by simpa using hf), List.find?_cons_of_pos (by simpa using hf),
        hrest]
      rfl
    · rw [List.filter_cons_of_neg (by simpa using hf), List.find?_cons_of_neg (by simpa using hf)]
      exact ih hnodup.2

theorem readdir_only (env : LoadEnv) (d : Dir) (name : Str) :
    env.readdir (Dir.only d name) = (d.find (iniFile name)).toList := by
  have hperm := env.readdir_perm (Dir.only d name)
  rw [only_files] at hperm
  cases hfind : d.find (iniFile name) with
  | none =>
    rw [hfind] at hperm
    exact List.perm_nil.mp hperm
  | some f =>
    rw [hfind] at hperm
    exact List.perm_singleton.mp hperm

/-- **The account's own file decides in every directory** if and only if it does for any two. -/
theorem ownFileDecides_iff :
    OwnFileDecides parse getpwnam ↔ ∀ fopen d name, Determined parse getpwnam fopen d name := by
  constructor
  · intro h fopen d name env hopendir _
    refine h d (Dir.only d name) name ?_ env env hopendir hopendir rfl
    rw [Dir.find, Dir.find, only_files, Dir.find]
    cases hfind : d.files.find? (fun f => f.filename = iniFile name) with
    | none => rfl
    | some f =>
      have hname : f.filename = iniFile name := by simpa using List.find?_some hfind
      simp [hname]
  · intro h d d' name hfind env env' hopendir hopendir' hfopen uid field
    rw [h env.fopen d name env hopendir rfl, h env'.fopen d' name env' hopendir' rfl,
      userDbFieldGet_loadFromFs hopendir, userDbFieldGet_loadFromFs hopendir', readdir_only,
      readdir_only, ← hfind]
    have hoffers : (d.find (iniFile name)).toList.filterMap (offer parse getpwnam env.fopen) =
        (d.find (iniFile name)).toList.filterMap (offer parse getpwnam env'.fopen) := by
      refine List.filterMap_congr fun f hf => ?_
      have hname := (Dir.mem_of_find (Option.mem_toList.mp hf)).2
      unfold offer
      rw [hname, hfopen]
    rw [hoffers]

/-! ### Another account's file -/

/-- Eve's file, with the name of another account. -/
def eveFile : DbFile where
  filename := ascii "eve.ini"
  content := ascii "[identify]\nname=bob\n[info]\nicon=eve\n"
  perms := ⟨1000, 1000, MODE⟩

def bobFile : DbFile where
  filename := ascii "bob.ini"
  content := ascii "[identify]\nname=bob\n[info]\nicon=bob\n"
  perms := ⟨1000, 1000, MODE⟩

set_option maxRecDepth 8000 in
theorem not_ownFileDecides :
    ¬OwnFileDecides entries (passwd [ascii "eve", ascii "bob"]) := by
  intro h
  have hicon := h ⟨[eveFile, bobFile], by decide⟩ ⟨[bobFile], by decide⟩ (ascii "bob") (by decide)
    inOrder inOrder rfl rfl rfl 0 (ascii "icon")
  revert hicon
  decide

end Spawny.UserDb.Owners
