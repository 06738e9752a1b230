import Spawny.Daemon.DesktopDirs

/-! # The templates of the daemon

Before it listens, `main` registers what can be started in a session: a login shell, and what the
`.desktop` files of four directories offer. What the file system holds is a parameter.

* `offers`: what there is to choose from;
* `startup_eq`: registering the offers one after the other is what the daemon does;
* `templates_startup`: **the templates are the offers in their order**, with the ids `t0`, `t1`, and so
  on;
* `template_startup`: the lookup of an id finds the offer at its place. -/

namespace Spawny.Daemon.Startup

open Spawny.Daemon.State Spawny.Daemon.TemplateRegistry Spawny.Daemon.DesktopFiles
open Spawny.Daemon.DesktopDirs Spawny.UserDb.Records

/-! ### tty_temp.c, x11_temp.c, wl_temp.c -/

/-- The functions that start a template: `_tty_fire_up`, and the `_fire_up` of `x11_temp.c` and of
`wl_temp.c`. -/
inductive FireUp
  | tty
  | x11
  | wayland
  deriving DecidableEq, Repr

/-- The `.desktop` files: what `ini_parse` does for a path, and what `opendir` and `readdir` give. -/
structure Desktop where
  iniParse : Str → IniRun
  opendir : Str → Option (List Dirent)

/-- The registry of the daemon; the data of a template is its command, `NULL` for the login shell. -/
abbrev Registry := TemplateReg FireUp (Option String)

/-- `tty_template_init`. -/
def ttyTemplateInit (s : Registry) : Registry :=
  (s.register (some "tty") (some "utilities-terminal") "tty" (some .tty) none).1

/-- `parse_dir` for a directory. -/
def initDir (d : Desktop) (type : String) (cb : FireUp) (s : Registry) (dir : Str) : Registry :=
  parseDir d.iniParse dir (d.opendir dir) type (some cb) s

def x11Dirs : List Str := [ascii "/usr/share/xsessions/", ascii "/usr/local/share/xsessions/"]

def wlDirs : List Str :=
  [ascii "/usr/share/wayland-sessions/", ascii "/usr/local/share/wayland-sessions/"]

/-- `x11_template_init`. -/
def x11TemplateInit (d : Desktop) (s : Registry) : Registry := x11Dirs.foldl (initDir d "x11" .x11) s

/-- `wl_template_init`. -/
def wlTemplateInit (d : Desktop) (s : Registry) : Registry :=
  wlDirs.foldl (initDir d "wayland" .wayland) s

/-- The registry when `main` calls `server_init`. -/
def startup (d : Desktop) : Registry :=
  wlTemplateInit d (x11TemplateInit d (ttyTemplateInit TemplateReg.start))

/-! ### The offers -/

/-- What can be chosen. -/
structure Offer where
  name : String
  icon : Option String
  type : String
  cb : FireUp
  data : Option String
  deriving DecidableEq, Repr

def Offer.tty : Offer := ⟨"tty", some "utilities-terminal", "tty", .tty, none⟩

/-- The offer of a file, if it is parsed and has a name and a command. -/
def fileOffer (file : IniRun) (type : String) (cb : FireUp) : Option Offer :=
  if file.ret = 0 then
    (registered file.calls).map fun r => ⟨r.1, r.2.1, type, cb, some r.2.2⟩
  else none

/-- The offers of a directory, none if it cannot be opened. -/
def dirOffers (d : Desktop) (type : String) (cb : FireUp) (dir : Str) : List Offer :=
  (((d.opendir dir).getD []).filter Dirent.parsed).filterMap fun e =>
    fileOffer (d.iniParse (path dir e)) type cb

/-- **What there is to choose from.** -/
def offers (d : Desktop) : List Offer :=
  .tty :: (x11Dirs.flatMap (dirOffers d "x11" .x11) ++ wlDirs.flatMap (dirOffers d "wayland" .wayland))

def Offer.register (s : Registry) (o : Offer) : Registry :=
  (s.register (some o.name) o.icon o.type (some o.cb) o.data).1

/-- The template that is registered for an offer when the counter is `n`. -/
def Offer.template (n : ℕ) (o : Offer) : Template FireUp (Option String) :=
  ⟨⟨"t" ++ toString n, o.name, o.icon, o.type⟩, o.cb, o.data⟩

/-! ### What is registered -/

theorem parseFile_offer (file : IniRun) (type : String) (cb : FireUp) (s : Registry) :
    parseFile file type (some cb) s = (fileOffer file type cb).toList.foldl Offer.register s := by
  unfold fileOffer
  by_cases hret : file.ret = 0
  · rw [parseFile_eq hret, if_pos hret]
    cases registered file.calls <;> rfl
  · rw [if_neg hret, parseFile, parseIniVerbose]
    simp [hret]

/-- `parse_dir` registers the offers of the directory. -/
theorem initDir_eq (d : Desktop) (type : String) (cb : FireUp) (s : Registry) (dir : Str) :
    initDir d type cb s dir = (dirOffers d type cb dir).foldl Offer.register s := by
  unfold initDir dirOffers parseDir
  cases d.opendir dir with
  | none => rfl
  | some entries =>
    rw [Option.getD_some, List.foldl_filterMap, List.foldl_filter]
    refine congrArg (fun f => entries.foldl f s) (funext fun s => funext fun e => ?_)
    rw [parseFile_offer]
    cases fileOffer (d.iniParse (path dir e)) type cb <;> rfl

/-- **The offers are registered one after the other.** -/
theorem startup_eq (d : Desktop) : startup d = (offers d).foldl Offer.register TemplateReg.start := by
  unfold startup offers wlTemplateInit x11TemplateInit
  rw [List.foldl_cons, List.foldl_append, List.foldl_flatMap, List.foldl_flatMap]
  simp only [← initDir_eq]
  rfl

/-- **The templates of the offers** from a counter on. -/
theorem templates_register : ∀ (os : List Offer) (s : Registry), s.counter + os.length ≤ 2 ^ 31 →
    (os.foldl Offer.register s).templates =
      s.templates ++ os.mapIdx fun i o => o.template (s.counter + i)
  | [], s, _ => by simp
  | o :: os, s, h => by
    rw [List.length_cons] at h
    have hid : TemplateReg.idText s.counter = "t" ++ toString s.counter := snprintf_id (by omega)
    have hcounter : (Offer.register s o).counter = s.counter + 1 := by
      change (s.counter + 1) % 2 ^ 32 = s.counter + 1
      exact Nat.mod_eq_of_lt (by omega)
    have htemplates : (Offer.register s o).templates = s.templates ++ [o.template s.counter] := by
      change s.templates ++ [⟨⟨TemplateReg.idText s.counter, o.name, o.icon, o.type⟩, o.cb, o.data⟩] = _
      rw [hid]
      rfl
    rw [List.foldl_cons, templates_register os _ (by omega), hcounter, htemplates, List.append_assoc,
      List.mapIdx_cons, List.singleton_append]
    simp only [Nat.add_zero, Nat.add_assoc, Nat.add_comm 1]

/-- **The templates are the offers in their order.** -/
theorem templates_startup {d : Desktop} (h : (offers d).length ≤ 2 ^ 31) :
    (startup d).templates = (offers d).mapIdx fun i o => o.template i := by
  rw [startup_eq, templates_register _ _ (by simpa [TemplateReg.start] using h)]
  simp [TemplateReg.start, TemplateReg.templates]

/-- The lookup of the id at a place finds the offer at this place. -/
theorem template_startup {d : Desktop} (h : (offers d).length ≤ 2 ^ 31) {i : ℕ} {o : Offer}
    (ho : (offers d)[i]? = some o) :
    (startup d).template ("t" ++ toString i) = some (o.template i) := by
  rw [template_eq, templates_startup h]
  obtain ⟨hi, rfl⟩ := List.getElem?_eq_some_iff.mp ho
  refine List.find?_eq_some_iff_getElem.mpr ⟨beq_self_eq_true _, i, by simpa using hi, ?_, ?_⟩
  · rw [List.getElem_mapIdx]
  · intro j hj
    rw [List.getElem_mapIdx]
    have hne : "t" ++ toString j ≠ "t" ++ toString i := fun heq => by
      have := id_injective heq
      omega
    simpa [Offer.template] using hne

end Spawny.Daemon.Startup
