import Spawny.Lib.History
import Spawny.Daemon.TemplateRegistry

/-! # desktop_common.c: templates from .desktop files

`ini_parse` is a parameter: what it returns for a file, and the key lines for which it calls the
handler, each with the group it stands in. The handler does not look at the group, so the last line
with a key counts, wherever it stands.

* `foldl_parseFileHandler`: what is left in the `Session` after all lines;
* `lastValue_eq`: the last line of a key is one of another group, or the last one of the group;
* `parseFile_iff`: **when two files with the same `[Desktop Entry]` give the same template**;
* `parseFile_own`: a file with the three keys in no other group gives the template of its group. -/

namespace Spawny.Daemon.DesktopFiles

open Spawny.Lib.History Spawny.Daemon.State Spawny.Daemon.TemplateRegistry

/-! ### The functions of desktop_common.c -/

/-- A call of the handler. -/
structure KeyLine where
  sect : String
  name : String
  value : String
  deriving DecidableEq, Repr

/-- What `ini_parse` returns for a file, and the calls it makes. -/
structure IniRun where
  ret : ℤ
  calls : List KeyLine
  deriving DecidableEq, Repr

/-- `Session`. -/
structure Session where
  name : Option String
  exec : Option String
  icon : Option String
  deriving DecidableEq, Repr

/-- `_parse_file_handler`, which returns 1 for every line. -/
def parseFileHandler (session : Session) (line : KeyLine) : Session :=
  if line.name = "Name" then { session with name := some line.value }
  else if line.name = "Exec" then { session with exec := some line.value }
  else if line.name = "Icon" then { session with icon := some line.value }
  else session

/-- `parse_ini_verbose`, with what the handler has left in `user`. -/
def parseIniVerbose {σ : Type*} (file : IniRun) (handler : σ → KeyLine → σ) (user : σ) : Bool × σ :=
  (file.ret == 0, file.calls.foldl handler user)

variable {κ : Type*}

/-- `_parse_file`: the registry after it. -/
def parseFile (file : IniRun) (type : String) (fireUp : Option κ)
    (s : TemplateReg κ (Option String)) : TemplateReg κ (Option String) :=
  let (parsed, session) := parseIniVerbose file parseFileHandler ⟨none, none, none⟩
  let reg := session.name.isSome && session.exec.isSome
  if parsed && reg then (s.register session.name session.icon type fireUp session.exec).1 else s

/-! ### The last line of a key -/

/-- The value of the last line with the key, in whatever group. -/
def lastValue (key : String) (lines : List KeyLine) : Option String :=
  latest key (lines.map fun l => (l.name, l.value))

theorem lastValue_concat (key : String) (lines : List KeyLine) (l : KeyLine) :
    lastValue key (lines ++ [l]) = if l.name = key then some l.value else lastValue key lines := by
  unfold lastValue
  rw [List.map_append, List.map_singleton, latest_concat]

theorem isSome_lastValue {key : String} {lines : List KeyLine} :
    (lastValue key lines).isSome = true ↔ ∃ l ∈ lines, l.name = key := by
  induction lines using List.reverseRecOn with
  | nil => simp [lastValue]
  | append_singleton lines l ih =>
    rw [lastValue_concat]
    split_ifs with hl
    · exact ⟨fun _ => ⟨l, by simp, hl⟩, fun _ => rfl⟩
    · rw [ih]
      constructor
      · rintro ⟨l', hl', hkey⟩
        exact ⟨l', List.mem_append_left _ hl', hkey⟩
      · rintro ⟨l', hl', hkey⟩
        rcases List.mem_append.mp hl' with hl' | hl'
        · exact ⟨l', hl', hkey⟩
        · obtain rfl := List.mem_singleton.mp hl'
          exact absurd hkey hl

/-- **What the handler leaves** after all lines. -/
theorem foldl_parseFileHandler (lines : List KeyLine) :
    lines.foldl parseFileHandler ⟨none, none, none⟩ =
      ⟨lastValue "Name" lines, lastValue "Exec" lines, lastValue "Icon" lines⟩ := by
  induction lines using List.reverseRecOn with
  | nil => rfl
  | append_singleton lines l ih =>
    rw [List.foldl_append, ih, List.foldl_cons, List.foldl_nil, lastValue_concat, lastValue_concat,
      lastValue_concat, parseFileHandler]
    by_cases hname : l.name = "Name"
    · simp [hname]
    · by_cases hexec : l.name = "Exec"
      · simp [hexec]
      · simp [hname, hexec]
        split_ifs <;> rfl

/-! ### Groups -/

def ENTRY : String := "Desktop Entry"

/-- The lines of the group `[Desktop Entry]`. -/
def entryLines (lines : List KeyLine) : List KeyLine := lines.filter fun l => l.sect = ENTRY

/-- The value that the group itself gives to the key. -/
def ownValue (key : String) (lines : List KeyLine) : Option String :=
  lastValue key (entryLines lines)

/-- The value of the last line with the key, if that line stands in another group. -/
def foreignValue (key : String) (lines : List KeyLine) : Option String :=
  match (lines.filter fun l => l.name = key).getLast? with
  | some l => if l.sect = ENTRY then none else some l.value
  | none => none

theorem foreignValue_concat (key : String) (lines : List KeyLine) (l : KeyLine) :
    foreignValue key (lines ++ [l]) =
      if l.name = key then (if l.sect = ENTRY then none else some l.value)
      else foreignValue key lines := by
  unfold foreignValue
  rw [List.filter_append]
  by_cases hl : l.name = key
  · simp [hl]
  · simp [hl]

theorem ownValue_concat (key : String) (lines : List KeyLine) (l : KeyLine) :
    ownValue key (lines ++ [l]) =
      if l.sect = ENTRY ∧ l.name = key then some l.value else ownValue key lines := by
  unfold ownValue entryLines
  rw [List.filter_append]
  by_cases hsect : l.sect = ENTRY
  · rw [List.filter_cons_of_pos (by simp [hsect]), List.filter_nil, lastValue_concat]
    simp [hsect]
  · rw [List.filter_cons_of_neg (by simp [hsect]), List.filter_nil, List.append_nil]
    simp [hsect]

/-- **Which line counts** for a key. -/
theorem lastValue_eq (key : String) (lines : List KeyLine) :
    lastValue key lines = (foreignValue key lines).or (ownValue key lines) := by
  induction lines using List.reverseRecOn with
  | nil => rfl
  | append_singleton lines l ih =>
    rw [lastValue_concat, foreignValue_concat, ownValue_concat]
    by_cases hl : l.name = key
    · by_cases hsect : l.sect = ENTRY
      · simp [hl, hsect]
      · simp [hl, hsect]
    · simp [hl, ih]

theorem foreignValue_eq_none {key : String} {lines : List KeyLine}
    (h : ∀ l ∈ lines, l.name = key → l.sect = ENTRY) : foreignValue key lines = none := by
  unfold foreignValue
  cases hlast : (lines.filter fun l => l.name = key).getLast? with
  | none => rfl
  | some l =>
    obtain ⟨hmem, hkey⟩ := List.mem_filter.mp (List.mem_of_getLast? hlast)
    exact if_pos (h l hmem (by simpa using hkey))

/-! ### Two files -/

/-- The keys that are looked at. -/
def sessionKeys : List String := ["Name", "Exec", "Icon"]

/-- There is a line for each key that a template needs, in whatever group. -/
def Complete (lines : List KeyLine) : Prop := ∀ key ∈ ["Name", "Exec"], ∃ l ∈ lines, l.name = key

/-- The lines of other groups make no difference between the files: for each key, what they put over
the value of the group, if anything, comes to the same. -/
def SameOverrides (lines lines' : List KeyLine) : Prop :=
  ∀ key ∈ sessionKeys, (foreignValue key lines).or (ownValue key lines) =
    (foreignValue key lines').or (ownValue key lines)

/-- What `_parse_file` gives to `template_register`: name, icon and data. -/
def registered (lines : List KeyLine) : Option (String × Option String × String) :=
  match lastValue "Name" lines, lastValue "Exec" lines with
  | some name, some exec => some (name, lastValue "Icon" lines, exec)
  | _, _ => none

theorem registered_eq_some {lines : List KeyLine} {name exec : String} {icon : Option String} :
    registered lines = some (name, icon, exec) ↔ lastValue "Name" lines = some name ∧
      lastValue "Exec" lines = some exec ∧ lastValue "Icon" lines = icon := by
  unfold registered
  cases lastValue "Name" lines with
  | none => simp
  | some name' =>
    cases lastValue "Exec" lines with
    | none => simp
    | some exec' =>
      simp only [Option.some.injEq, Prod.mk.injEq]
      tauto

theorem exists_registered_iff {lines : List KeyLine} :
    (∃ template, registered lines = some template) ↔ Complete lines := by
  have hcomplete : Complete lines ↔ (lastValue "Name" lines).isSome = true ∧
      (lastValue "Exec" lines).isSome = true := by
    simp only [Complete, List.forall_mem_cons, isSome_lastValue, List.not_mem_nil,
      false_implies, implies_true, and_true]
  rw [hcomplete, Option.isSome_iff_exists, Option.isSome_iff_exists]
  constructor
  · rintro ⟨⟨name, icon, exec⟩, h⟩
    obtain ⟨hname, hexec, -⟩ := registered_eq_some.mp h
    exact ⟨⟨name, hname⟩, exec, hexec⟩
  · rintro ⟨⟨name, hname⟩, exec, hexec⟩
    exact ⟨(name, _, exec), registered_eq_some.mpr ⟨hname, hexec, rfl⟩⟩

theorem registered_eq_iff {lines lines' : List KeyLine} :
    registered lines = registered lines' ↔ (Complete lines ∨ Complete lines' →
      ∀ key ∈ sessionKeys, lastValue key lines = lastValue key lines') := by
  constructor
  · intro heq hcomplete
    obtain ⟨⟨name, icon, exec⟩, h⟩ : ∃ template, registered lines = some template := by
      rcases hcomplete with hc | hc
      · exact exists_registered_iff.mpr hc
      · rw [heq]
        exact exists_registered_iff.mpr hc
    obtain ⟨hname, hexec, hicon⟩ := registered_eq_some.mp h
    obtain ⟨hname', hexec', hicon'⟩ := registered_eq_some.mp (heq.symm.trans h)
    simp only [sessionKeys, List.forall_mem_cons, List.not_mem_nil, false_implies, implies_true,
      and_true]
    exact ⟨hname.trans hname'.symm, hexec.trans hexec'.symm, hicon.trans hicon'.symm⟩
  · intro h
    by_cases hcomplete : Complete lines ∨ Complete lines'
    · have hkeys := h hcomplete
      simp only [sessionKeys, List.forall_mem_cons] at hkeys
      rw [registered, registered, hkeys.1, hkeys.2.1, hkeys.2.2.1]
    · obtain ⟨hno, hno'⟩ := not_or.mp hcomplete
      have hnone : ∀ {ls : List KeyLine}, ¬Complete ls → registered ls = none := fun hls =>
        Option.eq_none_iff_forall_ne_some.mpr fun template h =>
          hls (exists_registered_iff.mp ⟨template, h⟩)
      rw [hnone hno, hnone hno']

/-- A file that is parsed without an error. -/
theorem parseFile_eq {file : IniRun} (hret : file.ret = 0) (type : String) (cb : κ)
    (s : TemplateReg κ (Option String)) :
    parseFile file type (some cb) s =
      match registered file.calls with
      | some (name, icon, exec) => (s.register (some name) icon type (some cb) (some exec)).1
      | none => s := by
  unfold parseFile parseIniVerbose registered
  rw [foldl_parseFileHandler, hret]
  cases lastValue "Name" file.calls with
  | none => rfl
  | some name => cases lastValue "Exec" file.calls <;> rfl

/-- Registering shows name, icon and data. -/
theorem register_inj {name name' exec exec' type : String} {icon icon' : Option String} {cb : κ}
    {s : TemplateReg κ (Option String)} :
    (s.register (some name) icon type (some cb) (some exec)).1 =
        (s.register (some name') icon' type (some cb) (some exec')).1 ↔
      (name, icon, exec) = (name', icon', exec') := by
  simp [TemplateReg.register, and_assoc]

theorem register_ne {name exec type : String} {icon : Option String} {cb : κ}
    {s : TemplateReg κ (Option String)} :
    (s.register (some name) icon type (some cb) (some exec)).1 ≠ s := by
  intro h
  have hlen := congrArg (fun s => s.templates.length) h
  simp [TemplateReg.register, TemplateReg.templates] at hlen

theorem parseFile_eq_iff {f g : IniRun} (hf : f.ret = 0) (hg : g.ret = 0) (type : String) (cb : κ)
    (s : TemplateReg κ (Option String)) :
    parseFile f type (some cb) s = parseFile g type (some cb) s ↔
      registered f.calls = registered g.calls := by
  rw [parseFile_eq hf, parseFile_eq hg]
  constructor
  · intro h
    cases hrf : registered f.calls with
    | none =>
      cases hrg : registered g.calls with
      | none => rfl
      | some template =>
        rw [hrf, hrg] at h
        exact absurd h.symm register_ne
    | some template =>
      cases hrg : registered g.calls with
      | none =>
        rw [hrf, hrg] at h
        exact absurd h register_ne
      | some template' =>
        rw [hrf, hrg] at h
        exact congrArg some (register_inj.mp h)
  · intro h
    rw [h]

/-- **When two files with the same `[Desktop Entry]` give the same template**, or none: the lines of
other groups make no difference, or both files lack a key. -/
theorem parseFile_iff {f g : IniRun} (hf : f.ret = 0) (hg : g.ret = 0)
    (hsame : entryLines f.calls = entryLines g.calls) (type : String) (cb : κ)
    (s : TemplateReg κ (Option String)) :
    parseFile f type (some cb) s = parseFile g type (some cb) s ↔
      (Complete f.calls ∨ Complete g.calls → SameOverrides f.calls g.calls) := by
  rw [parseFile_eq_iff hf hg, registered_eq_iff]
  refine imp_congr_right fun _ => forall₂_congr fun key _ => ?_
  rw [lastValue_eq, lastValue_eq, ownValue, ownValue, hsame]

/-- A file with nothing but its group. -/
def gnome : List KeyLine :=
  [⟨ENTRY, "Name", "GNOME"⟩, ⟨ENTRY, "Exec", "gnome-session"⟩, ⟨ENTRY, "Icon", "gnome"⟩]

/-- The same with an action behind it. -/
def gnomeAction : List KeyLine :=
  gnome ++ [⟨"Desktop Action new", "Name", "New"⟩, ⟨"Desktop Action new", "Exec", "gnome-new"⟩]

/-- An action in front of the group changes nothing. -/
theorem parseFile_actionFirst :
    parseFile ⟨0, ⟨"Desktop Action new", "Name", "New"⟩ :: gnome⟩ "wayland" (some ())
        TemplateReg.start =
      parseFile ⟨0, gnome⟩ "wayland" (some ()) TemplateReg.start :=
  (parseFile_iff rfl rfl (by decide) "wayland" () TemplateReg.start).mpr fun _ => by
    unfold SameOverrides
    decide

/-- The action behind the group gives its name and its program to the template. -/
theorem action_registered : entryLines gnomeAction = entryLines gnome ∧
    (parseFile ⟨0, gnome⟩ "wayland" (some ()) TemplateReg.start).templates.map
      (fun t => (t.name, t.data)) = [("GNOME", some "gnome-session")] ∧
    (parseFile ⟨0, gnomeAction⟩ "wayland" (some ()) TemplateReg.start).templates.map
      (fun t => (t.name, t.data)) = [("New", some "gnome-new")] ∧
    parseFile ⟨0, gnomeAction⟩ "wayland" (some ()) TemplateReg.start ≠
      parseFile ⟨0, gnome⟩ "wayland" (some ()) TemplateReg.start := by
  have hgnome : (parseFile ⟨0, gnome⟩ "wayland" (some ()) TemplateReg.start).templates.map
      (fun t => (t.name, t.data)) = [("GNOME", some "gnome-session")] := by decide
  have hnew : (parseFile ⟨0, gnomeAction⟩ "wayland" (some ()) TemplateReg.start).templates.map
      (fun t => (t.name, t.data)) = [("New", some "gnome-new")] := by decide
  refine ⟨by decide, hgnome, hnew, fun heq => ?_⟩
  rw [heq, hgnome] at hnew
  revert hnew
  decide

/-- **A file with the three keys in no other group** gives the template of its group. -/
theorem parseFile_own {file : IniRun} (hret : file.ret = 0)
    (h : ∀ l ∈ file.calls, l.name ∈ sessionKeys → l.sect = ENTRY) (type : String) (cb : κ)
    (s : TemplateReg κ (Option String)) :
    parseFile file type (some cb) s =
      parseFile ⟨0, entryLines file.calls⟩ type (some cb) s := by
  refine (parseFile_eq_iff hret rfl type cb s).mpr (registered_eq_iff.mpr fun _ key hkey => ?_)
  rw [lastValue_eq, foreignValue_eq_none fun l hl hname => h l hl (hname ▸ hkey), Option.none_or]
  rfl

end Spawny.Daemon.DesktopFiles
