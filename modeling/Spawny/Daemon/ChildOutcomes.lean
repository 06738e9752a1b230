import Spawny.Daemon.Child

/-! # What a child says, and when it runs the job

The program of the child is taken apart into its functions: `wp_openTty` and `wp_pamAuth` say how each
of them can end.

* `TtyWorks`, `PamWorks`, `Passes`: the answers with which the child gets through;
* `child_outcome`: **how the child ends, and what it has written by then**;
* `job_iff`: **the job is run exactly if every step has succeeded**, and then as the user. -/

namespace Spawny.Daemon.ChildOutcomes

open Spawny.Lib.Descriptors Spawny.Lib.FirstMatch Spawny.Lib.Programs
open Spawny.Daemon.State Spawny.Daemon.Loop Spawny.Daemon.Conversation
open Spawny.Daemon.ActiveSessions Spawny.Daemon.Child

variable {t writeFd : ℕ} {α : Type} {s s₀ : Proc} {E : Stop → Proc → Prop}

/-! ### Descriptors -/

/-- Of the numbers below 3, those below `n` are the terminal and the others are free. -/
def Std (n : ℕ) (fds : List (Option ChildFd)) : Prop :=
  ∀ m < 3, lookup fds m = if m < n then some .tty else none

/-- The descriptors from 3 on are the same. -/
def Above (fds fds' : List (Option ChildFd)) : Prop := ∀ m, 3 ≤ m → lookup fds' m = lookup fds m

theorem Above.trans {fds fds' fds'' : List (Option ChildFd)} (h : Above fds fds')
    (h' : Above fds' fds'') : Above fds fds'' := fun m hm => (h' m hm).trans (h m hm)

theorem lowestFree_std {n : ℕ} {fds : List (Option ChildFd)} (h : Std n fds) (hn : n < 3) :
    lowestFree fds = n := by
  refine lowestFree_eq ?_ fun m hm => ?_
  · rw [h n hn, if_neg (Nat.lt_irrefl n)]
  · rw [h m (Nat.lt_trans hm hn), if_pos hm]
    exact Option.some_ne_none _

theorem wp_newTtyFd {n : ℕ} {ok : Bool} {Q : Option ℕ → Proc → Prop} (h : Std n s.fds) (hn : n < 3)
    (hyes : ok = true → ∀ fds, Std (n + 1) fds → Above s.fds fds → Q (some n) { s with fds := fds })
    (hno : ok = false → Q none s) : wp (newTtyFd ok) Q E s := by
  have hlow := lowestFree_std h hn
  unfold newTtyFd
  cases ok with
  | false => exact hno rfl
  | true =>
    simp only [if_true, wp_bind, wp_read, wp_change, wp_pure, hlow]
    refine hyes rfl _ (fun m hm => ?_) fun m hm => ?_
    · rw [lookup_open, hlow, h m hm]
      split_ifs <;> first | rfl | omega
    · rw [lookup_open, hlow, if_neg (by omega)]

/-- The three descriptors of the terminal, when it is open at 0. -/
theorem wp_standard {dups : Bool × Bool} {Q : Bool → Proc → Prop} (h : Std 1 s.fds)
    (hyes : dups.1 = true → dups.2 = true → ∀ fds, Std 3 fds → Above s.fds fds →
      Q true { s with fds := fds })
    (hno : ¬(dups.1 = true ∧ dups.2 = true) → ∀ fds, Above s.fds fds →
      Q false { s with fds := fds }) : wp (standard (some 0) dups) Q E s := by
  unfold standard
  simp only [ne_eq, not_true_eq_false, if_false, wp_bind]
  refine wp_newTtyFd h (by decide) (fun hfirst fds hstd habove => ?_) fun hfirst => ?_
  · rw [if_neg (by simp), wp_bind]
    refine wp_newTtyFd hstd (by decide) (fun hsecond fds' hstd' habove' => ?_) fun hsecond => ?_
    · rw [if_neg (by simp)]
      exact hyes hfirst hsecond fds' hstd' (habove.trans habove')
    · rw [if_pos (by simp)]
      exact hno (by simp [hsecond]) fds habove
  · rw [if_pos (by simp)]
    exact hno (by simp [hfirst]) s.fds fun _ _ => rfl

theorem wp_closeStd {Q : Unit → Proc → Prop}
    (hQ : ∀ fds, Std 0 fds → Above s.fds fds → Q () { s with fds := fds }) : wp closeStd Q E s := by
  unfold closeStd closeFd
  simp only [wp_bind, wp_change]
  refine hQ _ (fun m hm => ?_) fun m hm => ?_
  · rw [lookup_close, lookup_close, lookup_close, if_neg (Nat.not_lt_zero m)]
    split_ifs <;> first | rfl | omega
  · rw [lookup_close, lookup_close, lookup_close, if_neg (by omega), if_neg (by omega),
      if_neg (by omega)]

/-- The process has the terminal as its controlling one, or gets it. -/
def Controls (pid : ℤ) (o : TtyOpen) : Prop := (0 ≤ o.sid ∧ pid = o.sid) ∨ o.control = true

theorem wp_controlTty {pid : ℤ} {o : TtyOpen} {Q : Bool → Proc → Prop}
    (hyes : Controls pid o → Q true { s with controls := true })
    (hno : ¬Controls pid o → Q false s) : wp (controlTty pid o) Q E s := by
  unfold controlTty
  by_cases hsid : o.sid < 0 ∨ pid ≠ o.sid
  · rw [if_pos hsid]
    cases hctl : o.control with
    | true => exact hyes (Or.inr hctl)
    | false =>
      refine hno ?_
      rintro (⟨hle, heq⟩ | hctl')
      · rcases hsid with hlt | hne
        · omega
        · exact hne heq
      · rw [hctl] at hctl'
        cases hctl'
  · rw [if_neg hsid]
    rw [not_or, not_lt, not_not] at hsid
    exact hyes (Or.inl hsid)

/-! ### What has been written -/

/-- The pipe is where it was in `s₀`, nothing was written since, and no job was started. -/
structure Quiet (writeFd : ℕ) (s₀ s : Proc) : Prop where
  pipe : lookup s.fds writeFd = lookup s₀.fds writeFd
  written : s.written = s₀.written
  job : s.job = s₀.job

/-- `ms` was written since `s₀`, if the pipe was open, and no job was started. -/
structure Told (t writeFd : ℕ) (s₀ : Proc) (ms : List ServiceMessage) (s : Proc) : Prop where
  pipe : lookup s.fds writeFd = lookup s₀.fds writeFd
  written : s.written = if s₀.connected t writeFd then s₀.written ++ ms else s₀.written
  job : s.job = s₀.job

/-- The child has given up, with a reason. -/
def GaveUp (t writeFd : ℕ) (s₀ s : Proc) : Prop :=
  ∃ reason, Told t writeFd s₀ [.errorExit reason] s

theorem Quiet.told (h : Quiet writeFd s₀ s) : Told t writeFd s₀ [] s where
  pipe := h.pipe
  written := by
    rw [h.written, List.append_nil]
    split_ifs <;> rfl
  job := h.job

theorem Told.trans {ms ms' : List ServiceMessage} {s' : Proc} (h : Told t writeFd s₀ ms s)
    (h' : Told t writeFd s ms' s') : Told t writeFd s₀ (ms ++ ms') s' where
  pipe := h'.pipe.trans h.pipe
  written := by
    have hconn : s.connected t writeFd ↔ s₀.connected t writeFd := by
      unfold Proc.connected
      rw [h.pipe]
    rw [h'.written, h.written]
    by_cases hc : s₀.connected t writeFd
    · rw [if_pos (hconn.mpr hc), if_pos hc, if_pos hc, List.append_assoc]
    · rw [if_neg fun hc' => hc (hconn.mp hc'), if_neg hc, if_neg hc]
  job := h'.job.trans h.job

theorem wp_serviceMessage {m : ServiceMessage} {Q : Unit → Proc → Prop}
    (hQ : ∀ s', Told t writeFd s [m] s' → s' = { s with written := s'.written } → Q () s') :
    wp (serviceMessage t writeFd m) Q E s := by
  unfold serviceMessage
  rw [wp_change]
  split_ifs with hc
  · exact hQ _ ⟨rfl, (if_pos hc).symm, rfl⟩ rfl
  · exact hQ _ ⟨rfl, (if_neg hc).symm, rfl⟩ rfl

/-- The child gives up where nothing has been written since `s₀`. -/
theorem wp_fails {reason : String} {Q : Bool → Proc → Prop} (h : Quiet writeFd s₀ s)
    (hQ : ∀ s', GaveUp t writeFd s₀ s' → Q false s') : wp (fails t writeFd reason) Q E s := by
  unfold fails serviceComExit
  rw [wp_bind]
  exact wp_serviceMessage fun s' htold _ => hQ s' ⟨reason, h.told.trans htold⟩

/-! ### open_tty -/

/-- The terminal can be opened, controlled, and made the standard input and output. -/
structure Opens (pid : ℤ) (o : TtyOpen) : Prop where
  opens : o.opens = true
  controls : Controls pid o
  dups : o.dups.1 = true ∧ o.dups.2 = true

/-- The answers with which `open_tty` succeeds. -/
structure TtyWorks (e : ChildEnv) : Prop where
  user : e.ttyUser.isSome = true
  group : e.ttyGroup.isSome = true
  first : Opens e.pid e.first
  isatty : e.isatty = true
  vhangup : e.vhangup = true
  again : Opens e.pid e.again
  tcsetpgrp : e.tcsetpgrp = true
  chown : e.chown = true
  chmod : e.chmod = true

theorem wp_grabTty {e : ChildEnv} {Q : Bool → Proc → Prop} (hfd : 3 ≤ writeFd) (h : Std 0 s.fds)
    (hyes : Opens e.pid e.first → e.isatty = true → e.vhangup = true → ∀ fds, Above s.fds fds →
      Q true { s with fds := fds, controls := true })
    (hno : ¬(Opens e.pid e.first ∧ e.isatty = true ∧ e.vhangup = true) →
      ∀ s', GaveUp t writeFd s s' → Q false s') : wp (grabTty t writeFd e) Q E s := by
  unfold grabTty
  simp only [wp_bind]
  refine wp_newTtyFd h (by decide) (fun hopens fds hstd habove => ?_) fun hopens => ?_
  · dsimp only
    have hquiet : ∀ fds', Above s.fds fds' → ∀ b,
        Quiet writeFd s { s with fds := fds', controls := b } := fun fds' h' _ => ⟨h' _ hfd, rfl, rfl⟩
    by_cases htty : e.isatty = true
    · rw [if_neg (by simp [htty]), wp_bind]
      refine wp_controlTty (fun hctl => ?_) fun hctl => ?_
      · rw [if_neg (by simp), wp_bind]
        refine wp_standard hstd (fun hfst hsnd fds' _ habove' => ?_) fun hdups fds' habove' => ?_
        · rw [if_neg (by simp)]
          by_cases hhang : e.vhangup = true
          · rw [if_neg (by simp [hhang])]
            exact hyes ⟨hopens, hctl, hfst, hsnd⟩ htty hhang fds' (habove.trans habove')
          · rw [if_pos (by simpa using hhang)]
            exact wp_fails (hquiet fds' (habove.trans habove') true) (hno fun hall => hhang hall.2.2)
        · rw [if_pos (by simp)]
          exact wp_fails (hquiet fds' (habove.trans habove') true) (hno fun hall => hdups hall.1.dups)
      · rw [if_pos (by simp)]
        exact wp_fails (hquiet fds habove s.controls) (hno fun hall => hctl hall.1.controls)
    · rw [if_pos (by simpa using htty)]
      exact wp_fails (hquiet fds habove s.controls) (hno fun hall => htty hall.2.1)
  · refine wp_fails ⟨rfl, rfl, rfl⟩ (hno fun hall => ?_)
    rw [hall.1.opens] at hopens
    cases hopens

/-- The mode that the terminal gets. -/
def ttyMode (gr : ℕ) : ℕ := if gr ≠ 0 then 0o620 else 0o600

/-- The process when the terminal is its own and the user's. -/
def onTty (pwd : Passwd) (gr : ℕ) (fds : List (Option ChildFd)) (s : Proc) : Proc :=
  { s with
    fds := fds, controls := true, foreground := true, ttyOwner := some (pwd.uid, gr),
    ttyMode := some (ttyMode gr) }

theorem wp_reopenTty {e : ChildEnv} {pwd : Passwd} {gr : ℕ} {Q : Bool → Proc → Prop}
    (hfd : 3 ≤ writeFd) (h : Std 0 s.fds)
    (hyes : Opens e.pid e.again → e.tcsetpgrp = true → e.chown = true → e.chmod = true →
      ∀ fds, Std 3 fds → Above s.fds fds → Q true (onTty pwd gr fds s))
    (hno : ¬(Opens e.pid e.again ∧ e.tcsetpgrp = true ∧ e.chown = true ∧ e.chmod = true) →
      ∀ s', GaveUp t writeFd s s' → Q false s') : wp (reopenTty t writeFd e pwd gr) Q E s := by
  unfold reopenTty
  simp only [wp_bind]
  refine wp_newTtyFd h (by decide) (fun hopens fds hstd habove => ?_) fun hopens => ?_
  · dsimp only
    rw [wp_bind]
    refine wp_controlTty (fun hctl => ?_) fun hctl => ?_
    · rw [if_neg (by simp)]
      by_cases hgrp : e.tcsetpgrp = true
      · rw [if_neg (by simp [hgrp]), wp_bind, wp_change, wp_bind]
        refine wp_standard hstd (fun hfst hsnd fds' hstd' habove' => ?_)
          fun hdups fds' habove' => ?_
        · have hpipe : lookup fds' writeFd = lookup s.fds writeFd :=
            (habove.trans habove') _ hfd
          rw [if_neg (by simp)]
          by_cases hown : e.chown = true
          · rw [if_neg (by simp [hown]), wp_bind, wp_change]
            by_cases hmod : e.chmod = true
            · rw [if_neg (by simp [hmod]), wp_bind, wp_change]
              exact hyes ⟨hopens, hctl, hfst, hsnd⟩ hgrp hown hmod fds' hstd'
                (habove.trans habove')
            · rw [if_pos (by simpa using hmod)]
              exact wp_fails ⟨hpipe, rfl, rfl⟩ (hno fun hall => hmod hall.2.2.2)
          · rw [if_pos (by simpa using hown)]
            exact wp_fails ⟨hpipe, rfl, rfl⟩ (hno fun hall => hown hall.2.2.1)
        · rw [if_pos (by simp)]
          exact wp_fails ⟨(habove.trans habove') _ hfd, rfl, rfl⟩
            (hno fun hall => hdups hall.1.dups)
      · rw [if_pos (by simpa using hgrp)]
        exact wp_fails ⟨habove _ hfd, rfl, rfl⟩ (hno fun hall => hgrp hall.2.1)
    · rw [if_pos (by simp)]
      exact wp_fails ⟨habove _ hfd, rfl, rfl⟩ (hno fun hall => hctl hall.1.controls)
  · refine wp_fails ⟨rfl, rfl, rfl⟩ (hno fun hall => ?_)
    rw [hall.1.opens] at hopens
    cases hopens

/-- A process that gives up later, with nothing written in between. -/
theorem GaveUp.of_quiet {s' : Proc} (h : GaveUp t writeFd s s') (hq : Quiet writeFd s₀ s) :
    GaveUp t writeFd s₀ s' := by
  obtain ⟨reason, htold⟩ := h
  exact ⟨reason, hq.told.trans htold⟩

/-- **`open_tty`.** -/
theorem wp_openTty {e : ChildEnv} {Q : Bool → Proc → Prop} (hfd : 3 ≤ writeFd) (h : Std 0 s.fds)
    (hyes : TtyWorks e → ∀ pwd gr, e.ttyUser = some pwd → e.ttyGroup = some gr →
      ∀ fds, Std 3 fds → Above s.fds fds →
        Q true { onTty pwd gr fds s with hupIgnored := false })
    (hno : ¬TtyWorks e → ∀ s', GaveUp t writeFd s s' → Q false s') :
    wp (openTty t writeFd e) Q E s := by
  unfold openTty
  rw [wp_bind, wp_change]
  have hquiet : Quiet writeFd s { s with hupIgnored := true } := ⟨rfl, rfl, rfl⟩
  cases huser : e.ttyUser with
  | none =>
    refine wp_fails hquiet (hno fun hall => ?_)
    have hsome := hall.user
    rw [huser] at hsome
    cases hsome
  | some pwd =>
    cases hgroup : e.ttyGroup with
    | none =>
      refine wp_fails hquiet (hno fun hall => ?_)
      have hsome := hall.group
      rw [hgroup] at hsome
      cases hsome
    | some gr =>
      dsimp only
      rw [wp_bind]
      refine wp_grabTty hfd h (fun hfirst htty hhang fds habove => ?_) fun hgrab s' hgave => ?_
      · rw [if_neg (by simp), wp_bind]
        refine wp_closeStd fun fds' hstd habove' => ?_
        rw [wp_bind]
        have habove := habove.trans habove'
        refine wp_reopenTty hfd hstd (fun hagain hgrp hown hmod fds'' hstd' habove'' => ?_)
          fun hagain s' hgave => ?_
        · rw [if_neg (by simp)]
          exact hyes ⟨by simp [huser], by simp [hgroup], hfirst, htty, hhang, hagain, hgrp, hown, hmod⟩
            pwd gr huser hgroup fds'' hstd' (habove.trans habove'')
        · rw [if_pos (by simp)]
          exact hno (fun hall => hagain ⟨hall.again, hall.tcsetpgrp, hall.chown, hall.chmod⟩) s'
            (hgave.of_quiet ⟨habove _ hfd, rfl, rfl⟩)
      · rw [if_pos (by simp)]
        exact hno (fun hall => hgrab ⟨hall.first, hall.isatty, hall.vhangup⟩) s'
          (hgave.of_quiet hquiet)

/-! ### pam_auth -/

/-- `ms` are texts of `_service_com_exit`. -/
def Reasons (ms : List ServiceMessage) : Prop := ∀ m ∈ ms, ∃ reason, m = .errorExit reason

theorem Reasons.append {ms ms' : List ServiceMessage} (h : Reasons ms) (h' : Reasons ms') :
    Reasons (ms ++ ms') := by
  intro m hm
  rcases List.mem_append.mp hm with hm | hm
  · exact h m hm
  · exact h' m hm

/-- `_pam_conv` only writes reasons. -/
theorem reasons_pamConv {pw : Option String} {msgs : List PamMessage}
    {r : List (Option String) × List ServiceMessage} (h : pamConv pw msgs = some r) :
    Reasons r.2 := by
  match msgs, h with
  | [], h =>
    obtain rfl := Option.some.inj h
    exact fun m hm => absurd hm List.not_mem_nil
  | [m], h =>
    obtain rfl := Option.some.inj h
    intro m' hm'
    unfold pamReply at hm'
    cases hs : m.style <;> simp [hs] at hm'
    · exact ⟨_, hm'⟩
    · exact ⟨_, hm'⟩

/-- The child has only told reasons, and the rest of the process is the same. -/
def Said (t writeFd : ℕ) (s₀ s : Proc) : Prop :=
  ∃ ms, Reasons ms ∧ Told t writeFd s₀ ms s ∧ s = { s₀ with written := s.written }

theorem Said.refl (s : Proc) : Said t writeFd s s :=
  ⟨[], fun _ hm => absurd hm List.not_mem_nil, Quiet.told ⟨rfl, rfl, rfl⟩, rfl⟩

theorem Said.trans {s' : Proc} (h : Said t writeFd s₀ s) (h' : Said t writeFd s s') :
    Said t writeFd s₀ s' := by
  obtain ⟨ms, hms, htold, heq⟩ := h
  obtain ⟨ms', hms', htold', heq'⟩ := h'
  refine ⟨ms ++ ms', hms.append hms', htold.trans htold', ?_⟩
  rw [heq', heq]

theorem wp_messages {Q : Unit → Proc → Prop} : ∀ {ms : List ServiceMessage}, Reasons ms →
    ∀ {s : Proc}, (∀ s', Said t writeFd s s' → Q () s') →
      wp (each (serviceMessage t writeFd) ms) Q E s
  | [], _, s, hQ => hQ s (.refl s)
  | m :: ms, hms, s, hQ => by
    unfold each
    rw [wp_bind]
    refine wp_serviceMessage fun s₁ htold heq => ?_
    refine wp_messages (fun m' hm' => hms m' (List.mem_cons_of_mem m hm')) fun s' hsaid => ?_
    have hfirst : Said t writeFd s s₁ := by
      refine ⟨[m], fun m' hm' => ?_, htold, heq⟩
      rw [List.mem_singleton.mp hm']
      exact hms m List.mem_cons_self
    exact hQ s' (hfirst.trans hsaid)

theorem pamConv_eq_none {pw : Option String} : ∀ {msgs : List PamMessage},
    pamConv pw msgs = none ↔ ¬msgs.length ≤ 1
  | [] => by simp [pamConv]
  | [m] => by simp [pamConv]
  | m :: m' :: msgs => by simp [pamConv]

theorem wp_converses {pw : Option String} {Q : Unit → Proc → Prop} :
    ∀ {calls : List (List PamMessage)} {s : Proc},
      ((∀ call ∈ calls, call.length ≤ 1) → ∀ s', Said t writeFd s s' → Q () s') →
      ((¬∀ call ∈ calls, call.length ≤ 1) → ∀ s', Said t writeFd s s' → E .undefined s') →
        wp (each (converse t writeFd pw) calls) Q E s
  | [], s, hyes, _ => hyes (fun _ h => absurd h List.not_mem_nil) s (.refl s)
  | call :: calls, s, hyes, hno => by
    unfold each converse
    rw [wp_bind]
    cases hconv : pamConv pw call with
    | none =>
      exact hno (fun hall => pamConv_eq_none.mp hconv (hall call List.mem_cons_self)) s (.refl s)
    | some r =>
      have hlen : call.length ≤ 1 := by
        by_contra hlong
        rw [pamConv_eq_none.mpr hlong] at hconv
        cases hconv
      refine wp_messages (reasons_pamConv hconv) fun s₁ hsaid => ?_
      refine wp_converses (fun hall s' hsaid' => hyes ?_ s' (hsaid.trans hsaid'))
        fun hall s' hsaid' => hno ?_ s' (hsaid.trans hsaid')
      · exact List.forall_mem_cons.mpr ⟨hlen, hall⟩
      · exact fun h => hall (List.forall_mem_cons.mp h).2

/-- The child has given up, and said what the modules say before. -/
def Failed (t writeFd : ℕ) (s₀ s : Proc) : Prop :=
  ∃ ms reason, Reasons ms ∧ Told t writeFd s₀ (ms ++ [.errorExit reason]) s

/-- The child has crashed, and said what the modules say before. -/
def Crashed (t writeFd : ℕ) (s₀ s : Proc) : Prop := ∃ ms, Reasons ms ∧ Told t writeFd s₀ ms s

theorem Said.crashed (h : Said t writeFd s₀ s) : Crashed t writeFd s₀ s := by
  obtain ⟨ms, hms, htold, -⟩ := h
  exact ⟨ms, hms, htold⟩

theorem Crashed.gaveUp {s' : Proc} (h : Crashed t writeFd s₀ s) (h' : GaveUp t writeFd s s') :
    Failed t writeFd s₀ s' := by
  obtain ⟨ms, hms, htold⟩ := h
  obtain ⟨reason, htold'⟩ := h'
  exact ⟨ms, reason, hms, htold.trans htold'⟩

theorem Crashed.failed {s' : Proc} (h : Crashed t writeFd s₀ s) (h' : Failed t writeFd s s') :
    Failed t writeFd s₀ s' := by
  obtain ⟨ms, hms, htold⟩ := h
  obtain ⟨ms', reason, hms', htold'⟩ := h'
  refine ⟨ms ++ ms', reason, hms.append hms', ?_⟩
  rw [List.append_assoc]
  exact htold.trans htold'

theorem Crashed.trans {s' : Proc} (h : Crashed t writeFd s₀ s) (h' : Crashed t writeFd s s') :
    Crashed t writeFd s₀ s' := by
  obtain ⟨ms, hms, htold⟩ := h
  obtain ⟨ms', hms', htold'⟩ := h'
  exact ⟨ms ++ ms', hms.append hms', htold.trans htold'⟩

theorem Quiet.crashed (h : Quiet writeFd s₀ s) : Crashed t writeFd s₀ s :=
  ⟨[], fun _ hm => absurd hm List.not_mem_nil, h.told⟩

theorem wp_pamCheck {ret : PamCode} {Q : Bool → Proc → Prop} (hyes : ret = .success → Q true s)
    (hno : ret ≠ .success → ∀ s', GaveUp t writeFd s s' → Q false s') :
    wp (pamCheck t writeFd ret) Q E s := by
  unfold pamCheck
  split_ifs with h
  · exact hyes h
  · exact wp_fails ⟨rfl, rfl, rfl⟩ (hno h)

/-- The modules pass one message to a call at most, and agree. -/
def Agrees (c : PamCall) : Prop := (∀ call ∈ c.calls, call.length ≤ 1) ∧ c.ret = .success

theorem wp_pamCall {pw : Option String} {c : PamCall} {Q : Bool → Proc → Prop}
    (hyes : Agrees c → ∀ s', Said t writeFd s s' → Q true s')
    (hno : ¬Agrees c → ∀ s', Failed t writeFd s s' → Q false s')
    (hcrash : ¬Agrees c → ∀ s', Crashed t writeFd s s' → E .undefined s') :
    wp (pamCall t writeFd pw c) Q E s := by
  unfold pamCall
  rw [wp_bind]
  refine wp_converses (fun hlen s₁ hsaid => ?_) fun hlen s₁ hsaid => ?_
  · refine wp_pamCheck (fun hret => hyes ⟨hlen, hret⟩ s₁ hsaid) fun hret s' hgave => ?_
    exact hno (fun h => hret h.2) s' (hsaid.crashed.gaveUp hgave)
  · exact hcrash (fun h => hlen h.1) s₁ hsaid.crashed

/-- The variable has a value, and PAM takes it. -/
def Puts (e : ChildEnv) (v : String × Option String) : Prop :=
  ∃ x, v.2 = some x ∧ e.pamPutenv (v.1, x) = .success

/-- The variables that have a value. -/
def values (vars : List (String × Option String)) : List (String × String) :=
  vars.filterMap fun v => v.2.map fun x => (v.1, x)

theorem wp_putVars {e : ChildEnv} {Q : Bool → Proc → Prop} :
    ∀ {vars : List (String × Option String)} {s : Proc},
      ((∀ v ∈ vars, Puts e v) → Q true { s with pamEnv := s.pamEnv ++ values vars }) →
      ((¬∀ v ∈ vars, Puts e v) → ∀ s', Failed t writeFd s s' → Q false s') →
      ((¬∀ v ∈ vars, Puts e v) → ∀ s', Crashed t writeFd s s' → E .undefined s') →
        wp (putVars t writeFd e vars) Q E s
  | [], s, hyes, _, _ => by
    have h := hyes fun _ hv => absurd hv List.not_mem_nil
    simpa [values, putVars] using h
  | (name, none) :: vars, s, _, _, hcrash => by
    refine hcrash (fun hall => ?_) s (Quiet.crashed ⟨rfl, rfl, rfl⟩)
    obtain ⟨x, hx, -⟩ := hall _ List.mem_cons_self
    cases hx
  | (name, some x) :: vars, s, hyes, hno, hcrash => by
    unfold putVars putVar
    rw [wp_bind]
    dsimp only
    rw [wp_bind, wp_change]
    refine wp_pamCheck (fun hret => ?_) fun hret s' hgave => ?_
    · rw [if_pos rfl]
      have hquiet : Quiet writeFd s { s with pamEnv := s.pamEnv ++ [(name, x)] } := ⟨rfl, rfl, rfl⟩
      have hcons : ∀ h : ∀ v ∈ vars, Puts e v, ∀ v ∈ (name, some x) :: vars, Puts e v := fun h =>
        List.forall_mem_cons.mpr ⟨⟨x, rfl, hret⟩, h⟩
      have hnot : (¬∀ v ∈ vars, Puts e v) → ¬∀ v ∈ (name, some x) :: vars, Puts e v :=
        fun h hall => h (List.forall_mem_cons.mp hall).2
      refine wp_putVars (fun hall => ?_)
        (fun hall s' hfail => hno (hnot hall) s' (hquiet.crashed.failed hfail))
        fun hall s' hc => hcrash (hnot hall) s' (hquiet.crashed.trans hc)
      have hQ := hyes (hcons hall)
      simpa [values] using hQ
    · rw [if_neg (by simp)]
      refine hno (fun hall => ?_) s' ?_
      · obtain ⟨y, hy, hok⟩ := hall _ List.mem_cons_self
        obtain rfl := Option.some.inj hy
        exact hret hok
      · have hquiet : Quiet writeFd s { s with pamEnv := s.pamEnv ++ [(name, x)] } :=
          ⟨rfl, rfl, rfl⟩
        exact hquiet.crashed.gaveUp hgave

/-- The answers with which `pam_auth` succeeds. -/
structure PamWorks (e : ChildEnv) (req : SpawnRequest) (vtnr : ℕ) : Prop where
  start : e.pamStart = .success
  user : ∃ pwd, e.pamUser = some pwd ∧ ∀ v ∈ pamVars pwd req.settings vtnr, Puts e v
  authenticate : Agrees e.authenticate
  setcred : Agrees e.setcred
  openSession : Agrees e.openSession
  chdir : e.chdir = true
  initgroups : e.initgroups = true
  setgid : e.setgid = true
  setuid : e.setuid = true

/-- The process after `pam_auth`. -/
def asUser (pwd : Passwd) (req : SpawnRequest) (vtnr : ℕ) (s : Proc) : Proc :=
  { s with
    pamEnv := s.pamEnv ++ values (pamVars pwd req.settings vtnr), pamEnded := true,
    cwd := some pwd.dir, groups := some (req.usr, pwd.gid), gid := pwd.gid, uid := pwd.uid }

/-- The child gives up behind the calls of PAM. -/
theorem wp_givesUp {reason : String} {β : Type} {b : β} {Q : β → Proc → Prop}
    (h : Crashed t writeFd s₀ s) (hQ : ∀ s', Failed t writeFd s₀ s' → Q b s') :
    wp (do
      serviceComExit t writeFd reason
      return b) Q E s := by
  rw [wp_bind]
  exact wp_serviceMessage fun s' htold _ => hQ s' (h.gaveUp ⟨reason, htold⟩)

/-- **`pam_auth`.** -/
theorem wp_pamAuth {e : ChildEnv} {req : SpawnRequest} {vtnr : ℕ}
    {Q : Option (Option (List (String × String))) → Proc → Prop}
    (hyes : PamWorks e req vtnr → ∀ pwd, e.pamUser = some pwd → ∀ ms written, Reasons ms →
      (written = if s.connected t writeFd then s.written ++ ms else s.written) →
        Q (some (e.pamGetenvlist (s.pamEnv ++ values (pamVars pwd req.settings vtnr))))
          { asUser pwd req vtnr s with written := written })
    (hno : ¬PamWorks e req vtnr → ∀ s', Failed t writeFd s s' → Q none s')
    (hcrash : ¬PamWorks e req vtnr → ∀ s', Crashed t writeFd s s' → E .undefined s') :
    wp (pamAuth t writeFd e req vtnr) Q E s := by
  unfold pamAuth
  rw [wp_bind]
  refine wp_pamCheck (fun hstart => ?_) fun hstart s' hgave => ?_
  · rw [if_neg (by simp)]
    cases huser : e.pamUser with
    | none =>
      refine hcrash (fun h => ?_) s (Quiet.crashed ⟨rfl, rfl, rfl⟩)
      obtain ⟨pwd, hpwd, -⟩ := h.user
      rw [huser] at hpwd
      cases hpwd
    | some pwd =>
      dsimp only
      rw [wp_bind]
      have hpwd : ∀ h : PamWorks e req vtnr, ∀ v ∈ pamVars pwd req.settings vtnr, Puts e v := by
        intro h
        obtain ⟨pwd', hpwd', hall⟩ := h.user
        obtain rfl := Option.some.inj (huser.symm.trans hpwd')
        exact hall
      refine wp_putVars (fun hvars => ?_) (fun hvars s' hfail => ?_) fun hvars s' hc => ?_
      · rw [if_neg (by simp), wp_bind]
        have hquiet : Quiet writeFd s { s with
          pamEnv := s.pamEnv ++ values (pamVars pwd req.settings vtnr) } := ⟨rfl, rfl, rfl⟩
        have hc := hquiet.crashed (t := t)
        refine wp_pamCall (fun hauth s₁ hsaid₁ => ?_)
          (fun hauth s' hfail => hno (fun h => hauth h.authenticate) s' (hc.failed hfail))
          fun hauth s' hc' => hcrash (fun h => hauth h.authenticate) s' (hc.trans hc')
        rw [if_neg (by simp), wp_bind]
        have hc₁ := hc.trans hsaid₁.crashed
        refine wp_pamCall (fun hcred s₂ hsaid₂ => ?_)
          (fun hcred s' hfail => hno (fun h => hcred h.setcred) s' (hc₁.failed hfail))
          fun hcred s' hc' => hcrash (fun h => hcred h.setcred) s' (hc₁.trans hc')
        rw [if_neg (by simp), wp_bind]
        have hc₂ := hc₁.trans hsaid₂.crashed
        refine wp_pamCall (fun hopen s₃ hsaid₃ => ?_)
          (fun hopen s' hfail => hno (fun h => hopen h.openSession) s' (hc₂.failed hfail))
          fun hopen s' hc' => hcrash (fun h => hopen h.openSession) s' (hc₂.trans hc')
        rw [if_neg (by simp)]
        have hc₃ := hc₂.trans hsaid₃.crashed
        -- nothing fails silently from here on
        by_cases hdir : e.chdir = true
        · rw [if_neg (by simp [hdir]), wp_bind, wp_change, wp_bind, wp_read]
          by_cases hinit : e.initgroups = true
          · rw [if_neg (by simp [hinit]), wp_bind, wp_change]
            by_cases hgid : e.setgid = true
            · rw [if_neg (by simp [hgid]), wp_bind, wp_change]
              by_cases huid : e.setuid = true
              · rw [if_neg (by simp [huid]), wp_bind, wp_change]
                obtain ⟨ms, hms, htold, heq⟩ := (hsaid₁.trans hsaid₂).trans hsaid₃
                have hQ := hyes ⟨hstart, ⟨pwd, huser, hvars⟩, hauth, hcred, hopen, hdir, hinit, hgid,
                  huid⟩ pwd huser ms s₃.written hms htold.written
                rw [heq]
                exact hQ
              · rw [if_pos (by simpa using huid)]
                exact wp_givesUp (hc₃.trans (Quiet.crashed ⟨rfl, rfl, rfl⟩))
                  (hno fun h => huid h.setuid)
            · rw [if_pos (by simpa using hgid)]
              exact wp_givesUp (hc₃.trans (Quiet.crashed ⟨rfl, rfl, rfl⟩))
                (hno fun h => hgid h.setgid)
          · rw [if_pos (by simpa using hinit)]
            exact wp_givesUp (hc₃.trans (Quiet.crashed ⟨rfl, rfl, rfl⟩))
              (hno fun h => hinit h.initgroups)
        · rw [if_pos (by simpa using hdir)]
          exact wp_givesUp hc₃ (hno fun h => hdir h.chdir)
      · rw [if_pos (by simp)]
        exact hno (fun h => hvars (hpwd h)) s' hfail
      · exact hcrash (fun h => hvars (hpwd h)) s' hc
  · rw [if_pos (by simp)]
    have hquiet : Quiet writeFd s s := ⟨rfl, rfl, rfl⟩
    exact hno (fun h => hstart h.start) s' (hquiet.crashed.gaveUp hgave)

/-! ### The child branch -/

/-- **Every step of the child succeeds**, up to the start of the job. -/
structure Passes (e : ChildEnv) (req : SpawnRequest) (vtnr : ℕ) : Prop where
  tty : TtyWorks e
  pam : PamWorks e req vtnr
  env : ∀ pwd, e.pamUser = some pwd →
    (e.pamGetenvlist (values (pamVars pwd req.settings vtnr))).isSome = true
  session : e.session.isSome = true
  active : (waitSessionActive e.isActive).isSome = true

/-- The child can write to the pipe of the try `t`. -/
def Connected (t readFd writeFd : ℕ) (e : ChildEnv) : Prop :=
  lookup e.fds writeFd = some (.pipeWrite t) ∧ readFd ≠ writeFd

instance (t readFd writeFd : ℕ) (e : ChildEnv) : Decidable (Connected t readFd writeFd e) := by
  unfold Connected
  infer_instance

/-- The process leads its session, controls the terminal, which is its standard input and output and
belongs to the user, and has the identity, the groups and the directory of the user. -/
structure Identity (e : ChildEnv) (req : SpawnRequest) (s : Proc) : Prop where
  leader : s.leader = true
  terminal : s.controls = true ∧ s.foreground = true
  std : ∀ n < 3, lookup s.fds n = some .tty
  owner : ∃ pwd gr, e.ttyUser = some pwd ∧ e.ttyGroup = some gr ∧
    s.ttyOwner = some (pwd.uid, gr) ∧ s.ttyMode = some (ttyMode gr)
  user : ∃ pwd, e.pamUser = some pwd ∧ s.uid = pwd.uid ∧ s.gid = pwd.gid ∧
    s.groups = some (req.usr, pwd.gid) ∧ s.cwd = some pwd.dir

/-- **The process in which the job is run**: both ends of the pipe are closed, the other descriptors are
what the daemon has left, and the environment is the one that PAM made. -/
structure Ready (readFd writeFd : ℕ) (e : ChildEnv) (req : SpawnRequest) (vtnr : ℕ) (s : Proc) : Prop
    extends Identity e req s where
  others : ∀ n, 3 ≤ n → lookup s.fds n =
    if n = readFd ∨ n = writeFd then none else (lookup e.fds n).map .inherited
  env : ∃ pwd vars, e.pamUser = some pwd ∧
    e.pamGetenvlist (values (pamVars pwd req.settings vtnr)) = some vars ∧ s.env = sessionEnv vars

/-- What has been written if the pipe was open. -/
def heard (t readFd writeFd : ℕ) (e : ChildEnv) (ms : List ServiceMessage) : List ServiceMessage :=
  if Connected t readFd writeFd e then ms else []

/-- **How the child ends**, and what it has written by then; `ms` is what the PAM modules have said. -/
inductive Outcome (t readFd writeFd : ℕ) (e : ChildEnv) (req : SpawnRequest) (vtnr : ℕ) :
    Stop → Proc → Prop
  | gaveUp (s : Proc) (ms : List ServiceMessage) (reason : String) (hms : Reasons ms)
    (hno : ¬Passes e req vtnr)
    (hwritten : s.written =
      heard t readFd writeFd e (.connect :: (ms ++ [.errorExit reason])))
    (hjob : s.job = none) : Outcome t readFd writeFd e req vtnr (.exit (-1)) s
  | crashed (s : Proc) (ms : List ServiceMessage) (hms : Reasons ms) (hno : ¬Passes e req vtnr)
    (hwritten : s.written = heard t readFd writeFd e (.connect :: ms))
    (hjob : s.job = none) : Outcome t readFd writeFd e req vtnr .undefined s
  | waits (s : Proc) (ms : List ServiceMessage) (hms : Reasons ms) (hno : ¬Passes e req vtnr)
    (htty : TtyWorks e) (hpam : PamWorks e req vtnr)
    (hwritten : s.written = heard t readFd writeFd e (.connect :: (ms ++ [.setupDone])))
    (hjob : s.job = none) : Outcome t readFd writeFd e req vtnr .waits s
  | through (s : Proc) (ms : List ServiceMessage) (hms : Reasons ms) (hpasses : Passes e req vtnr)
    (hwritten : s.written =
      heard t readFd writeFd e (.connect :: (ms ++ [.setupDone, .sessionActive])))
    (hready : Ready readFd writeFd e req vtnr s)
    (hjob : s.job = if e.fork then some req.job else none)
    (hended : s.ended = if e.fork then req.sessionEnded else none) :
    Outcome t readFd writeFd e req vtnr (.exit 1) s

theorem mem_of_heard {ms : List ServiceMessage} {m : ServiceMessage} {t readFd writeFd : ℕ}
    {e : ChildEnv} (h : m ∈ heard t readFd writeFd e ms) : m ∈ ms := by
  unfold heard at h
  split_ifs at h
  · exact h
  · cases h

theorem Reasons.not_mem {ms : List ServiceMessage} (hms : Reasons ms) {m : ServiceMessage}
    (hm : ∀ reason, m ≠ .errorExit reason) : m ∉ ms := by
  intro hmem
  obtain ⟨reason, heq⟩ := hms m hmem
  exact hm reason heq

section said

variable {readFd : ℕ} {e : ChildEnv} {req : SpawnRequest} {vtnr : ℕ} {out : Stop}

/-- **A child that says that its session is active** has passed. -/
theorem Outcome.passes (h : Outcome t readFd writeFd e req vtnr out s)
    (hsaid : .sessionActive ∈ s.written) : Passes e req vtnr := by
  have hno : ∀ {ms : List ServiceMessage}, Reasons ms → .sessionActive ∉ ms := fun hms =>
    hms.not_mem (by simp)
  cases h with
  | gaveUp _ ms reason hms _ hwritten _ =>
    have hmem := mem_of_heard (hwritten ▸ hsaid)
    simp [hno hms] at hmem
  | crashed _ ms hms _ hwritten _ =>
    have hmem := mem_of_heard (hwritten ▸ hsaid)
    simp [hno hms] at hmem
  | waits _ ms hms _ _ _ hwritten _ =>
    have hmem := mem_of_heard (hwritten ▸ hsaid)
    simp [hno hms] at hmem
  | through _ ms _ hpasses _ _ _ _ => exact hpasses

/-- **A child that says that its session is set up** has the terminal, and PAM has let it in. -/
theorem Outcome.setUp (h : Outcome t readFd writeFd e req vtnr out s)
    (hsaid : .setupDone ∈ s.written) : TtyWorks e ∧ PamWorks e req vtnr := by
  have hno : ∀ {ms : List ServiceMessage}, Reasons ms → .setupDone ∉ ms := fun hms =>
    hms.not_mem (by simp)
  cases h with
  | gaveUp _ ms reason hms _ hwritten _ =>
    have hmem := mem_of_heard (hwritten ▸ hsaid)
    simp [hno hms] at hmem
  | crashed _ ms hms _ hwritten _ =>
    have hmem := mem_of_heard (hwritten ▸ hsaid)
    simp [hno hms] at hmem
  | waits _ ms _ _ htty hpam _ _ => exact ⟨htty, hpam⟩
  | through _ ms _ hpasses _ _ _ _ => exact ⟨hpasses.tty, hpasses.pam⟩

end said

/-- The process when it has closed the read end. -/
def begun (readFd : ℕ) (e : ChildEnv) : Proc :=
  { Proc.start e.fds with leader := true, fds := closeSlot (Proc.start e.fds).fds readFd }

theorem lookup_begun (readFd : ℕ) (e : ChildEnv) (n : ℕ) : lookup (begun readFd e).fds n =
    if n = readFd then none else (lookup e.fds n).map .inherited := by
  refine (lookup_close _ readFd n).trans ?_
  unfold Proc.start lookup
  rw [List.getElem?_map]
  cases e.fds[n]? <;> rfl

theorem connected_begun {readFd : ℕ} {e : ChildEnv} :
    (begun readFd e).connected t writeFd ↔ Connected t readFd writeFd e := by
  rw [Proc.connected, lookup_begun, Connected]
  by_cases hne : writeFd = readFd
  · rw [if_pos hne]
    simp [hne]
  · rw [if_neg hne]
    cases lookup e.fds writeFd <;> simp [Ne.symm hne]

variable {readFd : ℕ} {e : ChildEnv} {req : SpawnRequest} {vtnr : ℕ}

theorem Told.heard {ms : List ServiceMessage} (h : Told t writeFd (begun readFd e) ms s) :
    s.written = heard t readFd writeFd e ms := by
  rw [h.written, ChildOutcomes.heard]
  simp only [connected_begun]
  rfl

theorem Told.job_eq {ms : List ServiceMessage} (h : Told t writeFd (begun readFd e) ms s) :
    s.job = none := h.job

/-- The pipe is closed in a process with the identity of the user. -/
theorem Identity.ready {vars : List (String × String)} (h : Identity e req s) (hfd : 3 ≤ writeFd)
    (henv : ∀ pwd, e.pamUser = some pwd →
      e.pamGetenvlist (values (pamVars pwd req.settings vtnr)) = some vars)
    (hfds : ∀ n, 3 ≤ n → lookup s.fds n = lookup (begun readFd e).fds n)
    (written : List ServiceMessage) (job : Option Job) (ended : Option SessionEnded) :
    Ready readFd writeFd e req vtnr { s with
      fds := closeSlot s.fds writeFd, written := written, env := sessionEnv vars, job := job,
      ended := ended } where
  leader := h.leader
  terminal := h.terminal
  std n hn := by
    rw [lookup_close, if_neg (by omega)]
    exact h.std n hn
  owner := h.owner
  user := h.user
  others n hn := by
    rw [lookup_close, hfds n hn, lookup_begun]
    by_cases hread : n = readFd
    · rw [if_pos hread, if_pos (Or.inl hread)]
      split_ifs <;> rfl
    · rw [if_neg hread]
      by_cases hwrite : n = writeFd
      · rw [if_pos hwrite, if_pos (Or.inr hwrite)]
      · rw [if_neg hwrite, if_neg (not_or.mpr ⟨hread, hwrite⟩)]
  env := by
    obtain ⟨pwd, hpwd, -⟩ := h.user
    exact ⟨pwd, vars, hpwd, henv pwd hpwd, rfl⟩

/-- **Behind `pam_auth`.** -/
theorem wp_runSession {vars : List (String × String)} {ms : List ServiceMessage} (hfd : 3 ≤ writeFd)
    (htty : TtyWorks e) (hpam : PamWorks e req vtnr)
    (henv : ∀ pwd, e.pamUser = some pwd →
      e.pamGetenvlist (values (pamVars pwd req.settings vtnr)) = some vars)
    (hms : Reasons ms) (htold : Told t writeFd (begun readFd e) (.connect :: ms) s)
    (hid : Identity e req s) (hended : s.ended = none)
    (hfds : ∀ n, 3 ≤ n → lookup s.fds n = lookup (begun readFd e).fds n) :
    wp (runSession t writeFd e req vars) (fun _ _ => False)
      (Outcome t readFd writeFd e req vtnr) s := by
  unfold runSession
  rw [wp_bind, wp_change]
  dsimp only
  have htold' : Told t writeFd (begun readFd e) (.connect :: ms)
      { s with env := sessionEnv vars } := ⟨htold.pipe, htold.written, htold.job⟩
  by_cases hsession : e.session.isNone = true
  · rw [if_pos hsession, wp_bind]
    refine wp_serviceMessage fun s' hreason _ => ?_
    have hall := htold'.trans hreason
    refine .gaveUp s' ms _ hms (fun h => ?_) hall.heard hall.job_eq
    rw [Option.isNone_iff_eq_none] at hsession
    have hsome := h.session
    rw [hsession] at hsome
    cases hsome
  rw [if_neg hsession, wp_bind]
  refine wp_serviceMessage fun s₁ hsetup heq₁ => ?_
  have hall₁ := htold'.trans hsetup
  by_cases hactive : (waitSessionActive e.isActive).isNone = true
  · rw [if_pos hactive]
    refine .waits s₁ ms hms (fun h => ?_) htty hpam hall₁.heard hall₁.job_eq
    rw [Option.isNone_iff_eq_none] at hactive
    have hsome := h.active
    rw [hactive] at hsome
    cases hsome
  rw [if_neg hactive, wp_bind]
  refine wp_serviceMessage fun s₂ hup heq₂ => ?_
  have hall₂ := hall₁.trans hup
  have hpasses : Passes e req vtnr := {
    tty := htty
    pam := hpam
    env := fun pwd hpwd => by rw [henv pwd hpwd]; rfl
    session := Option.isSome_iff_ne_none.mpr (by simpa using hsession)
    active := Option.isSome_iff_ne_none.mpr (by simpa using hactive) }
  have hwritten : s₂.written =
      heard t readFd writeFd e (.connect :: (ms ++ [.setupDone, .sessionActive])) := by
    rw [hall₂.heard]
    simp
  have hjob := hall₂.job_eq
  have hs₂ : s₂ = { s with env := sessionEnv vars, written := s₂.written } := by
    rw [heq₂, heq₁]
  rw [wp_bind]
  unfold closeFd
  rw [wp_change, hs₂]
  have hready : ∀ job ended, Ready readFd writeFd e req vtnr { s with
      fds := closeSlot s.fds writeFd, written := s₂.written, env := sessionEnv vars, job := job,
      ended := ended } := hid.ready hfd henv hfds s₂.written
  unfold sessionProcFireUp
  by_cases hfork : e.fork = true
  · rw [if_pos hfork]
    exact .through _ ms hms hpasses hwritten (hready _ _) (by rw [if_pos hfork])
      (by rw [if_pos hfork])
  · rw [if_neg hfork]
    have hs := hready s.job s.ended
    exact .through _ ms hms hpasses hwritten hs (by rw [if_neg hfork]; exact htold.job)
      (by rw [if_neg hfork]; exact hended)

/-- **The whole child branch.** -/
theorem wp_childBranch (hfd : 3 ≤ writeFd) :
    wp (childBranch t writeFd readFd e req vtnr) (fun _ _ => False)
      (Outcome t readFd writeFd e req vtnr) (Proc.start e.fds) := by
  unfold childBranch
  rw [wp_bind, wp_change, wp_bind]
  unfold closeFd
  rw [wp_change, wp_bind]
  refine wp_serviceMessage fun s₁ hconnect heq₁ => ?_
  have hconnect : Told t writeFd (begun readFd e) [.connect] s₁ := hconnect
  rw [wp_bind]
  refine wp_closeStd fun fds hstd habove => ?_
  have hquiet : Told t writeFd (begun readFd e) [.connect] { s₁ with fds := fds } :=
    ⟨(habove _ hfd).trans hconnect.pipe, hconnect.written, hconnect.job⟩
  rw [wp_bind]
  refine wp_openTty hfd hstd (fun htty pwd gr hpwd hgr fds' hstd' habove' => ?_)
    fun htty s' hgave => ?_
  · rw [if_neg (by simp), wp_bind]
    have htty₂ : Told t writeFd (begun readFd e) [.connect]
        { onTty pwd gr fds' { s₁ with fds := fds } with hupIgnored := false } :=
      ⟨(habove' _ hfd).trans hquiet.pipe, hquiet.written, hquiet.job⟩
    refine wp_pamAuth (fun hpam pwd' huser ms written hms hwritten => ?_)
      (fun hpam s' hfail => ?_) fun hpam s' hcrash => ?_
    · have hproc : s₁ = { begun readFd e with written := s₁.written } := heq₁
      have hvars : (onTty pwd gr fds' { s₁ with fds := fds }).pamEnv = [] := by
        rw [hproc]
        rfl
      have hsaid : Told t writeFd (begun readFd e) (.connect :: ms) { asUser pwd' req vtnr
          { onTty pwd gr fds' { s₁ with fds := fds } with hupIgnored := false } with
          written := written } := by
        exact htty₂.trans ⟨rfl, hwritten, rfl⟩
      have henv₂ : e.pamGetenvlist ((onTty pwd gr fds' { s₁ with fds := fds }).pamEnv ++
          values (pamVars pwd' req.settings vtnr)) =
            e.pamGetenvlist (values (pamVars pwd' req.settings vtnr)) := by
        rw [hvars, List.nil_append]
      dsimp only
      cases henv : e.pamGetenvlist ((onTty pwd gr fds' { s₁ with fds := fds }).pamEnv ++
          values (pamVars pwd' req.settings vtnr)) with
      | none =>
        refine .crashed _ ms hms (fun h => ?_) hsaid.heard hsaid.job_eq
        have hsome := h.env pwd' huser
        rw [← henv₂, henv] at hsome
        cases hsome
      | some vars =>
        refine wp_runSession hfd htty hpam (fun pwd₂ hpwd₂ => ?_) hms hsaid ?_ ?_ fun n hn => ?_
        · obtain rfl := Option.some.inj (huser.symm.trans hpwd₂)
          exact henv₂.symm.trans henv
        · exact {
            leader := by
              rw [hproc]
              rfl
            terminal := ⟨rfl, rfl⟩
            std := fun n hn => by
              have h := hstd' n hn
              rwa [if_pos hn] at h
            owner := ⟨pwd, gr, hpwd, hgr, rfl, rfl⟩
            user := ⟨pwd', huser, rfl, rfl, rfl, rfl⟩ }
        · rw [hproc]
          rfl
        · refine ((habove' n hn).trans (habove n hn)).trans ?_
          rw [hproc]
    · obtain ⟨ms, reason, hms, htold⟩ := hfail
      have hall := htty₂.trans htold
      exact .gaveUp s' ms reason hms (fun h => hpam h.pam) hall.heard hall.job_eq
    · obtain ⟨ms, hms, htold⟩ := hcrash
      have hall := htty₂.trans htold
      exact .crashed s' ms hms (fun h => hpam h.pam) hall.heard hall.job_eq
  · rw [if_pos (by simp), wp_bind, wp_stop]
    obtain ⟨reason, htold⟩ := hgave
    have hall := hquiet.trans htold
    exact .gaveUp s' [] reason (fun _ hm => absurd hm List.not_mem_nil) (fun h => htty h.tty)
      hall.heard hall.job_eq

/-- A process that has started a job was ready for it. -/
theorem Outcome.ready {readFd : ℕ} {e : ChildEnv} {req : SpawnRequest} {vtnr : ℕ} {stop : Stop}
    {s : Proc} (h : Outcome t readFd writeFd e req vtnr stop s) (hjob : s.job ≠ none) :
    Ready readFd writeFd e req vtnr s := by
  cases h with
  | gaveUp _ _ _ _ _ _ hnone => exact absurd hnone hjob
  | crashed _ _ _ _ _ hnone => exact absurd hnone hjob
  | waits _ _ _ _ _ _ _ hnone => exact absurd hnone hjob
  | through _ _ _ _ _ hready _ _ => exact hready

/-- A child to which every call answers well. -/
def everyStepWorks : ChildEnv where
  fds := [some .std, some .std, some .std, none, some (.pipeRead 0), some (.pipeWrite 0)]
  pid := 100
  ttyUser := some ⟨"user", 1000, 100, "/home/user", "/bin/sh"⟩
  ttyGroup := some 5
  first := ⟨true, -1, true, true, true⟩
  isatty := true
  vhangup := true
  again := ⟨true, 100, false, true, true⟩
  tcsetpgrp := true
  chown := true
  chmod := true
  pamUser := some ⟨"user", 1000, 100, "/home/user", "/bin/sh"⟩
  pamStart := .success
  pamPutenv := fun _ => .success
  authenticate := ⟨[[⟨.promptEchoOff, "Password: "⟩]], .success⟩
  setcred := ⟨[], .success⟩
  openSession := ⟨[], .success⟩
  chdir := true
  pamGetenvlist := some
  initgroups := true
  setgid := true
  setuid := true
  session := some "c1"
  isActive := [0, 1]
  fork := true

/-- A login. -/
def userLogin : SpawnRequest where
  done := .sessionDone 0
  job := .sessionJob "shell"
  sessionEnded := some .reexecuteGreeter
  service := "spawny"
  usr := "user"
  pw := some "secret"
  settings := ⟨some "tty", some "shell", some "seat0"⟩
  origin := none

example : (childBranch 0 5 4 everyStepWorks userLogin 11 (Proc.start everyStepWorks.fds)).2.written =
    [.connect, .setupDone, .sessionActive] := by decide

/-- **The job is run exactly if every step before it has succeeded**, and then as the user. -/
theorem job_iff (t readFd writeFd : ℕ) (e : ChildEnv) (req : SpawnRequest) (vtnr : ℕ)
    (hfd : 3 ≤ writeFd) :
    ((childBranch t writeFd readFd e req vtnr (Proc.start e.fds)).2.job ≠ none ↔
      Passes e req vtnr ∧ e.fork = true) ∧
    ∀ job, (childBranch t writeFd readFd e req vtnr (Proc.start e.fds)).2.job = some job →
      job = req.job ∧ Ready readFd writeFd e req vtnr
        (childBranch t writeFd readFd e req vtnr (Proc.start e.fds)).2 := by
  have hwp : wp (childBranch t writeFd readFd e req vtnr) (fun _ _ => False)
      (Outcome t readFd writeFd e req vtnr) (Proc.start e.fds) := wp_childBranch hfd
  obtain ⟨stop, s, hrun, hout⟩ := exists_stop hwp
  rw [hrun]
  have hnone : ¬Passes e req vtnr → s.job = none →
      (s.job ≠ none ↔ Passes e req vtnr ∧ e.fork = true) ∧
        ∀ job, s.job = some job → job = req.job ∧ Ready readFd writeFd e req vtnr s := by
    intro hno hjob
    refine ⟨⟨fun h => absurd hjob h, fun h => absurd h.1 hno⟩, fun job h => ?_⟩
    rw [hjob] at h
    cases h
  cases hout with
  | gaveUp _ ms reason hms hno hwritten hjob => exact hnone hno hjob
  | crashed _ ms hms hno hwritten hjob => exact hnone hno hjob
  | waits _ ms hms hno htty hpam hwritten hjob => exact hnone hno hjob
  | through _ ms hms hpasses hwritten hready hjob hended =>
    dsimp only
    rw [hjob]
    by_cases hfork : e.fork = true
    · rw [if_pos hfork]
      refine ⟨⟨fun _ => ⟨hpasses, hfork⟩, fun _ => Option.some_ne_none _⟩, fun job h => ?_⟩
      exact ⟨(Option.some.inj h).symm, hready⟩
    · rw [if_neg hfork]
      exact ⟨⟨fun h => absurd rfl h, fun h => absurd h.2 hfork⟩, fun job h => by cases h⟩

theorem job_everyStepWorks :
    ((childBranch 0 5 4 everyStepWorks userLogin 11 (Proc.start everyStepWorks.fds)).2.job ≠ none ↔
      Passes everyStepWorks userLogin 11 ∧ everyStepWorks.fork = true) ∧
    ∀ job, (childBranch 0 5 4 everyStepWorks userLogin 11
      (Proc.start everyStepWorks.fds)).2.job = some job →
        job = userLogin.job ∧ Ready 4 5 everyStepWorks userLogin 11
          (childBranch 0 5 4 everyStepWorks userLogin 11 (Proc.start everyStepWorks.fds)).2 :=
  job_iff 0 4 5 everyStepWorks userLogin 11 (by decide)

end Spawny.Daemon.ChildOutcomes
