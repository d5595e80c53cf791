/-
  ServiceHost.Proofs.Tls.Visibility — reloads are all or nothing, and rotations are seen.

  Files are written and removed, the poller ticks when it is due, and checks and reloads
  are called, one after the other (`Watched.step`). A call ends in one of three ways
  (`Reloader.Ends`): it fails because the files have no stamps or make no pair, it finds
  the stamps it kept, or it puts the pair of the files into effect with their stamps. Only
  the last changes anything, and it changes the pair, the stamps and the time together; a
  tick is a check, and moves the poller's line.

  So a pair that can be loaded is in effect once the poller has ticked on it, however many
  calls failed before (`Watched.Sees`, `run_sees`), and the poller ticks within one interval
  (`Watched.Fits`, `run_fits`). Both are kept by all that a step can do (`Watched.Moves`).
-/

import ServiceHost.Proofs.Schedule.Rhythm
import ServiceHost.Proofs.Tls.Rotation

namespace ServiceHost

namespace Tls

open ServiceHost.Schedule (Line endOfClock)

/-! ## How a call ends -/

/-- What a check or a reload returns, and the reloader it leaves. -/
inductive Reloader.Ends (keys : KeyProvider) (r : Reloader) (fs : Files) (now : Nat) :
    Except Error Bool → Reloader → Prop
  | failed {e : Error} :
      stampsOf fs r.certPath r.keyPath = .error e ∨ Keypair.load keys fs r.certPath r.keyPath = .error e →
      Ends keys r fs now (.error e) r
  | current : stampsOf fs r.certPath r.keyPath = .ok r.stamps → Ends keys r fs now (.ok false) r
  | swapped {pair : Keypair} {stamps : Stamps} :
      Keypair.load keys fs r.certPath r.keyPath = .ok pair → stampsOf fs r.certPath r.keyPath = .ok stamps →
      Ends keys r fs now (.ok true) (r.install pair stamps now)

namespace Reloader

variable {keys : KeyProvider} {r r' : Reloader} {fs : Files} {now : Nat} {outcome : Except Error Bool}

/-- What no call changes. -/
structure Alike (r r' : Reloader) : Prop where
  certPath : r'.certPath = r.certPath
  keyPath : r'.keyPath = r.keyPath
  poller : r'.poller? = r.poller?

theorem Ends.alike (h : r.Ends keys fs now outcome r') : r.Alike r' := by
  cases h with
  | failed | current => exact ⟨rfl, rfl, rfl⟩
  | swapped => exact ⟨rfl, rfl, rfl⟩

theorem swap_ends {stamps : Stamps} (hs : stampsOf fs r.certPath r.keyPath = .ok stamps) (now : Nat)
    (sink : Log.Sink) :
    (∃ e, r.swap keys fs stamps now sink = .error e ∧ r.Ends keys fs now (.error e) r) ∨
      ∃ ran, r.swap keys fs stamps now sink = .ok ran ∧ r.Ends keys fs now (.ok true) ran.value := by
  rw [swap]
  cases hl : Keypair.load keys fs r.certPath r.keyPath with
  | error e => exact .inl ⟨e, rfl, .failed (.inr hl)⟩
  | ok pair => exact .inr ⟨_, rfl, .swapped hl hs⟩

theorem reload_ends (keys : KeyProvider) (r : Reloader) (fs : Files) (now : Nat) (sink : Log.Sink) :
    (∃ e, r.reload keys fs now sink = .error e ∧ r.Ends keys fs now (.error e) r) ∨
      ∃ ran, r.reload keys fs now sink = .ok ran ∧ r.Ends keys fs now (.ok true) ran.value := by
  rw [reload]
  cases hs : stampsOf fs r.certPath r.keyPath with
  | error e => exact .inl ⟨e, rfl, .failed (.inl hs)⟩
  | ok stamps => exact swap_ends hs now sink

theorem check_ends (keys : KeyProvider) (r : Reloader) (fs : Files) (now : Nat) (sink : Log.Sink) :
    (∃ e, r.check keys fs now sink = .error e ∧ r.Ends keys fs now (.error e) r) ∨
      ∃ ran, r.check keys fs now sink = .ok ran ∧ r.Ends keys fs now (.ok ran.value.2) ran.value.1 := by
  rw [check]
  cases hs : stampsOf fs r.certPath r.keyPath with
  | error e => exact .inl ⟨e, rfl, .failed (.inl hs)⟩
  | ok stamps =>
    by_cases he : stamps = r.stamps
    · refine .inr ⟨pure (r, false), if_pos he, .current ?_⟩
      rw [hs, he]
    · rcases swap_ends hs now sink with ⟨e, hswap, hends⟩ | ⟨ran, hswap, hends⟩
      · refine .inl ⟨e, (if_neg he).trans ?_, hends⟩
        rw [hswap]
        rfl
      · refine .inr ⟨ran >>= fun r => pure (r, true), (if_neg he).trans ?_, hends⟩
        rw [hswap]
        rfl

/-- A tick does what a check does. -/
theorem poll_ends (keys : KeyProvider) (r : Reloader) (fs : Files) (now : Nat) (sink : Log.Sink) :
    ∃ outcome, r.Ends keys fs now outcome (r.poll keys fs now sink).value := by
  rw [poll]
  rcases check_ends keys r fs now sink with ⟨e, hcheck, hends⟩ | ⟨ran, hcheck, hends⟩
  · rw [hcheck]
    exact ⟨_, hends⟩
  · rw [hcheck]
    exact ⟨_, hends⟩

/--
  A call cannot fail on files that make a pair, and leaves that pair in effect, if the
  stamps kept are not those of another one.
-/
theorem Ends.loaded {pair : Keypair} {stamps : Stamps} (h : r.Ends keys fs now outcome r')
    (hl : Keypair.load keys fs r.certPath r.keyPath = .ok pair) (hs : stampsOf fs r.certPath r.keyPath = .ok stamps)
    (hkept : r.stamps = stamps → r.pair = pair) : r'.pair = pair ∧ r'.stamps = stamps := by
  cases h with
  | failed he =>
    rcases he with he | he
    · rw [hs] at he
      cases he
    · rw [hl] at he
      cases he
  | current hs' =>
    have hsame : r.stamps = stamps := by
      rw [hs] at hs'
      exact (Except.ok.inj hs').symm
    exact ⟨hkept hsame, hsame⟩
  | swapped hl' hs' =>
    rw [hl] at hl'
    rw [hs] at hs'
    cases hl'
    cases hs'
    exact ⟨rfl, rfl⟩

def withLine (r : Reloader) (line? : Option Line) : Reloader := { r with poller? := line? }

theorem withLine_eq {line? : Option Line} (h : r.poller? = line?) : r.withLine line? = r := by rw [← h, withLine]

/-! ## Ticks -/

section Ticks

variable {interval start k : Nat} {h : 0 < interval}

theorem ticks_eq (hp : r.poller? = some (Line.rhythm interval start h k)) (hin : now < endOfClock) :
    r.ticks now =
      ((List.range' k (Line.beats interval start now - k)).map (Line.beat interval start),
        r.withLine (some (Line.rhythm interval start h (max k (Line.beats interval start now))))) := by
  simp only [ticks, hp, Line.advance_rhythm hin, withLine]

theorem ticks_waiting (hp : r.poller? = some (Line.rhythm interval start h k)) (hin : now < endOfClock)
    (hnow : now < start + (k + 1) * interval) : r.ticks now = ([], r) := by
  have hbeats : Line.beats interval start now ≤ k := (Line.lt_due_iff h).1 hnow
  rw [ticks_eq hp hin, Nat.sub_eq_zero_of_le hbeats, Nat.max_eq_left hbeats, withLine_eq hp]
  rfl

theorem ticks_due (hp : r.poller? = some (Line.rhythm interval start h k)) (hin : now < endOfClock)
    (hnow : now = start + (k + 1) * interval) :
    r.ticks now = ([Line.beat interval start k], r.withLine (some (Line.rhythm interval start h (k + 1)))) := by
  have hbeats : Line.beats interval start now = k + 1 := by
    have hpast : ¬ Line.beats interval start now ≤ k := mt (Line.lt_due_iff h).2 (by omega)
    have hnext : now < start + (k + 1 + 1) * interval := by
      rw [Nat.add_mul (k + 1) 1, Nat.one_mul]
      omega
    have hlast := (Line.lt_due_iff h).1 hnext
    omega
  rw [ticks_eq hp hin, hbeats, Nat.add_sub_cancel_left, Nat.max_eq_right (Nat.le_succ k)]
  rfl

end Ticks

theorem poll_withLine (keys : KeyProvider) (r : Reloader) (line? : Option Line) (fs : Files) (now : Nat)
    (sink : Log.Sink) :
    (r.withLine line?).poll keys fs now sink = (·.withLine line?) <$> r.poll keys fs now sink := by
  have hstamps : (r.withLine line?).stamps = r.stamps := rfl
  have hpaths : (r.withLine line?).certPath = r.certPath ∧ (r.withLine line?).keyPath = r.keyPath := ⟨rfl, rfl⟩
  rw [poll, check, poll, check, hstamps, hpaths.1, hpaths.2]
  cases stampsOf fs r.certPath r.keyPath with
  | error e => rfl
  | ok stamps =>
    by_cases he : stamps = r.stamps
    · simp only [bind, Except.bind, if_pos he]
      rfl
    · simp only [bind, Except.bind, if_neg he, swap, hpaths.1, hpaths.2]
      cases Keypair.load keys fs r.certPath r.keyPath <;> rfl

end Reloader

/-! ## What happens to a reloader -/

inductive Act where
  /-- The files become these. -/
  | edit (files : Files)
  | check
  | reload
  | close
  /-- The poller ticks, if it is due. -/
  | tick
  /-- Time passes, but never past a tick that is due. -/
  | pass (ms : Nat)

def Act.job? : Act → Option Job
  | .check => some .check
  | .reload => some .reload
  | _ => none

/-- The files hold a pair that can be loaded, and their stamps are not the old ones. -/
structure Watch.Renewed (w : Watch) (pair : Keypair) (old : Stamps) (fs : Files) : Prop where
  loads : Keypair.load w.keys fs w.certPath w.keyPath = .ok pair
  stamped : ∃ stamps, Reloader.stampsOf fs w.certPath w.keyPath = .ok stamps ∧ stamps ≠ old

/-- Leaves that pair in the files, and the poller alone. -/
def Act.Keeps (w : Watch) (pair : Keypair) (old : Stamps) : Act → Prop
  | .edit files => w.Renewed pair old files
  | .close => False
  | _ => True

/-- A reloader, and the files and the time it sees. -/
structure Watched where
  files : Files
  reloader : Reloader
  now : Nat
  inTime : now < endOfClock

namespace Watched

def hold (s : Watched) (r : Reloader) : Watched := { s with reloader := r }

def call (w : Watch) (s : Watched) (job : Job) : Run (Call × Option Reloader) :=
  Call.alone w s.files s.now Call.steps { job } (some s.reloader)

def outcome? (w : Watch) (s : Watched) (job : Job) : Option (Except Error Bool) := (s.call w job).value.1.outcome?

def due? (s : Watched) : Option Nat := s.reloader.poller?.bind fun line => if line.failed then none else some line.next

/-- How far the clock gets in some time. -/
def reach (s : Watched) (ms : Nat) : Nat := (s.due?.map fun due => max s.now (min (s.now + ms) due)).getD (s.now + ms)

/-- Nothing happens past the end of the clock. -/
def later (s : Watched) (now : Nat) : Watched := if h : now < endOfClock then { s with now, inTime := h } else s

variable (w : Watch) (poller : Log.Sink)

def step (s : Watched) : Act → Run Watched
  | .edit files => pure { s with files }
  | .check => do
    let (_, r?) ← s.call w .check
    return s.hold (r?.getD s.reloader)
  | .reload => do
    let (_, r?) ← s.call w .reload
    return s.hold (r?.getD s.reloader)
  | .close => do
    let r ← s.reloader.close ⟨w.sink, poller⟩
    return s.hold r
  | .tick => do
    let r ← s.reloader.advance w.keys s.files s.now poller
    return s.hold r
  | .pass ms => pure (s.later (s.reach ms))

def run (s : Watched) (acts : List Act) : Run Watched := acts.foldlM (step w poller) s

def ticks (s : Watched) : Nat := (s.reloader.poller?.map (·.count)).getD 0

variable {w} {s : Watched}

theorem run_cons (s : Watched) (a : Act) (acts : List Act) :
    (s.run w poller (a :: acts)).value = ((s.step w poller a).value.run w poller acts).value := rfl

/-! ## What lasts -/

/-- A reloader of the watched pair, that was armed at `start` and has ticked when it was due. -/
structure Fits (w : Watch) (start : Nat) (s : Watched) : Prop where
  certPath : s.reloader.certPath = w.certPath
  keyPath : s.reloader.keyPath = w.keyPath
  line : ∀ line, s.reloader.poller? = some line →
    line = Line.rhythm w.interval start w.interval_pos s.ticks ∧ start + s.ticks * w.interval ≤ s.now ∧
      s.now ≤ start + (s.ticks + 1) * w.interval

variable {start : Nat}

/-- Every call ends in one of the three ways; only a check looks whether the stamps are new. -/
theorem call_ends (hs : s.Fits w start) {a : Act} {job : Job} (ha : a.job? = some job) :
    ∃ outcome r, s.reloader.Ends w.keys s.files s.now outcome r ∧ s.outcome? w job = some outcome ∧
      (job = .reload → outcome ≠ .ok false) ∧ (s.step w poller a).value = s.hold r := by
  cases a with
  | check =>
    cases ha
    have hcall : s.call w .check =
        Call.returned .check (some s.reloader) (s.reloader.check w.keys s.files s.now w.sink) :=
      Call.check_alone s.files s.now hs.certPath hs.keyPath
    simp only [step, outcome?, hcall]
    rcases Reloader.check_ends w.keys s.reloader s.files s.now w.sink with ⟨e, hcheck, hends⟩ | ⟨ran, hcheck, hends⟩
    · rw [hcheck]
      exact ⟨_, _, hends, rfl, nofun, rfl⟩
    · rw [hcheck]
      exact ⟨_, _, hends, rfl, nofun, rfl⟩
  | reload =>
    cases ha
    have hcall : s.call w .reload = Call.returned .reload (some s.reloader)
        ((s.reloader.reload w.keys s.files s.now w.sink).map ((·, true) <$> ·)) :=
      Call.reload_alone s.files s.now hs.certPath hs.keyPath
    simp only [step, outcome?, hcall]
    rcases Reloader.reload_ends w.keys s.reloader s.files s.now w.sink with ⟨e, hreload, hends⟩ | ⟨ran, hreload, hends⟩
    · rw [hreload]
      exact ⟨_, _, hends, rfl, fun _ => nofun, rfl⟩
    · rw [hreload]
      exact ⟨_, _, hends, rfl, fun _ => nofun, rfl⟩
  | edit | close | tick | pass => cases ha

theorem tick_closed (hc : s.reloader.isClosed = true) : s.step w poller .tick = pure s := by
  have hp : s.reloader.poller? = none := Option.isNone_iff_eq_none.1 hc
  simp only [step, Reloader.advance, Reloader.ticks, hp, List.foldlM_nil]
  rfl

theorem due?_eq (hs : s.Fits w start) {line : Line} (hp : s.reloader.poller? = some line) :
    s.due? = if line.failed then none else some (start + (s.ticks + 1) * w.interval) := by
  obtain ⟨rfl, -, -⟩ := hs.line line hp
  rw [due?, hp, Option.bind_some, Line.next_rhythm]

theorem tick_idle (hs : s.Fits w start) (hdue : s.due? ≠ some s.now) : s.step w poller .tick = pure s := by
  cases hp : s.reloader.poller? with
  | none => exact tick_closed poller (Option.isNone_iff_eq_none.2 hp)
  | some line =>
    have hnext := due?_eq hs hp
    obtain ⟨rfl, -, hto⟩ := hs.line line hp
    have hwaits : s.now < start + (s.ticks + 1) * w.interval := by
      refine Nat.lt_of_le_of_ne hto fun hnow => hdue ?_
      -- a line that the clock is too short for is never due
      have hlasts : ¬ (Line.rhythm w.interval start w.interval_pos s.ticks).failed = true := by
        have hin := s.inTime
        simp only [Line.rhythm, Bool.and_eq_true, decide_eq_true_eq]
        rintro ⟨hticks, hend⟩
        rw [hticks, Nat.zero_add, Nat.one_mul] at hnow
        omega
      rw [hnext, if_neg hlasts, ← hnow]
    simp only [step, Reloader.advance, Reloader.ticks_waiting hp s.inTime hwaits, List.foldlM_nil]
    rfl

theorem tick_run (hs : s.Fits w start) {line : Line} (hp : s.reloader.poller? = some line)
    (hnow : s.now = start + (s.ticks + 1) * w.interval) :
    s.step w poller .tick =
      ((s.reloader.withLine (some (Line.rhythm w.interval start w.interval_pos (s.ticks + 1)))).poll w.keys s.files
        s.now poller >>= fun r => pure (s.hold r)) := by
  obtain ⟨rfl, -, -⟩ := hs.line line hp
  simp only [step, Reloader.advance, Reloader.ticks_due hp s.inTime hnow, List.foldlM_cons, List.foldlM_nil,
    Line.beat, ← hnow, bind_pure]

theorem tick_due (hs : s.Fits w start) (hdue : s.due? = some s.now) :
    s.now = start + (s.ticks + 1) * w.interval ∧ ∃ outcome r, s.reloader.Ends w.keys s.files s.now outcome r ∧
      (s.step w poller .tick).value =
        s.hold (r.withLine (some (Line.rhythm w.interval start w.interval_pos (s.ticks + 1)))) := by
  obtain ⟨line, hp, -⟩ := Option.bind_eq_some_iff.1 hdue
  have hnow : s.now = start + (s.ticks + 1) * w.interval := by
    rw [due?_eq hs hp] at hdue
    split at hdue
    · cases hdue
    · exact (Option.some.inj hdue).symm
  obtain ⟨outcome, hends⟩ := Reloader.poll_ends w.keys s.reloader s.files s.now poller
  refine ⟨hnow, outcome, _, hends, ?_⟩
  rw [tick_run poller hs hp hnow, Reloader.poll_withLine]
  rfl

theorem ticks_hold {r : Reloader} (h : s.reloader.Alike r) : (s.hold r).ticks = s.ticks := by
  simp only [ticks, hold, h.poller]

theorem Fits.hold (hs : s.Fits w start) {r : Reloader} (h : s.reloader.Alike r) :
    (s.hold r).Fits w start where
  certPath := h.certPath.trans hs.certPath
  keyPath := h.keyPath.trans hs.keyPath
  line line hp := by
    rw [ticks_hold h]
    exact hs.line line (h.poller ▸ hp)

theorem step_close (s : Watched) : (s.step w poller .close).value = s.hold (s.reloader.withLine none) := by
  have hclose (sinks : ReloaderSinks) : (s.reloader.close sinks).value = s.reloader.withLine none := by
    unfold Reloader.close
    split
    · next hp => exact (Reloader.withLine_eq hp).symm
    · rfl
  simp only [step, Run.value_bind, Run.value_pure, hclose]

theorem reach_le {ms : Nat} (hs : s.Fits w start) (hin : s.reach ms < endOfClock) {line : Line}
    (hp : s.reloader.poller? = some line) :
    s.now ≤ s.reach ms ∧ s.reach ms ≤ start + (s.ticks + 1) * w.interval := by
  have hdue := due?_eq hs hp
  obtain ⟨rfl, -, hto⟩ := hs.line line hp
  by_cases hfailed : (Line.rhythm w.interval start w.interval_pos s.ticks).failed = true
  · rw [if_pos hfailed] at hdue
    simp only [Line.rhythm, Bool.and_eq_true, decide_eq_true_eq] at hfailed
    rw [reach, hdue] at hin ⊢
    simp only [Option.map_none, Option.getD_none, hfailed.1, Nat.zero_add, Nat.one_mul] at hin ⊢
    omega
  · rw [if_neg hfailed] at hdue
    rw [reach, hdue, Option.map_some, Option.getD_some]
    omega

theorem later_fits {ms : Nat} (hs : s.Fits w start) : (s.later (s.reach ms)).Fits w start := by
  unfold later
  split
  · next hin =>
    refine ⟨hs.certPath, hs.keyPath, fun line hp => ?_⟩
    obtain ⟨hline, hfrom, -⟩ := hs.line line hp
    obtain ⟨hle, hdue⟩ := reach_le hs hin hp
    exact ⟨hline, Nat.le_trans hfrom hle, hdue⟩
  · exact hs

inductive Moves (w : Watch) (start : Nat) (s : Watched) : Act → Watched → Prop
  | edited (files : Files) : Moves w start s (.edit files) { s with files }
  | called {a : Act} {job : Job} {outcome : Except Error Bool} {r : Reloader} :
      a.job? = some job → s.reloader.Ends w.keys s.files s.now outcome r → Moves w start s a (s.hold r)
  | closed : Moves w start s .close (s.hold (s.reloader.withLine none))
  | ticked {outcome : Except Error Bool} {r : Reloader} :
      s.due? = some s.now → s.now = start + (s.ticks + 1) * w.interval →
      s.reloader.Ends w.keys s.files s.now outcome r →
      Moves w start s .tick
        (s.hold (r.withLine (some (Line.rhythm w.interval start w.interval_pos (s.ticks + 1)))))
  | idle : Moves w start s .tick s
  | passed (ms : Nat) : Moves w start s (.pass ms) (s.later (s.reach ms))

theorem step_moves (hs : s.Fits w start) (a : Act) : s.Moves w start a (s.step w poller a).value := by
  have hcall {job : Job} (ha : a.job? = some job) : s.Moves w start a (s.step w poller a).value := by
    obtain ⟨outcome, r, hends, -, -, hstep⟩ := call_ends poller hs ha
    rw [hstep]
    exact .called ha hends
  cases a with
  | edit files => exact .edited files
  | check => exact hcall rfl
  | reload => exact hcall rfl
  | close =>
    rw [step_close]
    exact .closed
  | tick =>
    by_cases hdue : s.due? = some s.now
    · obtain ⟨hnow, outcome, r, hends, hstep⟩ := tick_due poller hs hdue
      rw [hstep]
      exact .ticked hdue hnow hends
    · rw [tick_idle poller hs hdue]
      exact .idle
  | pass ms => exact .passed ms

variable {s' : Watched} {a : Act}

theorem Moves.fits (h : s.Moves w start a s') (hs : s.Fits w start) : s'.Fits w start := by
  cases h with
  | edited files => exact ⟨hs.certPath, hs.keyPath, hs.line⟩
  | called _ hends => exact hs.hold hends.alike
  | closed => exact ⟨hs.certPath, hs.keyPath, fun line hp => by cases hp⟩
  | ticked _ hnow hends =>
    obtain ⟨hcert, hkey, -⟩ := hends.alike
    refine ⟨hcert.trans hs.certPath, hkey.trans hs.keyPath, fun line hp => ?_⟩
    cases hp
    have hnext : (s.ticks + 1 + 1) * w.interval = (s.ticks + 1) * w.interval + w.interval := by
      rw [Nat.add_mul (s.ticks + 1) 1, Nat.one_mul]
    change _ = Line.rhythm w.interval start w.interval_pos (s.ticks + 1) ∧
      start + (s.ticks + 1) * w.interval ≤ s.now ∧ s.now ≤ start + (s.ticks + 1 + 1) * w.interval
    exact ⟨rfl, by omega, by omega⟩
  | idle => exact hs
  | passed ms => exact later_fits hs

theorem run_fits (hs : s.Fits w start) (acts : List Act) :
    (s.run w poller acts).value.Fits w start := by
  induction acts generalizing s with
  | nil => exact hs
  | cons a acts ih =>
    rw [run_cons]
    exact ih ((step_moves poller hs a).fits hs)

/-! ## Rotations -/

/--
  The files hold a new pair, and the poller runs. As long as that pair is not in effect the
  stamps kept are the old ones, so that the next call takes it for new; once the poller has
  ticked more than `n` times it is in effect.
-/
structure Sees (w : Watch) (pair : Keypair) (old : Stamps) (n : Nat) (s : Watched) : Prop where
  renewed : w.Renewed pair old s.files
  armed : s.reloader.isClosed = false
  kept : s.reloader.pair = pair ∨ s.reloader.stamps = old
  since : n ≤ s.ticks
  ticked : n < s.ticks → s.reloader.pair = pair

variable {n : Nat} {pair : Keypair} {old : Stamps}

/-- Any call on such files puts the pair into effect. -/
theorem Sees.ends (h : s.Sees w pair old n) (hs : s.Fits w start) {outcome : Except Error Bool} {r : Reloader}
    (hends : s.reloader.Ends w.keys s.files s.now outcome r) : r.pair = pair := by
  obtain ⟨stamps, hstamps, hnew⟩ := h.renewed.stamped
  have hload := h.renewed.loads
  rw [← hs.certPath, ← hs.keyPath] at hstamps hload
  refine (hends.loaded hload hstamps fun hsame => ?_).1
  rcases h.kept with hpair | hold
  · exact hpair
  · exact absurd (hsame.symm.trans hold) hnew

theorem Moves.sees (hmoves : s.Moves w start a s') (hs : s.Fits w start) (ha : a.Keeps w pair old)
    (h : s.Sees w pair old n) : s'.Sees w pair old n := by
  cases hmoves with
  | edited files => exact ⟨ha, h.armed, h.kept, h.since, h.ticked⟩
  | closed => cases ha
  | called _ hends =>
    have hpair := h.ends hs hends
    refine ⟨h.renewed, ?_, .inl hpair, ?_, fun _ => hpair⟩
    · rw [← h.armed]
      exact congrArg Option.isNone hends.alike.poller
    · rw [ticks_hold hends.alike]
      exact h.since
  | ticked _ _ hends =>
    have hpair := h.ends hs hends
    exact ⟨h.renewed, rfl, .inl hpair, Nat.le_succ_of_le h.since, fun _ => hpair⟩
  | idle => exact h
  | passed ms =>
    unfold later
    split
    · exact ⟨h.renewed, h.armed, h.kept, h.since, h.ticked⟩
    · exact h

theorem run_sees (hs : s.Fits w start) {acts : List Act} (hacts : ∀ a ∈ acts, a.Keeps w pair old)
    (h : s.Sees w pair old n) : (s.run w poller acts).value.Sees w pair old n := by
  induction acts generalizing s with
  | nil => exact h
  | cons a acts ih =>
    rw [run_cons]
    have hmoves := step_moves poller hs a
    exact ih (hmoves.fits hs) (fun b hb => hacts b (List.mem_cons_of_mem _ hb))
      (hmoves.sees hs (hacts a List.mem_cons_self) h)

/-- What more than an interval lies between, a tick lies between. -/
theorem ticks_within (hs : s.Fits w start) (hs' : s'.Fits w start) (ha : s.reloader.isClosed = false)
    (ha' : s'.reloader.isClosed = false) (hlater : s.now + w.interval < s'.now) : s.ticks < s'.ticks := by
  obtain ⟨line, hp⟩ := Option.ne_none_iff_exists'.1 (Option.isSome_iff_ne_none.1 (Option.isNone_eq_false_iff.1 ha))
  obtain ⟨line', hp'⟩ := Option.ne_none_iff_exists'.1 (Option.isSome_iff_ne_none.1 (Option.isNone_eq_false_iff.1 ha'))
  obtain ⟨-, hfrom, -⟩ := hs.line line hp
  obtain ⟨-, -, hto⟩ := hs'.line line' hp'
  by_contra hle
  have hmul : (s'.ticks + 1) * w.interval ≤ (s.ticks + 1) * w.interval := Nat.mul_le_mul_right _ (by omega)
  rw [Nat.add_mul s.ticks 1, Nat.one_mul] at hmul
  omega

/-! ## Closed reloaders -/

theorem Moves.closed_of_closed (h : s.Moves w start a s') (hc : s.reloader.isClosed = true) :
    s'.reloader.isClosed = true := by
  cases h with
  | edited files => exact hc
  | called _ hends =>
    rw [← hc]
    exact congrArg Option.isNone hends.alike.poller
  | closed => rfl
  | ticked hdue =>
    rw [due?, Option.isNone_iff_eq_none.1 hc] at hdue
    cases hdue
  | idle => exact hc
  | passed ms =>
    unfold later
    split <;> exact hc

theorem run_closed (hs : s.Fits w start) (hc : s.reloader.isClosed = true) (acts : List Act) :
    (s.run w poller acts).value.reloader.isClosed = true := by
  induction acts generalizing s with
  | nil => exact hc
  | cons a acts ih =>
    rw [run_cons]
    have hmoves := step_moves poller hs a
    exact ih (hmoves.fits hs) (hmoves.closed_of_closed hc)

theorem pass_to (hs : s.Fits w start) {now : Nat} (hnow : s.now ≤ now) (hin : now < endOfClock)
    (hdue : ∀ line, s.reloader.poller? = some line → now ≤ start + (s.ticks + 1) * w.interval) :
    s.step w poller (.pass (now - s.now)) = pure ⟨s.files, s.reloader, now, hin⟩ := by
  have hreach : s.reach (now - s.now) = now := by
    cases hp : s.reloader.poller? with
    | none =>
      rw [reach, due?, hp, Option.bind_none, Option.map_none, Option.getD_none]
      omega
    | some line =>
      have hle := hdue line hp
      rw [reach, due?_eq hs hp]
      split
      · rw [Option.map_none, Option.getD_none]
        omega
      · rw [Option.map_some, Option.getD_some]
        omega
  simp only [step, later, hreach, dif_pos hin]

theorem advance_waiting (hs : s.Fits w start) {now : Nat} (hin : now < endOfClock)
    (hdue : ∀ line, s.reloader.poller? = some line → now < start + (s.ticks + 1) * w.interval) :
    s.reloader.advance w.keys s.files now poller = pure s.reloader := by
  cases hp : s.reloader.poller? with
  | none =>
    simp only [Reloader.advance, Reloader.ticks, hp, List.foldlM_nil]
  | some line =>
    have hwaits := hdue line hp
    obtain ⟨rfl, -, -⟩ := hs.line line hp
    simp only [Reloader.advance, Reloader.ticks_waiting hp hin hwaits, List.foldlM_nil]

/-- A poller that is due polls, and what comes after depends on what that leaves. -/
theorem advance_due (hs : s.Fits w start) {now : Nat} (hin : now < endOfClock) {line : Line}
    (hp : s.reloader.poller? = some line) (hdue : start + (s.ticks + 1) * w.interval ≤ now) :
    s.reloader.advance w.keys s.files now poller =
      ((s.reloader.withLine (some (Line.rhythm w.interval start w.interval_pos (s.ticks + 1)))).poll w.keys s.files
        (start + (s.ticks + 1) * w.interval) poller >>= fun r => r.advance w.keys s.files now poller) := by
  obtain ⟨rfl, -, -⟩ := hs.line line hp
  have hpast : ¬ Line.beats w.interval start now ≤ s.ticks := mt (Line.lt_due_iff w.interval_pos).2 (by omega)
  have hcount : Line.beats w.interval start now - s.ticks = Line.beats w.interval start now - (s.ticks + 1) + 1 := by
    omega
  have hmax : max s.ticks (Line.beats w.interval start now) = max (s.ticks + 1) (Line.beats w.interval start now) := by
    omega
  rw [Reloader.advance, Reloader.ticks_eq hp hin, hcount, hmax, List.range'_succ, List.map_cons, List.foldlM_cons,
    Reloader.poll_withLine, Reloader.poll_withLine]
  simp only [bind_map_left]
  refine congrArg _ (funext fun r => ?_)
  have hline : (r.withLine (some (Line.rhythm w.interval start w.interval_pos (s.ticks + 1)))).poller? =
    some (Line.rhythm w.interval start w.interval_pos (s.ticks + 1)) := rfl
  rw [Reloader.advance, Reloader.ticks_eq hline hin]
  rfl

theorem run_waiting (hs : s.Fits w start) {now : Nat} (hnow : s.now ≤ now) (hin : now < endOfClock)
    (hdue : ∀ line, s.reloader.poller? = some line → now < start + (s.ticks + 1) * w.interval) :
    s.run w poller [.pass (now - s.now)] =
      (s.reloader.advance w.keys s.files now poller >>= fun r => pure ⟨s.files, r, now, hin⟩) := by
  have hpass := pass_to poller hs hnow hin fun line hp => Nat.le_of_lt (hdue line hp)
  rw [advance_waiting poller hs hin hdue, run, List.foldlM_cons, hpass]
  rfl

/-- What a reloader does while time passes is made of such ticks: the poller never waits once it is due. -/
theorem advance_run (hs : s.Fits w start) {now : Nat} (hnow : s.now ≤ now) (hin : now < endOfClock) :
    ∃ acts : List Act, (∀ a ∈ acts, a = .tick ∨ ∃ ms, a = .pass ms) ∧
      s.run w poller acts =
        (s.reloader.advance w.keys s.files now poller >>= fun r => pure ⟨s.files, r, now, hin⟩) := by
  generalize hn : Line.beats w.interval start now - s.ticks = n
  induction n generalizing s with
  | zero =>
    have hlt : now < start + (s.ticks + 1) * w.interval := (Line.lt_due_iff w.interval_pos).2 (by omega)
    exact ⟨[.pass (now - s.now)], by simp, run_waiting poller hs hnow hin fun _ _ => hlt⟩
  | succ n ih =>
    have hdue : start + (s.ticks + 1) * w.interval ≤ now := by
      refine Nat.le_of_not_lt fun hlt => ?_
      have hbeats := (Line.lt_due_iff w.interval_pos).1 hlt
      omega
    cases hp : s.reloader.poller? with
    | none =>
      have hwaits : ∀ line, s.reloader.poller? = some line → now < start + (s.ticks + 1) * w.interval := by
        intro line hline
        rw [hp] at hline
        cases hline
      exact ⟨[.pass (now - s.now)], by simp, run_waiting poller hs hnow hin hwaits⟩
    | some line =>
      have hto : s.now ≤ start + (s.ticks + 1) * w.interval := (hs.line line hp).2.2
      -- the clock gets to the tick, which is taken, and the rest is done from there
      have hpass := pass_to poller hs hto (Nat.lt_of_le_of_lt hdue hin) fun _ _ => Nat.le_refl _
      have hs₁ := (step_moves poller hs (.pass (start + (s.ticks + 1) * w.interval - s.now))).fits hs
      rw [hpass, Run.value_pure] at hs₁
      have htick := tick_run poller hs₁ hp rfl
      have hs₂ := (step_moves poller hs₁ .tick).fits hs₁
      rw [htick, Run.value_bind, Run.value_pure] at hs₂
      rw [Reloader.poll_withLine] at hs₂ htick
      obtain ⟨rest, hrest, hrun⟩ := ih hs₂ hdue (by
        change Line.beats w.interval start now - (s.ticks + 1) = n
        omega)
      refine ⟨.pass (start + (s.ticks + 1) * w.interval - s.now) :: .tick :: rest, by simpa using hrest, ?_⟩
      rw [advance_due poller hs hin hp hdue, Reloader.poll_withLine, run, List.foldlM_cons, hpass, pure_bind,
        List.foldlM_cons, htick, bind_assoc, bind_assoc]
      exact Run.bind_congr hrun

/-! ## Results -/

theorem armed_fits {fs : Files} (hin : start < endOfClock) {ran : Run Reloader}
    (harm : Reloader.arm w.keys fs w.certPath w.keyPath w.interval start w.sink = .ok ran) :
    (⟨fs, ran.value, start, hin⟩ : Watched).Fits w start := by
  obtain ⟨hi, stamps, pair, -, rfl⟩ := Reloader.arm_ok harm
  refine ⟨rfl, rfl, fun line hp => ?_⟩
  cases hp
  change Line.start w.interval start w.interval_pos = Line.rhythm w.interval start w.interval_pos 0 ∧
    start + 0 * w.interval ≤ start ∧ start ≤ start + (0 + 1) * w.interval
  exact ⟨(Line.rhythm_zero ..).symm, by omega, Nat.le_add_right ..⟩

/-- What can be relied on while a pair is watched. -/
structure Dependable (w : Watch) (poller : Log.Sink) (s : Watched) : Prop where
  /--
    A call returns; it fails, finds nothing new, or puts the pair of the files into effect,
    and does nothing else. A reload does not ask whether there is anything new.
  -/
  called : ∀ a job, a.job? = some job → ∃ outcome r, s.reloader.Ends w.keys s.files s.now outcome r ∧
    s.outcome? w job = some outcome ∧ (job = .reload → outcome ≠ .ok false) ∧ (s.step w poller a).value = s.hold r
  /-- So does a tick that is due. -/
  ticked : s.due? = some s.now → ∃ outcome r line, s.reloader.Ends w.keys s.files s.now outcome r ∧
    (s.step w poller .tick).value = s.hold (r.withLine (some line)) ∧ line.count = s.ticks + 1
  idle : s.due? ≠ some s.now → s.step w poller .tick = pure s
  /-- A pair that can be loaded, and has not the stamps kept, is in effect from the next tick on; it comes in time. -/
  visible : ∀ pair, w.Renewed pair s.reloader.stamps s.files → s.reloader.isClosed = false →
    ∀ acts, (∀ a ∈ acts, Act.Keeps w pair s.reloader.stamps a) →
      let s' := (s.run w poller acts).value
      (s.ticks < s'.ticks → s'.reloader.pair = pair) ∧ (s.now + w.interval < s'.now → s.ticks < s'.ticks)
  /-- Once the reloader is closed no tick does anything, whatever else is done. -/
  closed : ∀ acts,
    let s' := (s.run w poller (.close :: acts)).value
    s'.step w poller .tick = pure s'

/-- Whatever is done to the files and called from the arming of a reloader on. -/
theorem run_dependable {fs : Files} (hin : start < endOfClock) {ran : Run Reloader}
    (harm : Reloader.arm w.keys fs w.certPath w.keyPath w.interval start w.sink = .ok ran) (acts : List Act) :
    ((⟨fs, ran.value, start, hin⟩ : Watched).run w poller acts).value.Dependable w poller := by
  have hs := run_fits poller (armed_fits hin harm) acts
  generalize ((⟨fs, ran.value, start, hin⟩ : Watched).run w poller acts).value = s at hs
  constructor
  case called =>
    intro a job ha
    exact call_ends poller hs ha
  case ticked =>
    intro hdue
    obtain ⟨-, outcome, r, hends, hstep⟩ := tick_due poller hs hdue
    exact ⟨outcome, r, _, hends, hstep, rfl⟩
  case idle => exact tick_idle poller hs
  case visible =>
    intro pair hrenewed ho acts hacts s'
    have hsees : s.Sees w pair s.reloader.stamps s.ticks :=
      ⟨hrenewed, ho, .inr rfl, Nat.le_refl _, fun h => absurd h (Nat.lt_irrefl _)⟩
    have hs' : s'.Fits w start := run_fits poller hs acts
    have hsees' : s'.Sees w pair s.reloader.stamps s.ticks := run_sees poller hs hacts hsees
    exact ⟨hsees'.ticked, ticks_within hs hs' ho hsees'.armed⟩
  case closed =>
    intro acts s'
    have hclosed : (s.step w poller .close).value.reloader.isClosed = true := by
      rw [step_close]
      rfl
    exact tick_closed poller (run_closed poller ((step_moves poller hs .close).fits hs) hclosed acts)

end Watched

namespace HalfRotation

open SlowReload

def half : Files := files.write "cert" (newChain 2)

def rotated : Files := half.write "key" (newKey 2)

/-- The poller ticks between the two halves of a rotation. -/
def halves : List Act := [.edit half, .pass 60000, .tick, .edit rotated]

def later : List Act := [.pass 60000, .tick]

def stamps : Stamps := ⟨(newChain 2).stamp, (newKey 2).stamp⟩

theorem inTime : 0 < endOfClock := by decide

end HalfRotation

open HalfRotation SlowReload in
theorem run_dependable_halves :
    ∃ (ran : Run Reloader) (pair : Keypair),
      Reloader.arm watch.keys files watch.certPath watch.keyPath watch.interval 0 watch.sink = .ok ran ∧
        Keypair.load watch.keys rotated watch.certPath watch.keyPath = .ok pair ∧
        let s := ((⟨files, ran.value, 0, inTime⟩ : Watched).run watch .ambient halves).value
        s.ticks = 1 ∧ s.reloader.pair = ran.value.pair ∧ (s.run watch .ambient later).value.reloader.pair = pair := by
  have hload : (Keypair.load watch.keys rotated watch.certPath watch.keyPath).toOption.isSome = true := by
    decide +kernel
  have hrun : ((Reloader.arm watch.keys files watch.certPath watch.keyPath watch.interval 0
      watch.sink).toOption.any fun ran =>
      let s := ((⟨files, ran.value, 0, inTime⟩ : Watched).run watch .ambient halves).value
      decide (s.ticks = 1 ∧ s.reloader.pair = ran.value.pair ∧ s.reloader.isClosed = false ∧
        stamps ≠ s.reloader.stamps ∧ (s.run watch .ambient later).value.ticks = 2)) = true := by
    decide +kernel
  cases harm : Reloader.arm watch.keys files watch.certPath watch.keyPath watch.interval 0 watch.sink with
  | error e => rw [harm] at hrun; cases hrun
  | ok ran =>
    rw [harm] at hrun
    obtain ⟨hticks, hkept, hopen, hchanged, hlater⟩ := of_decide_eq_true hrun
    cases hl : Keypair.load watch.keys rotated watch.certPath watch.keyPath with
    | error e => rw [hl] at hload; cases hload
    | ok pair =>
      refine ⟨ran, pair, rfl, rfl, hticks, hkept, ?_⟩
      have hdependable := Watched.run_dependable .ambient inTime harm halves
      have hvisible := hdependable.visible pair ⟨hl, stamps, rfl, hchanged⟩ hopen later (by simp [later, Act.Keeps])
      exact hvisible.1 (by rw [hticks, hlater]; decide)

end Tls

end ServiceHost
