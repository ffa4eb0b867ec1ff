/-
TestEngine/Proofs/Run/Series.lean

Several runs in one process.  A run sets up the console and the flags for itself, whatever scripts
have made of the console before, and what else it finds in the engine are numbers that have been
given, which nobody sees, and what scripts share: the hooks in the chain, and the other resources.
If the runs leave the hooks as they have found them and their trees do not share resources, then
each run does what it would have done as the first one (`repeats_of_series`).  Its scripts may well
push hooks of their own and pop them by their local names, though these hooks have other numbers
then.

A hook that is in the chain all the time may well hold something that changes from run to run.  So
the state for a first run with the same hooks (`FirstOf`) is one in which what these use is as it is
now, and all else is as it was before the runs.
-/
import TestEngine.Proofs.Run.Abreast

namespace TestEngine

namespace Tree

/-- Some case of the tree makes use of what it finds there. -/
def Reads (t : Tree) (x : Resource) : Prop := ∃ c, t.CaseReads c x

/-- Some case of the tree changes what is there. -/
def Writes (t : Tree) (x : Resource) : Prop := ∃ c, t.CaseWrites c x

end Tree

namespace Engine

variable {mode : Mode} {t : Tree} {root : ObjectId} {e e' e₁ e₂ first : Engine} {s : Summary}
  {x : Resource}

/-! ### Single runs -/

theorem AtRest.prepared (h : AtRest e) (mode : Mode) : AtRest (e.prepared mode) :=
  ⟨h.idle, h.calm, h.own, ⟨h.numbered.fresh, h.numbered.named⟩, h.thread⟩

/-- Engines that are set up for the same mode agree on the console. -/
theorem same_prepared (mode : Mode) (h : x ≠ .console → x.Same e e') :
    x.Same (e.prepared mode) (e'.prepared mode) := by
  rcases x with handle | - | -
  · exact h (by simp)
  · exact h (by simp)
  · rfl

/-- The console is the only resource that is set up. -/
theorem same_of_prepared (hx : x ≠ .console) (h : x.Same (e.prepared mode) e') : x.Same e e' := by
  rcases x with handle | - | -
  · exact h
  · exact h
  · exact absurd rfl hx

/-- A run changes nothing but what its cases and the hooks change, apart from the console. -/
theorem same_of_run (he : AtRest e) (h : run mode t root e = .ok s e') (hx : x ≠ .console)
    (htree : ¬ t.Writes x) (hhooks : ¬ e.HooksWrite x) : x.Same e e' := by
  obtain ⟨-, hsuite⟩ := run_iff.mp h
  have hkin := Pairing.kin_itself (fun x => t.Writes x ∨ e.HooksWrite x)
    (he.prepared mode) fun _ hx => .inr hx
  have hcouples := couples_runSuite (.refl mode)
    (fun c data hc => Pairing.permits_itself fun _ hx => .inl ⟨c, data, hc, hx⟩) root _ _ hkin
  rw [hsuite] at hcouples
  exact same_of_prepared hx (hcouples.2.untouched x (not_or.mpr ⟨htree, hhooks⟩)).1

/-- What a run prints, it prints in another state that agrees on what its cases and the hooks make
use of, apart from the console. -/
theorem sublist_of_same (he : AtRest e) (hfirst : AtRest first)
    (hchain : first.chain = e.chain) (hdebug : first.debug = e.debug)
    (hthread : first.thread = e.thread) (hhears : first.subscriber ≠ .foreign)
    (hsame : ∀ x, x ≠ .console → t.Reads x ∨ e.HooksRead x → x.Same e first)
    (h : run mode t root e = .ok s e') : ∃ e₁, run mode t root first = .ok s e₁ ∧
      (printedSince e e').Sublist (printedSince first e₁) := by
  obtain ⟨-, hsuite⟩ := run_iff.mp h
  let k : Pairing :=
    { start := e.prepared mode
      start' := first.prepared mode
      reads := fun x => t.Reads x ∨ e.HooksRead x
      writes := fun _ => True
      sees := fun _ => true }
  have hkin : k.Kin (e.prepared mode) (first.prepared mode) :=
    Pairing.kin_start (he.prepared mode) (hfirst.prepared mode) hchain
      (fun i hi => Pairing.admits_of_uses rfl (fun _ hx => .inr ⟨i, hi, hx⟩) fun _ _ => trivial)
      (fun _ => .refl _)
      ⟨hdebug, rfl, hthread⟩ fun x hx => same_prepared mode fun hset => hsame x hset hx
  have hcouples := couples_runSuite (k := k) (.refl mode)
    (fun c data hc => Pairing.permits_of_uses rfl (fun _ hx => .inl ⟨c, data, hc, hx⟩)
      fun _ _ => trivial) root _ _ hkin
  rcases hcouples.cases with ⟨s', _, e₁, hok, hok', hends⟩ | ⟨_, _, _, herror, -, -⟩
  · cases hsuite.symm.trans hok
    refine ⟨e₁, run_iff.mpr ⟨hhears, hok'⟩, ?_⟩
    have hprinted := hends.echoes.since
    rwa [seen?_all] at hprinted
  · nomatch hsuite.symm.trans herror

/-- A run makes use of nothing but what its cases and the hooks make use of, and sets the console up
for itself. -/
theorem run_of_same (he : AtRest e) (hfirst : AtRest first)
    (hchain : first.chain = e.chain) (hdebug : first.debug = e.debug)
    (hthread : first.thread = e.thread) (hhears : first.subscriber ≠ .foreign)
    (hsame : ∀ x, x ≠ .console → t.Reads x ∨ e.HooksRead x → x.Same e first)
    (h : run mode t root e = .ok s e') :
    ∃ e₁, run mode t root first = .ok s e₁ ∧ printedSince first e₁ = printedSince e e' := by
  obtain ⟨e₁, hrun, hsub⟩ :=
    sublist_of_same he hfirst hchain hdebug hthread hhears hsame h
  -- the same the other way round
  have hback : ∀ x, x ≠ .console → t.Reads x ∨ first.HooksRead x → x.Same first e := by
    intro x hset hx
    unfold HooksRead at hx
    rw [hchain] at hx
    exact (hsame x hset hx).symm
  obtain ⟨e₂, hagain, hsub'⟩ := sublist_of_same hfirst he hchain.symm hdebug.symm hthread.symm
    (run_iff.mp h).1 hback hrun
  cases h.symm.trans hagain
  exact ⟨e₁, hrun, hsub'.antisymm hsub⟩

/-! ### Series of runs -/

/-- A run to be made: its mode, the operations that build its tree, and its root. -/
structure Outing where
  mode : Mode
  calls : List Tree.Call
  root : ObjectId

namespace Outing

/-- The tree of the run. -/
def tree (o : Outing) : Tree := Tree.ofCalls o.calls

/-- Make the run. -/
def act (o : Outing) : Act Summary := run o.mode o.tree o.root

end Outing

/-- Runs are made one after another, each of which returns and leaves the hooks as it has found
them. -/
inductive Series : Engine → List Outing → Engine → Prop
  | none (e : Engine) : Series e [] e
  | next {e e₁ e₂ : Engine} {o : Outing} {os : List Outing} {s : Summary}
      (hrun : o.act e = .ok s e₁) (hchain : e₁.chain = e.chain) (hrest : Series e₁ os e₂) :
      Series e (o :: os) e₂

namespace Series

variable {os : List Outing}

theorem reached (h : Series e os e₁) (he : e.Reached) : e₁.Reached := by
  induction h with
  | none => exact he
  | next hrun _ _ ih => exact ih (.ran _ _ _ he (.inl ⟨_, hrun⟩))

theorem chain_eq (h : Series e os e₁) : e₁.chain = e.chain := by
  induction h with
  | none => rfl
  | next _ hchain _ ih => exact ih.trans hchain

theorem debug_eq (h : Series e os e₁) : e₁.debug = e.debug := by
  induction h with
  | none => rfl
  | @next e _ _ o _ _ hrun _ _ ih =>
    have hkeeps : Keeps _ Steady o.act :=
      keeps_run (respected_steady (fun _ => True) fun _ => True) (fun _ => trivial)
        (fun _ => ⟨rfl, Nat.le_refl _, rfl, fun h => h⟩) o.tree.within_all o.root
    exact ih.trans (hkeeps.of_ended (.inl ⟨_, hrun⟩)).debug

/-- What neither the cases nor the hooks change is as it was before all of the runs, apart from the
console. -/
theorem same (h : Series e os e₁) (he : e.Reached) (hx : x ≠ .console)
    (htrees : ∀ o ∈ os, ¬ o.tree.Writes x) (hhooks : ¬ e.HooksWrite x) : x.Same e e₁ := by
  induction h with
  | none => exact .refl x _
  | @next e _ _ o _ _ hrun hchain _ ih =>
    have hfirst := same_of_run he.atRest hrun hx
      (htrees o (List.mem_cons_self ..)) hhooks
    refine hfirst.trans (ih (.ran _ _ _ he (.inl ⟨_, hrun⟩))
      (fun p hp => htrees p (List.mem_cons_of_mem _ hp)) ?_)
    unfold HooksWrite
    rw [hchain]
    exact hhooks

end Series

/-- A hook in the chain makes use of what it finds there, or changes it. -/
def HooksUse (e : Engine) (x : Resource) : Prop := e.HooksRead x ∨ e.HooksWrite x

/-- The state is one for a first run with the hooks of `e`.  What the hooks use belongs to them and is
as in `e₁`, and what only the run makes use of is as in `e`.  The console may have any settings. -/
structure FirstOf (o : Outing) (e e₁ first : Engine) : Prop where
  reached : first.Reached
  chain : first.chain = e.chain
  debug : first.debug = e.debug
  hears : first.subscriber ≠ .foreign
  hooks : ∀ x, x ≠ .console → o.tree.Reads x ∨ e.HooksRead x → e.HooksUse x → x.Same e₁ first
  others : ∀ x, x ≠ .console → o.tree.Reads x → ¬ e.HooksUse x → x.Same e first

/-- A run from `e₁` to `e₂` does what it does as a first one. -/
structure Repeats (o : Outing) (first e₁ e₂ : Engine) (s : Summary) : Prop where
  /-- It returns with the same summary and prints the same texts, -/
  same : ∃ e', o.act first = .ok s e' ∧ printedSince e₁ e₂ = printedSince first e'
  /-- and the numbers of its results start at 1. -/
  numbered : o.mode.listOnly = false → reportTextsSince e₁ e₂ =
    Tap.plan (Run.planned o.tree (o.tree.leaves o.root)) :: resultTexts 1 s.results ++
      s.bailOut.toList.map fun message => Tap.bailOut (some message)

/-- The numbered lines in the report of a run are its results, from 1 on, and the line of a
bail-out stands behind them. -/
theorem reportTexts_of_run (hlist : mode.listOnly = false) (h : run mode t root e = .ok s e') :
    reportTextsSince e e' = Tap.plan (Run.planned t (t.leaves root)) :: resultTexts 1 s.results ++
      s.bailOut.toList.map fun message => Tap.bailOut (some message) := by
  obtain ⟨e₁, r, ss, -, rfl, rfl, -, hjournal, -, hprogress⟩ := Run.progress_of_run hlist h
  obtain ⟨new, hnew, hreports, -⟩ := Run.noted_of_progress hprogress
  rw [reportTextsSince, since_eq (hnew.trans (congrArg _ hjournal)), List.cons_append, ← hreports]
  rfl

/-- Runs in one process are independent of each other.  After runs that have left the hooks as they
have found them, and whose trees have changed nothing, but for the console, that the tree of the
next run makes use of, the next run has the summary and prints the texts that it would have, and
print, as the first run with the same hooks, and numbers its results from 1 on. -/
theorem repeats_of_series (e first e₁ e₂ : Engine) (earlier : List Outing) (o : Outing)
    (s : Summary) (he : e.Reached) (hseries : Series e earlier e₁) (hrun : o.act e₁ = .ok s e₂)
    (hshare : ∀ p ∈ earlier, ∀ x, x ≠ .console → p.tree.Writes x → ¬ o.tree.Reads x)
    (hfirst : FirstOf o e e₁ first) : Repeats o first e₁ e₂ s := by
  have hreached := hseries.reached he
  have hchain := hseries.chain_eq
  have hsame : ∀ x, x ≠ .console → o.tree.Reads x ∨ e₁.HooksRead x → x.Same e₁ first := by
    intro x hset hx
    unfold HooksRead at hx
    rw [hchain] at hx
    by_cases hhooks : e.HooksUse x
    · exact hfirst.hooks x hset hx hhooks
    · -- neither the hooks nor the runs before have changed it
      have hreads : o.tree.Reads x := hx.resolve_right fun h => hhooks (.inl h)
      have hbefore := hseries.same he hset (fun p hp hw => hshare p hp x hset hw hreads) fun h =>
        hhooks (.inr h)
      exact hbefore.symm.trans (hfirst.others x hset hreads hhooks)
  obtain ⟨e', hact, hprinted⟩ := run_of_same hreached.atRest
    hfirst.reached.atRest (hfirst.chain.trans hchain.symm)
    (hfirst.debug.trans hseries.debug_eq.symm)
    (hfirst.reached.thread.1.trans hreached.thread.1.symm) hfirst.hears hsame hrun
  exact ⟨⟨e', hact, hprinted.symm⟩, fun hlist => reportTexts_of_run hlist hrun⟩

/-- A run in colours, the first case of which has a hook of its own and turns the colours off.  It
bails out when the second case fails, and keeps a third one from running. -/
def loudOuting : Outing where
  mode := { Mode.default with verbosity := .verbose, colours := true, failFast := true }
  calls :=
    [.suite "s",
      .addCase 0 "a" [.withHook ⟨none, []⟩ [.emit ⟨"net", .message, "up", false⟩], .count 0,
        .configure .quiet false],
      .addCase 0 "b" [.raise (.fail "broken")], .addCase 0 "c" []]
  root := 0

/-- A plain run of a case that logs on two domains.  It pushes a hook and pops it again, and fails if
it does not find the console as a plain run has it. -/
def plainOuting : Outing where
  mode := .default
  calls :=
    [.suite "s", .addCase 0 "a"
      [.letHook ⟨none, []⟩ [.emit ⟨"net", .message, "up", false⟩, .popLocal 0],
        .emit ⟨"disk", .message, "full", false⟩, .count 1,
        .choose (.console .normal false) [] [.raise (.fail "changed")]]]
  root := 0

/-- A hook that keeps silent about a domain. -/
def hush : RuleHook Action := ⟨some "hush", [⟨some "net", none, none, [], .suppress⟩]⟩

/-- A process with two counters and this hook. -/
def hushed : Engine := endOf (perform [.pushHook hush] (newCounter (newCounter .initial).2).2)

/-- The hook of the process is the only one in the chain. -/
def leavesHushed : List Installed → Bool
  | [⟨1, .rules ⟨some "hush", [⟨some "net", none, none, [], .suppress⟩]⟩⟩] => true
  | _ => false

theorem eq_of_leavesHushed {chain : List Installed} (h : leavesHushed chain = true) :
    chain = hushed.chain := by
  unfold leavesHushed at h
  split at h
  · rfl
  · nomatch h

/-- The plain run does after the loud one what it does on its own. -/
theorem repeats_of_loud :
    let o := loudOuting.act hushed
    let o' := plainOuting.act (endOf o)
    ∃ s s', o = .ok s (endOf o) ∧ s.bailOut = some "/s/b failed" ∧ o' = .ok s' (endOf o') ∧
      Repeats plainOuting hushed (endOf o) (endOf o') s' ∧
      printedSince (endOf o) (endOf o') = ["1..1", "# MESSAGE: (disk) full", "ok 1 /s/a"] := by
  intro o o'
  obtain ⟨s, hs⟩ := Option.isSome_iff_exists.mp (show (valueOf o).isSome = true by decide +kernel)
  have hbail : s.bailOut = some "/s/b failed" := by
    have hall : (valueOf o).bind Summary.bailOut = some "/s/b failed" := by decide +kernel
    rwa [hs] at hall
  obtain ⟨s', hs'⟩ := Option.isSome_iff_exists.mp (show (valueOf o').isSome = true by decide +kernel)
  have hrun : loudOuting.act hushed = .ok s (endOf o) := eq_ok_of_valueOf hs
  have hrun' : plainOuting.act (endOf o) = .ok s' (endOf o') := eq_ok_of_valueOf hs'
  have hhushed : hushed.Reached := .performed _ (.counted (.counted (.initial _ _)))
    (.inl ⟨(), eq_ok_endOf (by decide +kernel)⟩)
  have hleft : leavesHushed (endOf o).chain = true := by decide +kernel
  have hchain : (endOf o).chain = hushed.chain := eq_of_leavesHushed hleft
  have hwrites : ∀ x, loudOuting.tree.Writes x → x = .counter 0 ∨ x = .names ∨ x = .console := by
    rintro x ⟨c, data, hcase, hx⟩
    have hdata : data ∈ [.plain [.withHook ⟨none, []⟩ [.emit ⟨"net", .message, "up", false⟩],
      .count 0, .configure .quiet false], .plain [.raise (.fail "broken")], .plain []] :=
      Tree.mem_cases hcase
    rcases hdata with - | ⟨-, - | ⟨-, - | ⟨-, ⟨⟩⟩⟩⟩
    · simp [Action.scripts, Action.Writes, RuleHook.scripts] at hx
      grind
    · simp [Action.scripts, Action.Writes] at hx
    · simp at hx
  have hreads : ∀ x, plainOuting.tree.Reads x → x = .counter 1 ∨ x = .console := by
    rintro x ⟨c, data, hcase, hx⟩
    have hdata : data ∈ [.plain
      [.letHook ⟨none, []⟩ [.emit ⟨"net", .message, "up", false⟩, .popLocal 0],
        .emit ⟨"disk", .message, "full", false⟩, .count 1,
        .choose (.console .normal false) [] [.raise (.fail "changed")]]] := Tree.mem_cases hcase
    obtain rfl := List.mem_singleton.mp hdata
    simpa [Action.scripts, Action.Reads, RuleHook.scripts] using hx
  have hsilent : ∀ x, ¬ hushed.HooksUse x := by
    rintro x (⟨i, hi, hx⟩ | ⟨i, hi, hx⟩)
    all_goals
      obtain rfl : i = ⟨1, .rules hush⟩ := List.mem_singleton.mp hi
      simp [Hook.Reads, Hook.Writes, hush, RuleHook.scripts] at hx
  have hseries : Series hushed [loudOuting] (endOf o) := .next hrun hchain (.none _)
  have hshare : ∀ p ∈ [loudOuting], ∀ x, x ≠ .console → p.tree.Writes x →
      ¬ plainOuting.tree.Reads x := by
    intro p hp x hset hx hread
    obtain rfl := List.mem_singleton.mp hp
    obtain rfl := (hreads x hread).resolve_right hset
    simpa using hwrites _ hx
  have hfirst : FirstOf plainOuting hushed (endOf o) hushed :=
    ⟨hhushed, rfl, rfl, by decide +kernel, fun x _ _ hx => absurd hx (hsilent x),
      fun x _ _ _ => .refl x _⟩
  exact ⟨s, s', hrun, hbail, hrun',
    repeats_of_series hushed hushed (endOf o) (endOf o') [loudOuting] plainOuting s' hhushed
      hseries hrun' hshare hfirst, by decide +kernel⟩

end Engine

end TestEngine
