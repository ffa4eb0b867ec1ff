/-
TestEngine/Proofs/Run/Kin.lean

Cases in two engines that are kin.  To a case belong its scripts and the counters of its
expectations, and if these keep to the resources of a pairing (`Pairing.Permits`), the case is
finished in the same way in both engines, be it in different trees (`finish_of_kin`).

Engines at rest are kin at the start if they agree on what may be read (`Pairing.kin_start`), and
so are engines in the same state but for the console and the flags, if the console is not to be
read (`Pairing.kin_settings`).
-/
import TestEngine.Proofs.Engine.Kin
import TestEngine.Proofs.Run.Handle

namespace TestEngine

namespace CaseData

/-- A script of the case makes use of what it finds there. -/
def Reads (c : CaseData) (x : Resource) : Prop := ∃ s ∈ c.scripts, Script.Reads s x

/-- A script of the case changes what is there, or an expectation of it. -/
def Writes (c : CaseData) (x : Resource) : Prop :=
  (∃ s ∈ c.scripts, Script.Writes s x) ∨ (Hook.expecting c.expectations).Writes x

/-- A case that carries out one script and nothing else. -/
def plain (script : Script) : CaseData := .new (.simple script) none

@[simp] theorem reads_plain {script : Script} {x : Resource} :
    (plain script).Reads x ↔ Script.Reads script x := by
  simp [Reads, plain, scripts, new, Body.scripts]

@[simp] theorem writes_plain {script : Script} {x : Resource} :
    (plain script).Writes x ↔ Script.Writes script x := by
  simp [Writes, plain, scripts, new, Body.scripts, Hook.Writes]

end CaseData

namespace Tree

/-- The case makes use of what it finds there. -/
def CaseReads (t : Tree) (case : ObjectId) (x : Resource) : Prop :=
  ∃ data, t.case? case = some data ∧ data.Reads x

/-- The case changes what is there. -/
def CaseWrites (t : Tree) (case : ObjectId) (x : Resource) : Prop :=
  ∃ data, t.case? case = some data ∧ data.Writes x

end Tree

namespace Engine

variable {k : Pairing} {e e' : Engine} {case : ObjectId} {path : Path} {number number' unit : Nat}
  {policies : List Policy} {expectations : List Expectation}

/-- The case keeps to the resources of the pairing. -/
structure Pairing.Permits (k : Pairing) (c : CaseData) : Prop where
  scripts : ∀ s ∈ c.scripts, Script.Within k.Allows s
  expectations : k.Admits (.expecting c.expectations)

theorem Pairing.permits_of_uses (hflags : k.start'.flags = k.start.flags) {c : CaseData}
    (hreads : ∀ x, c.Reads x → k.reads x) (hwrites : ∀ x, c.Writes x → k.writes x) :
    k.Permits c where
  scripts s hs := within_of_uses hflags (fun x hx => hreads x ⟨s, hs, hx⟩)
    fun x hx => hwrites x (.inl ⟨s, hs, hx⟩)
  expectations := admits_of_uses hflags (fun _ hx => hx.elim) fun x hx => hwrites x (.inr hx)

/-- Engines at rest that agree on what may be read are kin. -/
theorem Pairing.kin_start (hrest : AtRest k.start) (hrest' : AtRest k.start')
    (hchain : k.start'.chain = k.start.chain) (hadmits : ∀ i ∈ k.start.chain, k.Admits i.hook)
    (hconsole : k.sees .diagnostic = true → k.start.console.Milder k.start'.console)
    (hsteady : k.start'.debug = k.start.debug ∧ k.start'.subscriber = k.start.subscriber ∧
      k.start'.thread = k.start.thread)
    (hreads : ∀ x, k.reads x → x.Same k.start k.start') : k.Kin k.start k.start' := by
  obtain ⟨hdebug, hsubscriber, hthread⟩ := hsteady
  have hid : ∀ i ∈ k.start.chain, Shifted k.start.nextHook k.start'.nextHook i.id i.id :=
    fun i hi => .old (hrest.numbered.lt_nextHook hi) (hrest'.numbered.lt_nextHook (hchain ▸ hi))
  refine
    { chain := ?_
      nextHook := ⟨0, rfl, rfl⟩
      context := ?_
      console := hconsole
      settings := fun hx => hreads _ hx
      flags := ⟨rfl, rfl⟩
      debug := hdebug
      subscriber := hsubscriber
      thread := ?_
      nextThread := ⟨0, rfl, rfl⟩
      unwinding := hrest'.calm.trans hrest.calm.symm
      counters := fun handle hx => hreads _ hx
      pushed := fun hx => ?_
      own := ?_
      untouched := fun x _ => ⟨.refl x _, .refl x _⟩
      echoes := ⟨[], [], rfl, rfl, .refl _⟩ }
  · rw [hchain]
    exact List.forall₂_same.mpr fun i hi => ⟨hid i hi, rfl, hadmits i hi⟩
  · rw [hrest.idle, hrest'.idle]
    exact .none
  · rw [hthread]
    exact .old hrest.thread (hthread ▸ hrest'.thread)
  · have hpushed : k.start'.pushed = k.start.pushed := hreads .names hx
    rw [hpushed]
    exact List.forall₂_same.mpr fun id hid =>
      .old (hrest.numbered.named id (List.mem_append_left _ hid))
        (hrest'.numbered.named id (List.mem_append_left _ (hpushed ▸ hid)))
  · rw [hrest.own, hrest'.own]
    exact .nil

/-- Engines that differ in the console and the flags only are kin, be they at rest or not. -/
theorem Pairing.kin_settings {console : Console} {flags : ModeFlags}
    (hstart : k.start' = { k.start with console := console, flags := flags })
    (hadmits : ∀ i ∈ k.start.chain, k.Admits i.hook)
    (hconsole : k.sees .diagnostic = true → k.start.console.Milder console)
    (hreads : k.reads .console → console = k.start.console) :
    k.Kin k.start k.start' := by
  have hself : ∀ n a, Shifted n n a a := by
    intro n a
    rcases Nat.lt_or_ge a n with hlt | hge
    · exact .old hlt hlt
    · obtain ⟨i, rfl⟩ := Nat.exists_eq_add_of_le hge
      exact .new i
  have hid : k.start'.nextHook = k.start.nextHook := by rw [hstart]
  have hthread : k.start'.nextThread = k.start.nextThread := by rw [hstart]
  refine
    { chain := ?_
      nextHook := ⟨0, rfl, rfl⟩
      context := ?_
      console := fun hsees => ?_
      settings := fun hx => ?_
      flags := ⟨rfl, rfl⟩
      debug := by rw [hstart]
      subscriber := by rw [hstart]
      thread := ?_
      nextThread := ⟨0, rfl, rfl⟩
      unwinding := by rw [hstart]
      counters := fun handle _ => by rw [hstart]
      pushed := fun _ => ?_
      own := ?_
      untouched := fun x _ => ⟨.refl x _, .refl x _⟩
      echoes := ⟨[], [], rfl, rfl, .refl _⟩ }
  · have hchain : k.start'.chain = k.start.chain := by rw [hstart]
    rw [hchain]
    exact List.forall₂_same.mpr fun i hi => ⟨hid ▸ hself _ _, rfl, hadmits i hi⟩
  · have hcontext : k.start'.context = k.start.context := by rw [hstart]
    rw [hcontext]
    rcases k.start.context with - | c
    · exact .none
    · exact .some ⟨hthread ▸ hself _ _, rfl⟩
  · have hsame : k.start'.console = console := by rw [hstart]
    rw [hsame]
    exact hconsole hsees
  · rw [hstart]
    exact hreads hx
  · have hsame : k.start'.thread = k.start.thread := by rw [hstart]
    rw [hsame, hthread]
    exact hself _ _
  · have hpushed : k.start'.pushed = k.start.pushed := by rw [hstart]
    rw [hpushed, hid]
    exact List.forall₂_same.mpr fun id _ => hself _ _
  · have hown : k.start'.own = k.start.own := by rw [hstart]
    rw [hown, hid]
    exact List.forall₂_same.mpr fun id _ => hself _ _

/-- An engine is compared with itself: this says which resources stay as they are. -/
def Pairing.itself (e : Engine) (writes : Resource → Prop) : Pairing where
  start := e
  start' := e
  reads := fun _ => True
  writes := writes
  sees := fun _ => true

theorem Pairing.kin_itself (writes : Resource → Prop) (hrest : AtRest e)
    (hhooks : ∀ x, e.HooksWrite x → writes x) : (Pairing.itself e writes).Kin e e :=
  kin_start (k := .itself e writes) hrest hrest rfl
    (fun i hi => admits_of_uses rfl (fun _ _ => trivial) fun x hx => hhooks x ⟨i, hi, hx⟩)
    (fun _ => .refl _) ⟨rfl, rfl, rfl⟩ fun x _ => .refl x _

theorem Pairing.permits_itself {writes : Resource → Prop} {c : CaseData}
    (hwrites : ∀ x, c.Writes x → writes x) : (Pairing.itself e writes).Permits c :=
  permits_of_uses rfl (fun _ _ => trivial) hwrites

/-! ### Bodies -/

theorem couples_runUnit {script : Script} (hs : Script.Within k.Allows script) :
    k.Couples (runUnit case unit script) (runUnit case unit script) :=
  couples_execute (couples_bind (couples_note rfl) fun _ => couples_perform hs)

/-- Lines may have other numbers if nobody looks at them. -/
theorem couples_report (hnumber : k.sees .report = true → number' = number) (v : Verdict) :
    k.Couples (report case number path v) (report case number' path v) := by
  refine couples_bind (couples_note ?_) fun _ => couples_note rfl
  rcases hsees : k.sees .report with - | -
  · simp [Entry.seen?, hsees]
  · rw [hnumber hsees]

theorem couples_subpath (tag : String) : k.Couples (subpath path tag) (subpath path tag) := by
  unfold subpath
  split
  · exact couples_pure _
  · exact couples_violate _

theorem couples_runSubunits {units : List (String × Script)} {failed : Bool}
    (hnumber : k.sees .report = true → number' = number)
    (hunits : ∀ u ∈ units, Script.Within k.Allows u.2) :
    k.Couples (runSubunits case path number unit failed units)
      (runSubunits case path number' unit failed units) := by
  induction units generalizing number number' unit failed with
  | nil => exact couples_pure _
  | cons u units ih =>
    obtain ⟨tag, script⟩ := u
    rw [runSubunits_cons, runSubunits_cons]
    refine couples_bind ?_ fun v => couples_bind (couples_subpath tag) fun p =>
      couples_bind (couples_report hnumber v) fun _ => ?_
    · exact couples_ite (couples_pure _) (couples_runUnit (hunits _ (List.mem_cons_self ..)))
    · refine couples_bind (ih (fun hsees => congrArg (· + 1) (hnumber hsees)) ?_) fun _ =>
        couples_pure _
      exact fun u hu => hunits u (List.mem_cons_of_mem _ hu)

theorem couples_runBody {body : Body} (hnumber : k.sees .report = true → number' = number)
    (hbody : ∀ s ∈ body.scripts, Script.Within k.Allows s) :
    k.Couples (runBody case path number body) (runBody case path number' body) := by
  rcases body with script | units
  · exact couples_bind (couples_runUnit (hbody script (List.mem_singleton.mpr rfl))) fun v =>
      couples_bind (couples_report hnumber v) fun _ => couples_pure _
  · refine couples_bind (couples_runSubunits hnumber fun u hu => ?_) fun _ => couples_pure _
    exact hbody u.2 (List.mem_map_of_mem hu)

/-- The hooks of the case are new ones in both engines. -/
theorem couples_bracket {body : Body} (hnumber : k.sees .report = true → number' = number)
    (hbody : ∀ s ∈ body.scripts, Script.Within k.Allows s)
    (hexpectations : k.Admits (.expecting expectations)) :
    k.Couples (bracket case path number policies expectations body)
      (bracket case path number' policies expectations body) := by
  have hinner : ∀ outer outer' : HookId, k.Couples
      (withHook (.expecting expectations) fun inner => do
        note (.bracketed case outer inner)
        runBody case path number body)
      (withHook (.expecting expectations) fun inner => do
        note (.bracketed case outer' inner)
        runBody case path number' body) := by
    intro outer outer'
    refine couples_withHook hexpectations false (fun h => nomatch h) fun e e' _ h => ?_
    have hnote : k.Couples (note (.bracketed case outer e.nextHook))
        (note (.bracketed case outer' e'.nextHook)) := couples_note rfl
    exact couples_bind hnote (fun _ => couples_runBody hnumber hbody) _ _ h
  exact couples_withHook (h := .failIfLogged policies) trivial false (fun h => nomatch h)
    fun e e' _ h => hinner _ _ _ _ h

theorem couples_event (event : LogEvent) : k.Couples (log perform event) (log perform event) :=
  couples_log (fun _ => couples_perform) event

theorem couples_runCase {body : Body} (hnumber : k.sees .report = true → number' = number)
    (hbody : ∀ s ∈ body.scripts, Script.Within k.Allows s)
    (hexpectations : k.Admits (.expecting expectations)) :
    k.Couples (runCase case path number policies expectations body)
      (runCase case path number' policies expectations body) := by
  rw [runCase_eq, runCase_eq]
  exact couples_bind (couples_event _) fun _ =>
    couples_bind (couples_bracket hnumber hbody hexpectations) fun _ =>
      couples_bind (couples_event _) fun _ => couples_pure _

theorem couples_reportSubunits (hnumber : k.sees .report = true → number' = number) (v : Verdict)
    (tags : List String) : k.Couples (reportSubunits case path number v tags)
      (reportSubunits case path number' v tags) := by
  induction tags generalizing number number' with
  | nil => exact couples_pure _
  | cons tag tags ih =>
    exact couples_bind (couples_subpath tag) fun p => couples_bind (couples_report hnumber v) fun _ =>
      couples_bind (ih fun hsees => congrArg (· + 1) (hnumber hsees)) fun _ => couples_pure _

theorem couples_reportUnrun (hnumber : k.sees .report = true → number' = number) (v : Verdict)
    (tags : List String) : k.Couples (reportUnrun case path number tags v)
      (reportUnrun case path number' tags v) := by
  unfold reportUnrun
  refine couples_ite ?_ (couples_reportSubunits hnumber v tags)
  exact couples_bind (couples_report hnumber v) fun _ => couples_pure _

end Engine

namespace Run

open Engine

variable {mode mode' : Mode} {t : Tree} {case root : ObjectId} {data : CaseData} {number : Nat}
  {blocked : Option Verdict} {v : Verdict} {r r' r₁ : Run}

/-! ### Cases in engines that are kin -/

section Kin

variable {k : Pairing} {t' : Tree} {number' : Nat} {e e' : Engine}

theorem couples_reporting (hstatic : t'.static = t.static)
    (hnumber : k.sees .report = true → number' = number) (v : Verdict) :
    k.Couples (reporting t case number v) (reporting t' case number' v) := by
  unfold reporting
  rw [Tree.path_eq_of_static hstatic, Tree.tags_eq_of_static hstatic]
  exact couples_bind (couples_reportUnrun hnumber v _) fun _ => couples_pure _

theorem couples_settling (hexcluded : mode'.excluded = mode.excluded)
    (hstatic : t'.static = t.static) (hpermits : k.Permits data)
    (hnumber : k.sees .report = true → number' = number) :
    k.Couples (settling mode t case data number blocked)
      (settling mode' t' case data number' blocked) := by
  rcases blocked with - | v
  · unfold settling
    rw [hexcluded, Tree.path_eq_of_static hstatic, Tree.inheritedPolicies_eq_of_static hstatic]
    refine couples_ite (couples_reporting hstatic hnumber _) ?_
    rcases hbody : data.body with - | body
    · exact couples_violate _
    · refine couples_runCase hnumber (fun s hs => hpermits.scripts s ?_) hpermits.expectations
      rw [CaseData.scripts, hbody]
      exact List.mem_append_left _ hs
  · exact couples_reporting hstatic hnumber v

theorem couples_cleaning {teardown : Option Script}
    (hscript : ∀ script ∈ teardown.toList, Script.Within k.Allows script) :
    k.Couples (cleaning case teardown) (cleaning case teardown) := by
  rcases teardown with - | script
  · exact couples_pure ()
  · refine couples_get_bind fun e e' h => ?_
    have hnote : k.Couples (Engine.note (.tearingDown case e.isActive (e.chain.map Installed.id)))
        (Engine.note (.tearingDown case e'.isActive (e'.chain.map Installed.id))) :=
      couples_note rfl
    exact couples_bind hnote (fun _ => couples_perform (hscript script (by simp))) e e' h

theorem couples_handle (hexcluded : mode'.excluded = mode.excluded)
    (hfast : mode'.failFast = mode.failFast) (hstatic : t'.static = t.static)
    (hpermits : k.Permits data) (hnumber : k.sees .report = true → number' = number) :
    k.Couples (handle mode t case data number blocked)
      (handle mode' t' case data number' blocked) := by
  unfold handle grievance bailsOut
  rw [hfast, Tree.path_eq_of_static hstatic]
  have hscript : ∀ script ∈ data.teardown.toList, Script.Within k.Allows script := fun s hs =>
    hpermits.scripts s (List.mem_append_right _ hs)
  refine couples_bind (couples_settling hexcluded hstatic hpermits hnumber) fun outcome =>
    couples_bind (couples_cleaning hscript) fun _ => couples_bind (couples_note rfl) fun _ => ?_
  refine couples_ite ?_ (couples_pure outcome)
  exact couples_bind (couples_note rfl) fun _ => couples_pure outcome

/-- What has happened to a case in one run happens in the other one, too, if it is the same case
there. -/
theorem finish_of_kin (hexcluded : mode'.excluded = mode.excluded)
    (hfast : mode'.failFast = mode.failFast) (hstatic : r'.tree.static = r.tree.static)
    (hsame : r'.tree.case? case = r.tree.case? case)
    (hpermits : ∀ data, r.tree.case? case = some data → k.Permits data)
    (hnumber : k.sees .report = true → r'.reported = r.reported) (hkin : k.Kin r.engine r'.engine)
    (h : finish mode case blocked r = .ok v r₁) : ∃ lines e e',
      r.finished mode case v lines e = r₁ ∧
        finish mode' case blocked r' = .ok v (r'.finished mode' case v lines e') ∧ k.Kin e e' := by
  obtain ⟨data, lines, e, hcase, hnone, hhandle, rfl⟩ := finish_iff_handle.mp h
  have hnumber' : k.sees .report = true → r'.reported + 1 = r.reported + 1 := fun hsees =>
    congrArg (· + 1) (hnumber hsees)
  have hcouples : Alike k.Kin (handle mode r.tree case data (r.reported + 1) blocked r.engine)
      (handle mode' r'.tree case data (r'.reported + 1) blocked r'.engine) :=
    couples_handle hexcluded hfast hstatic (hpermits data hcase) hnumber' _ _ hkin
  rw [hhandle] at hcouples
  rcases hcouples.cases with ⟨_, e₁, e', hok, hok', hends⟩ | ⟨_, _, _, herror, -, -⟩
  · cases hok
    exact ⟨lines, e, e', rfl, finish_iff_handle.mpr ⟨data, lines, e', hsame.trans hcase, hnone, hok',
      rfl⟩, hends⟩
  · nomatch herror

end Kin

end Run

end TestEngine
