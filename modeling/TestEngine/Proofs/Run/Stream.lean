/-
TestEngine/Proofs/Run/Stream.lean

What a run writes can be read back.  A run prints its plan, then results with successive
numbers and diagnostics between them, and after a bail-out its line (`stream_of_run`).  A reader
that knows nothing of the run therefore gets its results from the lines alone
(`decodes_of_run`), whatever the messages and the diagnostics say.

That the diagnostics are marked with a plain `#` is a matter of the console.  A run without
colours starts with them off, but scripts can turn them on; then the mark is in bold
(`coloured_of_configured`).
-/
import TestEngine.Proofs.Run.Coverage
import TestEngine.Proofs.Run.Respect
import TestEngine.Proofs.Tap.Stream
import TestEngine.Session

namespace TestEngine

/-- The text that the entry prints, if it prints one. -/
def Entry.text? : Entry → Option String
  | .printed _ text => some text
  | _ => none

namespace Engine

/-- The texts printed since the state `e`, in order. -/
def printedSince (e e' : Engine) : List String := (since e e').filterMap Entry.text?

/-- They are what a session puts into its buffer, as it starts each step with an empty journal. -/
theorem printedSince_of_nil {e e' : Engine} (h : e.journal = []) :
    printedSince e e' = Session.printedIn e'.journal := by
  have hjournal : e'.journal = e'.journal.reverse.reverse ++ e.journal := by
    rw [h, List.reverse_reverse, List.append_nil]
  rw [printedSince, since_eq hjournal]
  rfl

/-! ### Diagnostics -/

/-- If colours are in the class `C`, they stay in it, and the diagnostics printed meanwhile are
coloured so. -/
def Colours (C : Bool → Prop) (e e' : Engine) : Prop :=
  C e.console.colours → C e'.console.colours ∧ ∃ new : List Entry,
    e'.journal = new.reverse ++ e.journal ∧
      ∀ text, .printed .diagnostic text ∈ new → Tap.IsDiagnostic C text

namespace Colours

variable {C : Bool → Prop} {e e' e₁ e₂ e₃ : Engine}

theorem refl (e : Engine) : Colours C e e := fun hc => ⟨hc, [], rfl, by simp⟩

theorem trans (h : Colours C e₁ e₂) (h' : Colours C e₂ e₃) : Colours C e₁ e₃ := by
  intro hc
  obtain ⟨hc₂, new, hnew, htexts⟩ := h hc
  obtain ⟨hc₃, new', hnew', htexts'⟩ := h' hc₂
  refine ⟨hc₃, new ++ new', ?_, fun text hmem => ?_⟩
  · exact journal_append hnew hnew'
  · rcases List.mem_append.mp hmem with hmem | hmem
    · exact htexts text hmem
    · exact htexts' text hmem

/-- Nothing but what is noted and the console matters. -/
theorem congr (h : Colours C e e') (hjournal : e₁.journal = e.journal)
    (hconsole : e₁.console = e.console) (hjournal' : e₂.journal = e'.journal)
    (hconsole' : e₂.console = e'.console) : Colours C e₁ e₂ := by
  unfold Colours
  rw [hjournal, hconsole, hjournal', hconsole']
  exact h

theorem note {x : Entry} (hx : ∀ text, x = .printed .diagnostic text → C e.console.colours →
    Tap.IsDiagnostic C text) : Colours C e { e with journal := x :: e.journal } := by
  intro hc
  refine ⟨hc, [x], rfl, fun text hmem => ?_⟩
  exact hx text (List.mem_singleton.mp hmem).symm hc

end Colours

theorem colours_enlist (C : Bool → Prop) (named : Bool) (h : Hook) (e : Engine) :
    Colours C e (enlist named h e) := by
  rcases named with _ | _
  · exact (Colours.refl e).congr rfl rfl rfl rfl
  · exact (Colours.refl e).congr rfl rfl rfl rfl

theorem colours_binding (C : Bool → Prop) (h : Hook) (e : Engine) : Colours C e (binding h e) :=
  (Colours.refl e).congr rfl rfl rfl rfl

theorem colours_consulted (C : Bool → Prop) (i : Installed) (d : Diagnostic) (e : Engine) :
    Colours C e (consulted i d e) := by
  have hasked : Colours C e { e with journal := .asked i.id d :: e.journal } :=
    .note fun _ htext => Entry.noConfusion htext
  rcases hc : i.hook.counter? d with - | counter
  · exact hasked.congr rfl rfl (by simp [consulted, hc]) rfl
  · have hcredited := hasked.trans
      (.note (x := .credited counter) fun _ htext => Entry.noConfusion htext)
    exact hcredited.congr rfl rfl (by simp [consulted, hc]) rfl

/-- Scripts that do not choose other colours print diagnostics as they are meant to be. -/
theorem respected_colours {A : Action → Prop} {C : Bool → Prop}
    (hA : ∀ verbosity colours, A (.configure verbosity colours) → C colours) :
    Respected A (fun x => ∀ text, x ≠ .printed .diagnostic text) (Colours C) where
  refl := Colours.refl
  trans h h' := h.trans h'
  noted _ _ hx := .note fun text htext => absurd htext (hx text)
  printed e d := .note fun text htext hc => by
    cases htext
    exact ⟨d, e.console.colours, hc, rfl⟩
  installed _ _ _ _ _ := colours_enlist C _ _ _
  popped e _ _ _ _ := (Colours.refl e).congr rfl rfl rfl rfl
  released _ h _ _ := ((colours_enlist C _ _ _).trans h).congr rfl rfl rfl rfl
  discarded _ h := ((colours_enlist C _ _ _).trans h).congr rfl rfl rfl rfl
  bound _ _ h := ((colours_binding C _ _).trans h).congr rfl rfl rfl rfl
  recorded e _ v _ _ := by
    have hnoted : Colours C e { e with journal := .recorded v :: e.journal } :=
      .note fun _ htext => Entry.noConfusion htext
    exact hnoted.congr rfl rfl rfl rfl
  tested {e e'} _ h := by
    have hentered : Colours C e { e with journal := .entered :: e.journal } :=
      .note fun _ htext => Entry.noConfusion htext
    have hleft : Colours C e' { e' with journal := .left :: e'.journal } :=
      .note fun _ htext => Entry.noConfusion htext
    exact ((hentered.trans (h.congr rfl rfl rfl rfl)).trans hleft).congr rfl rfl rfl rfl
  threaded h := h.congr rfl rfl rfl rfl
  cleaned h := h.congr rfl rfl rfl rfl
  asked d _ h := h.trans (colours_consulted C _ d _)
  collected e counter amount _ := by
    have hnoted : Colours C e { e with journal := .collected counter amount :: e.journal } :=
      .note fun _ htext => Entry.noConfusion htext
    exact hnoted.congr rfl rfl rfl rfl
  configured _ verbosity colours ha _ := ⟨hA verbosity colours ha, [], rfl, by simp⟩
  intercepted e := (Colours.refl e).congr rfl rfl rfl rfl

/-! ### Entries of a stream -/

/-- Entries whose results have these numbers, and whose diagnostics are coloured so, print a
stream. -/
theorem woven_of_entries {C : Bool → Prop} {entries : List Entry} {number : Nat}
    {results : List Line} (hreports : entries.filterMap Entry.reportText? = resultTexts number results)
    (hdiagnostics : ∀ text, .printed .diagnostic text ∈ entries → Tap.IsDiagnostic C text) :
    Tap.Woven C number results (entries.filterMap Entry.text?) := by
  induction entries generalizing number results with
  | nil =>
    rcases results with - | ⟨line, results⟩
    · exact .done
    · exact absurd hreports (by simp [resultTexts])
  | cons x entries ih =>
    have hothers := fun text hmem => hdiagnostics text (List.mem_cons_of_mem x hmem)
    -- only what is printed matters, and it is either a result or a diagnostic
    have hskip : x.reportText? = none → x.text? = none →
        Tap.Woven C number results ((x :: entries).filterMap Entry.text?) := by
      intro hreport htext
      rw [List.filterMap_cons_none hreport] at hreports
      rw [List.filterMap_cons_none htext]
      exact ih hreports hothers
    rcases x with ⟨_ | _, text⟩ | _ | _ | _ | _ | _ | _ | _ | _ | _ | _ | _ | _ | _ | _ | _
    · rcases results with - | ⟨⟨path, v⟩, results⟩
      · exact absurd hreports (by simp [Entry.reportText?, resultTexts])
      · rw [List.filterMap_cons_some (by rfl), resultTexts] at hreports
        obtain ⟨rfl, hrest⟩ := List.cons.inj hreports
        exact .result (ih hrest hothers)
    · rw [List.filterMap_cons_none (by rfl)] at hreports
      exact .comment (hdiagnostics text (List.mem_cons_self ..)) (ih hreports hothers)
    all_goals exact hskip rfl rfl

end Engine

namespace Run

open Engine

variable {mode : Mode} {t : Tree} {root : ObjectId} {e e' : Engine}

/-- A run starts with the console of its mode, and nothing else that matters is changed. -/
theorem prepare_eq_ok {u : Unit} (h : prepare mode e = .ok u e') :
    e'.console = ⟨mode.verbosity, mode.colours⟩ ∧ e'.journal = e.journal ∧ e'.chain = e.chain := by
  unfold prepare at h
  obtain ⟨_, e₁, hintercept, hset⟩ := bind_eq_ok.mp h
  rw [modify_eq_ok] at hset
  have hsame : e₁.journal = e.journal ∧ e₁.chain = e.chain := by
    unfold intercept at hintercept
    rw [get_bind_eq_ok] at hintercept
    rcases hs : e.subscriber with _ | _ | _ <;> simp only [hs] at hintercept
    · rw [set_eq_ok] at hintercept
      rw [← hintercept]
      exact ⟨rfl, rfl⟩
    · exact absurd hintercept Engine.violate_eq_ok
    · obtain ⟨-, rfl⟩ := pure_eq_ok.mp hintercept
      exact ⟨rfl, rfl⟩
  rw [← hset]
  exact ⟨rfl, hsame⟩

/-- A run that returns has made progress from the console of its mode. -/
theorem progress_of_run (hlist : mode.listOnly = false) {s : Summary}
    (h : run mode t root e = .ok s e') : ∃ e₁ r ss,
      runSuite mode t root e₁ = .ok r.summary r.engine ∧ r.summary = s ∧ r.engine = e' ∧
      e₁.console = ⟨mode.verbosity, mode.colours⟩ ∧ e₁.journal = e.journal ∧ e₁.chain = e.chain ∧
      Progress mode (start t (announced t root e₁)) ss r := by
  obtain ⟨_, e₁, hprepare, hsuite⟩ := bind_eq_ok.mp h
  obtain ⟨hconsole, hjournal, hchain⟩ := prepare_eq_ok hprepare
  obtain ⟨r, hrun, rfl, rfl⟩ := runSuite_eq_ok.mp hsuite
  obtain ⟨-, ss, hprogress, -, -⟩ := suite_spec hlist hrun
  exact ⟨e₁, r, ss, hsuite, rfl, rfl, hconsole, hjournal, hchain, hprogress⟩

/-- The scripts in the class turn no colours on. -/
def Colourless (a : Action) : Prop := ∀ verbosity, a ≠ .configure verbosity true

theorem proper_of_results {r : Run} {ss : List Settlement} (h : t.Sound)
    (hprogress : Progress mode (start t e) ss r) :
    ∀ p ∈ r.summary.results.map Prod.fst, p.Proper := by
  intro p hp
  rw [paths_of_results h hprogress] at hp
  obtain ⟨case, hcase, hp⟩ := List.mem_flatMap.mp hp
  have hnode := Tree.isSome_node?_of_case? (isSome_case?_of_settled hprogress case hcase)
  refine ⟨?_, Tree.isElement_of_mem_reportPaths h hp⟩
  rcases Tree.eq_or_of_mem_reportPaths hp with heq | ⟨tag, heq⟩
  · rw [heq]
    exact h.forest.path_ne_empty hnode
  · rw [heq]
    simp

/-- Only a run that stops at the first failure bails out, and it names the case. -/
theorem case_of_bailOut {r : Run} {ss : List Settlement}
    (h : Progress mode (start t (announced t root e)) ss r) (message : String)
    (hbail : r.summary.bailOut = some message) : mode.failFast = true ∧
      ∃ case, (t.case? case).isSome = true ∧ message = (t.path case).render ++ " failed" := by
  obtain ⟨hfast, ⟨s, hs, hnames⟩, -⟩ := bailOut_of_progress h rfl hbail
  have hcase := isSome_case?_of_settled h s.case (List.mem_map_of_mem hs)
  exact ⟨hfast, s.case, hcase, hnames⟩

theorem newline_not_mem_bailOut {r : Run} {ss : List Settlement} (ht : t.Sound)
    (h : Progress mode (start t (announced t root e)) ss r) (message : String)
    (hbail : r.summary.bailOut = some message) : '\n' ∉ message.toList := by
  obtain ⟨-, case, -, rfl⟩ := case_of_bailOut h message hbail
  have hpath := (t.path case).not_mem_render_of_isBlank
    (fun x hx => ht.forest.isElement_of_mem_path hx) (c := '\n') (by decide)
  rw [String.toList_append, List.mem_append, not_or]
  exact ⟨hpath, by decide⟩

/-- The entries of a run: its plan, and then others, among which the lines of the report are the
numbered results and, at the very end, the line of a bail-out. -/
theorem noted_of_progress {r : Run} {ss : List Settlement}
    (h : Progress mode (start t (announced t root e)) ss r) : ∃ new : List Entry,
      r.engine.journal =
        (.printed .report (Tap.plan (planned t (t.leaves root))) :: new).reverse ++ e.journal ∧
      new.filterMap Entry.reportText? = resultTexts 1 r.summary.results ++
        r.summary.bailOut.toList.map (fun message => Tap.bailOut (some message)) ∧
      ∀ message, r.summary.bailOut = some message →
        new.getLast? = some (.printed .report (Tap.bailOut (some message))) := by
  obtain ⟨new, hnew, hsteps⟩ := h.steps.noted
  have hreports : new.filterMap Entry.reportText? = resultTexts 1 r.summary.results ++
      r.summary.bailOut.toList.map fun message => Tap.bailOut (some message) := by
    have htexts := reportTexts_of_progress h rfl
    rw [← hsteps, List.filterMap_filter] at htexts
    rw [h.results]
    refine Eq.trans (List.filterMap_congr fun x _ => ?_) htexts
    rcases x with ⟨_ | _, _⟩ | _ | _ | _ | _ | _ | _ | _ | _ | _ | _ | _ | _ | _ | _ | _ <;> rfl
  refine ⟨new, ?_, hreports, fun message hbail => ?_⟩
  · rw [List.reverse_cons, List.append_assoc]
    exact hnew
  · obtain ⟨-, -, hlast⟩ := bailOut_of_progress h rfl hbail
    rw [hnew] at hlast
    rw [hbail] at hreports
    rcases List.eq_nil_or_concat new with rfl | ⟨init, x, rfl⟩
    · exact absurd hreports (by simp)
    · rw [List.concat_eq_append] at hlast ⊢
      rw [List.getLast?_concat]
      simpa using hlast

/-- Such entries print a stream of the results and the line of the bail-out. -/
theorem woven_of_noted {C : Bool → Prop} {new : List Entry} {results : List Line}
    {bailOut : Option String}
    (hreports : new.filterMap Entry.reportText? = resultTexts 1 results ++
      bailOut.toList.map fun message => Tap.bailOut (some message))
    (hlast : ∀ message, bailOut = some message →
      new.getLast? = some (.printed .report (Tap.bailOut (some message))))
    (hdiagnostics : ∀ text, .printed .diagnostic text ∈ new → Tap.IsDiagnostic C text) :
    ∃ texts, new.filterMap Entry.text? =
        texts ++ bailOut.toList.map (fun message => Tap.bailOut (some message)) ∧
      Tap.Woven C 1 results texts := by
  rcases bailOut with - | message
  · rw [Option.toList_none, List.map_nil, List.append_nil] at hreports
    exact ⟨_, (List.append_nil _).symm, woven_of_entries hreports hdiagnostics⟩
  · obtain ⟨init, rfl⟩ := List.getLast?_eq_some_iff.mp (hlast message rfl)
    rw [List.filterMap_append] at hreports
    have hinit : init.filterMap Entry.reportText? = resultTexts 1 results :=
      List.append_cancel_right hreports
    refine ⟨init.filterMap Entry.text?, List.filterMap_append .., woven_of_entries hinit ?_⟩
    exact fun text hmem => hdiagnostics text (List.mem_append_left _ hmem)

/-- What a run has printed: a plan, a stream of its results, and the line of a bail-out.  The
diagnostics are coloured in the class `C` if the mode is, and no script chooses other colours. -/
theorem stream_of_run {A : Action → Prop} {C : Bool → Prop}
    (hA : ∀ verbosity colours, A (.configure verbosity colours) → C colours) (ht : t.Within A)
    (he : e.Within A) (hcolours : C mode.colours) (hlist : mode.listOnly = false)
    {s : Summary} (h : run mode t root e = .ok s e') :
    ∃ texts, printedSince e e' = Tap.plan (planned t (t.leaves root)) ::
        (texts ++ s.bailOut.toList.map fun message => Tap.bailOut (some message)) ∧
      Tap.Woven C 1 s.results texts := by
  obtain ⟨e₁, r, ss, hsuite, rfl, rfl, hconsole, hjournal, hchain, hprogress⟩ :=
    progress_of_run hlist h
  obtain ⟨new, hnew, hreports, hlast⟩ := noted_of_progress hprogress
  have hwithin : e₁.Within A := by
    unfold Engine.Within
    rw [hchain]
    exact he
  have halone : ∀ {x : Entry}, x.Alone → ∀ text, x ≠ .printed .diagnostic text :=
    fun hx text hprinted => (hprinted ▸ hx : (Entry.printed .diagnostic text).Alone)
  have hkeeps := keeps_runSuite (respected_colours hA) halone mode ht root e₁ hwithin
  rw [hsuite] at hkeeps
  obtain ⟨-, entries, hentries, hdiagnostics⟩ := hkeeps.2 (by rw [hconsole]; exact hcolours)
  -- the entries are the same, read in two ways
  obtain rfl : entries = .printed .report (Tap.plan (planned t (t.leaves root))) :: new :=
    List.reverse_injective (List.append_cancel_right (hentries.symm.trans hnew))
  obtain ⟨texts, htexts, hwoven⟩ := woven_of_noted hreports hlast fun text hmem =>
    hdiagnostics text (List.mem_cons_of_mem _ hmem)
  refine ⟨texts, ?_, hwoven⟩
  rw [printedSince, since_eq (hnew.trans (congrArg _ hjournal)), ← htexts]
  rfl

/-! ### Reading a run back -/

/-- The lines are those of a run with this summary, and its results can be read off them. -/
structure Decodes (mode : Mode) (t : Tree) (root : ObjectId) (e : Engine) (s : Summary)
    (lines : List (List Char)) : Prop where
  /-- The plan comes first, and the line of a bail-out last.  Every other line starts a result or
  with the mark of a diagnostic, which is a plain `#` unless colours are on or turned on. -/
  layout : ∃ body, lines = (Tap.plan (planned t (t.leaves root))).toList ::
      (body ++ s.bailOut.toList.map fun message => (Tap.bailOut (some message)).toList) ∧
    (∀ line ∈ body, Tap.isResult line = true ∨ ∃ colours, (Tap.mark colours).toList <+: line) ∧
    (mode.colours = false → t.Within Colourless → e.Within Colourless →
      ∀ line ∈ body, Tap.isResult line = true ∨ ['#'] <+: line)
  /-- Only fail-fast bails out, and it names the case that failed. -/
  bailOut : ∀ message, s.bailOut = some message → mode.failFast = true ∧
    ∃ case, (t.case? case).isSome = true ∧ message = (t.path case).render ++ " failed"
  /-- There are as many result lines as results. -/
  count : lines.countP Tap.isResult = s.results.length
  /-- What is read off them are the results with their numbers. -/
  results : Tap.decode lines = (s.results.zipIdx 1).map fun r =>
    some ⟨r.2, r.1.1, Tap.shown r.1.2⟩

/-- The results of a run can be read off what it writes into an empty buffer. -/
theorem decodes_of_run (calls : List Tree.Call) (mode : Mode) (root : ObjectId) (e e' : Engine)
    (s : Summary) (hlist : mode.listOnly = false)
    (h : run mode (Tree.ofCalls calls) root e = .ok s e') :
    Decodes mode (Tree.ofCalls calls) root e s
      (Text.lines (Tap.Buffer.empty.emitAll (printedSince e e')).contents.toList) := by
  have hsound := Tree.sound_ofCalls calls
  generalize Tree.ofCalls calls = t at *
  obtain ⟨e₁, r, ss, -, rfl, rfl, -, -, -, hprogress⟩ := progress_of_run hlist h
  have hpaths := proper_of_results hsound hprogress
  have hbail := case_of_bailOut hprogress
  have hline := newline_not_mem_bailOut hsound hprogress
  -- first without any restriction on colours
  obtain ⟨texts, htexts, hwoven⟩ := stream_of_run (A := fun _ => True) (C := fun _ => True)
    (fun _ _ _ => trivial) t.within_all e.within_all trivial hlist h
  have hlines := Tap.lines_output (planned t (t.leaves root)) texts hline
  have hdecode := hwoven.decode_output hpaths (planned t (t.leaves root)) r.summary.bailOut
  rw [htexts, hlines]
  refine ⟨⟨_, rfl, fun line hmem => ?_, fun hcolours ht he line hmem => ?_⟩, hbail, ?_, hdecode⟩
  · rcases hwoven.classified hpaths line hmem with hresult | hfurther | ⟨colours, -, hcomment⟩
    · exact .inl hresult
    · exact .inr ⟨false, hfurther⟩
    · exact .inr ⟨colours, hcomment⟩
  · -- the same texts once more, with the colours known
    obtain ⟨texts', htexts', hwoven'⟩ := stream_of_run (C := fun colours => colours = false)
      (fun verbosity colours hA => by
        rcases colours with - | -
        · rfl
        · exact absurd rfl (hA verbosity)) ht he hcolours hlist h
    obtain rfl : texts' = texts :=
      List.append_cancel_right (List.cons.inj (htexts'.symm.trans htexts)).2
    rcases hwoven'.classified hpaths line hmem with hresult | hfurther | ⟨colours, rfl, hcomment⟩
    · exact .inl hresult
    · exact .inr hfurther
    · exact .inr hcomment
  · rw [← Tap.length_decode, hdecode, List.length_map, List.length_zipIdx]

/-- A suite with two cases, the first of which logs and fails with texts that look like results. -/
def forgedCalls : List Tree.Call :=
  [.suite "s",
    .addCase 0 "a"
      [.emit ⟨"net", .message, "up\nok 7 /x", false⟩, .raise (.fail "one\nok 3 /x # SKIP\n")],
    .addCase 0 "b" []]

/-- What a run of it that stops at the first failure has to say in the end. -/
def forgedSummary : Summary where
  passed := 0
  skipped := 0
  failed := 1
  results := [(⟨["s", "a"]⟩, .fail "one\nok 3 /x # SKIP\n")]
  bailOut := some "/s/a failed"

/-- Only what has been reported is read off what this run writes. -/
theorem decodes_of_forged :
    let o := Engine.run { Mode.default with failFast := true } (Tree.ofCalls forgedCalls) 0 .initial
    let ls := Text.lines (Tap.Buffer.empty.emitAll (printedSince .initial (endOf o))).contents.toList
    o = .ok forgedSummary (endOf o) ∧ ls.countP Tap.isResult = 1 ∧
      Tap.decode ls = [some ⟨1, ⟨["s", "a"]⟩, .fail "one\nok 3 /x # SKIP"⟩] := by
  intro o ls
  have hrun : o = .ok forgedSummary (endOf o) := eq_ok_of_valueOf (by decide +kernel)
  have hdecodes := decodes_of_run forgedCalls { Mode.default with failFast := true } 0 .initial
    (endOf o) forgedSummary rfl hrun
  exact ⟨hrun, hdecodes.count, hdecodes.results.trans (by decide +kernel)⟩

/-- A suite with a case that turns colours on before it logs. -/
def colouredCalls : List Tree.Call :=
  [.suite "s",
    .addCase 0 "a" [.configure .normal true, .emit ⟨"net", .message, "hello", false⟩]]

/-- A run of it without colours prints a line that is no result, starts with no `#` and is not that
of a bail-out. -/
theorem coloured_of_configured :
    let o := Engine.run .default (Tree.ofCalls colouredCalls) 0 .initial
    let ls := Text.lines (Tap.Buffer.empty.emitAll (printedSince .initial (endOf o))).contents.toList
    let line := "\x1b[0m\x1b[1m#\x1b[0m \x1b[0m\x1b[1m\x1b[32mMESSAGE\x1b[0m: (net) hello".toList
    Mode.default.colours = false ∧ isOk o = true ∧
      ls = ["1..1".toList, line, "ok 1 /s/a".toList] ∧ Tap.isResult line = false ∧
      ¬['#'] <+: line ∧ ¬"Bail out!".toList <+: line := by
  intro o ls line
  exact ⟨rfl, by decide +kernel, by decide +kernel, by decide, by decide, by decide⟩

end Run

end TestEngine
