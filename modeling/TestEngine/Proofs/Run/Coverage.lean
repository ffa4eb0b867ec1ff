/-
TestEngine/Proofs/Run/Coverage.lean

What the run of a suite covers.  A suite keeps its dependencies to itself: what a case
below it can depend on lies below it too (`Tree.closed_leaves`).  So the cases that a run
settles are the cases below its root, each once, whatever order the dependencies impose
(`settled_perm_leaves`); and the report, the plan, the listing and the summary agree
(`fullReport_of_suite`).
-/
import TestEngine.Proofs.Run.Listing

namespace TestEngine

namespace Tree

variable {t : Tree}

theorem case?_eq_none_of_suite {id : ObjectId} (h : t.kind? id = some .suite) :
    t.case? id = none := by
  unfold kind? at h
  unfold case?
  rcases hn : t.node? id with - | n <;> rw [hn] at h
  · rfl
  · rcases hc : n.case? with - | c
    · simp [hc]
    · simp only [Option.map_some, hc] at h
      split at h <;> exact absurd h (by simp)

theorem dependencies_of_suite {id : ObjectId} (h : t.kind? id = some .suite) :
    t.dependencies id = [] := by
  unfold dependencies
  rw [case?_eq_none_of_suite h]

/-- The cases below a root wait for cases below the root only, unless the root is a case with
dependencies of its own. -/
theorem closed_leaves (h : t.Forest) {root : ObjectId}
    (hroot : ∀ d ∈ t.dependencies root, t.leaves d = []) : t.Closed fun c => c ∈ t.leaves root := by
  intro c hc d hd hsibling l hl
  rw [awaited_eq_leaves h hsibling.1] at hl
  by_cases he : c = root
  · rw [hroot d (he ▸ hd)] at hl
    exact absurd hl (by simp)
  · exact h.leaves_subset_of_sibling hc he hsibling.2 hl

end Tree

namespace Run

variable {mode : Mode} {t : Tree} {root : ObjectId} {e : Engine} {r : Run} {ss : List Settlement}

/-- A run settles the cases below its root, each once, if the root brings in no others. -/
theorem settled_perm_leaves (h : t.Sound) (hroot : ∀ d ∈ t.dependencies root, t.leaves d = [])
    (hprogress : Progress mode (start t e) ss r)
    (hresolved : ∀ l ∈ t.leaves root, (r.tree.result? l).isSome = true)
    (hconfined : Confined t (t.leaves root) ss) :
    (ss.map Settlement.case).Perm (t.leaves root) := by
  refine (List.perm_ext_iff_of_nodup hprogress.nodup (h.forest.nodup_leaves root)).mpr fun c => ?_
  constructor
  · intro hc
    obtain ⟨s, hs, rfl⟩ := List.mem_map.mp hc
    exact hconfined _ (Tree.closed_leaves h.forest hroot) (fun l hl => hl) s hs
  · intro hc
    obtain ⟨s, hs, rfl⟩ := hprogress.mem_of_result? (h.result?_eq_none c) (hresolved c hc)
    exact List.mem_map_of_mem hs

/-- The first entry with a given key is the only one. -/
theorem find?_of_nodup {α κ : Type} [BEq κ] [LawfulBEq κ] {key : α → κ} {l : List α} {a : α}
    (hnodup : (l.map key).Nodup) (ha : a ∈ l) : l.find? (fun x => key x == key a) = some a := by
  rcases hfind : l.find? (fun x => key x == key a) with - | b
  · have hnone := List.find?_eq_none.mp hfind a ha
    exact absurd (beq_self_eq_true (key a)) hnone
  · have hkey : key b = key a := by simpa using List.find?_some hfind
    rw [List.inj_on_of_nodup_map hnodup (List.mem_of_find?_eq_some hfind) ha hkey]

/-- If no path is reported twice, the summary finds the result of each. -/
theorem resultFor?_of_nodup {s : Summary} {line : Path × Verdict}
    (hnodup : (s.results.map fun line => line.1.render).Nodup) (hline : line ∈ s.results) :
    s.resultFor? line.1.render = some line.2 := by
  unfold Summary.resultFor?
  rw [find?_of_nodup hnodup hline]
  rfl

/-- Every case at or below a root has each of its paths once. -/
theorem count_reportPaths (h : t.Sound) (root case : ObjectId) (path : Path) :
    ((t.leaves root).flatMap fun c => (t.reportPaths c).map fun p => (c, p)).count (case, path) =
      if (t.case? case).isSome = true ∧ root ∈ t.lineage case ∧ path ∈ t.reportPaths case then 1
      else 0 := by
  have hnodup : ((t.leaves root).flatMap fun c =>
      (t.reportPaths c).map fun p => (c, p)).Nodup := by
    refine List.nodup_flatMap.mpr ⟨fun c _ => ?_, ?_⟩
    · exact (Tree.nodup_reportPaths h c).map fun _ _ hpq => congrArg Prod.snd hpq
    · -- pairs of different cases differ, whatever their paths
      refine (h.forest.nodup_leaves root).imp fun {a b} hab x hxa hxb => hab ?_
      obtain ⟨p, -, rfl⟩ := List.mem_map.mp hxa
      obtain ⟨q, -, hq⟩ := List.mem_map.mp hxb
      exact (congrArg Prod.fst hq).symm
  rw [List.Nodup.count hnodup]
  refine if_congr ?_ rfl rfl
  rw [← and_assoc, ← h.forest.mem_leaves]
  simp

/-- The report of a run of the tree `t` from `root` is complete and exact. -/
structure FullReport (t : Tree) (root : ObjectId) (e : Engine) (r : Run) : Prop where
  /-- Every case at or below the root is reported once under each of its paths, and nothing
  else is reported. -/
  once : ∀ case path,
    ((Engine.reportsSince e r.engine).map fun x => (x.1, x.2.1)).count (case, path) =
      if (t.case? case).isSome = true ∧ root ∈ t.lineage case ∧ path ∈ t.reportPaths case then 1
      else 0
  /-- The summary holds what is reported, in order. -/
  summary : r.summary.results = (Engine.reportsSince e r.engine).map Prod.snd
  /-- What is printed is the plan, for as many results as there are, and the results. -/
  texts : Engine.reportTextsSince e r.engine =
    Tap.plan r.summary.results.length :: Engine.resultTexts 1 r.summary.results
  /-- The same tree in list mode prints the same paths in some order, none twice, and the
  summary finds for each of them the result that was reported for it. -/
  listing : ∀ (mode : Mode) (e' : Engine), mode.listOnly = true → ∃ texts r',
    suite mode root (start t e') = .ok () r' ∧
    Engine.since e' r'.engine = texts.map (Entry.printed .report) ∧
    (r.summary.results.map fun line => line.1.render).Perm texts ∧ texts.Nodup ∧
    ∀ text ∈ texts, ∃ line ∈ r.summary.results, line.1.render = text ∧
      r.summary.resultFor? text = some line.2

/-- The run of a suite, without fail-fast, reports in full. -/
theorem fullReport_of_suite (calls : List Tree.Call) (mode : Mode) (root : ObjectId) (e : Engine)
    (r : Run) (hroot : (Tree.ofCalls calls).kind? root = some .suite)
    (hlist : mode.listOnly = false) (hfast : mode.failFast = false)
    (h : suite mode root (start (Tree.ofCalls calls) e) = .ok () r) :
    FullReport (Tree.ofCalls calls) root e r := by
  have hsound := Tree.sound_ofCalls calls
  generalize Tree.ofCalls calls = t at *
  obtain ⟨hnode, ss, hprogress, hresolved, hconfined⟩ := suite_spec hlist h
  have hover : r.isOver = false := hprogress.isOver_eq hfast
  have hown : ∀ d ∈ t.dependencies root, t.leaves d = [] := by
    rw [Tree.dependencies_of_suite hroot]
    exact fun d hd => absurd hd (by simp)
  have hperm := settled_perm_leaves hsound hown hprogress (hresolved hover) hconfined
  have hlines := lines_of_settled hsound hprogress
  have hresults : r.summary.results = ss.flatMap Settlement.lines := hprogress.results
  have hlisting : (r.summary.results.map Prod.fst).Perm (t.listing root) := by
    rw [paths_of_results hsound hprogress]
    exact hperm.flatMap_right _
  have hlength : planned t (t.leaves root) = r.summary.results.length := by
    rw [← Tree.length_listing hsound.forest, ← hlisting.length_eq, List.length_map]
  have hreports := reports_of_suite hprogress
  have hrendered : (r.summary.results.map fun line => line.1.render).Perm
      ((t.listing root).map Path.render) := by
    have hmap := hlisting.map Path.render
    rw [List.map_map] at hmap
    exact hmap
  have hkeys := hrendered.nodup_iff.mpr (Tree.nodup_map_render_listing hsound root)
  refine ⟨fun case path => ?_, ?_, ?_, fun mode' e' hmode' => ?_⟩
  · have hpairs : (Engine.reportsSince e r.engine).map (fun x => (x.1, x.2.1)) =
        (ss.map Settlement.case).flatMap fun c => (t.reportPaths c).map fun p => (c, p) := by
      rw [hreports, List.map_flatMap, List.flatMap_map]
      refine List.flatMap_congr fun s hs => ?_
      rw [← hlines s hs, List.map_map, List.map_map]
      rfl
    rw [hpairs, (hperm.flatMap_right _).count_eq]
    exact count_reportPaths hsound root case path
  · rw [hreports, hresults, List.map_flatMap]
    refine List.flatMap_congr fun s _ => ?_
    rw [List.map_map]
    exact (List.map_id _).symm
  · rw [reportTexts_of_suite hprogress hfast, hlength]
  · refine ⟨(t.listing root).map Path.render, _, suite_listing hsound hnode hmode' e',
      since_listed _ t e', ?_, Tree.nodup_map_render_listing hsound root, fun text htext => ?_⟩
    · exact hrendered
    · obtain ⟨p, hp, rfl⟩ := List.mem_map.mp htext
      obtain ⟨line, hline, rfl⟩ := List.mem_map.mp (hlisting.mem_iff.mpr hp)
      exact ⟨line, hline, rfl, resultFor?_of_nodup hkeys hline⟩

/-- A suite with a case that depends on a complex case and on a suite declared after it. -/
def nestedCalls : List Tree.Call :=
  [.suite "s", .addCase 0 "a" [], .addComplexCase 0 "c" [("x", []), ("y", [])] none,
    .addSuite 0 "inner", .addCase 3 "d" [], .addDependency 1 2, .addDependency 1 3]

/-- The cases of this suite are reported in full, though not in the order of the listing. -/
theorem fullReport_of_nested :
    let o := suite .default 0 (start (Tree.ofCalls nestedCalls) .initial)
    (Tree.ofCalls nestedCalls).kind? 0 = some .suite ∧ o = .ok () (endOf o) ∧
      FullReport (Tree.ofCalls nestedCalls) 0 .initial (endOf o) := by
  intro o
  have hroot : (Tree.ofCalls nestedCalls).kind? 0 = some .suite := by decide +kernel
  have hrun : o = .ok () (endOf o) := eq_ok_endOf (by decide +kernel)
  exact ⟨hroot, hrun,
    fullReport_of_suite nestedCalls .default 0 .initial (endOf o) hroot rfl rfl hrun⟩

end Run

end TestEngine
