/-
TestEngine/Proofs/Tap/Forgery.lean

Whether a message can pass for a line of the stream.  What is written to a stream is a sequence
of plans, results, bail-outs and diagnostics (`Tap.Call`).  A stream is *faithful* to the calls
if its lines, but for those that start with `#`, are one for each plan, result and bail-out, in
order, and each starts as its kind of call does (`Tap.Faithful`).

Plans have one line, and the further lines of results and diagnostics are marked, so they forge
nothing, whatever the messages are.  A bail-out is written as it is: each further line of its
message stands in the stream as a line of its own (`Call.stray`), and the stream is
faithful just if none of them is without a `#` (`faithful_iff_of_wellNamed`).
-/
import Mathlib.Data.List.Forall2
import TestEngine.Proofs.Tap.Stream

namespace TestEngine

namespace Text

/-- A text in front of a text, with no newline of its own, goes to the first line. -/
theorem lines_append {xs cs first : List Char} {further : List (List Char)} (hxs : '\n' ∉ xs)
    (h : lines cs = first :: further) : lines (xs ++ cs) = (xs ++ first) :: further := by
  induction xs with
  | nil => exact h
  | cons x xs ih =>
    rw [List.mem_cons, not_or] at hxs
    have hx : (x == '\n') = false := beq_eq_false_iff_ne.mpr (Ne.symm hxs.1)
    show splitWhere (· == '\n') (x :: (xs ++ cs)) = _
    rw [splitWhere, if_neg (by rw [hx]; simp)]
    exact congrArg (consFirst x) (ih hxs.2)

end Text

namespace Tap

open Text

/-! ### Calls -/

/-- What is written to a stream: results get the next number, diagnostics have no colours. -/
inductive Call
  | plan (count : Nat)
  | result (path : Path) (v : Verdict)
  | bailOut (message : String)
  | diagnostic (text : String)

namespace Call

/-- The call as a step of a reporter. -/
def step : Call → Reporter.Step
  | plan count => .plan count
  | result path v => .result path v
  | bailOut message => .bailOut message
  | diagnostic text => .raw (Tap.diagnostic text false)

/-- What the call writes; a result has this number. -/
def text (number : Nat) : Call → String
  | plan count => Tap.plan count
  | result path v => Tap.result number path v
  | bailOut message => Tap.bailOut (some message)
  | diagnostic text => Tap.diagnostic text false

/-- Is the call to have a line that is no remark? -/
def isLoud : Call → Bool
  | diagnostic _ => false
  | _ => true

/-- The line starts as the lines do that such a call is for. -/
def Opens : Call → List Char → Prop
  | plan _, line => "1..".toList <+: line
  | result _ _, line => "ok ".toList <+: line ∨ "not ok ".toList <+: line
  | bailOut _, line => "Bail out!".toList <+: line
  | diagnostic _, _ => False

/-- The path of a result has valid elements. -/
def WellNamed : Call → Prop
  | result path _ => ∀ e ∈ path.elements, isElement e = true
  | _ => True

end Call

/-- Does the line start with the mark of remarks? -/
def isRemark (line : List Char) : Bool := line.head? == some '#'

/-- The lines that are no remarks. -/
def loudLines (ls : List (List Char)) : List (List Char) := ls.filter fun line => !isRemark line

/-- The lines of a buffer; one that nothing has been written to has none. -/
def Buffer.pieces (b : Buffer) : List (List Char) :=
  if b.contents = "" then [] else Text.lines b.contents.toList

/-- The stream that the calls write to a new buffer. -/
def stream (calls : List Call) : List (List Char) :=
  (Reporter.empty.run (calls.map Call.step)).buffer.pieces

/-- The lines but for remarks are one for each call that is no diagnostic, in order. -/
def Faithful (calls : List Call) (ls : List (List Char)) : Prop :=
  List.Forall₂ Call.Opens (calls.filter Call.isLoud) (loudLines ls)

/-- The lines of a call that nothing marks. -/
def Call.stray : Call → List (List Char)
  | .bailOut message => loudLines (lines message.toList).tail
  | _ => []

/-! ### The lines of one call -/

theorem loudLines_append (ls ms : List (List Char)) :
    loudLines (ls ++ ms) = loudLines ls ++ loudLines ms := List.filter_append ..

theorem loudLines_eq_nil_iff {ls : List (List Char)} :
    loudLines ls = [] ↔ ∀ line ∈ ls, isRemark line = true := by
  simp [loudLines]

/-- Further lines of a message are remarks. -/
theorem loudLines_further (further : List (List Char)) :
    loudLines (further.map (furtherMark "#" ++ ·)) = [] := by
  rw [loudLines_eq_nil_iff]
  intro line hline
  obtain ⟨rest, -, rfl⟩ := List.mem_map.mp hline
  rfl

theorem Call.Opens.isRemark {call : Call} {line : List Char} (h : call.Opens line) :
    isRemark line = false := by
  cases call with
  | plan count =>
    obtain ⟨rest, rfl⟩ := h
    rfl
  | result path v =>
    obtain ⟨rest, rfl⟩ | ⟨rest, rfl⟩ := h <;> rfl
  | bailOut message =>
    obtain ⟨rest, rfl⟩ := h
    rfl
  | diagnostic text => exact absurd h id

theorem Call.Opens.loudLines_cons {call : Call} {line : List Char} (h : call.Opens line)
    (ls : List (List Char)) : loudLines (line :: ls) = line :: loudLines ls := by
  unfold loudLines
  rw [List.filter_cons, h.isRemark]
  rfl

theorem opens_plan (count : Nat) : (Call.plan count).Opens (plan count).toList := by
  show "1..".toList <+: (plan count).toList
  unfold plan
  split
  · exact List.prefix_append "1..".toList "0 # Skipped: no tests to run".toList
  · rw [String.toList_append]
    exact List.prefix_append ..

theorem opens_of_status {path : Path} {v : Verdict} {line : List Char}
    (h : (status v.kind ++ " ").toList <+: line) : (Call.result path v).Opens line := by
  rcases v with ⟨kind, message⟩
  cases kind with
  | pass => exact .inl h
  | skip => exact .inl h
  | fail => exact .inr h

/-- A result starts with its status, and all its further lines are remarks. -/
theorem lines_result {path : Path} (hpath : ∀ e ∈ path.elements, isElement e = true) (number : Nat)
    (v : Verdict) : ∃ first further, lines (result number path v).toList = first :: further ∧
      (Call.result path v).Opens first ∧ loudLines further = [] := by
  obtain ⟨rest, hstart⟩ : ∃ rest, (resultStart number path v).toList =
      (status v.kind ++ " ").toList ++ rest :=
    ⟨(toString number ++ " " ++ path.render).toList, by simp [resultStart]⟩
  rcases hmessage : v.message with - | message
  · refine ⟨_, [], lines_result_of_none hpath hmessage, opens_of_status ?_, rfl⟩
    exact ⟨rest ++ (directive v).toList, by simp [result_eq, hstart]⟩
  · obtain ⟨first, further, hshown, -⟩ := shownLines_eq_cons message
    refine ⟨_, _, lines_result_of_some hpath hmessage hshown, opens_of_status ?_,
      loudLines_further further⟩
    refine ⟨rest ++ (" # " ++ v.kind.label ++ " ").toList ++ first, ?_⟩
    simp [String.toList_append, hstart]

/-- But for remarks, the lines of a call are the one it is for, and its stray lines. -/
theorem loudLines_text {call : Call} (hcall : call.WellNamed) (number : Nat) :
    ∃ heads, List.Forall₂ Call.Opens ([call].filter Call.isLoud) heads ∧
      loudLines (lines (call.text number).toList) = heads ++ call.stray := by
  cases call with
  | plan count =>
    refine ⟨[(plan count).toList], .cons (opens_plan count) .nil, ?_⟩
    show loudLines (lines (plan count).toList) = _
    rw [lines_plan, (opens_plan count).loudLines_cons]
    rfl
  | result path v =>
    obtain ⟨first, further, hlines, hopens, hfurther⟩ := lines_result hcall number v
    refine ⟨[first], .cons hopens .nil, ?_⟩
    show loudLines (lines (result number path v).toList) = _
    rw [hlines, hopens.loudLines_cons, hfurther]
    rfl
  | bailOut message =>
    rcases hlines : lines message.toList with - | ⟨first, further⟩
    · exact absurd hlines (splitWhere_ne_nil _ _)
    · have hopens : (Call.bailOut message).Opens ("Bail out! ".toList ++ first) :=
        List.prefix_append "Bail out!".toList (' ' :: first)
      refine ⟨["Bail out! ".toList ++ first], .cons hopens .nil, ?_⟩
      have htext : lines (Call.text number (.bailOut message)).toList =
          ("Bail out! ".toList ++ first) :: further := by
        show lines (bailOut (some message)).toList = _
        rw [bailOut, String.toList_append]
        exact lines_append (by decide) hlines
      rw [htext, hopens.loudLines_cons, Call.stray, hlines]
      rfl
  | diagnostic text =>
    obtain ⟨first, further, hshown, -⟩ := shownLines_eq_cons text
    refine ⟨[], .nil, ?_⟩
    show loudLines (lines (diagnostic text false).toList) = []
    rw [lines_diagnostic false hshown]
    exact loudLines_further further

/-! ### The lines of a stream -/

theorem text_ne_empty (call : Call) (number : Nat) : call.text number ≠ "" := by
  cases call with
  | plan count =>
    show plan count ≠ ""
    unfold plan
    split
    · decide
    · simp
  | result path v => simp [Call.text, result]
  | bailOut message => simp [Call.text, bailOut]
  | diagnostic text => simp [Call.text, diagnostic]

/-- A reporter writes one text for each call. -/
theorem run_buffer (r : Reporter) (calls : List Call) : ∃ texts,
    List.Forall₂ (fun call text => ∃ number, text = call.text number) calls texts ∧
      (∀ text ∈ texts, text ≠ "") ∧
      (r.run (calls.map Call.step)).buffer = r.buffer.emitAll texts := by
  induction calls generalizing r with
  | nil => exact ⟨[], .nil, by simp, rfl⟩
  | cons call calls ih =>
    obtain ⟨texts, htexts, hne, hbuffer⟩ := ih (r.step call.step)
    have hstep : (r.step call.step).buffer = r.buffer.emit (call.text (r.reported + 1)) := by
      cases call <;> rfl
    refine ⟨call.text (r.reported + 1) :: texts, .cons ⟨_, rfl⟩ htexts,
      List.forall_mem_cons.mpr ⟨text_ne_empty call _, hne⟩, ?_⟩
    show ((r.step call.step).run (calls.map Call.step)).buffer = _
    rw [hbuffer, hstep]
    rfl

theorem contents_emitAll_ne_empty {b : Buffer} (hb : b.contents ≠ "") (texts : List String) :
    (b.emitAll texts).contents ≠ "" := by
  induction texts generalizing b with
  | nil => exact hb
  | cons text texts ih =>
    apply ih
    simp [Buffer.emit, hb]

/-- The lines of a new buffer are those of the texts. -/
theorem pieces_emitAll {texts : List String} (h : ∀ text ∈ texts, text ≠ "") :
    (Buffer.empty.emitAll texts).pieces = texts.flatMap fun text => lines text.toList := by
  rcases texts with - | ⟨text, texts⟩
  · rfl
  · have htext := h text (List.mem_cons_self ..)
    have hcontents : (Buffer.empty.emitAll (text :: texts)).contents ≠ "" := by
      apply contents_emitAll_ne_empty (b := Buffer.empty.emit text)
      simpa [Buffer.emit, Buffer.empty] using htext
    rw [Buffer.pieces, if_neg hcontents]
    exact lines_emitAll htext texts

/-- But for remarks, a stream has a line for each call that is no diagnostic, and the stray lines:
so it has none but the former just if there are no stray ones. -/
theorem loudLines_texts {calls : List Call} {texts : List String}
    (hcalls : ∀ call ∈ calls, call.WellNamed)
    (htexts : List.Forall₂ (fun call text => ∃ number, text = call.text number) calls texts) :
    (loudLines (texts.flatMap fun text => lines text.toList)).length =
        (calls.filter Call.isLoud).length + (calls.flatMap Call.stray).length ∧
      (calls.flatMap Call.stray = [] →
        Faithful calls (texts.flatMap fun text => lines text.toList)) := by
  induction htexts with
  | nil => exact ⟨rfl, fun _ => .nil⟩
  | @cons call text calls texts htext _ ih =>
    obtain ⟨hcall, hothers⟩ := List.forall_mem_cons.mp hcalls
    obtain ⟨number, rfl⟩ := htext
    obtain ⟨heads, hopens, hlines⟩ := loudLines_text hcall number
    obtain ⟨hlength, hfaithful⟩ := ih hothers
    have hfilter : (call :: calls).filter Call.isLoud =
        [call].filter Call.isLoud ++ calls.filter Call.isLoud :=
      List.filter_append [call] calls
    rw [Faithful, List.flatMap_cons, List.flatMap_cons, loudLines_append, hlines, hfilter]
    constructor
    · simp only [List.length_append, hlength, ← hopens.length_eq]
      omega
    · intro hstray
      obtain ⟨hnone, hrest⟩ := List.append_eq_nil_iff.mp hstray
      rw [hnone, List.append_nil]
      exact List.rel_append hopens (hfaithful hrest)

/-- The lines of a stream are those that the calls are for, and remarks, just if each further line
of a message that a bail-out gives is a remark.  No plan, result or diagnostic forges a line. -/
theorem faithful_iff_of_wellNamed {calls : List Call} (hcalls : ∀ call ∈ calls, call.WellNamed) :
    Faithful calls (stream calls) ↔
      ∀ message, Call.bailOut message ∈ calls →
        ∀ line ∈ (lines message.toList).tail, isRemark line = true := by
  obtain ⟨texts, htexts, hne, hbuffer⟩ := run_buffer .empty calls
  have hstream : stream calls = texts.flatMap fun text => lines text.toList := by
    rw [stream, hbuffer]
    exact pieces_emitAll hne
  obtain ⟨hlength, hfaithful⟩ := loudLines_texts hcalls htexts
  have hstray : calls.flatMap Call.stray = [] ↔ ∀ message, Call.bailOut message ∈ calls →
      ∀ line ∈ (lines message.toList).tail, isRemark line = true := by
    rw [List.flatMap_eq_nil_iff]
    constructor
    · intro h message hmessage
      exact loudLines_eq_nil_iff.mp (h _ hmessage)
    · intro h call hcall
      cases call with
      | bailOut message => exact loudLines_eq_nil_iff.mpr (h message hcall)
      | _ => rfl
  rw [← hstray, hstream]
  refine ⟨fun h => ?_, hfaithful⟩
  -- as many lines as calls leave no room for stray ones
  have hsame := h.length_eq
  rw [hlength] at hsame
  exact List.length_eq_zero_iff.mp (by omega)

/-- A plan for a test that fails with a message that looks like a line of a stream, and a bail-out
whose message has one more line, a remark. -/
def plainCalls : List Call :=
  [.plan 1, .diagnostic "retry\nok 7 /forged", .result ⟨["s", "a"]⟩ (.fail "lost\nok 2 /s/b\n"),
    .bailOut "net is down\n# since monday"]

theorem faithful_of_plainCalls : Faithful plainCalls (stream plainCalls) := by
  have hcalls : ∀ call ∈ plainCalls, call.WellNamed := by
    have helements : (Call.result ⟨["s", "a"]⟩ (.fail "lost\nok 2 /s/b\n")).WellNamed := by
      show ∀ e ∈ ["s", "a"], isElement e = true
      decide
    simp only [plainCalls, List.forall_mem_cons]
    exact ⟨trivial, trivial, helements, trivial, by simp⟩
  refine (faithful_iff_of_wellNamed hcalls).mpr fun message hmessage => ?_
  have hmessage : message = "net is down\n# since monday" := by
    simpa [plainCalls] using hmessage
  rw [hmessage]
  decide

/-- A bail-out whose message goes on with what looks like a result. -/
def forgingCalls : List Call := [.plan 1, .bailOut "net is down\nok 1 /s/a"]

/-- There are three lines that are no remarks, for two calls. -/
theorem forged_of_bailOut : ¬ Faithful forgingCalls (stream forgingCalls) := by
  intro h
  have hlength : (loudLines (stream forgingCalls)).length = 3 := by decide
  exact absurd (h.length_eq.trans hlength) (by decide)

end Tap

end TestEngine
