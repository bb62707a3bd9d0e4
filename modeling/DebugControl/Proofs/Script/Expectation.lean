import DebugControl.Proofs.Prompt
import DebugControl.Proofs.Script.Transcript

/-!
# What an expectation is about

An expectation looks at the reply to the nearest step before it that is no expectation itself; letting
the debuggee run to its end leaves no reply, and neither does the startup. `performAll_append` carries
this reply through the steps of a script by induction. A text that a script can expect has no line
feed, so that it is a part of the joined reply exactly if it is a part of one line.
-/

namespace DebugControl

def Step.isExpectation : Step → Bool
  | .expect _ => true
  | _ => false

namespace Script

open Text Control

/-- The reply that an expectation is about, given the steps before it with their replies, and what is
known before the first of them. -/
def referenceReply (initial : List Line) (performed : List (Step × List Line)) : List Line :=
  match performed.reverse.find? fun p => !p.1.isExpectation with
  | none => initial
  | some (.contToExit _, _) => []
  | some (_, reply) => reply

theorem referenceReply_cons (initial : List Line) (p : Step × List Line)
    (performed : List (Step × List Line)) :
    referenceReply initial (p :: performed) =
      referenceReply (referenceReply initial [p]) performed := by
  unfold referenceReply
  rw [List.reverse_cons, List.find?_append]
  cases List.find? (fun p => !p.1.isExpectation) performed.reverse with
  | none => rfl
  | some q =>
    obtain ⟨step, reply⟩ := q
    cases step <;> rfl

/-- What comes of more steps after an outcome without a failure. -/
def Outcome.followedBy (o rest : Outcome) : Outcome :=
  ⟨o.entries ++ rest.entries, o.printed ++ rest.printed, rest.failure⟩

theorem Expressible.sendable_of_expect {text : String} (h : Expressible (.expect text)) :
    Sendable text.toList := by
  generalize hstep : Step.expect text = step at h
  cases h with
  | expect htext =>
    obtain rfl := Step.expect.inj hstep
    rwa [String.toList_ofList]
  | _ => exact absurd hstep nofun

variable {σ : Type} [Host σ] {s t : Session σ} {rounds : Nat}

theorem perform_next {last reply : List Line} {step : Step} {p : Performed}
    (h : (perform rounds last step).run s = some (p, t)) (hnext : p.next = .ok reply) :
    reply = referenceReply last [(step, p.entry.reply)] := by
  have of_call : ∀ (context : Option String) (r : Except Failure (List Line)) (printed),
      ⟨entryOf step.label r, printed, nextOf context r⟩ = p → p.entry.reply = reply := by
    rintro context r printed rfl
    cases r with
    | ok lines => exact Except.ok.inj hnext
    | error f => exact absurd hnext nofun
  cases step with
  | send c =>
    obtain ⟨r, u, -, h⟩ := run_bind_eq_some.1 h
    exact (of_call _ r _ (run_pure_eq_some.1 h).1).symm
  | waitPrompt =>
    obtain ⟨r, u, -, h⟩ := run_bind_eq_some.1 h
    exact (of_call _ r _ (run_pure_eq_some.1 h).1).symm
  | quit =>
    obtain ⟨r, u, -, h⟩ := run_bind_eq_some.1 h
    exact (of_call _ r _ (run_pure_eq_some.1 h).1).symm
  | contToExit most =>
    obtain ⟨result, u, -, h⟩ := run_bind_eq_some.1 h
    cases result with
    | ok n =>
      obtain ⟨rfl, -⟩ := run_pure_eq_some.1 h
      exact (Except.ok.inj hnext).symm
    | error f =>
      obtain ⟨rfl, -⟩ := run_pure_eq_some.1 h
      exact absurd hnext nofun
  | expect text =>
    obtain ⟨rfl, -⟩ := run_pure_eq_some.1 h
    unfold expectation at hnext
    dsimp only at hnext
    split_ifs at hnext
    exact (Except.ok.inj hnext).symm

theorem performAll_cons (last : List Line) (step : Step) (rest : List Step) (s : Session σ) :
    (performAll rounds last (step :: rest)).run s =
      match (perform rounds last step).run s with
      | none => none
      | some (p, u) => match p.next with
        | .error r => some (⟨[p.entry], p.printed, some r⟩, u)
        | .ok reply => ((performAll rounds reply rest).run u).map fun q => (.after p q.1, q.2) := by
  cases hp : (perform rounds last step).run s with
  | none => simp [performAll, hp]
  | some q =>
    obtain ⟨p, u⟩ := q
    cases hnext : p.next with
    | error r => simp [performAll, hp, hnext]
    | ok reply =>
      cases hrest : (performAll rounds reply rest).run u <;>
        simp [performAll, hp, hnext, hrest]

theorem performAll_append (last : List Line) (before after : List Step) (s : Session σ) :
    (performAll rounds last (before ++ after)).run s =
      match (performAll rounds last before).run s with
      | none => none
      | some (o, t) => match o.failure with
        | some _ => some (o, t)
        | none =>
          ((performAll rounds
            (referenceReply last (before.zip (o.entries.map Entry.reply))) after).run t).map
              fun q => (o.followedBy q.1, q.2) := by
  induction before generalizing last s with
  | nil =>
    have hnil : (performAll rounds last []).run s = some (⟨[], [], none⟩, s) := rfl
    rw [hnil]
    simp [Outcome.followedBy, referenceReply]
  | cons step before ih =>
    rw [List.cons_append, performAll_cons, performAll_cons]
    cases hp : (perform rounds last step).run s with
    | none => rfl
    | some q =>
      obtain ⟨p, u⟩ := q
      dsimp only
      cases hnext : p.next with
      | error r => rfl
      | ok reply =>
        dsimp only
        rw [ih, perform_next hp hnext]
        rcases (performAll rounds (referenceReply last [(step, p.entry.reply)]) before).run u
          with _ | ⟨o, v⟩
        · rfl
        · cases hf : o.failure with
          | some r => simp [Outcome.after, hf]
          | none =>
            simp only [Option.map_some, Outcome.after, hf, List.map_cons, List.zip_cons_cons]
            rw [referenceReply_cons last (step, p.entry.reply) (before.zip _), Option.map_map]
            simp only [Function.comp_def, Outcome.followedBy, List.cons_append, List.append_assoc]

/-- The reply that an expectation after some steps is about, once these have been executed; the first
entry is that of the startup. -/
def referenceOf (before : List Step) (o : Outcome) : List Line :=
  referenceReply [] (before.zip (o.entries.tail.map Entry.reply))

theorem execute_of_prompted {reply : List Line} {u : Session σ} (steps : List Step)
    (hbanner : (waitForSimplePrompt rounds).run s = some (.ok reply, u)) :
    (execute rounds steps).run s = ((performAll rounds [] steps).run u).map fun q =>
      (.after ⟨entryOf startLabel (.ok reply), [], .ok []⟩ q.1, q.2) := by
  cases hrun : (performAll rounds [] steps).run u <;> simp [execute, hbanner, nextOf, hrun]

theorem execute_append (rounds : Nat) (before after : List Step) (s : Session σ) :
    (execute rounds (before ++ after)).run s =
      match (execute rounds before).run s with
      | none => none
      | some (o, t) => match o.failure with
        | some _ => some (o, t)
        | none => ((performAll rounds (referenceOf before o) after).run t).map
            fun q => (o.followedBy q.1, q.2) := by
  cases hbanner : (waitForSimplePrompt rounds).run s with
  | none => simp [execute, hbanner]
  | some q =>
    obtain ⟨banner, u⟩ := q
    cases banner with
    | error f => simp [execute, hbanner, nextOf]
    | ok reply =>
      rw [execute_of_prompted _ hbanner, execute_of_prompted _ hbanner, performAll_append]
      rcases (performAll rounds [] before).run u with _ | ⟨o, v⟩
      · rfl
      · cases hf : o.failure with
        | some r => simp [Outcome.after, hf]
        | none =>
          simp only [Option.map_some, Outcome.after, hf, Option.map_map, Function.comp_def]
          rfl

section Expectation

variable {text : String} (htext : Sendable text.toList)

include htext

theorem contains_join_iff (reply : List Line) :
    contains text.toList (join Notice.lineSeparator.toList reply) = true ↔
      ∃ line ∈ reply, text.toList <:+: line :=
  contains_iff.trans (infix_join_iff htext.oneLine htext.nonempty reply)

theorem performAll_of_met {reply : List Line} (h : ∃ line ∈ reply, text.toList <:+: line)
    (after : List Step) (t : Session σ) :
    (performAll rounds reply (.expect text :: after)).run t =
      ((performAll rounds reply after).run t).map fun q =>
        (⟨⟨(Step.expect text).label, [], none⟩ :: q.1.entries, q.1.printed, q.1.failure⟩, q.2) := by
  have hperform : (perform rounds reply (.expect text)).run t =
      some (⟨⟨(Step.expect text).label, [], none⟩, [], .ok reply⟩, t) := by
    change some (expectation _ text reply, t) = _
    rw [expectation, if_pos ((contains_join_iff htext reply).2 h)]
  rw [performAll_cons, hperform]
  rfl

theorem performAll_of_unmet {reply : List Line} (h : ¬ ∃ line ∈ reply, text.toList <:+: line)
    (after : List Step) (t : Session σ) :
    (performAll rounds reply (.expect text :: after)).run t =
      some (⟨[⟨(Step.expect text).label, [], some "expectation not met"⟩], [],
        some (.ofMessage (s!"expected '{text}' in the last reply, got:\n" ++
          String.ofList (join Notice.lineSeparator.toList reply)))⟩, t) := by
  have hperform : (perform rounds reply (.expect text)).run t = some (expectation _ text reply, t) :=
    rfl
  rw [expectation, if_neg (mt (contains_join_iff htext reply).1 h)] at hperform
  rw [performAll_cons, hperform]
  rfl

end Expectation

/-- The expectation `text` of a script stands after the steps `before`, and is reached if these are
executed without a failure. It is met exactly if one line of the reference reply holds the text: then
its entry has no error and the steps after it are performed, with the same reply for the expectations
among them. Otherwise it is the last entry, and the execution fails. It is not reached if the steps
before it fail or come to no end. -/
theorem execute_expectation {script : List Char} {before after : List Step} {text : String}
    (hread : read script = .ok (before ++ .expect text :: after)) (rounds : Nat) (s : Session σ) :
    (∀ o t, (execute rounds before).run s = some (o, t) → o.failure = none →
      Acted rounds s (.startup :: before.map .step) o.entries t ∧
      ((∃ line ∈ referenceOf before o, text.toList <:+: line) →
        (execute rounds (before ++ .expect text :: after)).run s =
          ((performAll rounds (referenceOf before o) after).run t).map fun q =>
            (⟨o.entries ++ ⟨(Step.expect text).label, [], none⟩ :: q.1.entries,
              o.printed ++ q.1.printed, q.1.failure⟩, q.2)) ∧
      ((¬ ∃ line ∈ referenceOf before o, text.toList <:+: line) →
        (execute rounds (before ++ .expect text :: after)).run s =
          some (⟨o.entries ++ [⟨(Step.expect text).label, [], some "expectation not met"⟩],
            o.printed, some (.ofMessage (s!"expected '{text}' in the last reply, got:\n" ++
              String.ofList (join Notice.lineSeparator.toList (referenceOf before o))))⟩, t))) ∧
    (∀ o t, (execute rounds before).run s = some (o, t) → o.failure ≠ none →
      (execute rounds (before ++ .expect text :: after)).run s = some (o, t)) ∧
    ((execute rounds before).run s = none →
      (execute rounds (before ++ .expect text :: after)).run s = none) := by
  have hexpressible : Expressible (.expect text) :=
    read_expressible hread (List.mem_append_right _ List.mem_cons_self)
  have htext : Sendable text.toList := hexpressible.sendable_of_expect
  have happend := execute_append rounds before (.expect text :: after) s
  refine ⟨fun o t h hf => ⟨?_, fun hmet => ?_, fun hunmet => ?_⟩, fun o t h hf => ?_, fun h => ?_⟩
  · obtain ⟨executed, -, hacted, -, hall⟩ := execute_acted h
    rwa [hall hf] at hacted
  · simp only [h, hf] at happend
    rw [happend, performAll_of_met htext hmet, Option.map_map]
    rfl
  · simp only [h, hf] at happend
    rw [happend, performAll_of_unmet htext hunmet, Option.map_some, Outcome.followedBy,
      List.append_nil]
  · obtain ⟨r, hr⟩ := Option.ne_none_iff_exists'.1 hf
    simpa only [h, hr] using happend
  · simpa only [h] using happend

/-- Two expectations of the one reply, of which the second is not met. -/
def checkedScript : List Char := "run\n@expect ok\n@expect done".toList

theorem execute_expectation_checked :
    read checkedScript = .ok [.send (.plain "run"), .expect "ok", .expect "done"] ∧
    (∃ o t, (execute 2 [.send (.plain "run")]).run halfway = some (o, t) ∧ o.failure = none ∧
      referenceOf [.send (.plain "run")] o = [['o', 'k'], ['>', ' ']] ∧
      (execute 2 [.send (.plain "run"), .expect "ok", .expect "done"]).run halfway =
        ((performAll 2 [['o', 'k'], ['>', ' ']] [.expect "done"]).run t).map fun q =>
          (⟨o.entries ++ ⟨"@expect ok", [], none⟩ :: q.1.entries, o.printed ++ q.1.printed,
            q.1.failure⟩, q.2)) ∧
    ∃ o t, (execute 2 [.send (.plain "run"), .expect "ok"]).run halfway = some (o, t) ∧
      o.failure = none ∧
      referenceOf [.send (.plain "run"), .expect "ok"] o = [['o', 'k'], ['>', ' ']] ∧
      (execute 2 [.send (.plain "run"), .expect "ok", .expect "done"]).run halfway =
        some (⟨o.entries ++ [⟨"@expect done", [], some "expectation not met"⟩], o.printed,
          some (.ofMessage "expected 'done' in the last reply, got:\nok\n> ")⟩, t) := by
  have hread : read checkedScript =
      .ok [.send (.plain "run"), .expect "ok", .expect "done"] := by
    decide +kernel
  refine ⟨hread, ?_, ?_⟩
  · have hrun : ((execute 2 [.send (.plain "run")]).run halfway).map
        (fun p => (p.1.failure, referenceOf [.send (.plain "run")] p.1)) =
        some (none, [['o', 'k'], ['>', ' ']]) := by
      decide +kernel
    obtain ⟨⟨o, t⟩, h, hp⟩ := Option.map_eq_some_iff.1 hrun
    obtain ⟨hfailure, hreference⟩ := Prod.mk.inj hp
    have hscript : read checkedScript =
        .ok ([.send (.plain "run")] ++ .expect "ok" :: [.expect "done"]) := hread
    obtain ⟨hreached, -, -⟩ := execute_expectation hscript 2 halfway
    obtain ⟨-, hmet, -⟩ := hreached o t h hfailure
    rw [hreference] at hmet
    exact ⟨o, t, h, hfailure, hreference, hmet ⟨['o', 'k'], by decide, by decide⟩⟩
  · have hrun : ((execute 2 [.send (.plain "run"), .expect "ok"]).run halfway).map
        (fun p => (p.1.failure, referenceOf [.send (.plain "run"), .expect "ok"] p.1)) =
        some (none, [['o', 'k'], ['>', ' ']]) := by
      decide +kernel
    obtain ⟨⟨o, t⟩, h, hp⟩ := Option.map_eq_some_iff.1 hrun
    obtain ⟨hfailure, hreference⟩ := Prod.mk.inj hp
    have hscript : read checkedScript =
        .ok ([.send (.plain "run"), .expect "ok"] ++ .expect "done" :: []) := hread
    obtain ⟨hreached, -, -⟩ := execute_expectation hscript 2 halfway
    obtain ⟨-, -, hunmet⟩ := hreached o t h hfailure
    rw [hreference] at hunmet
    exact ⟨o, t, h, hfailure, hreference, hunmet (by decide)⟩

end Script

end DebugControl
