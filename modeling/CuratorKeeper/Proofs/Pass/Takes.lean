import CuratorKeeper.Proofs.Pass.Grammar

/-!
# Programs that take steps

A program takes the steps of a language if its calls, whatever is told to it, are
those of a word or of the beginning of one.  It ends at the first step that it does
not go on after, and what it returns is what its steps come to.  The steps of a
composed program are those of its parts, and a loop takes the steps of its tries.
-/

namespace CuratorKeeper

open Grammar

/-- A program went through steps: they begin a word of its language, are a word if it
returned, and come to what it reports. -/
structure Went {α : Type} (excuse : Prop) (shows : Step → StoreFault → Fault)
    (language : Language Step) (report : α → Tally → Prop) (result : Except Fault α)
    (lines : List LogLine) (asked : List Asked) (steps : List Step) : Prop where
  asked : asked = steps.map Step.toAsked
  lines : lines = steps.flatMap Step.lines
  ended : Ended excuse shows steps result
  begins : Begins language steps
  word : ∀ value, result = .ok value → steps ∈ language ∧ report value (tally steps)

/-- Whatever a program is told, it goes through steps. -/
def Takes {α : Type} (excuse : Prop) (shows : Step → StoreFault → Fault) (program : Program α)
    (language : Language Step) (report : α → Tally → Prop) : Prop :=
  program.Always LogLine.tellsChange fun result lines asked =>
    ∃ steps, Went excuse shows language report result lines asked steps

section Rules

variable {α β : Type} {excuse : Prop} {shows : Step → StoreFault → Fault} {program : Program α}
  {language further : Language Step} {report : α → Tally → Prop} {total : β → Tally → Prop}

variable {lines : List LogLine} {asked : List Asked} {steps : List Step}

theorem Went.returned {value : α} (isAsked : asked = steps.map Step.toAsked)
    (isTold : lines = steps.flatMap Step.lines) (passed : ∀ step ∈ steps, step.Passes)
    (word : steps ∈ language) (reported : report value (tally steps)) :
    Went excuse shows language report (.ok value) lines asked steps where
  asked := isAsked
  lines := isTold
  ended := .returned passed
  begins := .of_mem word
  word _ same := Except.ok.inj same ▸ ⟨word, reported⟩

theorem Went.failed {fault : Fault} (isAsked : asked = steps.map Step.toAsked)
    (isTold : lines = steps.flatMap Step.lines) (begins : Begins language steps)
    (ended : Ended excuse shows steps (.error fault : Except Fault α)) :
    Went excuse shows language report (.error fault) lines asked steps where
  asked := isAsked
  lines := isTold
  ended := ended
  begins := begins
  word _ failed := nomatch failed

theorem takes_done {value : α} (reported : report value {}) :
    Takes excuse shows (.done value) 1 report :=
  ⟨[], .returned rfl rfl (by simp) rfl reported⟩

/-- One program after another takes the steps of the one and then of the other. -/
theorem Takes.bind {rest : α → Program β} (taken : Takes excuse shows program language report)
    (others : ∀ value before, report value before →
      Takes excuse shows (rest value) further fun result after => total result (before + after))
    (words : ∃ word, word ∈ further) :
    Takes excuse shows (program.bind rest) (language * further) total := by
  rw [Takes, Program.always_bind]
  refine Program.Always.mono taken ?_
  rintro result lines asked ⟨steps, went⟩
  cases result with
  | error fault =>
      exact ⟨steps, .failed went.asked went.lines (went.begins.mul_left words) went.ended.error⟩
  | ok value =>
      obtain ⟨word, reported⟩ := went.word value rfl
      refine Program.Always.mono (others value _ reported) ?_
      rintro result more later ⟨last, wentOn⟩
      refine ⟨steps ++ last, ?_, ?_, wentOn.ended.append went.ended.passed,
        .mul_right word wentOn.begins, fun value isOk => ?_⟩
      · rw [went.asked, wentOn.asked, List.map_append]
      · rw [went.lines, wentOn.lines, List.flatMap_append]
      · obtain ⟨wordLast, reportedLast⟩ := wentOn.word value isOk
        exact ⟨Language.append_mem_mul word wordLast, by rwa [tally_append]⟩

theorem Takes.bind_done {change : α → β} (taken : Takes excuse shows program language report)
    (turned : ∀ value counted, report value counted → total (change value) counted) :
    Takes excuse shows (program.bind fun value => .done (change value)) language total := by
  rw [Takes, Program.always_bind]
  refine Program.Always.mono taken ?_
  rintro result lines asked ⟨steps, went⟩
  cases result with
  | error fault => exact ⟨steps, .failed went.asked went.lines went.begins went.ended.error⟩
  | ok value =>
      obtain ⟨word, reported⟩ := went.word value rfl
      exact ⟨steps, .returned (by simp [went.asked]) (by simp [went.lines]) went.ended.passed word
        (turned _ _ reported)⟩

end Rules

section Calls

variable {α : Type} {excuse : Prop} {cluster : Cluster} {ref : Ref}

/-- A call after which the program makes no other one: it goes on after the
refusals that its place absorbs and fails after the others. -/
theorem takes_call {request : Request} {site : Site} {language : Language Step}
    {report : α → Tally → Prop} {rest : Except StoreFault Value → Program α}
    (word : ∀ answer, [⟨⟨request, answer⟩, site, ref⟩] ∈ language)
    (accepted : ∀ value, let step : Step := ⟨⟨request, .ok value⟩, site, ref⟩
      (rest (.ok value)).Always LogLine.tellsChange fun result lines asked =>
        lines = step.lines ∧ asked = [] ∧
          ((∃ value, result = .ok value ∧ report value (tally [step])) ∨
            ∃ fault, result = .error fault ∧ ¬ step.Regular))
    (absorbed : ∀ refused, site.absorbs refused.refusal = true →
      (rest (.error refused)).Always LogLine.tellsChange fun result lines asked =>
        lines = [] ∧ asked = [] ∧ ∃ value, result = .ok value ∧ report value {})
    (fatal : ∀ refused, site.absorbs refused.refusal = false →
      rest (.error refused) = .fail (refused.during site.operation ref)) :
    Takes excuse Step.failure ((Program.ask request).catchStore.bind rest) language report := by
  rw [Takes, Program.always_bind, Program.always_catchStore, Program.always_ask]
  intro answer
  let step : Step := ⟨⟨request, answer⟩, site, ref⟩
  have isWord : [step] ∈ language := word answer
  have told : step.lines = [step].flatMap Step.lines := (List.flatMap_singleton _ _).symm
  cases answer with
  | ok value =>
      have passes : step.Passes := Step.passes_of_ok rfl
      refine Program.Always.mono (accepted value) ?_
      rintro result lines asked ⟨rfl, rfl, ⟨value, rfl, reported⟩ | ⟨fault, rfl, irregular⟩⟩
      · exact ⟨[step], .returned rfl told (List.forall_mem_singleton.mpr passes) isWord reported⟩
      · exact ⟨[step], .failed rfl told (.of_mem isWord) (.upset_single irregular)⟩
  | error fault =>
      obtain ⟨nothing, silent⟩ := @Step.of_error step fault rfl
      rw [silent] at told
      by_cases isRefusal : ∃ refused, fault = .store refused
      · obtain ⟨refused, rfl⟩ := isRefusal
        simp only [caughtOf]
        cases absorbs : site.absorbs refused.refusal with
        | true =>
            have passes : step.Passes := Step.passes_of_absorbed rfl absorbs
            refine Program.Always.mono (absorbed refused absorbs) ?_
            rintro result lines asked ⟨rfl, rfl, value, rfl, reported⟩
            exact ⟨[step], .returned rfl told (List.forall_mem_singleton.mpr passes) isWord
              (nothing ▸ reported)⟩
        | false =>
            rw [fatal refused absorbs, Program.always_fail]
            exact ⟨[step], .failed rfl told (.of_mem isWord) (.single rfl absorbs)⟩
      · have other := not_exists.mp isRefusal
        have irregular : ¬ step.Regular := Step.irregular_of_error rfl other
        rw [caughtOf_other other]
        exact ⟨[step], .failed rfl told (.of_mem isWord) (.upset_single irregular)⟩

end Calls

section Loops

variable {σ α : Type} {excuse : Prop} {shows : Step → StoreFault → Fault} {loop : Loop} {ref : Ref}
  {report : α → Tally → Prop}

/-- The steps are a try, with so many left after it, that ends with a conflict. -/
structure MetConflict (shows : Step → StoreFault → Fault) (loop : Loop) (ref : Ref) (left : Nat)
    (conflict : StoreFault) (steps : List Step) : Prop where
  word : steps ∈ attempt loop ref left
  isConflict : conflict.refusal = .conflict
  atLast : ∃ earlier last, steps = earlier ++ [last] ∧ (∀ step ∈ earlier, step.Passes) ∧
    last.answer = .error (.store conflict) ∧
    last.site.absorbs .conflict = decide (0 < left) ∧ shows last conflict = .store conflict
  nothing : tally steps = {}

namespace MetConflict

variable {left : Nat} {conflict : StoreFault} {steps : List Step}

theorem stale (met : MetConflict shows loop ref (left + 1) conflict steps) :
    steps ∈ staleAttempt loop ref (left + 1) := by
  obtain ⟨earlier, last, rfl, -, answer, absorbs, -⟩ := met.atLast
  exact ⟨met.word, last, by simp, conflict, answer, met.isConflict, by simpa using absorbs⟩

theorem passed (met : MetConflict shows loop ref (left + 1) conflict steps) :
    ∀ step ∈ steps, step.Passes := by
  obtain ⟨earlier, last, rfl, passed, answer, absorbs, -⟩ := met.atLast
  intro step member
  rcases List.mem_append.mp member with early | isLast
  · exact passed step early
  · obtain rfl := List.mem_singleton.mp isLast
    refine Step.passes_of_absorbed answer ?_
    rw [met.isConflict, absorbs]
    exact decide_eq_true (Nat.succ_pos left)

theorem ended (met : MetConflict shows loop ref 0 conflict steps) :
    Ended excuse shows steps (.error (.store conflict) : Except Fault α) := by
  obtain ⟨earlier, last, isLast, passed, answer, absorbs, shown⟩ := met.atLast
  rw [← shown]
  exact .stopped isLast passed answer (met.isConflict ▸ absorbs)

end MetConflict

/-- How a try ends that has so many left after it: it is settled and all its steps
were gone on after, it is stale for a conflict of its last step, or it fails. -/
inductive TryEnded (excuse : Prop) (shows : Step → StoreFault → Fault) (loop : Loop) (ref : Ref)
    (left : Nat) (report : α → Tally → Prop) (steps : List Step) :
    Except Fault (Attempt σ α) → Prop
  | settled {value : α} (word : steps ∈ attempt loop ref left)
      (passed : ∀ step ∈ steps, step.Passes) (reported : report value (tally steps)) :
      TryEnded excuse shows loop ref left report steps (.ok (.settled value))
  | stale {conflict : StoreFault} {next : σ}
      (met : MetConflict shows loop ref left conflict steps) :
      TryEnded excuse shows loop ref left report steps (.ok (.stale conflict next))
  | failed {fault : Fault} (begins : Begins (attempt loop ref left) steps)
      (ended : Ended excuse shows steps (.error fault : Except Fault α)) :
      TryEnded excuse shows loop ref left report steps (.error fault)

/-- Whatever a try is told, it goes through steps that end it. -/
def TakesTry (excuse : Prop) (shows : Step → StoreFault → Fault) (loop : Loop) (ref : Ref)
    (left : Nat) (report : α → Tally → Prop) (program : Program (Attempt σ α)) : Prop :=
  program.Always LogLine.tellsChange fun result lines asked =>
    ∃ steps : List Step, asked = steps.map Step.toAsked ∧ lines = steps.flatMap Step.lines ∧
      TryEnded excuse shows loop ref left report steps result

theorem TakesTry.bind {left : Nat} {program : Program (Attempt σ α)}
    {rest : Attempt σ α → Program α} {language : Language Step}
    (taken : TakesTry excuse shows loop ref left report program)
    (settles : ∀ value, rest (.settled value) = .done value)
    (covers : ∀ word ∈ attempt loop ref left, word ∈ language)
    (resumes : ∀ conflict next steps, MetConflict shows loop ref left conflict steps →
      (rest (.stale conflict next)).Always LogLine.tellsChange fun result lines asked =>
        ∃ others, Went excuse shows language report result
          (steps.flatMap Step.lines ++ lines) (steps.map Step.toAsked ++ asked) (steps ++ others)) :
    Takes excuse shows (program.bind rest) language report := by
  rw [Takes, Program.always_bind]
  refine Program.Always.mono taken ?_
  rintro result lines asked ⟨steps, rfl, rfl, ended⟩
  cases ended with
  | failed begins ended =>
      obtain ⟨more, word⟩ := begins
      exact ⟨steps, .failed rfl rfl ⟨more, covers _ word⟩ ended⟩
  | settled word passed reported =>
      simp only [settles]
      exact ⟨steps, .returned (by simp) (by simp) passed (covers steps word) reported⟩
  | @stale conflict next met =>
      refine Program.Always.mono (resumes conflict next steps met) ?_
      rintro result lines asked ⟨others, went⟩
      exact ⟨steps ++ others, went⟩

/-- A loop takes the steps of its tries. -/
theorem takes_retryFrom {budget : Budget} {attempt : σ → Program (Attempt σ α)}
    (flawed : budget.flaw ≠ none → excuse)
    (trying : ∀ left start, TakesTry excuse shows loop ref left report (attempt start))
    (left tries : Nat) (delay : Number) (start : σ) :
    Takes excuse shows (retryFrom budget attempt left tries delay start)
      (Grammar.tries loop ref left) report := by
  -- A stale try costs a pause, so the induction is on how many are left.
  induction left generalizing tries delay start with
  | zero =>
      rw [retryFrom, Program.bind_eq]
      refine (trying 0 start).bind (fun _ => rfl) (fun _ word => word)
        fun conflict next steps met => ?_
      rcases budget.check_cases tries 0 with sound | ⟨flaw, failed⟩
      · simp only [sound, Except.mapError, Program.liftM_mismatch, Program.ofExcept,
          Program.bind_eq, Program.done_bind, noteExhausted]
        rw [Program.always_bind, Program.always_note]
        refine ⟨[], .failed (by simp) (by simp [Effect.told, LogLine.tellsChange]) ?_ ?_⟩
        · simpa using .of_mem met.word
        · simpa using met.ended
      · simp only [failed, Except.mapError, Program.liftM_mismatch, Program.ofExcept,
          Program.bind_eq, Program.fail_bind]
        refine ⟨[], .failed (by simp) (by simp) ?_ (.upset (.inl (flawed flaw)))⟩
        simpa using .of_mem met.word
  | succ left ih =>
      rw [retryFrom, Program.bind_eq]
      refine (trying (left + 1) start).bind (fun _ => rfl) (fun _ word => .inl word)
        fun conflict next steps met => ?_
      rcases budget.check_cases tries (left + 1) with sound | ⟨flaw, failed⟩
      · simp only [sound, Except.mapError, Program.liftM_mismatch, Program.ofExcept,
          Program.bind_eq, Program.done_bind, noteRetry]
        rw [Program.always_draw_bind]
        intro draw
        rw [Program.always_bind, Program.always_note]
        simp only
        rw [Program.always_pause_bind]
        refine Program.Always.mono (ih (tries + 1) (delay * budget.backoff.factor) next) ?_
        rintro result lines asked ⟨others, went⟩
        refine ⟨others, ?_, ?_, went.ended.append met.passed,
          .add_right (.mul_right met.stale went.begins), fun value isOk => ?_⟩
        · rw [went.asked, List.map_append]
          rfl
        · rw [went.lines, List.flatMap_append]
          rfl
        · obtain ⟨word, reported⟩ := went.word value isOk
          refine ⟨.inr (Language.append_mem_mul met.stale word), ?_⟩
          rwa [tally_append, met.nothing, Tally.empty_add]
      · simp only [failed, Except.mapError, Program.liftM_mismatch, Program.ofExcept,
          Program.bind_eq, Program.fail_bind]
        refine ⟨[], .failed (by simp) (by simp) ?_ (.upset (.inl (flawed flaw)))⟩
        simpa using .of_mem (.inl met.word)

/-- The update of a try ends it: it is settled when it is accepted, stale when there
is a conflict, and failed otherwise. -/
def rewritten (shows : Step → StoreFault → Fault) (update : Step) (value : α) (next : σ) :
    Except Fault (Attempt σ α) :=
  match update.answer with
  | .ok _ => .ok (.settled value)
  | .error (.store refused) =>
    if refused.refusal = .conflict then .ok (.stale refused next)
    else .error (shows update refused)
  | .error other => .error other

/-- A reading and an update end a try, if the loop is as it says. -/
theorem tryEnded_rewriting {left : Nat} {reading update : Step} {value : α} {next : σ}
    (word : [reading, update] ∈ attempt loop ref left) (passes : reading.Passes)
    (absorbs : ∀ refusal, update.site.absorbs refusal = (refusal = .conflict && 0 < left))
    (shown : ∀ refused, refused.refusal = .conflict → shows update refused = .store refused)
    (nothing : ∀ fault, update.answer = .error fault → tally [reading, update] = {})
    (reported : ∀ written, update.answer = .ok written → report value (tally [reading, update])) :
    TryEnded excuse shows loop ref left report [reading, update]
      (rewritten shows update value next) := by
  have early : ∀ step ∈ [reading], step.Passes := by simpa using passes
  unfold rewritten
  cases answer : update.answer with
  | ok written =>
      refine .settled word ?_ (reported written answer)
      simpa [passes] using Step.passes_of_ok answer
  | error fault =>
      by_cases isRefusal : ∃ refused, fault = .store refused
      · obtain ⟨refused, rfl⟩ := isRefusal
        by_cases isConflict : refused.refusal = .conflict
        · simp only [isConflict, if_true]
          have hasTries : update.site.absorbs .conflict = decide (0 < left) := by simp [absorbs]
          exact .stale ⟨word, isConflict, ⟨[reading], update, rfl, early, answer, hasTries,
            shown refused isConflict⟩, nothing _ answer⟩
        · simp only [isConflict, if_false]
          refine .failed (.of_mem word) ?_
          refine @Ended.stopped _ _ _ _ [reading] update refused rfl early answer ?_
          simp [absorbs, isConflict]
      · have other := not_exists.mp isRefusal
        have irregular := Step.irregular_of_error answer other
        cases fault with
        | store refused => exact absurd rfl (other refused)
        | _ => exact .failed (.of_mem word) (.upset (.inr ⟨update, by simp, irregular⟩))

theorem tries_steps {left : Nat} {steps : List Step} (begins : Begins (tries loop ref left) steps) :
    ∀ step ∈ steps, step.ref = ref ∧
      ∃ left, step.site = loop.reads left ∨ ∃ object, step.site = loop.writes left object := by
  obtain ⟨rest, word⟩ := begins
  have all : ∀ step ∈ steps ++ rest, step.ref = ref ∧
      ∃ left, step.site = loop.reads left ∨ ∃ object, step.site = loop.writes left object := by
    refine @tries_closed (fun word => ∀ step ∈ word, step.ref = ref ∧
      ∃ left, step.site = loop.reads left ∨ ∃ object, step.site = loop.writes left object) loop ref
      ?_ ?_ left _ word
    · intro first second ofFirst ofSecond step member
      exact (List.mem_append.mp member).elim (ofFirst step) (ofSecond step)
    · rintro left word (⟨answer, rfl⟩ | ⟨object, changed, answer, -, rfl⟩) step member
      · obtain rfl := List.mem_singleton.mp member
        exact ⟨rfl, left, .inl rfl⟩
      · rcases List.mem_pair.mp member with rfl | rfl
        · exact ⟨rfl, left, .inl rfl⟩
        · exact ⟨rfl, left, .inr ⟨object, rfl⟩⟩
  exact fun step member => all step (List.mem_append_left _ member)

theorem takes_handled {β : Type} {program : Program α} {handler : Except Fault α → Program β}
    {change : α → β} {language : Language Step} {total : β → Tally → Prop}
    (taken : Takes excuse shows program language report)
    (returns : ∀ value, handler (.ok value) = .done (change value))
    (reports : ∀ value counted, report value counted → total (change value) counted)
    (fails : ∀ fault, ∃ other, handler (.error fault) = .fail other)
    (tells : ∀ steps, Begins language steps → ∀ last ∈ steps, ∀ refused,
      handler (.error (shows last refused)) = .fail (last.failure refused)) :
    Takes excuse Step.failure (program.attempt.bind handler) language total := by
  rw [Takes, Program.always_bind, Program.always_attempt]
  refine Program.Always.mono taken ?_
  rintro result lines asked ⟨steps, went⟩
  cases result with
  | ok value =>
      obtain ⟨word, reported⟩ := went.word value rfl
      simp only [returns]
      exact ⟨steps, .returned (by simp [went.asked]) (by simp [went.lines]) went.ended.passed word
        (reports _ _ reported)⟩
  | error fault =>
      obtain ⟨other, failed⟩ := fails fault
      simp only [failed]
      refine ⟨steps, .failed (by simp [went.asked]) (by simp [went.lines]) went.begins ?_⟩
      cases went.ended with
      | @stopped earlier last refused isLast passed answer fatal =>
          rw [tells steps went.begins last (by simp [isLast]) refused] at failed
          cases failed
          exact .stopped isLast passed answer fatal
      | upset blame => exact .upset blame

end Loops

end CuratorKeeper
