import SelectorProse.Proofs.Describer.Trimmed

/-!
Starts and ends of a walk's own, beside those that are supplied. Main statement: the description is
the same, and the log alone tells them apart.
-/

set_option autoImplicit false

namespace SelectorProse

/-- An end behind an end adds a period and nothing else. -/
theorem Describer.text_closed_closed (describer : Describer) :
    describer.closed.closed.text = describer.closed.text ++ Text.ofString "." := by
  have settled : describer.closed.text.trim = describer.closed.text :=
    Text.trim_eq_self (frontClear_closed describer) (backClear_closed describer)
  rw [closed, settled]

/-- A start in front does not make a walk end itself. -/
theorem closesItself_init_cons (events : List Event) :
    closesItself (.init :: events) = closesItself events := by
  cases events with
  | nil => rfl
  | cons event rest => rw [closesItself, List.getLast?_cons_cons, closesItself]

section

variable {config : Config} {logger : Text} {events : List Event}

/-- A fresh describer is as it was after a start. -/
theorem replay_init_cons (logger : Text) (config : Config) (events : List Event) :
    replay Describer.call logger { config } (.init :: events) =
      { replay Describer.call logger { config } events with
        log := Event.init.logged logger :: (replay Describer.call logger { config } events).log } :=
  replay_cons_of_none Describer.call logger events (Describer.call_init _)

theorem describe_init_cons (chosen : config.logger? = some logger) :
    describe config (.init :: events) =
      ⟨Event.init.logged logger :: (describe config events).log,
        (describe config events).result⟩ := by
  rw [describe_eq chosen, describe_eq chosen, replay_init_cons, closesItself_init_cons]
  dsimp only
  cases (replay Describer.call logger { config } events).fault with
  | none => rfl
  | some fault => rfl

/-- An end that is not reached makes no difference. -/
theorem describe_concat_close_of_some (chosen : config.logger? = some logger) {fault : Fault}
    (failed : (replay Describer.call logger { config } events).fault = some fault) :
    describe config (events ++ [.close]) = describe config events := by
  rw [describe_eq chosen, describe_eq chosen, replay_append_of_some _ failed]
  simp only [failed]

/-- An end that is reached is logged and closes what has been told. -/
theorem describe_concat_close_of_none (chosen : config.logger? = some logger)
    (accepted : (replay Describer.call logger { config } events).fault = none) :
    describe config (events ++ [.close]) =
      ⟨(describe config events).log ++ [Event.close.logged logger],
        .ok (replay Describer.call logger { config } events).state.closed.text⟩ := by
  have closes : closesItself (events ++ [.close]) = true := closesItself_concat events .close
  rw [describe_eq chosen, describe_eq chosen, replay_append_of_none _ accepted,
    replay_cons_of_none Describer.call logger [] (Describer.call_close _), closes]
  simp only [accepted]
  rfl

/-- What closing makes of a walk that is told to its end. -/
theorem text_closed_of_result (chosen : config.logger? = some logger)
    (accepted : (replay Describer.call logger { config } events).fault = none) {text : Text}
    (described : (describe config events).result = .ok text) :
    (replay Describer.call logger { config } events).state.closed.text =
      if closesItself events then text ++ Text.ofString "." else text := by
  rw [result_describe_of_accepted chosen accepted] at described
  obtain rfl := Except.ok.inj described
  cases closes : closesItself events with
  | false => rfl
  | true =>
    rw [(state_replay_of_closes closes accepted).2]
    exact Describer.text_closed_closed _

/-- A walk is described or it has a fault, as its replay by a fresh describer is stopped or not. -/
theorem exists_result_describe_iff (chosen : config.logger? = some logger) :
    (∃ text, (describe config events).result = .ok text) ↔
      (replay Describer.call logger { config } events).fault = none := by
  rw [describe_eq chosen]
  cases outcome : (replay Describer.call logger { config } events).fault with
  | none => simp only [outcome, Except.ok.injEq, exists_eq']
  | some fault => simp only [outcome, reduceCtorEq, exists_false]

/-- A start of its own in front of a walk changes nothing but the log, which has an entry on it. So
does an end of its own behind a walk that is described and does not end itself; behind one that does
it adds exactly a period, and behind one that is not described it is never reached. A walk is
described if no event is refused and no value in its phrases is nested too deeply. -/
theorem describe_supplies (chosen : config.logger? = some logger)
    (writable : ∀ event ∈ events, event.Writable) :
    describe config (.init :: events) =
        ⟨⟨logger, Text.ofString "dispatch init()"⟩ :: (describe config events).log,
          (describe config events).result⟩ ∧
      ((∃ text, (describe config events).result = .ok text) ↔
        ∀ event ∈ events, event.Accepted ∧
          ∀ value ∈ event.insertedValues config.isLegacy, value.nesting ≤ Value.nestingLimit) ∧
      (∀ text, (describe config events).result = .ok text →
        describe config (events ++ [.close]) =
          ⟨(describe config events).log ++ [⟨logger, Text.ofString "dispatch close()"⟩],
            .ok (if closesItself events then text ++ Text.ofString "." else text)⟩) ∧
      ∀ fault, (describe config events).result = .error fault →
        describe config (events ++ [.close]) = describe config events := by
  refine ⟨describe_init_cons chosen, ?_, ?_, ?_⟩
  · rw [exists_result_describe_iff chosen, Describer.fault_replay_eq_none_iff]
    exact forall₂_congr fun event member =>
      Event.fault?_eq_none_iff _ (writable event member)
  · intro text described
    have accepted := (exists_result_describe_iff chosen).mp ⟨text, described⟩
    rw [describe_concat_close_of_none chosen accepted,
      text_closed_of_result chosen accepted described]
    rfl
  · intro fault failed
    cases outcome : (replay Describer.call logger { config } events).fault with
    | none =>
      obtain ⟨text, described⟩ := (exists_result_describe_iff chosen).mpr outcome
      rw [failed] at described
      exact nomatch described
    | some found => exact describe_concat_close_of_some chosen outcome

end

/-- What is logged goes to the root. -/
def rootConfig : Config := { loggerName := .null }

/-- A start and an end of the walk's own around a class name that ends in a period and a blank. -/
def endedWalk : List Event := [
  .init, .nthChild (.bool true), .className (.text [.ofChar 'a', .ofChar '.', .ofNat 0x2003]),
  .close]

/-- An empty name between two starts. -/
def restartedWalk : List Event := [.init, .id (.text []), .init]

theorem describe_supplies_endedWalk :
    rootConfig.logger? = some (Text.ofString "root") ∧
      ((∀ event ∈ endedWalk, event.Writable) ∧ ∃ text,
        (describe rootConfig endedWalk).result = .ok text ∧
        (describe rootConfig (.init :: endedWalk)).result = .ok text ∧
        (describe rootConfig (endedWalk ++ [.close])).result = .ok (text ++ Text.ofString ".")) ∧
      ((∀ event ∈ restartedWalk, event.Writable) ∧
        describe rootConfig (restartedWalk ++ [.close]) = describe rootConfig restartedWalk) ∧
      describe rootConfig ([] ++ [.close]) =
        ⟨[⟨Text.ofString "root", Text.ofString "dispatch close()"⟩], .ok (Text.ofString ".")⟩ := by
  have chosen : rootConfig.logger? = some (Text.ofString "root") := rfl
  have writable : ∀ event ∈ endedWalk, event.Writable := by decide +kernel
  have restartable : ∀ event ∈ restartedWalk, event.Writable := by decide +kernel
  have described : (describe rootConfig endedWalk).result =
      .ok (Text.ofString "where the node is the Trueth child with class name a..") := rfl
  have failed : (describe rootConfig restartedWalk).result =
      .error (.event (.emptyName .id)) := rfl
  have empty : (describe rootConfig []).result = .ok (Text.ofString ".") := rfl
  obtain ⟨opened, -, ended, -⟩ := describe_supplies chosen writable
  obtain ⟨-, -, -, stopped⟩ := describe_supplies chosen restartable
  obtain ⟨-, -, alone, -⟩ := describe_supplies chosen (List.forall_mem_nil Event.Writable)
  refine ⟨chosen, ⟨writable, _, described, ?_, ?_⟩, ⟨restartable, stopped _ failed⟩,
    alone _ empty⟩
  · rw [opened]
    exact described
  · rw [ended _ described]
    rfl

end SelectorProse
