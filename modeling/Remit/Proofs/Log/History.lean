import Mathlib.Data.List.Induction
import Remit.Log.Logger

/-!
Histories of the logger: it is configured over and over, and handlers of others come and go in
between. At every point it has those of the others that still stand, and among them the console
handler of the last call if that call was accepted.
-/

namespace Remit.Log

inductive Event where
  | configure (level : Level) (format : String)
  | attach (id : Nat)
  | detach (id : Nat)
deriving DecidableEq

def Event.isCall : Event → Bool
  | configure _ _ => true
  | attach _ => false
  | detach _ => false

def calls (events : List Event) : Nat :=
  events.countP Event.isCall

/-- The foreign handlers that stay attached, in order. An attachment stands unless a later event
undoes it, and a handler that is attached again while it stands keeps its place. -/
def standing : List Event → List Nat
  | [] => []
  | .configure _ _ :: later => standing later
  | .detach _ :: later => standing later
  | .attach id :: later =>
      if .detach id ∈ later then standing later else id :: (standing later).filter (· ≠ id)

section

variable {events : List Event}

theorem standing_append_configure (events : List Event) (level : Level) (format : String) :
    standing (events ++ [.configure level format]) = standing events := by
  induction events with
  | nil => rfl
  | cons event later induction =>
      cases event with
      | configure _ _ => exact induction
      | detach _ => exact induction
      | attach id =>
          have undone : Event.detach id ∈ later ++ [.configure level format] ↔
              Event.detach id ∈ later := by simp
          simp only [List.cons_append, standing, undone, induction]

theorem standing_append_attach (events : List Event) (id : Nat) :
    standing (events ++ [.attach id]) =
      if id ∈ standing events then standing events else standing events ++ [id] := by
  induction events with
  | nil => rfl
  | cons event later induction =>
      cases event with
      | configure _ _ => exact induction
      | detach _ => exact induction
      | attach other =>
          have undone : Event.detach other ∈ later ++ [.attach id] ↔
              Event.detach other ∈ later := by simp
          simp only [List.cons_append, standing, undone, induction]
          by_cases gone : Event.detach other ∈ later
          · simp only [if_pos gone]
          · simp only [if_neg gone, List.mem_cons, List.mem_filter]
            -- `id` is the handler at the head, or stands in the rest, or goes to the end.
            by_cases same : id = other
            · subst same
              split <;> simp [List.filter_append]
            · by_cases standsAlready : id ∈ standing later
              · simp [same, standsAlready]
              · simp [same, standsAlready, List.filter_append]

theorem standing_append_detach (events : List Event) (id : Nat) :
    standing (events ++ [.detach id]) = (standing events).filter (· ≠ id) := by
  induction events with
  | nil => rfl
  | cons event later induction =>
      cases event with
      | configure _ _ => exact induction
      | detach _ => exact induction
      | attach other =>
          have undone : Event.detach other ∈ later ++ [.detach id] ↔
              Event.detach other ∈ later ∨ other = id := by simp
          simp only [List.cons_append, standing, undone, induction]
          by_cases gone : Event.detach other ∈ later
          · simp only [gone, true_or, if_true]
          · by_cases same : other = id
            · subst same
              simp [gone]
            · simp [gone, same, List.filter_filter, Bool.and_comm]

theorem calls_append (before later : List Event) :
    calls (before ++ later) = calls before + calls later :=
  List.countP_append

theorem exists_last_call (events : List Event) :
    calls events = 0 ∨ ∃ before level format later,
      events = before ++ .configure level format :: later ∧ calls later = 0 := by
  induction events with
  | nil => exact .inl rfl
  | cons event rest induction =>
      rcases induction with none | ⟨before, level, format, later, rfl, none⟩
      · cases event with
        | configure level format => exact .inr ⟨[], level, format, rest, rfl, none⟩
        | attach _ => exact .inl none
        | detach _ => exact .inl none
      · exact .inr ⟨event :: before, level, format, later, rfl, none⟩

theorem mem_standing_iff {id : Nat} :
    id ∈ standing events ↔
      ∃ before later, events = before ++ .attach id :: later ∧ Event.detach id ∉ later := by
  induction events with
  | nil => simp [standing]
  | cons event rest induction =>
      have headOrRest : (∃ before later, event :: rest = before ++ .attach id :: later ∧
            Event.detach id ∉ later) ↔
          (event = .attach id ∧ Event.detach id ∉ rest) ∨ id ∈ standing rest := by
        rw [induction]
        constructor
        · rintro ⟨before, later, split, kept⟩
          cases before with
          | nil =>
              cases split
              exact .inl ⟨rfl, kept⟩
          | cons _ before =>
              cases split
              exact .inr ⟨before, later, rfl, kept⟩
        · rintro (⟨rfl, kept⟩ | ⟨before, later, rfl, kept⟩)
          · exact ⟨[], rest, rfl, kept⟩
          · exact ⟨event :: before, later, rfl, kept⟩
      rw [headOrRest]
      cases event with
      | configure _ _ => simp [standing]
      | detach _ => simp [standing]
      | attach other =>
          simp only [standing, Event.attach.injEq]
          by_cases gone : Event.detach other ∈ rest
          · rw [if_pos gone]
            constructor
            · exact .inr
            · rintro (⟨rfl, kept⟩ | stands)
              · exact absurd gone kept
              · exact stands
          · rw [if_neg gone, List.mem_cons, List.mem_filter]
            by_cases same : id = other
            · subst same
              simp [gone]
            · simp [same, Ne.symm same]

theorem nodup_standing (events : List Event) : (standing events).Nodup := by
  induction events with
  | nil => exact List.nodup_nil
  | cons event later induction =>
      cases event with
      | configure _ _ => exact induction
      | detach _ => exact induction
      | attach id =>
          unfold standing
          split
          · exact induction
          · exact List.nodup_cons.mpr ⟨by simp, induction.filter _⟩

end

namespace Logger

def step (logger : Logger) : Event → Logger
  | .configure level format => (logger.configure level format).2
  | .attach id => logger.attachForeign id
  | .detach id => logger.detachForeign id

def after (events : List Event) : Logger :=
  events.foldl step initial

/-- The console handler that is attached, if the installed one ever got a format. -/
def console? (logger : Logger) : Option Handler :=
  logger.installed.bind fun installed => installed.format.map (.console installed.id)

/-- These foreign handlers in their order, and the console handler somewhere among them. -/
def Arranged (logger : Logger) (ids : List Nat) : Prop :=
  ∃ front back, ids = front ++ back ∧
    logger.handlers = front.map .foreign ++ logger.console?.toList ++ back.map .foreign

theorem configure_accepted {logger : Logger} {level : Level} {format : String}
    (accepted : Format.accepted format = true) :
    logger.configure level format =
      (.ok (), {
        level := level.severity
        handlers := logger.detachInstalled.handlers ++
          [.console logger.made (Format.effective format)]
        installed := some ⟨logger.made, some (Format.effective format)⟩
        made := logger.made + 1 }) :=
  if_pos accepted

theorem configure_refused {logger : Logger} {level : Level} {format : String}
    (refused : Format.accepted format = false) :
    logger.configure level format =
      (.error (.noField format), { logger.detachInstalled with
        installed := some ⟨logger.made, none⟩
        made := logger.made + 1 }) := by
  unfold configure
  rw [refused]
  rfl

theorem console?_ne_foreign (logger : Logger) (id : Nat) :
    logger.console? ≠ some (.foreign id) := by
  intro found
  obtain ⟨installed, -, found⟩ := Option.bind_eq_some_iff.mp found
  obtain ⟨format, -, found⟩ := Option.map_eq_some_iff.mp found
  cases found

/-- Taking off the installed handler takes off the console handler that is attached. -/
theorem filter_console? {logger : Logger} {installed : Installed}
    (found : logger.installed = some installed) :
    (logger.console?.toList.filter fun h => !h.isConsole installed.id) = [] := by
  unfold console?
  rw [found, Option.bind_some]
  cases installed.format with
  | none => rfl
  | some format => simp [Handler.isConsole]

namespace Arranged

variable {logger : Logger} {ids : List Nat}

theorem mem_handlers_iff (arranged : logger.Arranged ids) {id : Nat} :
    .foreign id ∈ logger.handlers ↔ id ∈ ids := by
  obtain ⟨front, back, rfl, handlers⟩ := arranged
  have notConsole := logger.console?_ne_foreign id
  simp [handlers, notConsole]

theorem handlers_detachInstalled (arranged : logger.Arranged ids) :
    logger.detachInstalled.handlers = ids.map Handler.foreign := by
  obtain ⟨front, back, rfl, handlers⟩ := arranged
  unfold detachInstalled
  cases found : logger.installed with
  | none => simp [handlers, console?, found]
  | some installed =>
      have foreign (ids : List Nat) :
          (ids.map Handler.foreign).filter (fun h => !h.isConsole installed.id) =
            ids.map Handler.foreign :=
        List.filter_eq_self.mpr (by simp [Handler.isConsole])
      simp only [handlers, List.filter_append, foreign, filter_console? found, List.append_nil,
        List.map_append]

theorem configure (arranged : logger.Arranged ids) (level : Level) (format : String) :
    (logger.configure level format).2.Arranged ids := by
  have detached := arranged.handlers_detachInstalled
  refine ⟨ids, [], (List.append_nil ids).symm, ?_⟩
  cases accepted : Format.accepted format with
  | true => simp [configure_accepted accepted, detached, console?]
  | false => simp [configure_refused accepted, detached, console?]

theorem attachForeign (arranged : logger.Arranged ids) (id : Nat) :
    (logger.attachForeign id).Arranged (if id ∈ ids then ids else ids ++ [id]) := by
  unfold Logger.attachForeign
  by_cases member : .foreign id ∈ logger.handlers
  · rw [if_pos member, if_pos (arranged.mem_handlers_iff.mp member)]
    exact arranged
  · rw [if_neg member, if_neg fun stands => member (arranged.mem_handlers_iff.mpr stands)]
    obtain ⟨front, back, rfl, handlers⟩ := arranged
    refine ⟨front, back ++ [id], List.append_assoc _ _ _, ?_⟩
    simp [handlers, console?]

theorem detachForeign (arranged : logger.Arranged ids) (id : Nat) :
    (logger.detachForeign id).Arranged (ids.filter (· ≠ id)) := by
  obtain ⟨front, back, rfl, handlers⟩ := arranged
  have foreign (ids : List Nat) : (ids.map Handler.foreign).filter (· ≠ .foreign id) =
      (ids.filter (· ≠ id)).map Handler.foreign := by
    rw [List.filter_map]
    exact congrArg (List.map _) (List.filter_congr fun _ _ => by simp)
  have console : logger.console?.toList.filter (· ≠ .foreign id) = logger.console?.toList := by
    refine List.filter_eq_self.mpr fun h member => decide_eq_true ?_
    rintro rfl
    exact logger.console?_ne_foreign id (Option.mem_toList.mp member)
  refine ⟨front.filter (· ≠ id), back.filter (· ≠ id), List.filter_append .., ?_⟩
  unfold Logger.detachForeign
  simp only [handlers, List.filter_append, foreign, console]
  rfl

end Arranged

section

variable {logger : Logger} {before later : List Event}

theorem Arranged.step (arranged : logger.Arranged (standing before)) (event : Event) :
    (logger.step event).Arranged (standing (before ++ [event])) := by
  cases event with
  | configure level format =>
      rw [standing_append_configure]
      exact arranged.configure level format
  | attach id =>
      rw [standing_append_attach]
      exact arranged.attachForeign id
  | detach id =>
      rw [standing_append_detach]
      exact arranged.detachForeign id

theorem after_append (before later : List Event) :
    after (before ++ later) = later.foldl step (after before) :=
  List.foldl_append

theorem arranged_after (events : List Event) : (after events).Arranged (standing events) := by
  -- A run goes on at the end of its history, so the history grows there.
  induction events using List.reverseRecOn with
  | nil => exact ⟨[], [], rfl, rfl⟩
  | append_singleton before event induction =>
      rw [after_append]
      exact induction.step event

/-- Foreign handlers come and go in the list of handlers only. -/
theorem exists_handlers (logger : Logger) (none : calls later = 0) :
    ∃ handlers, later.foldl step logger = { logger with handlers := handlers } := by
  induction later generalizing logger with
  | nil => exact ⟨logger.handlers, rfl⟩
  | cons event rest induction =>
      cases event with
      | configure level format => simp [calls, Event.isCall] at none
      | attach id =>
          obtain ⟨handlers, run⟩ := induction (logger.attachForeign id) none
          refine ⟨handlers, run.trans ?_⟩
          unfold attachForeign
          split <;> rfl
      | detach id => exact induction (logger.detachForeign id) none

theorem made_step (logger : Logger) (event : Event) :
    (logger.step event).made = logger.made + calls [event] := by
  cases event with
  | configure level format =>
      change (logger.configure level format).2.made = logger.made + 1
      cases accepted : Format.accepted format with
      | true => rw [configure_accepted accepted]
      | false => rw [configure_refused accepted]
  | attach id =>
      change (logger.attachForeign id).made = logger.made
      unfold attachForeign
      split <;> rfl
  | detach id => rfl

theorem made_after (events : List Event) : (after events).made = calls events := by
  induction events using List.reverseRecOn with
  | nil => rfl
  | append_singleton before event induction =>
      rw [after_append, calls_append, ← induction]
      exact made_step _ event

theorem installed_configure (logger : Logger) (level : Level) (format : String) :
    ∃ written, (logger.configure level format).2.installed = some ⟨logger.made, written⟩ := by
  cases accepted : Format.accepted format with
  | true => exact ⟨_, by rw [configure_accepted accepted]⟩
  | false => exact ⟨_, by rw [configure_refused accepted]⟩

/-- After a call only handlers change, until the next one. -/
theorem exists_after_call (before : List Event) (level : Level) (format : String)
    (none : calls later = 0) :
    ∃ handlers, after (before ++ .configure level format :: later) =
      { ((after before).configure level format).2 with handlers := handlers } := by
  rw [after_append]
  exact exists_handlers _ none

theorem installed_lt_calls (events : List Event) :
    ∀ installed ∈ (after events).installed, installed.id < calls events := by
  -- What is installed was made by the last call, and its number is that of the calls before.
  rcases exists_last_call events with none | ⟨before, level, format, later, rfl, none⟩
  · obtain ⟨handlers, run⟩ := exists_handlers initial none
    change ∀ installed ∈ (events.foldl step initial).installed, _
    rw [run]
    intro installed member
    cases member
  · obtain ⟨handlers, run⟩ := exists_after_call before level format none
    obtain ⟨written, last⟩ := installed_configure (after before) level format
    rw [run]
    change ∀ installed ∈ ((after before).configure level format).2.installed, _
    rw [last, made_after]
    rintro _ ⟨⟩
    simp [calls, Event.isCall]

end

end Logger

theorem Format.accepted_iff {format : String} :
    accepted format = true ↔ format = "" ∨ hasField format.toList = true := by
  by_cases empty : format = ""
  · subst empty
    decide +kernel
  · simp [accepted, effective, empty]

theorem Logger.configure_eq_ok_iff {logger : Logger} {level : Level} {format : String} :
    (logger.configure level format).1 = .ok () ↔ Format.accepted format = true := by
  cases accepted : Format.accepted format with
  | true => simp [configure_accepted accepted]
  | false => simp [configure_refused accepted]

/-- However often the logger is configured, its handlers are the foreign ones that stand and at most
one console handler. After an accepted call, that is the handler made by this call. -/
theorem configuring_never_stacks (events : List Event) :
    let logger := Logger.after events
    logger.Arranged (standing events) ∧ (standing events).Nodup ∧
    (∀ id, id ∈ standing events ↔
      ∃ before later, events = before ++ .attach id :: later ∧ Event.detach id ∉ later) ∧
    (∀ level format, (logger.configure level format).1 = .ok () ↔
      format = "" ∨ Format.hasField format.toList = true) ∧
    ∀ before level format later,
      events = before ++ .configure level format :: later → calls later = 0 →
      ((Logger.after before).configure level format).1 = .ok () →
      logger.console? = some (.console (calls before) (Format.effective format)) ∧
      logger.installed = some ⟨calls before, some (Format.effective format)⟩ ∧
      logger.level = level.severity ∧
      ∀ earlier, earlier <+: before →
        ∀ installed ∈ (Logger.after earlier).installed, installed.id < calls before := by
  intro logger
  refine ⟨Logger.arranged_after events, nodup_standing events, fun id => mem_standing_iff,
    fun level format => Logger.configure_eq_ok_iff.trans Format.accepted_iff, ?_⟩
  rintro before level format later rfl none accepted
  obtain ⟨handlers, run⟩ := Logger.exists_after_call before level format none
  rw [Logger.configure_eq_ok_iff] at accepted
  rw [Logger.configure_accepted accepted, Logger.made_after] at run
  refine ⟨?_, ?_, ?_, ?_⟩
  · exact congrArg Logger.console? run
  · exact congrArg Logger.installed run
  · exact congrArg Logger.level run
  · intro earlier front installed member
    exact Nat.lt_of_lt_of_le (Logger.installed_lt_calls earlier installed member)
      (front.sublist.countP_le)

/-- A refused call in between, and foreign handlers that come and go around the calls. -/
theorem configuring_never_stacks_past_refusal :
    let before : List Event :=
      [.attach 7, .configure .debug "%(message)s", .attach 8, .configure .error "plain"]
    let later : List Event := [.detach 7, .attach 9, .attach 8]
    let events := before ++ .configure .warning "" :: later
    let logger := Logger.after events
    calls later = 0 ∧ ((Logger.after before).configure .warning "").1 = .ok () ∧
      (Logger.after before).handlers = [.foreign 7, .foreign 8] ∧
      logger.Arranged [8, 9] ∧
      logger.handlers = [.foreign 8, .console 2 "%(message)s", .foreign 9] ∧
      logger.console? = some (.console 2 "%(message)s") ∧
      logger.installed = some ⟨2, some "%(message)s"⟩ ∧ logger.level = 30 := by
  intro before later events logger
  obtain ⟨arranged, -, -, -, last⟩ := configuring_never_stacks events
  have none : calls later = 0 := rfl
  have accepted : ((Logger.after before).configure .warning "").1 = .ok () := by decide +kernel
  obtain ⟨console, installed, level, -⟩ := last before .warning "" later rfl none accepted
  exact ⟨none, accepted, by decide +kernel, arranged, by decide +kernel, console, installed, level⟩

end Remit.Log
