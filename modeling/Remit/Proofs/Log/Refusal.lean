import Remit.Proofs.Log.History

/-!
Calls that are refused. A refused call leaves the level and the foreign handlers as they were, but
by the time of the refusal the console handler is off the logger and no other has taken its place.
What it printed is lost until a call is accepted again.
-/

namespace Remit.Log

namespace Logger

/-- What is printed of a record that passes while no console handler is attached. -/
def unattended (ids : List Nat) (r : Record) : String :=
  if ids = [] then bare r else ""

section

variable {logger other : Logger} {ids : List Nat} {r : Record}

theorem join_output_foreign (r : Record) (ids : List Nat) :
    String.join (ids.map (Handler.output r ∘ Handler.foreign)) = "" := by
  induction ids with
  | nil => rfl
  | cons id rest induction =>
      rw [List.map_cons, String.join_cons, induction]
      rfl

theorem passes_congr (same : other.level = logger.level) (r : Record) :
    other.passes r = logger.passes r := by
  unfold passes threshold
  rw [same]

theorem printed_of_not_passes (blocked : logger.passes r = false) :
    logger.printed r = if isWithin r.logger then "" else bare r := by
  unfold printed
  cases within : isWithin r.logger <;> simp [blocked]

/-- Of a record that passes the console handler prints its line, and foreign handlers nothing. -/
theorem Arranged.printed_of_passes (arranged : logger.Arranged ids)
    (passes : logger.passes r = true) :
    logger.printed r = (logger.console?.map (Handler.output r)).getD (unattended ids r) := by
  obtain ⟨front, back, rfl, handlers⟩ := arranged
  have within : isWithin r.logger = true := (Bool.and_eq_true_iff.mp passes).1
  unfold printed
  simp only [within, passes, Bool.not_true, Bool.false_eq_true, if_false, handlers]
  cases console : logger.console? with
  | some handler => simp [String.join_append, join_output_foreign]
  | none => simp [unattended, String.join_append, join_output_foreign]

theorem filterMap_map_foreign {heard : Handler → Option Record}
    (each : ∀ id, heard (.foreign id) = some r) (ids : List Nat) :
    (ids.map Handler.foreign).filterMap heard = ids.map fun _ => r := by
  induction ids with
  | nil => rfl
  | cons id rest induction =>
      rw [List.map_cons, List.filterMap_cons_some (each id), induction]
      rfl

theorem Arranged.observed_eq (arranged : logger.Arranged ids) (r : Record) :
    logger.observed r = if logger.passes r then ids.map fun _ => r else [] := by
  obtain ⟨front, back, rfl, handlers⟩ := arranged
  unfold observed
  split
  · rw [handlers, List.filterMap_append, List.filterMap_append,
      filterMap_map_foreign fun _ => rfl, filterMap_map_foreign fun _ => rfl, List.map_append]
    cases console : logger.console? with
    | none => simp
    | some handler =>
        cases handler with
        | console id format => simp
        | foreign id => exact absurd console (logger.console?_ne_foreign id)
  · rfl

theorem Arranged.handlers_eq_iff (arranged : logger.Arranged ids) :
    logger.handlers = ids.map Handler.foreign ↔ logger.console? = none := by
  obtain ⟨front, back, rfl, handlers⟩ := arranged
  rw [handlers]
  cases console : logger.console? with
  | none => simp
  | some handler =>
      -- One handler too many, wherever it stands.
      refine iff_of_false (fun same => ?_) (Option.some_ne_none handler)
      have lengths := congrArg List.length same
      simp at lengths

theorem level_configure_refused {level : Level} {format : String}
    (refused : Format.accepted format = false) :
    (logger.configure level format).2.level = logger.level := by
  rw [configure_refused refused]
  unfold detachInstalled
  split <;> rfl

end

/-- A console handler is attached just if the last call was accepted. -/
theorem console?_ne_none_iff (events : List Event) :
    (after events).console? ≠ none ↔
      ∃ before level format later, events = before ++ .configure level format :: later ∧
        calls later = 0 ∧ Format.accepted format = true := by
  constructor
  · intro attached
    rcases exists_last_call events with none | ⟨before, level, format, later, rfl, none⟩
    · obtain ⟨handlers, run⟩ := exists_handlers initial none
      exact absurd (congrArg console? run) attached
    · obtain ⟨handlers, run⟩ := exists_after_call before level format none
      cases accepted : Format.accepted format with
      | true => exact ⟨before, level, format, later, rfl, none, accepted⟩
      | false =>
          rw [configure_refused accepted] at run
          exact absurd (congrArg console? run) attached
  · rintro ⟨before, level, format, later, rfl, none, accepted⟩
    obtain ⟨handlers, run⟩ := exists_after_call before level format none
    rw [configure_accepted accepted] at run
    rw [run]
    exact Option.some_ne_none _

end Logger

/-- What a refused call leaves of the logger that it was made on. -/
structure DropsConsole (events : List Event) (before after : Logger) : Prop where
  level : after.level = before.level
  handlers : after.handlers = (standing events).map .foreign
  unchanged_iff : after.handlers = before.handlers ↔ before.console? = none
  attached_iff : before.console? ≠ none ↔
    ∃ earlier level format later, events = earlier ++ .configure level format :: later ∧
      calls later = 0 ∧ Format.accepted format = true
  installed : after.installed = some ⟨calls events, none⟩
  installed_ne : after.installed ≠ before.installed
  observed : ∀ r, after.observed r = before.observed r
  printed : ∀ r, before.passes r = true →
    before.printed r = (before.console?.map (Handler.output r)).getD
      (Logger.unattended (standing events) r) ∧
    after.printed r = Logger.unattended (standing events) r
  blocked : ∀ r, before.passes r = false → after.printed r = before.printed r

end Remit.Log
